import QueryFilter.Proofs.Derived
import QueryFilter.Proofs.Lines
import QueryFilter.Proofs.Path

/-! Filters on a select statement. A filter that is counted has become a criterion only if its path
leads to a column of the table that it reaches; otherwise the statement is left alone. -/

namespace QueryFilter

open Building Traced

namespace Catalog

/-- Whether a qualified name means a column of a table. -/
def holds (c : Catalog) (table qualified : String) : Bool :=
  let (owner, name) := Text.tableColumn qualified
  decide (owner = "" ∨ owner = table) && (c.columns table).contains name

/-- Whether the links of an entity lead along a path to a column. -/
def reaches (c : Catalog) (e : Entity) : List String → Bool
  | [] => false
  | [column] => c.holds (e.table.getD "") (Column.qualify (e.table.getD "") column)
  | name :: next :: rest =>
    ((Link.targetIn? e.links name).bind fun l => c.entity? l.target).any fun e =>
      c.reaches e (next :: rest)

theorem name_of_entity? {c : Catalog} {name : String} {e : Entity} (h : c.entity? name = some e) :
    e.name = name := by
  simpa using List.find?_some h

end Catalog

theorem Entity.table_of_requiredTable {e : Entity} {table : String}
    (h : e.requiredTable = .ok table) : e.table.getD "" = table := by
  unfold requiredTable at h
  split at h
  · rename_i hsome
    cases h
    rw [hsome]
    rfl
  · cases h

/-- A specification that a field equals a text. -/
def FilterSpec.equals (field value : String) : FilterSpec :=
  { field, value := .text value }

/-- The path that a specification asks for. -/
def FilterSpec.asked (config : FilterConfig) (spec : FilterSpec) : List String :=
  if spec.isPath && config.deep then pathParts spec.field else [spec.field]

namespace Scope

/-- A scope whose declarations are those of an entity. -/
structure IsOf (x : Scope) (e : Entity) : Prop where
  subject : x.subject = .entity e.name
  known : x.catalog.entity? e.name = some e

variable {x : Scope} {e : Entity} {table : String}

theorem IsOf.filterable? (h : x.IsOf e) :
    x.catalog.filterable? x.subject = (some e).filter (·.filterable) := by
  rw [Catalog.filterable?, h.subject, Catalog.subject?]
  exact congrArg _ h.known

theorem IsOf.table_eq (h : x.IsOf e) (ht : x.table = .ok table) : table = e.table.getD "" := by
  obtain ⟨e', he, ht⟩ := Outcome.bind_eq_ok.mp ht
  rw [Catalog.filterableEntity_eq_ok, h.filterable?, Option.filter_eq_some_iff] at he
  cases he.1
  exact (Entity.table_of_requiredTable ht).symm

theorem isOf_beyond {name : String} (h : x.catalog.entity? name = some e) :
    (x.beyond (.entity e.name)).IsOf e :=
  ⟨rfl, by rw [Catalog.name_of_entity? h]; exact h⟩

end Scope

theorem Building.adding_eq_ok {Q : Type} [Backend Q] {q : Q} {p : Predicate} {b : Bool}
    (h : (adding q p).result = .ok b) :
    b = true ∧ (Backend.add q p).result = .ok (adding q p).query := by
  cases hadd : Backend.add q p with
  | mk lines result =>
    cases result with
    | error e =>
      rw [adding_of_error hadd] at h
      cases h
    | ok q' =>
      rw [adding_of_ok hadd] at h ⊢
      cases h
      exact ⟨rfl, rfl⟩

namespace SelectQuery

variable {q sub : SelectQuery} {reached : Bool} {column relation : String}

def recordAll (q : SelectQuery) (cs : List Criterion) : SelectQuery :=
  { q with criteria := q.criteria ++ cs }

/-- How one specification may end: the query that it leaves, and its answer. -/
inductive Lands (reached : Bool) (q : SelectQuery) : SelectQuery → Except Fault Bool → Prop
  | recorded (c : Criterion) (h : reached = true) : Lands reached q (q.record c) (.ok true)
  | missed (h : reached = false) : Lands reached q q (.ok true)
  | refused : Lands reached q q (.ok false)
  | failed (e : Fault) : Lands reached q q (.error e)

/-- The statement after a run that counts `n` specifications: a criterion has been added for those
of them whose path leads to a column. -/
def Counted (config : FilterConfig) (specs : List FilterSpec) (n : Nat) (q left : SelectQuery) :
    Prop :=
  ∃ (told : List FilterSpec) (added : List Criterion), told.Sublist specs ∧ told.length = n ∧
    left = q.recordAll added ∧
    added.length = told.countP fun spec => q.catalog.reaches q.entity (spec.asked config)

theorem result_column? (q : SelectQuery) (s : String) : (q.column? (.text s)).result =
    .ok (if q.catalog.holds q.table s then some (Text.tableColumn s).2 else none) := by
  unfold column?
  rw [bind_ok (a := s) _ rfl]
  dsimp only
  by_cases howner : (Text.tableColumn s).1 ≠ "" ∧ (Text.tableColumn s).1 ≠ q.table
  · have hholds : q.catalog.holds q.table s = false := by
      simp [Catalog.holds, howner]
    rw [if_pos howner, hholds]
    rfl
  · have howner' : (Text.tableColumn s).1 = "" ∨ (Text.tableColumn s).1 = q.table := by
      by_contra h
      exact howner (not_or.mp h)
    have hholds : q.catalog.holds q.table s =
        (q.catalog.columns q.table).contains (Text.tableColumn s).2 := by
      simp [Catalog.holds, howner']
    rw [if_neg howner, hholds]
    cases (q.catalog.columns q.table).contains (Text.tableColumn s).2 <;> rfl

theorem result_add (q : SelectQuery) (s : String) (test : Test) (v : Value) :
    (q.add ⟨.text s, test, v⟩).result = (precheck test v).bind fun _ =>
      if q.catalog.holds q.table s then (q.recordedOperands test v).map fun operands =>
        q.record (.column q.table (Text.tableColumn s).2 test operands)
      else .ok q := by
  unfold add
  cases hpre : precheck test v with
  | error e =>
    rw [bind_error (e := e) _ rfl]
    rfl
  | ok _ =>
    rw [bind_ok (a := ()) _ rfl, bind_ok _ (q.result_column? s)]
    dsimp only [Except.bind]
    cases q.catalog.holds q.table s with
    | false => rfl
    | true =>
      simp only [if_true]
      cases q.recordedOperands test v <;> rfl

theorem lands_adding (q : SelectQuery) (column : String) (test : Test) (v : Value) :
    Lands (q.catalog.holds q.table column) q (adding q ⟨.text column, test, v⟩).query
      (adding q ⟨.text column, test, v⟩).result := by
  have hresult := q.result_add column test v
  cases hadd : q.add ⟨.text column, test, v⟩ with
  | mk lines result =>
    rw [hadd] at hresult
    dsimp only at hresult
    cases result with
    | error e =>
      rw [adding_of_error hadd]
      exact .failed e
    | ok q' =>
      rw [adding_of_ok hadd]
      obtain ⟨_, _, h⟩ := Outcome.bind_eq_ok.mp hresult.symm
      cases hholds : q.catalog.holds q.table column with
      | false =>
        rw [hholds] at h
        cases h
        exact .missed rfl
      | true =>
        rw [hholds] at h
        obtain ⟨operands, _, rfl⟩ := Outcome.map_eq_ok.mp h
        exact .recorded _ rfl

namespace Lands

variable {α : Type} {t : Traced α} {f : α → SelectQuery → Building SelectQuery Bool}

theorem nothing : Lands reached q (done false q).query (done false q).result :=
  .refused

theorem dropping {t : Traced Bool} (h : t.result ≠ .ok true) :
    Lands reached q (aside q t).query (aside q t).result := by
  rw [aside_query, aside_result]
  cases ht : t.result with
  | error e => exact .failed e
  | ok b =>
    cases b with
    | false => exact .refused
    | true => exact absurd ht h

theorem after (h : ∀ a, t.result = .ok a → Lands reached q (f a q).query (f a q).result) :
    Lands reached q ((aside q t).andThen f).query ((aside q t).andThen f).result := by
  cases ht : t.result with
  | error e =>
    rw [andThen_of_error (x := aside q t) f ht]
    exact .failed e
  | ok a =>
    rw [andThen_of_ok (x := aside q t) f ht]
    exact h a ht

theorem noted {b : Building SelectQuery Bool} {note : Bool → Traced Bool}
    (h : Lands reached q b.query b.result) (hn : ∀ applied, (note applied).result = .ok applied) :
    Lands reached q (b.andThen fun applied q => aside q (note applied)).query
      (b.andThen fun applied q => aside q (note applied)).result := by
  cases hr : b.result with
  | error e =>
    rw [andThen_of_error _ hr]
    rwa [hr] at h
  | ok applied =>
    rw [andThen_of_ok _ hr, aside_query, aside_result, hn]
    rwa [hr] at h

/-- What was asked of an empty statement behind a link stands, once it is taken up, as one
criterion if there was any. -/
theorem takingUp {asked : Building SelectQuery Bool} {l : Link} (hl : q.link? relation = some l)
    (hs : sub.criteria = []) (h : Lands reached sub asked.query asked.result) :
    Lands reached q (Building.takingUp q relation asked).query
      (Building.takingUp q relation asked).result := by
  have hempty : q.attach relation sub = q := by
    simp [attach, hl, hs]
  obtain ⟨lines, inner, result⟩ := asked
  cases h with
  | recorded c hreached =>
    rw [takingUp_of_ok relation rfl]
    show Lands reached q (q.attach relation (sub.record c)) _
    simp only [attach, hl, record, hs, List.nil_append, List.isEmpty_cons, Bool.false_eq_true,
      if_false]
    exact .recorded _ hreached
  | missed hreached =>
    rw [takingUp_of_ok relation rfl]
    show Lands reached q (q.attach relation _) _
    rw [hempty]
    exact .missed hreached
  | refused =>
    rw [takingUp_of_ok relation rfl]
    show Lands reached q (q.attach relation _) _
    rw [hempty]
    exact .refused
  | failed e =>
    rw [takingUp_of_error relation rfl]
    exact .failed e

end Lands

theorem lands_dispatch (q : SelectQuery) (rule : Calendar.WeekRule) (config : FilterConfig)
    (format operator v : Value) (column : String) : Lands (q.catalog.holds q.table column) q
      (dispatch rule format config operator (.text column) v q).query
      (dispatch rule format config operator (.text column) v q).result := by
  unfold dispatch
  cases Operator.ofValue? operator with
  | none =>
    cases config.strict with
    | true => exact .dropping (fun h => by cases h)
    | false => exact .dropping (fun h => by cases h)
  | some o =>
    refine .after fun asked _ => ?_
    cases asked with
    | none => exact .nothing
    | some asked => exact lands_adding q column asked.1 asked.2

theorem scope_eq_some : (Backend.scope q relation).result = .ok (some sub) ↔
    ∃ l e, q.link? relation = some l ∧ q.catalog.entity? l.target = some e ∧
      sub = start q.catalog e := by
  show (q.scope relation).result = _ ↔ _
  unfold scope
  cases hl : q.link? relation with
  | none => simp [bind, Traced.bind, log, pure, Traced.pure]
  | some l =>
    cases he : q.catalog.entity? l.target with
    | none => simp [he, bind, Traced.bind, log, pure, Traced.pure]
    | some e => simp [he, pure, Traced.pure, eq_comm]

end SelectQuery

namespace Scope

open SelectQuery

variable {x : Scope} {config : FilterConfig} {spec : FilterSpec} {q : SelectQuery} {e : Entity}

theorem lands_applyPredicate (x : Scope) (config : FilterConfig) (spec : FilterSpec)
    (column : String) (q : SelectQuery) : Lands (q.catalog.holds q.table column) q
      (x.applyPredicate config spec column q).query
      (x.applyPredicate config spec column q).result := by
  refine .after fun v _ => ?_
  exact (q.lands_dispatch _ config _ _ v column).noted fun _ => announce_result ..

theorem lands_applyLocal (hx : x.IsOf q.entity) (field : String) :
    Lands (q.catalog.reaches q.entity [field]) q (x.applyLocal config spec field q).query
      (x.applyLocal config spec field q).result := by
  refine .after fun fields _ => ?_
  cases fields.has field with
  | false =>
    refine .dropping ?_
    cases x.entityName <;> exact fun h => by cases h
  | true =>
    refine .after fun table htable => ?_
    have hlands := x.lands_applyPredicate config spec (Column.qualify table field) q
    rwa [hx.table_eq htable] at hlands ⊢

theorem lands_applyFallback (x : Scope) (config : FilterConfig) (spec : FilterSpec)
    (parts : List String) (q : SelectQuery) :
    Lands (q.catalog.reaches q.entity parts) q (x.applyFallback config spec parts q).query
      (x.applyFallback config spec parts q).result := by
  unfold applyFallback
  split
  · refine .after fun table htable => ?_
    cases htable
    exact x.lands_applyPredicate config spec (Column.qualify q.table _) q
  · exact .dropping (fun h => by cases h)

theorem lands_behind {name : String} {ask : SelectQuery → Building SelectQuery Bool}
    {reached : Bool}
    (h : ∀ l e, q.link? name = some l → q.catalog.entity? l.target = some e →
      Lands reached (start q.catalog e) (ask (start q.catalog e)).query
        (ask (start q.catalog e)).result) :
    Lands reached q (behind q name ask).query (behind q name ask).result := by
  refine .after fun found hfound => ?_
  cases found with
  | none => exact .nothing
  | some sub =>
    obtain ⟨l, e, hl, he, rfl⟩ := scope_eq_some.mp hfound
    exact .takingUp hl rfl (h l e hl he)

theorem lands_applyPath (hx : x.IsOf q.entity) (hc : q.catalog = x.catalog) (parts : List String) :
    Lands (q.catalog.reaches q.entity parts) q (x.applyPath config spec parts q).query
      (x.applyPath config spec parts q).result := by
  -- The links that are followed are those of the statements, whatever the declarations say.
  induction parts generalizing x config q with
  | nil => exact .nothing
  | cons name parts ih =>
    cases parts with
    | nil => exact lands_applyLocal hx name
    | cons next rest =>
      refine .after fun first _ => ?_
      cases first with
      | none => exact .dropping (fun h => by cases h)
      | some r =>
        dsimp only
        split
        · exact .dropping (fun h => by cases h)
        · refine lands_behind fun l e hl he => ?_
          have hreaches : q.catalog.reaches q.entity (name :: next :: rest) =
              q.catalog.reaches e (next :: rest) := by
            have hlink : Catalog.Link.targetIn? q.entity.links name = some l := hl
            simp [Catalog.reaches, hlink, he]
          have hbeyond : (x.beyond (.entity e.name)).IsOf e := isOf_beyond (hc ▸ he)
          rw [hreaches]
          split
          · exact ih (q := start q.catalog e) hbeyond hc
          · exact lands_applyFallback _ _ spec _ (start q.catalog e)

/-- One specification adds one criterion if it is told to be a predicate and its path leads to a
column; otherwise the statement is left alone, whatever is told. -/
theorem lands_applySingle (hx : x.IsOf q.entity) (hc : q.catalog = x.catalog)
    (config : FilterConfig) (spec : FilterSpec) :
    Lands (q.catalog.reaches q.entity (spec.asked config)) q (x.applySingle config spec q).query
      (x.applySingle config spec q).result := by
  unfold applySingle
  by_cases he : spec.isEmpty = true
  · rw [if_pos he]
    exact .nothing
  · rw [if_neg he]
    unfold FilterSpec.asked
    by_cases hp : (spec.isPath && config.deep) = true
    · rw [if_pos hp, if_pos hp]
      exact lands_applyPath hx hc _
    · rw [if_neg hp, if_neg hp]
      exact lands_applyLocal hx _

theorem counted_applyFilters {specs : List FilterSpec} {n : Nat} (hx : x.IsOf q.entity)
    (hc : q.catalog = x.catalog) (h : (x.applyFilters config specs q).result = .ok n) :
    Counted config specs n q (x.applyFilters config specs q).query := by
  induction specs generalizing q n with
  | nil =>
    cases h
    exact ⟨[], [], .slnil, rfl, by simp [applyFilters, done, recordAll], rfl⟩
  | cons spec specs ih =>
    obtain ⟨b, hb, h⟩ := andThen_eq_ok.mp h
    obtain ⟨m, hm, h⟩ := andThen_eq_ok.mp h
    cases h
    have hlands := lands_applySingle hx hc config spec
    rw [hb] at hlands
    rw [applyFilters, andThen_of_ok _ hb, andThen_of_ok _ hm]
    show Counted config (spec :: specs) _ q
      (x.applyFilters config specs (x.applySingle config spec q).query).query
    generalize (x.applySingle config spec q).query = left at hlands hm ⊢
    cases hlands with
    | recorded c hreached =>
      -- The longer statement is over the same entity, so paths lead from it as before.
      obtain ⟨told, added, hsub, hlength, hquery, hcount⟩ := ih (q := q.record c) hx hc hm
      refine ⟨spec :: told, c :: added, hsub.cons_cons spec, ?_, ?_, ?_⟩
      · rw [List.length_cons, hlength, Nat.add_comm]
        rfl
      · rw [hquery]
        simp [recordAll, record]
      · rw [List.length_cons, hcount, List.countP_cons, if_pos hreached]
        rfl
    | missed hreached =>
      obtain ⟨told, added, hsub, hlength, hquery, hcount⟩ := ih hx hc hm
      refine ⟨spec :: told, added, hsub.cons_cons spec, ?_, hquery, ?_⟩
      · rw [List.length_cons, hlength, Nat.add_comm]
        rfl
      · rw [hcount, List.countP_cons, if_neg (by simp [hreached])]
        rfl
    | refused =>
      obtain ⟨told, added, hsub, hlength, hquery, hcount⟩ := ih hx hc hm
      exact ⟨told, added, hsub.cons spec, by rw [hlength]; simp, hquery, hcount⟩

/-- What the answers of the compiler mean for a select statement. One criterion is added just when
the answer is yes and the path leads to a column, the number that a run gives is that of the
answers, and the last line of a call reports that number. -/
theorem answers_select (hx : x.IsOf q.entity) (hc : q.catalog = x.catalog) :
    (∀ config spec b, (x.applySingle config spec q).result = .ok b →
      ((∃ c, (x.applySingle config spec q).query = q.record c) ↔
        b = true ∧ q.catalog.reaches q.entity (spec.asked config) = true) ∧
      ((x.applySingle config spec q).query = q ↔
        b = false ∨ q.catalog.reaches q.entity (spec.asked config) = false)) ∧
    (∀ config specs n, (x.applyFilters config specs q).result = .ok n →
      Counted config specs n q (x.applyFilters config specs q).query) ∧
    ∀ filters options source specs config n,
      (x.prepare filters options source).result = .ok (some (specs, config)) →
      (x.applyFilters config specs q).result = .ok n →
      (x.apply filters options source q).query = (x.applyFilters config specs q).query ∧
      ∃ before, (x.apply filters options source q).lines =
        before ++ [closing n specs.length q.entity.name config] := by
  refine ⟨fun config spec b hb => ?_, fun config specs n hn => counted_applyFilters hx hc hn,
    fun filters options source specs config n hprepare hrun => ?_⟩
  · have hlands := lands_applySingle hx hc config spec
    rw [hb] at hlands
    generalize (x.applySingle config spec q).query = left at hlands ⊢
    have hne : ∀ c, q.record c ≠ q := by
      intro c h
      have hlength := congrArg (fun q : SelectQuery => q.criteria.length) h
      simp [record] at hlength
    cases hlands with
    | recorded c hreached => simp [hreached, hne]
    | missed hreached => simp [hreached, (hne _).symm]
    | refused => simp [(hne _).symm]
  · obtain ⟨_, before, hlines, _⟩ := lines_apply hx.subject hprepare hrun
    exact ⟨query_apply_of_prepared hprepare q, before, hlines⟩

theorem applyPredicate_equals {Q : Type} [Backend Q] (x : Scope) (config : FilterConfig)
    (field value column : String) (q : Q) :
    x.applyPredicate config (.equals field value) column q =
      (adding q ⟨.text column, .compare .eq, .text value⟩).andThen fun applied q =>
        aside q (x.announce (.equals field value) column (.text value) applied) := by
  have ht : (FilterSpec.equals field value).typeTag = some .string :=
    FieldType.parse?_symbol .string
  have ho : (FilterSpec.equals field value).operatorTag = some .eq := Operator.parse?_symbol .eq
  refine applyPredicate_of_test ?_ ho rfl column q
  rw [ht, ho]
  rfl

theorem applyFilters_pair {Q : Type} [Backend Q] {q left : Q} {s t : FilterSpec}
    (hs : (x.applySingle config s q).result = .ok true ∧ (x.applySingle config s q).query = left)
    (ht : (x.applySingle config t left).result = .ok true) :
    (x.applyFilters config [s, t] q).result = .ok 2 ∧
      (x.applyFilters config [s, t] q).query = (x.applySingle config t left).query := by
  obtain ⟨hs, rfl⟩ := hs
  rw [applyFilters, andThen_of_ok _ hs, applyFilters_singleton, andThen_of_ok _ ht]
  exact ⟨rfl, rfl⟩

/-- Posts of which a field is declared that is no column. -/
def drafts : Scope where
  catalog := {
    tables := [("posts", [("id", "integer"), ("title", "varchar")])]
    entities := [{
      name := "Post", table := some "posts"
      fields := some (.dict [("title", .field "title" .string .eq),
        ("phantom", .field "phantom" .string .eq)]) }] }
  settings := {}
  subject := .entity "Post"

def allDrafts : SelectQuery :=
  .start drafts.catalog {
    name := "Post", table := some "posts"
    fields := some (.dict [("title", .field "title" .string .eq),
      ("phantom", .field "phantom" .string .eq)]) }

def titleFilter : FilterSpec :=
  .equals "title" "x"

def phantomFilter : FilterSpec :=
  .equals "phantom" "x"

theorem drafts_title : (drafts.applySingle {} titleFilter allDrafts).result = .ok true ∧
    (drafts.applySingle {} titleFilter allDrafts).query =
      allDrafts.record (.column "posts" "title" (.compare .eq) [.text "x"]) := by
  have hrun : drafts.applySingle {} titleFilter allDrafts =
      drafts.applyPredicate {} titleFilter "posts.title" allDrafts := rfl
  rw [hrun, titleFilter, applyPredicate_equals]
  exact ⟨rfl, rfl⟩

theorem drafts_phantom (cs : List Criterion) :
    (drafts.applySingle {} phantomFilter (allDrafts.recordAll cs)).result = .ok true ∧
    (drafts.applySingle {} phantomFilter (allDrafts.recordAll cs)).query =
      allDrafts.recordAll cs := by
  have hrun : drafts.applySingle {} phantomFilter (allDrafts.recordAll cs) =
      drafts.applyPredicate {} phantomFilter "posts.phantom" (allDrafts.recordAll cs) :=
    rfl
  rw [hrun, phantomFilter, applyPredicate_equals]
  exact ⟨rfl, rfl⟩

theorem drafts_counted :
    (drafts.applyFilters {} [titleFilter, phantomFilter] allDrafts).result = .ok 2 ∧
    (drafts.applyFilters {} [titleFilter, phantomFilter]
      allDrafts).query.criteria.length = 1 := by
  have hrun : (drafts.applyFilters {} [titleFilter, phantomFilter]
      allDrafts).result = .ok 2 := (applyFilters_pair drafts_title (drafts_phantom [_]).1).1
  have hx : drafts.IsOf allDrafts.entity := ⟨rfl, rfl⟩
  obtain ⟨told, added, hsub, hlength, hquery, hcount⟩ := (answers_select hx rfl).2.1 _ _ _ hrun
  rw [hsub.eq_of_length hlength] at hcount
  rw [hquery]
  exact ⟨hrun, hcount⟩

theorem drafts_missed :
    (drafts.applySingle {} phantomFilter allDrafts).result = .ok true ∧
      (drafts.applySingle {} phantomFilter allDrafts).query.criteria.length =
        allDrafts.criteria.length :=
  ⟨(drafts_phantom []).1, congrArg (·.criteria.length) (drafts_phantom []).2⟩

end Scope

end QueryFilter
