import QueryFilter.Application
import QueryFilter.Condition
import QueryFilter.Proofs.Outcome

/-! What a specification adds to a query of conditions: at most one condition, whatever stands in
the query already, and nothing when it fails. A run over several specifications therefore adds what
each adds alone, up to the first that fails. -/

namespace QueryFilter

open Building Traced

namespace Building

variable {Q R α β : Type}

def mapQuery (g : Q → R) (x : Building Q α) : Building R α :=
  ⟨x.lines, g x.query, x.result⟩

theorem mapQuery_andThen_of {g : Q → R} {x : Building Q α} {f : α → Q → Building Q β}
    {f' : α → R → Building R β} (h : ∀ a, f' a (g x.query) = (f a x.query).mapQuery g) :
    (x.mapQuery g).andThen f' = (x.andThen f).mapQuery g := by
  cases hx : x.result with
  | error e =>
    rw [andThen_of_error f hx, andThen_of_error f' (x := x.mapQuery g) hx]
    rfl
  | ok a =>
    rw [andThen_of_ok f hx, andThen_of_ok f' (x := x.mapQuery g) hx]
    simp only [mapQuery, h]

theorem mapQuery_andThen {g : Q → R} {x : Building Q α} {f : α → Q → Building Q β}
    {f' : α → R → Building R β} (h : ∀ a q, f' a (g q) = (f a q).mapQuery g) :
    (x.mapQuery g).andThen f' = (x.andThen f).mapQuery g :=
  mapQuery_andThen_of fun a => h a x.query

theorem aside_andThen_mapQuery {g : Q → R} {q : Q} {x : Traced α} {f : α → Q → Building Q β}
    {f' : α → R → Building R β} (h : ∀ a q, f' a (g q) = (f a q).mapQuery g) :
    (aside (g q) x).andThen f' = ((aside q x).andThen f).mapQuery g :=
  mapQuery_andThen (x := aside q x) h

end Building

namespace ConditionQuery

def recordAll (q : ConditionQuery) (cs : List Condition) : ConditionQuery :=
  { q with nodes := q.nodes ++ cs }

/-- The query before anything was recorded. -/
def cleared (q : ConditionQuery) : ConditionQuery :=
  { q with nodes := [] }

/-- The query with conditions in front of its own. -/
def onTop (cs : List Condition) (q : ConditionQuery) : ConditionQuery :=
  { q with nodes := cs ++ q.nodes }

/-- How one specification may end: the query that it leaves, and its answer. -/
inductive Yields (q : ConditionQuery) : ConditionQuery → Except Fault Bool → Prop
  | added (c : Condition) : Yields q (q.record c) (.ok true)
  | dropped : Yields q q (.ok false)
  | failed (e : Fault) : Yields q q (.error e)

theorem record_ne (q : ConditionQuery) (c : Condition) : q.record c ≠ q := by
  intro h
  have hlen := congrArg (fun q : ConditionQuery => q.nodes.length) h
  simp [record] at hlen

/-- A specification has become a predicate just when it has changed the query. -/
theorem Yields.ne_iff {q q' : ConditionQuery} {result : Except Fault Bool}
    (h : Yields q q' result) : q' ≠ q ↔ result = .ok true := by
  cases h with
  | added c => simp [record_ne]
  | dropped => simp
  | failed e => simp

theorem recordAll_nil (q : ConditionQuery) : q.recordAll [] = q := by
  simp [recordAll]

theorem recordAll_append (q : ConditionQuery) (cs ds : List Condition) :
    (q.recordAll cs).recordAll ds = q.recordAll (cs ++ ds) := by
  simp [recordAll]

theorem cleared_recordAll (q : ConditionQuery) (cs : List Condition) :
    (q.recordAll cs).cleared = q.cleared := rfl

theorem add_eq (q : ConditionQuery) (p : Predicate) :
    q.add p = (recordedOperand p.test p.operand).bind fun operand =>
      if p.column.isHashable then .ok (q.record (.leaf { p with operand }))
      else .error .wrongKind := by
  unfold add
  cases recordedOperand p.test p.operand with
  | error e => rfl
  | ok operand => cases p.column.isHashable <;> rfl

theorem adding_eq (q : ConditionQuery) (p : Predicate) :
    adding q p = match q.add p with
      | .ok q' => ⟨[], q', .ok true⟩
      | .error e => ⟨[], q, .error e⟩ := by
  cases h : q.add p with
  | error e => exact adding_of_error (by rw [← h]; rfl)
  | ok q' => exact adding_of_ok (by rw [← h]; rfl)

theorem adding_recorded {column raw operand : Value} {test : Test}
    (hc : column.isHashable = true) (h : recordedOperand test raw = .ok operand)
    (q : ConditionQuery) : adding q ⟨column, test, raw⟩ =
      ⟨[], q.record (.leaf ⟨column, test, operand⟩), .ok true⟩ := by
  simp [adding_eq, add_eq, h, Except.bind, hc]

theorem adding_unhashable {column raw operand : Value} {test : Test}
    (hc : column.isHashable = false) (h : recordedOperand test raw = .ok operand)
    (q : ConditionQuery) : adding q ⟨column, test, raw⟩ = ⟨[], q, .error .wrongKind⟩ := by
  simp [adding_eq, add_eq, h, Except.bind, hc]

theorem scope_eq_some {q sub : ConditionQuery} {relation : String} :
    q.scope relation = .ok (some sub) ↔ ∃ v table, q.related? relation = .ok (some v) ∧
      subjectTable q.catalog v = .ok table ∧ sub = ⟨q.catalog, q.settings, v, table, []⟩ := by
  unfold scope
  cases h : q.related? relation with
  | error e => simp [bind, Except.bind]
  | ok found =>
    cases found with
    | none => simp [bind, Except.bind, pure, Except.pure]
    | some v =>
      cases ht : subjectTable q.catalog v with
      | error e => simp [bind, Except.bind, start, Except.map, ht]
      | ok table => simp [bind, Except.bind, start, Except.map, ht, eq_comm]

theorem attach_record {q sub : ConditionQuery} (relation : String) (c : Condition)
    (h : sub.nodes = []) : q.attach relation (sub.record c) = q.record (.has relation [c]) := by
  simp [attach, record, h]

theorem attach_of_nodes_eq_nil {q sub : ConditionQuery} (relation : String)
    (h : sub.nodes = []) : q.attach relation sub = q := by
  simp [attach, h]

theorem onTop_cleared (q : ConditionQuery) : q.cleared.onTop q.nodes = q := by
  simp [cleared, onTop]

theorem onTop_record (cs : List Condition) (q : ConditionQuery) (c : Condition) :
    (q.onTop cs).record c = (q.record c).onTop cs := by
  simp [onTop, record]

theorem attach_onTop (cs : List Condition) (q sub : ConditionQuery) (relation : String) :
    (q.onTop cs).attach relation sub = (q.attach relation sub).onTop cs := by
  unfold attach
  split
  · rfl
  · exact onTop_record cs q _

theorem yields_takingUp {q sub : ConditionQuery} {asked : Building ConditionQuery Bool}
    (relation : String) (hs : sub.nodes = []) (h : Yields sub asked.query asked.result) :
    Yields q (takingUp q relation asked).query (takingUp q relation asked).result := by
  obtain ⟨lines, inner, result⟩ := asked
  cases h with
  | added c =>
    rw [takingUp_of_ok relation rfl]
    show Yields q (q.attach relation (sub.record c)) _
    rw [attach_record relation c hs]
    exact .added _
  | dropped =>
    rw [takingUp_of_ok relation rfl]
    show Yields q (q.attach relation _) _
    rw [attach_of_nodes_eq_nil relation hs]
    exact .dropped
  | failed e =>
    rw [takingUp_of_error relation rfl]
    exact .failed e

theorem takingUp_onTop (cs : List Condition) (q : ConditionQuery) (relation : String)
    (asked : Building ConditionQuery Bool) :
    takingUp (q.onTop cs) relation asked = (takingUp q relation asked).mapQuery (onTop cs) := by
  cases h : asked.result with
  | error e =>
    rw [takingUp_of_error relation h, takingUp_of_error relation h]
    rfl
  | ok b =>
    rw [takingUp_of_ok relation h, takingUp_of_ok relation h]
    simp only [mapQuery, Backend.attach, attach_onTop]

/-- A step that adds at most one condition, whatever stands in the query already. -/
structure Contributes (step : ConditionQuery → Building ConditionQuery Bool) : Prop where
  yields : ∀ q, Yields q (step q).query (step q).result
  framed : ∀ cs q, step (q.onTop cs) = (step q).mapQuery (onTop cs)

namespace Contributes

theorem dropping {x : Traced Bool} (h : x.result ≠ .ok true) : Contributes fun q => aside q x where
  yields q := by
    rw [aside_query, aside_result]
    cases hx : x.result with
    | error e => exact .failed e
    | ok b =>
      cases b with
      | false => exact .dropped
      | true => exact absurd hx h
  framed _ _ := rfl

theorem nothing : Contributes (done false) where
  yields _ := .dropped
  framed _ _ := rfl

theorem adding (p : Predicate) : Contributes fun q => Building.adding q p where
  yields q := by
    rw [adding_eq, add_eq]
    cases recordedOperand p.test p.operand with
    | error e => exact .failed e
    | ok operand =>
      cases p.column.isHashable with
      | false => exact .failed _
      | true => exact .added _
  framed cs q := by
    rw [adding_eq, adding_eq, add_eq, add_eq]
    cases recordedOperand p.test p.operand with
    | error e => rfl
    | ok operand =>
      cases p.column.isHashable with
      | false => rfl
      | true => simp [Except.bind, mapQuery, onTop_record]

theorem after {α : Type} {x : ConditionQuery → Traced α}
    {f : α → ConditionQuery → Building ConditionQuery Bool} (hx : ∀ cs q, x (q.onTop cs) = x q)
    (hf : ∀ a, Contributes (f a)) : Contributes fun q => (aside q (x q)).andThen f where
  yields q := by
    cases h : (x q).result with
    | error e =>
      rw [andThen_of_error (x := aside q (x q)) f h]
      exact .failed e
    | ok a =>
      rw [andThen_of_ok (x := aside q (x q)) f h]
      exact (hf a).yields q
  framed cs q := by
    rw [hx]
    exact aside_andThen_mapQuery fun a q => (hf a).framed cs q

theorem noted {step : ConditionQuery → Building ConditionQuery Bool} {note : Bool → Traced Bool}
    (h : Contributes step) (hn : ∀ b, (note b).result = .ok b) :
    Contributes fun q => (step q).andThen fun b q => aside q (note b) where
  yields q := by
    have hy := h.yields q
    cases hr : (step q).result with
    | error e =>
      rw [andThen_of_error _ hr]
      rwa [hr] at hy
    | ok b =>
      rw [andThen_of_ok _ hr, aside_query, aside_result, hn]
      rwa [hr] at hy
  framed cs q := by
    rw [h.framed]
    exact mapQuery_andThen fun _ _ => rfl

theorem behind {relation : String} {ask : ConditionQuery → Building ConditionQuery Bool}
    (h : ∀ sub, Yields sub (ask sub).query (ask sub).result) :
    Contributes fun q => Building.behind q relation ask where
  yields q := by
    show Yields q ((aside q (Backend.scope q relation)).andThen _).query
      ((aside q (Backend.scope q relation)).andThen _).result
    cases hs : q.scope relation with
    | error e =>
      rw [andThen_of_error (x := aside q (Backend.scope q relation)) _ hs]
      exact .failed e
    | ok found =>
      rw [andThen_of_ok (x := aside q (Backend.scope q relation)) _ hs]
      cases found with
      | none => exact .dropped
      | some sub =>
        obtain ⟨v, table, _, _, hsub⟩ := scope_eq_some.mp hs
        exact yields_takingUp relation (by rw [hsub]) (h sub)
  framed cs q := by
    refine aside_andThen_mapQuery fun found q => ?_
    cases found with
    | none => rfl
    | some sub => exact takingUp_onTop cs q relation _

end Contributes

theorem contributes_dispatch (rule : Calendar.WeekRule) (format : Value) (config : FilterConfig)
    (operator column v : Value) :
    Contributes (dispatch rule format config operator column v) := by
  unfold dispatch
  cases Operator.ofValue? operator with
  | none =>
    cases config.strict with
    | true => exact .dropping nofun
    | false => exact .dropping nofun
  | some o =>
    refine .after (fun _ _ => rfl) fun asked => ?_
    cases asked with
    | none => exact .nothing
    | some a => exact .adding _

end ConditionQuery

namespace Scope

open ConditionQuery

theorem contributes_applyPredicate (x : Scope) (config : FilterConfig) (spec : FilterSpec)
    (column : String) : Contributes (x.applyPredicate config spec column) := by
  refine .after (fun _ _ => rfl) fun v => ?_
  exact (contributes_dispatch _ _ _ _ _ v).noted fun _ => announce_result ..

theorem contributes_applyLocal (x : Scope) (config : FilterConfig) (spec : FilterSpec)
    (field : String) : Contributes (x.applyLocal config spec field) := by
  refine .after (fun _ _ => rfl) fun fields => ?_
  cases fields.has field with
  | false =>
    refine .dropping ?_
    cases x.entityName <;> nofun
  | true => exact .after (fun _ _ => rfl) fun table => x.contributes_applyPredicate config spec _

theorem contributes_applyFallback (x : Scope) (config : FilterConfig) (spec : FilterSpec)
    (parts : List String) : Contributes (x.applyFallback config spec parts) := by
  unfold applyFallback
  split
  · exact .after (fun _ _ => rfl) fun table => x.contributes_applyPredicate config spec _
  · exact .dropping nofun

theorem contributes_applyPath (x : Scope) (config : FilterConfig) (spec : FilterSpec)
    (parts : List String) : Contributes (x.applyPath config spec parts) := by
  induction parts generalizing x config with
  | nil => exact .nothing
  | cons name parts ih =>
    cases parts with
    | nil => exact x.contributes_applyLocal config spec name
    | cons next rest =>
      refine .after (fun _ _ => rfl) fun first => ?_
      cases first with
      | none => exact .dropping nofun
      | some r =>
        by_cases hd : depthFor config r ≤ 0
        · simp only [hd, if_true]
          exact .dropping nofun
        · simp only [hd, if_false]
          refine .behind fun sub => ?_
          split
          · exact (ih _ _).yields sub
          · exact (contributes_applyFallback _ _ spec _).yields sub

/-- One specification adds one condition and says so, or it leaves the query as it was, and what
stands in the query already plays no part in it. -/
theorem contributes_applySingle (x : Scope) (config : FilterConfig) (spec : FilterSpec) :
    Contributes (x.applySingle config spec) := by
  unfold applySingle
  by_cases he : spec.isEmpty = true
  · simp only [he, if_true]
    exact .nothing
  · by_cases hp : (spec.isPath && config.deep) = true
    · simp only [he, hp, if_true]
      exact x.contributes_applyPath config spec _
    · simp only [he, hp]
      exact x.contributes_applyLocal config spec _

/-- The conditions that a specification adds on its own. -/
def contribution (x : Scope) (config : FilterConfig) (q : ConditionQuery) (spec : FilterSpec) :
    List Condition :=
  (x.applySingle config spec q.cleared).query.nodes

def Succeeds (x : Scope) (config : FilterConfig) (q : ConditionQuery) (spec : FilterSpec) : Prop :=
  ∃ b, (x.applySingle config spec q.cleared).result = .ok b

theorem applySingle_eq (x : Scope) (config : FilterConfig) (spec : FilterSpec)
    (q : ConditionQuery) :
    x.applySingle config spec q =
      (x.applySingle config spec q.cleared).mapQuery (onTop q.nodes) := by
  have h := (x.contributes_applySingle config spec).framed q.nodes q.cleared
  rwa [onTop_cleared] at h

theorem result_applySingle (x : Scope) (config : FilterConfig) (spec : FilterSpec)
    (q : ConditionQuery) :
    (x.applySingle config spec q).result = (x.applySingle config spec q.cleared).result := by
  rw [applySingle_eq]
  rfl

theorem query_applySingle (x : Scope) (config : FilterConfig) (spec : FilterSpec)
    (q : ConditionQuery) :
    (x.applySingle config spec q).query = q.recordAll (x.contribution config q spec) := by
  rw [applySingle_eq]
  have hy := (x.contributes_applySingle config spec).yields q.cleared
  unfold contribution
  revert hy
  generalize x.applySingle config spec q.cleared = b
  intro hy
  obtain ⟨lines, query, result⟩ := b
  cases hy with
  | added c => rfl
  | dropped => rfl
  | failed e => rfl

theorem contribution_of_error {x : Scope} {config : FilterConfig} {spec : FilterSpec}
    {q : ConditionQuery} {e : Fault} (h : (x.applySingle config spec q).result = .error e) :
    x.contribution config q spec = [] := by
  rw [result_applySingle] at h
  have hy := (x.contributes_applySingle config spec).yields q.cleared
  rw [h] at hy
  unfold contribution
  generalize (x.applySingle config spec q.cleared).query = r at hy
  cases hy with
  | failed e => rfl

theorem contribution_ne_nil_iff {x : Scope} {config : FilterConfig} {spec : FilterSpec}
    {q : ConditionQuery} : x.contribution config q spec ≠ [] ↔
      (x.applySingle config spec q.cleared).result = .ok true := by
  have hy := (x.contributes_applySingle config spec).yields q.cleared
  unfold contribution
  generalize x.applySingle config spec q.cleared = b at hy ⊢
  obtain ⟨lines, query, result⟩ := b
  cases hy with
  | added c => simp
  | dropped => simp
  | failed e => simp

theorem applyFilters_cons_eq_error {x : Scope} {config : FilterConfig} {spec : FilterSpec}
    {specs : List FilterSpec} {q : ConditionQuery} {e : Fault} :
    (x.applyFilters config (spec :: specs) q).result = .error e ↔
      (x.applySingle config spec q).result = .error e ∨
      (∃ b, (x.applySingle config spec q).result = .ok b) ∧
        (x.applyFilters config specs (x.applySingle config spec q).query).result = .error e := by
  rw [applyFilters, andThen_eq_error]
  simp only [andThen_eq_error, done_result, reduceCtorEq, and_false, exists_false, or_false,
    exists_and_right]

/-- A run that ends adds what each specification adds on its own. -/
theorem query_applyFilters_of_ok {x : Scope} {config : FilterConfig} {specs : List FilterSpec}
    {q : ConditionQuery} {n : Nat} (h : (x.applyFilters config specs q).result = .ok n) :
    (x.applyFilters config specs q).query =
      q.recordAll (specs.flatMap (x.contribution config q)) := by
  induction specs generalizing q n with
  | nil => exact (recordAll_nil q).symm
  | cons spec specs ih =>
    rw [applyFilters, andThen_eq_ok] at h
    obtain ⟨b, hb, h⟩ := h
    obtain ⟨m, hm, _⟩ := andThen_eq_ok.mp h
    rw [applyFilters, andThen_of_ok _ hb, andThen_of_ok _ hm]
    show (x.applyFilters config specs (x.applySingle config spec q).query).query = _
    rw [ih hm, query_applySingle, recordAll_append, List.flatMap_cons]
    rfl

/-- A run over specifications that stops with a fault at one of them. Those before it end on their
own and have added what they add on their own. -/
structure StopsAt (x : Scope) (config : FilterConfig) (q : ConditionQuery)
    (specs : List FilterSpec) (e : Fault) (left : ConditionQuery) (before : List FilterSpec)
    (spec : FilterSpec) (after : List FilterSpec) : Prop where
  order : specs = before ++ spec :: after
  succeeded : ∀ s ∈ before, x.Succeeds config q s
  failed : (x.applySingle config spec q.cleared).result = .error e
  query : left = q.recordAll (before.flatMap (x.contribution config q))

theorem applyFilters_of_error {x : Scope} {config : FilterConfig} {specs : List FilterSpec}
    {q : ConditionQuery} {e : Fault} (h : (x.applyFilters config specs q).result = .error e) :
    ∃ before spec after,
      x.StopsAt config q specs e (x.applyFilters config specs q).query before spec after := by
  induction specs generalizing q with
  | nil => cases h
  | cons spec specs ih =>
    rcases applyFilters_cons_eq_error.mp h with he | ⟨⟨b, hb⟩, h⟩
    · refine ⟨[], spec, specs, rfl, nofun, by rw [← result_applySingle, he], ?_⟩
      rw [applyFilters, andThen_of_error _ he]
      show (x.applySingle config spec q).query = _
      rw [query_applySingle, contribution_of_error he, List.flatMap_nil]
    · obtain ⟨before, s, after, hs⟩ := ih h
      have hbefore := hs.succeeded
      have hquery := hs.query
      simp only [query_applySingle] at hbefore hquery
      refine ⟨spec :: before, s, after, by rw [hs.order, List.cons_append], ?_, ?_, ?_⟩
      · intro s' hs'
        rcases List.mem_cons.mp hs' with rfl | hs'
        · exact ⟨b, by rw [← result_applySingle, hb]⟩
        · exact hbefore s' hs'
      · have hfail := hs.failed
        rwa [query_applySingle, cleared_recordAll] at hfail
      · rw [applyFilters, andThen_of_ok _ hb, andThen_of_error (e := e) _ h]
        show (x.applyFilters config specs (x.applySingle config spec q).query).query = _
        rw [query_applySingle, hquery, recordAll_append, List.flatMap_cons]
        rfl

/-- However a run ends, it has added what a first part of the specifications adds. -/
theorem query_applyFilters (x : Scope) (config : FilterConfig) (specs : List FilterSpec)
    (q : ConditionQuery) : ∃ ended, ended <+: specs ∧
      (x.applyFilters config specs q).query =
        q.recordAll (ended.flatMap (x.contribution config q)) ∧
      ∀ n, (x.applyFilters config specs q).result = .ok n → ended = specs := by
  cases h : (x.applyFilters config specs q).result with
  | ok n => exact ⟨specs, List.prefix_rfl, query_applyFilters_of_ok h, fun _ _ => rfl⟩
  | error e =>
    obtain ⟨before, spec, after, hs⟩ := applyFilters_of_error h
    exact ⟨before, ⟨spec :: after, hs.order.symm⟩, hs.query, nofun⟩

end Scope

end QueryFilter
