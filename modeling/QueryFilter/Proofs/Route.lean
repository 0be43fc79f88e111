import QueryFilter.Proofs.Call
import QueryFilter.Proofs.Contribution
import QueryFilter.Proofs.Derived
import QueryFilter.Proofs.Path
import QueryFilter.Proofs.Unrefused

/-! Dotted filters: the relations that a path follows, the depth that they leave, and the one
nested condition that comes of a path that passes every check. -/

namespace QueryFilter

open Building Traced

namespace Scope

/-- A relation that may be followed towards the next part of a path, and what it leads to. -/
structure Leads (x : Scope) (name next : String) (r : RelationDescriptor) (w : Value) : Prop where
  filterable : x.catalog.isFilterable x.subject = true
  declared : ∃ rs, x.relations = .ok rs ∧ rs.get? name = some r
  allowed : r.allowed = [] ∨ next ∈ r.allowed
  related : x.catalog.relatedFor x.subject r = .ok (some w)

/-- The relations that names follow one after another towards a column, and where they end. -/
inductive Route : Scope → List String → String → List RelationDescriptor → Scope → Prop
  | arrived (x : Scope) (column : String) : Route x [] column [] x
  | follow {x y : Scope} {name column : String} {names : List String} {r : RelationDescriptor}
      {rs : List RelationDescriptor} {w : Value} (h : x.Leads name (names.headD column) r w)
      (hs : Route (x.beyond w) names column rs y) : Route x (name :: names) column (r :: rs) y

/-- Without declarations any column may be asked for. -/
def Offers (x : Scope) (column : String) : Prop :=
  x.catalog.isFilterable x.subject = true →
    ∃ fields, x.fields = .ok fields ∧ fields.has column = true

/-- A path that passes every check. The relation at a place has to admit itself and the relations
behind it. -/
structure Admitted (x : Scope) (config : FilterConfig) (names : List String) (column : String)
    (rs : List RelationDescriptor) (y : Scope) : Prop where
  route : x.Route names column rs y
  named : column ≠ ""
  offered : y.Offers column
  depth : names.length ≤ config.maxDepth
  hops : ∀ j (h : j < rs.length), ((rs.length - j : Nat) : Int) ≤ rs[j].maxDepth

/-- The test and operand that the operator of a specification makes of its value, once that has
the form of its type. -/
def Accepts (x : Scope) (config : FilterConfig) (spec : FilterSpec) (test : Test)
    (operand : Value) : Prop :=
  ∃ v o raw,
    coerce spec.typeTag spec.operatorTag (.text x.settings.arrayDelimiter) spec.value = .ok v ∧
    spec.operatorTag = some o ∧
    o.test? x.weekRule (.text x.dateFormat) config.caseSensitive v = .ok (some (test, raw)) ∧
    ConditionQuery.recordedOperand test raw = .ok operand

/-- The depth that each relation finds left for it. -/
def Fits (depth : Int) : List RelationDescriptor → Prop
  | [] => True
  | r :: rs => 0 < min depth r.maxDepth ∧ Fits (min depth r.maxDepth - 1) rs

theorem fits_iff {depth : Int} {rs : List RelationDescriptor} (hd : 0 ≤ depth) :
    Fits depth rs ↔ rs.length ≤ depth ∧
      ∀ j (h : j < rs.length), ((rs.length - j : Nat) : Int) ≤ rs[j].maxDepth := by
  induction rs generalizing depth with
  | nil => simp [Fits, hd]
  | cons r rs ih =>
    simp only [Fits, List.length_cons]
    constructor
    · rintro ⟨hpos, hfits⟩
      obtain ⟨hlen, hhops⟩ := (ih (by omega)).mp hfits
      refine ⟨by omega, fun j hj => ?_⟩
      cases j with
      | zero =>
        simp only [List.getElem_cons_zero]
        omega
      | succ j =>
        have hh := hhops j (by omega)
        simp only [List.getElem_cons_succ]
        omega
    · rintro ⟨hlen, hhops⟩
      have hfirst := hhops 0 (by omega)
      simp only [List.getElem_cons_zero] at hfirst
      refine ⟨by omega, (ih (by omega)).mpr ⟨by omega, fun j hj => ?_⟩⟩
      have hh := hhops (j + 1) (by omega)
      simp only [List.getElem_cons_succ] at hh
      omega

variable {x y : Scope} {config : FilterConfig} {spec : FilterSpec} {q : ConditionQuery}
  {name next column : String} {names rest : List String} {r : RelationDescriptor}
  {rs : List RelationDescriptor} {w : Value}

theorem Route.length_eq (h : x.Route names column rs y) : rs.length = names.length := by
  induction h with
  | arrived => rfl
  | follow _ _ ih => simp [ih]

theorem Leads.unique {r' : RelationDescriptor} {w' : Value} (h : x.Leads name next r w)
    (h' : x.Leads name next r' w') : r' = r ∧ w' = w := by
  obtain ⟨rs, hrs, hr⟩ := h.declared
  obtain ⟨rs', hrs', hr'⟩ := h'.declared
  rw [hrs] at hrs'
  cases hrs'
  rw [hr] at hr'
  cases hr'
  have hw := h.related.symm.trans h'.related
  simp only [Except.ok.injEq, Option.some.injEq] at hw
  exact ⟨rfl, hw.symm⟩

theorem admitted_iff : x.Admitted config names column rs y ↔
    x.Route names column rs y ∧ column ≠ "" ∧ y.Offers column ∧ Fits config.maxDepth rs := by
  constructor
  · intro h
    have hlen : (rs.length : Int) ≤ config.maxDepth := by
      rw [h.route.length_eq]
      exact_mod_cast h.depth
    exact ⟨h.route, h.named, h.offered, (fits_iff (by omega)).mpr ⟨hlen, h.hops⟩⟩
  · rintro ⟨hroute, hnamed, hoffered, hfits⟩
    obtain ⟨hlen, hhops⟩ := (fits_iff (by omega)).mp hfits
    rw [hroute.length_eq] at hlen
    exact ⟨hroute, hnamed, hoffered, by exact_mod_cast hlen, hhops⟩

structure Opened (q : ConditionQuery) (x : Scope) : Prop extends q.Over x where
  table : ConditionQuery.subjectTable x.catalog x.subject = .ok q.table
  nodes : q.nodes = []

def proceed (x : Scope) (config : FilterConfig) (spec : FilterSpec) (parts : List String)
    (q : ConditionQuery) : Building ConditionQuery Bool :=
  if x.catalog.isFilterable x.subject then x.applyPath config spec parts q
  else x.applyFallback config spec parts q

/-- A relation that may be followed to the rest of a path with the depth that is left. -/
structure Passable (x : Scope) (config : FilterConfig) (name next : String) (rest : List String)
    (r : RelationDescriptor) (w : Value) : Prop extends x.Leads name next r w where
  named : next :: rest ≠ [""]
  depth : 0 < depthFor config r

theorem firstRelation?_eq_some (hp : IsPart next)
    (h : x.firstRelation? name (next :: rest) = .ok (some r)) :
    (∃ rs, x.relations = .ok rs ∧ rs.get? name = some r) ∧ next :: rest ≠ [""] ∧
      (r.allowed = [] ∨ next ∈ r.allowed) := by
  obtain ⟨rs, hrs, h⟩ := Outcome.bind_eq_ok.mp h
  obtain ⟨hr, hcheck⟩ := Option.filter_eq_some_iff.mp (Except.ok.inj h)
  rw [Bool.and_eq_true, bne_iff_ne, allows_joinParts hp] at hcheck
  exact ⟨⟨rs, hrs, hr⟩, hcheck⟩

theorem firstRelation?_of_leads (hp : IsPart next) (hr : next :: rest ≠ [""])
    (h : x.Leads name next r w) : x.firstRelation? name (next :: rest) = .ok (some r) := by
  obtain ⟨rs, hrs, hget⟩ := h.declared
  refine Outcome.bind_eq_ok.mpr ⟨rs, hrs, congrArg _ (Option.filter_eq_some_iff.mpr ⟨hget, ?_⟩)⟩
  rw [Bool.and_eq_true, bne_iff_ne, allows_joinParts hp]
  exact ⟨hr, h.allowed⟩

theorem maxDepth_descend (config : FilterConfig) {depth : Int} (h : 0 < depth) :
    ((config.descend (some depth)).maxDepth : Int) = depth - 1 := by
  simp only [FilterConfig.descend, FilterConfig.clampDepth, Option.getD_some]
  omega

theorem behind_of_decided {ask : ConditionQuery → Building ConditionQuery Bool} (hq : q.Over x)
    {declared : Keyed RelationDescriptor} (hrs : x.relations = .ok declared)
    (hr : declared.get? name = some r) (hd : Decided (behind q name ask).result) :
    (x.catalog.relatedFor x.subject r = .ok none ∧ behind q name ask = done false q) ∨
    ∃ w sub, x.catalog.relatedFor x.subject r = .ok (some w) ∧ Opened sub (x.beyond w) ∧
      behind q name ask = takingUp q name (ask sub) := by
  obtain ⟨found, hfound, heq⟩ := hd.passed (q.unrefused_scope name)
  cases found with
  | none =>
    refine Or.inl ⟨?_, heq⟩
    obtain ⟨o, hrelated, ho⟩ := Outcome.bind_eq_ok.mp hfound
    cases o with
    | none => exact hq.relatedFor_eq hrs hr hrelated
    | some w =>
      obtain ⟨_, _, ho⟩ := Outcome.map_eq_ok.mp ho
      cases ho
  | some sub =>
    obtain ⟨w, table, hrelated, htable, hsub⟩ := ConditionQuery.scope_eq_some.mp hfound
    refine Or.inr ⟨w, sub, hq.relatedFor_eq hrs hr hrelated, ?_, heq⟩
    rw [hq.catalog] at htable
    rw [hsub]
    exact ⟨⟨hq.catalog, rfl⟩, htable, rfl⟩

theorem applyPath_hop (hq : q.Over x) (hp : IsPart next)
    (hd : Decided (x.applyPath config spec (name :: next :: rest) q).result) :
    ((x.applyPath config spec (name :: next :: rest) q).result = .ok false ∧
      ¬ ∃ r w, x.Passable config name next rest r w) ∨
    ∃ r w sub, x.Passable config name next rest r w ∧ Opened sub (x.beyond w) ∧
      x.applyPath config spec (name :: next :: rest) q = takingUp q name
        ((x.beyond w).proceed (config.descend (some (depthFor config r))) spec (next :: rest)
          sub) := by
  obtain ⟨first, hfirst, heq⟩ := hd.passed (x.unrefused_firstRelation? name (next :: rest))
  have hunique : ∀ {r w}, x.Passable config name next rest r w → first = some r := by
    intro r w h
    rw [firstRelation?_of_leads hp h.named h.toLeads] at hfirst
    exact (Except.ok.inj hfirst).symm
  rw [applyPath, heq]
  rw [applyPath, heq] at hd
  cases first with
  | none =>
    refine Or.inl ⟨rfl, ?_⟩
    rintro ⟨r, w, h⟩
    cases hunique h
  | some r =>
    obtain ⟨⟨rs, hrs, hget⟩, hnamed, hallowed⟩ := firstRelation?_eq_some hp hfirst
    obtain ⟨e, he, _⟩ := relations_eq_ok hrs
    have hf : x.catalog.isFilterable x.subject = true := Catalog.isFilterable_iff.mpr ⟨e, he⟩
    by_cases hdepth : depthFor config r ≤ 0
    · simp only [hdepth, if_true]
      refine Or.inl ⟨rfl, ?_⟩
      rintro ⟨r', w, h⟩
      cases hunique h
      exact absurd h.depth (by omega)
    · simp only [hdepth, if_false] at hd ⊢
      rcases behind_of_decided hq hrs hget hd with ⟨hnone, heq⟩ | ⟨w, sub, hw, hsub, heq⟩
      · refine Or.inl ⟨by rw [heq]; rfl, ?_⟩
        rintro ⟨r', w, h⟩
        cases hunique h
        cases hnone.symm.trans h.related
      · refine Or.inr ⟨r, w, sub, ⟨⟨hf, ⟨rs, hrs, hget⟩, hallowed, hw⟩, hnamed, by omega⟩, hsub, ?_⟩
        have hs : Backend.subject sub = w := hsub.subject
        rw [heq, hs]
        rfl

theorem result_takingUp (q : ConditionQuery) (name : String)
    (asked : Building ConditionQuery Bool) : (takingUp q name asked).result = asked.result := by
  unfold takingUp
  split <;> simp_all

theorem query_takingUp {sub : ConditionQuery} {asked : Building ConditionQuery Bool} {b : Bool}
    {c : Condition} (hs : sub.nodes = []) (hr : asked.result = .ok b)
    (hc : asked.query = sub.record c) :
    (takingUp q name asked).query = q.record (.has name [c]) := by
  rw [takingUp_of_ok name hr, hc]
  exact ConditionQuery.attach_record name c hs

theorem applyLocal_of_decided {field : String}
    (hd : Decided (x.applyLocal config spec field q).result) :
    ∃ fields, x.fields = .ok fields ∧
      ((fields.has field = false ∧ (x.applyLocal config spec field q).result = .ok false) ∨
        fields.has field = true ∧ ∃ table, x.table = .ok table ∧
          x.applyLocal config spec field q =
            x.applyPredicate config spec (Column.qualify table field) q) := by
  obtain ⟨fields, hfields, heq⟩ := hd.passed x.unrefused_fields
  refine ⟨fields, hfields, ?_⟩
  unfold applyLocal at hd ⊢
  rw [heq] at hd ⊢
  cases hc : fields.has field with
  | false =>
    simp only [hc, Bool.not_false, if_true] at hd ⊢
    refine Or.inl ⟨trivial, ?_⟩
    cases he : x.entityName with
    | ok n => rfl
    | error e =>
      rw [he] at hd
      obtain ⟨r, hr⟩ := hd e rfl
      exact absurd (he.trans (congrArg _ hr)) (x.unrefused_entityName r)
  | true =>
    simp only [hc, Bool.not_true, Bool.false_eq_true, if_false] at hd ⊢
    obtain ⟨table, htable, heq⟩ := hd.passed x.unrefused_table
    exact Or.inr ⟨trivial, table, htable, heq⟩

theorem proceed_column (hq : Opened q x) (hd : Decided (x.proceed config spec [column] q).result) :
    ¬ x.Offers column ∧ (x.proceed config spec [column] q).result = .ok false ∨
    x.Offers column ∧ x.proceed config spec [column] q =
      x.applyPredicate config spec (Column.qualify q.table column) q := by
  by_cases hf : x.catalog.isFilterable x.subject
  · simp only [proceed, hf, if_true, applyPath] at hd ⊢
    obtain ⟨fields, hfields, ⟨hc, hdropped⟩ | ⟨hc, table, htable, heq⟩⟩ := applyLocal_of_decided hd
    · refine Or.inl ⟨fun ho => ?_, hdropped⟩
      obtain ⟨fields', hfields', hc'⟩ := ho hf
      rw [hfields] at hfields'
      cases hfields'
      rw [hc] at hc'
      cases hc'
    · have ht : q.table = table := by
        obtain ⟨e, he, htable⟩ := Outcome.bind_eq_ok.mp htable
        have hs := hq.table
        rw [ConditionQuery.subjectTable, Catalog.filterableEntity_eq_ok.mp he] at hs
        exact Except.ok.inj (hs.symm.trans htable)
      exact Or.inr ⟨fun _ => ⟨fields, hfields, hc⟩, by rw [ht, heq]⟩
  · refine Or.inr ⟨fun h => absurd h hf, ?_⟩
    simp only [proceed, hf]
    rfl

theorem proceed_of_not_filterable (hf : ¬ x.catalog.isFilterable x.subject = true) (p p' : String)
    (ps : List String) (q : ConditionQuery) :
    (x.proceed config spec (p :: p' :: ps) q).result = .ok false := by
  simp only [proceed, hf]
  rfl

/-- A path that is neither dropped nor ends in a fault of its own has passed every check. -/
theorem admitted_of_applyPath (hq : q.Over x) (hp : ∀ p ∈ names ++ [column], IsPart p)
    (hd : Decided (x.applyPath config spec (name :: (names ++ [column])) q).result)
    (hne : (x.applyPath config spec (name :: (names ++ [column])) q).result ≠ .ok false) :
    ∃ rs y, x.Admitted config (name :: names) column rs y := by
  simp only [admitted_iff]
  induction names generalizing x name config q with
  | nil =>
    rcases applyPath_hop hq (hp column (by simp)) hd with
      ⟨hdropped, _⟩ | ⟨r, w, sub, hpass, hsub, heq⟩
    · exact absurd hdropped hne
    · rw [List.nil_append, heq, result_takingUp] at hd hne
      rcases proceed_column hsub hd with ⟨_, hdropped⟩ | ⟨hoffered, _⟩
      · exact absurd hdropped hne
      · exact ⟨[r], x.beyond w, .follow hpass.toLeads (.arrived _ _), by simpa using hpass.named,
          hoffered, hpass.depth, trivial⟩
  | cons name' names ih =>
    rw [List.cons_append] at hd hne
    rcases applyPath_hop hq (hp name' (by simp)) hd with
      ⟨hdropped, _⟩ | ⟨r, w, sub, hpass, hsub, heq⟩
    · exact absurd hdropped hne
    · rw [heq, result_takingUp] at hd hne
      by_cases hf : (x.beyond w).catalog.isFilterable (x.beyond w).subject = true
      · simp only [proceed, hf, if_true] at hd hne
        obtain ⟨rs, y, hroute, hnamed, hoffered, hfits⟩ :=
          ih hsub.toOver (fun p h => hp p (List.mem_cons_of_mem _ h)) hd hne
        rw [maxDepth_descend config hpass.depth] at hfits
        exact ⟨r :: rs, y, .follow hpass.toLeads hroute, hnamed, hoffered, hpass.depth, hfits⟩
      · obtain ⟨p', ps, hps⟩ : ∃ p' ps, names ++ [column] = p' :: ps := by
          cases names <;> simp
        rw [hps] at hne
        exact absurd (proceed_of_not_filterable hf name' p' ps sub) hne

/-- The condition on a column behind relations, one within another. -/
def nested : List String → Condition → Condition
  | [], c => c
  | name :: names, c => .has name [nested names c]

/-- A path that has passed every check ends as its column does, and what is asked there stands
behind all its relations. -/
theorem applyPath_of_admitted (h : x.Admitted config (name :: names) column rs y) (hq : q.Over x)
    (hp : ∀ p ∈ names ++ [column], IsPart p)
    (hd : Decided (x.applyPath config spec (name :: (names ++ [column])) q).result) :
    ∃ table, ∃ sub : ConditionQuery, ConditionQuery.subjectTable y.catalog y.subject = .ok table ∧
      (x.applyPath config spec (name :: (names ++ [column])) q).result =
        (x.applyPredicate config spec (Column.qualify table column) sub).result ∧
      ∀ b c, (x.applyPredicate config spec (Column.qualify table column) sub).result = .ok b →
        (x.applyPredicate config spec (Column.qualify table column) sub).query = sub.record c →
        (x.applyPath config spec (name :: (names ++ [column])) q).query =
          q.record (nested (name :: names) c) := by
  rw [admitted_iff] at h
  induction names generalizing x name config q rs with
  | nil =>
    obtain ⟨hroute, hnamed, hoffered, hfits⟩ := h
    cases hroute with
    | follow hleads hroute =>
      cases hroute with
      | arrived =>
        have hpass : x.Passable config name column [] _ _ :=
          ⟨hleads, by simpa using hnamed, hfits.1⟩
        rcases applyPath_hop hq (hp column (by simp)) hd with
          ⟨_, hdropped⟩ | ⟨r', w', sub, hpass', hsub, heq⟩
        · exact absurd ⟨_, _, hpass⟩ hdropped
        · obtain ⟨rfl, rfl⟩ := hleads.unique hpass'.toLeads
          rw [List.nil_append, heq, result_takingUp] at hd
          rw [List.nil_append, heq, result_takingUp]
          rcases proceed_column hsub hd with ⟨hno, _⟩ | ⟨_, hcolumn⟩
          · exact absurd hoffered hno
          · refine ⟨sub.table, sub, hsub.table, by rw [hcolumn]; rfl, fun b c hb hc => ?_⟩
            rw [hcolumn]
            exact query_takingUp hsub.nodes hb hc
  | cons name' names ih =>
    obtain ⟨hroute, hnamed, hoffered, hfits⟩ := h
    cases hroute with
    | follow hleads hroute =>
      rename_i r rs w
      have hpass : x.Passable config name name' (names ++ [column]) r w :=
        ⟨hleads, by simp, hfits.1⟩
      rw [List.cons_append] at hd
      rcases applyPath_hop hq (hp name' (by simp)) hd with
        ⟨_, hdropped⟩ | ⟨r', w', sub, hpass', hsub, heq⟩
      · exact absurd ⟨_, _, hpass⟩ hdropped
      · obtain ⟨rfl, rfl⟩ := hleads.unique hpass'.toLeads
        have hf : (x.beyond w').catalog.isFilterable (x.beyond w').subject = true := by
          cases hroute with
          | follow h _ => exact h.filterable
        rw [heq, result_takingUp] at hd
        rw [List.cons_append, heq, result_takingUp]
        simp only [proceed, hf, if_true] at hd ⊢
        have hfits' : Fits (config.descend (some (depthFor config r'))).maxDepth rs := by
          rw [maxDepth_descend config hpass.depth]
          exact hfits.2
        obtain ⟨table, sub', htable, hresult, hquery⟩ :=
          ih ⟨hroute, hnamed, hoffered, hfits'⟩ hsub.toOver
            (fun p h => hp p (List.mem_cons_of_mem _ h)) hd
        refine ⟨table, sub', htable, hresult, fun b c hb hc => ?_⟩
        exact query_takingUp hsub.nodes (hresult.trans hb) (hquery b c hb hc)

theorem applyPredicate_of_accepts (q : ConditionQuery) (column : String) {test : Test}
    {operand : Value} (h : x.Accepts config spec test operand) :
    (x.applyPredicate config spec column q).result = .ok true ∧
      (x.applyPredicate config spec column q).query =
        q.record (.leaf ⟨.text column, test, operand⟩) := by
  obtain ⟨v, o, raw, hv, ho, ht, hw⟩ := h
  have hc : (Value.text column).isHashable = true := by simp [Value.isHashable]
  rw [applyPredicate_of_test hv ho ht, ConditionQuery.adding_recorded hc hw, andThen_of_ok _ rfl]
  exact ⟨announce_result .., rfl⟩

theorem accepts_of_applyPredicate (h : (x.applyPredicate config spec column q).result = .ok true) :
    ∃ test operand, x.Accepts config spec test operand := by
  obtain ⟨v, hv, h⟩ := andThen_eq_ok.mp h
  obtain ⟨applied, hd, hnote⟩ := andThen_eq_ok.mp h
  rw [aside_result, announce_result] at hnote
  cases hnote
  unfold dispatch at hd
  cases ho : Operator.ofValue? (.text spec.operator) with
  | none =>
    rw [ho] at hd
    cases hs : config.strict <;> simp only [hs] at hd <;> cases hd
  | some o =>
    rw [ho] at hd
    obtain ⟨asked, ht, hd⟩ := andThen_eq_ok.mp hd
    cases asked with
    | none => cases hd
    | some asked =>
      obtain ⟨test, raw⟩ := asked
      simp only [ConditionQuery.adding_eq, ConditionQuery.add_eq] at hd
      cases hw : ConditionQuery.recordedOperand test raw with
      | error e =>
        rw [hw] at hd
        cases hd
      | ok operand => exact ⟨test, operand, v, o, raw, hv, ho, ht, hw⟩

theorem applySingle_eq_applyPath (hp : ∀ p ∈ name :: (names ++ [column]), IsPart p)
    (hfield : spec.field = joinParts (name :: (names ++ [column]))) (hvalue : spec.isEmpty = false)
    (hdeep : config.deep = true) : x.applySingle config spec q =
      x.applyPath config spec (name :: (names ++ [column])) q := by
  obtain ⟨p, ps, hps⟩ : ∃ p ps, names ++ [column] = p :: ps := by
    cases names <;> simp
  have hdot : spec.isPath = true := by
    rw [FilterSpec.isPath, hfield, hps]
    exact hasDot_joinParts name p ps
  have hparts : pathParts spec.field = name :: (names ++ [column]) := by
    rw [hfield]
    exact pathParts_joinParts (by simp) hp
  simp only [applySingle, hvalue, hdot, hdeep, hparts, Bool.and_self, if_true,
    Bool.false_eq_true, if_false]

/-- A path that passes every check leads to a condition on its column behind all its relations,
once its value is accepted. -/
theorem query_of_admitted (hq : q.Over x) (hne : names ≠ [])
    (hp : ∀ p ∈ names ++ [column], IsPart p) (hfield : spec.field = joinParts (names ++ [column]))
    (hvalue : spec.isEmpty = false) (hdeep : config.deep = true)
    (hd : Decided (x.applySingle config spec q).result)
    (hadm : x.Admitted config names column rs y) {test : Test} {operand : Value}
    (hacc : x.Accepts config spec test operand) :
    (x.applySingle config spec q).result = .ok true ∧
      ∃ table, ConditionQuery.subjectTable y.catalog y.subject = .ok table ∧
        (x.applySingle config spec q).query = q.record
          (nested names (.leaf ⟨.text (Column.qualify table column), test, operand⟩)) := by
  obtain ⟨name, names, rfl⟩ := List.exists_cons_of_ne_nil hne
  rw [List.cons_append] at hp hfield
  rw [applySingle_eq_applyPath hp hfield hvalue hdeep] at hd ⊢
  obtain ⟨table, sub, htable, hresult, hquery⟩ :=
    applyPath_of_admitted hadm hq (fun p h => hp p (List.mem_cons_of_mem _ h)) hd
  have hh := applyPredicate_of_accepts sub (Column.qualify table column) hacc
  exact ⟨hresult.trans hh.1, table, htable, hquery true _ hh.1 hh.2⟩

/-- A path becomes a predicate only if it passes every check and its value is accepted. -/
theorem admitted_of_eq_true (hq : q.Over x) (hne : names ≠ [])
    (hp : ∀ p ∈ names ++ [column], IsPart p) (hfield : spec.field = joinParts (names ++ [column]))
    (hvalue : spec.isEmpty = false) (hdeep : config.deep = true)
    (h : (x.applySingle config spec q).result = .ok true) :
    (∃ rs y, x.Admitted config names column rs y) ∧
      ∃ test operand, x.Accepts config spec test operand := by
  obtain ⟨name, names, rfl⟩ := List.exists_cons_of_ne_nil hne
  rw [List.cons_append] at hp hfield
  rw [applySingle_eq_applyPath hp hfield hvalue hdeep] at h
  have hp' : ∀ p ∈ names ++ [column], IsPart p := fun p h => hp p (List.mem_cons_of_mem _ h)
  have hd : Decided (x.applyPath config spec (name :: (names ++ [column])) q).result := by
    rw [h]
    exact decided_ok true
  obtain ⟨rs, y, hadm⟩ := admitted_of_applyPath hq hp' hd (by rw [h]; simp)
  obtain ⟨table, sub, _, hresult, _⟩ := applyPath_of_admitted hadm hq hp' hd
  exact ⟨⟨rs, y, hadm⟩, accepts_of_applyPredicate (hresult.symm.trans h)⟩

/-- What a dotted filter does when it ends: it adds one condition if its path passes every check
and its value is accepted, and nothing otherwise. The condition is on the column that the path
reaches, behind all its relations. -/
theorem applySingle_dotted (hq : q.Over x) (hne : names ≠ [])
    (hp : ∀ p ∈ names ++ [column], IsPart p) (hfield : spec.field = joinParts (names ++ [column]))
    (hvalue : spec.isEmpty = false) (hdeep : config.deep = true) {b : Bool}
    (hb : (x.applySingle config spec q).result = .ok b) :
    (b = true ↔ (x.applySingle config spec q).query ≠ q) ∧
    ((x.applySingle config spec q).query ≠ q ↔
      (∃ rs y, x.Admitted config names column rs y) ∧
      ∃ test operand, x.Accepts config spec test operand) ∧
    ∀ rs y test operand, x.Admitted config names column rs y →
      x.Accepts config spec test operand →
      ∃ table, ConditionQuery.subjectTable y.catalog y.subject = .ok table ∧
        (x.applySingle config spec q).query = q.record
          (nested names (.leaf ⟨.text (Column.qualify table column), test, operand⟩)) := by
  have hyields := (x.contributes_applySingle config spec).yields q
  have hd : Decided (x.applySingle config spec q).result := by
    rw [hb]
    exact decided_ok b
  refine ⟨?_, ⟨fun h => ?_, ?_⟩, fun rs y test operand hadm hacc => ?_⟩
  · rw [hyields.ne_iff, hb, Except.ok.injEq]
  · exact admitted_of_eq_true hq hne hp hfield hvalue hdeep (hyields.ne_iff.mp h)
  · rintro ⟨⟨rs, y, hadm⟩, test, operand, hacc⟩
    have hh := query_of_admitted hq hne hp hfield hvalue hdeep hd hadm hacc
    exact hyields.ne_iff.mpr hh.1
  · exact (query_of_admitted hq hne hp hfield hvalue hdeep hd hadm hacc).2

/-- Nodes of a tree, each with a parent. -/
def nodes : Scope where
  catalog := {
    tables := [("nodes", [("id", "integer"), ("name", "varchar"), ("parent_id", "integer")])]
    entities := [{
      name := "Node", table := some "nodes"
      links := [{ relation := "parent", target := "Node" }]
      relations := some (.dict [("parent", .dict [("max_depth", .int 2)])]) }] }
  settings := {}
  subject := .entity "Node"

def allNodes : ConditionQuery :=
  ⟨nodes.catalog, {}, nodes.subject, "nodes", []⟩

def grandparentFilter : FilterSpec :=
  { field := "parent.parent.name", value := .text "x" }

theorem nodes_leads (next : String) :
    nodes.Leads "parent" next ⟨"parent", [], 2, .null⟩ (.entity "Node") where
  filterable := by decide
  declared := ⟨_, rfl, rfl⟩
  allowed := Or.inl rfl
  related := rfl

theorem nodes_admitted : nodes.Admitted {} ["parent", "parent"] "name"
    [⟨"parent", [], 2, .null⟩, ⟨"parent", [], 2, .null⟩] nodes where
  route := .follow (nodes_leads _) (.follow (nodes_leads _) (.arrived nodes "name"))
  named := by decide
  offered := fun _ => ⟨_, rfl, by decide⟩
  depth := by decide
  hops := by
    intro j hj
    match j with
    | 0 => simp
    | 1 => simp

theorem grandparentFilter_accepts :
    nodes.Accepts {} grandparentFilter (.compare .eq) (.text "x") := by
  have ht : grandparentFilter.typeTag = some .string := FieldType.parse?_symbol .string
  have ho : grandparentFilter.operatorTag = some .eq := Operator.parse?_symbol .eq
  refine ⟨.text "x", .eq, .text "x", ?_, ho, rfl, rfl⟩
  rw [ht, ho]
  rfl

theorem applySingle_grandparentFilter : (nodes.applySingle {} grandparentFilter allNodes).query =
    allNodes.record (.has "parent" [.has "parent"
      [.leaf ⟨.text "nodes.name", .compare .eq, .text "x"⟩]]) := by
  have hrun : nodes.applySingle {} grandparentFilter allNodes = takingUp allNodes "parent"
      (nodes.applyPath { maxDepth := 1 } grandparentFilter ["parent", "name"] allNodes) := rfl
  have hinner : nodes.applyPath { maxDepth := 1 } grandparentFilter ["parent", "name"] allNodes =
      takingUp allNodes "parent"
        (nodes.applyPredicate { maxDepth := 0 } grandparentFilter "nodes.name" allNodes) := rfl
  have hb : (nodes.applySingle {} grandparentFilter allNodes).result = .ok true := by
    rw [hrun, result_takingUp, hinner, result_takingUp]
    exact (applyPredicate_of_accepts allNodes "nodes.name" grandparentFilter_accepts).1
  obtain ⟨table, htable, hquery⟩ := (applySingle_dotted ⟨rfl, rfl⟩ (by simp) (by decide) rfl rfl rfl
    hb).2.2 _ _ _ _ nodes_admitted grandparentFilter_accepts
  cases htable
  exact hquery

end Scope

end QueryFilter
