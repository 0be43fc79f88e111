import QueryFilter.Proofs.Objection

/-! What validating paths promises. Validation looks at the first relation of a path alone. A path
that it lets pass is dropped all the same when no depth is left for that relation, or when what
follows is dropped behind it. -/

namespace QueryFilter

namespace Scope

open Building Traced

/-- A path that is dropped at one of its relations. -/
inductive Dropped : Scope → FilterConfig → List String → Prop
  | undeclared {x : Scope} {config : FilterConfig} {name next : String} {rest : List String}
    (h : ∃ rs, x.relations = .ok rs ∧ rs.get? name = none) :
    Dropped x config (name :: next :: rest)
  | disallowed {x : Scope} {config : FilterConfig} {name next : String} {rest : List String}
    {r : RelationDescriptor} (h : x.Declares name r) (ha : ¬ (r.allowed = [] ∨ next ∈ r.allowed)) :
    Dropped x config (name :: next :: rest)
  | unnamed {x : Scope} {config : FilterConfig} {name : String} {r : RelationDescriptor}
    (h : x.Declares name r) : Dropped x config [name, ""]
  | exhausted {x : Scope} {config : FilterConfig} {name next : String} {rest : List String}
    {r : RelationDescriptor} (h : x.Declares name r) (hd : depthFor config r ≤ 0) :
    Dropped x config (name :: next :: rest)
  /-- Without declarations there are no relations to follow. -/
  | plain {x : Scope} {config : FilterConfig} {name next part : String} {rest : List String}
    {r : RelationDescriptor} {w : Value} (h : x.Passable config name next (part :: rest) r w)
    (hf : x.catalog.isFilterable w = false) : Dropped x config (name :: next :: part :: rest)
  | beyond {x : Scope} {config : FilterConfig} {name next : String} {rest : List String}
    {r : RelationDescriptor} {w : Value} (h : x.Passable config name next rest r w)
    (hs : Dropped (x.beyond w) (config.descend (some (depthFor config r))) (next :: rest)) :
    Dropped x config (name :: next :: rest)

/-- A path one of whose relations leads to no known entity, while nothing drops it before. -/
inductive Strays : Scope → FilterConfig → List String → Prop
  | nowhere {x : Scope} {config : FilterConfig} {name next : String} {rest : List String}
    {r : RelationDescriptor} (h : x.Declares name r)
    (hw : ∀ w, x.catalog.relatedFor x.subject r ≠ .ok (some w)) :
    Strays x config (name :: next :: rest)
  | beyond {x : Scope} {config : FilterConfig} {name next : String} {rest : List String}
    {r : RelationDescriptor} {w : Value} (h : x.Passable config name next rest r w)
    (hs : Strays (x.beyond w) (config.descend (some (depthFor config r))) (next :: rest)) :
    Strays x config (name :: next :: rest)

/-- Relations that lead to a column within the depth that is left for each of them. -/
def Arrives (x : Scope) (config : FilterConfig) (names : List String) (column : String) : Prop :=
  ∃ rs y, x.Route names column rs y ∧ column ≠ "" ∧ Fits config.maxDepth rs

variable {x : Scope} {config : FilterConfig} {spec : FilterSpec} {q : ConditionQuery}
  {name next column : String} {names parts rest : List String} {r r' : RelationDescriptor}
  {w : Value}

theorem Declares.filterable (h : x.Declares name r) : x.catalog.isFilterable x.subject = true := by
  obtain ⟨rs, hrs, _⟩ := h
  obtain ⟨e, he, _⟩ := relations_eq_ok hrs
  exact Catalog.isFilterable_iff.mpr ⟨e, he⟩

theorem Dropped.exists_eq_cons_cons (h : x.Dropped config parts) :
    ∃ name next rest, parts = name :: next :: rest := by
  cases h <;> exact ⟨_, _, _, rfl⟩

/-- Nothing becomes of a path that is dropped. -/
theorem result_of_dropped (h : x.Dropped config parts) (hq : q.Over x)
    (hp : ∀ p ∈ parts, IsPart p) (hd : Decided (x.applyPath config spec parts q).result) :
    (x.applyPath config spec parts q).result = .ok false := by
  -- A run that gets past the relation has met what each way to be dropped denies.
  induction h generalizing q with
  | @undeclared x config name next rest h =>
    rcases applyPath_hop hq (hp next (by simp)) hd with ⟨hdropped, _⟩ | ⟨r, w, sub, hpass, _, _⟩
    · exact hdropped
    · obtain ⟨rs, hrs, hnone⟩ := h
      obtain ⟨rs', hrs', hr⟩ := hpass.declared
      rw [hrs] at hrs'
      cases hrs'
      rw [hnone] at hr
      cases hr
  | @disallowed x config name next rest r h ha =>
    rcases applyPath_hop hq (hp next (by simp)) hd with ⟨hdropped, _⟩ | ⟨r', w, sub, hpass, _, _⟩
    · exact hdropped
    · cases h.unique hpass.declared
      exact absurd hpass.allowed ha
  | @unnamed x config name r h =>
    rcases applyPath_hop hq (hp "" (by simp)) hd with ⟨hdropped, _⟩ | ⟨r', w, sub, hpass, _, _⟩
    · exact hdropped
    · exact absurd rfl hpass.named
  | @exhausted x config name next rest r h hdepth =>
    rcases applyPath_hop hq (hp next (by simp)) hd with ⟨hdropped, _⟩ | ⟨r', w, sub, hpass, _, _⟩
    · exact hdropped
    · cases h.unique hpass.declared
      exact absurd hpass.depth (by omega)
  | @plain x config name next part rest r w h hf =>
    rcases applyPath_hop hq (hp next (by simp)) hd with ⟨hdropped, _⟩ | ⟨r', w', sub, hpass, _, heq⟩
    · exact hdropped
    · obtain ⟨rfl, rfl⟩ := h.toLeads.unique hpass.toLeads
      have hplain : ¬ (x.beyond w').catalog.isFilterable (x.beyond w').subject = true := by
        simpa [beyond] using hf
      rw [heq, result_takingUp]
      exact proceed_of_not_filterable hplain next part rest sub
  | @beyond x config name next rest r w h hs ih =>
    rcases applyPath_hop hq (hp next (by simp)) hd with
      ⟨hdropped, _⟩ | ⟨r', w', sub, hpass, hsub, heq⟩
    · exact hdropped
    · obtain ⟨rfl, rfl⟩ := h.toLeads.unique hpass.toLeads
      rw [heq, result_takingUp] at hd ⊢
      by_cases hf : (x.beyond w').catalog.isFilterable (x.beyond w').subject = true
      · simp only [proceed, hf, if_true] at hd ⊢
        exact ih hsub.toOver (fun p hm => hp p (List.mem_cons_of_mem _ hm)) hd
      · obtain ⟨_, part, ps, heq⟩ := hs.exists_eq_cons_cons
        cases heq
        exact proceed_of_not_filterable hf _ _ _ sub

/-- A relation at which a path cannot go on drops it, or leads nowhere. -/
theorem dropped_or_strays (hp : IsPart next) {first : Option RelationDescriptor}
    (hfirst : x.firstRelation? name (next :: rest) = .ok first)
    (h : ¬ ∃ r w, x.Passable config name next rest r w) :
    x.Dropped config (name :: next :: rest) ∨ x.Strays config (name :: next :: rest) := by
  obtain ⟨rs, hrs, _⟩ := Outcome.bind_eq_ok.mp hfirst
  cases hr : rs.get? name with
  | none => exact Or.inl (.undeclared ⟨rs, hrs, hr⟩)
  | some r =>
    have hdeclares : x.Declares name r := ⟨rs, hrs, hr⟩
    by_cases ha : r.allowed = [] ∨ next ∈ r.allowed
    · by_cases hn : next :: rest = [""]
      · cases hn
        exact Or.inl (.unnamed hdeclares)
      · by_cases hdepth : depthFor config r ≤ 0
        · exact Or.inl (.exhausted hdeclares hdepth)
        · refine Or.inr (.nowhere hdeclares fun w hw => h ⟨r, w, ?_⟩)
          exact ⟨⟨hdeclares.filterable, hdeclares, ha, hw⟩, hn, by omega⟩
    · exact Or.inl (.disallowed hdeclares ha)

/-- A path that ends in no fault is dropped, strays or gets to its column. -/
theorem dropped_or_strays_or_arrives (hq : q.Over x) (hp : ∀ p ∈ names ++ [column], IsPart p)
    (hd : Decided (x.applyPath config spec (name :: (names ++ [column])) q).result) :
    x.Dropped config (name :: (names ++ [column])) ∨
      x.Strays config (name :: (names ++ [column])) ∨ x.Arrives config (name :: names) column := by
  induction names generalizing x name config q with
  | nil =>
    rw [List.nil_append] at hd ⊢
    obtain ⟨first, hfirst, _⟩ := hd.passed (x.unrefused_firstRelation? name [column])
    rcases applyPath_hop hq (hp column (by simp)) hd with ⟨_, hnone⟩ | ⟨r, w, sub, hpass, _, _⟩
    · exact (dropped_or_strays (hp column (by simp)) hfirst hnone).imp_right Or.inl
    · refine Or.inr (Or.inr ⟨[r], x.beyond w, .follow hpass.toLeads (.arrived _ _), ?_, ?_⟩)
      · simpa using hpass.named
      · exact ⟨hpass.depth, trivial⟩
  | cons name' names ih =>
    rw [List.cons_append] at hd ⊢
    have hp' : ∀ p ∈ names ++ [column], IsPart p := fun p hm => hp p (List.mem_cons_of_mem _ hm)
    obtain ⟨first, hfirst, _⟩ := hd.passed (x.unrefused_firstRelation? name _)
    rcases applyPath_hop hq (hp name' (by simp)) hd with ⟨_, hnone⟩ | ⟨r, w, sub, hpass, hsub, heq⟩
    · exact (dropped_or_strays (hp name' (by simp)) hfirst hnone).imp_right Or.inl
    · cases hf : x.catalog.isFilterable w with
      | false =>
        obtain ⟨part, ps, hps⟩ : ∃ part ps, names ++ [column] = part :: ps := by
          cases names <;> simp
        rw [hps] at hpass ⊢
        exact Or.inl (.plain hpass hf)
      | true =>
        have hf' : (x.beyond w).catalog.isFilterable (x.beyond w).subject = true := hf
        rw [heq, result_takingUp] at hd
        simp only [proceed, hf', if_true] at hd
        rcases ih hsub.toOver hp' hd with hdropped | hstrays | ⟨rs, y, hroute, hnamed, hfits⟩
        · exact Or.inl (.beyond hpass hdropped)
        · exact Or.inr (Or.inl (.beyond hpass hstrays))
        · rw [maxDepth_descend config hpass.depth] at hfits
          exact Or.inr (Or.inr
            ⟨r :: rs, y, .follow hpass.toLeads hroute, hnamed, hpass.depth, hfits⟩)

/-- Where a path that passes at its first relation is dropped. -/
theorem dropped_iff (hp : IsPart next)
    (hfirst : x.firstRelation? name (next :: rest) = .ok (some r)) :
    x.Dropped config (name :: next :: rest) ↔ depthFor config r ≤ 0 ∨
      rest ≠ [] ∧ ∃ w, x.catalog.relatedFor x.subject r = .ok (some w) ∧
        (x.catalog.isFilterable w = true →
          (x.beyond w).Dropped (config.descend (some (depthFor config r))) (next :: rest)) := by
  obtain ⟨hdeclares, hnamed, hallowed⟩ := firstRelation?_eq_some hp hfirst
  constructor
  · intro h
    cases h with
    | undeclared h =>
      obtain ⟨rs, hrs, hr⟩ := hdeclares
      obtain ⟨rs', hrs', hnone⟩ := h
      rw [hrs] at hrs'
      cases hrs'
      rw [hr] at hnone
      cases hnone
    | disallowed h ha =>
      cases Declares.unique hdeclares h
      exact absurd hallowed ha
    | unnamed h => exact absurd rfl hnamed
    | exhausted h hdepth =>
      cases Declares.unique hdeclares h
      exact Or.inl hdepth
    | plain h hf =>
      cases Declares.unique hdeclares h.declared
      refine Or.inr ⟨List.cons_ne_nil _ _, _, h.related, fun ht => ?_⟩
      rw [hf] at ht
      cases ht
    | beyond h hs =>
      cases Declares.unique hdeclares h.declared
      obtain ⟨_, part, ps, heq⟩ := hs.exists_eq_cons_cons
      cases heq
      exact Or.inr ⟨List.cons_ne_nil _ _, _, h.related, fun _ => hs⟩
  · intro h
    by_cases hdepth : depthFor config r ≤ 0
    · exact .exhausted hdeclares hdepth
    · obtain ⟨hrest, w, hw, hbeyond⟩ := h.resolve_left hdepth
      have hpass : x.Passable config name next rest r w :=
        ⟨⟨Declares.filterable hdeclares, hdeclares, hallowed, hw⟩, hnamed, by omega⟩
      cases hf : x.catalog.isFilterable w with
      | true => exact .beyond hpass (hbeyond hf)
      | false =>
        obtain ⟨part, ps, rfl⟩ := List.exists_cons_of_ne_nil hrest
        exact .plain hpass hf

/-- Validation passes a path just when the traversal passes it at its first relation. -/
theorem validatePaths_cons {specs : List FilterSpec}
    (hparts : pathParts spec.field = name :: next :: rest) :
    x.validatePaths (spec :: specs) = .ok () ↔
      (∃ r, x.firstRelation? name (next :: rest) = .ok (some r)) ∧
        x.validatePaths specs = .ok () := by
  have hpath : spec.isPath = true := by
    rw [FilterSpec.isPath, ← joinParts_pathParts spec.field, hparts, hasDot_joinParts]
  have htakes : x.TakesFirst spec ↔ ∃ r, x.firstRelation? name (next :: rest) = .ok (some r) := by
    constructor
    · rintro ⟨_, _, _, r, hparts', h⟩
      rw [hparts] at hparts'
      cases hparts'
      exact ⟨r, h⟩
    · rintro ⟨r, h⟩
      exact ⟨name, next, rest, r, hparts, h⟩
  rw [← htakes]
  cases hrs : x.relations with
  | error e =>
    rw [validatePaths_of_error hpath hrs]
    constructor
    · intro h
      cases h
    · rintro ⟨h, _⟩
      obtain ⟨rs, hrs'⟩ := h.exists_relations
      rw [hrs] at hrs'
      cases hrs'
  | ok rs =>
    rcases objects_or_takesFirst hpath hrs with ⟨refusal, h⟩ | h
    · rw [validatePaths_of_objects h]
      simp [h.not_takesFirst]
    · rw [validatePaths_of_takesFirst h]
      simp [h]

theorem validatePaths_eq_ok {specs : List FilterSpec} (h : x.validatePaths specs = .ok ())
    (hm : spec ∈ specs) (hparts : pathParts spec.field = name :: next :: rest) :
    ∃ r, x.firstRelation? name (next :: rest) = .ok (some r) := by
  induction specs with
  | nil => cases hm
  | cons s specs ih =>
    rcases List.mem_cons.mp hm with rfl | hm
    · exact ((validatePaths_cons hparts).mp h).1
    · refine ih ?_ hm
      by_cases hpath : s.isPath = true
      · obtain ⟨p, p', ps, hs⟩ := pathParts_of_hasDot hpath
        exact ((validatePaths_cons hs).mp h).2
      · simpa [validatePaths, hpath] using h

/-- A path of a validated mapping passes at its first relation. It is dropped just when no depth is
left for that relation, or when there is more than a column behind it and that is dropped, or there
is no entity with declarations to follow it. -/
theorem dropped_of_validated (hq : q.Over x) {filters : Value}
    (h : x.validateRelations filters = .ok ()) :
    ∃ specs, FilterSpec.ofFilters filters = .ok specs ∧ ∀ e ∈ specs, e.2.isPath = true →
      ∃ name next rest r, pathParts e.2.field = name :: next :: rest ∧
        x.firstRelation? name (next :: rest) = .ok (some r) ∧
        ∀ config : FilterConfig,
          (x.Dropped config (name :: next :: rest) ↔ depthFor config r ≤ 0 ∨
            rest ≠ [] ∧ ∃ w, x.catalog.relatedFor x.subject r = .ok (some w) ∧
              (x.catalog.isFilterable w = true →
                (x.beyond w).Dropped (config.descend (some (depthFor config r))) (next :: rest))) ∧
          (config.deep = true → e.2.isEmpty = false →
            Decided (x.applySingle config e.2 q).result →
            (x.Dropped config (name :: next :: rest) →
              (x.applySingle config e.2 q).result = .ok false ∧
                (x.applySingle config e.2 q).query = q) ∧
            (x.Dropped config (name :: next :: rest) ∨ x.Strays config (name :: next :: rest) ∨
              ∃ names column, name :: next :: rest = names ++ [column] ∧
                x.Arrives config names column)) := by
  obtain ⟨specs, hspecs, h⟩ := Outcome.bind_eq_ok.mp h
  refine ⟨specs, hspecs, fun e he hpath => ?_⟩
  obtain ⟨name, next, rest, hparts⟩ := pathParts_of_hasDot hpath
  have hpart : ∀ p ∈ name :: next :: rest, IsPart p := fun p hm =>
    isPart_of_mem_pathParts (hparts ▸ hm)
  obtain ⟨r, hfirst⟩ := validatePaths_eq_ok h (List.mem_map_of_mem he) hparts
  refine ⟨name, next, rest, r, hparts, hfirst, fun config => ⟨?_, fun hdeep hvalue hd => ?_⟩⟩
  · exact dropped_iff (hpart next (by simp)) hfirst
  · have hrun : x.applySingle config e.2 q =
        x.applyPath config e.2 (name :: next :: rest) q := by
      rw [applySingle, hvalue, hpath, hdeep, hparts]
      rfl
    have hyields := (x.contributes_applySingle config e.2).yields q
    constructor
    · intro hdropped
      have hresult : (x.applySingle config e.2 q).result = .ok false := by
        rw [hrun] at hd ⊢
        exact result_of_dropped hdropped hq hpart hd
      refine ⟨hresult, ?_⟩
      by_contra hne
      rw [hyields.ne_iff.mp hne] at hresult
      cases hresult
    · obtain ⟨name', names, column, hsplit, _⟩ := pathParts_eq_append hpath
      rw [hparts] at hsplit
      rw [hrun, hsplit] at hd
      have hpart' : ∀ p ∈ names ++ [column], IsPart p := fun p hm =>
        hpart p (hsplit ▸ List.mem_cons_of_mem _ hm)
      rw [hsplit]
      rcases dropped_or_strays_or_arrives hq hpart' hd with h | h | h
      · exact Or.inl h
      · exact Or.inr (Or.inl h)
      · exact Or.inr (Or.inr ⟨name' :: names, column, rfl, h⟩)

/-- Nodes whose parent has a ghost, which no relation of nodes leads to. -/
def ghostFilter : FilterSpec :=
  { field := "parent.ghost.name", value := .text "x" }

def ghostFilters : Value :=
  .dict [("parent.ghost.name", .text "x")]

theorem ghostFilters_validated : nodes.validateRelations ghostFilters = .ok () := by rfl

theorem ghost_dropped (config : FilterConfig) : nodes.Dropped config ["ghost", "name"] :=
  .undeclared ⟨_, rfl, rfl⟩

theorem applySingle_ghostFilter : nodes.Dropped {} ["parent", "ghost", "name"] ∧
    (nodes.applySingle {} ghostFilter allNodes).result = .ok false ∧
    (nodes.applySingle {} ghostFilter allNodes).query = allNodes := by
  obtain ⟨specs, hspecs, h⟩ :=
    dropped_of_validated (q := allNodes) ⟨rfl, rfl⟩ ghostFilters_validated
  have hgiven : FilterSpec.ofFilters ghostFilters = .ok [("parent.ghost.name", ghostFilter)] := rfl
  rw [hgiven] at hspecs
  cases hspecs
  obtain ⟨name, next, rest, r, hparts, hfirst, h⟩ :=
    h ("parent.ghost.name", ghostFilter) (by simp) rfl
  have hghost : pathParts ghostFilter.field = ["parent", "ghost", "name"] := rfl
  rw [hghost] at hparts
  cases hparts
  have hr : nodes.firstRelation? "parent" ["ghost", "name"] =
      .ok (some ⟨"parent", [], 2, .null⟩) := rfl
  rw [hr] at hfirst
  cases hfirst
  obtain ⟨hiff, hrun⟩ := h {}
  have hdropped : nodes.Dropped {} ["parent", "ghost", "name"] :=
    hiff.mpr (Or.inr ⟨by simp, .entity "Node", rfl, fun _ => ghost_dropped _⟩)
  have hd : Decided (nodes.applySingle {} ghostFilter allNodes).result :=
    decided_of_ok (a := false) rfl
  exact ⟨hdropped, (hrun rfl rfl hd).1 hdropped⟩

/-- The path is validated, and still a call under the default options drops it behind its first
relation. -/
theorem ghostFilters_dropped : nodes.validateRelations ghostFilters = .ok () ∧
    (nodes.apply ghostFilters .null .null allNodes).result = .ok () ∧
    (nodes.apply ghostFilters .null .null allNodes).query = allNodes ∧
    nodes.Dropped {} ["parent", "ghost", "name"] :=
  ⟨ghostFilters_validated, rfl, rfl, .beyond ⟨nodes_leads _, by simp, by decide⟩ (ghost_dropped _)⟩

end Scope

end QueryFilter
