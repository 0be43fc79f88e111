import QueryFilter.Application
import QueryFilter.Proofs.Route

/-! What it means that validation refuses a mapping of filters. The refusal names the first relation
of the first path that may not be followed; the traversal follows every path before that one and
drops that one, under any configuration in which paths are followed. -/

namespace QueryFilter

variable {spec : FilterSpec} {name rest : String}

theorem FilterSpec.headRest_of_field (hname : IsPart name) (h : spec.field = name ++ "." ++ rest) :
    spec.headRest = (name, rest) := by
  have hchars : (name ++ "." ++ rest).toList = name.toList ++ '.' :: rest.toList := by simp
  rw [headRest, h, Text.headRest, hchars, cutFirstDot_append hname]
  simp

theorem FilterSpec.isPath_iff : spec.isPath = true ↔
    ∃ name rest, IsPart name ∧ spec.field = name ++ "." ++ rest := by
  constructor
  · intro h
    obtain ⟨name, next, parts, hparts⟩ := pathParts_of_hasDot h
    have hname : IsPart name := isPart_of_mem_pathParts (hparts ▸ List.mem_cons_self)
    refine ⟨name, joinParts (next :: parts), hname, ?_⟩
    rw [← joinParts_cons_cons, ← hparts, joinParts_pathParts]
  · rintro ⟨name, rest, _, h⟩
    simp [isPath, Text.hasDot, h]

theorem FilterSpec.pathParts_of_field (hname : IsPart name)
    (h : spec.field = name ++ "." ++ rest) : ∃ next parts,
      pathParts spec.field = name :: next :: parts ∧ joinParts (next :: parts) = rest := by
  have hpath := isPath_iff.mpr ⟨name, rest, hname, h⟩
  obtain ⟨name', next, parts, hparts⟩ := pathParts_of_hasDot hpath
  have hname' : IsPart name' := isPart_of_mem_pathParts (hparts ▸ List.mem_cons_self)
  have hjoined : spec.field = name' ++ "." ++ joinParts (next :: parts) := by
    rw [← joinParts_cons_cons, ← hparts, joinParts_pathParts]
  have hcut := (headRest_of_field hname' hjoined).symm.trans (headRest_of_field hname h)
  obtain ⟨rfl, hrest⟩ := Prod.mk.injEq .. ▸ hcut
  exact ⟨next, parts, hparts, hrest⟩

theorem unrefused_ofValue (field : String) (v : Value) :
    Unrefused (FilterSpec.ofValue field v) := by
  cases v with
  | dict es =>
    simp only [FilterSpec.ofValue, FilterSpec.named]
    split
    · exact .ok _
    · nofun
  | _ => exact .ok _

theorem unrefused_ofFilters (filters : Value) : Unrefused (FilterSpec.ofFilters filters) := by
  unfold FilterSpec.ofFilters
  split
  · exact .ok _
  · split
    · exact .mapM fun e _ => .map _ (unrefused_ofValue e.1 e.2)
    · nofun

namespace Scope

open Building Traced

def Declares (x : Scope) (name : String) (r : RelationDescriptor) : Prop :=
  ∃ rs, x.relations = .ok rs ∧ rs.get? name = some r

variable {x : Scope} {refusal : Refusal} {specs : List FilterSpec} {r r' : RelationDescriptor}

theorem Declares.unique (h : x.Declares name r) (h' : x.Declares name r') : r' = r := by
  obtain ⟨rs, hrs, hr⟩ := h
  obtain ⟨rs', hrs', hr'⟩ := h'
  rw [hrs] at hrs'
  cases hrs'
  rw [hr] at hr'
  exact (Option.some.inj hr').symm

/-- What is wrong with the first relation of a path. -/
inductive Objects (x : Scope) (spec : FilterSpec) : Refusal → Prop
  | undeclared {name rest : String} (hname : IsPart name)
    (hfield : spec.field = name ++ "." ++ rest)
    (h : ∃ rs, x.relations = .ok rs ∧ rs.get? name = none) :
    Objects x spec (.forRelation .relation (.text name) (.text "relation is not filterable"))
  | disallowed {name rest : String} {r : RelationDescriptor} (hname : IsPart name)
    (hfield : spec.field = name ++ "." ++ rest) (h : x.Declares name r)
    (ha : rest = "" ∨ r.allows rest = false) :
    Objects x spec (.forRelation .relation (.text name)
      (.text ("field [" ++ rest ++ "] is not filterable")))

/-- The traversal takes the first relation of a path. -/
def TakesFirst (x : Scope) (spec : FilterSpec) : Prop :=
  ∃ name next rest r, pathParts spec.field = name :: next :: rest ∧
    x.firstRelation? name (next :: rest) = .ok (some r)

theorem Objects.exists_eq (h : x.Objects spec refusal) : ∃ name rest reason, IsPart name ∧
    spec.field = name ++ "." ++ rest ∧
      refusal = .forRelation .relation (.text name) (.text reason) := by
  cases h with
  | undeclared hname hfield h => exact ⟨_, _, _, hname, hfield, rfl⟩
  | disallowed hname hfield h ha => exact ⟨_, _, _, hname, hfield, rfl⟩

theorem Objects.isPath (h : x.Objects spec refusal) : spec.isPath = true := by
  obtain ⟨name, rest, _, hname, hfield, _⟩ := h.exists_eq
  exact FilterSpec.isPath_iff.mpr ⟨name, rest, hname, hfield⟩

theorem firstRelation?_eq {declared : Keyed RelationDescriptor} (h : x.relations = .ok declared)
    (name : String) (parts : List String) : x.firstRelation? name parts =
      .ok ((declared.get? name).filter fun r => parts != [""] && r.allows (joinParts parts)) := by
  rw [firstRelation?, h]
  rfl

theorem firstRelation?_eq_some_iff {parts : List String} {r : RelationDescriptor} :
    x.firstRelation? name parts = .ok (some r) ↔
      x.Declares name r ∧ parts ≠ [""] ∧ r.allows (joinParts parts) = true := by
  unfold firstRelation? Declares
  rw [Outcome.bind_eq_ok]
  constructor
  · rintro ⟨rs, hrs, h⟩
    obtain ⟨hr, hparts⟩ := Option.filter_eq_some_iff.mp (Except.ok.inj h)
    exact ⟨⟨rs, hrs, hr⟩, by simpa using hparts⟩
  · rintro ⟨⟨rs, hrs, hr⟩, hparts⟩
    refine ⟨rs, hrs, congrArg Except.ok ?_⟩
    exact Option.filter_eq_some_iff.mpr ⟨hr, by simpa using hparts⟩

theorem TakesFirst.exists_relations (h : x.TakesFirst spec) : ∃ rs, x.relations = .ok rs := by
  obtain ⟨name, next, parts, r, _, h⟩ := h
  obtain ⟨⟨rs, hrs, _⟩, _⟩ := firstRelation?_eq_some_iff.mp h
  exact ⟨rs, hrs⟩

theorem TakesFirst.isPath (h : x.TakesFirst spec) : spec.isPath = true := by
  obtain ⟨name, next, parts, _, hparts, _⟩ := h
  rw [FilterSpec.isPath, ← joinParts_pathParts spec.field, hparts, hasDot_joinParts]

theorem takesFirst_iff (hname : IsPart name) (hfield : spec.field = name ++ "." ++ rest) :
    x.TakesFirst spec ↔ ∃ r, x.Declares name r ∧ rest ≠ "" ∧ r.allows rest = true := by
  obtain ⟨next, parts, hparts, rfl⟩ := FilterSpec.pathParts_of_field hname hfield
  have hempty : joinParts (next :: parts) = "" ↔ next :: parts = [""] :=
    joinParts_eq_empty_iff fun p hm =>
      isPart_of_mem_pathParts (hparts ▸ List.mem_cons_of_mem _ hm)
  simp only [ne_eq, hempty]
  constructor
  · rintro ⟨name', next', parts', r, hparts', h⟩
    rw [hparts] at hparts'
    cases hparts'
    exact ⟨r, firstRelation?_eq_some_iff.mp h⟩
  · rintro ⟨r, h⟩
    exact ⟨name, next, parts, r, hparts, firstRelation?_eq_some_iff.mpr h⟩

theorem Objects.exists_relations (h : x.Objects spec refusal) : ∃ rs, x.relations = .ok rs := by
  cases h with
  | undeclared hname hfield h => exact h.imp fun _ h => h.1
  | disallowed hname hfield h ha => exact h.imp fun _ h => h.1

theorem Objects.not_takesFirst (h : x.Objects spec refusal) : ¬ x.TakesFirst spec := by
  intro ht
  cases h with
  | undeclared hname hfield h =>
    obtain ⟨r, ⟨rs, hrs, hr⟩, _⟩ := (takesFirst_iff hname hfield).mp ht
    obtain ⟨rs', hrs', hnone⟩ := h
    cases hrs.symm.trans hrs'
    cases hr.symm.trans hnone
  | disallowed hname hfield h ha =>
    obtain ⟨r, hr, hne, hallows⟩ := (takesFirst_iff hname hfield).mp ht
    cases Declares.unique hr h
    rcases ha with ha | ha
    · exact hne ha
    · rw [ha] at hallows
      cases hallows

theorem objects_or_takesFirst (hpath : spec.isPath = true) {rs : Keyed RelationDescriptor}
    (hrs : x.relations = .ok rs) : (∃ refusal, x.Objects spec refusal) ∨ x.TakesFirst spec := by
  obtain ⟨name, rest, hname, hfield⟩ := FilterSpec.isPath_iff.mp hpath
  cases hr : rs.get? name with
  | none => exact .inl ⟨_, .undeclared hname hfield ⟨rs, hrs, hr⟩⟩
  | some r =>
    by_cases ha : rest = "" ∨ r.allows rest = false
    · exact .inl ⟨_, .disallowed hname hfield ⟨rs, hrs, hr⟩ ha⟩
    · obtain ⟨hrest, hallows⟩ := not_or.mp ha
      rw [Bool.not_eq_false] at hallows
      exact .inr ((takesFirst_iff hname hfield).mpr ⟨r, ⟨rs, hrs, hr⟩, hrest, hallows⟩)

theorem validatePaths_of_not_isPath (h : spec.isPath = false) :
    x.validatePaths (spec :: specs) = x.validatePaths specs := by
  rw [validatePaths, h]
  rfl

theorem validatePaths_of_error (hpath : spec.isPath = true) {e : Fault}
    (h : x.relations = .error e) : x.validatePaths (spec :: specs) = .error e := by
  rw [validatePaths, hpath, h]
  rfl

theorem validatePaths_of_objects (h : x.Objects spec refusal) :
    x.validatePaths (spec :: specs) = .error (.refused refusal) := by
  have hpath := h.isPath
  cases h with
  | undeclared hname hfield h =>
    obtain ⟨rs, hrs, hnone⟩ := h
    rw [validatePaths, hpath, FilterSpec.headRest_of_field hname hfield, hrs]
    simp only [Bool.not_true, Bool.false_eq_true, if_false, bind, Except.bind, hnone]
    rfl
  | disallowed hname hfield h ha =>
    obtain ⟨rs, hrs, hr⟩ := h
    rw [validatePaths, hpath, FilterSpec.headRest_of_field hname hfield, hrs]
    simp only [Bool.not_true, Bool.false_eq_true, if_false, bind, Except.bind, hr,
      Bool.not_eq_true, ha, if_true]
    rfl

theorem validatePaths_of_takesFirst (h : x.TakesFirst spec) :
    x.validatePaths (spec :: specs) = x.validatePaths specs := by
  have hpath := h.isPath
  obtain ⟨name, rest, hname, hfield⟩ := FilterSpec.isPath_iff.mp hpath
  obtain ⟨r, ⟨rs, hrs, hr⟩, hrest, hallows⟩ := (takesFirst_iff hname hfield).mp h
  rw [validatePaths, hpath, FilterSpec.headRest_of_field hname hfield, hrs]
  simp only [Bool.not_true, Bool.false_eq_true, if_false, bind, Except.bind, hr, hrest, hallows,
    not_true_eq_false, or_self]

theorem validatePaths_append {before : List FilterSpec} (specs : List FilterSpec)
    (h : ∀ s ∈ before, s.isPath = true → x.TakesFirst s) :
    x.validatePaths (before ++ specs) = x.validatePaths specs := by
  induction before with
  | nil => rfl
  | cons s before ih =>
    obtain ⟨hs, hbefore⟩ := List.forall_mem_cons.mp h
    rw [List.cons_append, ← ih hbefore]
    cases hpath : s.isPath with
    | false => exact validatePaths_of_not_isPath hpath
    | true => exact validatePaths_of_takesFirst (hs hpath)

/-- A refusal comes of the first path that is not followed. -/
theorem exists_objects_of_validatePaths (h : x.validatePaths specs = .error (.refused refusal)) :
    ∃ before spec after, specs = before ++ spec :: after ∧ x.Objects spec refusal ∧
      ∀ s ∈ before, s.isPath = true → x.TakesFirst s := by
  induction specs with
  | nil => cases h
  | cons s specs ih =>
    -- Either the rest decides, or the list is refused at its head.
    by_cases hs : s.isPath = true → x.TakesFirst s
    · have hrest := validatePaths_append specs (List.forall_mem_singleton.mpr hs)
      obtain ⟨before, spec, after, rfl, hobjects, hbefore⟩ := ih (hrest ▸ h)
      exact ⟨s :: before, spec, after, rfl, hobjects, List.forall_mem_cons.mpr ⟨hs, hbefore⟩⟩
    · obtain ⟨hpath, hstops⟩ := Classical.not_imp.mp hs
      cases hrs : x.relations with
      | error e =>
        rw [validatePaths_of_error hpath hrs] at h
        cases h
        exact absurd hrs (x.unrefused_relations refusal)
      | ok rs =>
        obtain ⟨refusal', hobjects⟩ := (objects_or_takesFirst hpath hrs).resolve_right hstops
        rw [validatePaths_of_objects hobjects] at h
        cases h
        exact ⟨[], s, specs, rfl, hobjects, by simp⟩

/-- The traversal drops a path that is objected to, whatever the filter and the query are. -/
theorem applySingle_of_objects {Q : Type} [Backend Q] {config : FilterConfig}
    (h : x.Objects spec refusal) (hdeep : config.deep = true) (q : Q) :
    (x.applySingle config spec q).result = .ok false ∧ (x.applySingle config spec q).query = q := by
  obtain ⟨name, next, parts, hparts⟩ := pathParts_of_hasDot h.isPath
  have hnone : x.firstRelation? name (next :: parts) = .ok none := by
    obtain ⟨rs, hrs⟩ := h.exists_relations
    have hfirst := firstRelation?_eq hrs name (next :: parts)
    cases hr : (rs.get? name).filter fun r =>
        next :: parts != [""] && r.allows (joinParts (next :: parts)) with
    | none => rw [hfirst, hr]
    | some r => exact absurd ⟨name, next, parts, r, hparts, hr ▸ hfirst⟩ h.not_takesFirst
  cases hempty : spec.isEmpty with
  | true => rw [applySingle, hempty]; exact ⟨rfl, rfl⟩
  | false =>
    rw [applySingle, hempty, h.isPath, hdeep, hparts]
    simp only [Bool.false_eq_true, if_false, Bool.and_self, if_true, applyPath, hnone,
      aside_ok_andThen]
    exact ⟨rfl, rfl⟩

/-- Validation refuses a mapping just when it comes to a path that is objected to, past paths that
are followed. The refusal names the first part of that path, and the path is one that the traversal
drops, under any configuration in which paths are followed, strict ones among them. -/
theorem validateRelations_refused_iff (x : Scope) (filters : Value) (refusal : Refusal) :
    (x.validateRelations filters = .error (.refused refusal) ↔
      ∃ specs before e after, FilterSpec.ofFilters filters = .ok specs ∧
        specs = before ++ e :: after ∧ x.Objects e.2 refusal ∧
        ∀ e' ∈ before, e'.2.isPath = true → x.TakesFirst e'.2) ∧
    ∀ spec : FilterSpec, x.Objects spec refusal →
      (∃ name rest reason, IsPart name ∧ spec.field = name ++ "." ++ rest ∧
        refusal = .forRelation .relation (.text name) (.text reason)) ∧
      ¬ x.TakesFirst spec ∧
      ∀ (Q : Type) [Backend Q] (config : FilterConfig) (q : Q), config.deep = true →
        (x.applySingle config spec q).result = .ok false ∧
          (x.applySingle config spec q).query = q := by
  refine ⟨⟨fun h => ?_, ?_⟩, fun spec h =>
    ⟨h.exists_eq, h.not_takesFirst, fun Q _ config q hdeep => applySingle_of_objects h hdeep q⟩⟩
  · rcases Outcome.bind_eq_error.mp h with h | ⟨specs, hspecs, h⟩
    · exact absurd h (unrefused_ofFilters filters refusal)
    · obtain ⟨before, spec, after, hsplit, hobjects, hbefore⟩ := exists_objects_of_validatePaths h
      obtain ⟨before, after, rfl, rfl, hafter⟩ := List.map_eq_append_iff.mp hsplit
      obtain ⟨e, after, rfl, rfl, rfl⟩ := List.map_eq_cons_iff.mp hafter
      exact ⟨_, before, e, after, hspecs, rfl, hobjects,
        fun e' he' => hbefore e'.2 (List.mem_map_of_mem he')⟩
  · rintro ⟨_, before, e, after, hspecs, rfl, hobjects, hbefore⟩
    refine Outcome.bind_eq_error.mpr (.inr ⟨_, hspecs, ?_⟩)
    rw [List.map_append, List.map_cons, validatePaths_append _ ?_,
      validatePaths_of_objects hobjects]
    intro s hs
    obtain ⟨e', he', rfl⟩ := List.mem_map.mp hs
    exact hbefore e' he'

/-- A node's ghost, behind two filters that are followed. -/
def strayFilters : Value :=
  .dict [("name", .text "x"), ("parent.name", .text "y"), ("ghost.name", .text "z")]

def strayFilter : FilterSpec :=
  { field := "ghost.name", value := .text "z" }

def strayRefusal : Refusal :=
  .forRelation .relation (.text "ghost") (.text "relation is not filterable")

theorem nodes_objects : nodes.Objects strayFilter strayRefusal :=
  @Objects.undeclared _ _ "ghost" "name" (by decide) rfl ⟨_, rfl, rfl⟩

theorem strayFilters_refused :
    nodes.validateRelations strayFilters = .error (.refused strayRefusal) ∧
      (nodes.applySingle { strict := true } strayFilter allNodes).result = .ok false ∧
      (nodes.applySingle { strict := true } strayFilter allNodes).query = allNodes := by
  obtain ⟨hiff, hdrops⟩ := validateRelations_refused_iff nodes strayFilters strayRefusal
  refine ⟨hiff.mpr ⟨_, [("name", ⟨"name", .text "x", "=", "string"⟩),
    ("parent.name", ⟨"parent.name", .text "y", "=", "string"⟩)], ("ghost.name", strayFilter), [],
    rfl, rfl, nodes_objects, ?_⟩, (hdrops strayFilter nodes_objects).2.2 _ _ allNodes rfl⟩
  intro e' he' hpath
  rcases List.mem_cons.mp he' with rfl | he'
  · cases hpath
  · rw [List.mem_singleton.mp he']
    exact ⟨"parent", "name", [], ⟨"parent", [], 2, .null⟩, rfl, rfl⟩

end Scope

end QueryFilter
