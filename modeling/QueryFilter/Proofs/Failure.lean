import QueryFilter.Proofs.Call
import QueryFilter.Proofs.Route

/-! The query that a failed call leaves behind. Filters before the one that fails have done what
they do alone, the one that fails has done nothing, and an operator is refused only behind a path
that passes every check. -/

namespace QueryFilter.Scope

open Building Traced

variable {x : Scope} {config : FilterConfig} {spec : FilterSpec} {q : ConditionQuery}

/-- A specification whose path, or whose field if it is not taken as a path, passes every check. -/
def Passes (x : Scope) (config : FilterConfig) (spec : FilterSpec) : Prop :=
  if spec.isPath && config.deep then
    ∃ names column rs y, pathParts spec.field = names ++ [column] ∧
      x.Admitted config names column rs y
  else ∃ fields, x.fields = .ok fields ∧ fields.has spec.field = true

/-- The specifications that are taken when their number is limited. -/
def taken (x : Scope) (specs : Keyed FilterSpec) : List FilterSpec :=
  if x.settings.maxFilters ≤ 0 then specs.map Prod.snd
  else (specs.map Prod.snd).take x.settings.maxFilters.toNat

theorem limited_result (x : Scope) (specs : Keyed FilterSpec) :
    ∃ cut, (x.limited specs).result = .ok cut ∧ cut.map Prod.snd = x.taken specs := by
  unfold limited taken
  by_cases hm : x.settings.maxFilters ≤ 0
  · simp only [hm, true_or, if_true]
    exact ⟨specs, rfl, rfl⟩
  · by_cases hl : specs.length ≤ x.settings.maxFilters.toNat
    · simp only [hm, hl, or_true, if_true, if_false]
      exact ⟨specs, rfl, (List.take_of_length_le (by simpa using hl)).symm⟩
    · simp only [hm, hl, or_self, if_false]
      exact ⟨specs.take x.settings.maxFilters.toNat, rfl, List.map_take⟩

theorem applyPredicate_refused {column : String} {r : Refusal}
    (h : (x.applyPredicate config spec column q).result = .error (.refused r)) :
    r.kind = .operator ∧ config.strict = true ∧ spec.operatorTag = none := by
  rcases andThen_eq_error.mp h with h | ⟨v, _, h⟩
  · exact absurd h (unrefused_coerce _ _ _ _ r)
  rcases andThen_eq_error.mp h with h | ⟨applied, _, h⟩
  · unfold dispatch at h
    cases ho : Operator.ofValue? (.text spec.operator) with
    | none =>
      rw [ho] at h
      cases hs : config.strict with
      | false =>
        simp only [hs] at h
        cases h
      | true =>
        simp only [hs] at h
        cases h
        exact ⟨rfl, rfl, ho⟩
    | some o =>
      rw [ho] at h
      rcases andThen_eq_error.mp h with h | ⟨asked, _, h⟩
      · exact absurd h (unrefused_test? o _ _ _ v r)
      · cases asked with
        | none => cases h
        | some asked =>
          simp only [ConditionQuery.adding_eq, aside_query] at h
          cases hadd : q.add ⟨.text column, asked.1, asked.2⟩ with
          | error e =>
            simp only [hadd, Except.error.injEq] at h
            exact absurd (hadd.trans (congrArg _ h)) (q.unrefused_add _ r)
          | ok q' =>
            simp only [hadd] at h
            cases h
  · rw [aside_result, announce_result] at h
    cases h

theorem applyPredicate_of_unknown {column : String} {v : Value} (hs : config.strict = true)
    (hv : coerce spec.typeTag spec.operatorTag (.text x.settings.arrayDelimiter) spec.value = .ok v)
    (ho : spec.operatorTag = none) : (x.applyPredicate config spec column q).result =
      .error (.refused (.forOperator (.text spec.operator) (.text column))) := by
  have hd : (dispatch x.weekRule (.text x.dateFormat) config (.text spec.operator) (.text column)
      v q).result = .error (.refused (.forOperator (.text spec.operator) (.text column))) := by
    rw [(dispatch_of_unknown (show Operator.ofValue? (.text spec.operator) = none from ho)).2, hs]
    rfl
  rw [applyPredicate, hv, aside_ok_andThen, andThen_of_error _ hd]

/-- A specification is refused only for an unknown operator, in strict mode and behind a path that
passes every check. -/
theorem applySingle_refused (hq : q.Over x) {r : Refusal}
    (h : (x.applySingle config spec q).result = .error (.refused r)) :
    r.kind = .operator ∧ config.strict = true ∧ spec.isEmpty = false ∧ spec.operatorTag = none ∧
      x.Passes config spec := by
  unfold applySingle at h
  unfold Passes
  by_cases he : spec.isEmpty = true
  · simp only [he, if_true] at h
    cases h
  · have hvalue : spec.isEmpty = false := by simpa using he
    simp only [hvalue, Bool.false_eq_true, if_false] at h
    by_cases hp : (spec.isPath && config.deep) = true
    · simp only [hp, if_true] at h ⊢
      obtain ⟨name, names, column, hparts, hpart⟩ :=
        pathParts_eq_append (Bool.and_eq_true_iff.mp hp).1
      rw [hparts] at h
      have hd : Decided (x.applyPath config spec (name :: (names ++ [column])) q).result := by
        rw [h]
        exact decided_refused r
      obtain ⟨rs, y, hadm⟩ := admitted_of_applyPath hq hpart hd (by rw [h]; simp)
      obtain ⟨table, sub, _, hresult, _⟩ := applyPath_of_admitted hadm hq hpart hd
      obtain ⟨hkind, hstrict, hoperator⟩ := applyPredicate_refused (hresult.symm.trans h)
      exact ⟨hkind, hstrict, hvalue, hoperator, name :: names, column, rs, y, hparts, hadm⟩
    · simp only [hp, Bool.false_eq_true, if_false] at h ⊢
      have hd : Decided (x.applyLocal config spec spec.field q).result := by
        rw [h]
        exact decided_refused r
      obtain ⟨fields, hfields, ⟨_, hdropped⟩ | ⟨hc, table, _, heq⟩⟩ := applyLocal_of_decided hd
      · rw [h] at hdropped
        cases hdropped
      · rw [heq] at h
        obtain ⟨hkind, hstrict, hoperator⟩ := applyPredicate_refused h
        exact ⟨hkind, hstrict, hvalue, hoperator, fields, hfields, hc⟩

variable {filters options source : Value} {e : Fault}

/-- A call that fails while it resolves its filters or its configuration leaves the query alone.
One that fails later has added what the specifications before the failing one add on their own and
nothing of that one, which is refused only for an unknown operator in strict mode, behind a path
that passes every check. -/
theorem apply_of_error (hq : q.Over x) {n : String} (hx : x.subject = .entity n)
    (h : (x.apply filters options source q).result = .error e) :
    ((x.resolveFilters filters source = .error e ∨ (x.resolveConfig options).result = .error e) ∧
      (x.apply filters options source q).query = q) ∨
    ∃ specs config before spec after,
      x.resolveFilters filters source = .ok specs ∧
      (x.resolveConfig options).result = .ok config ∧
      x.StopsAt config q (x.taken specs) e (x.apply filters options source q).query
        before spec after ∧
      ∀ r, e = .refused r → r.kind = .operator ∧ config.strict = true ∧ spec.isEmpty = false ∧
        spec.operatorTag = none ∧ x.Passes config spec := by
  by_cases henabled : x.settings.enabled = true
  · cases hfilters : x.resolveFilters filters source with
    | error e' =>
      rw [apply_of_unresolved henabled hfilters] at h ⊢
      exact Or.inl ⟨Or.inl (congrArg _ (Except.error.inj h)), rfl⟩
    | ok specs =>
      rw [apply_of_resolved henabled hfilters] at h ⊢
      by_cases hempty : specs.isEmpty = true
      · rw [if_pos hempty] at h
        cases h
      · obtain ⟨cut, hcut, htaken⟩ := x.limited_result specs
        rw [if_neg hempty, applySpecs, andThen_of_ok (x := aside q (x.limited specs)) _ hcut,
          htaken] at h ⊢
        dsimp only [aside_query] at h ⊢
        cases hconfig : (x.resolveConfig options).result with
        | error e' =>
          rw [andThen_of_error (x := aside q (x.resolveConfig options)) _ hconfig] at h ⊢
          exact Or.inl ⟨Or.inr (congrArg _ (Except.error.inj h)), rfl⟩
        | ok config =>
          rw [andThen_of_ok (x := aside q (x.resolveConfig options)) _ hconfig] at h ⊢
          dsimp only [aside_query] at h ⊢
          rcases andThen_eq_error.mp h with hfail | ⟨n, _, hnote⟩
          · rw [andThen_of_error _ hfail]
            obtain ⟨before, spec, after, hstops⟩ := applyFilters_of_error hfail
            refine Or.inr ⟨specs, config, before, spec, after, rfl, rfl, hstops, ?_⟩
            rintro r rfl
            exact applySingle_refused (q := q.cleared) ⟨hq.catalog, hq.subject⟩ hstops.failed
          · -- The closing note names the entity, and an entity has a name.
            rw [aside_result, appliedNote, entityName, hx] at hnote
            cases hnote
  · rw [apply_of_disabled (by simpa using henabled)] at h
    cases h

def rootFilter : FilterSpec :=
  { field := "name", value := .text "root" }

def unknownFilter : FilterSpec :=
  { field := "parent.parent.name", value := .text "x", operator := "~" }

def nodeFilters : Value :=
  .dict [("name", rootFilter.toValue), ("parent.parent.name", unknownFilter.toValue)]

def strictly : Value :=
  .dict [("strict_mode", .bool true)]

theorem nodes_prepare : (nodes.prepare nodeFilters strictly .null).result =
    .ok (some ([rootFilter, unknownFilter], { strict := true })) := rfl

theorem rootFilter_succeeds :
    (nodes.applySingle { strict := true } rootFilter allNodes).result = .ok true := by
  have ht : rootFilter.typeTag = some .string := FieldType.parse?_symbol .string
  have ho : rootFilter.operatorTag = some .eq := Operator.parse?_symbol .eq
  have hacc : nodes.Accepts { strict := true } rootFilter (.compare .eq) (.text "root") := by
    refine ⟨.text "root", .eq, .text "root", ?_, ho, rfl, rfl⟩
    rw [ht, ho]
    rfl
  exact (applyPredicate_of_accepts allNodes "nodes.name" hacc).1

theorem unknownFilter_refused :
    (nodes.applySingle { strict := true } unknownFilter allNodes).result =
      .error (.refused (.forOperator (.text "~") (.text "nodes.name"))) := by
  have ht : unknownFilter.typeTag = some .string := FieldType.parse?_symbol .string
  have ho : unknownFilter.operatorTag = none := by
    rw [FilterSpec.operatorTag, Operator.parse?, Text.lower_eq]
    rfl
  have hrun : nodes.applySingle { strict := true } unknownFilter allNodes =
      takingUp allNodes "parent" (nodes.applyPath { maxDepth := 1, strict := true } unknownFilter
        ["parent", "name"] allNodes) := rfl
  have hinner : nodes.applyPath { maxDepth := 1, strict := true } unknownFilter
      ["parent", "name"] allNodes = takingUp allNodes "parent" (nodes.applyPredicate
        { maxDepth := 0, strict := true } unknownFilter "nodes.name" allNodes) := rfl
  rw [hrun, result_takingUp, hinner, result_takingUp]
  refine applyPredicate_of_unknown rfl (v := .text "x") ?_ ho
  rw [ht, ho]
  rfl

theorem apply_strictly_nodeFilters : ∃ specs config before spec after r,
    nodes.resolveFilters nodeFilters .null = .ok specs ∧
    nodes.StopsAt config allNodes (nodes.taken specs) (.refused r)
      (nodes.apply nodeFilters strictly .null allNodes).query before spec after ∧
    nodes.Passes config spec := by
  have hrun : (nodes.applyFilters { strict := true } [rootFilter, unknownFilter] allNodes).result =
      .error (.refused (.forOperator (.text "~") (.text "nodes.name"))) := by
    refine applyFilters_cons_eq_error.mpr (Or.inr ⟨⟨true, rootFilter_succeeds⟩, ?_⟩)
    refine applyFilters_cons_eq_error.mpr (Or.inl ?_)
    rw [result_applySingle, query_applySingle, ConditionQuery.cleared_recordAll]
    exact unknownFilter_refused
  have h : (nodes.apply nodeFilters strictly .null allNodes).result =
      .error (.refused (.forOperator (.text "~") (.text "nodes.name"))) := by
    rw [apply, andThen_of_ok _ nodes_prepare]
    dsimp only [aside_query]
    rw [andThen_of_error _ hrun]
  rcases apply_of_error ⟨rfl, rfl⟩ rfl h with
    ⟨hresolve | hresolve, _⟩ | ⟨specs, config, before, spec, after, hspecs, _, hstops, hrefused⟩
  · obtain ⟨given, hgiven⟩ : ∃ given, nodes.resolveFilters nodeFilters .null = .ok given := ⟨_, rfl⟩
    rw [hgiven] at hresolve
    cases hresolve
  · have hset : (nodes.resolveConfig strictly).result = .ok { strict := true } := rfl
    rw [hset] at hresolve
    cases hresolve
  · exact ⟨specs, config, before, spec, after, _, hspecs, hstops, (hrefused _ rfl).2.2.2.2⟩

end QueryFilter.Scope
