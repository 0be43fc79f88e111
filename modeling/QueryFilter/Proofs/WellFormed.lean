import QueryFilter.Proofs.Call
import QueryFilter.Proofs.Canonical
import QueryFilter.Proofs.Contribution
import QueryFilter.Proofs.Day
import QueryFilter.Proofs.Route

/-! The written form of what filters become. Whatever the type, the operator and the value of a
filter, it is a test that carries an operand of the kind that its sign asks for, or a relation
around one such condition. -/

namespace QueryFilter

open Building Traced

variable {α β : Type}

namespace Condition

def comparisonSigns : List String :=
  ["$eq", "$ne", "$gt", "$gte", "$lt", "$lte", "$like", "$nlike", "$ilike", "$nilike"]

/-- The operands that a sign may stand in front of. No other text is a sign. -/
inductive Carries : (sign : String) → (operand : Value) → Prop
  | present {sign v} (hs : sign ∈ comparisonSigns) (hv : v.isBlank = false) : Carries sign v
  | members {sign vs} (hs : sign ∈ ["$in", "$nin"]) : Carries sign (.list vs)
  | bounds {sign a b} (hs : sign ∈ ["$between", "$nbetween"]) : Carries sign (.list [a, b])
  | sense (b : Bool) : Carries "$null" (.bool b)
  | day {s} (hs : Calendar.WritesDay s) : Carries "$date" (.text s)
  | part {sign n} (hs : sign ∈ ["$month", "$year", "$day"]) : Carries sign (.int n)

/-- Written conditions: one sign for one column, or a relation to one written condition. -/
inductive WellFormed : Value → Prop
  | leaf {column sign operand} (h : Carries sign operand) :
    WellFormed (.dict [(column, .dict [(sign, operand)])])
  | has {relation inner} (h : WellFormed inner) :
    WellFormed (.dict [("$has", .dict [("relation", .text relation),
      ("where", .dict [("$and", .list [inner])])])])

theorem testKey_compare_mem (c : Comparison) : testKey (.compare c) ∈ comparisonSigns := by
  cases c <;> decide

theorem carries_part {v raw operand : Value} {p : DatePart} {test : Test}
    (ht : (partOf v).map (·.map (Test.part p, ·)) = .ok (some (test, raw)))
    (hr : ConditionQuery.recordedOperand test raw = .ok operand) :
    Carries (testKey test) operand := by
  obtain ⟨found, hfound, hsome⟩ := Outcome.map_eq_ok.mp ht
  obtain ⟨w, rfl, hw⟩ := Option.map_eq_some_iff.mp hsome
  cases hw
  obtain ⟨n, _, hn⟩ := Outcome.map_eq_ok.mp hfound
  obtain ⟨m, _, rfl⟩ := Option.map_eq_some_iff.mp hn
  cases hr
  refine .part ?_
  cases p <;> decide

theorem carries_bounds {v raw operand : Value} {negated : Bool} {test : Test}
    (ht : (bounds? v).map (Test.between negated, ·) = some (test, raw))
    (hr : ConditionQuery.recordedOperand test raw = .ok operand) :
    Carries (testKey test) operand := by
  obtain ⟨w, hw, he⟩ := Option.map_eq_some_iff.mp ht
  cases he
  obtain ⟨a, b, rfl⟩ := bounds?_eq_some hw
  cases hr
  refine .bounds ?_
  cases negated <;> decide

/-- What an operator makes of a value that is there is fit for the sign of its test. -/
theorem carries_of_test? {o : Operator} {rule : Calendar.WeekRule} {format v raw operand : Value}
    {caseSensitive : Bool} {test : Test} (hv : v.isBlank = false)
    (ht : o.test? rule format caseSensitive v = .ok (some (test, raw)))
    (hr : ConditionQuery.recordedOperand test raw = .ok operand) :
    Carries (testKey test) operand := by
  cases o with
  | eq | ne | gt | gte | lt | lte =>
    cases ht
    cases hr
    exact .present (testKey_compare_mem _) hv
  | like | notLike =>
    cases caseSensitive <;> cases ht <;> cases hr <;> exact .present (testKey_compare_mem _) hv
  | within | notWithin =>
    cases ht
    cases hr
    exact .members (by decide)
  | between | notBetween => exact carries_bounds (Except.ok.inj ht) hr
  | null | notNull =>
    cases ht
    cases hr
    exact .sense _
  | date =>
    obtain ⟨found, hfound, hsome⟩ := Outcome.map_eq_ok.mp ht
    obtain ⟨s, rfl, hs⟩ := Option.map_eq_some_iff.mp hsome
    cases hs
    obtain ⟨d, _, hd⟩ := Outcome.map_eq_ok.mp hfound
    obtain ⟨d, _, rfl⟩ := Option.map_eq_some_iff.mp hd
    cases hr
    exact .day d.writesDay_iso
  | month | year | day => exact carries_part ht hr

end Condition

namespace ConditionQuery

/-- A step that leaves a query as it is or records one condition, one with a given property. -/
def Emits (P : Condition → Prop) (q : ConditionQuery) (b : Building ConditionQuery α) : Prop :=
  b.query = q ∨ ∃ c, P c ∧ b.query = q.record c

namespace Emits

variable {P : Condition → Prop} {q : ConditionQuery}

theorem aside (x : Traced α) : Emits P q (Building.aside q x) :=
  Or.inl rfl

theorem after {x : Traced α} {f : α → ConditionQuery → Building ConditionQuery β}
    (h : ∀ a, x.result = .ok a → Emits P q (f a q)) :
    Emits P q ((Building.aside q x).andThen f) := by
  cases hx : x.result with
  | error e =>
    rw [andThen_of_error (x := Building.aside q x) f hx]
    exact Or.inl rfl
  | ok a =>
    rw [andThen_of_ok (x := Building.aside q x) f hx]
    exact h a hx

theorem noted {b : Building ConditionQuery α} (h : Emits P q b) (note : α → Traced β) :
    Emits P q (b.andThen fun a q => Building.aside q (note a)) := by
  cases hb : b.result with
  | error e =>
    rw [andThen_of_error _ hb]
    exact h
  | ok a =>
    rw [andThen_of_ok _ hb]
    exact h

theorem takingUp {sub : ConditionQuery} {asked : Building ConditionQuery α} {relation : String}
    (hP : ∀ c, P c → P (.has relation [c])) (hs : sub.nodes = []) (h : Emits P sub asked) :
    Emits P q (Building.takingUp q relation asked) := by
  cases hr : asked.result with
  | error e =>
    rw [takingUp_of_error relation hr]
    exact Or.inl rfl
  | ok a =>
    rw [takingUp_of_ok relation hr]
    rcases h with h | ⟨c, hc, h⟩
    · refine Or.inl (attach_of_nodes_eq_nil relation ?_)
      rw [h, hs]
    · refine Or.inr ⟨_, hP c hc, ?_⟩
      show q.attach relation asked.query = _
      rw [h, attach_record relation c hs]

theorem behind {ask : ConditionQuery → Building ConditionQuery Bool} {relation : String}
    (hP : ∀ c, P c → P (.has relation [c])) (h : ∀ sub, Emits P sub (ask sub)) :
    Emits P q (Building.behind q relation ask) := by
  refine after fun found hfound => ?_
  cases found with
  | none => exact Or.inl rfl
  | some sub =>
    obtain ⟨v, table, _, _, hsub⟩ := scope_eq_some.mp hfound
    exact takingUp hP (by rw [hsub]) (h sub)

theorem mem_nodes {b : Building ConditionQuery α} (h : Emits P q b) (hq : q.nodes = [])
    {c : Condition} (hc : c ∈ b.query.nodes) : P c := by
  rcases h with h | ⟨c', hP, h⟩
  · rw [h, hq] at hc
    cases hc
  · rw [h, record, hq, List.nil_append, List.mem_singleton] at hc
    rwa [hc]

end Emits

end ConditionQuery

namespace Scope

open ConditionQuery

/-- A condition whose written form is well formed. -/
def Sound (c : Condition) : Prop :=
  Condition.WellFormed c.toValue

theorem sound_leaf {column : String} {test : Test} {operand : Value}
    (h : Condition.Carries (Condition.testKey test) operand) :
    Sound (.leaf ⟨.text column, test, operand⟩) := by
  rw [Sound, Condition.toValue]
  exact .leaf h

theorem sound_has (relation : String) (c : Condition) (h : Sound c) :
    Sound (.has relation [c]) := by
  rw [Sound, Condition.toValue, Condition.toValues_eq_map]
  exact .has h

variable {x : Scope} {config : FilterConfig} {spec : FilterSpec} {q : ConditionQuery}

theorem emits_applyPredicate (hv : spec.isEmpty = false) (column : String) :
    Emits Sound q (x.applyPredicate config spec column q) := by
  refine .after fun v hcoerced => ?_
  refine .noted ?_ fun applied => x.announce spec column v applied
  unfold dispatch
  cases Operator.ofValue? (.text spec.operator) with
  | none => cases config.strict <;> exact .aside _
  | some o =>
    refine .after fun asked htest => ?_
    cases asked with
    | none => exact Or.inl rfl
    | some asked =>
      simp only [adding_eq, add_eq]
      cases hr : recordedOperand asked.1 asked.2 with
      | error e => exact Or.inl rfl
      | ok operand =>
        exact Or.inr ⟨_, sound_leaf (Condition.carries_of_test? (isBlank_coerce hcoerced hv)
          htest hr), rfl⟩

theorem emits_applyLocal (hv : spec.isEmpty = false) (field : String) :
    Emits Sound q (x.applyLocal config spec field q) := by
  refine .after fun fields _ => ?_
  split
  · exact .aside _
  · exact .after fun table _ => emits_applyPredicate hv _

theorem emits_applyFallback (hv : spec.isEmpty = false) (parts : List String) :
    Emits Sound q (x.applyFallback config spec parts q) := by
  unfold applyFallback
  split
  · exact .after fun table _ => emits_applyPredicate hv _
  · exact .aside _

theorem emits_applyPath (hv : spec.isEmpty = false) (parts : List String) :
    Emits Sound q (x.applyPath config spec parts q) := by
  induction parts generalizing x config q with
  | nil => exact Or.inl rfl
  | cons name parts ih =>
    cases parts with
    | nil => exact emits_applyLocal hv name
    | cons next rest =>
      refine .after fun first _ => ?_
      cases first with
      | none => exact .aside _
      | some r =>
        dsimp only
        split
        · exact .aside _
        · refine .behind (sound_has name) fun sub => ?_
          split
          · exact ih
          · exact emits_applyFallback hv _

theorem emits_applySingle (x : Scope) (config : FilterConfig) (spec : FilterSpec)
    (q : ConditionQuery) : Emits Sound q (x.applySingle config spec q) := by
  unfold applySingle
  split
  · exact Or.inl rfl
  · have hv : spec.isEmpty = false := by simp_all
    split
    · exact emits_applyPath hv _
    · exact emits_applyLocal hv _

theorem sound_of_mem_contribution {c : Condition} (h : c ∈ x.contribution config q spec) :
    Sound c :=
  (x.emits_applySingle config spec q.cleared).mem_nodes rfl h

/-- However a call on a fresh query ends, what stands in the query then is nothing, or a
conjunction of well-formed conditions. -/
theorem apply_wellFormed (x : Scope) (hq : q.nodes = []) (filters options source : Value) :
    (x.apply filters options source q).query.toValue = .dict [] ∨
    ∃ vs, vs ≠ [] ∧
      (x.apply filters options source q).query.toValue = .dict [("$and", .list vs)] ∧
      ∀ v ∈ vs, Condition.WellFormed v := by
  have hsound : ∀ c ∈ (x.apply filters options source q).query.nodes, Sound c := by
    rcases x.query_apply filters options source q with h | ⟨specs, config, _, h⟩
    · simp [h, hq]
    · obtain ⟨ended, _, hended, _⟩ := x.query_applyFilters config specs q
      intro c hc
      rw [h, hended, recordAll, hq, List.nil_append, List.mem_flatMap] at hc
      obtain ⟨spec, _, hc⟩ := hc
      exact sound_of_mem_contribution hc
  rw [ConditionQuery.toValue, Condition.toValues_eq_map]
  cases hnodes : (x.apply filters options source q).query.nodes with
  | nil => exact Or.inl rfl
  | cons c cs =>
    refine Or.inr ⟨(c :: cs).map Condition.toValue, by simp, rfl, fun v hv => ?_⟩
    obtain ⟨c', hc', rfl⟩ := List.mem_map.mp hv
    exact hsound c' (hnodes ▸ hc')

/-- Nodes whose parent stands below the first five. -/
def belowFilter : FilterSpec :=
  { field := "parent.parent_id", value := .list [.int 1, .text "5"], operator := "between"
    type := "integer" }

def belowFilters : Value :=
  .dict [("parent.parent_id", belowFilter.toValue)]

def writtenBelow : Value :=
  .dict [("$has", .dict [("relation", .text "parent"), ("where", .dict [("$and",
    .list [.dict [("nodes.parent_id", .dict [("$between", .list [.int 1, .int 5])])]])])])]

theorem belowFilter_accepts :
    nodes.Accepts {} belowFilter (.between false) (.list [.int 1, .int 5]) := by
  have ht : belowFilter.typeTag = some .integer := FieldType.parse?_symbol .integer
  have ho : belowFilter.operatorTag = some .between := Operator.parse?_symbol .between
  refine ⟨.list [.int 1, .int 5], .between, .list [.int 1, .int 5], ?_, ho, rfl, rfl⟩
  rw [ht, ho]
  rfl

theorem applySingle_belowFilter :
    (nodes.applySingle {} belowFilter allNodes).result = .ok true ∧
      (nodes.applySingle {} belowFilter allNodes).query = allNodes.record (.has "parent"
        [.leaf ⟨.text "nodes.parent_id", .between false, .list [.int 1, .int 5]⟩]) := by
  have hrun : nodes.applySingle {} belowFilter allNodes = takingUp allNodes "parent"
      (nodes.applyPredicate { maxDepth := 1 } belowFilter "nodes.parent_id" allNodes) := rfl
  have hh := applyPredicate_of_accepts allNodes "nodes.parent_id" belowFilter_accepts
  rw [hrun, result_takingUp]
  exact ⟨hh.1, query_takingUp rfl hh.1 hh.2⟩

theorem toValue_apply_belowFilters :
    (nodes.apply belowFilters .null .null allNodes).query.toValue =
      .dict [("$and", .list [writtenBelow])] := by
  have hprepare : (nodes.prepare belowFilters .null .null).result =
      .ok (some ([belowFilter], {})) := rfl
  have hh := applySingle_belowFilter
  rw [query_apply_of_prepared hprepare, applyFilters_singleton, andThen_of_ok _ hh.1, hh.2]
  rfl

theorem writtenBelow_wellFormed : Condition.WellFormed writtenBelow := by
  rcases apply_wellFormed nodes (q := allNodes) rfl belowFilters .null .null with
    h | ⟨vs, _, h, hvs⟩
  · rw [toValue_apply_belowFilters] at h
    cases h
  · rw [toValue_apply_belowFilters] at h
    cases h
    exact hvs _ List.mem_cons_self

end Scope

end QueryFilter
