import QueryFilter.Application
import QueryFilter.Condition
import QueryFilter.Proofs.Contribution
import QueryFilter.Proofs.Route
import QueryFilter.Proofs.Unrefused

/-! What letter case and strict mode may change. Every run is compared with the run that regards
letter case and skips unknown operators: it is stopped for an operator, in strict mode, or it ends
as that run does, with the same conditions up to the letter case that patterns regard. -/

namespace QueryFilter

open Building Traced

/-- The comparison of the same sense that regards letter case. -/
def Comparison.caseless : Comparison → Comparison
  | .ilike => .like
  | .notIlike => .notLike
  | c => c

def Test.caseless : Test → Test
  | .compare c => .compare c.caseless
  | test => test

theorem Test.caseless_caseless (test : Test) : test.caseless.caseless = test.caseless := by
  cases test with
  | compare c => cases c <;> rfl
  | _ => rfl

namespace Condition

mutual

/-- A condition with the letter case that its patterns regard forgotten, at every level. -/
def caseless : Condition → Condition
  | .leaf p => .leaf { p with test := p.test.caseless }
  | .has relation inner => .has relation (caselessAll inner)

def caselessAll : List Condition → List Condition
  | [] => []
  | c :: cs => caseless c :: caselessAll cs

end

theorem caselessAll_eq_map (cs : List Condition) : caselessAll cs = cs.map caseless := by
  induction cs with
  | nil => simp [caselessAll]
  | cons c cs ih => simp [caselessAll, ih]

theorem caselessAll_append (cs ds : List Condition) :
    caselessAll (cs ++ ds) = caselessAll cs ++ caselessAll ds := by
  simp [caselessAll_eq_map]

theorem isEmpty_caselessAll (cs : List Condition) : (caselessAll cs).isEmpty = cs.isEmpty := by
  simp [caselessAll_eq_map]

end Condition

namespace ConditionQuery

variable {q q₀ sub sub₀ : ConditionQuery}

def caseless (q : ConditionQuery) : ConditionQuery :=
  { q with nodes := Condition.caselessAll q.nodes }

theorem table_of_caseless (h : q.caseless = q₀.caseless) : q.table = q₀.table := by
  have hh : q.caseless.table = q₀.caseless.table := congrArg table h
  exact hh

/-- Where a relation leads does not depend on what a query has recorded. -/
theorem scope_of_caseless (h : q.caseless = q₀.caseless) (relation : String) :
    q.scope relation = q₀.scope relation := by
  have hh : q.caseless.scope relation = q₀.caseless.scope relation := congrArg (scope · relation) h
  exact hh

theorem caseless_record {c c₀ : Condition} (h : q.caseless = q₀.caseless)
    (hc : c.caseless = c₀.caseless) : (q.record c).caseless = (q₀.record c₀).caseless := by
  obtain ⟨catalog, settings, subject, table, nodes⟩ := q
  obtain ⟨catalog₀, settings₀, subject₀, table₀, nodes₀⟩ := q₀
  simp only [caseless, mk.injEq] at h
  simp only [caseless, record, Condition.caselessAll_append, Condition.caselessAll, hc, h]

theorem caseless_attach (relation : String) (h : q.caseless = q₀.caseless)
    (hs : sub.caseless = sub₀.caseless) :
    (q.attach relation sub).caseless = (q₀.attach relation sub₀).caseless := by
  have hnodes : Condition.caselessAll sub.nodes = Condition.caselessAll sub₀.nodes :=
    congrArg nodes hs
  have hempty : sub.nodes.isEmpty = sub₀.nodes.isEmpty := by
    rw [← Condition.isEmpty_caselessAll, hnodes, Condition.isEmpty_caselessAll]
  unfold attach
  rw [hempty]
  split
  · exact h
  · exact caseless_record h (by simp only [Condition.caseless, hnodes])

theorem recordedOperand_caseless (test : Test) (operand : Value) :
    recordedOperand test.caseless operand = recordedOperand test operand := by
  cases test <;> rfl

/-- A predicate is recorded for every letter case alike. -/
theorem map_caseless_add (p : Predicate) (h : q.caseless = q₀.caseless) :
    (q₀.add { p with test := p.test.caseless }).map caseless = (q.add p).map caseless := by
  rw [add_eq, add_eq, recordedOperand_caseless]
  cases recordedOperand p.test p.operand with
  | error e => rfl
  | ok operand =>
    have hr : (q₀.record (.leaf { p with test := p.test.caseless, operand })).caseless =
        (q.record (.leaf { p with operand })).caseless :=
      caseless_record h.symm (by simp only [Condition.caseless, Test.caseless_caseless])
    cases p.column.isHashable with
    | false => rfl
    | true => simp only [Except.bind, if_true, Except.map, hr]

end ConditionQuery

/-- The configuration that regards letter case and skips unknown operators. -/
def FilterConfig.plain (c : FilterConfig) : FilterConfig :=
  { c with caseSensitive := true, strict := false }

/-- A computation that is stopped for an operator, in strict mode, or ends as another one does and
leaves the same query up to letter case. -/
inductive Tempered {α : Type} (strict : Bool) (m m₀ : Building ConditionQuery α) : Prop
  | stopped {r : Refusal} (h : m.result = .error (.refused r)) (hk : r.kind = .operator)
    (hs : strict = true)
  | alike (hu : Unrefused m.result) (hr : m.result = m₀.result)
    (hq : m.query.caseless = m₀.query.caseless)

namespace Tempered

variable {α β : Type} {strict : Bool} {q q₀ : ConditionQuery}

theorem done (a : α) (h : q.caseless = q₀.caseless) :
    Tempered strict (Building.done a q) (Building.done a q₀) :=
  .alike (.ok a) rfl h

theorem aside {t : Traced α} (ht : Unrefused t.result) (h : q.caseless = q₀.caseless) :
    Tempered strict (Building.aside q t) (Building.aside q₀ t) :=
  .alike ht rfl h

theorem failed {lines lines₀ : List LogLine} {e : Fault} (he : ∀ r, e ≠ .refused r)
    (h : q.caseless = q₀.caseless) :
    Tempered strict (⟨lines, q, .error e⟩ : Building ConditionQuery α) ⟨lines₀, q₀, .error e⟩ :=
  .alike (fun r hr => he r (Except.error.inj hr)) rfl h

theorem andThen {m m₀ : Building ConditionQuery α}
    {f f₀ : α → ConditionQuery → Building ConditionQuery β} (h : Tempered strict m m₀)
    (hf : ∀ a q q₀, q.caseless = q₀.caseless → Tempered strict (f a q) (f₀ a q₀)) :
    Tempered strict (m.andThen f) (m₀.andThen f₀) := by
  cases h with
  | stopped h hk hs => exact .stopped (andThen_eq_error.mpr (Or.inl h)) hk hs
  | alike hu hr hq =>
    cases hm : m.result with
    | error e =>
      rw [andThen_of_error f hm, andThen_of_error f₀ (hr.symm.trans hm)]
      exact .failed (hu.of_error hm) hq
    | ok a =>
      rw [andThen_of_ok f hm, andThen_of_ok f₀ (hr.symm.trans hm)]
      cases hf a m.query m₀.query hq with
      | stopped h hk hs => exact .stopped h hk hs
      | alike hu hr hq => exact .alike hu hr hq

theorem after {t : Traced α} {f f₀ : α → ConditionQuery → Building ConditionQuery β}
    (ht : Unrefused t.result) (h : q.caseless = q₀.caseless)
    (hf : ∀ a q q₀, q.caseless = q₀.caseless → Tempered strict (f a q) (f₀ a q₀)) :
    Tempered strict ((Building.aside q t).andThen f) ((Building.aside q₀ t).andThen f₀) :=
  (aside ht h).andThen hf

theorem afterMap {γ : Type} {x : Except Fault α} {g : α → γ}
    {f : α → ConditionQuery → Building ConditionQuery β}
    {f₀ : γ → ConditionQuery → Building ConditionQuery β} (hx : Unrefused x)
    (h : q.caseless = q₀.caseless) (hf : ∀ a, Tempered strict (f a q) (f₀ (g a) q₀)) :
    Tempered strict ((Building.aside q (ofExcept x)).andThen f)
      ((Building.aside q₀ (ofExcept (x.map g))).andThen f₀) := by
  cases x with
  | error e => exact .failed (hx.of_error rfl) h
  | ok a => exact hf a

theorem adding (p : Predicate) (h : q.caseless = q₀.caseless) :
    Tempered strict (Building.adding q p)
      (Building.adding q₀ { p with test := p.test.caseless }) := by
  have hadd := ConditionQuery.map_caseless_add p h
  rw [ConditionQuery.adding_eq, ConditionQuery.adding_eq]
  cases hq : q.add p with
  | error e =>
    rw [hq] at hadd
    rw [Outcome.map_eq_error.mp hadd]
    exact .failed ((q.unrefused_add p).of_error hq) h
  | ok left =>
    rw [hq] at hadd
    obtain ⟨left₀, hq₀, hleft⟩ := Outcome.map_eq_ok.mp hadd
    rw [hq₀]
    exact .alike (.ok true) rfl hleft.symm

theorem behind {ask ask₀ : ConditionQuery → Building ConditionQuery Bool} (relation : String)
    (h : q.caseless = q₀.caseless) (ha : ∀ sub, Tempered strict (ask sub) (ask₀ sub)) :
    Tempered strict (Building.behind q relation ask) (Building.behind q₀ relation ask₀) := by
  have hscope : (Backend.scope q₀ relation : Traced (Option ConditionQuery)) =
      Backend.scope q relation :=
    congrArg ofExcept (ConditionQuery.scope_of_caseless h relation).symm
  unfold Building.behind
  rw [hscope]
  refine .after (q.unrefused_scope relation) h fun found q q₀ h => ?_
  cases found with
  | none => exact .done false h
  | some sub =>
    cases ha sub with
    | stopped hr hk hs =>
      dsimp only
      rw [takingUp_of_error relation hr]
      exact .stopped rfl hk hs
    | alike hu hr hq =>
      dsimp only
      cases hm : (ask sub).result with
      | error e =>
        -- What was asked behind the relation is lost, so the outer queries stay as they were.
        rw [takingUp_of_error relation hm, takingUp_of_error relation (hr.symm.trans hm)]
        exact .failed (hu.of_error hm) h
      | ok b =>
        rw [takingUp_of_ok relation hm, takingUp_of_ok relation (hr.symm.trans hm)]
        exact .alike (.ok b) rfl (ConditionQuery.caseless_attach relation h hq)

end Tempered

/-- Letter case changes the test of an operator at most, and that in letter case alone. -/
theorem Operator.test?_caseless (o : Operator) (rule : Calendar.WeekRule) (format : Value)
    (caseSensitive : Bool) (v : Value) : o.test? rule format true v =
      (o.test? rule format caseSensitive v).map
        (·.map fun asked => (asked.1.caseless, asked.2)) := by
  cases o with
  | like => cases caseSensitive <;> rfl
  | notLike => cases caseSensitive <;> rfl
  | between => simp only [Operator.test?, Except.map, Option.map_map]; rfl
  | notBetween => simp only [Operator.test?, Except.map, Option.map_map]; rfl
  | date => cases h : v.isoDay? rule format <;> simp [Operator.test?, h, Except.map]; rfl
  | month => cases h : partOf v <;> simp [Operator.test?, h, Except.map]; rfl
  | year => cases h : partOf v <;> simp [Operator.test?, h, Except.map]; rfl
  | day => cases h : partOf v <;> simp [Operator.test?, h, Except.map]; rfl
  | _ => rfl

variable {q q₀ : ConditionQuery}

theorem tempered_dispatch (rule : Calendar.WeekRule) (format : Value) (config : FilterConfig)
    (operator column v : Value) (h : q.caseless = q₀.caseless) :
    Tempered config.strict (dispatch rule format config operator column v q)
      (dispatch rule format config.plain operator column v q₀) := by
  unfold dispatch
  cases Operator.ofValue? operator with
  | none =>
    cases hs : config.strict with
    | true => exact .stopped rfl rfl rfl
    | false => exact .aside (.ok false) h
  | some o =>
    dsimp only [FilterConfig.plain]
    rw [o.test?_caseless rule format config.caseSensitive v]
    refine .afterMap (unrefused_test? o rule format config.caseSensitive v) h fun asked => ?_
    cases asked with
    | none => exact .done false h
    | some asked => exact .adding ⟨column, asked.1, asked.2⟩ h

namespace Tempered

variable {α : Type} {strict strict' : Bool} {m m' m₀ : Building ConditionQuery α}

theorem refused (h : Tempered strict m m₀) {r : Refusal} (hr : m.result = .error (.refused r)) :
    strict = true := by
  cases h with
  | stopped _ _ hs => exact hs
  | alike hu _ _ => exact absurd hr (hu r)

/-- What ends or fails for anything but an operator does so under the plain configuration. -/
theorem result_eq (h : Tempered strict m m₀)
    (hk : ∀ r, m.result = .error (.refused r) → r.kind ≠ .operator) :
    m.result = m₀.result ∧ m.query.caseless = m₀.query.caseless := by
  cases h with
  | stopped hr hkind _ => exact absurd hkind (hk _ hr)
  | alike _ hr hq => exact ⟨hr, hq⟩

end Tempered

namespace Scope

variable (x : Scope)

theorem tempered_applyPredicate (config : FilterConfig) (spec : FilterSpec) (column : String)
    (h : q.caseless = q₀.caseless) : Tempered config.strict
      (x.applyPredicate config spec column q) (x.applyPredicate config.plain spec column q₀) := by
  refine .after (unrefused_coerce _ _ _ _) h fun v q q₀ h => ?_
  refine (tempered_dispatch _ _ config _ _ v h).andThen fun applied q q₀ h => ?_
  refine .aside ?_ h
  rw [announce_result]
  exact .ok applied

theorem tempered_applyLocal (config : FilterConfig) (spec : FilterSpec) (field : String)
    (h : q.caseless = q₀.caseless) : Tempered config.strict
      (x.applyLocal config spec field q) (x.applyLocal config.plain spec field q₀) := by
  refine .after x.unrefused_fields h fun fields q q₀ h => ?_
  cases fields.has field with
  | false =>
    refine .aside ?_ h
    intro r hr
    rcases bind_result_eq_error.mp hr with hr | ⟨name, _, hr⟩
    · exact x.unrefused_entityName r hr
    · cases hr
  | true => exact .after x.unrefused_table h fun table q q₀ h =>
      x.tempered_applyPredicate config spec _ h

theorem tempered_applyFallback (config : FilterConfig) (spec : FilterSpec) (parts : List String)
    (h : q.caseless = q₀.caseless) : Tempered config.strict
      (x.applyFallback config spec parts q) (x.applyFallback config.plain spec parts q₀) := by
  have htable : (Backend.table q₀ : Except Fault String) = Backend.table q :=
    congrArg Except.ok (ConditionQuery.table_of_caseless h).symm
  unfold applyFallback
  split
  · rw [htable]
    exact .after (.ok q.table) h fun table q q₀ h => x.tempered_applyPredicate config spec _ h
  · exact .aside (.ok false) h

theorem tempered_applyPath (config : FilterConfig) (spec : FilterSpec) (parts : List String)
    (h : q.caseless = q₀.caseless) : Tempered config.strict
      (x.applyPath config spec parts q) (x.applyPath config.plain spec parts q₀) := by
  induction parts generalizing x config q q₀ with
  | nil => exact .done false h
  | cons name parts ih =>
    cases parts with
    | nil => exact x.tempered_applyLocal config spec name h
    | cons next rest =>
      refine .after (x.unrefused_firstRelation? name (next :: rest)) h fun first q q₀ h => ?_
      cases first with
      | none => exact .aside (.ok false) h
      | some r =>
        have hdepth : depthFor config.plain r = depthFor config r := rfl
        simp only [hdepth]
        by_cases hd : depthFor config r ≤ 0
        · simp only [hd, if_true]
          exact .aside (.ok false) h
        · simp only [hd, if_false]
          refine .behind name h fun sub => ?_
          split
          · exact ih _ (config.descend _) rfl
          · exact tempered_applyFallback _ (config.descend _) spec _ rfl

theorem tempered_applySingle (config : FilterConfig) (spec : FilterSpec)
    (h : q.caseless = q₀.caseless) : Tempered config.strict
      (x.applySingle config spec q) (x.applySingle config.plain spec q₀) := by
  have hdeep : config.plain.deep = config.deep := rfl
  unfold applySingle
  simp only [hdeep]
  split
  · exact .done false h
  · split
    · exact x.tempered_applyPath config spec _ h
    · exact x.tempered_applyLocal config spec _ h

theorem tempered_applyFilters (config : FilterConfig) (specs : List FilterSpec)
    (h : q.caseless = q₀.caseless) : Tempered config.strict
      (x.applyFilters config specs q) (x.applyFilters config.plain specs q₀) := by
  induction specs generalizing q q₀ with
  | nil => exact .done 0 h
  | cons spec specs ih =>
    refine (x.tempered_applySingle config spec h).andThen fun applied q q₀ h => ?_
    exact (ih h).andThen fun n q q₀ h => .done _ h

variable {x}

/-- Configurations that agree on depth and on deep paths find the same predicates. Runs that both
end have counted the same and recorded the same up to letter case. An operator is refused in strict
mode only, and a run that fails there for any other reason fails in the same way outside of it. -/
theorem applyFilters_caseless (config config' : FilterConfig) (hdeep : config.deep = config'.deep)
    (hdepth : config.maxDepth = config'.maxDepth) (specs : List FilterSpec) (q : ConditionQuery) :
    (∀ n n', (x.applyFilters config specs q).result = .ok n →
      (x.applyFilters config' specs q).result = .ok n' →
      n = n' ∧ Condition.caselessAll (x.applyFilters config specs q).query.nodes =
        Condition.caselessAll (x.applyFilters config' specs q).query.nodes) ∧
    (config.strict = false → ∀ r, (x.applyFilters config specs q).result = .error (.refused r) →
      r.kind ≠ .operator) ∧
    (config.strict = true → config'.strict = false → ∀ e,
      (x.applyFilters config specs q).result = .error e →
      (∀ r, e = .refused r → r.kind ≠ .operator) →
      (x.applyFilters config' specs q).result = .error e) := by
  have hplain : config.plain = config'.plain := by
    simp only [FilterConfig.plain, hdeep, hdepth]
  have hrun := x.tempered_applyFilters config specs (q := q) rfl
  have hrun' := x.tempered_applyFilters config' specs (q := q) rfl
  rw [← hplain] at hrun'
  refine ⟨fun n n' hn hn' => ?_, fun hlax r hr => ?_, fun _ hlax' e he hk => ?_⟩
  · obtain ⟨hresult, hquery⟩ := hrun.result_eq fun r hr => by simp [hn] at hr
    obtain ⟨hresult', hquery'⟩ := hrun'.result_eq fun r hr => by simp [hn'] at hr
    refine ⟨?_, congrArg ConditionQuery.nodes (hquery.trans hquery'.symm)⟩
    rw [← hresult', hn', hn] at hresult
    exact Except.ok.inj hresult
  · have hstrict := hrun.refused hr
    rw [hlax] at hstrict
    cases hstrict
  · obtain ⟨hresult, _⟩ := hrun.result_eq fun r hr => hk r (Except.error.inj (he.symm.trans hr))
    obtain ⟨hresult', _⟩ := hrun'.result_eq fun r hr => by
      have hstrict := hrun'.refused hr
      rw [hlax'] at hstrict
      cases hstrict
    rw [hresult', ← hresult, he]

/-- Nodes whose parent has an `x` in its name. -/
def likeFilter : FilterSpec :=
  { field := "parent.name", value := .text "x", operator := "like" }

def likeCondition (caseSensitive : Bool) : Condition :=
  .has "parent" [.leaf ⟨.text "nodes.name", patternTest caseSensitive false, .text "%x%"⟩]

theorem applySingle_likeFilter (caseSensitive strict : Bool) :
    (nodes.applySingle { caseSensitive, strict } likeFilter allNodes).result = .ok true ∧
    (nodes.applySingle { caseSensitive, strict } likeFilter allNodes).query =
      allNodes.record (likeCondition caseSensitive) := by
  have hrun : nodes.applySingle { caseSensitive, strict } likeFilter allNodes =
      takingUp allNodes "parent" (nodes.applyPredicate { maxDepth := 1, caseSensitive, strict }
        likeFilter "nodes.name" allNodes) := rfl
  have ht : likeFilter.typeTag = some .string := FieldType.parse?_symbol .string
  have ho : likeFilter.operatorTag = some .like := Operator.parse?_symbol .like
  have hacc : nodes.Accepts { maxDepth := 1, caseSensitive, strict } likeFilter
      (patternTest caseSensitive false) (.text "%x%") := by
    refine ⟨.text "%x%", .like, .text "%x%", ?_, ho, rfl, ?_⟩
    · rw [ht, ho]
      rfl
    · cases caseSensitive <;> rfl
  obtain ⟨hresult, hquery⟩ := applyPredicate_of_accepts allNodes "nodes.name" hacc
  rw [hrun, takingUp_of_ok "parent" hresult, hquery]
  exact ⟨rfl, rfl⟩

theorem applyFilters_likeFilter (caseSensitive strict : Bool) :
    (nodes.applyFilters { caseSensitive, strict } [likeFilter] allNodes).result = .ok 1 ∧
    (nodes.applyFilters { caseSensitive, strict } [likeFilter] allNodes).query =
      allNodes.record (likeCondition caseSensitive) := by
  obtain ⟨hresult, hquery⟩ := applySingle_likeFilter caseSensitive strict
  rw [applyFilters, andThen_of_ok _ hresult, hquery]
  exact ⟨rfl, rfl⟩

theorem likeCondition_caseless : likeCondition true ≠ likeCondition false ∧
    Condition.caselessAll [likeCondition true] = Condition.caselessAll [likeCondition false] := by
  obtain ⟨hresult, hquery⟩ := applyFilters_likeFilter true true
  obtain ⟨hresult', hquery'⟩ := applyFilters_likeFilter false false
  have hh := ((applyFilters_caseless (x := nodes) { caseSensitive := true, strict := true } {}
    rfl rfl [likeFilter] allNodes).1 1 1 hresult hresult').2
  rw [hquery, hquery'] at hh
  refine ⟨fun h => ?_, hh⟩
  simp [likeCondition, patternTest] at h

end Scope

end QueryFilter
