import QueryFilter.Proofs.Landing
import QueryFilter.Proofs.Route

/-! The tables that qualify the columns of conditions. A fallback goes by the table of its query,
and so does everything behind relations, where queries are over the tables of their subjects. A
filter on the entity itself goes by the table of the entity, and a query may have been given
another. -/

namespace QueryFilter

open Building Traced

theorem Column.qualify_inj {table table' column : String} :
    qualify table column = qualify table' column ↔ table = table' := by
  refine ⟨fun h => ?_, fun h => by rw [h]⟩
  have hlen := congrArg String.length h
  unfold qualify at h hlen
  by_cases ht : table = ""
  · by_cases ht' : table' = ""
    · rw [ht, ht']
    · simp [ht, ht'] at hlen
  · by_cases ht' : table' = ""
    · simp [ht, ht'] at hlen
    · simpa [ht, ht'] using h

namespace ConditionQuery

/-- The condition that a path stands for in a query. The last part of the path names a column of
the table of the query that the parts before it lead to. -/
inductive Qualified : ConditionQuery → List String → Condition → Prop
  | column (q : ConditionQuery) (column : String) (test : Test) (operand : Value) :
      Qualified q [column] (.leaf ⟨.text (Column.qualify q.table column), test, operand⟩)
  | behind {q sub : ConditionQuery} {name next : String} {rest : List String} {c : Condition}
      (hs : q.scope name = .ok (some sub)) (h : Qualified sub (next :: rest) c) :
      Qualified q (name :: next :: rest) (.has name [c])

/-- Once a computation answers yes, it has added the condition of a path. -/
def Adds (q : ConditionQuery) (parts : List String) (b : Building ConditionQuery Bool) : Prop :=
  b.result = .ok true → ∃ c, b.query = q.record c ∧ q.Qualified parts c

/-- A query over the table of its subject. -/
def HasOwnTable (q : ConditionQuery) : Prop :=
  subjectTable q.catalog q.subject = .ok q.table

variable {q sub : ConditionQuery} {name next column table : String} {rest parts : List String}
  {test : Test} {operand : Value} {c : Condition}

theorem qualified_leaf_iff :
    q.Qualified [column] (.leaf ⟨.text (Column.qualify table column), test, operand⟩) ↔
      q.table = table := by
  constructor
  · intro h
    generalize hs : Column.qualify table column = s at h
    cases h
    exact (Column.qualify_inj.mp hs).symm
  · rintro rfl
    exact .column q column test operand

theorem Qualified.of_cleared (h : q.cleared.Qualified parts c) : q.Qualified parts c := by
  cases h with
  | column => exact .column q _ _ _
  | behind hs h => exact .behind hs h

theorem hasOwnTable_of_start {catalog : Catalog} {settings : Settings} {v : Value}
    (h : start catalog settings v none = .ok q) : q.HasOwnTable := by
  obtain ⟨table, htable, rfl⟩ := Outcome.map_eq_ok.mp h
  exact htable

theorem hasOwnTable_of_scope (h : q.scope name = .ok (some sub)) : sub.HasOwnTable := by
  obtain ⟨v, table, _, htable, rfl⟩ := scope_eq_some.mp h
  exact htable

namespace Adds

theorem dropping {x : Traced Bool} (h : x.result ≠ .ok true) : q.Adds parts (aside q x) :=
  fun hb => absurd hb h

theorem after {α : Type} {x : Except Fault α}
    {f : α → ConditionQuery → Building ConditionQuery Bool}
    (h : ∀ a, x = .ok a → q.Adds parts (f a q)) :
    q.Adds parts ((aside q (ofExcept x)).andThen f) := by
  cases x with
  | ok a => exact h a rfl
  | error e => exact nofun

theorem behind {ask : ConditionQuery → Building ConditionQuery Bool}
    (h : ∀ sub, q.scope name = .ok (some sub) → sub.Adds (next :: rest) (ask sub)) :
    q.Adds (name :: next :: rest) (Building.behind q name ask) := by
  refine after fun found hs => ?_
  cases found with
  | none => exact nofun
  | some sub =>
    intro hb
    rw [Scope.result_takingUp] at hb
    obtain ⟨c, hquery, hc⟩ := h sub hs hb
    obtain ⟨v, table, _, _, hsub⟩ := scope_eq_some.mp hs
    exact ⟨.has name [c], Scope.query_takingUp (by rw [hsub]) hb hquery, .behind hs hc⟩

end Adds

end ConditionQuery

namespace Scope

open ConditionQuery

variable {x : Scope} {q : ConditionQuery} {config : FilterConfig} {spec : FilterSpec}
  {field table : String} {parts : List String}

theorem adds_applyPredicate (x : Scope) (config : FilterConfig) (spec : FilterSpec)
    (column : String) (q : ConditionQuery) :
    q.Adds [column] (x.applyPredicate config spec (Column.qualify q.table column) q) := by
  intro h
  obtain ⟨test, operand, hacc⟩ := accepts_of_applyPredicate h
  exact ⟨_, (applyPredicate_of_accepts q _ hacc).2, .column q column test operand⟩

theorem adds_applyFallback (x : Scope) (config : FilterConfig) (spec : FilterSpec)
    (parts : List String) (q : ConditionQuery) :
    q.Adds parts (x.applyFallback config spec parts q) := by
  unfold applyFallback
  split
  · exact .after fun table htable => by
      cases htable
      exact x.adds_applyPredicate config spec _ q
  · exact .dropping nofun

theorem applyLocal_of_true (h : (x.applyLocal config spec field q).result = .ok true) :
    ∃ table test operand, x.table = .ok table ∧ x.Accepts config spec test operand ∧
      (x.applyLocal config spec field q).query =
        q.record (.leaf ⟨.text (Column.qualify table field), test, operand⟩) := by
  obtain ⟨fields, _, ⟨_, hdropped⟩ | ⟨_, table, htable, heq⟩⟩ :=
    applyLocal_of_decided (decided_of_ok h)
  · rw [hdropped] at h
    cases h
  · rw [heq] at h ⊢
    obtain ⟨test, operand, hacc⟩ := accepts_of_applyPredicate h
    exact ⟨table, test, operand, htable, hacc, (applyPredicate_of_accepts q _ hacc).2⟩

theorem adds_applyLocal (ht : ∀ table, x.table = .ok table → q.table = table) :
    q.Adds [field] (x.applyLocal config spec field q) := by
  intro h
  obtain ⟨table, test, operand, htable, _, hquery⟩ := applyLocal_of_true h
  exact ⟨_, hquery, qualified_leaf_iff.mpr (ht table htable)⟩

theorem subjectTable_of_table (hq : q.Over x) (ht : x.table = .ok table) :
    subjectTable q.catalog q.subject = .ok table := by
  obtain ⟨e, he, ht⟩ := Outcome.bind_eq_ok.mp ht
  rw [hq.catalog, hq.subject, subjectTable, Catalog.filterableEntity_eq_ok.mp he]
  exact ht

/-- A query that was given a table has to be over the one of its subject, unless a relation is
asked for. -/
theorem adds_applyPath (hq : q.Over x) (ht : parts.length = 1 → q.HasOwnTable) :
    q.Adds parts (x.applyPath config spec parts q) := by
  -- Queries behind relations are opened over the tables of their subjects.
  induction parts generalizing x config q with
  | nil => exact nofun
  | cons name parts ih =>
    cases parts with
    | nil =>
      exact adds_applyLocal fun table htable =>
        Except.ok.inj ((ht rfl).symm.trans (subjectTable_of_table hq htable))
    | cons next rest =>
      refine .after fun first _ => ?_
      cases first with
      | none => exact .dropping nofun
      | some r =>
        by_cases hd : depthFor config r ≤ 0
        · simp only [hd, if_true]
          exact .dropping nofun
        · simp only [hd, if_false]
          refine .behind fun sub hs => ?_
          obtain ⟨v, table, _, _, hsub⟩ := scope_eq_some.mp hs
          have hover : sub.Over (x.beyond sub.subject) := ⟨by rw [hsub]; exact hq.catalog, rfl⟩
          split
          · exact ih hover fun _ => hasOwnTable_of_scope hs
          · exact adds_applyFallback _ _ spec _ sub

theorem qualified_applySingle (hq : q.Over x)
    (h : (x.applySingle config spec q).result = .ok true) :
    ∃ c, (x.applySingle config spec q).query = q.record c ∧
      (q.Qualified (spec.asked config) c ↔
        (spec.isPath && config.deep) = true ∨ q.HasOwnTable) := by
  unfold applySingle at h ⊢
  by_cases he : spec.isEmpty = true
  · rw [if_pos he] at h
    cases h
  · rw [if_neg he] at h ⊢
    unfold FilterSpec.asked
    by_cases hp : (spec.isPath && config.deep) = true
    · rw [if_pos hp] at h ⊢
      obtain ⟨name, next, rest, hparts⟩ := pathParts_of_hasDot (Bool.and_eq_true_iff.mp hp).1
      have hlen : (pathParts spec.field).length = 1 → q.HasOwnTable := by simp [hparts]
      obtain ⟨c, hquery, hc⟩ := adds_applyPath hq hlen h
      exact ⟨c, hquery, by rw [if_pos hp]; exact iff_of_true hc (Or.inl hp)⟩
    · rw [if_neg hp] at h ⊢
      obtain ⟨table, test, operand, htable, _, hquery⟩ := applyLocal_of_true h
      refine ⟨_, hquery, ?_⟩
      rw [if_neg hp, qualified_leaf_iff, HasOwnTable, subjectTable_of_table hq htable,
        Except.ok.injEq, eq_comm]
      exact (or_iff_right hp).symm

theorem qualified_of_mem_contribution {c : Condition} (hq : q.Over x) (hown : q.HasOwnTable)
    (hc : c ∈ x.contribution config q spec) : q.Qualified (spec.asked config) c := by
  have hcleared : q.cleared.Over x := ⟨hq.catalog, hq.subject⟩
  have hb := contribution_ne_nil_iff.mp (List.ne_nil_of_mem hc)
  obtain ⟨c', hquery, hc'⟩ := qualified_applySingle hcleared hb
  have hlist : x.contribution config q spec = [c'] := by
    rw [contribution, hquery]
    rfl
  rw [hlist, List.mem_singleton] at hc
  rw [hc]
  exact (hc'.mpr (Or.inr hown)).of_cleared

/-- Where the columns of conditions come from. A condition is qualified by the tables of its
queries if it stands behind a relation, if a fallback adds it, or if its query is over the table
of its subject, as it is when no other was given. In no other case is it. So a run over a query of
the last kind adds qualified conditions only. -/
theorem columns_qualified (hq : q.Over x) :
    (∀ config spec, (x.applySingle config spec q).result = .ok true →
      ∃ c, (x.applySingle config spec q).query = q.record c ∧
        (q.Qualified (spec.asked config) c ↔
          (spec.isPath && config.deep) = true ∨ q.HasOwnTable)) ∧
    (∀ (y : Scope) config spec parts (sub : ConditionQuery),
      (y.applyFallback config spec parts sub).result = .ok true →
      ∃ c, (y.applyFallback config spec parts sub).query = sub.record c ∧
        sub.Qualified parts c) ∧
    (∀ catalog settings v, start catalog settings v none = .ok q → q.HasOwnTable) ∧
    (q.HasOwnTable → ∀ config specs, ∃ cs,
      (x.applyFilters config specs q).query = q.recordAll cs ∧
      ∀ c ∈ cs, ∃ spec ∈ specs, q.Qualified (spec.asked config) c) := by
  refine ⟨fun config spec => qualified_applySingle hq,
    fun y config spec parts sub => y.adds_applyFallback config spec parts sub,
    fun catalog settings v => hasOwnTable_of_start, fun hown config specs => ?_⟩
  obtain ⟨ended, hended, hquery, _⟩ := x.query_applyFilters config specs q
  refine ⟨_, hquery, fun c hc => ?_⟩
  obtain ⟨spec, hspec, hc⟩ := List.mem_flatMap.mp hc
  exact ⟨spec, hended.subset hspec, qualified_of_mem_contribution hq hown hc⟩

/-- The nodes of the tree under another name for their table. -/
def renamedNodes : ConditionQuery :=
  { allNodes with table := "n" }

theorem renamedNodes_parent : ∃ c,
    (nodes.applySingle {} (.equals "parent.name" "x") renamedNodes).query =
        renamedNodes.record c ∧
      renamedNodes.Qualified ["parent", "name"] c := by
  have hrun : nodes.applySingle {} (.equals "parent.name" "x") renamedNodes =
      takingUp renamedNodes "parent" (nodes.applyPredicate { maxDepth := 1 }
        (.equals "parent.name" "x") "nodes.name" allNodes) := rfl
  have hb : (nodes.applySingle {} (.equals "parent.name" "x") renamedNodes).result = .ok true := by
    rw [hrun, result_takingUp, applyPredicate_equals]
    rfl
  have hover : renamedNodes.Over nodes := ⟨rfl, rfl⟩
  obtain ⟨c, hquery, hc⟩ := (columns_qualified hover).1 {} _ hb
  exact ⟨c, hquery, hc.mpr (Or.inl rfl)⟩

/-- A filter on the nodes themselves names the column of a table that the query does not have. -/
theorem renamedNodes_name :
    (nodes.applySingle {} (.equals "name" "x") renamedNodes).query =
        renamedNodes.record (.leaf ⟨.text "nodes.name", .compare .eq, .text "x"⟩) ∧
      ¬ renamedNodes.Qualified ["name"] (.leaf ⟨.text "nodes.name", .compare .eq, .text "x"⟩) := by
  have hrun : nodes.applySingle {} (.equals "name" "x") renamedNodes =
      nodes.applyPredicate {} (.equals "name" "x") "nodes.name" renamedNodes := rfl
  refine ⟨?_, fun h => ?_⟩
  · rw [hrun, applyPredicate_equals]
    rfl
  · have hcolumn : Column.qualify "nodes" "name" = "nodes.name" := rfl
    rw [← hcolumn, qualified_leaf_iff] at h
    exact absurd h (by decide)

end Scope

end QueryFilter
