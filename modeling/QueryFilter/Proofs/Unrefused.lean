import QueryFilter.Condition
import QueryFilter.Dispatch
import QueryFilter.Proofs.Outcome
import QueryFilter.Traversal

/-! Coercing a value, reading off what an operator makes of it and looking up what entities declare
may fail, but none of it refuses anything. A refusal of a filter can only come from dispatch. -/

namespace QueryFilter

open Building

/-- A computation whose fault, if it has one, is no refusal. -/
def Unrefused {α : Type} (x : Except Fault α) : Prop :=
  ∀ r, x ≠ .error (.refused r)

namespace Unrefused

variable {α β ε : Type}

theorem ok (a : α) : Unrefused (.ok a : Except Fault α) := nofun

theorem pure (a : α) : Unrefused (Pure.pure a : Except Fault α) := nofun

theorem of_error {x : Except Fault α} {e : Fault} (h : Unrefused x) (hx : x = .error e)
    (r : Refusal) : e ≠ .refused r :=
  fun he => h r (hx.trans (congrArg _ he))

theorem bind {x : Except Fault α} {f : α → Except Fault β} (hx : Unrefused x)
    (hf : ∀ a, Unrefused (f a)) : Unrefused (x >>= f) := by
  intro r h
  rcases Outcome.bind_eq_error.mp h with h | ⟨a, _, h⟩
  · exact hx r h
  · exact hf a r h

theorem map {x : Except Fault α} (f : α → β) (hx : Unrefused x) : Unrefused (x.map f) :=
  fun r h => hx r (Outcome.map_eq_error.mp h)

theorem mapM {f : α → Except Fault β} {as : List α} (h : ∀ a ∈ as, Unrefused (f a)) :
    Unrefused (as.mapM f) := by
  intro r hr
  obtain ⟨a, ha, hf⟩ := Outcome.exists_of_mapM_error hr
  exact h a ha r hf

theorem mapError {x : Except ε α} {f : ε → Fault} (h : ∀ e r, f e ≠ .refused r) :
    Unrefused (x.mapError f) := by
  intro r hr
  cases x with
  | ok a => cases hr
  | error e => exact h e r (Except.error.inj hr)

end Unrefused

/-- A result whose fault, if it has one, is a refusal. -/
def Decided {α : Type} (x : Except Fault α) : Prop :=
  ∀ e, x = .error e → ∃ r, e = .refused r

theorem decided_ok {α : Type} (a : α) : Decided (.ok a) := nofun

theorem decided_of_ok {α : Type} {x : Except Fault α} {a : α} (h : x = .ok a) : Decided x := by
  rw [h]
  exact decided_ok a

theorem decided_refused {α : Type} (r : Refusal) : Decided (.error (.refused r) : Except Fault α) :=
  fun _ h => ⟨r, (Except.error.inj h).symm⟩

theorem Decided.passed {Q α β : Type} {q : Q} {x : Except Fault α} {f : α → Q → Building Q β}
    (h : Decided ((aside q (Traced.ofExcept x)).andThen f).result) (hx : Unrefused x) :
    ∃ a, x = .ok a ∧ (aside q (Traced.ofExcept x)).andThen f = f a q := by
  cases x with
  | ok a => exact ⟨a, rfl, rfl⟩
  | error e =>
    obtain ⟨r, hr⟩ := h e rfl
    exact absurd (congrArg _ hr) (hx r)

theorem integerFault_ne_refused (v : Value) (e : Numeral.Refusal) (r : Refusal) :
    integerFault v e ≠ .refused r := by
  cases e <;> nofun

theorem unrefused_written (v : Value) : Unrefused v.written := by
  unfold Value.written
  split <;> nofun

theorem unrefused_integerIn (s : String) : Unrefused (integerIn s) := by
  unfold integerIn
  split
  · exact .ok _
  · unfold leadingInteger
    split
    · exact .ok _
    · exact .mapError (integerFault_ne_refused _)

theorem unrefused_toInteger (v : Value) : Unrefused (toInteger v) := by
  unfold toInteger
  split
  · exact .ok _
  · exact .ok _
  · exact .ok _
  · exact .bind (unrefused_written _) unrefused_integerIn

theorem unrefused_leadingDecimal (s : String) : Unrefused (leadingDecimal s) := by
  unfold leadingDecimal
  split
  · exact .ok _
  · split <;> nofun

theorem unrefused_toFloat (v : Value) : Unrefused (toFloat v) := by
  unfold toFloat
  split
  · exact .ok _
  · split <;> nofun
  · exact .ok _
  · exact .bind (unrefused_written _) unrefused_leadingDecimal

theorem unrefused_toArray (delimiter v : Value) : Unrefused (toArray delimiter v) := by
  unfold toArray
  split
  · exact .ok _
  · refine .map _ ?_
    unfold splitText
    split
    · exact .ok _
    · split
      · exact .ok _
      · split <;> nofun
  · exact .ok _

theorem unrefused_coerceEach {f : Value → Except Fault Value} (hf : ∀ v, Unrefused (f v))
    (v : Value) : Unrefused (coerceEach f v) := by
  unfold coerceEach
  split
  · exact .map _ (.mapM fun v _ => hf v)
  · exact hf v

theorem unrefused_coerce (type : Option FieldType) (operator : Option Operator)
    (delimiter v : Value) : Unrefused (coerce type operator delimiter v) := by
  unfold coerce
  split
  · split
    · exact .map _ (unrefused_written v)
    · exact .ok _
  · exact .map _ (unrefused_toArray delimiter v)
  · exact unrefused_coerceEach (fun v => .map _ (unrefused_toInteger v)) v
  · exact unrefused_coerceEach (fun v => .map _ (unrefused_toFloat v)) v
  · exact unrefused_coerceEach (fun v => .ok _) v
  · exact .ok _
  · exact .ok _

theorem unrefused_day? (v : Value) (rule : Calendar.WeekRule) (format : Value) :
    Unrefused (v.day? rule format) := by
  unfold Value.day?
  split
  · exact .ok _
  · exact .ok _
  · unfold Value.dayOfText
    split <;> nofun
  · exact .ok _

theorem unrefused_partOf (v : Value) : Unrefused (partOf v) := by
  refine .map _ ?_
  unfold Value.datePart?
  split
  · exact .ok _
  · dsimp only
    split
    · exact .map _ (.mapError (integerFault_ne_refused _))
    · exact .ok _
  · exact .ok _

theorem unrefused_test? (o : Operator) (rule : Calendar.WeekRule) (format : Value)
    (caseSensitive : Bool) (v : Value) :
    Unrefused (o.test? rule format caseSensitive v) := by
  cases o with
  | date => exact .map _ (.map _ (unrefused_day? v rule format))
  | month => exact .map _ (unrefused_partOf v)
  | year => exact .map _ (unrefused_partOf v)
  | day => exact .map _ (unrefused_partOf v)
  | _ => exact .ok _

theorem unrefused_elements (v : Value) : Unrefused v.elements := by
  cases v <;> nofun

theorem unrefused_integer (v : Value) : Unrefused v.integer := by
  unfold Value.integer
  split
  · exact .ok _
  · exact .ok _
  · nofun
  · nofun
  · exact .ok _
  · exact .mapError (integerFault_ne_refused _)
  · split
    · exact .mapError (integerFault_ne_refused _)
    · nofun

theorem unrefused_namesDeclared (v : Value) : Unrefused (namesDeclared v) :=
  .map _ (unrefused_elements v)

theorem unrefused_fieldsDeclared (v : Value) : Unrefused (fieldsDeclared v) := by
  unfold fieldsDeclared
  split
  · exact .ok _
  · exact .map _ (unrefused_namesDeclared _)

theorem unrefused_relationOfValue (name : String) (v : Value) :
    Unrefused (RelationDescriptor.ofValue name v) := by
  unfold RelationDescriptor.ofValue
  split
  · exact .ok _
  · refine .bind ?_ fun allowed => .bind ?_ fun depth => .pure _
    · unfold RelationDescriptor.listed
      split
      · exact .map _ (unrefused_elements _)
      · exact .ok _
    · unfold RelationDescriptor.depthOf
      split
      · exact .ok _
      · exact .map _ (unrefused_integer _)
  · exact .ok _

theorem unrefused_relationsDeclared (v : Value) : Unrefused (relationsDeclared v) := by
  unfold relationsDeclared
  split
  · exact .bind (.mapM fun e _ => .map _ (unrefused_relationOfValue e.1 e.2)) fun rs => .pure _
  · exact .map _ (unrefused_namesDeclared _)

theorem unrefused_requiredTable (e : Entity) : Unrefused e.requiredTable := by
  unfold Entity.requiredTable
  split <;> nofun

theorem unrefused_requireSchema (e : Entity) : Unrefused e.requireSchema := by
  unfold Entity.requireSchema
  split <;> nofun

namespace Catalog

variable (c : Catalog)

theorem unrefused_inspect (v : Value) : Unrefused (c.inspect v) := by
  unfold inspect
  split
  · exact .ok _
  · split <;> nofun

theorem unrefused_linked? (v : Value) (relation : String) : Unrefused (c.linked? v relation) := by
  unfold linked?
  split
  · exact .ok _
  · exact .map _ (c.unrefused_inspect v)

theorem unrefused_filterableEntity (v : Value) : Unrefused (c.filterableEntity v) := by
  unfold filterableEntity
  split <;> nofun

theorem unrefused_fieldsOfEntity (s : Settings) (e : Entity) :
    Unrefused (c.fieldsOfEntity s e) := by
  unfold fieldsOfEntity
  split
  · exact unrefused_fieldsDeclared _
  · exact .bind (unrefused_requiredTable e) fun table =>
      .bind (unrefused_requireSchema e) fun _ => .pure _

theorem unrefused_fieldNames (s : Settings) (related : Value) :
    Unrefused (c.fieldNames s related) := by
  unfold fieldNames Introspector.fieldNames
  split
  · rename_i fields hown
    obtain ⟨e, _, rfl⟩ := Option.map_eq_some_iff.mp hown
    exact .map _ (c.unrefused_fieldsOfEntity s e)
  · exact .bind (.map _ (c.unrefused_inspect related)) fun table => .pure _

theorem unrefused_derivedRelation? (s : Settings) (v : Value) (column : String) :
    Unrefused (c.introspector.derivedRelation? s (c.ownFields s) v column) := by
  unfold Introspector.derivedRelation?
  split
  · exact .ok _
  · refine .bind (c.unrefused_linked? v _) fun found => ?_
    cases found with
    | none => exact .pure _
    | some related => exact .bind (c.unrefused_fieldNames s related) fun allowed => .pure _

theorem unrefused_relationsOfEntity (s : Settings) (e : Entity) :
    Unrefused (c.relationsOfEntity s e) := by
  unfold relationsOfEntity
  split
  · exact unrefused_relationsDeclared _
  · refine .bind (unrefused_requiredTable e) fun table =>
      .bind (unrefused_requireSchema e) fun _ => ?_
    unfold derivedRelations Introspector.derivedRelations
    split
    · exact .ok _
    · exact .bind (.mapM fun column _ => c.unrefused_derivedRelation? s _ column)
        fun found => .pure _

theorem unrefused_relatedFor (v : Value) (r : RelationDescriptor) :
    Unrefused (c.relatedFor v r) := by
  unfold relatedFor
  split
  · exact .ok _
  · split
    · exact .ok _
    · exact .bind (unrefused_requireSchema _) fun _ => c.unrefused_linked? v r.name

end Catalog

namespace Scope

variable (x : Scope)

theorem unrefused_entityName : Unrefused x.entityName := by
  unfold entityName
  split <;> nofun

theorem unrefused_fields : Unrefused x.fields :=
  .bind (x.catalog.unrefused_filterableEntity _) fun e => x.catalog.unrefused_fieldsOfEntity _ e

theorem unrefused_relations : Unrefused x.relations :=
  .bind (x.catalog.unrefused_filterableEntity _) fun e => x.catalog.unrefused_relationsOfEntity _ e

theorem unrefused_table : Unrefused x.table :=
  .bind (x.catalog.unrefused_filterableEntity _) fun e => unrefused_requiredTable e

theorem unrefused_firstRelation? (name : String) (rest : List String) :
    Unrefused (x.firstRelation? name rest) :=
  .bind x.unrefused_relations fun _ => .pure _

end Scope

namespace ConditionQuery

variable (q : ConditionQuery)

theorem unrefused_recordedOperand (test : Test) (operand : Value) :
    Unrefused (recordedOperand test operand) := by
  cases test with
  | within negated => exact .map _ (unrefused_elements operand)
  | between negated => exact .map _ (unrefused_elements operand)
  | _ => exact .ok _

theorem unrefused_add (p : Predicate) : Unrefused (q.add p) := by
  refine .bind (unrefused_recordedOperand p.test p.operand) fun operand => ?_
  cases p.column.isHashable <;> nofun

theorem unrefused_related? (relation : String) : Unrefused (q.related? relation) := by
  unfold related?
  split
  · exact .ok _
  · refine .bind (q.catalog.unrefused_relationsOfEntity _ _) fun relations => ?_
    split
    · exact q.catalog.unrefused_relatedFor _ _
    · exact .bind (unrefused_requireSchema _) fun _ => q.catalog.unrefused_linked? _ _

theorem unrefused_subjectTable (c : Catalog) (v : Value) : Unrefused (subjectTable c v) := by
  unfold subjectTable
  split
  · exact unrefused_requiredTable _
  · exact .ok _

theorem unrefused_scope (relation : String) : Unrefused (q.scope relation) := by
  refine .bind (q.unrefused_related? relation) fun found => ?_
  cases found with
  | none => exact .pure _
  | some v => exact .map _ (.map _ (unrefused_subjectTable q.catalog v))

end ConditionQuery

end QueryFilter
