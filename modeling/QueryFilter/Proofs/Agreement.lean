import QueryFilter.Proofs.Landing
import QueryFilter.Proofs.Route

/-! The two kinds of queries say the same. Over a mapped family of entities a call that ends on both
leaves as many criteria as conditions, and those at the same place ask for the same. -/

namespace QueryFilter

open Building Traced

/-- The operands of a criterion and the operand of a condition that say the same. -/
inductive SameOperands : Test → List Value → Value → Prop
  | compare (c : Comparison) (v : Value) : SameOperands (.compare c) [v] v
  | within (negated : Bool) (vs : List Value) : SameOperands (.within negated) vs (.list vs)
  | between (negated : Bool) (a b : Value) :
    SameOperands (.between negated) [a, b] (.list [a, b])
  | null (negated : Bool) : SameOperands (.null negated) [] (.bool !negated)
  | date (v : Value) : SameOperands .date [v] v
  | part (p : DatePart) (v : Value) : SameOperands (.part p) [v] v

theorem unpackBounds_eq_ok {v : Value} {vs : List Value} (h : SelectQuery.unpackBounds v = .ok vs) :
    v.elements = .ok vs ∧ ∃ a b, vs = [a, b] := by
  obtain ⟨us, hus, h⟩ := Outcome.bind_eq_ok.mp h
  split at h
  · cases h
  · split at h
    · cases h
    · cases h
      exact ⟨hus, List.length_eq_two.mp (by omega)⟩

/-- What both kinds of queries keep of an operand says the same, whatever operands the expressions
of the library refuse. -/
theorem sameOperands_of_ok {q : SelectQuery} {test : Test} {raw operand : Value}
    {operands : List Value} (hselect : q.recordedOperands test raw = .ok operands)
    (hcondition : ConditionQuery.recordedOperand test raw = .ok operand) :
    SameOperands test operands operand := by
  obtain ⟨given, hgiven, hrecord⟩ := Outcome.bind_eq_ok.mp hselect
  rw [Expressions.record_eq_ok hrecord]
  cases test with
  | compare c =>
    cases hgiven
    cases hcondition
    exact .compare c raw
  | within negated =>
    obtain ⟨vs, hvs, rfl⟩ := Outcome.map_eq_ok.mp hcondition
    cases hgiven.symm.trans hvs
    exact .within negated given
  | between negated =>
    obtain ⟨hvs, a, b, rfl⟩ := unpackBounds_eq_ok hgiven
    obtain ⟨us, hus, rfl⟩ := Outcome.map_eq_ok.mp hcondition
    cases hvs.symm.trans hus
    exact .between negated a b
  | null negated =>
    cases hgiven
    cases hcondition
    exact .null negated
  | date =>
    cases hgiven
    cases hcondition
    exact .date raw
  | part p =>
    cases hgiven
    cases hcondition
    exact .part p raw

mutual

/-- A criterion on the table of an entity, and a condition that asks for the same. A criterion on a
relation follows the link of that name from the entity to the one behind it. -/
inductive Corresponds (c : Catalog) : Entity → Criterion → Condition → Prop
  | column {e : Entity} {name : String} {test : Test} {operands : List Value} {operand : Value}
    (hname : name ∈ c.columns (e.table.getD "")) (ho : SameOperands test operands operand) :
    Corresponds c e (.column (e.table.getD "") name test operands)
      (.leaf ⟨.text (Column.qualify (e.table.getD "") name), test, operand⟩)
  | related {e target : Entity} {l : Link} {inner : List Criterion} {nodes : List Condition}
    (hl : Catalog.Link.targetIn? e.links l.relation = some l)
    (ht : c.entity? l.target = some target) (h : CorrespondAll c target inner nodes) :
    Corresponds c e (.related (e.table.getD "") l (target.table.getD "") inner)
      (.has l.relation nodes)

-- `List.Forall₂` cannot be nested above, since the entity behind the link varies.
inductive CorrespondAll (c : Catalog) : Entity → List Criterion → List Condition → Prop
  | nil {e : Entity} : CorrespondAll c e [] []
  | cons {e : Entity} {criterion : Criterion} {condition : Condition} {cs : List Criterion}
    {nodes : List Condition} (h : Corresponds c e criterion condition)
    (hs : CorrespondAll c e cs nodes) : CorrespondAll c e (criterion :: cs) (condition :: nodes)

end

theorem correspondAll_iff {c : Catalog} {e : Entity} {cs : List Criterion}
    {nodes : List Condition} :
    CorrespondAll c e cs nodes ↔ List.Forall₂ (Corresponds c e) cs nodes := by
  constructor
  · intro h
    induction cs generalizing nodes with
    | nil =>
      cases h
      exact .nil
    | cons criterion cs ih =>
      cases h with
      | cons h hs => exact .cons h (ih hs)
  · intro h
    induction h with
    | nil => exact .nil
    | cons h _ ih => exact .cons h ih

/-- Entities that are mapped to tables. Their fields are columns and their relations are links,
under the names and to the entities that are declared. -/
structure Catalog.Mapped (c : Catalog) (s : Settings) : Prop where
  discovers : c.discovers = true
  targets : ∀ e l, c.entity? e.name = some e → l ∈ e.links →
    ∃ target, c.entity? l.target = some target
  fields : ∀ e fields field, c.entity? e.name = some e → e.filterable = true →
    c.fieldsOfEntity s e = .ok fields → fields.has field = true →
    IsPart field ∧ field ∈ c.columns (e.table.getD "")
  relations : ∀ e d rs name r, c.entity? e.name = some e → e.filterable = true →
    e.relations.filter (!·.isNull) = some d → relationsDeclared d = .ok rs →
    rs.get? name = some r → r.name = name ∧
      ∃ l, Catalog.Link.targetIn? e.links name = some l ∧
        (r.related.isNull = true ∨ r.related = .entity l.target)

/-- Two queries over an entity that ask for the same. -/
structure Twins (c : Catalog) (e : Entity) (q : SelectQuery) (q' : ConditionQuery) : Prop where
  selectCatalog : q.catalog = c
  entity : q.entity = e
  conditionCatalog : q'.catalog = c
  subject : q'.subject = .entity e.name
  table : q'.table = e.table.getD ""
  corresponds : List.Forall₂ (Corresponds c e) q.criteria q'.nodes

/-- Two computations that, if both end, give the same and leave queries that ask for the same. -/
def Matched {α : Type} (c : Catalog) (e : Entity) (m : Building SelectQuery α)
    (n : Building ConditionQuery α) : Prop :=
  ∀ a b, m.result = .ok a → n.result = .ok b → a = b ∧ Twins c e m.query n.query

namespace Matched

variable {α β : Type} {c : Catalog} {e : Entity} {q : SelectQuery} {q' : ConditionQuery}

theorem done (a : α) (h : Twins c e q q') :
    Matched c e (Building.done a q) (Building.done a q') := by
  intro b b' hb hb'
  cases hb
  cases hb'
  exact ⟨rfl, h⟩

theorem aside (t : Traced α) (h : Twins c e q q') :
    Matched c e (Building.aside q t) (Building.aside q' t) := by
  intro a b ha hb
  rw [aside_result] at ha hb
  rw [ha] at hb
  exact ⟨Except.ok.inj hb, h⟩

theorem andThen {m : Building SelectQuery α} {n : Building ConditionQuery α}
    {f : α → SelectQuery → Building SelectQuery β}
    {g : α → ConditionQuery → Building ConditionQuery β} (h : Matched c e m n)
    (hf : ∀ a q q', Twins c e q q' → Matched c e (f a q) (g a q')) :
    Matched c e (m.andThen f) (n.andThen g) := by
  intro b b' hb hb'
  obtain ⟨a, ha, hb⟩ := andThen_eq_ok.mp hb
  obtain ⟨a', ha', hb'⟩ := andThen_eq_ok.mp hb'
  obtain ⟨rfl, htwins⟩ := h a a' ha ha'
  rw [andThen_of_ok f ha, andThen_of_ok g ha']
  exact hf a _ _ htwins b b' hb hb'

theorem behindAside {γ : Type} {t : Traced α} {t' : Traced γ}
    {f : α → SelectQuery → Building SelectQuery β}
    {g : γ → ConditionQuery → Building ConditionQuery β}
    (h : ∀ a a', t.result = .ok a → t'.result = .ok a' → Matched c e (f a q) (g a' q')) :
    Matched c e ((Building.aside q t).andThen f) ((Building.aside q' t').andThen g) := by
  intro b b' hb hb'
  obtain ⟨a, ha, hb⟩ := andThen_eq_ok.mp hb
  obtain ⟨a', ha', hb'⟩ := andThen_eq_ok.mp hb'
  rw [andThen_of_ok f ha, andThen_of_ok g ha']
  exact h a a' ha ha' b b' hb hb'

theorem after {t : Traced α} {f : α → SelectQuery → Building SelectQuery β}
    {g : α → ConditionQuery → Building ConditionQuery β}
    (h : ∀ a, t.result = .ok a → Matched c e (f a q) (g a q')) :
    Matched c e ((Building.aside q t).andThen f) ((Building.aside q' t).andThen g) := by
  refine behindAside fun a a' ha ha' => ?_
  rw [ha] at ha'
  cases ha'
  exact h a ha

end Matched

theorem tableColumn_qualify (table : String) {column : String} (h : IsPart column) :
    Text.tableColumn (Column.qualify table column) = (table, column) := by
  have hreverse : '.' ∉ column.toList.reverse := by simpa [IsPart] using h
  unfold Column.qualify
  split
  · rename_i ht
    subst ht
    simp [Text.tableColumn, Text.cutFirstDot_eq_self hreverse]
  · simp [Text.tableColumn, cutFirstDot_append hreverse]

theorem Catalog.holds_qualify (c : Catalog) {table column : String} (h : IsPart column)
    (hc : column ∈ c.columns table) : c.holds table (Column.qualify table column) = true := by
  simp [Catalog.holds, tableColumn_qualify table h, hc]

variable {c : Catalog} {e : Entity} {q : SelectQuery} {q' : ConditionQuery} {column : String}

theorem Twins.record {criterion : Criterion} {condition : Condition} (h : Twins c e q q')
    (hc : Corresponds c e criterion condition) :
    Twins c e (q.record criterion) (q'.record condition) where
  selectCatalog := h.selectCatalog
  entity := h.entity
  conditionCatalog := h.conditionCatalog
  subject := h.subject
  table := h.table
  corresponds := List.rel_append h.corresponds (.cons hc .nil)

theorem Twins.over {x : Scope} (h : Twins x.catalog e q q') (hx : x.IsOf e) : q'.Over x :=
  ⟨h.conditionCatalog, h.subject.trans hx.subject.symm⟩

/-- A predicate on a column of the table becomes a criterion and a condition that correspond. -/
theorem matched_adding (hp : IsPart column) (hc : column ∈ c.columns (e.table.getD ""))
    (h : Twins c e q q') (test : Test) (raw : Value) :
    Matched c e (adding q ⟨.text (Column.qualify (e.table.getD "") column), test, raw⟩)
      (adding q' ⟨.text (Column.qualify (e.table.getD "") column), test, raw⟩) := by
  intro b b' hb hb'
  obtain ⟨rfl, hselect⟩ := adding_eq_ok hb
  obtain ⟨rfl, hcondition⟩ := adding_eq_ok hb'
  generalize (adding q _).query = left at hselect ⊢
  generalize (adding q' _).query = left' at hcondition ⊢
  have htable : q.table = e.table.getD "" := by
    rw [SelectQuery.table, h.entity]
  have hresult := q.result_add (Column.qualify (e.table.getD "") column) test raw
  rw [show (q.add _).result = _ from hselect, htable, h.selectCatalog, c.holds_qualify hp hc,
    if_pos rfl, tableColumn_qualify _ hp] at hresult
  obtain ⟨_, _, hadded⟩ := Outcome.bind_eq_ok.mp hresult.symm
  obtain ⟨operands, hoperands, rfl⟩ := Outcome.map_eq_ok.mp hadded
  replace hcondition : q'.add _ = .ok left' := hcondition
  rw [ConditionQuery.add_eq] at hcondition
  obtain ⟨operand, hoperand, hadded'⟩ := Outcome.bind_eq_ok.mp hcondition
  cases hadded'
  exact ⟨rfl, h.record (.column hc (sameOperands_of_ok hoperands hoperand))⟩

theorem matched_dispatch (hp : IsPart column) (hc : column ∈ c.columns (e.table.getD ""))
    (h : Twins c e q q') (rule : Calendar.WeekRule) (config : FilterConfig)
    (format operator v : Value) :
    let qualified := .text (Column.qualify (e.table.getD "") column)
    Matched c e (dispatch rule format config operator qualified v q)
      (dispatch rule format config operator qualified v q') := by
  unfold dispatch
  cases Operator.ofValue? operator with
  | none =>
    cases config.strict with
    | true => exact .aside _ h
    | false => exact .aside _ h
  | some o =>
    refine .after fun asked _ => ?_
    cases asked with
    | none => exact .done false h
    | some asked => exact matched_adding hp hc h asked.1 asked.2

namespace Scope

variable {x : Scope} {config : FilterConfig} {spec : FilterSpec}

theorem matched_applyPredicate (hp : IsPart column) (hc : column ∈ c.columns (e.table.getD ""))
    (h : Twins c e q q') (x : Scope) (config : FilterConfig) (spec : FilterSpec) :
    Matched c e (x.applyPredicate config spec (Column.qualify (e.table.getD "") column) q)
      (x.applyPredicate config spec (Column.qualify (e.table.getD "") column) q') := by
  refine .after fun v _ => ?_
  exact (matched_dispatch hp hc h _ config _ _ v).andThen fun applied _ _ h => .aside _ h

theorem fields_eq_ok (hx : x.IsOf e) {fields : Keyed FieldDescriptor} (h : x.fields = .ok fields) :
    e.filterable = true ∧ x.catalog.fieldsOfEntity x.settings e = .ok fields := by
  obtain ⟨e', he, h⟩ := Outcome.bind_eq_ok.mp h
  rw [Catalog.filterableEntity_eq_ok, hx.filterable?, Option.filter_eq_some_iff] at he
  obtain ⟨he, hf⟩ := he
  cases he
  exact ⟨hf, h⟩

theorem matched_applyLocal (hx : x.IsOf e) (hm : x.catalog.Mapped x.settings)
    (h : Twins x.catalog e q q') (field : String) :
    Matched x.catalog e (x.applyLocal config spec field q) (x.applyLocal config spec field q') := by
  refine .after fun fields hfields => ?_
  obtain ⟨hf, hfields⟩ := fields_eq_ok hx hfields
  cases hhas : fields.has field with
  | false => exact .aside _ h
  | true =>
    refine .after fun table htable => ?_
    obtain ⟨hp, hc⟩ := hm.fields e fields field hx.known hf hfields hhas
    rw [hx.table_eq htable]
    exact matched_applyPredicate hp hc h x config spec

theorem matched_applyFallback (h : Twins c e q q') (x : Scope) {parts : List String}
    (hp : ∀ p ∈ parts, IsPart p)
    (hc : ∀ column, parts = [column] → column ∈ c.columns (e.table.getD "")) :
    Matched c e (x.applyFallback config spec parts q) (x.applyFallback config spec parts q') := by
  unfold applyFallback
  split
  · rename_i column
    have htable : q.table = e.table.getD "" := by
      rw [SelectQuery.table, h.entity]
    have hsel : (Backend.table q : Except Fault String) = .ok (e.table.getD "") := congrArg _ htable
    have hcond : (Backend.table q' : Except Fault String) = .ok (e.table.getD "") :=
      congrArg _ h.table
    rw [hsel, hcond, aside_ok_andThen, aside_ok_andThen]
    exact matched_applyPredicate (hp column (by simp)) (hc column rfl) h x config spec
  · exact .aside _ h

theorem linked?_entity_eq (hx : x.IsOf e) (hd : x.catalog.discovers = true) (name : String) :
    x.catalog.linked? (.entity e.name) name =
      .ok ((Catalog.Link.targetIn? e.links name).map fun l => .entity l.target) := by
  have hinspect : x.catalog.inspect (.entity e.name) = .ok (some e) := by
    unfold Catalog.inspect
    split <;> exact congrArg Except.ok hx.known
  simp [Catalog.linked?, hd, hinspect, Except.map]

/-- In a mapped family a relation leads where the link of its name leads. -/
theorem link_of_relation (hx : x.IsOf e) (hm : x.catalog.Mapped x.settings)
    {rs : Keyed RelationDescriptor} {name : String} {r : RelationDescriptor}
    (hrs : x.relations = .ok rs) (hr : rs.get? name = some r) :
    ∃ l target, Catalog.Link.targetIn? e.links name = some l ∧
      x.catalog.entity? l.target = some target ∧
      ∀ found, x.catalog.relatedFor x.subject r = .ok found → found = some (.entity l.target) := by
  obtain ⟨e', he, hrelations⟩ := relations_eq_ok hrs
  rw [hx.filterable?, Option.filter_eq_some_iff] at he
  obtain ⟨he, hf⟩ := he
  cases he
  have hlinked := linked?_entity_eq hx hm.discovers name
  have htarget : ∀ l, Catalog.Link.targetIn? e.links name = some l →
      ∃ target, x.catalog.entity? l.target = some target := fun l hl =>
    hm.targets e l hx.known (List.mem_of_find?_eq_some hl)
  rcases Catalog.relations_cases hrelations with ⟨d, hd, hdeclared⟩ | ⟨_, hderived⟩
  · -- A declared relation names its entity or leaves that to the link of its name.
    obtain ⟨hname, l, hl, hrelated⟩ := hm.relations e d rs name r hx.known hf hd hdeclared hr
    obtain ⟨target, ht⟩ := htarget l hl
    refine ⟨l, target, hl, ht, fun found hfound => ?_⟩
    unfold Catalog.relatedFor at hfound
    rcases hrelated with hnull | hrelated
    · have hfilterable : x.catalog.filterable? x.subject = some e := by
        rw [hx.filterable?, Option.filter_some, if_pos hf]
      simp only [hnull, Bool.not_true, Bool.false_eq_true, if_false, hfilterable] at hfound
      obtain ⟨_, _, hfound⟩ := Outcome.bind_eq_ok.mp hfound
      rw [hx.subject, hname, hlinked, hl] at hfound
      exact (Except.ok.inj hfound).symm
    · rw [hrelated] at hfound
      exact (Except.ok.inj hfound).symm
  · obtain ⟨hname, hder⟩ := hderived hr
    have hsome := hder.linked
    rw [hname, hlinked] at hsome
    obtain ⟨l, hl, hrelated⟩ := Option.map_eq_some_iff.mp (Except.ok.inj hsome)
    obtain ⟨target, ht⟩ := htarget l hl
    refine ⟨l, target, hl, ht, fun found hfound => ?_⟩
    rw [hder.relatedFor] at hfound
    rw [hrelated]
    exact (Except.ok.inj hfound).symm

theorem subjectTable_eq {target : Entity} {name table : String}
    (ht : c.entity? name = some target)
    (h : ConditionQuery.subjectTable c (.entity name) = .ok table) :
    table = target.table.getD "" := by
  have hsubject : c.subject? (.entity name) = some target := ht
  unfold ConditionQuery.subjectTable at h
  split at h
  · rename_i e' he
    obtain ⟨he, _⟩ := Catalog.filterable?_eq_some.mp he
    rw [hsubject] at he
    cases he
    exact (Entity.table_of_requiredTable h).symm
  · rw [hsubject] at h
    exact (Except.ok.inj h).symm

/-- Two empty queries over an entity ask for the same. -/
theorem twins_start {s : Settings} {target : Entity} {name : String}
    (ht : c.entity? name = some target)
    (h : ConditionQuery.start c s (.entity name) none = .ok q') :
    Twins c target (SelectQuery.start c target) q' := by
  obtain ⟨table, htable, rfl⟩ := Outcome.map_eq_ok.mp h
  exact ⟨rfl, rfl, rfl, by rw [Catalog.name_of_entity? ht], subjectTable_eq ht htable, .nil⟩

/-- What was asked behind a link, of two queries that ask for the same, is taken up by both. -/
theorem matched_takingUp {target : Entity} {name : String} {l : Link}
    {asked : Building SelectQuery Bool} {asked' : Building ConditionQuery Bool}
    (h : Twins c e q q') (hl : Catalog.Link.targetIn? e.links name = some l)
    (ht : c.entity? l.target = some target) (ha : Matched c target asked asked') :
    Matched c e (takingUp q name asked) (takingUp q' name asked') := by
  intro b b' hb hb'
  cases hr : asked.result with
  | error f =>
    rw [takingUp_of_error name hr] at hb
    cases hb
  | ok a =>
    cases hr' : asked'.result with
    | error f =>
      rw [takingUp_of_error name hr'] at hb'
      cases hb'
    | ok a' =>
      rw [takingUp_of_ok name hr] at hb ⊢
      rw [takingUp_of_ok name hr'] at hb' ⊢
      obtain ⟨haa, hinner⟩ := ha a a' hr hr'
      refine ⟨(Except.ok.inj hb).symm.trans (haa.trans (Except.ok.inj hb')), ?_⟩
      show Twins c e (q.attach name asked.query) (q'.attach name asked'.query)
      have hlink : q.link? name = some l := by
        rw [SelectQuery.link?, h.entity]
        exact hl
      have hinnerTable : asked.query.table = target.table.getD "" := by
        rw [SelectQuery.table, hinner.entity]
      have htable : q.table = e.table.getD "" := by
        rw [SelectQuery.table, h.entity]
      have hname : l.relation = name := by simpa using List.find?_some hl
      have hcorresponds := hinner.corresponds
      unfold SelectQuery.attach ConditionQuery.attach
      rw [hlink]
      dsimp only
      rw [hinnerTable, htable]
      cases hcriteria : asked.query.criteria with
      | nil =>
        rw [hcriteria, List.forall₂_nil_left_iff] at hcorresponds
        simpa [hcorresponds] using h
      | cons criterion criteria =>
        rw [hcriteria] at hcorresponds
        obtain ⟨condition, conditions, _, _, hnodes⟩ := List.forall₂_cons_left_iff.mp hcorresponds
        rw [hnodes] at hcorresponds ⊢
        subst hname
        exact h.record (.related hl ht (correspondAll_iff.mpr hcorresponds))

/-- Behind a relation both queries open a query over the entity to which its link leads. -/
theorem matched_behind (hx : x.IsOf e) (hm : x.catalog.Mapped x.settings)
    (h : Twins x.catalog e q q') {rs : Keyed RelationDescriptor} {name : String}
    {r : RelationDescriptor} (hrs : x.relations = .ok rs) (hr : rs.get? name = some r)
    {ask : SelectQuery → Building SelectQuery Bool}
    {ask' : ConditionQuery → Building ConditionQuery Bool}
    (ha : ∀ target sub sub', x.catalog.entity? target.name = some target →
      x.catalog.relatedFor x.subject r = .ok (some (.entity target.name)) →
      Twins x.catalog target sub sub' → Matched x.catalog target (ask sub) (ask' sub')) :
    Matched x.catalog e (behind q name ask) (behind q' name ask') := by
  obtain ⟨l, target, hl, ht, hleads⟩ := link_of_relation hx hm hrs hr
  have hname := Catalog.name_of_entity? ht
  refine .behindAside fun found found' hfound hfound' => ?_
  have hlink : q.link? name = some l := by
    rw [SelectQuery.link?, h.entity]
    exact hl
  rw [SelectQuery.scope_eq_some.mpr ⟨l, target, hlink, h.selectCatalog ▸ ht, rfl⟩] at hfound
  cases hfound
  replace hfound' : q'.scope name = .ok found' := hfound'
  obtain ⟨o, ho, hstart⟩ := Outcome.bind_eq_ok.mp hfound'
  have hrelated := (h.over hx).relatedFor_eq hrs hr ho
  cases hleads o hrelated
  obtain ⟨sub', hsub', rfl⟩ := Outcome.map_eq_ok.mp hstart
  rw [h.conditionCatalog] at hsub'
  dsimp only
  rw [h.selectCatalog]
  exact matched_takingUp h hl ht
    (ha target _ sub' (hname ▸ ht) (hname ▸ hrelated) (twins_start ht hsub'))

/-- Where a path may end behind relations at an entity without declarations, it ends at one of the
columns of its table. -/
def Fallback (x : Scope) (config : FilterConfig) (parts : List String) : Prop :=
  ∀ names column rs y e, parts = names ++ [column] → x.Admitted config names column rs y →
    x.catalog.isFilterable y.subject = false → x.catalog.subject? y.subject = some e →
    column ∈ x.catalog.columns (e.table.getD "")

theorem Fallback.beyond {name next : String} {rest : List String} {r : RelationDescriptor}
    {w : Value} (h : x.Fallback config (name :: next :: rest)) (hleads : x.Leads name next r w)
    (hdepth : 0 < depthFor config r) :
    (x.beyond w).Fallback (config.descend (some (depthFor config r))) (next :: rest) := by
  intro names column rs y e hparts hadm
  rw [admitted_iff, maxDepth_descend config hdepth] at hadm
  obtain ⟨hroute, hnamed, hoffered, hfits⟩ := hadm
  have hhead : next = names.headD column := by
    cases names <;> simp_all
  refine h (name :: names) column (r :: rs) y e (by rw [hparts, List.cons_append]) ?_
  rw [admitted_iff]
  exact ⟨.follow (hhead ▸ hleads) hroute, hnamed, hoffered, hdepth, hfits⟩

/-- An entity without declarations is the end of the path that leads to it. -/
theorem Fallback.mem_columns (h : x.Fallback config [column]) (hx : x.IsOf e) (hne : column ≠ "")
    (hf : x.catalog.isFilterable x.subject = false) :
    column ∈ x.catalog.columns (e.table.getD "") := by
  have hadm : x.Admitted config [] column [] x :=
    ⟨.arrived x column, hne, fun h => absurd h (by simp [hf]), Nat.zero_le _, by simp⟩
  refine h [] column [] x e rfl hadm hf ?_
  rw [hx.subject]
  exact hx.known

theorem matched_applyPath (hx : x.IsOf e) (hm : x.catalog.Mapped x.settings)
    (h : Twins x.catalog e q q') {parts : List String} (hp : ∀ p ∈ parts, IsPart p)
    (hf : x.Fallback config parts) :
    Matched x.catalog e (x.applyPath config spec parts q) (x.applyPath config spec parts q') := by
  induction parts generalizing x e config q q' with
  | nil => exact .done false h
  | cons name parts ih =>
    cases parts with
    | nil => exact matched_applyLocal hx hm h name
    | cons next rest =>
      refine .after fun first hfirst => ?_
      cases first with
      | none => exact .aside _ h
      | some r =>
        obtain ⟨⟨rs, hrs, hr⟩, hnamed, hallowed⟩ :=
          firstRelation?_eq_some (hp next (by simp)) hfirst
        dsimp only
        by_cases hdepth : depthFor config r ≤ 0
        · rw [if_pos hdepth, if_pos hdepth]
          exact .aside _ h
        · rw [if_neg hdepth, if_neg hdepth]
          refine matched_behind hx hm h hrs hr fun target sub sub' ht hrelated hsub => ?_
          obtain ⟨e', he', _⟩ := relations_eq_ok hrs
          have hleads : x.Leads name next r (.entity target.name) :=
            ⟨Catalog.isFilterable_iff.mpr ⟨e', he'⟩, ⟨rs, hrs, hr⟩, hallowed, hrelated⟩
          have hbeyond := hf.beyond hleads (by omega)
          -- Both ask on behalf of the same entity, although each finds it in its own query.
          have hparts : ∀ p ∈ next :: rest, IsPart p := fun p hm => hp p (List.mem_cons_of_mem _ hm)
          have hsubject : Backend.subject sub = .entity target.name := by
            show Value.entity sub.entity.name = _
            rw [hsub.entity]
          have hsubject' : Backend.subject sub' = .entity target.name := hsub.subject
          rw [hsubject, hsubject']
          by_cases hfilterable :
              (x.beyond (.entity target.name)).catalog.isFilterable
                (x.beyond (.entity target.name)).subject = true
          · rw [if_pos hfilterable, if_pos hfilterable]
            exact ih (isOf_beyond ht) hm hsub hparts hbeyond
          · -- Nothing is declared here, so the last part has to be known as a column.
            rw [if_neg hfilterable, if_neg hfilterable]
            refine matched_applyFallback hsub _ hparts fun column hcolumn => ?_
            rw [hcolumn] at hbeyond hnamed
            exact hbeyond.mem_columns (isOf_beyond ht) (by simpa using hnamed)
              (by simpa using hfilterable)

theorem matched_applySingle (hx : x.IsOf e) (hm : x.catalog.Mapped x.settings)
    (h : Twins x.catalog e q q') (hf : x.Fallback config (spec.asked config)) :
    Matched x.catalog e (x.applySingle config spec q) (x.applySingle config spec q') := by
  unfold applySingle
  by_cases he : spec.isEmpty = true
  · rw [if_pos he, if_pos he]
    exact .done false h
  · rw [if_neg he, if_neg he]
    unfold FilterSpec.asked at hf
    by_cases hp : (spec.isPath && config.deep) = true
    · rw [if_pos hp] at hf ⊢
      rw [if_pos hp]
      exact matched_applyPath hx hm h (fun p hm => isPart_of_mem_pathParts hm) hf
    · rw [if_neg hp, if_neg hp]
      exact matched_applyLocal hx hm h spec.field

theorem matched_applyFilters (hx : x.IsOf e) (hm : x.catalog.Mapped x.settings)
    {specs : List FilterSpec} (h : Twins x.catalog e q q')
    (hf : ∀ spec ∈ specs, x.Fallback config (spec.asked config)) :
    Matched x.catalog e (x.applyFilters config specs q) (x.applyFilters config specs q') := by
  induction specs generalizing q q' with
  | nil => exact .done 0 h
  | cons spec specs ih =>
    obtain ⟨hspec, hrest⟩ := List.forall_mem_cons.mp hf
    refine (matched_applySingle hx hm h hspec).andThen fun applied q q' h => ?_
    exact (ih h hrest).andThen fun n q q' h => .done _ h

theorem matched_apply (hx : x.IsOf e) (hm : x.catalog.Mapped x.settings)
    (h : Twins x.catalog e q q') {filters options source : Value}
    (hf : ∀ specs config, (x.prepare filters options source).result = .ok (some (specs, config)) →
      ∀ spec ∈ specs, x.Fallback config (spec.asked config)) :
    Matched x.catalog e (x.apply filters options source q) (x.apply filters options source q') := by
  refine .after fun prepared hprepared => ?_
  cases prepared with
  | none => exact .done () h
  | some prepared =>
    obtain ⟨specs, config⟩ := prepared
    exact (matched_applyFilters hx hm h (hf specs config hprepared)).andThen
      fun n q q' h => .aside _ h

/-- Over a mapped family of entities the two kinds of queries, empty at first, ask for the same
after a call that ends on both. Which operands the expressions of the library refuse plays no
part. -/
theorem apply_agrees (hx : x.IsOf e) (hm : x.catalog.Mapped x.settings) {s : Settings}
    (hstart : ConditionQuery.start x.catalog s (.entity e.name) none = .ok q')
    {filters options source : Value}
    (hf : ∀ specs config, (x.prepare filters options source).result = .ok (some (specs, config)) →
      ∀ spec ∈ specs, x.Fallback config (spec.asked config))
    (hselect : (x.apply filters options source (SelectQuery.start x.catalog e)).result = .ok ())
    (hcondition : (x.apply filters options source q').result = .ok ()) :
    List.Forall₂ (Corresponds x.catalog e)
      (x.apply filters options source (SelectQuery.start x.catalog e)).query.criteria
      (x.apply filters options source q').query.nodes :=
  (matched_apply hx hm (twins_start hx.known hstart) hf () () hselect hcondition).2.corresponds

def book : Entity where
  name := "Book"
  table := some "books"
  links := [{ relation := "author", target := "Author", keyColumn := "author_id" }]
  fields := some (.dict [("title", .field "title" .string .eq)])
  relations := some (.dict [("author", .dict [])])

def author : Entity where
  name := "Author"
  filterable := false
  table := some "authors"

/-- Books and their authors, of which the authors have no declarations. -/
def library : Scope where
  catalog := {
    tables := [("books", [("id", "integer"), ("title", "varchar"), ("author_id", "integer")]),
      ("authors", [("id", "integer"), ("name", "varchar")])]
    entities := [book, author] }
  settings := {}
  subject := .entity "Book"

def bookFilters : Value :=
  .dict [("title", .text "x"), ("author.name", .text "y")]

theorem library_entity {v : Value} {e : Entity} (h : library.catalog.subject? v = some e) :
    e = book ∨ e = author := by
  obtain ⟨n, _, h⟩ := Option.bind_eq_some_iff.mp h
  simpa [library] using List.mem_of_find?_eq_some h

theorem library_fields : library.catalog.fieldsOfEntity {} book =
    .ok [("title", ⟨"title", .string, .eq⟩)] := rfl

theorem library_relations : relationsDeclared (.dict [("author", .dict [])]) =
    .ok [("author", { name := "author" })] := rfl

theorem library_mapped : library.catalog.Mapped {} where
  discovers := rfl
  targets e l he hl := by
    rcases library_entity (v := .entity e.name) he with rfl | rfl
    · rw [List.mem_singleton.mp hl]
      exact ⟨author, rfl⟩
    · cases hl
  fields e fields field he hf hfields hhas := by
    rcases library_entity (v := .entity e.name) he with rfl | rfl
    · rw [library_fields] at hfields
      cases hfields
      have hfield : "title" = field := by simpa [Keyed.has] using hhas
      subst hfield
      exact ⟨by decide, by decide⟩
    · cases hf
  relations e d rs name r he hf hd hrs hr := by
    rcases library_entity (v := .entity e.name) he with rfl | rfl
    · cases hd
      rw [library_relations] at hrs
      cases hrs
      cases List.mem_singleton.mp (Keyed.mem_of_get? hr)
      exact ⟨rfl, _, rfl, Or.inl rfl⟩
    · cases hf

def titleSpec : FilterSpec :=
  .equals "title" "x"

def authorSpec : FilterSpec :=
  .equals "author.name" "y"

theorem library_prepare : (library.prepare bookFilters .null .null).result =
    .ok (some ([titleSpec, authorSpec], {})) := rfl

theorem library_fallback {spec : FilterSpec} (hs : spec ∈ [titleSpec, authorSpec]) :
    library.Fallback {} (spec.asked {}) := by
  intro names column rs y e hparts hadm hf he
  simp only [List.mem_cons, List.not_mem_nil, or_false] at hs
  rcases hs with rfl | rfl
  · have hasked : titleSpec.asked {} = [] ++ ["title"] := rfl
    rw [hasked] at hparts
    obtain ⟨rfl, _⟩ := List.append_inj' hparts rfl
    cases hadm.route
    cases hf
  · have hasked : authorSpec.asked {} = ["author"] ++ ["name"] := rfl
    rw [hasked] at hparts
    obtain ⟨_, hcolumn⟩ := List.append_inj' hparts rfl
    cases hcolumn
    rcases library_entity he with rfl | rfl
    · rw [Catalog.isFilterable, he] at hf
      cases hf
    · decide

def allBooks : ConditionQuery :=
  ⟨library.catalog, {}, library.subject, "books", []⟩

def bookStatement : SelectQuery :=
  .start library.catalog book

def titleCriterion : Criterion :=
  .column "books" "title" (.compare .eq) [.text "x"]

def authorCriterion : Criterion :=
  .related "books" { relation := "author", target := "Author", keyColumn := "author_id" } "authors"
    [.column "authors" "name" (.compare .eq) [.text "y"]]

def titleCondition : Condition :=
  .leaf ⟨.text "books.title", .compare .eq, .text "x"⟩

def authorCondition : Condition :=
  .has "author" [.leaf ⟨.text "authors.name", .compare .eq, .text "y"⟩]

theorem select_title : (library.applySingle {} titleSpec bookStatement).result = .ok true ∧
    (library.applySingle {} titleSpec bookStatement).query =
      bookStatement.record titleCriterion := by
  have hrun : library.applySingle {} titleSpec bookStatement =
      library.applyPredicate {} titleSpec "books.title" bookStatement := rfl
  rw [hrun, titleSpec, applyPredicate_equals]
  exact ⟨rfl, rfl⟩

theorem select_author (c : Criterion) :
    (library.applySingle {} authorSpec (bookStatement.record c)).result = .ok true ∧
    (library.applySingle {} authorSpec (bookStatement.record c)).query =
      (bookStatement.record c).record authorCriterion := by
  have hrun : library.applySingle {} authorSpec (bookStatement.record c) =
      takingUp (bookStatement.record c) "author"
        ((library.beyond (.entity "Author")).applyPredicate { maxDepth := 0 } authorSpec
          "authors.name" (SelectQuery.start library.catalog author)) := rfl
  rw [hrun, authorSpec, applyPredicate_equals]
  exact ⟨rfl, rfl⟩

theorem condition_title : (library.applySingle {} titleSpec allBooks).result = .ok true ∧
    (library.applySingle {} titleSpec allBooks).query = allBooks.record titleCondition := by
  have hrun : library.applySingle {} titleSpec allBooks =
      library.applyPredicate {} titleSpec "books.title" allBooks := rfl
  rw [hrun, titleSpec, applyPredicate_equals]
  exact ⟨rfl, rfl⟩

theorem condition_author (c : Condition) :
    (library.applySingle {} authorSpec (allBooks.record c)).result = .ok true ∧
    (library.applySingle {} authorSpec (allBooks.record c)).query =
      (allBooks.record c).record authorCondition := by
  have hrun : library.applySingle {} authorSpec (allBooks.record c) =
      takingUp (allBooks.record c) "author"
        ((library.beyond (.entity "Author")).applyPredicate { maxDepth := 0 } authorSpec
          "authors.name" ⟨library.catalog, {}, .entity "Author", "authors", []⟩) := rfl
  rw [hrun, authorSpec, applyPredicate_equals]
  exact ⟨rfl, rfl⟩

theorem library_agrees : List.Forall₂ (Corresponds library.catalog book)
    [titleCriterion, authorCriterion] [titleCondition, authorCondition] := by
  have hselect := applyFilters_pair select_title (select_author titleCriterion).1
  have hcondition := applyFilters_pair condition_title (condition_author titleCondition).1
  have hstart : ConditionQuery.start library.catalog {} (.entity book.name) none =
      .ok allBooks := rfl
  have hagrees : List.Forall₂ (Corresponds library.catalog book)
      (library.apply bookFilters .null .null bookStatement).query.criteria
      (library.apply bookFilters .null .null allBooks).query.nodes := by
    refine apply_agrees ⟨rfl, rfl⟩ library_mapped hstart (fun specs config hprepare spec hs => ?_)
      (lines_apply rfl library_prepare hselect.1).1 (lines_apply rfl library_prepare hcondition.1).1
    rw [library_prepare] at hprepare
    cases hprepare
    exact library_fallback hs
  rw [query_apply_of_prepared library_prepare, query_apply_of_prepared library_prepare, hselect.2,
    hcondition.2, (select_author _).2, (condition_author _).2] at hagrees
  exact hagrees

end Scope

end QueryFilter
