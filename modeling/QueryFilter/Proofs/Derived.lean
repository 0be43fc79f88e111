import QueryFilter.Condition
import QueryFilter.Proofs.SchemaDerivation
import QueryFilter.Traversal

/-! Relations that are derived from the columns of a table: what each of them carries, and that a
query finds the same entity behind a relation as the compiler that asks, under whatever settings
either of them works. -/

namespace QueryFilter

namespace Catalog

variable {c : Catalog} {s : Settings} {v w : Value} {e : Entity} {table name : String}
  {r : RelationDescriptor} {rs : Keyed RelationDescriptor}

theorem filterable?_eq_some :
    c.filterable? v = some e ↔ c.subject? v = some e ∧ e.filterable = true := by
  simp [filterable?, Option.filter_eq_some_iff]

theorem isFilterable_iff : c.isFilterable v = true ↔ ∃ e, c.filterable? v = some e := by
  simp only [isFilterable, Option.any_eq_true, filterable?_eq_some]

theorem filterableEntity_eq_ok : c.filterableEntity v = .ok e ↔ c.filterable? v = some e := by
  unfold filterableEntity
  cases c.filterable? v with
  | none => simp
  | some e' => simp

theorem subject?_entity (h : c.subject? v = some e) : c.subject? (.entity e.name) = some e := by
  obtain ⟨n, _, he⟩ := Option.bind_eq_some_iff.mp h
  have hn : e.name = n := by simpa using List.find?_some he
  subst hn
  exact he

theorem eq_subject?_of_inspect {o : Option Entity} (h : c.inspect v = .ok o) :
    o = c.subject? v := by
  unfold inspect at h
  split at h
  · exact (Except.ok.inj h).symm
  · split at h
    · exact (Except.ok.inj h).symm
    · cases h
    · cases h

theorem inspect_entity {o : Option Entity} (h : c.filterable? v = some e)
    (ho : c.inspect v = .ok o) : c.inspect (.entity e.name) = .ok o := by
  have hs := (filterable?_eq_some.mp h).1
  have he : c.inspect (.entity e.name) = .ok (some e) := by
    unfold inspect
    split <;> rw [subject?_entity hs]
  rw [he, eq_subject?_of_inspect ho, hs]

/-- An entity has the relations that its records have. -/
theorem linked?_entity {found : Option Value} (h : c.filterable? v = some e)
    (hl : c.linked? v name = .ok found) : c.linked? (.entity e.name) name = .ok found := by
  unfold linked? at hl ⊢
  by_cases hd : c.discovers
  · simp only [hd, Bool.not_true, Bool.false_eq_true, if_false] at hl ⊢
    obtain ⟨o, ho, hf⟩ := Outcome.map_eq_ok.mp hl
    rw [inspect_entity h ho]
    exact congrArg Except.ok hf
  · simp only [hd, Bool.not_false, if_true] at hl ⊢
    exact hl

theorem linked?_eq_some (h : c.linked? v name = .ok (some w)) : ∃ target, w = .entity target := by
  unfold linked? at h
  split at h
  · cases h
  · obtain ⟨o, _, ho⟩ := Outcome.map_eq_ok.mp h
    obtain ⟨l, _, hl⟩ := Option.map_eq_some_iff.mp ho
    exact ⟨l.target, hl.symm⟩

structure Derived (c : Catalog) (s : Settings) (v : Value) (r : RelationDescriptor) : Prop where
  linked : c.linked? v r.name = .ok (some r.related)
  listed : c.fieldNames s r.related = .ok r.allowed
  notExcluded : r.name ∉ s.excludedRelations
  maxDepth : r.maxDepth = 1

theorem derived_of_get? (h : c.derivedRelations s v table = .ok rs) (hr : rs.get? name = some r) :
    r.name = name ∧ Derived c s v r := by
  cases hs : s.discoverRelations with
  | false =>
    rw [derivedRelations, Introspector.derivedRelations, hs] at h
    cases h
    cases hr
  | true =>
    obtain ⟨found, hfound, rfl⟩ := (Introspector.derivedRelations_eq_ok hs).mp h
    obtain ⟨hcandidate, rfl, hdepth, hlinked, hlists⟩ :=
      (Introspector.mem_filed hfound).mp ((Introspector.get?_filed hfound).mp hr)
    exact ⟨rfl, hlinked, Introspector.fieldNames_eq_ok.mpr hlists, hcandidate.notExcluded, hdepth⟩

theorem Derived.relatedFor (h : Derived c s v r) : c.relatedFor w r = .ok (some r.related) := by
  obtain ⟨target, ht⟩ := linked?_eq_some h.linked
  simp [Catalog.relatedFor, ht, Value.isNull]

/-- Without a declaration, what a relation of an entity leads to is what it is linked to. -/
theorem relations_cases (h : c.relationsOfEntity s e = .ok rs) :
    (∃ d, e.relations.filter (!·.isNull) = some d ∧ relationsDeclared d = .ok rs) ∨
    e.relations.filter (!·.isNull) = none ∧
      ∀ {name r}, rs.get? name = some r → r.name = name ∧ Derived c s (.entity e.name) r := by
  unfold relationsOfEntity at h
  split at h
  · rename_i d hd
    exact Or.inl ⟨d, hd, h⟩
  · rename_i hd
    obtain ⟨table, _, h⟩ := Outcome.bind_eq_ok.mp h
    obtain ⟨_, _, h⟩ := Outcome.bind_eq_ok.mp h
    exact Or.inr ⟨hd, derived_of_get? h⟩

end Catalog

/-- A query over the entity of a scope. The settings of the two are their own. -/
structure ConditionQuery.Over (q : ConditionQuery) (x : Scope) : Prop where
  catalog : q.catalog = x.catalog
  subject : q.subject = x.subject

namespace Scope

theorem relations_eq_ok {x : Scope} {rs : Keyed RelationDescriptor} (h : x.relations = .ok rs) :
    ∃ e, x.catalog.filterable? x.subject = some e ∧
      x.catalog.relationsOfEntity x.settings e = .ok rs := by
  obtain ⟨e, he, h⟩ := Outcome.bind_eq_ok.mp h
  exact ⟨e, Catalog.filterableEntity_eq_ok.mp he, h⟩

end Scope

theorem ConditionQuery.related?_of_listed {q : ConditionQuery} {e : Entity}
    {rs : Keyed RelationDescriptor} {name : String} {r : RelationDescriptor}
    (he : q.catalog.filterable? q.subject = some e)
    (hrs : q.catalog.relationsOfEntity q.settings e = .ok rs) (hr : rs.get? name = some r) :
    q.related? name = q.catalog.relatedFor q.subject r := by
  unfold related?
  rw [he]
  simp only [hrs, bind, Except.bind, hr]

open Catalog in
/-- What a query finds behind a relation is what the relation leads to for the compiler. -/
theorem ConditionQuery.Over.relatedFor_eq {q : ConditionQuery} {x : Scope} (hq : q.Over x)
    {rs : Keyed RelationDescriptor} {name : String} {r : RelationDescriptor}
    {found : Option Value} (hrs : x.relations = .ok rs) (hr : rs.get? name = some r)
    (h : q.related? name = .ok found) : x.catalog.relatedFor x.subject r = .ok found := by
  obtain ⟨e, he, hrs⟩ := Scope.relations_eq_ok hrs
  unfold related? at h
  rw [hq.catalog, hq.subject, he] at h
  obtain ⟨rs', hrs', h⟩ := Outcome.bind_eq_ok.mp h
  rcases relations_cases hrs with ⟨d, hd, hdecl⟩ | ⟨hd, hderived⟩
  · have hsame : rs' = rs := by
      simp only [relationsOfEntity, hd, hdecl, Except.ok.injEq] at hrs'
      exact hrs'.symm
    simpa only [hsame, hr] using h
  · obtain ⟨hname, hder⟩ := hderived hr
    rcases relations_cases hrs' with ⟨d, hd', _⟩ | ⟨_, hderived'⟩
    · rw [hd] at hd'
      cases hd'
    · -- Both relations lead to where the name is linked, so the settings do not matter.
      have hlinked : x.catalog.linked? (.entity e.name) name = .ok found := by
        cases hr' : rs'.get? name with
        | some r' =>
          obtain ⟨hname', hder'⟩ := hderived' hr'
          simp only [hr', hder'.relatedFor, Except.ok.injEq] at h
          rw [← h, ← hname']
          exact hder'.linked
        | none =>
          simp only [hr'] at h
          obtain ⟨_, _, h⟩ := Outcome.bind_eq_ok.mp h
          exact linked?_entity he h
      rw [hder.relatedFor, ← hlinked, ← hname, hder.linked]

end QueryFilter
