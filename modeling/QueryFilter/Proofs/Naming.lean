import QueryFilter.Proofs.Contribution
import QueryFilter.Proofs.Derived

/-! The names of declared fields and relations. What is declared by a bare name, a type or a mapping
has the name that it is filed under. A finished descriptor keeps its own name wherever it is filed,
and a query that opens a relation asks the schema for the relation of that name. -/

namespace QueryFilter

open Building

variable {α β : Type} {key : String}

theorem lookup_of_forall₂ {R : String → α → β → Prop} {as : List (String × α)}
    {bs : List (String × β)} {b : β}
    (h : List.Forall₂ (fun a b => b.1 = a.1 ∧ R a.1 a.2 b.2) as bs) (hb : bs.lookup key = some b) :
    ∃ a, as.lookup key = some a ∧ R key a b := by
  induction h with
  | nil => cases hb
  | @cons a b' as bs hab _ ih =>
    obtain ⟨_, a⟩ := a
    obtain ⟨k, b'⟩ := b'
    obtain ⟨rfl, hr⟩ := hab
    by_cases hk : key = k
    · subst hk
      rw [List.lookup_cons_self, Option.some.injEq] at hb
      subst hb
      exact ⟨a, List.lookup_cons_self, hr⟩
    · have hne : (key == k) = false := by simpa using hk
      simp only [List.lookup_cons, hne] at hb ⊢
      exact ih hb

/-- What a declaration says of names, in order. Of a bare name nothing is said. -/
def declaredEntries : Value → Except Fault (List (String × Value))
  | .dict es => .ok es
  | v => (namesDeclared v).map (·.map (·, .null))

/-- What a declaration says of a name in the end. -/
def Value.Says (v : Value) (key : String) (said : Value) : Prop :=
  ∃ es, declaredEntries v = .ok es ∧ es.reverse.lookup key = some said

/-- Entries that are made one by one of what a declaration says, and filed under its names. -/
def Filed (R : String → Value → α → Prop) (v : Value) (m : Keyed α) : Prop :=
  ∃ es bs, declaredEntries v = .ok es ∧
    List.Forall₂ (fun a b => b.1 = a.1 ∧ R a.1 a.2 b.2) es bs ∧ m = Keyed.ofList bs

variable {v said said' : Value} {fs : Keyed FieldDescriptor} {rs : Keyed RelationDescriptor}
  {d : FieldDescriptor} {r : RelationDescriptor} {R : String → Value → α → Prop}

theorem Value.Says.unique (h : v.Says key said) (h' : v.Says key said') : said' = said := by
  obtain ⟨es, hes, hsaid⟩ := h
  obtain ⟨es', hes', hsaid'⟩ := h'
  rw [hes] at hes'
  cases hes'
  exact Option.some.inj (hsaid'.symm.trans hsaid)

theorem Filed.of_get? {m : Keyed α} {a : α} (h : Filed R v m) (ha : m.get? key = some a) :
    ∃ said, v.Says key said ∧ R key said a := by
  obtain ⟨es, bs, hes, hall, rfl⟩ := h
  rw [Keyed.get?_ofList] at ha
  obtain ⟨said, hsaid, hr⟩ := lookup_of_forall₂ (List.rel_reverse hall) ha
  exact ⟨said, ⟨es, hes, hsaid⟩, hr⟩

theorem filed_names (f : String → α) (hf : ∀ n, R n .null (f n))
    (hv : declaredEntries v = (namesDeclared v).map (·.map (·, .null))) {m : Keyed α}
    (h : (namesDeclared v).map (fun ns => Keyed.ofList (ns.map fun n => (n, f n))) = .ok m) :
    Filed R v m := by
  obtain ⟨ns, hns, rfl⟩ := Outcome.map_eq_ok.mp h
  refine ⟨_, _, by rw [hv, hns]; rfl, ?_, rfl⟩
  rw [List.forall₂_map_left_iff, List.forall₂_map_right_iff, List.forall₂_same]
  exact fun n _ => ⟨rfl, hf n⟩

theorem fieldsDeclared_filed (h : fieldsDeclared v = .ok fs) :
    Filed (fun key said d => FieldDescriptor.ofValue key said = d) v fs := by
  cases v with
  | dict es =>
    cases h
    refine ⟨es, _, rfl, ?_, rfl⟩
    rw [List.forall₂_map_right_iff, List.forall₂_same]
    exact fun e _ => ⟨rfl, rfl⟩
  | _ => exact filed_names (fun n => FieldDescriptor.mk n .string .eq) (fun n => rfl) rfl h

theorem relationsDeclared_filed (h : relationsDeclared v = .ok rs) :
    Filed (fun key said r => RelationDescriptor.ofValue key said = .ok r) v rs := by
  cases v with
  | dict es =>
    obtain ⟨bs, hbs, h⟩ := Outcome.bind_eq_ok.mp h
    cases h
    refine ⟨es, bs, rfl, (Outcome.mapM_eq_ok.mp hbs).imp fun e b hb => ?_, rfl⟩
    obtain ⟨r, hr, rfl⟩ := Outcome.map_eq_ok.mp hb
    exact ⟨rfl, hr⟩
  | _ => exact filed_names (fun n => RelationDescriptor.mk n [] 1 .null) (fun n => rfl) rfl h

theorem FieldDescriptor.name_ofValue_iff :
    (ofValue key said).name = key ↔ ∀ n t o, said = .field n t o → n = key := by
  cases said with
  | field n t o => simp [ofValue]
  | _ => simp [ofValue]

theorem RelationDescriptor.name_ofValue_iff (h : ofValue key said = .ok r) :
    r.name = key ↔ ∀ n fs depth w, said = .relation n fs depth w → n = key := by
  cases said with
  | relation n fs depth w =>
    cases h
    refine ⟨fun hn n' fs' depth' w' heq => ?_, fun hn => hn n fs depth w rfl⟩
    cases heq
    exact hn
  | dict es =>
    obtain ⟨allowed, _, h⟩ := Outcome.bind_eq_ok.mp h
    obtain ⟨depth, _, h⟩ := Outcome.bind_eq_ok.mp h
    cases h
    simp
  | _ =>
    cases h
    simp

theorem name_of_fieldsDeclared (h : fieldsDeclared v = .ok fs) (hd : fs.get? key = some d) :
    d.name = key ↔ ∀ n t o, v.Says key (.field n t o) → n = key := by
  obtain ⟨said, hsaid, rfl⟩ := (fieldsDeclared_filed h).of_get? hd
  rw [FieldDescriptor.name_ofValue_iff]
  constructor
  · intro hn n t o hs
    exact hn n t o (hs.unique hsaid)
  · rintro hn n t o rfl
    exact hn n t o hsaid

theorem name_of_relationsDeclared (h : relationsDeclared v = .ok rs) (hr : rs.get? key = some r) :
    r.name = key ↔ ∀ n fs depth w, v.Says key (.relation n fs depth w) → n = key := by
  obtain ⟨said, hsaid, hr⟩ := (relationsDeclared_filed h).of_get? hr
  rw [RelationDescriptor.name_ofValue_iff hr]
  constructor
  · intro hn n fs depth w hs
    exact hn n fs depth w (hs.unique hsaid)
  · rintro hn n fs depth w rfl
    exact hn n fs depth w hsaid

namespace ConditionQuery

variable {q : ConditionQuery} {e : Entity} {found : Option ConditionQuery}

theorem related?_of_scope (h : q.scope key = .ok found) :
    q.related? key = .ok (found.map (·.subject)) := by
  obtain ⟨o, ho, h⟩ := Outcome.bind_eq_ok.mp h
  rw [ho]
  cases o with
  | none =>
    cases h
    rfl
  | some w =>
    obtain ⟨sub, hsub, rfl⟩ := Outcome.map_eq_ok.mp h
    obtain ⟨table, _, rfl⟩ := Outcome.map_eq_ok.mp hsub
    rfl

/-- The entity behind a relation is the declared one, or the one that the schema has under the name
of the relation's descriptor. -/
theorem subject_of_scope (he : q.catalog.filterable? q.subject = some e)
    (hrs : q.catalog.relationsOfEntity q.settings e = .ok rs) (hr : rs.get? key = some r)
    (h : q.scope key = .ok found) :
    if r.related.isNull then q.catalog.linked? q.subject r.name = .ok (found.map (·.subject))
    else found.map (·.subject) = some r.related := by
  have hrelated := related?_of_scope h
  rw [related?_of_listed he hrs hr, Catalog.relatedFor] at hrelated
  cases hnull : r.related.isNull with
  | false =>
    rw [if_neg Bool.false_ne_true]
    rw [hnull, Bool.not_false, if_pos rfl, Except.ok.injEq] at hrelated
    exact hrelated.symm
  | true =>
    rw [if_pos rfl]
    rw [hnull, Bool.not_true, if_neg Bool.false_ne_true, he] at hrelated
    obtain ⟨_, _, hlinked⟩ := Outcome.bind_eq_ok.mp hrelated
    exact hlinked

/-- What is asked behind a relation is recorded under the name by which it was opened. -/
theorem query_behind (q : ConditionQuery) (key : String)
    (ask : ConditionQuery → Building ConditionQuery Bool) :
    (behind q key ask).query = q ∨
      ∃ inner, (behind q key ask).query = q.record (.has key inner) := by
  show ((aside q (Traced.ofExcept (q.scope key))).andThen _).query = q ∨ ∃ inner,
    ((aside q (Traced.ofExcept (q.scope key))).andThen _).query = q.record (.has key inner)
  cases q.scope key with
  | error e => exact Or.inl rfl
  | ok found =>
    rw [aside_ok_andThen]
    cases found with
    | none => exact Or.inl rfl
    | some sub =>
      show (takingUp q key (ask sub)).query = q ∨ ∃ inner,
        (takingUp q key (ask sub)).query = q.record (.has key inner)
      cases hask : (ask sub).result with
      | error e =>
        rw [takingUp_of_error key hask]
        exact Or.inl rfl
      | ok b =>
        rw [takingUp_of_ok key hask]
        show q.attach key (ask sub).query = q ∨ ∃ inner,
          q.attach key (ask sub).query = q.record (.has key inner)
        unfold attach
        split
        · exact Or.inl rfl
        · exact Or.inr ⟨_, rfl⟩

/-- The names of descriptors. A declared descriptor has the name that it is filed under, unless it
was finished under another, and a derived one always has. A query opens a relation over the entity
that its descriptor declares or else over the one that the schema has under the descriptor's name,
and it records what is asked there under the name by which it opened the relation. -/
theorem descriptors_named (v : Value) (q : ConditionQuery) (key : String) :
    (∀ fs d, fieldsDeclared v = .ok fs → fs.get? key = some d →
      (d.name = key ↔ ∀ n t o, v.Says key (.field n t o) → n = key)) ∧
    (∀ rs r, relationsDeclared v = .ok rs → rs.get? key = some r →
      (r.name = key ↔ ∀ n fs depth w, v.Says key (.relation n fs depth w) → n = key)) ∧
    (∀ e rs r, q.catalog.filterable? q.subject = some e →
      q.catalog.relationsOfEntity q.settings e = .ok rs → rs.get? key = some r →
      (e.relations.filter (!·.isNull) = none → r.name = key) ∧
      ∀ found, q.scope key = .ok found →
        if r.related.isNull then q.catalog.linked? q.subject r.name = .ok (found.map (·.subject))
        else found.map (·.subject) = some r.related) ∧
    ∀ ask, (behind q key ask).query = q ∨
      ∃ inner, (behind q key ask).query = q.record (.has key inner) := by
  refine ⟨fun fs d => name_of_fieldsDeclared, fun rs r => name_of_relationsDeclared,
    fun e rs r he hrs hr => ⟨fun hnone => ?_, fun found => subject_of_scope he hrs hr⟩,
    q.query_behind key⟩
  rcases Catalog.relations_cases hrs with ⟨v, hv, _⟩ | ⟨_, hderived⟩
  · rw [hnone] at hv
    cases hv
  · exact (hderived hr).1

/-- What books declare: the descriptor of the writer is that of the author. -/
def declaredBylines : Value :=
  .dict [("author", .null), ("writer", .relation "author" [] 1 .null)]

def bylines : Catalog where
  tables := [("books", [("id", "integer"), ("title", "varchar")])]
  entities := [
    { name := "Book", table := some "books"
      links := [{ relation := "author", target := "Author" },
        { relation := "writer", target := "Editor" }]
      relations := some declaredBylines },
    { name := "Author", table := some "authors" },
    { name := "Editor", table := some "editors" }]

def allBooks : ConditionQuery :=
  ⟨bylines, {}, .entity "Book", "books", []⟩

def openedAuthors : ConditionQuery :=
  ⟨bylines, {}, .entity "Author", "authors", []⟩

theorem allBooks_author :
    (∀ n fs depth w, declaredBylines.Says "author" (.relation n fs depth w) → n = "author") ∧
      allBooks.scope "author" = .ok (some openedAuthors) ∧
      bylines.linked? allBooks.subject "author" = .ok (some openedAuthors.subject) := by
  obtain ⟨_, hname, hleads, _⟩ := descriptors_named declaredBylines allBooks "author"
  have hscope : allBooks.scope "author" = .ok (some openedAuthors) := rfl
  exact ⟨(hname _ _ rfl rfl).mp rfl, hscope, (hleads _ _ _ rfl rfl rfl).2 _ hscope⟩

/-- The relation of the writer has the name of another, and a query that opens it is over the
authors although the schema has editors there. -/
theorem allBooks_writer :
    relationsDeclared declaredBylines = .ok [("author", ⟨"author", [], 1, .null⟩),
        ("writer", ⟨"author", [], 1, .null⟩)] ∧
      allBooks.scope "writer" = .ok (some openedAuthors) ∧
      bylines.linked? allBooks.subject "writer" = .ok (some (.entity "Editor")) :=
  ⟨rfl, rfl, rfl⟩

end ConditionQuery

end QueryFilter
