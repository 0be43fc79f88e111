import QueryFilter.Derivation
import QueryFilter.Proofs.Outcome

/-! What is derived from the columns of a table, whoever tells of them. A field for each column that
is neither excluded nor secret, and a relation for each key column along which the entity has one;
the related entities are asked for their fields, and for nothing else. -/

namespace QueryFilter

namespace Column

variable {column name : String}

theorem isSensitive_eq_false_iff :
    isSensitive column = false ↔ ∀ e ∈ sensitiveEndings, ¬ e.toList <:+ column.toList := by
  simp [isSensitive, endsWithAny, List.isSuffixOf_iff_suffix]

theorem relationName?_eq_some : relationName? column = some name ↔
    name ≠ "" ∧ column = name ++ "_id" := by
  have hkey : "_id".toList = keyEnding := rfl
  unfold relationName?
  constructor
  · intro h
    obtain ⟨⟨hsuffix, hne⟩, h⟩ := Option.ite_none_right_eq_some.mp h
    obtain ⟨opening, hopening⟩ := List.isSuffixOf_iff_suffix.mp hsuffix
    have hlen := congrArg List.length hopening
    rw [List.length_append] at hlen
    have htake : column.toList.take (column.toList.length - keyEnding.length) = opening := by
      rw [← hopening, List.length_append, Nat.add_sub_cancel, List.take_left']
      rfl
    rw [htake, Option.some.injEq] at h
    subst h
    refine ⟨fun hempty => hne ?_, ?_⟩
    · have hnil : opening = [] := by simpa using congrArg String.toList hempty
      rw [← hopening, hnil, List.nil_append]
    · apply String.toList_inj.mp
      rw [String.toList_append, String.toList_ofList, hkey, hopening]
  · rintro ⟨hne, rfl⟩
    have hchars : (name ++ "_id").toList = name.toList ++ keyEnding := by
      rw [String.toList_append, hkey]
    have hopening : (name ++ "_id").toList ≠ keyEnding := by
      rw [hchars]
      intro hnil
      exact hne (String.toList_eq_nil_iff.mp (List.append_left_eq_self.mp hnil))
    rw [if_pos ⟨List.isSuffixOf_iff_suffix.mpr ⟨name.toList, hchars.symm⟩, hopening⟩, hchars,
      List.length_append, Nat.add_sub_cancel, List.take_left' rfl, String.ofList_toList]

end Column

/-- The operator that settings give to a type: the one they name for it, and equality where they
name none or none that is known. -/
def Settings.Gives (s : Settings) (t : FieldType) (o : Operator) : Prop :=
  (∃ named, s.defaultOperators.get? t.symbol = some named ∧ Operator.parse? named = some o) ∨
    (∀ named, s.defaultOperators.get? t.symbol = some named → Operator.parse? named = none) ∧
      o = .eq

theorem Settings.gives_iff {s : Settings} {t : FieldType} {o : Operator} :
    s.Gives t o ↔ o = s.defaultOperator t := by
  unfold Gives defaultOperator
  cases hnamed : s.defaultOperators.get? t.symbol with
  | none => simp
  | some named =>
    cases hparse : Operator.parse? named with
    | none => simp [hparse]
    | some o' => simp [hparse, eq_comm]

namespace Introspector

variable {i : Introspector} {s : Settings} {own : OwnFields} {v related : Value}
  {table column name : String} {names : List String} {d : FieldDescriptor} {r : RelationDescriptor}

/-- The names of the fields that an entity resolves on its own, or that its table has. -/
inductive Lists (i : Introspector) (s : Settings) (own : OwnFields) (related : Value) :
    List String → Prop
  | own {fields : Keyed FieldDescriptor} (h : own related = some (.ok fields)) :
    Lists i s own related fields.keys
  | plain {table : String} (h : own related = none) (ht : i.tableOf related = .ok table) :
    Lists i s own related (i.derivedFields s table).keys

/-- Names of relations that a table has a key column for. -/
structure Candidate (i : Introspector) (s : Settings) (table name : String) : Prop where
  named : name ≠ ""
  listed : name ++ "_id" ∈ i.columns table
  notExcluded : name ∉ s.excludedRelations

theorem fieldNames_eq_ok :
    i.fieldNames s own related = .ok names ↔ i.Lists s own related names := by
  unfold fieldNames
  constructor
  · intro h
    cases hown : own related with
    | some fields =>
      rw [hown] at h
      obtain ⟨fields, rfl, rfl⟩ := Outcome.map_eq_ok.mp h
      exact .own hown
    | none =>
      rw [hown] at h
      obtain ⟨table, ht, h⟩ := Outcome.bind_eq_ok.mp h
      cases h
      exact .plain hown ht
  · intro h
    cases h with
    | own hown => rw [hown]; rfl
    | plain hown ht => rw [hown, ht]; rfl

theorem get?_derivedFields : (i.derivedFields s table).get? column = some d ↔
    column ∈ (i.derivedFields s table).keys ∧ d = i.derivedField s table column := by
  have hentry : ∀ d, (column, d) ∈ (Column.filterable s.excludedFields (i.columns table)).map
      (fun column => (column, i.derivedField s table column)) ↔
      column ∈ Column.filterable s.excludedFields (i.columns table) ∧
        d = i.derivedField s table column := by
    intro d
    rw [List.mem_map]
    constructor
    · rintro ⟨_, hm, heq⟩
      cases heq
      exact ⟨hm, rfl⟩
    · rintro ⟨hm, rfl⟩
      exact ⟨column, hm, rfl⟩
  rw [keys_derivedFields, List.mem_eraseDups, derivedFields, Keyed.get?_ofList_iff, hentry]
  intro a b ha hb
  rw [((hentry a).mp ha).2, ((hentry b).mp hb).2]

theorem candidate_iff : i.Candidate s table name ↔ ∃ column ∈ i.columns table,
    (Column.relationName? column).filter (!s.excludedRelations.contains ·) = some name := by
  constructor
  · rintro ⟨hne, hlisted, hexcluded⟩
    refine ⟨_, hlisted, ?_⟩
    rw [Column.relationName?_eq_some.mpr ⟨hne, rfl⟩, Option.filter_some]
    simp [hexcluded]
  · rintro ⟨column, hlisted, h⟩
    obtain ⟨hname, hexcluded⟩ := Option.filter_eq_some_iff.mp h
    obtain ⟨hne, rfl⟩ := Column.relationName?_eq_some.mp hname
    exact ⟨hne, hlisted, by simpa using hexcluded⟩

theorem derivedRelation?_eq_some : i.derivedRelation? s own v column = .ok (some r) ↔
    (Column.relationName? column).filter (!s.excludedRelations.contains ·) = some r.name ∧
      i.linked? v r.name = .ok (some r.related) ∧ i.Lists s own r.related r.allowed ∧
      r.maxDepth = 1 := by
  unfold derivedRelation?
  cases hname : (Column.relationName? column).filter (!s.excludedRelations.contains ·) with
  | none => simp
  | some name =>
    constructor
    · intro h
      obtain ⟨found, hlinked, h⟩ := Outcome.bind_eq_ok.mp h
      cases found with
      | none => cases h
      | some related =>
        obtain ⟨allowed, hlists, h⟩ := Outcome.bind_eq_ok.mp h
        cases h
        exact ⟨rfl, hlinked, fieldNames_eq_ok.mp hlists, rfl⟩
    · obtain ⟨name', allowed, maxDepth, related⟩ := r
      rintro ⟨hsame, hlinked, hlists, hdepth⟩
      cases hsame
      cases hdepth
      refine Outcome.bind_eq_ok.mpr ⟨some related, hlinked, ?_⟩
      exact Outcome.bind_eq_ok.mpr ⟨allowed, fieldNames_eq_ok.mpr hlists, rfl⟩

/-- What stands behind a name is known, and so are the fields of what stands there. -/
def Resolves (i : Introspector) (s : Settings) (own : OwnFields) (v : Value) (name : String) :
    Prop :=
  ∃ found, i.linked? v name = .ok found ∧
    ∀ related, found = some related → ∃ names, i.Lists s own related names

theorem derivedRelation?_ends_iff : (∃ o, i.derivedRelation? s own v column = .ok o) ↔
    ∀ name, (Column.relationName? column).filter (!s.excludedRelations.contains ·) = some name →
      i.Resolves s own v name := by
  unfold derivedRelation?
  cases hname : (Column.relationName? column).filter (!s.excludedRelations.contains ·) with
  | none => simp
  | some name =>
    simp only [Option.some.injEq, forall_eq']
    constructor
    · rintro ⟨o, h⟩
      obtain ⟨found, hlinked, h⟩ := Outcome.bind_eq_ok.mp h
      refine ⟨found, hlinked, ?_⟩
      rintro related rfl
      obtain ⟨names, hlists, _⟩ := Outcome.bind_eq_ok.mp h
      exact ⟨names, fieldNames_eq_ok.mp hlists⟩
    · rintro ⟨found, hlinked, h⟩
      cases found with
      | none => exact ⟨none, Outcome.bind_eq_ok.mpr ⟨none, hlinked, rfl⟩⟩
      | some related =>
        obtain ⟨names, hlists⟩ := h related rfl
        refine ⟨some { name, allowed := names, maxDepth := 1, related },
          Outcome.bind_eq_ok.mpr ⟨some related, hlinked, ?_⟩⟩
        exact Outcome.bind_eq_ok.mpr ⟨names, fieldNames_eq_ok.mpr hlists, rfl⟩

/-- The fields that a table gives, by its columns. -/
structure DerivesFields (i : Introspector) (s : Settings) (table : String)
    (fields : Keyed FieldDescriptor) : Prop where
  columns : fields.keys = ((i.columns table).filter fun column => column ∉ s.excludedFields ∧
    ∀ e ∈ Column.sensitiveEndings, ¬ e.toList <:+ column.toList).eraseDups
  descriptors : ∀ column d, fields.get? column = some d ↔
    column ∈ fields.keys ∧ d.name = column ∧ d.type = i.columnType table column ∧
      s.Gives d.type d.operator

/-- The relations that a table gives, by its key columns. -/
structure DerivesRelations (i : Introspector) (s : Settings) (own : OwnFields) (v : Value)
    (table : String) (rs : Keyed RelationDescriptor) : Prop where
  names : ∀ name, name ∈ rs.keys ↔
    i.Candidate s table name ∧ ∃ related, i.linked? v name = .ok (some related)
  order : rs.keys =
    (((i.columns table).filterMap Column.relationName?).filter (· ∈ rs.keys)).eraseDups
  descriptors : ∀ name r, rs.get? name = some r ↔ name ∈ rs.keys ∧ r.name = name ∧
    r.maxDepth = 1 ∧ i.linked? v name = .ok (some r.related) ∧ i.Lists s own r.related r.allowed

theorem derivesFields (i : Introspector) (s : Settings) (table : String) :
    i.DerivesFields s table (i.derivedFields s table) where
  columns := by
    rw [keys_derivedFields, Column.filterable]
    congr 2
    funext column
    rw [Bool.eq_iff_iff]
    simp [Column.isSensitive_eq_false_iff]
  descriptors column d := by
    rw [get?_derivedFields, Settings.gives_iff]
    refine and_congr_right fun _ => ⟨?_, ?_⟩
    · rintro rfl
      exact ⟨rfl, rfl, rfl⟩
    · obtain ⟨name, type, operator⟩ := d
      rintro ⟨rfl, htype, hoperator⟩
      dsimp only at htype hoperator
      subst htype hoperator
      rfl

section

variable {rs : Keyed RelationDescriptor} {found : List (Option RelationDescriptor)}

/-- The relations that were found, by name. -/
def filed (found : List (Option RelationDescriptor)) : Keyed RelationDescriptor :=
  found.filterMap fun o => o.map fun r => (r.name, r)

theorem derivedRelations_eq_ok (hs : s.discoverRelations = true) :
    i.derivedRelations s own v table = .ok rs ↔
      ∃ found, (i.columns table).mapM (i.derivedRelation? s own v) = .ok found ∧
        Keyed.ofList (filed found) = rs := by
  rw [derivedRelations, hs, Bool.not_true, if_neg Bool.false_ne_true, Outcome.bind_eq_ok]
  refine exists_congr fun found => and_congr_right fun _ => ?_
  exact ⟨Except.ok.inj, congrArg Except.ok⟩

theorem mem_filed (h : (i.columns table).mapM (i.derivedRelation? s own v) = .ok found)
    {key : String} {r : RelationDescriptor} : (key, r) ∈ filed found ↔
      i.Candidate s table key ∧ r.name = key ∧ r.maxDepth = 1 ∧
        i.linked? v key = .ok (some r.related) ∧ i.Lists s own r.related r.allowed := by
  have hentry : (key, r) ∈ filed found ↔ some r ∈ found ∧ r.name = key := by
    rw [filed, List.mem_filterMap]
    constructor
    · rintro ⟨o, ho, heq⟩
      obtain ⟨r', rfl, heq⟩ := Option.map_eq_some_iff.mp heq
      cases heq
      exact ⟨ho, rfl⟩
    · rintro ⟨ho, rfl⟩
      exact ⟨some r, ho, rfl⟩
  rw [hentry, Outcome.mem_mapM h, candidate_iff]
  constructor
  · rintro ⟨⟨column, hcolumn, hr⟩, rfl⟩
    obtain ⟨hname, hlinked, hlists, hdepth⟩ := derivedRelation?_eq_some.mp hr
    exact ⟨⟨column, hcolumn, hname⟩, rfl, hdepth, hlinked, hlists⟩
  · rintro ⟨⟨column, hcolumn, hname⟩, rfl, hdepth, hlinked, hlists⟩
    exact ⟨⟨column, hcolumn, derivedRelation?_eq_some.mpr ⟨hname, hlinked, hlists, hdepth⟩⟩, rfl⟩

theorem lists_unique {names' : List String} (h : i.Lists s own related names)
    (h' : i.Lists s own related names') : names = names' :=
  Except.ok.inj ((fieldNames_eq_ok.mpr h).symm.trans (fieldNames_eq_ok.mpr h'))

theorem get?_filed (h : (i.columns table).mapM (i.derivedRelation? s own v) = .ok found)
    {key : String} {r : RelationDescriptor} :
    (Keyed.ofList (filed found)).get? key = some r ↔ (key, r) ∈ filed found := by
  -- A table may list a column twice; the two entries are the same.
  refine Keyed.get?_ofList_iff fun a b ha hb => ?_
  obtain ⟨name, allowed, maxDepth, related⟩ := a
  obtain ⟨name', allowed', maxDepth', related'⟩ := b
  obtain ⟨_, rfl, rfl, hlinked, hlists⟩ := (mem_filed h).mp ha
  obtain ⟨_, rfl, rfl, hlinked', hlists'⟩ := (mem_filed h).mp hb
  cases hlinked.symm.trans hlinked'
  cases lists_unique hlists hlists'
  rfl

theorem ends_iff : (∃ found, (i.columns table).mapM (i.derivedRelation? s own v) = .ok found) ↔
    ∀ name, i.Candidate s table name → i.Resolves s own v name := by
  rw [Outcome.mapM_ends_iff]
  simp only [derivedRelation?_ends_iff, candidate_iff]
  constructor
  · rintro h name ⟨column, hcolumn, hname⟩
    exact h column hcolumn name hname
  · exact fun h column hcolumn name hname => h name ⟨column, hcolumn, hname⟩

theorem exists_lists (h : (i.columns table).mapM (i.derivedRelation? s own v) = .ok found)
    (hcandidate : i.Candidate s table name) (hlinked : i.linked? v name = .ok (some related)) :
    ∃ names, i.Lists s own related names := by
  obtain ⟨o, ho, hresolved⟩ := ends_iff.mp ⟨found, h⟩ name hcandidate
  exact hresolved related (Except.ok.inj (ho.symm.trans hlinked))

theorem mem_keys_filed (h : (i.columns table).mapM (i.derivedRelation? s own v) = .ok found) :
    name ∈ (Keyed.ofList (filed found)).keys ↔
      i.Candidate s table name ∧ ∃ related, i.linked? v name = .ok (some related) := by
  rw [Keyed.keys_ofList, List.mem_eraseDups, List.mem_map]
  constructor
  · rintro ⟨⟨_, r⟩, hr, rfl⟩
    obtain ⟨hcandidate, _, _, hlinked, _⟩ := (mem_filed h).mp hr
    exact ⟨hcandidate, r.related, hlinked⟩
  · rintro ⟨hcandidate, related, hlinked⟩
    obtain ⟨names, hlists⟩ := exists_lists h hcandidate hlinked
    exact ⟨(name, ⟨name, names, 1, related⟩),
      (mem_filed h).mpr ⟨hcandidate, rfl, rfl, hlinked, hlists⟩, rfl⟩

/-- A column that yields no relation has no name that another one might yield. -/
theorem name_of_derivedRelation? {column : String} {o : Option RelationDescriptor}
    (h : (i.columns table).mapM (i.derivedRelation? s own v) = .ok found)
    (ho : i.derivedRelation? s own v column = .ok o) (hcolumn : column ∈ i.columns table) :
    o.map RelationDescriptor.name = (Column.relationName? column).filter
      (· ∈ (Keyed.ofList (filed found)).keys) := by
  cases o with
  | some r =>
    obtain ⟨hname, hlinked, _⟩ := derivedRelation?_eq_some.mp ho
    have hmem : r.name ∈ (Keyed.ofList (filed found)).keys :=
      (mem_keys_filed h).mpr ⟨candidate_iff.mpr ⟨column, hcolumn, hname⟩, r.related, hlinked⟩
    rw [(Option.filter_eq_some_iff.mp hname).1, Option.filter_some, if_pos (decide_eq_true hmem)]
    rfl
  | none =>
    symm
    rw [Option.map_none, Option.filter_eq_none_iff]
    rintro name hname hmem
    rw [decide_eq_true_iff, mem_keys_filed h] at hmem
    obtain ⟨hcandidate, related, hlinked⟩ := hmem
    have hkept : (Column.relationName? column).filter (!s.excludedRelations.contains ·) =
        some name := by
      rw [hname, Option.filter_some]
      simp [hcandidate.notExcluded]
    obtain ⟨names, hlists⟩ := exists_lists h hcandidate hlinked
    have hsome := (derivedRelation?_eq_some (r := ⟨name, names, 1, related⟩)).mpr
      ⟨hkept, hlinked, hlists, rfl⟩
    cases ho.symm.trans hsome

theorem derivesRelations (h : (i.columns table).mapM (i.derivedRelation? s own v) = .ok found) :
    i.DerivesRelations s own v table (Keyed.ofList (filed found)) where
  names _ := mem_keys_filed h
  order := by
    have hnames : (filed found).map Prod.fst = found.filterMap (·.map RelationDescriptor.name) := by
      rw [filed, List.map_filterMap]
      congr 1
      funext o
      cases o <;> rfl
    have hfound := Outcome.filterMap_mapM h fun column hcolumn o ho =>
      name_of_derivedRelation? h ho hcolumn
    conv => lhs; rw [Keyed.keys_ofList, hnames, hfound]
    rw [List.filter_filterMap]
  descriptors name r := by
    rw [get?_filed h, mem_filed h, mem_keys_filed h]
    constructor
    · rintro ⟨hcandidate, hname, hdepth, hlinked, hlists⟩
      exact ⟨⟨hcandidate, _, hlinked⟩, hname, hdepth, hlinked, hlists⟩
    · rintro ⟨⟨hcandidate, _⟩, hname, hdepth, hlinked, hlists⟩
      exact ⟨hcandidate, hname, hdepth, hlinked, hlists⟩

end

end Introspector

/-- The names of the fields of an entity of a catalogue: the declared ones, else those of its
table. An entity that is not filterable declares nothing. -/
inductive Catalog.Fields (c : Catalog) (s : Settings) (v : Value) : List String → Prop
  | declared {e : Entity} {d : Value} {fields : Keyed FieldDescriptor}
    (he : c.filterable? v = some e) (hd : e.fields = some d) (hnull : d.isNull = false)
    (hf : fieldsDeclared d = .ok fields) : Fields c s v fields.keys
  | derived {e : Entity} {table : String} (he : c.filterable? v = some e)
    (hd : ∀ d, e.fields = some d → d.isNull = true) (ht : e.table = some table)
    (hs : e.hasSchema = true) : Fields c s v (c.derivedFields s table).keys
  | plain {table : String} (he : c.filterable? v = none) (ht : c.tableOf v = .ok table) :
    Fields c s v (c.derivedFields s table).keys

theorem Catalog.lists_iff {c : Catalog} {s : Settings} {v : Value} {names : List String} :
    c.introspector.Lists s (c.ownFields s) v names ↔ c.Fields s v names := by
  constructor
  · intro h
    cases h with
    | own h =>
      obtain ⟨e, he, h⟩ := Option.map_eq_some_iff.mp h
      unfold fieldsOfEntity at h
      cases hd : e.fields.filter (!·.isNull) with
      | some d =>
        rw [hd] at h
        obtain ⟨hd, hnull⟩ := Option.filter_eq_some_iff.mp hd
        exact .declared he hd (by simpa using hnull) h
      | none =>
        rw [hd] at h
        obtain ⟨table, ht, h⟩ := Outcome.bind_eq_ok.mp h
        obtain ⟨_, hs, h⟩ := Outcome.bind_eq_ok.mp h
        cases h
        refine .derived he (fun d hm => ?_) ?_ ?_
        · simpa using Option.filter_eq_none_iff.mp hd d hm
        · unfold Entity.requiredTable at ht
          cases htable : e.table with
          | none => rw [htable] at ht; cases ht
          | some t => rw [htable] at ht; exact congrArg some (Except.ok.inj ht)
        · by_contra hno
          rw [Entity.requireSchema, if_neg hno] at hs
          cases hs
    | plain h ht => exact .plain (Option.map_eq_none_iff.mp h) ht
  · intro h
    cases h with
    | declared he hd hnull hf =>
      refine .own ?_
      rw [ownFields, he, Option.map_some, fieldsOfEntity, hd, Option.filter_some, hnull]
      exact congrArg some hf
    | @derived e table he hd ht hs =>
      have hnone : e.fields.filter (!·.isNull) = none :=
        Option.filter_eq_none_iff.mpr fun d hm => by simp [hd d hm]
      have hown : c.ownFields s v = some (.ok (c.derivedFields s table)) := by
        rw [ownFields, he, Option.map_some, fieldsOfEntity, hnone, Entity.requiredTable, ht,
          Entity.requireSchema, if_pos hs]
        rfl
      exact .own hown
    | plain he ht => exact .plain (Option.map_eq_none_iff.mpr he) ht

namespace Introspector

/-- A derivation ends, with exactly the fields and the relations of the columns, wherever what
stands behind the relations resolves. Nothing is asked of the related entities but their fields, so
that entities may be related in a circle. -/
theorem derivation_exact (i : Introspector) (s : Settings) (own : OwnFields) (v : Value)
    (table : String) :
    i.DerivesFields s table (i.derivedFields s table) ∧
    (s.discoverRelations = false → i.derivedRelations s own v table = .ok []) ∧
    (s.discoverRelations = true →
      ((∃ rs, i.derivedRelations s own v table = .ok rs) ↔
        ∀ name, i.Candidate s table name → i.Resolves s own v name) ∧
      ∀ rs, i.derivedRelations s own v table = .ok rs → i.DerivesRelations s own v table rs) ∧
    ∀ (c : Catalog) (related : Value) (names : List String),
      c.introspector.Lists s (c.ownFields s) related names ↔ c.Fields s related names := by
  refine ⟨i.derivesFields s table, fun hs => ?_, fun hs => ⟨?_, fun rs h => ?_⟩,
    fun c related names => Catalog.lists_iff⟩
  · rw [derivedRelations, hs]
    rfl
  · simp only [derivedRelations_eq_ok hs, ← ends_iff]
    constructor
    · rintro ⟨_, found, h, _⟩
      exact ⟨found, h⟩
    · rintro ⟨found, h⟩
      exact ⟨_, found, h, rfl⟩
  · obtain ⟨found, hfound, rfl⟩ := (derivedRelations_eq_ok hs).mp h
    exact derivesRelations hfound

/-- Authors have a favourite book, and books have an author. -/
def shelves : Catalog where
  tables := [("authors", [("id", "integer"), ("name", "varchar"), ("api_token", "varchar"),
      ("favorite_id", "integer")]),
    ("books", [("id", "integer"), ("title", "varchar"), ("author_id", "integer"),
      ("reviewer_id", "integer")])]
  entities := [
    { name := "Author", table := some "authors"
      links := [{ relation := "favorite", target := "Book", keyColumn := "favorite_id" }] },
    { name := "Book", table := some "books"
      links := [{ relation := "author", target := "Author", keyColumn := "author_id" }] }]

def favorite : RelationDescriptor where
  name := "favorite"
  allowed := ["title", "author_id", "reviewer_id"]
  related := .entity "Book"

def authorOfBook : RelationDescriptor where
  name := "author"
  allowed := ["name", "favorite_id"]
  related := .entity "Author"

theorem derivation_exact_circle :
    shelves.introspector.DerivesRelations {} (shelves.ownFields {}) (.entity "Author") "authors"
      [("favorite", favorite)] ∧
    shelves.introspector.DerivesRelations {} (shelves.ownFields {}) (.entity "Book") "books"
      [("author", authorOfBook)] :=
  ⟨((derivation_exact shelves.introspector {} (shelves.ownFields {}) (.entity "Author")
      "authors").2.2.1 rfl).2 _ (by rfl),
    ((derivation_exact shelves.introspector {} (shelves.ownFields {}) (.entity "Book")
      "books").2.2.1 rfl).2 _ (by rfl)⟩

end Introspector

end QueryFilter
