import QueryFilter.Proofs.Route

/-! The format that filters on dates are read in. A scope reads them in one format throughout, so it
does what any scope does that asks for this format, and a filter adds the day that its value names
under it. The format is the standard one wherever the scope asks for the installed one. -/

namespace QueryFilter

open Building Traced

namespace Scope

/-- The same scope, reading dates in a format of its own. -/
def reading (x : Scope) (format : String) : Scope :=
  { x with settings := { x.settings with dateFormat := format }, installed := {} }

/-- Where a filter is asked for: on a column of a table, behind the relations of its path. -/
inductive Targets (x : Scope) (config : FilterConfig) (spec : FilterSpec) :
    List String → String → String → Prop
  | here {fields : Keyed FieldDescriptor} {table : String}
      (hp : (spec.isPath && config.deep) = false) (hf : x.fields = .ok fields)
      (hc : fields.has spec.field = true) (ht : x.table = .ok table) :
      Targets x config spec [] table spec.field
  | beyond {names : List String} {column table : String} {rs : List RelationDescriptor} {y : Scope}
      (hp : (spec.isPath && config.deep) = true) (hparts : pathParts spec.field = names ++ [column])
      (hadm : x.Admitted config names column rs y)
      (ht : ConditionQuery.subjectTable y.catalog y.subject = .ok table) :
      Targets x config spec names table column

theorem dateFormat_reading (x : Scope) (format : String) :
    (x.reading format).dateFormat = format :=
  dateFormat_eq_settings rfl

section Reading

variable {Q : Type} [Backend Q] {x : Scope} {format : String} {config : FilterConfig}
  {spec : FilterSpec}

theorem applyPredicate_reading (h : x.dateFormat = format) (column : String) (q : Q) :
    (x.reading format).applyPredicate config spec column q =
      x.applyPredicate config spec column q := by
  rw [applyPredicate, dateFormat_reading, ← h]
  rfl

theorem applyLocal_reading (h : x.dateFormat = format) (field : String) (q : Q) :
    (x.reading format).applyLocal config spec field q = x.applyLocal config spec field q := by
  unfold applyLocal
  simp only [applyPredicate_reading h]
  rfl

theorem applyFallback_reading (h : x.dateFormat = format) (parts : List String) (q : Q) :
    (x.reading format).applyFallback config spec parts q =
      x.applyFallback config spec parts q := by
  unfold applyFallback
  split
  · simp only [applyPredicate_reading h]
  · rfl

theorem applyPath_reading (h : x.dateFormat = format) (parts : List String) (q : Q) :
    (x.reading format).applyPath config spec parts q = x.applyPath config spec parts q := by
  induction parts generalizing x config q with
  | nil => rfl
  | cons name parts ih =>
    cases parts with
    | nil => exact applyLocal_reading h name q
    | cons next rest =>
      have hpath : ∀ v config (sub : Q), ((x.reading format).beyond v).applyPath config spec
          (next :: rest) sub = (x.beyond v).applyPath config spec (next :: rest) sub :=
        fun v config sub => ih (x := x.beyond v) h sub
      have hfallback : ∀ v config (sub : Q), ((x.reading format).beyond v).applyFallback config spec
          (next :: rest) sub = (x.beyond v).applyFallback config spec (next :: rest) sub :=
        fun v config sub => applyFallback_reading (x := x.beyond v) h (next :: rest) sub
      unfold applyPath
      simp only [hpath, hfallback]
      rfl

theorem applySingle_reading (h : x.dateFormat = format) (q : Q) :
    (x.reading format).applySingle config spec q = x.applySingle config spec q := by
  unfold applySingle
  simp only [applyPath_reading h, applyLocal_reading h]

theorem applyFilters_reading (h : x.dateFormat = format) (specs : List FilterSpec) (q : Q) :
    (x.reading format).applyFilters config specs q = x.applyFilters config specs q := by
  induction specs generalizing q with
  | nil => rfl
  | cons spec specs ih => simp only [applyFilters, applySingle_reading h, ih]

end Reading

variable {x y : Scope} {q : ConditionQuery} {config : FilterConfig} {spec : FilterSpec}
  {names : List String} {column table : String} {b : Bool}

/-- A filter on dates adds the day that its value names, and passes over a value that names none. -/
theorem applyPredicate_date (ho : spec.operatorTag = some .date)
    (hb : (x.applyPredicate config spec column q).result = .ok b) :
    ∃ v day, coerce spec.typeTag spec.operatorTag (.text x.settings.arrayDelimiter) spec.value =
        .ok v ∧
      v.isoDay? x.weekRule (.text x.dateFormat) = .ok day ∧ b = day.isSome ∧
      ∀ s, day = some s → (x.applyPredicate config spec column q).query =
        q.record (.leaf ⟨.text column, .date, .text s⟩) := by
  obtain ⟨v, hv, h⟩ := andThen_eq_ok.mp hb
  obtain ⟨applied, hd, hnote⟩ := andThen_eq_ok.mp h
  rw [aside_result, announce_result] at hnote
  cases hnote
  have hof : Operator.ofValue? (.text spec.operator) = some .date := ho
  have ht : Operator.test? .date x.weekRule (.text x.dateFormat) config.caseSensitive v =
      (v.isoDay? x.weekRule (.text x.dateFormat)).map (·.map fun s => (.date, .text s)) := rfl
  cases hday : v.isoDay? x.weekRule (.text x.dateFormat) with
  | error e =>
    rw [hday] at ht
    rw [dispatch_of_fault hof ht] at hd
    cases hd
  | ok day =>
    rw [hday] at ht
    cases day with
    | none =>
      rw [dispatch_of_unused hof ht] at hd
      cases hd
      exact ⟨v, none, hv, hday, rfl, nofun⟩
    | some s =>
      have hacc : x.Accepts config spec .date (.text s) := ⟨v, .date, .text s, hv, ho, ht, rfl⟩
      obtain ⟨hresult, hquery⟩ := applyPredicate_of_accepts q column hacc
      rw [hb] at hresult
      cases hresult
      refine ⟨v, some s, hv, hday, rfl, fun s' hs => ?_⟩
      cases hs
      exact hquery

theorem applyLocal_of_has {fields : Keyed FieldDescriptor} (hf : x.fields = .ok fields)
    (hc : fields.has column = true) (ht : x.table = .ok table) (q : ConditionQuery) :
    x.applyLocal config spec column q =
      x.applyPredicate config spec (Column.qualify table column) q := by
  simp only [applyLocal, hf, aside_ok_andThen, hc, Bool.not_true, Bool.false_eq_true, if_false, ht]

/-- A path with a dot has a relation in front, and a filter on it is asked for along its parts. -/
theorem applySingle_path (hvalue : spec.isEmpty = false)
    (hp : (spec.isPath && config.deep) = true) : ∃ name names column,
      pathParts spec.field = name :: (names ++ [column]) ∧
      (∀ p ∈ names ++ [column], IsPart p) ∧
      ∀ q : ConditionQuery, x.applySingle config spec q =
        x.applyPath config spec (name :: (names ++ [column])) q := by
  obtain ⟨name, names, column, hparts, hpart⟩ :=
    pathParts_eq_append (Bool.and_eq_true_iff.mp hp).1
  refine ⟨name, names, column, hparts, hpart, fun q => ?_⟩
  rw [applySingle, hvalue, if_neg Bool.false_ne_true, if_pos hp, hparts]

theorem applySingle_of_targets (hq : q.Over x) (hvalue : spec.isEmpty = false)
    (h : x.Targets config spec names table column)
    (hd : Decided (x.applySingle config spec q).result) :
    ∃ sub : ConditionQuery, (x.applySingle config spec q).result =
        (x.applyPredicate config spec (Column.qualify table column) sub).result ∧
      ∀ b c, (x.applyPredicate config spec (Column.qualify table column) sub).result = .ok b →
        (x.applyPredicate config spec (Column.qualify table column) sub).query = sub.record c →
        (x.applySingle config spec q).query = q.record (nested names c) := by
  cases h with
  | here hp hf hc ht =>
    have heq : x.applySingle config spec q =
        x.applyPredicate config spec (Column.qualify table spec.field) q := by
      rw [applySingle, hvalue, if_neg Bool.false_ne_true, hp, if_neg Bool.false_ne_true,
        applyLocal_of_has hf hc ht]
    exact ⟨q, by rw [heq], fun b c _ hquery => by rw [heq]; exact hquery⟩
  | beyond hp hparts hadm ht =>
    obtain ⟨name, names', column', hparts', hpart, heq⟩ :=
      applySingle_path (x := x) hvalue hp
    rw [hparts, ← List.cons_append] at hparts'
    obtain ⟨rfl, hlast⟩ := List.append_inj' hparts' rfl
    cases hlast
    rw [heq] at hd ⊢
    obtain ⟨table', sub, htable, hresult, hquery⟩ := applyPath_of_admitted hadm hq hpart hd
    rw [ht] at htable
    cases htable
    exact ⟨sub, hresult, hquery⟩

theorem exists_targets (hq : q.Over x) (hvalue : spec.isEmpty = false)
    (h : (x.applySingle config spec q).result = .ok true) :
    ∃ names table column, x.Targets config spec names table column := by
  cases hp : spec.isPath && config.deep with
  | false =>
    rw [applySingle, hvalue, if_neg Bool.false_ne_true, hp, if_neg Bool.false_ne_true] at h
    obtain ⟨fields, hf, ⟨_, hdropped⟩ | ⟨hc, table, ht, _⟩⟩ :=
      applyLocal_of_decided (decided_of_ok h)
    · rw [hdropped] at h
      cases h
    · exact ⟨[], table, spec.field, .here hp hf hc ht⟩
  | true =>
    obtain ⟨name, names, column, hparts, hpart, heq⟩ := applySingle_path (x := x) hvalue hp
    rw [heq] at h
    have hd := decided_of_ok h
    obtain ⟨rs, y, hadm⟩ := admitted_of_applyPath hq hpart hd (by simp [h])
    obtain ⟨table, _, ht, _⟩ := applyPath_of_admitted hadm hq hpart hd
    exact ⟨name :: names, table, column, .beyond hp hparts hadm ht⟩

theorem applySingle_date (hq : q.Over x) (ho : spec.operatorTag = some .date)
    (hvalue : spec.isEmpty = false) (hb : (x.applySingle config spec q).result = .ok b)
    (h : x.Targets config spec names table column) :
    ∃ v day, coerce spec.typeTag spec.operatorTag (.text x.settings.arrayDelimiter) spec.value =
        .ok v ∧
      v.isoDay? x.weekRule (.text x.dateFormat) = .ok day ∧ b = day.isSome ∧
      (x.applySingle config spec q).query = day.elim q fun s => q.record
        (nested names (.leaf ⟨.text (Column.qualify table column), .date, .text s⟩)) := by
  obtain ⟨sub, hresult, hquery⟩ := applySingle_of_targets hq hvalue h (decided_of_ok hb)
  rw [hb] at hresult
  obtain ⟨v, day, hv, hday, rfl, hadded⟩ := applyPredicate_date ho hresult.symm
  refine ⟨v, day, hv, hday, rfl, ?_⟩
  cases day with
  | none =>
    have hyields := (x.contributes_applySingle config spec).yields q
    rw [hb] at hyields
    exact not_not.mp fun hne => absurd (hyields.ne_iff.mp hne) (by simp)
  | some s => exact hquery true _ hresult.symm (hadded s rfl)

/-- How dates are read. Whatever a scope does, it does as a scope that asks for the standard format
if its settings share the installed one, and for the format of its settings otherwise. That is the
format of its settings unless they share an installed one that is not standard. A filter on dates
adds a condition only where its path leads, local or through relations. There it adds the day that
its coerced value names in this format, and it is passed over just when it names none. -/
theorem dates_read (x : Scope) :
    let format := if x.settings.dateFormat = x.installed.dateFormat then standardDateFormat
      else x.settings.dateFormat
    (∀ (Q : Type) [Backend Q] (config : FilterConfig) (specs : List FilterSpec) (q : Q),
      x.applyFilters config specs q = (x.reading format).applyFilters config specs q) ∧
    (format = x.settings.dateFormat ↔ x.settings.dateFormat ≠ x.installed.dateFormat ∨
      x.settings.dateFormat = standardDateFormat) ∧
    ∀ (q : ConditionQuery) config spec b, q.Over x → spec.operatorTag = some .date →
      spec.isEmpty = false → (x.applySingle config spec q).result = .ok b →
      (b = true → ∃ names table column, x.Targets config spec names table column) ∧
      ∀ names table column, x.Targets config spec names table column → ∃ v day,
        coerce spec.typeTag spec.operatorTag (.text x.settings.arrayDelimiter) spec.value = .ok v ∧
        v.isoDay? x.weekRule (.text format) = .ok day ∧ b = day.isSome ∧
        (x.applySingle config spec q).query = day.elim q fun s => q.record
          (nested names (.leaf ⟨.text (Column.qualify table column), .date, .text s⟩)) := by
  intro format
  have hformat : x.dateFormat = format := rfl
  refine ⟨fun Q _ config specs q => (applyFilters_reading hformat specs q).symm, ?_,
    fun q config spec b hq ho hvalue hb => ⟨?_, fun names table column h => ?_⟩⟩
  · by_cases hsame : x.settings.dateFormat = x.installed.dateFormat
    · simp only [format, hsame, if_true, ne_eq, not_true, false_or, eq_comm]
    · simp only [format, hsame, if_false, ne_eq, not_false_eq_true, true_or]
  · rintro rfl
    exact exists_targets hq hvalue hb
  · rw [← hformat]
    exact applySingle_date hq ho hvalue hb h

/-- Entries of a diary that is kept in days before months. -/
def diary (installed : String) : Scope where
  catalog := {
    tables := [("entries", [("id", "integer"), ("written", "date")])]
    entities := [{
      name := "Entry", table := some "entries"
      fields := some (.dict [("written", .field "written" .date .date)]) }] }
  settings := { dateFormat := "%d/%m/%Y" }
  subject := .entity "Entry"
  installed := { dateFormat := installed }

def allEntries : ConditionQuery :=
  ⟨(diary "").catalog, {}, .entity "Entry", "entries", []⟩

def writtenFilter : FilterSpec :=
  { field := "written", value := .text "05/03/2024", operator := "date", type := "date" }

theorem writtenFilter_operatorTag : writtenFilter.operatorTag = some .date :=
  Operator.parse?_symbol .date

theorem coerce_writtenFilter (delimiter : Value) :
    coerce writtenFilter.typeTag writtenFilter.operatorTag delimiter writtenFilter.value =
      .ok (.text "05/03/2024") := by
  have ht : writtenFilter.typeTag = some .date := FieldType.parse?_symbol .date
  rw [ht, writtenFilter_operatorTag]
  rfl

theorem diary_written : (diary standardDateFormat).applyFilters {} [writtenFilter] allEntries =
      ((diary standardDateFormat).reading "%d/%m/%Y").applyFilters {} [writtenFilter] allEntries ∧
    ((diary standardDateFormat).applySingle {} writtenFilter allEntries).query =
      allEntries.record (.leaf ⟨.text "entries.written", .date, .text "2024-03-05"⟩) := by
  obtain ⟨hreading, _, hdate⟩ := dates_read (diary standardDateFormat)
  refine ⟨hreading ConditionQuery {} [writtenFilter] allEntries, ?_⟩
  have hacc : (diary standardDateFormat).Accepts {} writtenFilter .date (.text "2024-03-05") :=
    ⟨_, .date, _, coerce_writtenFilter _, writtenFilter_operatorTag, rfl, rfl⟩
  have hb : ((diary standardDateFormat).applySingle {} writtenFilter allEntries).result =
      .ok true :=
    (applyPredicate_of_accepts allEntries "entries.written" hacc).1
  have htargets : (diary standardDateFormat).Targets {} writtenFilter [] "entries" "written" :=
    .here rfl rfl rfl rfl
  obtain ⟨v, day, hv, hday, _, hquery⟩ := (hdate allEntries {} writtenFilter true ⟨rfl, rfl⟩
    writtenFilter_operatorTag rfl hb).2 _ _ _ htargets
  rw [coerce_writtenFilter] at hv
  cases hv
  cases hday
  exact hquery

/-- Where the format of the diary is the installed one, its days are read in another. -/
theorem diary_unread :
    ((diary "%d/%m/%Y").applySingle {} writtenFilter allEntries).result = .ok false ∧
      ((diary "%d/%m/%Y").applySingle {} writtenFilter allEntries).query = allEntries ∧
      writtenFilter.value.isoDay? (diary "%d/%m/%Y").weekRule
        (.text (diary "%d/%m/%Y").settings.dateFormat) = .ok (some "2024-03-05") := by
  have hrun : (diary "%d/%m/%Y").applySingle {} writtenFilter allEntries =
      (diary "%d/%m/%Y").applyPredicate {} writtenFilter "entries.written" allEntries := rfl
  have hof : Operator.ofValue? (.text writtenFilter.operator) = some .date :=
    writtenFilter_operatorTag
  have ht : Operator.test? .date (diary "%d/%m/%Y").weekRule (.text (diary "%d/%m/%Y").dateFormat)
      false (.text "05/03/2024") = .ok none := rfl
  rw [hrun, applyPredicate, coerce_writtenFilter, aside_ok_andThen, dispatch_of_unused hof ht]
  exact ⟨rfl, rfl, rfl⟩

end Scope

end QueryFilter
