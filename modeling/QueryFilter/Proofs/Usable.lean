import QueryFilter.Proofs.Contribution
import QueryFilter.Proofs.LeadingNumeral

/-! The values that an operator can use. A predicate on one adds one condition, and a value that
cannot be used is passed over, but for two kinds of it: figures that write no number, and texts
for days under a format that names one directive twice. There the filter fails. -/

namespace QueryFilter

open Building Traced

namespace Text

variable {c : Char}

theorem not_isBlank_figures : ∀ r ∈ figureRanges, ∀ k < r.2 - r.1 + 1,
    isBlank (Char.ofNat (r.1 + k)) = false := by
  decide

theorem not_isBlank_of_isFigure (h : isFigure c = true) : isBlank c = false := by
  rcases Bool.or_eq_true_iff.mp h with h | h
  · exact not_isBlank_of_isDigit h
  · obtain ⟨r, hr, hrange⟩ := List.any_eq_true.mp h
    rw [Bool.and_eq_true, decide_eq_true_eq, decide_eq_true_eq] at hrange
    have hh := not_isBlank_figures r hr (c.toNat - r.1) (by omega)
    rwa [show r.1 + (c.toNat - r.1) = c.toNat by omega, Char.ofNat_toNat] at hh

theorem ne_of_isFigure (h : isFigure c = true) : c ≠ '-' ∧ c ≠ '+' ∧ c ≠ '_' := by
  refine ⟨?_, ?_, ?_⟩ <;> rintro rfl <;> revert h <;> decide

/-- Texts of digits alone, and of no more digits than an integer may have. -/
def IsNumber (s : String) : Prop :=
  s.toList ≠ [] ∧ (∀ c ∈ s.toList, isDigit c = true) ∧ s.toList.length ≤ Numeral.digitLimit

end Text

namespace Numeral

open Text

variable {cs ds after : List Char} {c : Char}

theorem takeSign_trim_figures (h : ∀ c ∈ cs, isFigure c = true) (hne : cs ≠ []) :
    takeSign (trim isNumeralBlank cs) = (false, cs) := by
  obtain ⟨c, body, rfl⟩ := List.exists_cons_of_ne_nil hne
  have hsign := ne_of_isFigure (h c List.mem_cons_self)
  have hbody : ∀ b ∈ c :: body, isNumeralBlank b = false := fun b hb =>
    not_isNumeralBlank (not_isBlank_of_isFigure (h b hb))
  obtain ⟨left, hs, hleft⟩ := takeSign_trim [] (List.forall_mem_nil _) (Or.inl rfl : IsSign [])
    hbody ⟨hsign.1, hsign.2.1⟩
  rw [List.prefix_nil.mp hleft] at hs
  simpa using hs

/-- A figure that is no digit spoils the numeral, whatever digits stand before it. -/
theorem readInteger_figure (h : ∀ b ∈ ds ++ c :: after, isFigure b = true)
    (hds : ∀ c ∈ ds, isDigit c = true) (hc : isDigit c = false) :
    ∃ e, readInteger (ds ++ c :: after) = .error e := by
  have hs := takeSign_trim_figures h (by simp)
  have hu : c ≠ '_' := (ne_of_isFigure (h c (by simp))).2.2
  have hnone := digitValue?_eq_none hc
  by_cases hne : ds = []
  · subst hne
    refine ⟨_, readInteger_of_spoilt hs ?_⟩
    simp [grouped, hnone]
  · have hg := grouped_append hds hne false (c :: after)
    have hrest : grouped true (c :: after) = some ([], c :: after) := by simp [grouped, hnone, hu]
    rw [hrest] at hg
    rw [readInteger_of_grouped hs hg]
    split
    · exact ⟨_, rfl⟩
    · exact ⟨_, rfl⟩

theorem readInteger_figures (h : ∀ c ∈ cs, isFigure c = true) (hne : cs ≠ []) :
    (∃ n, readInteger cs = .ok n) ↔
      (∀ c ∈ cs, isDigit c = true) ∧ cs.length ≤ digitLimit := by
  by_cases hd : ∀ c ∈ cs, isDigit c = true
  · have hread := readInteger_numeral (List.forall_mem_nil _) (Or.inl rfl : IsSign []) hd hne
    rw [List.nil_append, List.nil_append] at hread
    rw [hread]
    by_cases hl : digitLimit < cs.length
    · simp [hl]
    · rw [if_neg hl]
      exact ⟨fun _ => ⟨hd, by omega⟩, fun _ => ⟨_, rfl⟩⟩
  · refine iff_of_false ?_ fun h => hd h.1
    rintro ⟨n, hn⟩
    have hrest : cs.dropWhile isDigit ≠ [] := fun hnil => hd (List.dropWhile_eq_nil_iff.mp hnil)
    obtain ⟨c, after, hafter⟩ := List.exists_cons_of_ne_nil hrest
    have hc : isDigit c = false := by
      simpa [hafter] using List.head_dropWhile_not isDigit hrest
    have heq : cs.takeWhile isDigit ++ c :: after = cs := by
      rw [← hafter, List.takeWhile_append_dropWhile]
    have hfigures : ∀ b ∈ cs.takeWhile isDigit ++ c :: after, isFigure b = true := by rwa [heq]
    obtain ⟨e, he⟩ := readInteger_figure hfigures (fun _ hm => List.mem_takeWhile_imp hm) hc
    rw [heq, hn] at he
    cases he

end Numeral

/-- When an optional result is there, and when a fault is there in its place. -/
structure Splits {α : Type} (x : Except Fault (Option α)) (given failed : Prop) : Prop where
  given_iff : (∃ a, x = .ok (some a)) ↔ given
  failed_iff : (∃ e, x = .error e) ↔ failed

namespace Splits

variable {α β : Type} {x : Except Fault (Option α)} {given failed : Prop}

theorem some {a : α} (hg : given) (hf : ¬ failed) : Splits (.ok (.some a)) given failed :=
  ⟨iff_of_true ⟨a, rfl⟩ hg, iff_of_false nofun hf⟩

theorem none (hg : ¬ given) (hf : ¬ failed) :
    Splits (.ok .none : Except Fault (Option α)) given failed :=
  ⟨iff_of_false nofun hg, iff_of_false nofun hf⟩

theorem error {e : Fault} (hg : ¬ given) (hf : failed) :
    Splits (.error e : Except Fault (Option α)) given failed :=
  ⟨iff_of_false nofun hg, iff_of_true ⟨e, rfl⟩ hf⟩

theorem map (h : Splits x given failed) (f : α → β) : Splits (x.map (·.map f)) given failed := by
  refine ⟨Iff.trans ?_ h.given_iff, Iff.trans ?_ h.failed_iff⟩
  · constructor
    · rintro ⟨b, hb⟩
      obtain ⟨found, hx, hfound⟩ := Outcome.map_eq_ok.mp hb
      obtain ⟨a, rfl, _⟩ := Option.map_eq_some_iff.mp hfound
      exact ⟨a, hx⟩
    · rintro ⟨a, rfl⟩
      exact ⟨f a, rfl⟩
  · constructor
    · rintro ⟨e, he⟩
      exact ⟨e, Outcome.map_eq_error.mp he⟩
    · rintro ⟨e, rfl⟩
      exact ⟨e, rfl⟩

end Splits

namespace Value

open Text Calendar Numeral

variable {v : Value} {s format : String} {rule : WeekRule}

/-- The values that stand for a day under a format. -/
inductive HasDay (rule : WeekRule) (format : String) : Value → Prop
  | date (d : Date) : HasDay rule format (.date d)
  | moment (m : Moment) : HasDay rule format (.moment m)
  | text {v : Value} {s : String} {p : Pattern} {d : Date} (hv : v.asText? = some s)
    (hp : Pattern.parse format = .ok p) (hd : p.date? rule (strip s) = some d) :
    HasDay rule format v

/-- The values that number a month, a year or a day. -/
inductive HasPart : Value → Prop
  | int (n : Int) : HasPart (.int n)
  | text {v : Value} {s : String} (hv : v.asText? = some s) (hs : IsNumber (strip s)) : HasPart v

/-- Texts under a format with which no text can be read. -/
def FailsAsDay (format : String) (v : Value) : Prop :=
  v.isText = true ∧ Pattern.parse format = .error .repeatedDirective

/-- Texts of figures alone that write no number. -/
def FailsAsPart (v : Value) : Prop :=
  ∃ s, v.asText? = some s ∧ isFigures (strip s) = true ∧ ¬ IsNumber (strip s)

theorem hasDay_text (hv : v.asText? = some s) : v.HasDay rule format ↔
    ∃ p d, Pattern.parse format = .ok p ∧ p.date? rule (strip s) = some d := by
  constructor
  · intro h
    cases h with
    | date | moment => cases hv
    | text hs hp hd =>
      rw [hv] at hs
      cases hs
      exact ⟨_, _, hp, hd⟩
  · rintro ⟨p, d, hp, hd⟩
    exact .text hv hp hd

theorem hasPart_text (hv : v.asText? = some s) : v.HasPart ↔ IsNumber (strip s) := by
  constructor
  · intro h
    cases h with
    | int => cases hv
    | text hs hn =>
      rw [hv] at hs
      cases hs
      exact hn
  · exact .text hv

theorem failsAsPart_text (hv : v.asText? = some s) :
    v.FailsAsPart ↔ isFigures (strip s) = true ∧ ¬ IsNumber (strip s) := by
  simp [FailsAsPart, hv]

theorem day?_text (hv : v.asText? = some s) (rule : WeekRule) (format : Value) :
    v.day? rule format = dayOfText rule format s := by
  cases v with
  | text | operator | type =>
    cases hv
    rfl
  | _ => cases hv

theorem datePart?_text (hv : v.asText? = some s) :
    v.datePart? = if isFigures (strip s) then (integerOfText (strip s)).map some else .ok none := by
  cases v with
  | text | operator | type =>
    cases hv
    rfl
  | _ => cases hv

theorem isFigures_iff : isFigures s = true ↔ s.toList ≠ [] ∧ ∀ c ∈ s.toList, isFigure c = true := by
  simp [isFigures]

theorem isFigures_of_isNumber (h : IsNumber s) : isFigures s = true :=
  isFigures_iff.mpr ⟨h.1, fun c hc => by rw [isFigure, h.2.1 c hc, Bool.true_or]⟩

theorem splits_integerOfText (h : isFigures s = true) :
    Splits ((integerOfText s).map some) (IsNumber s) (¬ IsNumber s) := by
  obtain ⟨hne, hall⟩ := isFigures_iff.mp h
  have hread : (∃ n, readInteger s.toList = .ok n) ↔ IsNumber s :=
    (readInteger_figures hall hne).trans (by simp [IsNumber, hne])
  cases hr : readInteger s.toList with
  | ok n =>
    have hn := hread.mp ⟨n, hr⟩
    have hok : integerOfText s = .ok n := by rw [integerOfText, hr]; rfl
    rw [hok]
    exact .some hn (not_not.mpr hn)
  | error e =>
    have hn : ¬ IsNumber s := fun hn => by
      obtain ⟨n, hok⟩ := hread.mpr hn
      rw [hr] at hok
      cases hok
    have herror : integerOfText s = .error (integerFault (.text s) e) := by
      rw [integerOfText, hr]
      rfl
    rw [herror]
    exact .error hn hn

theorem splits_datePart? (v : Value) : Splits v.datePart? v.HasPart v.FailsAsPart := by
  cases hv : v.asText? with
  | some s =>
    rw [datePart?_text hv, hasPart_text hv, failsAsPart_text hv]
    by_cases hf : isFigures (strip s) = true
    · rw [if_pos hf]
      simpa only [hf, true_and] using splits_integerOfText hf
    · rw [if_neg hf]
      exact .none (fun hn => hf (isFigures_of_isNumber hn)) fun h => hf h.1
  | none =>
    have hfails : ¬ v.FailsAsPart := by simp [FailsAsPart, hv]
    by_cases hn : ∃ n, v = .int n
    · obtain ⟨n, rfl⟩ := hn
      exact .some (.int n) hfails
    · have hpart : ¬ v.HasPart := by
        intro h
        cases h with
        | int n => exact hn ⟨n, rfl⟩
        | text hs => simp [hv] at hs
      have hnone : v.datePart? = .ok none := by
        cases v with
        | text | operator | type => cases hv
        | int n => exact absurd ⟨n, rfl⟩ hn
        | _ => rfl
      rw [hnone]
      exact .none hpart hfails

theorem splits_dayOfText (rule : WeekRule) (format s : String) :
    Splits (dayOfText rule (.text format) s)
    (∃ p d, Pattern.parse format = .ok p ∧ p.date? rule (strip s) = some d)
    (Pattern.parse format = .error .repeatedDirective) := by
  simp only [dayOfText, asText?, Option.map_some]
  cases Pattern.parse format with
  | ok p =>
    show Splits (.ok (p.date? rule (strip s))) _ _
    cases hd : p.date? rule (strip s) with
    | none => exact .none (by simp [hd]) (by simp)
    | some d => exact .some ⟨p, d, rfl, hd⟩ (by simp)
  | error r =>
    cases r with
    | badDirective => exact .none (by simp) (by simp)
    | repeatedDirective => exact .error (by simp) rfl

theorem splits_day? (rule : WeekRule) (format : String) (v : Value) :
    Splits (v.day? rule (.text format)) (v.HasDay rule format) (v.FailsAsDay format) := by
  cases hv : v.asText? with
  | some s =>
    have hfails : v.FailsAsDay format ↔ Pattern.parse format = .error .repeatedDirective := by
      simp [FailsAsDay, isText, hv]
    rw [day?_text hv, hasDay_text hv, hfails]
    exact splits_dayOfText rule format s
  | none =>
    have hfails : ¬ v.FailsAsDay format := by simp [FailsAsDay, isText, hv]
    by_cases hd : v.HasDay rule format
    · cases hd with
      | date d => exact .some (.date d) hfails
      | moment m => exact .some (.moment m) hfails
      | text hs => simp [hv] at hs
    · have hnone : v.day? rule (.text format) = .ok none := by
        cases v with
        | text | operator | type => cases hv
        | date d => exact absurd (.date d) hd
        | moment m => exact absurd (.moment m) hd
        | _ => rfl
      rw [hnone]
      exact .none hd hfails

end Value

namespace Operator

open Calendar

variable {o : Operator} {rule : WeekRule} {format v raw : Value} {caseSensitive : Bool}
  {test : Test}

/-- The values that an operator can use. -/
def Takes (rule : WeekRule) (format : String) (v : Value) : Operator → Prop
  | .between | .notBetween => v.asList.length = 2
  | .date => v.HasDay rule format
  | .month | .year | .day => v.HasPart
  | .eq | .ne | .gt | .gte | .lt | .lte | .like | .notLike | .within | .notWithin | .null
  | .notNull => True

/-- The values at which an operator fails. -/
def FailsOn (format : String) (v : Value) : Operator → Prop
  | .date => v.FailsAsDay format
  | .month | .year | .day => v.FailsAsPart
  | .eq | .ne | .gt | .gte | .lt | .lte | .like | .notLike | .within | .notWithin | .between
  | .notBetween | .null | .notNull => False

theorem splits_bounds (test : Test) (v : Value) :
    Splits (.ok ((bounds? v).map (test, ·))) (v.asList.length = 2) False := by
  unfold bounds?
  rcases v.asList with _ | ⟨a, _ | ⟨b, _ | ⟨c, vs⟩⟩⟩
  · exact .none (by simp) id
  · exact .none (by simp) id
  · exact .some rfl id
  · exact .none (by simp) id

theorem splits_test? (o : Operator) (rule : WeekRule) (format : String) (caseSensitive : Bool)
    (v : Value) :
    Splits (o.test? rule (.text format) caseSensitive v) (o.Takes rule format v)
      (o.FailsOn format v) := by
  cases o with
  | between | notBetween => exact splits_bounds _ v
  | date => exact ((Value.splits_day? rule format v).map _).map _
  | month | year | day => exact ((Value.splits_datePart? v).map _).map _
  | _ => exact .some trivial id

theorem recordedOperand_of_test?
    (ht : o.test? rule format caseSensitive v = .ok (some (test, raw))) :
    ∃ operand, ConditionQuery.recordedOperand test raw = .ok operand := by
  cases o with
  | like | notLike => cases caseSensitive <;> cases ht <;> exact ⟨_, rfl⟩
  | between | notBetween =>
    obtain ⟨w, hw, htest⟩ := Option.map_eq_some_iff.mp (Except.ok.inj ht)
    obtain ⟨a, b, rfl⟩ := bounds?_eq_some hw
    cases htest
    exact ⟨_, rfl⟩
  | date | month | year | day =>
    obtain ⟨found, _, hsome⟩ := Outcome.map_eq_ok.mp ht
    obtain ⟨w, _, htest⟩ := Option.map_eq_some_iff.mp hsome
    cases htest
    exact ⟨_, rfl⟩
  | _ =>
    cases ht
    exact ⟨_, rfl⟩

end Operator

namespace ConditionQuery

open Calendar

/-- A filter with a known operator and a value that it takes becomes one condition. A filter fails
on a value that its operator fails on, and otherwise only where the operator is unknown in strict
mode or the column cannot be a key. All other filters are passed over, and what becomes no
condition leaves the query as it is. The rule on weeks decides only which texts name a day. -/
theorem dispatch_adds_skips_or_fails (rule : WeekRule) (format : String) (config : FilterConfig)
    (operator column v : Value) (q : ConditionQuery) :
    let ended := dispatch rule (.text format) config operator column v q
    (ended.result = .ok true ↔ ∃ o, Operator.ofValue? operator = some o ∧ o.Takes rule format v ∧
        column.isHashable = true) ∧
      ((∃ e, ended.result = .error e) ↔
        Operator.ofValue? operator = none ∧ config.strict = true ∨
          ∃ o, Operator.ofValue? operator = some o ∧
            (o.FailsOn format v ∨ o.Takes rule format v ∧ column.isHashable = false)) ∧
      (ended.result = .ok true → ∃ test operand,
        ended.query = q.record (.leaf ⟨column, test, operand⟩)) ∧
      (ended.result ≠ .ok true → ended.query = q) := by
  intro ended
  cases ho : Operator.ofValue? operator with
  | none =>
    obtain ⟨hquery, hresult⟩ : ended.query = q ∧ ended.result = _ := dispatch_of_unknown ho
    rw [hquery, hresult]
    cases config.strict with
    | true => simp
    | false => simp
  | some o =>
    have hsplit := o.splits_test? rule format config.caseSensitive v
    simp only [Option.some.injEq, exists_eq_left', reduceCtorEq, false_and, false_or,
      ← hsplit.given_iff, ← hsplit.failed_iff]
    cases ht : o.test? rule (.text format) config.caseSensitive v with
    | error e =>
      have hended : ended = _ := dispatch_of_fault ho ht
      simp [hended]
    | ok asked =>
      cases asked with
      | none =>
        have hended : ended = _ := dispatch_of_unused ho ht
        simp [hended, done]
      | some asked =>
        obtain ⟨test, raw⟩ := asked
        obtain ⟨operand, hr⟩ := Operator.recordedOperand_of_test? ht
        have hended : ended = _ := dispatch_of_test ho ht
        cases hc : column.isHashable with
        | true =>
          rw [hended, adding_recorded hc hr]
          simpa using ⟨test, operand, rfl⟩
        | false =>
          rw [hended, adding_unhashable hc hr]
          simp

def barePosts : ConditionQuery :=
  ⟨{}, {}, .entity "Post", "posts", []⟩

/-- A superscript two counts as a figure and writes no number; a format with two days cannot be
used for any text. -/
theorem barePosts_fails :
    (dispatch .strict (.text "%Y-%m-%d") { strict := false } (.text "month")
        (.text "posts.published") (.text "²") barePosts).result = .error (.integerText (.text "²")) ∧
      (dispatch .strict (.text "%d %d") { strict := false } (.text "date") (.text "posts.published")
        (.text "5") barePosts).result = .error .repeatedDirective := by
  have hmonth : Operator.ofValue? (.text "month") = some .month := Operator.parse?_symbol .month
  have hdate : Operator.ofValue? (.text "date") = some .date := Operator.parse?_symbol .date
  constructor
  · rw [dispatch_of_fault hmonth (e := .integerText (.text "²")) (by rfl)]
  · rw [dispatch_of_fault hdate (e := .repeatedDirective) (by rfl)]

end ConditionQuery

end QueryFilter
