import QueryFilter.Coercion
import QueryFilter.Proofs.Day
import QueryFilter.Proofs.LeadingDecimal
import QueryFilter.Proofs.Outcome
import QueryFilter.Proofs.Overflow

/-! Which values cannot be coerced. A number that a text does not write as a whole is the one that
it begins with, or zero; what remains are numbers that are too large, numbers behind a separator,
and arguments that cannot be written or cannot delimit. -/

namespace QueryFilter

open Text Numeral

theorem integerIn_error_iff (s : String) : (∃ e, integerIn s = .error e) ↔
    leadingDigits s.toList ≠ [] ∧
      (Separated s.toList ∨ digitLimit < (leadingDigits s.toList).length) := by
  cases hwhole : readInteger s.toList with
  | ok n =>
    have hok : integerIn s = .ok n := by simp only [integerIn, hwhole]
    rw [hok]
    constructor
    · rintro ⟨e, he⟩
      cases he
    · intro h
      obtain ⟨e, he⟩ := readInteger_of_spoilt_leading h
      rw [hwhole] at he
      cases he
  | error refusal =>
    have hlead : integerIn s = leadingInteger s := by simp only [integerIn, hwhole]
    rw [hlead]
    unfold leadingInteger
    cases hl : leadingInteger? s.toList with
    | none =>
      constructor
      · rintro ⟨e, he⟩
        cases he
      · rintro ⟨hne, _⟩
        rw [leadingInteger?_eq_some.mpr ⟨hne, rfl⟩] at hl
        cases hl
    | some cs =>
      have hne := (leadingInteger?_eq_some.mp hl).1
      have hread := readInteger_leading hl
      dsimp only
      unfold integerOfText
      rw [String.toList_ofList]
      simp only [hne, ne_eq, not_false_eq_true, true_and, ← hread]
      cases readInteger cs with
      | ok n => simp [Except.mapError]
      | error e => simp [Except.mapError]

/-- The integer that a text gives: the one that it writes, or else the one that it begins with, or
zero. -/
inductive GivesInteger (cs : List Char) : Int → Prop
  | whole {n : Int} (h : readInteger cs = .ok n) : GivesInteger cs n
  | leading {e : Numeral.Refusal} {ds : List Char} {n : Int} (he : readInteger cs = .error e)
    (hl : leadingInteger? cs = some ds) (h : readInteger ds = .ok n) : GivesInteger cs n
  | zero {e : Numeral.Refusal} (he : readInteger cs = .error e) (hl : leadingInteger? cs = none) :
    GivesInteger cs 0

/-- The float that a text gives: the one that it begins with, or zero. -/
inductive GivesFloat (cs : List Char) : Binary64 → Prop
  | leading {ds : List Char} {x : Binary64} (hl : leadingDecimal? cs = some ds)
    (h : readDecimal? ds = some x) : GivesFloat cs x
  | zero (hl : leadingDecimal? cs = none) : GivesFloat cs (Binary64.zero false)

theorem givesInteger_of_ok {s : String} {n : Int} (h : integerIn s = .ok n) :
    GivesInteger s.toList n := by
  unfold integerIn at h
  cases hwhole : readInteger s.toList with
  | ok m =>
    rw [hwhole] at h
    cases h
    exact .whole hwhole
  | error e =>
    simp only [hwhole, leadingInteger] at h
    cases hl : leadingInteger? s.toList with
    | none =>
      simp only [hl] at h
      cases h
      exact .zero hwhole hl
    | some ds =>
      simp only [hl, integerOfText, String.toList_ofList] at h
      cases hread : readInteger ds with
      | ok m =>
        rw [hread] at h
        cases h
        exact .leading hwhole hl hread
      | error e' =>
        rw [hread] at h
        cases h

theorem givesFloat_of_ok {s : String} {x : Binary64} (h : leadingDecimal s = .ok x) :
    GivesFloat s.toList x := by
  unfold leadingDecimal at h
  cases hl : leadingDecimal? s.toList with
  | none =>
    rw [hl] at h
    cases h
    exact .zero hl
  | some ds =>
    simp only [hl] at h
    cases hread : readDecimal? ds with
    | none =>
      rw [hread] at h
      cases h
    | some y =>
      rw [hread] at h
      cases h
      exact .leading hl hread

theorem leadingDecimal_error_iff (s : String) : (∃ e, leadingDecimal s = .error e) ↔
    (leadingDecimal? s.toList).isSome = true ∧ Separated s.toList := by
  unfold leadingDecimal
  cases hl : leadingDecimal? s.toList with
  | none => simp
  | some cs =>
    have hread := isSome_readDecimal?_leading hl
    dsimp only
    cases hx : readDecimal? cs with
    | none =>
      rw [hx] at hread
      simpa using hread
    | some x =>
      rw [hx] at hread
      simpa using hread

/-- A text whose numbers can be read: it begins with no separator and no more digits than an integer
may have. -/
def Readable (s : String) : Prop :=
  ¬ Separated s.toList ∧ (leadingDigits s.toList).length ≤ digitLimit

def BeginsWith (s : String) (c : Char) : Prop :=
  ∃ cs, s.toList = c :: cs

theorem BeginsWith.append {s : String} {c : Char} (h : BeginsWith s c) (t : String) :
    BeginsWith (s ++ t) c := by
  obtain ⟨cs, hcs⟩ := h
  exact ⟨cs ++ t.toList, by rw [String.toList_append, hcs, List.cons_append]⟩

theorem BeginsWith.intercalate {s part : String} {c : Char} (h : BeginsWith part c)
    (parts : List String) : BeginsWith (s.intercalate (part :: parts)) c := by
  cases parts with
  | nil => simpa using h
  | cons p parts =>
    rw [String.intercalate_cons_cons]
    exact (h.append _).append _

theorem readable_of_beginsWith {s : String} {c : Char} (h : BeginsWith s c)
    (hc : opensName c = true) : Readable s := by
  simp only [opensName, Bool.and_eq_true, Bool.not_eq_true', bne_iff_ne] at hc
  obtain ⟨⟨⟨hblank, hdigit⟩, hminus⟩, hplus⟩ := hc
  obtain ⟨cs, hcs⟩ := h
  unfold Readable
  rw [hcs, leadingDigits_cons hblank ⟨hminus, hplus⟩]
  exact ⟨not_separated_cons hblank, by simp [hdigit]⟩

/-- The digits of a day are those of its year. -/
theorem readable_isoChars (d : Calendar.Date) (rest : List Char) :
    Readable (String.ofList (d.isoChars ++ rest)) := by
  have hyear : d.year ≤ 9999 := d.isDate.2.1
  have hlen : (padded 4 d.year).length = 4 := length_padded (by decide) (by omega)
  have hds : ∀ c ∈ padded 4 d.year, isDigit c = true := fun c hc =>
    isDigit_of_plain (isDigit_of_mem_padded hc)
  have hne : padded 4 d.year ≠ [] := by
    intro h
    rw [h] at hlen
    cases hlen
  obtain ⟨after, hafter⟩ : ∃ after, d.isoChars ++ rest = padded 4 d.year ++ '-' :: after :=
    ⟨_, by simp [Calendar.Date.isoChars]; rfl⟩
  obtain ⟨c, body, hcons, _, hsign⟩ := exists_cons_of_digits hds hne
  have hblank : isBlank c = false := not_isBlank_of_isDigit (hds c (by simp [hcons]))
  have hlead : leadingDigits (padded 4 d.year ++ '-' :: after) = padded 4 d.year := by
    have hall : leadingDigits (padded 4 d.year ++ '-' :: after) =
        (padded 4 d.year ++ '-' :: after).takeWhile isDigit := by
      rw [hcons]
      exact leadingDigits_cons hblank hsign
    rw [hall, List.takeWhile_append_of_pos hds]
    simp [show isDigit '-' = false by decide]
  unfold Readable
  rw [String.toList_ofList, hafter, hlead, hlen, hcons]
  exact ⟨not_separated_cons hblank, by decide⟩

theorem Identifier.begins (e : Identifier) : ∃ c, opensName c = true ∧ BeginsWith e.text c := by
  obtain ⟨s, h⟩ := e
  cases hs : s.toList with
  | nil => simp [hs] at h
  | cons c cs => exact ⟨c, by simpa [hs] using h, cs, hs⟩

/-- Days begin with the digits of a year, all others with no blank, digit or sign. -/
theorem display_begins {v : Value} (ht : ∀ s, v ≠ .text s) (hn : ∀ n, v ≠ .int n)
    (hx : ∀ x, v ≠ .float x) : (∃ c, opensName c = true ∧ BeginsWith v.display c) ∨
      ∃ (d : Calendar.Date) (rest : List Char), v.display = String.ofList (d.isoChars ++ rest) := by
  cases v with
  | text s => exact absurd rfl (ht s)
  | int n => exact absurd rfl (hn n)
  | float x => exact absurd rfl (hx x)
  | date d => exact .inr ⟨d, [], congrArg String.ofList (List.append_nil _).symm⟩
  | moment m => exact .inr ⟨m.date, ' ' :: m.clock, rfl⟩
  | null => exact .inl ⟨'N', by decide, _, rfl⟩
  | bool b =>
    cases b with
    | true => exact .inl ⟨'T', by decide, _, rfl⟩
    | false => exact .inl ⟨'F', by decide, _, rfl⟩
  | bytes bs => exact .inl ⟨'b', by decide, _, String.toList_ofList⟩
  | list vs =>
    have h : BeginsWith "[" '[' := ⟨_, rfl⟩
    exact .inl ⟨_, by decide, (h.append _).append _⟩
  | tuple vs =>
    have h : BeginsWith "(" '(' := ⟨_, rfl⟩
    cases vs with
    | nil => exact .inl ⟨_, by decide, (h.append _).append _⟩
    | cons v vs =>
      cases vs with
      | nil => exact .inl ⟨_, by decide, (h.append _).append _⟩
      | cons w vs => exact .inl ⟨_, by decide, (h.append _).append _⟩
  | set vs =>
    have h : BeginsWith "\x7b" '\x7b' := ⟨_, rfl⟩
    cases vs with
    | nil => exact .inl ⟨'s', by decide, _, rfl⟩
    | cons v vs => exact .inl ⟨_, by decide, (h.append _).append _⟩
  | frozen vs =>
    have h : BeginsWith "frozenset(" 'f' := ⟨_, rfl⟩
    cases vs with
    | nil => exact .inl ⟨'f', by decide, _, rfl⟩
    | cons v vs => exact .inl ⟨_, by decide, (h.append _).append _⟩
  | dict es =>
    have h : BeginsWith "\x7b" '\x7b' := ⟨_, rfl⟩
    exact .inl ⟨_, by decide, (h.append _).append _⟩
  | operator o =>
    have h : BeginsWith "OperatorTag." 'O' := ⟨_, rfl⟩
    exact .inl ⟨_, by decide, h.append _⟩
  | type t =>
    have h : BeginsWith "TypeTag." 'T' := ⟨_, rfl⟩
    exact .inl ⟨_, by decide, h.append _⟩
  | member e n v =>
    obtain ⟨c, hc, h⟩ := e.begins
    exact .inl ⟨c, hc, (h.append _).append _⟩
  | entity n =>
    have h : BeginsWith "<class " '<' := ⟨_, rfl⟩
    exact .inl ⟨_, by decide, (h.append _).append _⟩
  | record n =>
    have h : BeginsWith "<" '<' := ⟨_, rfl⟩
    exact .inl ⟨_, by decide, (h.append _).append _⟩
  | spec f v o t =>
    have h : BeginsWith "field" 'f' := ⟨_, rfl⟩
    exact .inl ⟨_, by decide, ((h.append "=").append _).intercalate _⟩
  | field n t o =>
    have h : BeginsWith "name" 'n' := ⟨_, rfl⟩
    exact .inl ⟨_, by decide, ((h.append "=").append _).intercalate _⟩
  | relation n fs d r =>
    have h : BeginsWith "name" 'n' := ⟨_, rfl⟩
    exact .inl ⟨_, by decide, ((h.append "=").append _).intercalate _⟩

theorem readable_display {v : Value} (ht : ∀ s, v ≠ .text s) (hn : ∀ n, v ≠ .int n)
    (hx : ∀ x, v ≠ .float x) : Readable v.display := by
  rcases display_begins ht hn hx with ⟨c, hc, h⟩ | ⟨d, rest, h⟩
  · exact readable_of_beginsWith h hc
  · rw [h]
    exact readable_isoChars d rest

/-- Single values that no integer is read from. -/
inductive Uncounted : Value → Prop
  | unwritten {v : Value} (hw : v.isWritable = false) (hn : ∀ n, v ≠ .int n) : Uncounted v
  | spoilt {s : String} (hne : leadingDigits s.toList ≠ [])
    (h : Separated s.toList ∨ digitLimit < (leadingDigits s.toList).length) : Uncounted (.text s)

/-- Single values that no float is read from. -/
inductive Unmeasured : Value → Prop
  | large {n : Int} (h : 2 ^ 1024 ≤ n.natAbs + 2 ^ 970) : Unmeasured (.int n)
  | unwritten {v : Value} (hw : v.isWritable = false) (hn : ∀ n, v ≠ .int n) : Unmeasured v
  | spoilt {s : String} (hl : (leadingDecimal? s.toList).isSome = true)
    (h : Separated s.toList) : Unmeasured (.text s)

/-- The values of a type that cannot be coerced to it. -/
inductive Uncoercible (operator : Option Operator) (delimiter : Value) : FieldType → Value → Prop
  | pattern {v : Value} (ho : operator = some .like) (hs : v.isSequence = false)
    (hw : v.isWritable = false) : Uncoercible operator delimiter .string v
  | array {v : Value} {s : String} (hv : v.asText? = some s) (hne : s ≠ "")
    (hd : delimiter.isTrue = true) (ht : delimiter.asText? = none) :
    Uncoercible operator delimiter .array v
  | integer {v w : Value} (hm : w ∈ v.asList) (h : Uncounted w) :
    Uncoercible operator delimiter .integer v
  | float {v w : Value} (hm : w ∈ v.asList) (h : Unmeasured w) :
    Uncoercible operator delimiter .float v

/-- Of the values that are read from their written form only texts can be spoilt. -/
theorem written_error_iff {α : Type} {f : String → Except Fault α} {Spoilt : String → Prop}
    (hf : ∀ s, (∃ e, f s = .error e) ↔ Spoilt s) (hr : ∀ s, Readable s → ¬ Spoilt s) {v : Value}
    (hn : ∀ n, v ≠ .int n) (hx : ∀ x, v ≠ .float x) : (∃ e, v.written >>= f = .error e) ↔
      v.isWritable = false ∨ ∃ s, v = .text s ∧ Spoilt s := by
  unfold Value.written
  cases hw : v.isWritable with
  | false => simp [bind, Except.bind]
  | true =>
    simp only [if_true, bind, Except.bind, hf, Bool.true_eq_false, false_or]
    constructor
    · intro h
      by_contra hno
      have ht : ∀ s, v ≠ .text s := by
        rintro s rfl
        exact hno ⟨s, rfl, h⟩
      exact hr _ (readable_display ht hn hx) h
    · rintro ⟨s, rfl, h⟩
      exact h

theorem toInteger_error_iff (v : Value) : (∃ e, toInteger v = .error e) ↔ Uncounted v := by
  by_cases hplain : (∃ b, v = .bool b) ∨ (∃ n, v = .int n) ∨ ∃ x, v = .float x
  · have hok : ∃ n, toInteger v = .ok n := by
      rcases hplain with ⟨b, rfl⟩ | ⟨n, rfl⟩ | ⟨x, rfl⟩ <;> exact ⟨_, rfl⟩
    obtain ⟨n, hok⟩ := hok
    rw [hok]
    constructor
    · rintro ⟨e, he⟩
      cases he
    · intro h
      cases h with
      | unwritten hw hn =>
        rcases hplain with ⟨b, rfl⟩ | ⟨n, rfl⟩ | ⟨x, rfl⟩
        · cases hw
        · exact absurd rfl (hn n)
        · cases hw
      | spoilt => simp at hplain
  · simp only [not_or, not_exists] at hplain
    obtain ⟨hb, hn, hx⟩ := hplain
    have hread : toInteger v = v.written >>= integerIn := by
      cases v with
      | bool b => exact absurd rfl (hb b)
      | int n => exact absurd rfl (hn n)
      | float x => exact absurd rfl (hx x)
      | _ => rfl
    rw [hread, written_error_iff integerIn_error_iff ?_ hn hx]
    · constructor
      · rintro (hw | ⟨s, rfl, hne, h⟩)
        · exact .unwritten hw hn
        · exact .spoilt hne h
      · intro h
        cases h with
        | unwritten hw _ => exact Or.inl hw
        | spoilt hne h => exact Or.inr ⟨_, rfl, hne, h⟩
    · rintro s ⟨hsep, hlen⟩ ⟨_, h | h⟩
      · exact hsep h
      · omega

theorem toFloat_error_iff (v : Value) : (∃ e, toFloat v = .error e) ↔ Unmeasured v := by
  by_cases hint : ∃ n, v = .int n
  · obtain ⟨n, rfl⟩ := hint
    have hlarge := Binary64.ofInt?_eq_none_iff n
    cases hx : Binary64.ofInt? n with
    | none =>
      simp only [toFloat, hx]
      exact ⟨fun _ => .large (hlarge.mp hx), fun _ => ⟨_, rfl⟩⟩
    | some x =>
      simp only [toFloat, hx]
      constructor
      · rintro ⟨e, he⟩
        cases he
      · intro h
        cases h with
        | large h =>
          rw [hlarge.mpr h] at hx
          cases hx
        | unwritten _ hn => exact absurd rfl (hn n)
  · have hn : ∀ n, v ≠ .int n := not_exists.mp hint
    by_cases hplain : (∃ b, v = .bool b) ∨ ∃ x, v = .float x
    · have hok : ∃ x, toFloat v = .ok x := by
        rcases hplain with ⟨b, rfl⟩ | ⟨x, rfl⟩ <;> exact ⟨_, rfl⟩
      obtain ⟨x, hok⟩ := hok
      rw [hok]
      constructor
      · rintro ⟨e, he⟩
        cases he
      · intro h
        cases h with
        | large => exact absurd rfl (hn _)
        | unwritten hw _ => rcases hplain with ⟨b, rfl⟩ | ⟨x, rfl⟩ <;> cases hw
        | spoilt => simp at hplain
    · simp only [not_or, not_exists] at hplain
      obtain ⟨hb, hx⟩ := hplain
      have hread : toFloat v = v.written >>= leadingDecimal := by
        cases v with
        | bool b => exact absurd rfl (hb b)
        | int n => exact absurd rfl (hn n)
        | float x => exact absurd rfl (hx x)
        | _ => rfl
      rw [hread, written_error_iff leadingDecimal_error_iff ?_ hn hx]
      · constructor
        · rintro (hw | ⟨s, rfl, hl, h⟩)
          · exact .unwritten hw hn
          · exact .spoilt hl h
        · intro h
          cases h with
          | large => exact absurd rfl (hn _)
          | unwritten hw _ => exact Or.inl hw
          | spoilt hl h => exact Or.inr ⟨_, rfl, hl, h⟩
      · rintro s ⟨hsep, _⟩ ⟨_, h⟩
        exact hsep h

theorem coerceEach_error_iff {α : Type} {f : Value → Except Fault α} {g : α → Value} {v : Value} :
    (∃ e, coerceEach (fun v => (f v).map g) v = .error e) ↔
      ∃ w ∈ v.asList, ∃ e, f w = .error e := by
  unfold coerceEach Value.asList
  cases v.members? with
  | none => simp [Outcome.map_eq_error]
  | some vs => simp [Outcome.map_eq_error, Outcome.mapM_eq_error]

theorem splitText_error_iff (delimiter : Value) (s : String) :
    (∃ e, splitText delimiter s = .error e) ↔
      s ≠ "" ∧ delimiter.isTrue = true ∧ delimiter.asText? = none := by
  unfold splitText
  by_cases hs : s = ""
  · simp [hs]
  · cases hd : delimiter.isTrue with
    | false => simp [hs]
    | true => cases ht : delimiter.asText? <;> simp [hs]

theorem toArray_error_iff (delimiter v : Value) : (∃ e, toArray delimiter v = .error e) ↔
    ∃ s, v.asText? = some s ∧ s ≠ "" ∧ delimiter.isTrue = true ∧ delimiter.asText? = none := by
  unfold toArray
  cases hm : v.members? with
  | some vs =>
    have ht : v.asText? = none := by
      cases v <;> first | rfl | cases hm
    simp [ht]
  | none =>
    cases ht : v.asText? with
    | none => simp
    | some s => simp [Outcome.map_eq_error, splitText_error_iff]

theorem toPattern_error_iff (v : Value) :
    (∃ e, toPattern v = .error e) ↔ v.isWritable = false := by
  unfold toPattern Value.written
  cases v.isWritable <;> simp [Except.map]

theorem coerce_error_iff (type : Option FieldType) (operator : Option Operator)
    (delimiter v : Value) : (∃ e, coerce type operator delimiter v = .error e) ↔
      ∃ t, type = some t ∧ Uncoercible operator delimiter t v := by
  cases type with
  | none =>
    constructor
    · rintro ⟨e, he⟩
      cases he
    · rintro ⟨t, ht, _⟩
      cases ht
  | some t =>
    simp only [Option.some.injEq, exists_eq_left']
    cases t with
    | string =>
      unfold coerce
      by_cases hc : operator = some .like ∧ ¬ v.isSequence = true
      · rw [if_pos hc, toPattern_error_iff]
        constructor
        · intro hw
          exact .pattern hc.1 (by simpa using hc.2) hw
        · intro h
          cases h with
          | pattern _ _ hw => exact hw
      · rw [if_neg hc]
        constructor
        · rintro ⟨e, he⟩
          cases he
        · intro h
          cases h with
          | pattern ho hs _ => exact absurd ⟨ho, by simp [hs]⟩ hc
    | array =>
      simp only [coerce, Outcome.map_eq_error, toArray_error_iff]
      constructor
      · rintro ⟨s, hv, hne, hd, ht⟩
        exact .array hv hne hd ht
      · intro h
        cases h with
        | array hv hne hd ht => exact ⟨_, hv, hne, hd, ht⟩
    | integer =>
      simp only [coerce, coerceEach_error_iff, toInteger_error_iff]
      constructor
      · rintro ⟨w, hm, h⟩
        exact .integer hm h
      · intro h
        cases h with
        | integer hm h => exact ⟨_, hm, h⟩
    | float =>
      simp only [coerce, coerceEach_error_iff, toFloat_error_iff]
      constructor
      · rintro ⟨w, hm, h⟩
        exact .float hm h
      · intro h
        cases h with
        | float hm h => exact ⟨_, hm, h⟩
    | boolean =>
      constructor
      · intro h
        obtain ⟨w, _, e, he⟩ :=
          (coerceEach_error_iff (f := fun w => .ok (toBoolean w)) (g := Value.bool)).mp h
        cases he
      · intro h
        cases h
    | date =>
      constructor
      · rintro ⟨e, he⟩
        cases he
      · intro h
        cases h

/-- Coercion fails on the uncoercible values of a type and on no others. A text that is coerced to a
number gives the number that it writes or begins with, or zero. -/
theorem coerce_fails_or_degrades (type : Option FieldType) (operator : Option Operator)
    (delimiter v : Value) :
    ((∃ e, coerce type operator delimiter v = .error e) ↔
      ∃ t, type = some t ∧ Uncoercible operator delimiter t v) ∧
    ∀ s w, v = .text s → coerce type operator delimiter v = .ok w →
      (type = some .integer → ∃ n, w = .int n ∧ GivesInteger s.toList n) ∧
      (type = some .float → ∃ x, w = .float x ∧ GivesFloat s.toList x) := by
  refine ⟨coerce_error_iff type operator delimiter v, ?_⟩
  rintro s w rfl hw
  constructor
  · rintro rfl
    obtain ⟨n, hn, rfl⟩ := Outcome.map_eq_ok.mp hw
    exact ⟨n, rfl, givesInteger_of_ok hn⟩
  · rintro rfl
    obtain ⟨x, hx, rfl⟩ := Outcome.map_eq_ok.mp hw
    exact ⟨x, rfl, givesFloat_of_ok hx⟩

/-- A separator in front of a digit is blank enough to be passed over, and no blank of a numeral. -/
theorem separated_five_uncoerced :
    coerce (some .integer) none (.text ",") (.text "\x1c5") =
      .error (.integerText (.text "\x1c5")) := by
  rfl

end QueryFilter
