import Mathlib.Data.List.Basic
import Mathlib.Data.Nat.Digits.Defs
import QueryFilter.Coercion
import QueryFilter.Proofs.LeadingNumeral

/-! Integers in texts. The text as a whole and its beginning are read by different grammars, and
both come to the numeral in front of the text, whatever follows it. -/

namespace QueryFilter

namespace Numeral

open Text

variable {cs ds blanks sign rest left : List Char} {c : Char} {n : Int}

/-- Whether a text begins with an integer: a digit behind blanks of some class and a sign. -/
def BeginsInteger (p : Char → Bool) (cs : List Char) : Prop :=
  ∃ blanks sign c rest, cs = blanks ++ (sign ++ c :: rest) ∧
    (∀ b ∈ blanks, p b = true) ∧ IsSign sign ∧ isDigit c = true

theorem not_beginsInteger_cons {p : Char → Bool} (hp : p c = false) (hdigit : isDigit c = false)
    (hsign : c ≠ '-' ∧ c ≠ '+') (cs : List Char) : ¬ BeginsInteger p (c :: cs) := by
  rintro ⟨blanks, sign, d, rest, hcs, hb, hs, hd⟩
  cases blanks with
  | cons b blanks =>
    obtain ⟨rfl, _⟩ := List.cons.inj hcs
    rw [hb c List.mem_cons_self] at hp
    cases hp
  | nil =>
    rw [List.nil_append] at hcs
    rcases hs with rfl | rfl | rfl
    · obtain ⟨rfl, _⟩ := List.cons.inj hcs
      rw [hd] at hdigit
      cases hdigit
    · exact hsign.1 (List.cons.inj hcs).1
    · exact hsign.2 (List.cons.inj hcs).1

/-- Neither a digit nor an underscore in front, so that a numeral ends before it. -/
def EndsNumeral (rest : List Char) : Prop :=
  ∀ c ∈ rest.head?, isDigit c = false ∧ c ≠ '_'

theorem EndsNumeral.of_isPrefix (h : EndsNumeral rest) (hp : left <+: rest) :
    EndsNumeral left := by
  obtain ⟨tail, rfl⟩ := hp
  cases left with
  | nil => exact fun c hc => nomatch hc
  | cons c left => exact h

theorem grouped_endsNumeral (h : EndsNumeral rest) : grouped true rest = some ([], rest) := by
  cases rest with
  | nil => rfl
  | cons c rest =>
    obtain ⟨hdigit, hmark⟩ := h c rfl
    simp [grouped, digitValue?_eq_none hdigit, hmark]

theorem digitValue?_plain (h : c.isDigit = true) : digitValue? c = some (c.toNat - '0'.toNat) := by
  simp only [Char.isDigit, Bool.and_eq_true, decide_eq_true_eq] at h
  have hhigh : c.toNat ≤ 57 := h.2
  have hplain : '0' ≤ c ∧ c ≤ '9' := h
  rw [digitValue?, if_pos (by omega), if_pos hplain]
  rfl

/-- The number that plain digits write. -/
theorem digitsValue_plain (h : ∀ c ∈ ds, c.isDigit = true) :
    digitsValue (ds.filterMap digitValue?) = Nat.ofDigitChars 10 ds 0 := by
  have hmap : ds.filterMap digitValue? = ds.map fun c => c.toNat - '0'.toNat := by
    rw [← List.filterMap_eq_map]
    exact List.filterMap_congr fun c hc => digitValue?_plain (h c hc)
  rw [digitsValue, hmap, List.foldl_map]
  rfl

/-- A numeral with something behind it is an integer as a whole only if nothing of that is left
once the blanks at the end are gone. -/
theorem readInteger_append (hb : ∀ b ∈ blanks, isNumeralBlank b = true) (hs : IsSign sign)
    (hds : ∀ c ∈ ds, isDigit c = true) (hne : ds ≠ []) (hlen : ds.length ≤ digitLimit)
    (hrest : EndsNumeral rest) :
    readInteger (blanks ++ (sign ++ ds ++ rest)) =
        .ok (signed (decide (sign = ['-'])) (digitsValue (ds.filterMap digitValue?))) ∨
      ∃ e, readInteger (blanks ++ (sign ++ ds ++ rest)) = .error e := by
  obtain ⟨c, body, rfl, hbody, hc⟩ := exists_cons_of_digits hds hne
  obtain ⟨left, htake, hleft⟩ := takeSign_trim rest hb hs hbody hc
  have hg := grouped_append hds hne false left
  rw [grouped_endsNumeral (hrest.of_isPrefix hleft), Option.map_some, List.append_nil] at hg
  have hread := readInteger_of_grouped htake hg
  rw [length_filterMap_digitValue? hds, if_neg (by omega)] at hread
  rw [hread]
  cases left with
  | nil => exact Or.inl rfl
  | cons c left => exact Or.inr ⟨_, rfl⟩

/-- A numeral is all that a text begins with, where no digit follows. -/
theorem leadingInteger?_append (hb : ∀ b ∈ blanks, isBlank b = true) (hs : IsSign sign)
    (hds : ∀ c ∈ ds, isDigit c = true) (hne : ds ≠ []) (hrest : EndsNumeral rest) :
    leadingInteger? (blanks ++ (sign ++ ds ++ rest)) = some (blanks ++ (sign ++ ds)) := by
  obtain ⟨htake, _⟩ := span_digits_append hds fun c hc => (hrest c hc).1
  obtain ⟨c, body, rfl, _, hc⟩ := exists_cons_of_digits hds hne
  have hblank : isBlank c = false := not_isBlank_of_isDigit (hds c List.mem_cons_self)
  have hopening := spanOpening_sign hb hs ⟨hblank, hc⟩ (body ++ rest)
  rw [List.append_assoc, List.cons_append]
  rw [List.cons_append] at htake
  refine leadingInteger?_eq_some.mpr ⟨?_, ?_⟩
  · rw [leadingDigits, hopening, htake]
    exact List.cons_ne_nil c body
  · rw [leadingDigits, hopening, htake, List.append_assoc]

theorem beginsInteger_iff : BeginsInteger isBlank cs ↔ leadingDigits cs ≠ [] := by
  constructor
  · rintro ⟨blanks, sign, c, rest, rfl, hb, hs, hc⟩
    have hopening := spanOpening_sign hb hs ⟨not_isBlank_of_isDigit hc, isDigit_sign hc⟩ rest
    rw [leadingDigits, hopening, List.takeWhile_cons_of_pos hc]
    exact List.cons_ne_nil _ _
  · intro h
    obtain ⟨sign, after, hs, _, hcs⟩ := eq_append_leadingDigits cs
    obtain ⟨c, body, hcons⟩ := List.exists_cons_of_ne_nil h
    rw [hcons, List.append_assoc, List.cons_append] at hcs
    exact ⟨_, sign, c, body ++ after, hcs, fun _ hb => List.mem_takeWhile_imp hb, hs,
      isDigit_of_mem_leadingDigits cs c (hcons ▸ List.mem_cons_self)⟩

theorem isDigit_of_grouped {body : List Char} {r : List Nat × List Char}
    (h : grouped false body = some r) : ∃ c after, body = c :: after ∧ isDigit c = true := by
  cases body with
  | nil => cases h
  | cons c after =>
    refine ⟨c, after, rfl, ?_⟩
    cases hd : digitValue? c with
    | some d => rw [isDigit, hd, Option.isSome_some]
    | none => simp [grouped, hd] at h

/-- What is an integer as a whole begins with one. -/
theorem beginsInteger_of_readInteger (h : readInteger cs = .ok n) :
    BeginsInteger isBlank cs := by
  obtain ⟨blanks, after, hcs, hb, _⟩ := trim_eq isNumeralBlank cs
  obtain ⟨sign, hs, htrim⟩ := takeSign_eq (trim isNumeralBlank cs)
  cases hg : grouped false (takeSign (trim isNumeralBlank cs)).2 with
  | none =>
    rw [readInteger_of_spoilt rfl hg] at h
    cases h
  | some r =>
    obtain ⟨c, tail, hbody, hc⟩ := isDigit_of_grouped hg
    rw [hbody] at htrim
    rw [htrim, List.append_assoc, List.cons_append] at hcs
    exact ⟨blanks, sign, c, tail ++ after, hcs, fun b hm => isBlank_of_isNumeralBlank (hb b hm), hs,
      hc⟩

end Numeral

open Text Numeral

theorem toInteger_text (s : String) : toInteger (.text s) = integerIn s := rfl

theorem integerIn_numeral {blanks sign ds rest : List Char} {s : String}
    (hs : s.toList = blanks ++ (sign ++ ds ++ rest))
    (hb : ∀ b ∈ blanks, isNumeralBlank b = true) (hsign : IsSign sign)
    (hds : ∀ c ∈ ds, c.isDigit = true) (hne : ds ≠ []) (hlen : ds.length ≤ digitLimit)
    (hrest : EndsNumeral rest) :
    integerIn s = .ok (if sign = ['-'] then -(Nat.ofDigitChars 10 ds 0 : Int)
      else Nat.ofDigitChars 10 ds 0) := by
  have hdigit : ∀ c ∈ ds, isDigit c = true := fun c hc => isDigit_of_plain (hds c hc)
  have hvalue : signed (decide (sign = ['-'])) (digitsValue (ds.filterMap digitValue?)) =
      if sign = ['-'] then -(Nat.ofDigitChars 10 ds 0 : Int) else Nat.ofDigitChars 10 ds 0 := by
    simp only [signed, digitsValue_plain hds, decide_eq_true_eq]
  rw [← hvalue, integerIn, hs]
  rcases readInteger_append hb hsign hdigit hne hlen hrest with h | ⟨e, h⟩
  · rw [h]
  · have hlead := leadingInteger?_append (fun b hm => isBlank_of_isNumeralBlank (hb b hm)) hsign
      hdigit hne hrest
    have hread := readInteger_numeral hb hsign hdigit hne
    rw [if_neg (by omega)] at hread
    simp only [h, leadingInteger, hs, hlead, integerOfText, String.toList_ofList, hread]
    rfl

theorem integerIn_of_not_beginsInteger {s : String} (h : ¬ BeginsInteger isBlank s.toList) :
    integerIn s = .ok 0 := by
  cases hread : readInteger s.toList with
  | ok n => exact absurd (beginsInteger_of_readInteger hread) h
  | error e =>
    have hlead : leadingInteger? s.toList = none := by
      cases hl : leadingInteger? s.toList with
      | none => rfl
      | some ds =>
        exact absurd (beginsInteger_iff.mpr (leadingInteger?_eq_some.mp hl).1) h
    simp only [integerIn, hread, leadingInteger, hlead]

/-- An integer is written as its digits behind its sign. -/
theorem toList_display_int (n : Int) : ∃ sign, IsSign sign ∧
    (Value.int n).display.toList = sign ++ Nat.toDigits 10 n.natAbs ∧
    (if sign = ['-'] then -(n.natAbs : Int) else n.natAbs) = n := by
  have hdisplay : (Value.int n).display = n.repr := rfl
  rw [hdisplay, Int.repr_eq_if]
  by_cases hn : 0 ≤ n
  · refine ⟨[], Or.inl rfl, ?_, ?_⟩
    · rw [if_pos hn, Nat.toList_repr, List.nil_append, show n.toNat = n.natAbs by omega]
    · rw [if_neg (by simp)]
      omega
  · refine ⟨['-'], Or.inr (Or.inl rfl), ?_, ?_⟩
    · rw [if_neg hn, String.toList_append, Nat.toList_repr, show (-n).toNat = n.natAbs by omega]
      rfl
    · rw [if_pos rfl]
      omega

theorem integerIn_display {n : Int} (h : (Nat.toDigits 10 n.natAbs).length ≤ digitLimit) :
    integerIn (Value.int n).display = .ok n := by
  obtain ⟨sign, hs, hlist, hvalue⟩ := toList_display_int n
  have htext : (Value.int n).display.toList =
      [] ++ (sign ++ Nat.toDigits 10 n.natAbs ++ []) := by
    rw [hlist, List.nil_append, List.append_nil]
  have hread := integerIn_numeral htext (List.forall_mem_nil _) hs
    (fun c hc => Nat.isDigit_of_mem_toDigits (by decide) (by decide) hc) Nat.toDigits_ne_nil h
    (fun c hc => nomatch hc)
  rwa [Nat.ofDigitChars_ten_toDigits, hvalue] at hread

/-- What a text gives as an integer. The numeral in front of it counts, whatever stands behind its
last digit. A text without one gives zero, and an integer that is written and read again is the
same. Blanks are those of the whole character set. Only of a numeral behind one of the separators
nothing is said: it is found there, but it is not read. -/
theorem toInteger_numeral (s : String) :
    (∀ blanks sign digits rest, s.toList = blanks ++ (sign ++ digits ++ rest) →
      (∀ b ∈ blanks, isNumeralBlank b = true) → IsSign sign → (∀ c ∈ digits, c.isDigit = true) →
      digits ≠ [] → digits.length ≤ digitLimit → EndsNumeral rest →
      toInteger (.text s) = .ok (if sign = ['-'] then -(Nat.ofDigitChars 10 digits 0 : Int)
        else Nat.ofDigitChars 10 digits 0)) ∧
    (¬ BeginsInteger isBlank s.toList → toInteger (.text s) = .ok 0) ∧
    ∀ n : Int, s = (Value.int n).display → (Nat.toDigits 10 n.natAbs).length ≤ digitLimit →
      toInteger (.text s) = .ok n := by
  rw [toInteger_text]
  refine ⟨fun blanks sign digits rest hs hb hsign hds hne hlen hrest => ?_, ?_, ?_⟩
  · exact integerIn_numeral hs hb hsign hds hne hlen hrest
  · exact integerIn_of_not_beginsInteger
  · rintro n rfl hlen
    exact integerIn_display hlen

/-- Blanks of six kinds in front and a superscript behind; a blank behind the sign; a written
integer. -/
theorem toInteger_texts : toInteger (.text " \t\n\x0b\x0c\r-0042²7") = .ok (-42) ∧
    toInteger (.text "+ 5") = .ok 0 ∧ toInteger (.text "-120") = .ok (-120) := by
  refine ⟨?_, ?_, ?_⟩
  · have hh := (toInteger_numeral " \t\n\x0b\x0c\r-0042²7").1
      [' ', '\t', '\n', '\x0b', '\x0c', '\r'] ['-'] ['0', '0', '4', '2'] ['²', '7'] rfl
      (List.all_eq_true.mp rfl) (Or.inr (Or.inl rfl)) (List.all_eq_true.mp rfl) (by simp)
      (by decide)
    exact hh fun c hc => by
      cases hc
      decide
  · refine (toInteger_numeral "+ 5").2.1 fun h => ?_
    exact beginsInteger_iff.mp h rfl
  · exact (toInteger_numeral "-120").2.2 (-120) rfl (by decide)

/-- The blanks of a plain text. -/
def plainBlanks : List Char :=
  [' ', '\t', '\n', '\x0b', '\x0c', '\r']

/-- Behind other blanks than the plain ones a numeral counts as well: a text in front of which a
no-break space stands does not give zero. -/
theorem toInteger_noBreakSpace : ¬ ∀ s : String,
    ¬ BeginsInteger plainBlanks.contains s.toList → toInteger (.text s) = .ok 0 := by
  intro h
  have hplain : ¬ BeginsInteger plainBlanks.contains "\xa05".toList :=
    not_beginsInteger_cons (by decide) (by decide) (by decide) ['5']
  have hfive : toInteger (.text "\xa05") = .ok 5 := rfl
  have hzero := h "\xa05" hplain
  rw [hfive] at hzero
  cases hzero

end QueryFilter
