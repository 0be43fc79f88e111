import Mathlib.Data.List.TakeWhile
import QueryFilter.Numeral.Integer

/-! The integer that a text begins with, read on its own. It can be read unless a separator stands
among the blanks in front of it, or it has more digits than an integer may have. -/

namespace QueryFilter

namespace Text

variable {c : Char} {p : Char → Bool} {blanks core : List Char}

theorem not_isBlank_digits : ∀ z ∈ zeroDigits, ∀ k < 10, isBlank (Char.ofNat (z + k)) = false := by
  decide

theorem not_isBlank_of_isDigit (h : isDigit c = true) : isBlank c = false := by
  unfold isDigit digitValue? at h
  split at h
  · rename_i hsmall
    split at h
    · rename_i hc
      have hlow : 48 ≤ c.toNat := hc.1
      have hhigh : c.toNat ≤ 57 := hc.2
      simp only [isBlank, Bool.or_eq_false_iff, Bool.and_eq_false_iff, decide_eq_false_iff_not,
        beq_eq_false_iff_ne]
      omega
    · cases h
  · rw [Option.isSome_map, List.find?_isSome] at h
    obtain ⟨z, hz, hrow⟩ := h
    rw [Bool.and_eq_true, decide_eq_true_eq, decide_eq_true_eq] at hrow
    have hh := not_isBlank_digits z hz (c.toNat - z) (by omega)
    rwa [show z + (c.toNat - z) = c.toNat by omega, Char.ofNat_toNat] at hh

theorem not_isDigit_of_isBlank (h : isBlank c = true) : isDigit c = false := by
  cases hd : isDigit c with
  | false => rfl
  | true =>
    rw [not_isBlank_of_isDigit hd] at h
    cases h

theorem digitValue?_eq_none (h : isDigit c = false) : digitValue? c = none :=
  Option.not_isSome_iff_eq_none.mp (by simpa [isDigit] using h)

theorem isDigit_of_plain (h : c.isDigit = true) : isDigit c = true := by
  simp only [Char.isDigit, Bool.and_eq_true, decide_eq_true_eq] at h
  have hlow : 48 ≤ c.toNat := h.1
  have hhigh : c.toNat ≤ 57 := h.2
  have hplain : '0' ≤ c ∧ c ≤ '9' := h
  simp [isDigit, digitValue?, hplain, show c.toNat < 128 by omega]

theorem not_isNumeralBlank (h : isBlank c = false) : isNumeralBlank c = false := by
  simp [isNumeralBlank, h]

theorem toLower_of_isBlank (h : isBlank c = true) : c.toLower = c := by
  unfold Char.toLower
  split
  · rename_i hc
    have hlow : 65 ≤ c.toNat := hc.1
    have hhigh : c.toNat ≤ 90 := hc.2
    simp only [isBlank, Bool.or_eq_true, Bool.and_eq_true, decide_eq_true_eq, beq_iff_eq] at h
    omega
  · rfl

theorem dropWhile_eq_self {cs : List Char} (h : ∀ c ∈ cs, p c = false) : cs.dropWhile p = cs := by
  cases cs with
  | nil => rfl
  | cons c cs => simp [h c List.mem_cons_self]

/-- Trimming passes over the blanks in front and leaves what stands before those at the end. -/
theorem trim_append (after : List Char) (hb : ∀ c ∈ blanks, p c = true)
    (hc : ∀ c ∈ core, p c = false) (hne : core ≠ []) :
    ∃ left, trim p (blanks ++ (core ++ after)) = core ++ left ∧ left <+: after := by
  have hleft := (List.dropWhile_suffix (l := after.reverse) p).reverse
  rw [List.reverse_reverse] at hleft
  refine ⟨(after.reverse.dropWhile p).reverse, ?_, hleft⟩
  have hfront : (core ++ after).dropWhile p = core ++ after := by
    cases core with
    | nil => exact absurd rfl hne
    | cons c cs => simp [hc c List.mem_cons_self]
  have hback : core.reverse.dropWhile p = core.reverse :=
    dropWhile_eq_self fun c h => hc c (List.mem_reverse.mp h)
  unfold trim
  rw [List.dropWhile_append_of_pos hb, hfront, List.reverse_append, List.dropWhile_append]
  by_cases he : (after.reverse.dropWhile p).isEmpty = true
  · rw [if_pos he, hback, List.reverse_reverse, List.isEmpty_iff.mp he]
    simp
  · rw [if_neg he]
    simp

theorem trim_eq (p : Char → Bool) (cs : List Char) : ∃ blanks after,
    cs = blanks ++ (trim p cs ++ after) ∧ (∀ b ∈ blanks, p b = true) ∧
      ∀ b ∈ after, p b = true := by
  refine ⟨cs.takeWhile p, ((cs.dropWhile p).reverse.takeWhile p).reverse, ?_,
    fun _ hb => List.mem_takeWhile_imp hb,
    fun _ hb => List.mem_takeWhile_imp (List.mem_reverse.mp hb)⟩
  rw [trim, ← List.reverse_append, List.takeWhile_append_dropWhile, List.reverse_reverse,
    List.takeWhile_append_dropWhile]

/-- Whether an information separator stands among the blanks in front of a text. -/
def Separated (cs : List Char) : Prop :=
  ∃ c ∈ cs.takeWhile isBlank, isNumeralBlank c = false

theorem not_separated_cons {cs : List Char} (h : isBlank c = false) : ¬ Separated (c :: cs) := by
  simp [Separated, h]

theorem exists_separator (hb : ∀ c ∈ blanks, isBlank c = true)
    (h : ∃ c ∈ blanks, isNumeralBlank c = false) :
    ∃ pre c tail, blanks = pre ++ c :: tail ∧ (∀ b ∈ pre, isNumeralBlank b = true) ∧
      isBlank c = true ∧ isNumeralBlank c = false := by
  induction blanks with
  | nil =>
    obtain ⟨c, hm, _⟩ := h
    cases hm
  | cons b blanks ih =>
    cases hn : isNumeralBlank b with
    | false => exact ⟨[], b, blanks, rfl, by simp, hb b List.mem_cons_self, hn⟩
    | true =>
      have hrest : ∃ c ∈ blanks, isNumeralBlank c = false := by
        obtain ⟨c, hm, hc⟩ := h
        rcases List.mem_cons.mp hm with rfl | hm
        · rw [hn] at hc
          cases hc
        · exact ⟨c, hm, hc⟩
      obtain ⟨pre, c, tail, rfl, hpre, hc⟩ :=
        ih (fun c hm => hb c (List.mem_cons_of_mem _ hm)) hrest
      exact ⟨b :: pre, c, tail, rfl, List.forall_mem_cons.mpr ⟨hn, hpre⟩, hc⟩

end Text

namespace Numeral

open Text

variable {cs ds blanks sign after : List Char} {c : Char}

def IsSign (sign : List Char) : Prop :=
  sign = [] ∨ sign = ['-'] ∨ sign = ['+']

/-- The digits that a text begins with behind blanks and a sign. -/
def leadingDigits (cs : List Char) : List Char :=
  (spanOpening cs).2.takeWhile isDigit

theorem isSign_spanSign (cs : List Char) : IsSign (spanSign cs).1 := by
  cases cs with
  | nil => exact Or.inl rfl
  | cons c cs =>
    by_cases hc : c = '-' ∨ c = '+'
    · rcases hc with rfl | rfl <;> simp [IsSign, spanSign]
    · simp [IsSign, spanSign, hc]

theorem spanSign_sign (hs : IsSign sign) (hc : c ≠ '-' ∧ c ≠ '+') (cs : List Char) :
    spanSign (sign ++ c :: cs) = (sign, c :: cs) := by
  rcases hs with rfl | rfl | rfl
  · simp [spanSign, hc]
  · rfl
  · rfl

theorem spanOpening_eq (cs : List Char) : ∃ sign, IsSign sign ∧
    (spanOpening cs).1 = cs.takeWhile isBlank ++ sign ∧
    cs.dropWhile isBlank = sign ++ (spanOpening cs).2 :=
  ⟨_, isSign_spanSign (cs.dropWhile isBlank), rfl, (spanSign_append (cs.dropWhile isBlank)).symm⟩

theorem spanOpening_sign (hb : ∀ b ∈ blanks, isBlank b = true) (hs : IsSign sign)
    (hc : isBlank c = false ∧ c ≠ '-' ∧ c ≠ '+') (cs : List Char) :
    spanOpening (blanks ++ (sign ++ c :: cs)) = (blanks ++ sign, c :: cs) := by
  have hfront : (sign ++ c :: cs).takeWhile isBlank = [] ∧
      (sign ++ c :: cs).dropWhile isBlank = sign ++ c :: cs := by
    rcases hs with rfl | rfl | rfl
    · simp [hc.1]
    · exact ⟨rfl, rfl⟩
    · exact ⟨rfl, rfl⟩
  rw [spanOpening, List.dropWhile_append_of_pos hb, List.takeWhile_append_of_pos hb, hfront.1,
    hfront.2, spanSign_sign hs hc.2, List.append_nil]

theorem IsSign.not_isNumeralBlank (h : IsSign sign) : ∀ c ∈ sign, isNumeralBlank c = false := by
  intro c hc
  rcases h with rfl | rfl | rfl
  · cases hc
  · rw [List.mem_singleton.mp hc]
    decide
  · rw [List.mem_singleton.mp hc]
    decide

theorem takeSign_append (h : IsSign sign) (hc : c ≠ '-' ∧ c ≠ '+') :
    takeSign (sign ++ c :: cs) = (decide (sign = ['-']), c :: cs) := by
  rcases h with rfl | rfl | rfl
  · simp [takeSign, hc]
  · rfl
  · rfl

theorem takeSign_eq (cs : List Char) : ∃ sign, IsSign sign ∧ cs = sign ++ (takeSign cs).2 := by
  unfold takeSign
  split
  · exact ⟨['-'], by simp [IsSign], rfl⟩
  · exact ⟨['+'], by simp [IsSign], rfl⟩
  · exact ⟨[], by simp [IsSign], rfl⟩

theorem isDigit_sign (h : isDigit c = true) : c ≠ '-' ∧ c ≠ '+' := by
  constructor
  · rintro rfl
    revert h
    decide
  · rintro rfl
    revert h
    decide

theorem takeSign_trim {body : List Char} (after : List Char)
    (hb : ∀ b ∈ blanks, isNumeralBlank b = true)
    (hs : IsSign sign) (hbody : ∀ b ∈ c :: body, isNumeralBlank b = false)
    (hc : c ≠ '-' ∧ c ≠ '+') :
    ∃ left, takeSign (trim isNumeralBlank (blanks ++ (sign ++ c :: body ++ after))) =
      (decide (sign = ['-']), c :: body ++ left) ∧ left <+: after := by
  have hcore : ∀ b ∈ sign ++ c :: body, isNumeralBlank b = false := by
    intro b hb
    rcases List.mem_append.mp hb with hb | hb
    · exact hs.not_isNumeralBlank b hb
    · exact hbody b hb
  obtain ⟨left, htrim, hleft⟩ := trim_append after hb hcore (by simp)
  refine ⟨left, ?_, hleft⟩
  rw [htrim, List.append_assoc]
  exact takeSign_append hs hc

theorem ne_of_isBlank (h : isBlank c = true) :
    ∀ a ∈ ['-', '+', '.', '_', 'i', 'n'], c ≠ a := by
  rintro a ha rfl
  have hall : ['-', '+', '.', '_', 'i', 'n'].all (!isBlank ·) = true := by decide
  have hh := List.all_eq_true.mp hall c ha
  rw [h] at hh
  cases hh

theorem takeSign_trim_separator (after : List Char)
    (hb : ∀ b ∈ blanks, isNumeralBlank b = true)
    (hblank : isBlank c = true) (hc : isNumeralBlank c = false) :
    ∃ left, takeSign (trim isNumeralBlank (blanks ++ c :: after)) = (false, c :: left) := by
  have hcore : ∀ b ∈ [c], isNumeralBlank b = false := by simpa using hc
  obtain ⟨left, htrim, _⟩ := trim_append after hb hcore (by simp)
  refine ⟨left, ?_⟩
  have hsign : c ≠ '-' ∧ c ≠ '+' :=
    ⟨ne_of_isBlank hblank _ (by simp), ne_of_isBlank hblank _ (by simp)⟩
  rw [show blanks ++ c :: after = blanks ++ ([c] ++ after) by simp, htrim]
  exact takeSign_append (Or.inl rfl : IsSign []) hsign

theorem length_filterMap_digitValue? (h : ∀ c ∈ ds, isDigit c = true) :
    (ds.filterMap digitValue?).length = ds.length := by
  induction ds with
  | nil => rfl
  | cons c ds ih =>
    obtain ⟨hc, hds⟩ := List.forall_mem_cons.mp h
    obtain ⟨d, hd⟩ := Option.isSome_iff_exists.mp hc
    simp [hd, ih hds]

theorem isEmpty_filterMap_digitValue? (h : ∀ c ∈ ds, isDigit c = true) :
    (ds.filterMap digitValue?).isEmpty = ds.isEmpty := by
  have hlen := length_filterMap_digitValue? h
  cases ds with
  | nil => rfl
  | cons c ds =>
    cases hv : (c :: ds).filterMap digitValue? with
    | nil => simp [hv] at hlen
    | cons v vs => rfl

theorem grouped_append (h : ∀ c ∈ ds, isDigit c = true) (hne : ds ≠ []) (afterDigit : Bool)
    (rest : List Char) : grouped afterDigit (ds ++ rest) =
      (grouped true rest).map fun r => (ds.filterMap digitValue? ++ r.1, r.2) := by
  induction ds generalizing afterDigit with
  | nil => exact absurd rfl hne
  | cons c ds ih =>
    obtain ⟨hc, hds⟩ := List.forall_mem_cons.mp h
    obtain ⟨d, hd⟩ := Option.isSome_iff_exists.mp hc
    rw [List.cons_append, grouped]
    simp only [hd]
    cases ds with
    | nil => simp [hd]
    | cons c' ds =>
      rw [ih hds (by simp)]
      simp [hd, Function.comp_def]

theorem readInteger_of_grouped {negative : Bool} {body : List Char} {vs : List Nat}
    {rest : List Char} (hs : takeSign (trim isNumeralBlank cs) = (negative, body))
    (hg : grouped false body = some (vs, rest)) : readInteger cs =
      if digitLimit < vs.length then .error (.tooLong vs.length)
      else if rest.isEmpty then .ok (signed negative (digitsValue vs)) else .error .malformed := by
  simp only [readInteger, hs, hg]

theorem readInteger_of_spoilt {negative : Bool} {body : List Char}
    (hs : takeSign (trim isNumeralBlank cs) = (negative, body)) (hg : grouped false body = none) :
    readInteger cs = .error .malformed := by
  simp only [readInteger, hs, hg]

theorem readInteger_separator (hb : ∀ b ∈ blanks, isNumeralBlank b = true)
    (hblank : isBlank c = true) (hc : isNumeralBlank c = false) :
    readInteger (blanks ++ c :: after) = .error .malformed := by
  obtain ⟨left, hs⟩ := takeSign_trim_separator after hb hblank hc
  refine readInteger_of_spoilt hs ?_
  simp [grouped, digitValue?_eq_none (not_isDigit_of_isBlank hblank)]

theorem exists_cons_of_digits (h : ∀ c ∈ ds, isDigit c = true) (hne : ds ≠ []) :
    ∃ c body, ds = c :: body ∧ (∀ b ∈ c :: body, isNumeralBlank b = false) ∧ c ≠ '-' ∧ c ≠ '+' := by
  obtain ⟨c, body, rfl⟩ := List.exists_cons_of_ne_nil hne
  exact ⟨c, body, rfl, fun b hb => not_isNumeralBlank (not_isBlank_of_isDigit (h b hb)),
    isDigit_sign (h c List.mem_cons_self)⟩

/-- Digits behind blanks and a sign are read whole, up to the greatest number of them. -/
theorem readInteger_numeral (hb : ∀ b ∈ blanks, isNumeralBlank b = true) (hs : IsSign sign)
    (hds : ∀ c ∈ ds, isDigit c = true) (hne : ds ≠ []) : readInteger (blanks ++ (sign ++ ds)) =
      if digitLimit < ds.length then .error (.tooLong ds.length)
      else .ok (signed (decide (sign = ['-'])) (digitsValue (ds.filterMap digitValue?))) := by
  obtain ⟨c, body, rfl, hbody, hc⟩ := exists_cons_of_digits hds hne
  obtain ⟨left, htake, hleft⟩ := takeSign_trim [] hb hs hbody hc
  rw [List.prefix_nil.mp hleft, List.append_nil, List.append_nil] at htake
  have hg := grouped_append hds hne false []
  rw [List.append_nil] at hg
  rw [readInteger_of_grouped htake hg]
  simp only [List.append_nil, length_filterMap_digitValue? hds, List.isEmpty_nil, if_true]

/-- Digits that are too many spoil the numeral whatever follows them. -/
theorem readInteger_long (hb : ∀ b ∈ blanks, isNumeralBlank b = true) (hs : IsSign sign)
    (hds : ∀ c ∈ ds, isDigit c = true) (hlong : digitLimit < ds.length) :
    ∃ e, readInteger (blanks ++ (sign ++ ds ++ after)) = .error e := by
  have hne : ds ≠ [] := by
    rintro rfl
    simp at hlong
  obtain ⟨c, body, rfl, hbody, hc⟩ := exists_cons_of_digits hds hne
  obtain ⟨left, htake, _⟩ := takeSign_trim after hb hs hbody hc
  have hg := grouped_append hds hne false left
  cases hrest : grouped true left with
  | none =>
    rw [hrest] at hg
    exact ⟨_, readInteger_of_spoilt htake hg⟩
  | some r =>
    rw [hrest] at hg
    -- The digits are counted before what stands behind them is looked at.
    refine ⟨_, (readInteger_of_grouped htake hg).trans (if_pos ?_)⟩
    rw [List.length_append, length_filterMap_digitValue? hds]
    omega

theorem leadingDigits_cons (hblank : isBlank c = false) (hsign : c ≠ '-' ∧ c ≠ '+') :
    leadingDigits (c :: cs) = (c :: cs).takeWhile isDigit := by
  simp [leadingDigits, spanOpening, hblank, spanSign, hsign]

theorem span_digits_append (hds : ∀ c ∈ ds, isDigit c = true)
    (hrest : ∀ c ∈ after.head?, isDigit c = false) :
    (ds ++ after).takeWhile isDigit = ds ∧ (ds ++ after).dropWhile isDigit = after := by
  rw [List.takeWhile_append_of_pos hds, List.dropWhile_append_of_pos hds]
  cases after with
  | nil => simp
  | cons c after => simp [hrest c rfl]

theorem eq_append_leadingDigits (cs : List Char) : ∃ sign after, IsSign sign ∧
    (spanOpening cs).1 = cs.takeWhile isBlank ++ sign ∧
    cs = cs.takeWhile isBlank ++ (sign ++ leadingDigits cs ++ after) := by
  obtain ⟨sign, hs, hopening, hrest⟩ := spanOpening_eq cs
  refine ⟨sign, (spanOpening cs).2.dropWhile isDigit, hs, hopening, ?_⟩
  rw [leadingDigits, List.append_assoc, List.takeWhile_append_dropWhile, ← hrest,
    List.takeWhile_append_dropWhile]

theorem leadingInteger?_eq_some : leadingInteger? cs = some ds ↔
    leadingDigits cs ≠ [] ∧ ds = (spanOpening cs).1 ++ leadingDigits cs := by
  have heq : leadingInteger? cs = if (leadingDigits cs).isEmpty then none
      else some ((spanOpening cs).1 ++ leadingDigits cs) := rfl
  rw [heq]
  by_cases he : leadingDigits cs = []
  · simp [he]
  · rw [if_neg fun h => he (List.isEmpty_iff.mp h)]
    exact ⟨fun h => ⟨he, (Option.some.inj h).symm⟩, fun h => congrArg some h.2.symm⟩

theorem isDigit_of_mem_leadingDigits (cs : List Char) : ∀ c ∈ leadingDigits cs, isDigit c = true :=
  fun _ h => List.mem_takeWhile_imp h

theorem readInteger_of_separated (h : Separated cs) (rest : List Char) :
    readInteger (cs.takeWhile isBlank ++ rest) = .error .malformed := by
  obtain ⟨pre, c, tail, hblanks, hpre, hblank, hc⟩ :=
    exists_separator (fun _ hm => List.mem_takeWhile_imp hm) h
  rw [hblanks, List.append_assoc, List.cons_append]
  exact readInteger_separator hpre hblank hc

theorem isNumeralBlank_of_not_separated (h : ¬ Separated cs) :
    ∀ b ∈ cs.takeWhile isBlank, isNumeralBlank b = true := by
  intro b hb
  by_contra hn
  exact h ⟨b, hb, by simpa using hn⟩

/-- The leading integer of a text cannot be read just when a separator stands in front of it or it
has too many digits. -/
theorem readInteger_leading (h : leadingInteger? cs = some ds) :
    (∃ e, readInteger ds = .error e) ↔ Separated cs ∨ digitLimit < (leadingDigits cs).length := by
  obtain ⟨hne, rfl⟩ := leadingInteger?_eq_some.mp h
  obtain ⟨sign, _, hs, hopening, _⟩ := eq_append_leadingDigits cs
  rw [hopening, List.append_assoc]
  by_cases hsep : Separated cs
  · rw [readInteger_of_separated hsep]
    exact ⟨fun _ => Or.inl hsep, fun _ => ⟨_, rfl⟩⟩
  · rw [readInteger_numeral (isNumeralBlank_of_not_separated hsep) hs
      (isDigit_of_mem_leadingDigits cs) hne]
    by_cases hlong : digitLimit < (leadingDigits cs).length
    · rw [if_pos hlong]
      exact ⟨fun _ => Or.inr hlong, fun _ => ⟨_, rfl⟩⟩
    · rw [if_neg hlong]
      constructor
      · rintro ⟨e, he⟩
        cases he
      · intro h
        exact absurd h (not_or.mpr ⟨hsep, hlong⟩)

/-- What spoils the leading integer of a text spoils the whole text as an integer. -/
theorem readInteger_of_spoilt_leading
    (h : leadingDigits cs ≠ [] ∧ (Separated cs ∨ digitLimit < (leadingDigits cs).length)) :
    ∃ e, readInteger cs = .error e := by
  obtain ⟨sign, after, hs, _, hcs⟩ := eq_append_leadingDigits cs
  rw [hcs]
  by_cases hsep : Separated cs
  · exact ⟨_, readInteger_of_separated hsep _⟩
  · exact readInteger_long (isNumeralBlank_of_not_separated hsep) hs
      (isDigit_of_mem_leadingDigits cs) (h.2.resolve_left hsep)

end Numeral

end QueryFilter
