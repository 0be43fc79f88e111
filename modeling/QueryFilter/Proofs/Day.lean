import Mathlib.Data.List.Basic
import Mathlib.Data.List.Induction
import Mathlib.Data.Nat.Digits.Defs
import QueryFilter.Calendar.Date

/-! The written form of a day. It is read back from its figures alone, so that what it says does
not rest on how it was written. -/

namespace QueryFilter

namespace Text

variable {xs ys : List Char}

theorem length_padded {width n : Nat} (hw : 0 < width) (h : n < 10 ^ width) :
    (padded width n).length = width := by
  have hlen := (Nat.length_toDigits_le_iff (b := 10) (by decide) hw).mpr h
  simp only [padded, zeroFilled, List.length_append, List.length_replicate]
  omega

theorem ofDigitChars_padded (width n : Nat) : Nat.ofDigitChars 10 (padded width n) 0 = n := by
  simp [padded, zeroFilled, Nat.ofDigitChars_append]

theorem isDigit_of_mem_padded {width n : Nat} {c : Char} (h : c ∈ padded width n) :
    c.isDigit = true := by
  rcases List.mem_append.mp h with h | h
  · rw [List.eq_of_mem_replicate h]
    decide
  · exact Nat.isDigit_of_mem_toDigits (by decide) (by decide) h

theorem ofDigitChars_concat (xs : List Char) (c : Char) :
    Nat.ofDigitChars 10 (xs ++ [c]) 0 = 10 * Nat.ofDigitChars 10 xs 0 + (c.toNat - 48) := by
  rw [Nat.ofDigitChars_append, Nat.ofDigitChars_cons, Nat.ofDigitChars_nil]
  rfl

theorem ofDigitChars_lt (h : ∀ c ∈ xs, c.isDigit = true) :
    Nat.ofDigitChars 10 xs 0 < 10 ^ xs.length := by
  induction xs using List.reverseRecOn with
  | nil => decide
  | append_singleton xs c ih =>
    have hh := ih fun x hx => h x (List.mem_append_left _ hx)
    have hc : 48 ≤ c.toNat ∧ c.toNat ≤ 57 := Char.isDigit_iff_toNat.mp (h c (by simp))
    rw [ofDigitChars_concat, List.length_append, List.length_singleton, Nat.pow_succ]
    omega

/-- Figures are told apart by their number once it is known how many there are. -/
theorem ofDigitChars_inj (hx : ∀ c ∈ xs, c.isDigit = true) (hy : ∀ c ∈ ys, c.isDigit = true)
    (hlen : xs.length = ys.length)
    (h : Nat.ofDigitChars 10 xs 0 = Nat.ofDigitChars 10 ys 0) : xs = ys := by
  induction xs using List.reverseRecOn generalizing ys with
  | nil => exact (List.length_eq_zero_iff.mp hlen.symm).symm
  | append_singleton xs c ih =>
    obtain rfl | ⟨ys, d, rfl⟩ := List.eq_nil_or_concat' ys
    · simp at hlen
    · have hc : 48 ≤ c.toNat ∧ c.toNat ≤ 57 := Char.isDigit_iff_toNat.mp (hx c (by simp))
      have hd : 48 ≤ d.toNat ∧ d.toNat ≤ 57 := Char.isDigit_iff_toNat.mp (hy d (by simp))
      rw [ofDigitChars_concat, ofDigitChars_concat] at h
      have hfront : xs = ys := ih (fun x hm => hx x (List.mem_append_left _ hm))
        (fun y hm => hy y (List.mem_append_left _ hm)) (by simpa using hlen) (by omega)
      have hlast : c = d := Char.toNat_inj.mp (by omega)
      rw [hfront, hlast]

theorem padded_ofDigitChars (h : ∀ c ∈ xs, c.isDigit = true) (hne : xs ≠ []) :
    padded xs.length (Nat.ofDigitChars 10 xs 0) = xs :=
  ofDigitChars_inj (fun _ hc => isDigit_of_mem_padded hc) h
    (length_padded (List.length_pos_iff.mpr hne) (ofDigitChars_lt h)) (ofDigitChars_padded _ _)

end Text

namespace Calendar

open Text

variable {s : String}

/-- A text of four, two and two figures, with hyphens between, that number a day of the
calendar. -/
def WritesDay (s : String) : Prop :=
  ∃ year month day : List Char, s.toList = year ++ '-' :: month ++ '-' :: day ∧
    year.length = 4 ∧ month.length = 2 ∧ day.length = 2 ∧
    (∀ c ∈ year ++ month ++ day, c.isDigit = true) ∧
    IsDate (Nat.ofDigitChars 10 year 0) (Nat.ofDigitChars 10 month 0) (Nat.ofDigitChars 10 day 0)

/-- A text whose figures number the year, the month and the day of a date. -/
def WritesDate (s : String) (date : Date) : Prop :=
  ∃ year month day : List Char, s.toList = year ++ '-' :: month ++ '-' :: day ∧
    year.length = 4 ∧ month.length = 2 ∧ day.length = 2 ∧
    (∀ c ∈ year ++ month ++ day, c.isDigit = true) ∧
    Nat.ofDigitChars 10 year 0 = date.year ∧ Nat.ofDigitChars 10 month 0 = date.month ∧
    Nat.ofDigitChars 10 day 0 = date.day

theorem monthLength_le (year month : Nat) : monthLength year month ≤ 31 := by
  unfold monthLength
  split
  · omega
  · rw [List.getD_eq_getElem?_getD]
    cases h : (monthLengths year)[month - 1]? with
    | none => simp
    | some n =>
      have hn := List.mem_of_getElem? h
      simp only [monthLengths, List.mem_cons, List.not_mem_nil, or_false] at hn
      rw [Option.getD_some]
      split at hn <;> omega

theorem Date.bounds (date : Date) :
    date.year < 10 ^ 4 ∧ 1 ≤ date.month ∧ date.month ≤ 12 ∧ 1 ≤ date.day ∧ date.day ≤ 31 := by
  obtain ⟨_, hyear, hday, hlast⟩ := date.isDate
  have hmonth := date.isDate.month_bounds
  have hle := monthLength_le date.year date.month
  omega

theorem Date.writesDate_iso (date : Date) : WritesDate date.iso date := by
  obtain ⟨hyear, hfirst, hmonth, _, hday⟩ := date.bounds
  refine ⟨padded 4 date.year, padded 2 date.month, padded 2 date.day, by simp [iso, isoChars],
    length_padded (by omega) hyear, length_padded (by omega) (by omega),
    length_padded (by omega) (by omega), fun c hc => ?_, ofDigitChars_padded _ _,
    ofDigitChars_padded _ _, ofDigitChars_padded _ _⟩
  rcases List.mem_append.mp hc with hc | hc
  · rcases List.mem_append.mp hc with hc | hc <;> exact isDigit_of_mem_padded hc
  · exact isDigit_of_mem_padded hc

/-- A date is written in one way. -/
theorem writesDate_iff {date : Date} : WritesDate s date ↔ s = date.iso := by
  constructor
  · rintro ⟨year, month, day, hs, hy, hm, hd, hdigits, hyear, hmonth, hday⟩
    rw [List.forall_mem_append, List.forall_mem_append] at hdigits
    have hpy := padded_ofDigitChars hdigits.1.1 (List.ne_nil_of_length_pos (by omega))
    have hpm := padded_ofDigitChars hdigits.1.2 (List.ne_nil_of_length_pos (by omega))
    have hpd := padded_ofDigitChars hdigits.2 (List.ne_nil_of_length_pos (by omega))
    rw [hy, hyear] at hpy
    rw [hm, hmonth] at hpm
    rw [hd, hday] at hpd
    rw [Date.iso, Date.isoChars, hpy, hpm, hpd, ← hs, String.ofList_toList]
  · rintro rfl
    exact date.writesDate_iso

theorem writesDay_iff : WritesDay s ↔ ∃ date, WritesDate s date := by
  constructor
  · rintro ⟨year, month, day, hs, hy, hm, hd, hdigits, hdate⟩
    exact ⟨⟨_, _, _, hdate⟩, year, month, day, hs, hy, hm, hd, hdigits, rfl, rfl, rfl⟩
  · rintro ⟨date, year, month, day, hs, hy, hm, hd, hdigits, hyear, hmonth, hday⟩
    refine ⟨year, month, day, hs, hy, hm, hd, hdigits, ?_⟩
    rw [hyear, hmonth, hday]
    exact date.isDate

theorem Date.writesDay_iso (d : Date) : WritesDay d.iso :=
  writesDay_iff.mpr ⟨d, d.writesDate_iso⟩

end Calendar

end QueryFilter
