import QueryFilter.Coercion
import QueryFilter.Proofs.LeadingDecimal

/-! The longest numeral at the beginning of a text. What is read in front of a text is a numeral,
and every beginning of the text that is a numeral is a beginning of it. -/

namespace QueryFilter

namespace Numeral

open Text

variable {cs mantissa exponent p q : List Char}

/-- A decimal number behind blanks. -/
def IsNumeral (cs : List Char) : Prop :=
  ∃ blanks ds, (∀ b ∈ blanks, isBlank b = true) ∧ IsDecimal ds ∧ cs = blanks ++ ds

/-- The longest numeral among the beginnings of a text. -/
structure Longest (cs p : List Char) : Prop where
  isNumeral : IsNumeral p
  isPrefix : p <+: cs
  length_le : ∀ q, q <+: cs → IsNumeral q → q.length ≤ p.length

theorem Longest.unique (hp : Longest cs p) (hq : Longest cs q) : p = q := by
  have hle := hp.length_le q hq.isPrefix hq.isNumeral
  have hle' := hq.length_le p hp.isPrefix hp.isNumeral
  exact (List.prefix_of_prefix_length_le hp.isPrefix hq.isPrefix hle').eq_of_length_le hle

theorem IsExponent.isPrefix_leading (h : IsExponent exponent) (rest : List Char) :
    exponent <+: leadingExponent (exponent ++ rest) := by
  rcases h with rfl | ⟨e, sign, ds, he, hs, hds, hne, rfl⟩
  · exact List.nil_prefix
  · rw [leadingExponent_digits he hs hds hne]
    exact ⟨rest.takeWhile isDigit, by simp⟩

/-- A mantissa in front of a text is found, perhaps with more digits or a point behind it. -/
theorem IsMantissa.isPrefix_leading (h : IsMantissa mantissa) (rest : List Char) :
    ∃ m, leadingMantissa? (mantissa ++ rest) = some m ∧ mantissa <+: m.1 := by
  obtain ⟨whole, part, hwhole, hpart, ⟨hne, rfl⟩ | ⟨hne, rfl⟩⟩ := h
  · have htake : (mantissa ++ rest).takeWhile isDigit = mantissa ++ rest.takeWhile isDigit :=
      List.takeWhile_append_of_pos hwhole
    have hempty : (mantissa ++ rest.takeWhile isDigit).isEmpty = false := by simp [hne]
    unfold leadingMantissa?
    rw [htake]
    dsimp only
    rw [hempty]
    split
    · refine ⟨_, rfl, ?_⟩
      rw [List.append_assoc]
      exact List.prefix_append mantissa _
    · exact ⟨_, rfl, List.prefix_append mantissa _⟩
  · rw [leadingMantissa?_point hwhole hpart hne]
    exact ⟨_, rfl, rest.takeWhile isDigit, by simp⟩

/-- A mantissa and an exponent in front of a text are found, perhaps with more behind them. -/
theorem exists_leading_append (hm : IsMantissa mantissa) (he : IsExponent exponent)
    (rest : List Char) : ∃ m, leadingMantissa? (mantissa ++ (exponent ++ rest)) = some m ∧
      mantissa ++ exponent <+: m.1 ++ leadingExponent m.2 := by
  -- An exponent ends the mantissa; without one the mantissa may go on in the rest.
  cases exponent with
  | nil =>
    obtain ⟨m, hread, hbegins⟩ := hm.isPrefix_leading rest
    refine ⟨m, hread, ?_⟩
    rw [List.append_nil]
    exact hbegins.trans (List.prefix_append m.1 _)
  | cons e exponent =>
    have hhead : ∀ c ∈ (e :: exponent ++ rest).head?, isDigit c = false ∧ c ≠ '.' :=
      fun c hc => he.head hc
    have hle := he.isPrefix_leading rest
    exact ⟨_, hm.leadingMantissa?_append hhead, (List.prefix_append_right_inj mantissa).mpr hle⟩

/-- What is read in front of a text reaches as far as any numeral that the text begins with. -/
theorem IsNumeral.isPrefix_leading (h : IsNumeral q) (rest : List Char) :
    ∃ p, leadingDecimal? (q ++ rest) = some p ∧ q <+: p := by
  obtain ⟨blanks, _, hb, ⟨sign, mantissa, exponent, hs, hm, he, rfl⟩, rfl⟩ := h
  obtain ⟨m, hread, hbegins⟩ := exists_leading_append hm he rest
  obtain ⟨c, body, rfl, hsign⟩ := hm.exists_cons
  have hblank : isBlank c = false := (hm.chars c List.mem_cons_self).not_isBlank
  have hopening := spanOpening_sign hb hs ⟨hblank, hsign⟩ (body ++ (exponent ++ rest))
  rw [← List.cons_append] at hopening
  refine ⟨blanks ++ sign ++ m.1 ++ leadingExponent m.2, ?_, ?_⟩
  · simp only [List.append_assoc] at hopening ⊢
    rw [leadingDecimal?_eq, hopening, hread]
    simp
  · have hh := (List.prefix_append_right_inj (blanks ++ sign)).mpr hbegins
    simpa only [List.append_assoc] using hh

theorem isNumeral_leading (h : leadingDecimal? cs = some p) : IsNumeral p ∧ p <+: cs := by
  obtain ⟨number, hnumber, heq, hle⟩ := exists_isDecimal_of_leading h
  exact ⟨⟨_, number, fun _ hb => List.mem_takeWhile_imp hb, hnumber, heq⟩, hle⟩

theorem longest_leading (h : leadingDecimal? cs = some p) : Longest cs p := by
  obtain ⟨hnumeral, hbegins⟩ := isNumeral_leading h
  refine ⟨hnumeral, hbegins, ?_⟩
  rintro q ⟨rest, rfl⟩ hq
  obtain ⟨p', hp', hle⟩ := hq.isPrefix_leading rest
  have heq : p = p' := Option.some.inj (h.symm.trans hp')
  subst heq
  exact hle.length_le

theorem leadingDecimal?_eq_some_iff : leadingDecimal? cs = some p ↔ Longest cs p := by
  refine ⟨longest_leading, fun h => ?_⟩
  obtain ⟨rest, hrest⟩ := h.isPrefix
  obtain ⟨p', hp', _⟩ := h.isNumeral.isPrefix_leading rest
  rw [hrest] at hp'
  rw [hp', (longest_leading hp').unique h]

theorem leadingDecimal?_eq_none_iff :
    leadingDecimal? cs = none ↔ ∀ p, p <+: cs → ¬ IsNumeral p := by
  constructor
  · rintro h p ⟨rest, rfl⟩ hp
    obtain ⟨p', hp', _⟩ := hp.isPrefix_leading rest
    rw [h] at hp'
    cases hp'
  · intro h
    cases hread : leadingDecimal? cs with
    | none => rfl
    | some p =>
      obtain ⟨hnumeral, hbegins⟩ := isNumeral_leading hread
      exact absurd hnumeral (h p hbegins)

theorem not_separated (h : ∀ c ∈ cs, c.toNat < 0x1C ∨ 0x1F < c.toNat) : ¬ Separated cs := by
  rintro ⟨c, hc, hnot⟩
  have hblank : isBlank c = true := List.mem_takeWhile_imp hc
  have hrange := h c ((List.takeWhile_sublist isBlank).subset hc)
  simp only [isNumeralBlank, hblank, Bool.true_and, Bool.not_eq_false', Bool.and_eq_true,
    decide_eq_true_eq] at hnot
  omega

end Numeral

open Text Numeral

/-- The number that a text writes as a whole. -/
def decimalOfText (s : String) : Except Fault Binary64 :=
  match readDecimal? s.toList with
  | some x => .ok x
  | none => .error (.decimalText (.text s))

theorem decimalOfText_isOk_iff (s : String) :
    (∃ x, decimalOfText s = .ok x) ↔ (readDecimal? s.toList).isSome = true := by
  unfold decimalOfText
  cases readDecimal? s.toList <;> simp

theorem leadingDecimal_of_none {s : String} (h : leadingDecimal? s.toList = none) :
    leadingDecimal s = .ok (Binary64.zero false) := by
  simp only [leadingDecimal, h]

theorem leadingDecimal_of_some {s : String} {p : List Char}
    (h : leadingDecimal? s.toList = some p) :
    leadingDecimal s = decimalOfText (String.ofList p) := by
  cases hread : readDecimal? p <;> simp [leadingDecimal, decimalOfText, h, hread]

/-- A text without a numeral in front gives zero. Any other gives what the longest numeral in front
of it writes as a whole, and that can be read where the text has no separator. -/
theorem leadingDecimal_longest (s : String) :
    (leadingDecimal? s.toList = none ∧ (∀ p, p <+: s.toList → ¬ IsNumeral p) ∧
        leadingDecimal s = .ok (Binary64.zero false)) ∨
      ∃ p, leadingDecimal? s.toList = some p ∧ Longest s.toList p ∧
        leadingDecimal s = decimalOfText (String.ofList p) ∧
        ((∀ c ∈ s.toList, c.toNat < 0x1C ∨ 0x1F < c.toNat) →
          ∃ x, decimalOfText (String.ofList p) = .ok x) := by
  cases h : leadingDecimal? s.toList with
  | none =>
    exact Or.inl ⟨rfl, leadingDecimal?_eq_none_iff.mp h, leadingDecimal_of_none h⟩
  | some p =>
    refine Or.inr ⟨p, rfl, leadingDecimal?_eq_some_iff.mp h, leadingDecimal_of_some h, ?_⟩
    intro hplain
    rw [decimalOfText_isOk_iff, String.toList_ofList]
    exact (isSome_readDecimal?_leading h).mpr (not_separated hplain)

/-- A mark without digits is left out, and so is a second point. -/
theorem leadingDecimal_leftOver :
    Longest "\t-１2.5e+.6".toList "\t-１2.5".toList ∧
      ∃ x, leadingDecimal "\t-１2.5e+.6" = .ok x := by
  rcases leadingDecimal_longest "\t-１2.5e+.6" with ⟨hnone, _⟩ | ⟨p, hp, hlong, hread, hok⟩
  · cases hnone
  · have heq : p = "\t-１2.5".toList := Option.some.inj (hp.symm.trans rfl)
    have hplain : "\t-１2.5e+.6".toList.all (fun c => c.toNat < 0x1C || 0x1F < c.toNat) = true := rfl
    subst heq
    rw [hread]
    exact ⟨hlong, hok fun c hc => by simpa using List.all_eq_true.mp hplain c hc⟩

end QueryFilter
