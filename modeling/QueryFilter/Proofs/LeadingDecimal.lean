import QueryFilter.Numeral.Decimal
import QueryFilter.Proofs.LeadingNumeral

/-! The decimal number that a text begins with: its form, and that it can be read on its own unless
a separator stands among the blanks in front of it. -/

namespace QueryFilter

namespace Numeral

open Text

variable {cs ds blanks sign after : List Char} {c : Char}

def IsNumeralChar (c : Char) : Prop :=
  isDigit c = true ∨ c ∈ ['.', 'e', 'E', '-', '+']

theorem IsNumeralChar.ne_underscore (h : IsNumeralChar c) : c ≠ '_' := by
  rintro rfl
  revert h
  unfold IsNumeralChar
  decide

theorem IsNumeralChar.not_isBlank (h : IsNumeralChar c) : isBlank c = false := by
  rcases h with h | h
  · exact not_isBlank_of_isDigit h
  · have hall : ['.', 'e', 'E', '-', '+'].all (!isBlank ·) = true := by decide
    simpa using List.all_eq_true.mp hall c h

theorem ungroup_eq_self (h : ∀ c ∈ cs, IsNumeralChar c) (afterDigit : Bool) :
    ungroup afterDigit cs = some cs := by
  induction cs generalizing afterDigit with
  | nil => rfl
  | cons c cs ih =>
    obtain ⟨hc, hcs⟩ := List.forall_mem_cons.mp h
    rw [ungroup, if_neg hc.ne_underscore, ih hcs]
    rfl

/-- Digits with a point among them or none. -/
def IsMantissa (cs : List Char) : Prop :=
  ∃ whole part, (∀ c ∈ whole, isDigit c = true) ∧ (∀ c ∈ part, isDigit c = true) ∧
    (whole ≠ [] ∧ cs = whole ∨ (whole ≠ [] ∨ part ≠ []) ∧ cs = whole ++ '.' :: part)

/-- A letter, a sign and digits, or nothing. -/
def IsExponent (cs : List Char) : Prop :=
  cs = [] ∨ ∃ e sign ds, (e = 'e' ∨ e = 'E') ∧ IsSign sign ∧ (∀ c ∈ ds, isDigit c = true) ∧
    ds ≠ [] ∧ cs = e :: (sign ++ ds)

theorem isMantissa_of_leading {mantissa rest : List Char}
    (h : leadingMantissa? cs = some (mantissa, rest)) :
    IsMantissa mantissa ∧ cs = mantissa ++ rest := by
  have hdigits : ∀ cs : List Char, ∀ c ∈ cs.takeWhile isDigit, isDigit c = true :=
    fun _ _ hm => List.mem_takeWhile_imp hm
  have hcs : cs = cs.takeWhile isDigit ++ cs.dropWhile isDigit :=
    List.takeWhile_append_dropWhile.symm
  unfold leadingMantissa? at h
  dsimp only at h
  split at h
  · rename_i after hd
    split at h
    · cases h
    · rename_i hne
      cases h
      refine ⟨⟨cs.takeWhile isDigit, after.takeWhile isDigit, hdigits _, hdigits _,
        Or.inr ⟨?_, rfl⟩⟩, ?_⟩
      · by_contra hboth
        simp only [not_or, not_not] at hboth
        simp [hboth] at hne
      · rw [List.append_assoc, List.cons_append, List.takeWhile_append_dropWhile, ← hd]
        exact hcs
  · split at h
    · cases h
    · rename_i hne
      cases h
      refine ⟨⟨cs.takeWhile isDigit, [], hdigits _, by simp, Or.inl ⟨?_, rfl⟩⟩, hcs⟩
      simpa using hne

theorem leadingExponent_cons {e : Char} (he : e = 'e' ∨ e = 'E') (cs : List Char) :
    leadingExponent (e :: cs) =
      if ((spanSign cs).2.takeWhile isDigit).isEmpty then []
      else e :: ((spanSign cs).1 ++ (spanSign cs).2.takeWhile isDigit) := by
  cases cs with
  | nil => simp [leadingExponent, spanSign]
  | cons s cs =>
    by_cases hs : s = '+' ∨ s = '-'
    · simp [leadingExponent, he, hs, spanSign, Or.comm.mp hs]
    · simp [leadingExponent, he, hs, spanSign, mt Or.comm.mp hs]

/-- Digits behind the mark of an exponent are taken as far as they go. -/
theorem leadingExponent_digits {e : Char} (he : e = 'e' ∨ e = 'E') (hs : IsSign sign)
    (hds : ∀ c ∈ ds, isDigit c = true) (hne : ds ≠ []) (rest : List Char) :
    leadingExponent (e :: (sign ++ ds) ++ rest) =
      e :: (sign ++ (ds ++ rest.takeWhile isDigit)) := by
  have htake : (ds ++ rest).takeWhile isDigit = ds ++ rest.takeWhile isDigit :=
    List.takeWhile_append_of_pos hds
  have hspan : spanSign (sign ++ (ds ++ rest)) = (sign, ds ++ rest) := by
    obtain ⟨c, body, rfl, _, hc⟩ := exists_cons_of_digits hds hne
    exact spanSign_sign hs hc (body ++ rest)
  have hempty : ¬ (ds ++ rest.takeWhile isDigit).isEmpty = true := by simp [hne]
  rw [List.cons_append, List.append_assoc, leadingExponent_cons he, hspan, htake, if_neg hempty]

theorem leadingExponent_cases (cs : List Char) : leadingExponent cs = [] ∨
    ∃ e sign ds rest, (e = 'e' ∨ e = 'E') ∧ IsSign sign ∧ (∀ c ∈ ds, isDigit c = true) ∧ ds ≠ [] ∧
      leadingExponent cs = e :: (sign ++ ds) ∧ cs = e :: (sign ++ ds) ++ rest := by
  cases cs with
  | nil => exact Or.inl rfl
  | cons e cs =>
    by_cases he : e = 'e' ∨ e = 'E'
    · rw [leadingExponent_cons he]
      by_cases hd : ((spanSign cs).2.takeWhile isDigit).isEmpty = true
      · exact Or.inl (if_pos hd)
      · refine Or.inr ⟨e, (spanSign cs).1, (spanSign cs).2.takeWhile isDigit,
          (spanSign cs).2.dropWhile isDigit, he, isSign_spanSign cs,
          fun _ hm => List.mem_takeWhile_imp hm, fun hnil => hd (List.isEmpty_iff.mpr hnil),
          if_neg hd, ?_⟩
        rw [List.cons_append, List.append_assoc, List.takeWhile_append_dropWhile, spanSign_append]
    · exact Or.inl (by simp [leadingExponent, he])

theorem isExponent_leading (cs : List Char) : IsExponent (leadingExponent cs) := by
  rcases leadingExponent_cases cs with h | ⟨e, sign, ds, _, he, hs, hds, hne, h, _⟩
  · exact Or.inl h
  · exact Or.inr ⟨e, sign, ds, he, hs, hds, hne, h⟩

theorem leadingExponent_isPrefix (cs : List Char) : leadingExponent cs <+: cs := by
  rcases leadingExponent_cases cs with h | ⟨_, _, _, rest, _, _, _, _, h, hcs⟩
  · rw [h]
    exact List.nil_prefix
  · rw [h]
    exact ⟨rest, hcs.symm⟩

theorem IsExponent.isSome_readExponent (h : IsExponent cs) : (readExponent cs).isSome = true := by
  rcases h with rfl | ⟨e, sign, ds, he, hs, hds, hne, rfl⟩
  · rfl
  · obtain ⟨c, body, rfl, _, hc⟩ := exists_cons_of_digits hds hne
    have htake := List.takeWhile_eq_self_iff.mpr hds
    have hdrop := List.dropWhile_eq_nil_iff.mpr hds
    simp only [readExponent, he, if_true, takeSign_append hs hc, spanDigits_eq, htake, hdrop,
      isEmpty_filterMap_digitValue? hds]
    rfl

theorem IsExponent.head (h : IsExponent cs) (hm : c ∈ cs.head?) : isDigit c = false ∧ c ≠ '.' := by
  rcases h with rfl | ⟨e, sign, ds, he, _, _, _, rfl⟩
  · cases hm
  · cases hm
    rcases he with rfl | rfl <;> decide

/-- Digits behind the point of a mantissa are taken as far as they go. -/
theorem leadingMantissa?_point {whole part : List Char} (hwhole : ∀ c ∈ whole, isDigit c = true)
    (hpart : ∀ c ∈ part, isDigit c = true) (hne : whole ≠ [] ∨ part ≠ []) (rest : List Char) :
    leadingMantissa? (whole ++ '.' :: part ++ rest) =
      some (whole ++ '.' :: (part ++ rest.takeWhile isDigit), rest.dropWhile isDigit) := by
  have hpoint : ∀ c ∈ ('.' :: (part ++ rest)).head?, isDigit c = false := by
    intro c hc
    cases hc
    decide
  obtain ⟨htake, hdrop⟩ := span_digits_append hwhole hpoint
  have htake' : (part ++ rest).takeWhile isDigit = part ++ rest.takeWhile isDigit :=
    List.takeWhile_append_of_pos hpart
  have hdrop' : (part ++ rest).dropWhile isDigit = rest.dropWhile isDigit :=
    List.dropWhile_append_of_pos hpart
  have hboth : ¬ (whole.isEmpty && (part ++ rest.takeWhile isDigit).isEmpty) = true := by
    rcases hne with h | h <;> simp [h]
  unfold leadingMantissa?
  rw [List.append_assoc, List.cons_append, htake, hdrop]
  simp only [htake', hdrop', if_neg hboth]

theorem IsMantissa.leadingMantissa?_append (h : IsMantissa cs)
    (hrest : ∀ c ∈ after.head?, isDigit c = false ∧ c ≠ '.') :
    leadingMantissa? (cs ++ after) = some (cs, after) := by
  obtain ⟨whole, part, hwhole, hpart, ⟨hne, rfl⟩ | ⟨hne, rfl⟩⟩ := h
  · obtain ⟨htake, hdrop⟩ := span_digits_append hwhole fun c hc => (hrest c hc).1
    have hempty : ¬ cs.isEmpty = true := fun h => hne (List.isEmpty_iff.mp h)
    unfold leadingMantissa?
    rw [htake, hdrop]
    dsimp only
    split
    · exact absurd rfl (hrest '.' (by simp)).2
    · exact if_neg hempty
  · obtain ⟨htake, hdrop⟩ := span_digits_append (List.forall_mem_nil _) fun c hc => (hrest c hc).1
    rw [List.nil_append] at htake hdrop
    rw [leadingMantissa?_point hwhole hpart hne, htake, hdrop, List.append_nil]

/-- Reading a mantissa leaves what is left when it is only looked for. -/
theorem readMantissa_rest (cs : List Char) :
    (readMantissa cs).map (·.2.2) = (leadingMantissa? cs).map (·.2) := by
  have hempty : ∀ ds : List Char, ((ds.takeWhile isDigit).filterMap digitValue?).isEmpty =
      (ds.takeWhile isDigit).isEmpty := fun ds =>
    isEmpty_filterMap_digitValue? fun _ hm => List.mem_takeWhile_imp hm
  unfold readMantissa leadingMantissa?
  rw [spanDigits_eq]
  dsimp only
  split
  · rename_i tail _
    rw [spanDigits_eq, hempty, hempty]
    dsimp only
    split
    · rfl
    · rfl
  · rw [hempty]
    split
    · rfl
    · rfl

theorem IsMantissa.readMantissa_append (h : IsMantissa cs)
    (hrest : ∀ c ∈ after.head?, isDigit c = false ∧ c ≠ '.') :
    ∃ ds places, readMantissa (cs ++ after) = some (ds, places, after) := by
  have hread := readMantissa_rest (cs ++ after)
  rw [h.leadingMantissa?_append hrest] at hread
  obtain ⟨⟨ds, places, rest⟩, hsome, rfl⟩ := Option.map_eq_some_iff.mp hread
  exact ⟨ds, places, hsome⟩

theorem IsMantissa.chars (h : IsMantissa cs) : ∀ c ∈ cs, IsNumeralChar c := by
  intro c hc
  obtain ⟨whole, part, hwhole, hpart, ⟨_, rfl⟩ | ⟨_, rfl⟩⟩ := h
  · exact Or.inl (hwhole c hc)
  · rcases List.mem_append.mp hc with hc | hc
    · exact Or.inl (hwhole c hc)
    · rcases List.mem_cons.mp hc with rfl | hc
      · exact Or.inr (by decide)
      · exact Or.inl (hpart c hc)

theorem IsMantissa.exists_cons (h : IsMantissa cs) :
    ∃ c body, cs = c :: body ∧ c ≠ '-' ∧ c ≠ '+' := by
  obtain ⟨whole, part, hwhole, _, ⟨hne, rfl⟩ | ⟨_, rfl⟩⟩ := h
  · obtain ⟨c, body, rfl, _, hc⟩ := exists_cons_of_digits hwhole hne
    exact ⟨c, body, rfl, hc⟩
  · cases whole with
    | nil => exact ⟨'.', part, rfl, by decide⟩
    | cons c whole => exact ⟨c, _, rfl, isDigit_sign (hwhole c List.mem_cons_self)⟩

theorem IsSign.chars (h : IsSign sign) : ∀ c ∈ sign, IsNumeralChar c := by
  intro c hc
  rcases h with rfl | rfl | rfl
  · cases hc
  · exact Or.inr (by simp [List.mem_singleton.mp hc])
  · exact Or.inr (by simp [List.mem_singleton.mp hc])

theorem IsExponent.chars (h : IsExponent cs) : ∀ c ∈ cs, IsNumeralChar c := by
  intro c hc
  rcases h with rfl | ⟨e, sign, ds, he, hs, hds, _, rfl⟩
  · cases hc
  · rcases List.mem_cons.mp hc with rfl | hc
    · rcases he with rfl | rfl <;> exact Or.inr (by decide)
    · rcases List.mem_append.mp hc with hc | hc
      · exact hs.chars c hc
      · exact Or.inl (hds c hc)

theorem isSome_readUnsigned {mantissa exponent : List Char} (hm : IsMantissa mantissa)
    (he : IsExponent exponent) (negative : Bool) :
    (readUnsigned negative (mantissa ++ exponent)).isSome = true := by
  unfold readUnsigned
  dsimp only
  split
  · rfl
  · split
    · rfl
    · obtain ⟨ds, places, hread⟩ := hm.readMantissa_append fun c hc => he.head hc
      obtain ⟨n, hn⟩ := Option.isSome_iff_exists.mp he.isSome_readExponent
      rw [hread]
      simp [hn]

theorem readDecimal?_eq {trimmed body rest : List Char} {negative : Bool}
    (ht : trim isNumeralBlank cs = trimmed) (hu : ungroup false trimmed = some body)
    (hs : takeSign body = (negative, rest)) : readDecimal? cs = readUnsigned negative rest := by
  simp only [readDecimal?, ht, hu, Option.bind_eq_bind, Option.bind_some, hs]

theorem readDecimal?_of_ungroup {trimmed : List Char} (ht : trim isNumeralBlank cs = trimmed)
    (hu : ungroup false trimmed = none) : readDecimal? cs = none := by
  simp only [readDecimal?, ht, hu, Option.bind_eq_bind, Option.bind_none]

/-- A sign, a mantissa and an exponent. -/
def IsDecimal (cs : List Char) : Prop :=
  ∃ sign mantissa exponent, IsSign sign ∧ IsMantissa mantissa ∧ IsExponent exponent ∧
    cs = sign ++ (mantissa ++ exponent)

theorem IsDecimal.chars (h : IsDecimal ds) : ∀ c ∈ ds, IsNumeralChar c := by
  obtain ⟨sign, mantissa, exponent, hs, hm, he, rfl⟩ := h
  intro c hc
  rcases List.mem_append.mp hc with hc | hc
  · exact hs.chars c hc
  · rcases List.mem_append.mp hc with hc | hc
    · exact hm.chars c hc
    · exact he.chars c hc

/-- A decimal number is read as it is, whatever blanks stand before it. -/
theorem IsDecimal.readDecimal?_eq (h : IsDecimal ds)
    (hb : ∀ b ∈ blanks, isNumeralBlank b = true) :
    readDecimal? (blanks ++ ds) = readUnsigned (takeSign ds).1 (takeSign ds).2 := by
  have hne : ds ≠ [] := by
    obtain ⟨sign, mantissa, exponent, _, hm, _, rfl⟩ := h
    obtain ⟨c, body, rfl, _⟩ := hm.exists_cons
    simp
  obtain ⟨left, htrim, hleft⟩ := trim_append [] hb
    (fun c hc => Text.not_isNumeralBlank (h.chars c hc).not_isBlank) hne
  rw [List.prefix_nil.mp hleft, List.append_nil] at htrim
  exact Numeral.readDecimal?_eq htrim (ungroup_eq_self h.chars false) rfl

theorem IsDecimal.isSome_readDecimal? (h : IsDecimal ds)
    (hb : ∀ b ∈ blanks, isNumeralBlank b = true) :
    (readDecimal? (blanks ++ ds)).isSome = true := by
  rw [h.readDecimal?_eq hb]
  obtain ⟨sign, mantissa, exponent, hs, hm, he, rfl⟩ := h
  have htake : takeSign (sign ++ (mantissa ++ exponent)) =
      (decide (sign = ['-']), mantissa ++ exponent) := by
    obtain ⟨c, body, hcons, hsign⟩ := hm.exists_cons
    rw [hcons, List.cons_append]
    exact takeSign_append hs hsign
  rw [htake]
  exact isSome_readUnsigned hm he _

theorem readMantissa_eq_none (hd : isDigit c = false) (hc : c ≠ '.') :
    readMantissa (c :: cs) = none := by
  unfold readMantissa
  simp only [spanDigits, digitValue?_eq_none hd]
  split
  · rename_i h
    cases h
    exact absurd rfl hc
  · rfl

theorem readUnsigned_eq_none (hblank : isBlank c = true) (negative : Bool) :
    readUnsigned negative (c :: cs) = none := by
  have hne := ne_of_isBlank hblank
  have hlower := toLower_of_isBlank hblank
  unfold readUnsigned
  simp [hlower, hne, readMantissa_eq_none (not_isDigit_of_isBlank hblank)]

theorem ungroup_cons (hc : c ≠ '_') (afterDigit : Bool) (cs : List Char) :
    ungroup afterDigit (c :: cs) = (ungroup (isDigit c) cs).map (c :: ·) := by
  rw [ungroup, if_neg hc]

theorem readDecimal?_of_separated (h : Separated cs) (rest : List Char) :
    readDecimal? (cs.takeWhile isBlank ++ rest) = none := by
  obtain ⟨pre, c, tail, hblanks, hpre, hblank, hc⟩ :=
    exists_separator (fun _ hm => List.mem_takeWhile_imp hm) h
  have hcore : ∀ b ∈ [c], isNumeralBlank b = false := by simpa using hc
  obtain ⟨left, htrim, _⟩ := trim_append (tail ++ rest) hpre hcore (by simp)
  -- The separator comes first once the text is trimmed, and no number begins with it.
  have hne := ne_of_isBlank hblank
  have htake : ∀ cs, takeSign (c :: cs) = (false, c :: cs) := fun cs =>
    takeSign_append (Or.inl rfl : IsSign []) ⟨hne _ (by simp), hne _ (by simp)⟩
  rw [hblanks, show pre ++ c :: tail ++ rest = pre ++ ([c] ++ (tail ++ rest)) by simp]
  have hungroup := ungroup_cons (hne '_' (by simp)) false left
  cases hleft : ungroup (isDigit c) left with
  | none =>
    rw [hleft] at hungroup
    exact readDecimal?_of_ungroup htrim hungroup
  | some body =>
    rw [hleft] at hungroup
    rw [readDecimal?_eq htrim hungroup (htake body), readUnsigned_eq_none hblank]

theorem leadingDecimal?_eq (cs : List Char) : leadingDecimal? cs =
    (leadingMantissa? (spanOpening cs).2).map fun m =>
      (spanOpening cs).1 ++ m.1 ++ leadingExponent m.2 := by
  have hbind : leadingDecimal? cs = (leadingMantissa? (spanOpening cs).2).bind fun m =>
      some ((spanOpening cs).1 ++ m.1 ++ leadingExponent m.2) := rfl
  rw [hbind]
  cases leadingMantissa? (spanOpening cs).2 <;> rfl

/-- What is found in front of a text is a decimal number behind the blanks there. -/
theorem exists_isDecimal_of_leading (h : leadingDecimal? cs = some ds) :
    ∃ number, IsDecimal number ∧ ds = cs.takeWhile isBlank ++ number ∧ ds <+: cs := by
  rw [leadingDecimal?_eq] at h
  obtain ⟨m, hm, rfl⟩ := Option.map_eq_some_iff.mp h
  obtain ⟨sign, hs, hopening, _⟩ := spanOpening_eq cs
  obtain ⟨hmantissa, hrest⟩ := isMantissa_of_leading hm
  refine ⟨sign ++ (m.1 ++ leadingExponent m.2),
    ⟨sign, m.1, _, hs, hmantissa, isExponent_leading m.2, rfl⟩, ?_, ?_⟩
  · rw [hopening]
    simp only [List.append_assoc]
  · have hle := (List.prefix_append_right_inj ((spanOpening cs).1 ++ m.1)).mpr
      (leadingExponent_isPrefix m.2)
    rwa [List.append_assoc _ m.1 m.2, ← hrest, spanOpening_append] at hle

/-- The leading decimal number of a text can be read just when no separator stands in front of
it. -/
theorem isSome_readDecimal?_leading (h : leadingDecimal? cs = some ds) :
    (readDecimal? ds).isSome = true ↔ ¬ Separated cs := by
  obtain ⟨number, hnumber, rfl, _⟩ := exists_isDecimal_of_leading h
  constructor
  · intro hsome hsep
    rw [readDecimal?_of_separated hsep] at hsome
    cases hsome
  · intro hsep
    exact hnumber.isSome_readDecimal? (isNumeralBlank_of_not_separated hsep)

end Numeral

end QueryFilter
