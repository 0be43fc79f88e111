import QueryFilter.Coercion
import QueryFilter.Proofs.LeadingDecimal

/-! Texts that are decimal numbers as a whole. Coercion reads the number that a text begins with,
and that is all of the text unless it is a word, or digits of it are grouped by underscores. -/

namespace QueryFilter

namespace Text

def wordLetters : List Char :=
  ['i', 'n', 'f', 't', 'y', 'a']

theorem not_numeral_of_wordLetter : ∀ n < 128, (Char.ofNat n).toLower ∈ wordLetters →
    isBlank (Char.ofNat n) = false ∧ isDigit (Char.ofNat n) = false ∧
      Char.ofNat n ∉ ['.', '-', '+'] := by
  decide

theorem plain_of_wordLetter {c : Char} (h : c.toLower ∈ wordLetters) :
    isBlank c = false ∧ isDigit c = false ∧ c ∉ ['.', '-', '+'] := by
  have hlow : c.toNat < 128 := by
    unfold Char.toLower at h
    split at h
    · rename_i hc
      have hhigh : c.toNat ≤ 90 := hc.2
      omega
    · simp only [wordLetters, List.mem_cons, List.not_mem_nil, or_false] at h
      rcases h with rfl | rfl | rfl | rfl | rfl | rfl <;> decide
  have hh := not_numeral_of_wordLetter c.toNat hlow
  rw [Char.ofNat_toNat] at hh
  exact hh h

end Text

namespace Numeral

open Text

variable {cs ds blanks sign mantissa exponent after p q x y rest : List Char} {c : Char}

def EndsInDigit (cs : List Char) : Prop :=
  ∃ c ∈ cs.getLast?, isDigit c = true

theorem EndsInDigit.ne_nil (h : EndsInDigit p) : p ≠ [] := by
  rintro rfl
  obtain ⟨c, hc, _⟩ := h
  cases hc

theorem EndsInDigit.of_append (h : EndsInDigit (x ++ p)) (hp : p ≠ []) : EndsInDigit p := by
  obtain ⟨c, hc, hd⟩ := h
  rw [List.getLast?_append, List.getLast?_eq_some_getLast hp, Option.some_or] at hc
  exact ⟨c, (List.getLast?_eq_some_getLast hp).trans hc, hd⟩

/-- What ends in a digit reaches beyond what has none. -/
theorem EndsInDigit.beyond (h : EndsInDigit p) (hx : ∀ c ∈ x, isDigit c = false)
    (heq : p ++ q = x ++ y) : ∃ p', EndsInDigit p' ∧ p = x ++ p' ∧ y = p' ++ q := by
  have hnot : ¬ EndsInDigit x := by
    rintro ⟨c, hc, hd⟩
    rw [hx c (List.mem_of_mem_getLast? hc)] at hd
    cases hd
  rcases List.append_eq_append_iff.mp heq with ⟨r, rfl, _⟩ | ⟨p', rfl, hy⟩
  · obtain ⟨c, hc, hd⟩ := h
    rw [hx c (List.mem_append_left r (List.mem_of_mem_getLast? hc))] at hd
    cases hd
  · by_cases hp : p' = []
    · subst hp
      rw [List.append_nil] at h
      exact absurd h hnot
    · exact ⟨p', h.of_append hp, rfl, hy⟩

theorem IsSign.not_isDigit (h : IsSign sign) : ∀ c ∈ sign, isDigit c = false := by
  intro c hc
  rcases h with rfl | rfl | rfl
  · cases hc
  · rw [List.mem_singleton.mp hc]
    decide
  · rw [List.mem_singleton.mp hc]
    decide

theorem isMantissa_of_digits (hne : ds ≠ []) (hds : ∀ c ∈ ds, isDigit c = true) : IsMantissa ds :=
  ⟨ds, [], hds, by simp, Or.inl ⟨hne, rfl⟩⟩

theorem isMantissa_of_append (hp : EndsInDigit p) (h : IsMantissa (p ++ q)) : IsMantissa p := by
  obtain ⟨whole, part, hwhole, hpart, ⟨_, heq⟩ | ⟨_, heq⟩⟩ := h
  · exact isMantissa_of_digits hp.ne_nil fun c hc => hwhole c (heq ▸ List.mem_append_left q hc)
  · rcases List.append_eq_append_iff.mp heq with ⟨r, rfl, _⟩ | ⟨r, rfl, hr⟩
    · exact isMantissa_of_digits hp.ne_nil fun c hc => hwhole c (List.mem_append_left r hc)
    · by_cases hne : r = []
      · subst hne
        rw [List.append_nil] at hp ⊢
        exact isMantissa_of_digits hp.ne_nil hwhole
      · have hpoint : ∀ c ∈ ['.'], isDigit c = false := fun c hc => by
          rw [List.mem_singleton.mp hc]
          decide
        obtain ⟨r, hlast, rfl, hrest⟩ := (hp.of_append hne).beyond hpoint hr.symm
        refine ⟨whole, r, hwhole, fun c hc => hpart c ?_, Or.inr ⟨Or.inr hlast.ne_nil, rfl⟩⟩
        rw [hrest]
        exact List.mem_append_left q hc

theorem isExponent_of_append (hp : EndsInDigit p) (h : IsExponent (p ++ q)) : IsExponent p := by
  rcases h with heq | ⟨e, sign, ds, he, hs, hds, _, heq⟩
  · exact absurd (List.append_eq_nil_iff.mp heq).1 hp.ne_nil
  · have hmark : ∀ c ∈ e :: sign, isDigit c = false := by
      refine List.forall_mem_cons.mpr ⟨?_, hs.not_isDigit⟩
      rcases he with rfl | rfl <;> decide
    obtain ⟨r, hlast, rfl, hrest⟩ := hp.beyond hmark heq
    refine Or.inr ⟨e, sign, r, he, hs, fun c hc => hds c ?_, hlast.ne_nil, rfl⟩
    rw [hrest]
    exact List.mem_append_left q hc

theorem isDecimal_of_append (hp : EndsInDigit p) (h : IsDecimal (p ++ q)) : IsDecimal p := by
  obtain ⟨sign, mantissa, exponent, hs, hm, he, heq⟩ := h
  obtain ⟨p, hlast, rfl, hrest⟩ := hp.beyond hs.not_isDigit heq
  rcases List.append_eq_append_iff.mp hrest with ⟨r, rfl, hr⟩ | ⟨r, rfl, hr⟩
  · by_cases hne : r = []
    · subst hne
      exact ⟨sign, mantissa, [], hs, hm, Or.inl rfl, by simp⟩
    · exact ⟨sign, mantissa, r, hs, hm, isExponent_of_append (hlast.of_append hne) (hr ▸ he), rfl⟩
  · exact ⟨sign, p, [], hs, isMantissa_of_append hlast hm, Or.inl rfl, by simp⟩

theorem isExponent_of_readExponent {n : Int} (h : readExponent cs = some n) : IsExponent cs := by
  cases cs with
  | nil => exact Or.inl rfl
  | cons e cs =>
    by_cases he : e = 'e' ∨ e = 'E'
    · simp only [readExponent, if_pos he, spanDigits_eq] at h
      obtain ⟨sign, hs, hsign⟩ := takeSign_eq cs
      split at h
      · cases h
      · rename_i hne
        simp only [Bool.or_eq_true, not_or, Bool.not_eq_true', Bool.not_eq_false,
          List.isEmpty_iff] at hne
        have hwhole := List.takeWhile_append_dropWhile (p := isDigit) (l := (takeSign cs).2)
        rw [hne.2, List.append_nil] at hwhole
        have hds : ∀ c ∈ (takeSign cs).2, isDigit c = true := fun c hc =>
          List.mem_takeWhile_imp (hwhole.symm ▸ hc)
        refine Or.inr ⟨e, sign, (takeSign cs).2, he, hs, hds, fun hnil => hne.1 ?_, ?_⟩
        · rw [hnil]
          rfl
        · rw [← hsign]
    · simp [readExponent, he] at h

/-- The spellings of numbers that have no digits. -/
def words : List (List Char) :=
  ["inf".toList, "infinity".toList, "nan".toList]

theorem readUnsigned_eq_some {negative : Bool} {value : Binary64}
    (h : readUnsigned negative cs = some value) : cs.map Char.toLower ∈ words ∨
      ∃ mantissa exponent, IsMantissa mantissa ∧ IsExponent exponent ∧
        cs = mantissa ++ exponent := by
  by_cases hw : cs.map Char.toLower ∈ words
  · exact Or.inl hw
  · simp only [words, List.mem_cons, List.not_mem_nil, or_false, not_or] at hw
    simp only [readUnsigned, hw.1, hw.2.1, hw.2.2, or_self, if_false, Option.bind_eq_bind] at h
    obtain ⟨⟨values, places, rest⟩, hread, h⟩ := Option.bind_eq_some_iff.mp h
    obtain ⟨n, hn, _⟩ := Option.bind_eq_some_iff.mp h
    have hrest := readMantissa_rest cs
    rw [hread] at hrest
    obtain ⟨⟨mantissa, rest'⟩, hmantissa, rfl⟩ := Option.map_eq_some_iff.mp hrest.symm
    obtain ⟨hm, hcs⟩ := isMantissa_of_leading hmantissa
    exact Or.inr ⟨mantissa, rest', hm, isExponent_of_readExponent hn, hcs⟩

theorem EndsInDigit.cons (h : EndsInDigit p) (c : Char) : EndsInDigit (c :: p) := by
  obtain ⟨d, hd, hdigit⟩ := h
  refine ⟨d, ?_, hdigit⟩
  rw [List.getLast?_cons, Option.mem_def.mp hd]
  rfl

/-- An underscore is removed only behind a digit. -/
theorem ungroup_eq_some {afterDigit : Bool} (h : ungroup afterDigit cs = some ds) :
    '_' ∉ cs ∧ ds = cs ∨ ∃ front after more, '_' ∉ front ∧ cs = front ++ '_' :: after ∧
      ds = front ++ more ∧ (EndsInDigit front ∨ front = [] ∧ afterDigit = true) := by
  induction cs generalizing afterDigit ds with
  | nil => exact Or.inl ⟨by simp, (Option.some.inj h).symm⟩
  | cons c cs ih =>
    by_cases hc : c = '_'
    · subst hc
      rw [ungroup, if_pos rfl] at h
      split at h
      · rename_i hdigit
        rw [Bool.and_eq_true] at hdigit
        exact Or.inr ⟨[], cs, ds, by simp, rfl, rfl, Or.inr ⟨rfl, hdigit.1⟩⟩
      · cases h
    · rw [ungroup_cons hc] at h
      obtain ⟨ds, hds, rfl⟩ := Option.map_eq_some_iff.mp h
      rcases ih hds with ⟨hno, rfl⟩ | ⟨front, after, more, hno, rfl, rfl, hend⟩
      · exact Or.inl ⟨by simp [hno, Ne.symm hc], rfl⟩
      · -- The part in front grows by a letter, and ends in that letter if it was empty.
        refine Or.inr ⟨c :: front, after, more, by simp [hno, Ne.symm hc], rfl, rfl, Or.inl ?_⟩
        rcases hend with hend | ⟨rfl, hdigit⟩
        · exact hend.cons c
        · exact ⟨c, rfl, hdigit⟩

theorem leadingExponent_append (h : IsExponent cs)
    (hafter : ∀ c ∈ after.head?, isDigit c = false ∧ c ≠ 'e' ∧ c ≠ 'E') :
    leadingExponent (cs ++ after) = cs := by
  rcases h with rfl | ⟨e, sign, ds, he, hs, hds, hne, rfl⟩
  · cases after with
    | nil => rfl
    | cons c after =>
      have hc := (hafter c rfl).2
      simp [leadingExponent, hc]
  · have htake : after.takeWhile isDigit = [] := by
      cases after with
      | nil => rfl
      | cons c after => simp [(hafter c rfl).1]
    rw [leadingExponent_digits he hs hds hne, htake, List.append_nil]

/-- A decimal number behind blanks is all that a text begins with, where neither a digit nor a
point nor an exponent follows. -/
theorem leadingDecimal?_append (hb : ∀ b ∈ blanks, isBlank b = true) (h : IsDecimal ds)
    (hafter : ∀ c ∈ after.head?, isDigit c = false ∧ c ≠ '.' ∧ c ≠ 'e' ∧ c ≠ 'E') :
    leadingDecimal? (blanks ++ (ds ++ after)) = some (blanks ++ ds) := by
  obtain ⟨sign, mantissa, exponent, hs, hm, he, rfl⟩ := h
  have hrest : ∀ c ∈ (exponent ++ after).head?, isDigit c = false ∧ c ≠ '.' := by
    intro c hc
    cases exponent with
    | nil => exact ⟨(hafter c hc).1, (hafter c hc).2.1⟩
    | cons e exponent => exact he.head hc
  have hexponent := leadingExponent_append he fun c hc => ⟨(hafter c hc).1, (hafter c hc).2.2⟩
  obtain ⟨c, body, rfl, hsign⟩ := hm.exists_cons
  have hc : isBlank c = false := (hm.chars c List.mem_cons_self).not_isBlank
  have hopening := spanOpening_sign hb hs ⟨hc, hsign⟩ (body ++ (exponent ++ after))
  have hmantissa := hm.leadingMantissa?_append hrest
  rw [List.cons_append] at hmantissa
  rw [leadingDecimal?_eq, List.append_assoc, List.append_assoc, List.cons_append, hopening,
    hmantissa, Option.map_some, hexponent]
  simp

/-- A text that spells infinity or the value that is no number, in any letter case. -/
def SpellsWord (cs : List Char) : Prop :=
  ∃ blanks sign word after, cs = blanks ++ (sign ++ (word ++ after)) ∧
    (∀ b ∈ blanks ++ after, isNumeralBlank b = true) ∧ IsSign sign ∧
    word.map Char.toLower ∈ words

theorem mem_wordLetters {word : List Char} (hw : word ∈ words) (hc : c ∈ word) :
    c ∈ wordLetters := by
  have hall : words.all (·.all wordLetters.contains) = true := by decide
  have hh := List.all_eq_true.mp (List.all_eq_true.mp hall word hw) c hc
  simpa using hh

theorem plain_of_mem_word {word : List Char} (hw : word.map Char.toLower ∈ words) :
    ∀ c ∈ word, isBlank c = false ∧ isDigit c = false ∧ c ∉ ['.', '-', '+'] :=
  fun _ hc => plain_of_wordLetter (mem_wordLetters hw (List.mem_map_of_mem hc))

theorem SpellsWord.leadingDecimal?_eq_none (h : SpellsWord cs) : leadingDecimal? cs = none := by
  obtain ⟨blanks, sign, word, after, rfl, hb, hs, hw⟩ := h
  have hplain := plain_of_mem_word hw
  cases word with
  | nil => exact absurd hw (by decide)
  | cons c word =>
    obtain ⟨hblank, hdigit, hmarks⟩ := hplain c List.mem_cons_self
    simp only [List.mem_cons, List.not_mem_nil, or_false, not_or] at hmarks
    have hopening := spanOpening_sign
      (fun b hm => isBlank_of_isNumeralBlank (hb b (List.mem_append_left after hm))) hs
      ⟨hblank, hmarks.2⟩ (word ++ after)
    have hrest := readMantissa_rest (c :: (word ++ after))
    rw [readMantissa_eq_none hdigit hmarks.1] at hrest
    rw [leadingDecimal?_eq, List.cons_append, hopening,
      Option.map_eq_none_iff.mp hrest.symm, Option.map_none]

theorem not_numeral_of_isBlank (h : isBlank c = true) :
    isDigit c = false ∧ c ≠ '.' ∧ c ≠ 'e' ∧ c ≠ 'E' := by
  refine ⟨not_isDigit_of_isBlank h, ?_, ?_, ?_⟩ <;> rintro rfl <;> revert h <;> decide

theorem ne_underscore_of_isNumeralBlank (h : isNumeralBlank c = true) : c ≠ '_' :=
  ne_of_isBlank (isBlank_of_isNumeralBlank h) _ (by simp)

theorem leadingDecimal?_blanks (hb : ∀ b ∈ blanks, isNumeralBlank b = true)
    (hafter : ∀ b ∈ after, isNumeralBlank b = true) (h : IsDecimal ds) :
    leadingDecimal? (blanks ++ (ds ++ after)) = some (blanks ++ ds) ∧
      '_' ∉ blanks ++ (ds ++ after) := by
  have hblank : ∀ b, isNumeralBlank b = true → isBlank b = true := fun _ =>
    isBlank_of_isNumeralBlank
  refine ⟨leadingDecimal?_append (fun b hm => hblank b (hb b hm)) h fun b hm =>
    not_numeral_of_isBlank (hblank b (hafter b (List.mem_of_mem_head? hm))), fun hm => ?_⟩
  rcases List.mem_append.mp hm with hm | hm
  · exact ne_underscore_of_isNumeralBlank (hb _ hm) rfl
  · rcases List.mem_append.mp hm with hm | hm
    · exact (h.chars _ hm).ne_underscore rfl
    · exact ne_underscore_of_isNumeralBlank (hafter _ hm) rfl

theorem leadingDecimal?_underscore (hb : ∀ b ∈ blanks, isNumeralBlank b = true)
    (h : IsDecimal ds) (after : List Char) :
    leadingDecimal? (blanks ++ (ds ++ '_' :: after)) = some (blanks ++ ds) ∧
      (blanks ++ (ds ++ '_' :: after)).takeWhile (· != '_') = blanks ++ ds := by
  have hmark : ∀ c ∈ ('_' :: after).head?,
      isDigit c = false ∧ c ≠ '.' ∧ c ≠ 'e' ∧ c ≠ 'E' := by
    intro c hc
    cases hc
    decide
  refine ⟨leadingDecimal?_append (fun b hm => isBlank_of_isNumeralBlank (hb b hm)) h hmark, ?_⟩
  rw [← List.append_assoc, List.takeWhile_append_of_pos]
  · simp
  · intro c hc
    rw [bne_iff_ne]
    rcases List.mem_append.mp hc with hc | hc
    · exact ne_underscore_of_isNumeralBlank (hb c hc)
    · exact (h.chars c hc).ne_underscore

/-- What a decimal number as a whole begins with: a word, which counts for nothing, or a number
that reaches as far as the first underscore. -/
theorem leadingDecimal?_of_readDecimal? {value : Binary64} (h : readDecimal? cs = some value) :
    SpellsWord cs ∨ ∃ ds found, leadingDecimal? cs = some ds ∧ readDecimal? ds = some found ∧
      readDecimal? (cs.takeWhile (· != '_')) = some found ∧ ('_' ∉ cs → found = value) := by
  obtain ⟨body, hu, hread⟩ := Option.bind_eq_some_iff.mp h
  have hread : readUnsigned (takeSign body).1 (takeSign body).2 = some value := hread
  obtain ⟨sign, hs, hbody⟩ := takeSign_eq body
  obtain ⟨blanks, after, hcs, hb, hafter⟩ := trim_eq isNumeralBlank cs
  rcases readUnsigned_eq_some hread with hword | ⟨mantissa, exponent, hm, he, hrest⟩
  · refine Or.inl ?_
    rcases ungroup_eq_some hu with ⟨_, rfl⟩ | ⟨front, _, more, _, _, rfl, hend | ⟨_, hend⟩⟩
    · refine ⟨blanks, sign, _, after, ?_, ?_, hs, hword⟩
      · rw [← List.append_assoc sign, ← hbody]
        exact hcs
      · intro b hm
        exact (List.mem_append.mp hm).elim (hb b) (hafter b)
    · -- An underscore stands behind a digit, and there is no digit in a word.
      obtain ⟨p, ⟨c, hc, hdigit⟩, _, hp⟩ := hend.beyond hs.not_isDigit hbody
      have hmem : c ∈ (takeSign (front ++ more)).2 := by
        rw [hp]
        exact List.mem_append_left more (List.mem_of_mem_getLast? hc)
      rw [(plain_of_mem_word hword c hmem).2.1] at hdigit
      cases hdigit
    · cases hend
  · have hdecimal : IsDecimal body :=
      ⟨sign, mantissa, exponent, hs, hm, he, by rw [← hrest, ← hbody]⟩
    refine Or.inr ?_
    rcases ungroup_eq_some hu with ⟨_, rfl⟩ | ⟨front, tail, _, _, htrim, rfl, hend | ⟨_, hend⟩⟩
    · obtain ⟨hlead, hno⟩ := leadingDecimal?_blanks hb hafter hdecimal
      rw [← hcs] at hlead hno
      have htake : cs.takeWhile (· != '_') = cs :=
        List.takeWhile_eq_self_iff.mpr fun c hc => bne_iff_ne.mpr fun heq => hno (heq ▸ hc)
      exact ⟨_, value, hlead, (hdecimal.readDecimal?_eq hb).trans hread, htake.symm ▸ h,
        fun _ => rfl⟩
    · rw [htrim, List.append_assoc, List.cons_append] at hcs
      have hfront := isDecimal_of_append hend hdecimal
      obtain ⟨found, hfound⟩ := Option.isSome_iff_exists.mp (hfront.isSome_readDecimal? hb)
      obtain ⟨hlead, htake⟩ := leadingDecimal?_underscore hb hfront (tail ++ after)
      rw [← hcs] at hlead htake
      refine ⟨_, found, hlead, hfound, htake.symm ▸ hfound, fun hno => absurd ?_ hno⟩
      rw [hcs]
      simp
    · cases hend

end Numeral

open Numeral

theorem toFloat_text (s : String) : toFloat (.text s) = leadingDecimal s := rfl

theorem coerce_float_text {name : String} (hname : name ∈ ["float", "decimal"])
    (operator : Option Operator) (delimiter : Value) (s : String) :
    coerce (FieldType.ofValue? (.text name)) operator delimiter (.text s) =
      (toFloat (.text s)).map .float := by
  have htype : FieldType.parse? name = some .float := by
    rw [FieldType.parse?, Text.lower_eq]
    simp only [List.mem_cons, List.not_mem_nil, or_false] at hname
    rcases hname with rfl | rfl <;> rfl
  rw [show FieldType.ofValue? (.text name) = some .float from htype]
  rfl

/-- A text that is a decimal number as a whole is read as far as its first underscore, and is read
as zero if it spells infinity or the value that is no number. -/
theorem toFloat_of_readDecimal? {s : String} {value : Binary64}
    (h : readDecimal? s.toList = some value) (operator : Option Operator) (delimiter : Value) :
    ∃ found, toFloat (.text s) = .ok found ∧
      (∀ name ∈ ["float", "decimal"], coerce (FieldType.ofValue? (.text name)) operator delimiter
        (.text s) = .ok (.float found)) ∧
      (SpellsWord s.toList → found = .zero false) ∧
      (¬ SpellsWord s.toList →
        readDecimal? (s.toList.takeWhile (· != '_')) = some found ∧
          ('_' ∉ s.toList → found = value)) := by
  have hfound : ∀ found, toFloat (.text s) = .ok found → ∀ name ∈ ["float", "decimal"],
      coerce (FieldType.ofValue? (.text name)) operator delimiter (.text s) =
        .ok (.float found) := fun found hf name hname => by
    rw [coerce_float_text hname, hf]
    rfl
  by_cases hw : SpellsWord s.toList
  · have hzero : toFloat (.text s) = .ok (.zero false) := by
      rw [toFloat_text, leadingDecimal, hw.leadingDecimal?_eq_none]
    exact ⟨_, hzero, hfound _ hzero, fun _ => rfl, fun hno => absurd hw hno⟩
  · obtain ⟨ds, found, hlead, hread, htake, hsame⟩ :=
      (leadingDecimal?_of_readDecimal? h).resolve_left hw
    have hok : toFloat (.text s) = .ok found := by
      rw [toFloat_text, leadingDecimal, hlead]
      simp only [hread]
    exact ⟨found, hok, hfound found hok, fun hword => absurd hword hw, fun _ => ⟨htake, hsame⟩⟩

def thousand : Binary64 :=
  .ofDecimal false 1000 0

theorem readDecimal?_thousand : readDecimal? "1_000".toList = some thousand := by
  decide +kernel

theorem leadingDecimal?_thousand : leadingDecimal? "1_000".toList = some ['1'] := rfl

theorem toFloat_thousand : readDecimal? "1_000".toList = some thousand ∧
    ∃ found, toFloat (.text "1_000") = .ok found ∧ readDecimal? "1".toList = some found := by
  have hword : ¬ SpellsWord "1_000".toList := fun h => by
    have hnone := h.leadingDecimal?_eq_none
    rw [leadingDecimal?_thousand] at hnone
    cases hnone
  obtain ⟨found, hfound, _, _, hread⟩ :=
    toFloat_of_readDecimal? readDecimal?_thousand none (.text ",")
  exact ⟨readDecimal?_thousand, found, hfound, (hread hword).1⟩

/-- A thousand with its digits grouped counts for one, and infinity for nothing. -/
theorem thousand_uncoerced : readDecimal? "1_000".toList = some thousand ∧
    coerce (some .float) none (.text ",") (.text "1_000") = .ok (.float .one) ∧
    readDecimal? "inf".toList = some (.infinity false) ∧
    coerce (some .float) none (.text ",") (.text "inf") = .ok (.float (.zero false)) := by
  refine ⟨readDecimal?_thousand, ?_, ?_, ?_⟩
  · have hone : readDecimal? ['1'] = some .one := by decide +kernel
    have hfloat : toFloat (.text "1_000") = .ok .one := by
      rw [toFloat_text, leadingDecimal, leadingDecimal?_thousand]
      simp only [hone]
    show (toFloat (.text "1_000")).map Value.float = _
    rw [hfloat]
    rfl
  · rfl
  · rfl

end QueryFilter
