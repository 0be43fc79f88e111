import QueryFilter.Coercion
import QueryFilter.Proofs.Pieces

/-! Arrays written as delimited texts. The pieces of a text joined with the delimiter are the text,
and texts joined with a character that none of them holds are the pieces of what they join to. -/

namespace QueryFilter

namespace Text

/-- The delimiter that stands for the given one: a comma for an empty one. -/
def delimiterOf (delimiter : String) : String :=
  if delimiter = "" then "," else delimiter

theorem delimiterOf_ne_nil (delimiter : String) : (delimiterOf delimiter).toList ≠ [] := by
  by_cases h : delimiter = ""
  · simp [delimiterOf, h]
  · simp [delimiterOf, h]

theorem splitDelimited_eq {s : String} (hs : s ≠ "") (delimiter : String) :
    splitDelimited s delimiter =
      (cutAt (delimiterOf delimiter).toList 0 s.toList).map String.ofList := by
  by_cases h : delimiter = ""
  · simp [splitDelimited, delimiterOf, pieces, hs, h]
  · simp [splitDelimited, delimiterOf, pieces, hs, h]

theorem splitDelimited_eq_iff {s : String} {ps : List String} (hs : s ≠ "") (delimiter : String) :
    splitDelimited s delimiter = ps ↔
      Cut (delimiterOf delimiter).toList s.toList (ps.map String.toList) := by
  rw [splitDelimited_eq hs, ofList_cutAt_eq_iff (delimiterOf_ne_nil delimiter)]

theorem toList_delimiterOf_singleton (c : Char) :
    (delimiterOf (String.singleton c)).toList = [c] := by
  have hne : String.singleton c ≠ "" := by
    rw [Ne, ← String.toList_inj]
    simp
  simp [delimiterOf, hne]

theorem splitDelimited_intercalate {c : Char} {ps : List String} (hne : ps ≠ [])
    (hempty : ps ≠ [""]) (h : ∀ p ∈ ps, c ∉ p.toList) :
    splitDelimited ((String.singleton c).intercalate ps) (String.singleton c) = ps := by
  have hcut := cut_joined hne h
  have hjoined : ((String.singleton c).intercalate ps).toList =
      [c].intercalate (ps.map String.toList) := by
    rw [String.toList_intercalate, String.toList_singleton]
  refine (splitDelimited_eq_iff (fun hs => hempty ?_) _).mpr ?_
  · -- The empty text has one piece, the empty one.
    rw [← hjoined, hs] at hcut
    have hpieces : ps.map String.toList = [""].map String.toList :=
      ((cutAt_eq_iff (List.cons_ne_nil c [])).mpr hcut).symm
    exact (List.map_inj_right fun _ _ => String.toList_injective).mp hpieces
  · rw [toList_delimiterOf_singleton, hjoined]
    exact hcut

end Text

open Text

theorem toArray_text (delimiter s : String) : toArray (.text delimiter) (.text s) =
    .ok ((splitDelimited s delimiter).map .text) := by
  have hsplit : splitText (.text delimiter) s = .ok (splitDelimited s delimiter) := by
    by_cases hs : s = ""
    · simp [splitText, splitDelimited, hs]
    · by_cases hd : delimiter = ""
      · simp [splitText, Value.isTrue, hs, hd]
      · simp [splitText, Value.isTrue, Value.asText?, hs, hd]
  simp only [toArray, Value.members?, Value.asText?, hsplit]
  rfl

/-- Cutting a text into an array loses nothing. The pieces of a text hold no delimiter, and joined
with it they are the text. Texts joined with a character that none of them holds are cut apart
again, the empty text alone excepted. -/
theorem splitDelimited_lossless (delimiter : String) :
    (∀ s, s ≠ "" → (∀ p ∈ splitDelimited s delimiter,
        ¬ (delimiterOf delimiter).toList <:+: p.toList) ∧
      (delimiterOf delimiter).intercalate (splitDelimited s delimiter) = s) ∧
    (∀ s, toArray (.text delimiter) (.text s) =
      .ok ((splitDelimited s delimiter).map .text)) ∧
    ∀ c ps, delimiter = String.singleton c → ps ≠ [] → ps ≠ [""] → (∀ p ∈ ps, c ∉ p.toList) →
      splitDelimited (delimiter.intercalate ps) delimiter = ps := by
  refine ⟨fun s hs => ?_, toArray_text delimiter, ?_⟩
  · have hcut := (splitDelimited_eq_iff hs delimiter).mp rfl
    constructor
    · intro p hp
      exact hcut.not_infix (delimiterOf_ne_nil delimiter) _ (List.mem_map_of_mem hp)
    · rw [← String.toList_inj, String.toList_intercalate, hcut.intercalate]
  · rintro c ps rfl hne hempty hps
    exact splitDelimited_intercalate hne hempty hps

/-- A delimiter that overlaps itself, and empty pieces at both ends and in the middle. -/
theorem splitDelimited_overlapping :
    (∀ p ∈ splitDelimited "baaab" "aa", ¬ "aa".toList <:+: p.toList) ∧
      "aa".intercalate (splitDelimited "baaab" "aa") = "baaab" ∧
      splitDelimited (",".intercalate ["", "x", "", "y", ""]) "," = ["", "x", "", "y", ""] := by
  obtain ⟨hpieces, hjoined⟩ := (splitDelimited_lossless "aa").1 "baaab" (by decide)
  refine ⟨hpieces, hjoined, ?_⟩
  exact (splitDelimited_lossless ",").2.2 ',' _ rfl (by simp) (by simp) (by decide)

end QueryFilter
