import QueryFilter.Proofs.Pieces
import QueryFilter.Traversal

/-! Paths and their parts. A path and the list of its parts determine each other, where no part
holds a dot. -/

namespace QueryFilter

open Text

def IsPart (part : String) : Prop :=
  '.' ∉ part.toList

instance (part : String) : Decidable (IsPart part) :=
  inferInstanceAs (Decidable (¬ _))

theorem pathParts_eq_iff (path : String) {parts : List String} :
    pathParts path = parts ↔ Cut ['.'] path.toList (parts.map String.toList) := by
  rw [← ofList_cutAt_eq_iff (List.cons_ne_nil '.' [])]
  rfl

theorem toList_joinParts (parts : List String) :
    (joinParts parts).toList = ['.'].intercalate (parts.map String.toList) := by
  rw [joinParts, String.toList_intercalate]
  rfl

theorem pathParts_joinParts {parts : List String} (hne : parts ≠ [])
    (hp : ∀ p ∈ parts, IsPart p) : pathParts (joinParts parts) = parts := by
  rw [pathParts_eq_iff, toList_joinParts]
  exact cut_joined hne hp

theorem joinParts_pathParts (path : String) : joinParts (pathParts path) = path := by
  have hcut := (pathParts_eq_iff path).mp rfl
  rw [← String.toList_inj, toList_joinParts, hcut.intercalate]

theorem isPart_of_mem_pathParts {path p : String} (h : p ∈ pathParts path) : IsPart p := by
  have hcut := (pathParts_eq_iff path).mp rfl
  exact hcut.not_mem (List.mem_map_of_mem h)

theorem cutFirstDot_append {cs : List Char} (h : '.' ∉ cs) (rest : List Char) :
    cutFirstDot (cs ++ '.' :: rest) = (cs, rest) := by
  induction cs with
  | nil => simp [cutFirstDot]
  | cons c cs ih =>
    simp only [List.mem_cons, not_or] at h
    simp [cutFirstDot, Ne.symm h.1, ih h.2]

theorem joinParts_cons_cons (p p' : String) (ps : List String) :
    joinParts (p :: p' :: ps) = p ++ "." ++ joinParts (p' :: ps) :=
  String.intercalate_cons_cons

theorem headRest_joinParts_cons {p : String} (hp : IsPart p) (p' : String) (ps : List String) :
    headRest (joinParts (p :: p' :: ps)) = (p, joinParts (p' :: ps)) := by
  have h : (joinParts (p :: p' :: ps)).toList =
      p.toList ++ '.' :: (joinParts (p' :: ps)).toList := by
    simp [joinParts_cons_cons]
  simp [headRest, h, cutFirstDot_append hp]

theorem headRest_joinParts {p : String} (hp : IsPart p) (ps : List String) :
    (headRest (joinParts (p :: ps))).1 = p := by
  cases ps with
  | nil =>
    have h := cutFirstDot_eq_self hp
    simp [headRest, joinParts, h]
  | cons p' ps => rw [headRest_joinParts_cons hp]

theorem joinParts_eq_empty_iff {p : String} {ps : List String} (hp : ∀ p' ∈ p :: ps, IsPart p') :
    joinParts (p :: ps) = "" ↔ p :: ps = [""] := by
  constructor
  · intro h
    rw [← pathParts_joinParts (List.cons_ne_nil p ps) hp, h]
    rfl
  · intro h
    rw [h]
    rfl

theorem allows_joinParts {r : RelationDescriptor} {p : String} (hp : IsPart p)
    (ps : List String) :
    r.allows (joinParts (p :: ps)) = true ↔ r.allowed = [] ∨ p ∈ r.allowed := by
  simp [RelationDescriptor.allows, headRest_joinParts hp]

theorem hasDot_joinParts (p p' : String) (ps : List String) :
    hasDot (joinParts (p :: p' :: ps)) = true := by
  simp [hasDot, joinParts_cons_cons]

/-- A path with a dot has a relation in front of its rest. -/
theorem pathParts_of_hasDot {path : String} (h : hasDot path = true) :
    ∃ p p' ps, pathParts path = p :: p' :: ps := by
  have hj := joinParts_pathParts path
  cases hp : pathParts path with
  | nil =>
    rw [hp] at hj
    simp [← hj, joinParts, hasDot] at h
  | cons p ps =>
    cases ps with
    | nil =>
      have hpart : IsPart p := isPart_of_mem_pathParts (hp ▸ List.mem_cons_self)
      have he : p = path := by simpa [hp, joinParts] using hj
      subst he
      exact absurd (List.contains_iff_mem.mp h) hpart
    | cons p' ps => exact ⟨p, p', ps, rfl⟩

theorem pathParts_eq_append {path : String} (h : hasDot path = true) :
    ∃ name names column, pathParts path = name :: (names ++ [column]) ∧
      ∀ p ∈ names ++ [column], IsPart p := by
  obtain ⟨name, p, ps, hparts⟩ := pathParts_of_hasDot h
  have hlast := List.dropLast_concat_getLast (List.cons_ne_nil p ps)
  refine ⟨name, (p :: ps).dropLast, _, by rw [hlast, hparts], fun p' hp' => ?_⟩
  rw [hlast] at hp'
  exact isPart_of_mem_pathParts (hparts ▸ List.mem_cons_of_mem _ hp')

end QueryFilter
