import Mathlib.Data.List.Infix
import QueryFilter.Text.Split

/-! The pieces of a text between separators. Cutting and joining undo each other: the pieces joined
are the text, and pieces behind which the separator comes first are the pieces of what they join
to. -/

namespace QueryFilter

namespace Text

variable {α : Type} {separator cs p : List α} {ps : List (List α)} {c : α}

/-- A separator behind the piece is the first one in the two together. -/
def Precedes (separator p : List α) : Prop :=
  ∀ front, front ++ separator <+: p ++ separator → front = p

theorem Precedes.nil : Precedes separator [] := by
  intro front h
  have hlen := h.length_le
  simp only [List.length_append, List.nil_append] at hlen
  exact List.length_eq_zero_iff.mp (by omega)

theorem Precedes.cons (h : Precedes separator p) (hc : ¬ separator <+: c :: (p ++ separator)) :
    Precedes separator (c :: p) := by
  intro front hfront
  cases front with
  | nil => exact absurd hfront hc
  | cons d front =>
    rw [List.cons_append, List.cons_append, List.cons_prefix_cons] at hfront
    obtain ⟨rfl, hfront⟩ := hfront
    rw [h front hfront]

theorem Precedes.tail (h : Precedes separator (c :: p)) : Precedes separator p := by
  intro front hfront
  have hh := h (c :: front) (List.cons_prefix_cons.mpr ⟨rfl, hfront⟩)
  exact (List.cons.inj hh).2

theorem Precedes.not_begins (h : Precedes separator (c :: p)) (rest : List α) :
    ¬ separator <+: c :: (p ++ (separator ++ rest)) := by
  intro hbegins
  have hwhole : c :: p ++ separator <+: c :: (p ++ (separator ++ rest)) := ⟨rest, by simp⟩
  have hle : separator.length ≤ (c :: p ++ separator).length := by
    rw [List.length_append]
    omega
  have hnil := h [] (List.prefix_of_prefix_length_le hbegins hwhole hle)
  cases hnil

theorem Precedes.not_infix (h : Precedes separator p) (hne : separator ≠ []) :
    ¬ separator <:+: p := by
  rintro ⟨front, back, rfl⟩
  have hh := congrArg List.length (h front ⟨back ++ separator, by simp⟩)
  have hlen := List.length_pos_iff.mpr hne
  simp only [List.length_append] at hh
  omega

theorem precedes_singleton (h : c ∉ p) : Precedes [c] p := by
  induction p with
  | nil => exact Precedes.nil
  | cons d p ih =>
    rw [List.mem_cons, not_or] at h
    refine (ih h.2).cons fun hbegins => ?_
    exact h.1 (List.cons_prefix_cons.mp hbegins).1

/-- The pieces of a text: each but the last ends at the first separator, and the last holds none. -/
inductive Cut (separator : List α) : List α → List (List α) → Prop where
  | last {p : List α} (h : ¬ separator <:+: p) : Cut separator p [p]
  | next {p cs : List α} {ps : List (List α)} (h : Precedes separator p)
      (rest : Cut separator cs ps) : Cut separator (p ++ (separator ++ cs)) (p :: ps)

theorem Cut.cons (h : Cut separator cs ps) (hc : ¬ separator <+: c :: cs) :
    Cut separator (c :: cs) (consFirst c ps) := by
  cases h with
  | last hp => exact .last fun hinfix => (List.infix_cons_iff.mp hinfix).elim hc hp
  | @next p cs ps hp hrest =>
    refine .next (hp.cons fun hbegins => hc (hbegins.trans ?_)) hrest
    exact ⟨cs, by simp⟩

theorem Cut.not_infix (h : Cut separator cs ps) (hne : separator ≠ []) :
    ∀ p ∈ ps, ¬ separator <:+: p := by
  induction h with
  | last hp => simpa using hp
  | next hp _ ih => exact List.forall_mem_cons.mpr ⟨hp.not_infix hne, ih⟩

theorem Cut.not_mem (h : Cut [c] cs ps) (hp : p ∈ ps) : c ∉ p := by
  have hh := h.not_infix (List.cons_ne_nil c []) p hp
  rwa [List.singleton_infix_iff] at hh

theorem Cut.intercalate (h : Cut separator cs ps) : separator.intercalate ps = cs := by
  induction h with
  | last => simp
  | @next p cs ps hp hrest ih =>
    cases hrest with
    | last => simp
    | next => simp [← ih]

/-- Pieces behind which the separator comes first are cut apart again when they are joined. -/
theorem cut_intercalate (hne : separator ≠ []) (hps : ps ≠ [])
    (h : ∀ p ∈ ps, Precedes separator p) : Cut separator (separator.intercalate ps) ps := by
  induction ps with
  | nil => exact absurd rfl hps
  | cons p ps ih =>
    obtain ⟨hp, hrest⟩ := List.forall_mem_cons.mp h
    cases ps with
    | nil => simpa using Cut.last (hp.not_infix hne)
    | cons p' ps =>
      have hh := Cut.next hp (ih (List.cons_ne_nil p' ps) hrest)
      simpa using hh

section Cutting

variable [BEq α]

theorem cutAt_drop (skip : Nat) (cs : List α) :
    cutAt separator skip cs = cutAt separator 0 (cs.drop skip) := by
  induction cs generalizing skip with
  | nil => cases skip <;> rfl
  | cons c cs ih =>
    cases skip with
    | zero => rfl
    | succ skip => rw [cutAt, ih, List.drop_succ_cons]

variable [LawfulBEq α]

theorem cutAt_separator (hne : separator ≠ []) (cs : List α) :
    cutAt separator 0 (separator ++ cs) = [] :: cutAt separator 0 cs := by
  obtain ⟨c, rest, rfl⟩ := List.exists_cons_of_ne_nil hne
  have hbegins : (c :: rest).isPrefixOf (c :: (rest ++ cs)) = true :=
    List.isPrefixOf_iff_prefix.mpr (List.prefix_append (c :: rest) cs)
  rw [List.cons_append, cutAt, if_pos hbegins, cutAt_drop]
  simp

theorem cutAt_cons (h : ¬ separator <+: c :: cs) :
    cutAt separator 0 (c :: cs) = consFirst c (cutAt separator 0 cs) := by
  rw [cutAt, if_neg fun hbegins => h (List.isPrefixOf_iff_prefix.mp hbegins)]

theorem cutAt_of_not_infix (h : ¬ separator <:+: p) : cutAt separator 0 p = [p] := by
  induction p with
  | nil => rfl
  | cons c p ih =>
    rw [List.infix_cons_iff, not_or] at h
    rw [cutAt_cons h.1, ih h.2]
    rfl

theorem cutAt_append (h : Precedes separator p) (hne : separator ≠ []) (cs : List α) :
    cutAt separator 0 (p ++ (separator ++ cs)) = p :: cutAt separator 0 cs := by
  induction p with
  | nil => exact cutAt_separator hne cs
  | cons c p ih =>
    rw [List.cons_append, cutAt_cons (h.not_begins cs), ih h.tail]
    rfl

theorem cut_cutAt (hne : separator ≠ []) (skip : Nat) (cs : List α) :
    Cut separator (cs.drop skip) (cutAt separator skip cs) := by
  fun_induction cutAt separator skip cs with
  | case1 skip =>
    rw [List.drop_nil]
    exact .last (by simp [hne])
  | case2 skip c cs ih => exact ih
  | case3 c cs h ih =>
    obtain ⟨rest, hrest⟩ := List.isPrefixOf_iff_prefix.mp h
    have hlen := List.length_pos_iff.mpr hne
    -- What is passed over is what is left of the separator.
    have hdrop : (separator ++ rest).drop (separator.length - 1 + 1) = rest := by
      rw [Nat.sub_add_cancel hlen, List.drop_left]
    rw [hrest, List.drop_succ_cons] at hdrop
    rw [hdrop] at ih
    rw [List.drop_zero, ← hrest]
    exact .next .nil ih
  | case4 c cs h ih => exact ih.cons fun hbegins => h (List.isPrefixOf_iff_prefix.mpr hbegins)

theorem cutAt_of_cut (hne : separator ≠ []) (h : Cut separator cs ps) :
    cutAt separator 0 cs = ps := by
  induction h with
  | last hp => exact cutAt_of_not_infix hp
  | next hp _ ih => rw [cutAt_append hp hne, ih]

theorem cutAt_eq_iff (hne : separator ≠ []) :
    cutAt separator 0 cs = ps ↔ Cut separator cs ps := by
  refine ⟨?_, cutAt_of_cut hne⟩
  rintro rfl
  exact cut_cutAt hne 0 cs

end Cutting

/-- The pieces as texts. -/
theorem ofList_cutAt_eq_iff {separator cs : List Char} {ps : List String} (hne : separator ≠ []) :
    (cutAt separator 0 cs).map String.ofList = ps ↔ Cut separator cs (ps.map String.toList) := by
  rw [← cutAt_eq_iff hne]
  constructor
  · rintro rfl
    simp
  · intro h
    rw [h]
    simp

theorem cut_joined {c : Char} {ps : List String} (hne : ps ≠ []) (h : ∀ p ∈ ps, c ∉ p.toList) :
    Cut [c] ([c].intercalate (ps.map String.toList)) (ps.map String.toList) := by
  refine cut_intercalate (List.cons_ne_nil c []) (by simpa using hne) fun p hp => ?_
  obtain ⟨t, ht, rfl⟩ := List.mem_map.mp hp
  exact precedes_singleton (h t ht)

end Text

end QueryFilter
