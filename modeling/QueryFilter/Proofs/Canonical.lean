import QueryFilter.Coercion
import QueryFilter.Proofs.Outcome

/-! What coercion makes of values. It makes values of the type, and leaves those as they are, so
coercing a value once more changes nothing. -/

namespace QueryFilter

variable {type : Option FieldType} {t : FieldType} {operator : Option Operator}
  {delimiter v w : Value}

namespace FieldType

/-- The types whose values are read one by one, also within a sequence. -/
def scalars : List FieldType :=
  [.integer, .float, .boolean]

def single : FieldType → Value → Except Fault Value
  | .integer, v => (toInteger v).map .int
  | .float, v => (toFloat v).map .float
  | .boolean, v => .ok (.bool (toBoolean v))
  | .string, v | .date, v | .array, v => .ok v

/-- Single values of a type. Texts and days are not told from other values. -/
def Holds : FieldType → Value → Prop
  | .integer, v => ∃ n, v = .int n
  | .float, v => ∃ x, v = .float x
  | .boolean, v => ∃ b, v = .bool b
  | .array, v => ∃ vs, v = .list vs
  | .string, _ | .date, _ => True

/-- Values of a type, alone or in a list. -/
inductive Canonical (t : FieldType) : Value → Prop
  | single {v : Value} (h : t.Holds v) : Canonical t v
  | several {vs : List Value} (h : ∀ v ∈ vs, t.Holds v) : Canonical t (.list vs)

/-- A value of a type for a value that stands alone, and as many of them for a sequence. -/
inductive Fits (t : FieldType) : Value → Value → Prop
  | single {v w : Value} (hv : v.isSequence = false) (hw : t.Holds w) : Fits t v w
  | several {v : Value} {vs ws : List Value} (hv : v.members? = some vs)
    (hl : ws.length = vs.length) (hw : ∀ w ∈ ws, t.Holds w) : Fits t v (.list ws)

theorem Fits.canonical (h : t.Fits v w) : t.Canonical w := by
  cases h with
  | single _ hw => exact .single hw
  | several _ _ hw => exact .several hw

theorem holds_of_single (ht : t ∈ scalars) (h : t.single v = .ok w) : t.Holds w := by
  simp only [scalars, List.mem_cons, List.not_mem_nil, or_false] at ht
  rcases ht with rfl | rfl | rfl
  · obtain ⟨n, _, rfl⟩ := Outcome.map_eq_ok.mp h
    exact ⟨n, rfl⟩
  · obtain ⟨x, _, rfl⟩ := Outcome.map_eq_ok.mp h
    exact ⟨x, rfl⟩
  · cases h
    exact ⟨_, rfl⟩

theorem single_of_holds (ht : t ∈ scalars) (h : t.Holds v) :
    v.members? = none ∧ t.single v = .ok v := by
  simp only [scalars, List.mem_cons, List.not_mem_nil, or_false] at ht
  rcases ht with rfl | rfl | rfl
  · obtain ⟨n, rfl⟩ := h
    exact ⟨rfl, rfl⟩
  · obtain ⟨x, rfl⟩ := h
    exact ⟨rfl, rfl⟩
  · obtain ⟨b, rfl⟩ := h
    exact ⟨rfl, rfl⟩

theorem Canonical.isBlank (ht : t ∈ scalars) (h : t.Canonical v) : v.isBlank = false := by
  cases h with
  | single h =>
    simp only [scalars, List.mem_cons, List.not_mem_nil, or_false] at ht
    rcases ht with rfl | rfl | rfl <;> obtain ⟨_, rfl⟩ := h <;> rfl
  | several _ => rfl

theorem coerce_scalar (ht : t ∈ scalars) (operator : Option Operator) (delimiter v : Value) :
    coerce (some t) operator delimiter v = coerceEach t.single v := by
  simp only [scalars, List.mem_cons, List.not_mem_nil, or_false] at ht
  rcases ht with rfl | rfl | rfl <;> rfl

end FieldType

theorem coerceEach_eq_ok {f : Value → Except Fault Value} (h : coerceEach f v = .ok w) :
    v.members? = none ∧ f v = .ok w ∨
      ∃ vs ws, v.members? = some vs ∧ vs.mapM f = .ok ws ∧ w = .list ws := by
  unfold coerceEach at h
  cases hv : v.members? with
  | none =>
    rw [hv] at h
    exact Or.inl ⟨rfl, h⟩
  | some vs =>
    rw [hv] at h
    obtain ⟨ws, hws, rfl⟩ := Outcome.map_eq_ok.mp h
    exact Or.inr ⟨vs, ws, rfl, hws, rfl⟩

theorem fits_of_coerce (ht : t ∈ FieldType.scalars)
    (h : coerce (some t) operator delimiter v = .ok w) : t.Fits v w := by
  rw [FieldType.coerce_scalar ht] at h
  rcases coerceEach_eq_ok h with ⟨hv, hw⟩ | ⟨vs, ws, hv, hws, rfl⟩
  · exact .single (by rw [v.isSequence_eq_isSome, hv]; rfl) (FieldType.holds_of_single ht hw)
  · refine .several hv (Outcome.mapM_eq_ok.mp hws).length_eq.symm fun w hw => ?_
    obtain ⟨v, _, hv⟩ := Outcome.mem_of_mapM hws hw
    exact FieldType.holds_of_single ht hv

theorem coerceEach_of_canonical (ht : t ∈ FieldType.scalars) (h : t.Canonical v) :
    coerceEach t.single v = .ok v := by
  cases h with
  | single h =>
    obtain ⟨hv, hs⟩ := FieldType.single_of_holds ht h
    simp only [coerceEach, hv, hs]
  | several h =>
    rename_i vs
    have hmap : vs.mapM t.single = .ok vs :=
      Outcome.mapM_eq_ok.mpr (List.forall₂_same.mpr fun v hv =>
        (FieldType.single_of_holds ht (h v hv)).2)
    simp only [coerceEach, Value.members?, hmap, Except.map]

theorem canonical_array (h : FieldType.array.Canonical v) : ∃ vs, v = .list vs := by
  cases h with
  | single h => exact h
  | several _ => exact ⟨_, rfl⟩

theorem canonical_of_coerce (h : coerce (some t) operator delimiter v = .ok w) :
    t.Canonical w := by
  by_cases ht : t ∈ FieldType.scalars
  · exact (fits_of_coerce ht h).canonical
  · cases t with
    | string | date => exact .single trivial
    | array =>
      obtain ⟨vs, _, rfl⟩ := Outcome.map_eq_ok.mp h
      exact .single ⟨vs, rfl⟩
    | integer | float | boolean => exact absurd (by decide) ht

/-- The values of a type are those that coercion leaves as they are. -/
theorem coerce_eq_self_iff (t : FieldType) (delimiter v : Value) :
    coerce (some t) none delimiter v = .ok v ↔ t.Canonical v := by
  refine ⟨canonical_of_coerce, fun h => ?_⟩
  by_cases ht : t ∈ FieldType.scalars
  · rw [FieldType.coerce_scalar ht, coerceEach_of_canonical ht h]
  · cases t with
    | string | date => rfl
    | array =>
      obtain ⟨vs, rfl⟩ := canonical_array h
      rfl
    | integer | float | boolean => exact absurd (by decide) ht

theorem coerce_operator (ht : t ≠ .string) (operator : Option Operator) (delimiter v : Value) :
    coerce (some t) operator delimiter v = coerce (some t) none delimiter v := by
  cases t with
  | string => exact absurd rfl ht
  | _ => rfl

theorem coerce_string (delimiter v : Value) : coerce (some .string) none delimiter v = .ok v := by
  simp [coerce]

/-- Coercing without an operator leaves open what coercing with one does. -/
theorem coerce_twice (type : Option FieldType) (operator : Option Operator) (delimiter v : Value) :
    (coerce type none delimiter v >>= coerce type operator delimiter) =
      coerce type operator delimiter v := by
  cases type with
  | none => rfl
  | some t =>
    by_cases hs : t = .string
    · subst hs
      rw [coerce_string]
      rfl
    · cases h : coerce (some t) none delimiter v with
      | error e =>
        rw [coerce_operator hs, h]
        rfl
      | ok w =>
        have hw := (coerce_eq_self_iff t delimiter w).mpr (canonical_of_coerce h)
        show coerce (some t) operator delimiter w = _
        rw [coerce_operator hs operator delimiter w, hw, coerce_operator hs, h]

/-- Coercion does not make a value absent. -/
theorem isBlank_coerce (h : coerce type operator delimiter v = .ok w) (hv : v.isBlank = false) :
    w.isBlank = false := by
  cases type with
  | none =>
    cases h
    exact hv
  | some t =>
    by_cases ht : t ∈ FieldType.scalars
    · exact (fits_of_coerce ht h).canonical.isBlank ht
    · cases t with
      | string =>
        by_cases hl : operator = some .like ∧ ¬ v.isSequence = true
        · simp only [coerce, if_pos hl] at h
          obtain ⟨s, _, rfl⟩ := Outcome.map_eq_ok.mp h
          simp [Value.isBlank_text]
        · simp only [coerce, if_neg hl] at h
          cases h
          exact hv
      | array =>
        obtain ⟨vs, _, rfl⟩ := Outcome.map_eq_ok.mp h
        rfl
      | date =>
        cases h
        exact hv
      | integer | float | boolean => exact absurd (by decide) ht

/-- What coercion gives is of the type, member by member where a sequence is given, and coercion
leaves it as it is. To coerce without an operator first makes no difference. -/
theorem coerce_canonical (h : coerce type operator delimiter v = .ok w) :
    (∀ t ∈ FieldType.scalars, type = some t → t.Fits v w) ∧
      (type = some .array → ∃ ws, w = .list ws) ∧
      coerce type none delimiter w = .ok w ∧
      (coerce type none delimiter v >>= coerce type operator delimiter) = .ok w := by
  refine ⟨fun t ht htype => ?_, fun htype => ?_, ?_, (coerce_twice ..).trans h⟩
  · subst htype
    exact fits_of_coerce ht h
  · subst htype
    exact canonical_array (canonical_of_coerce h)
  · cases type with
    | none => rfl
    | some t => exact (coerce_eq_self_iff t delimiter w).mpr (canonical_of_coerce h)

def mixedAmounts : Value :=
  .tuple [.text " 25 kg", .bool true, .null, .float (.ofDecimal true 25 (-1))]

theorem coerce_mixedAmounts :
    FieldType.integer.Fits mixedAmounts (.list [.int 25, .int 1, .int 0, .int (-2)]) ∧
      coerce (some .integer) none (.text ",") (.list [.int 25, .int 1, .int 0, .int (-2)]) =
        .ok (.list [.int 25, .int 1, .int 0, .int (-2)]) := by
  have h : coerce (some .integer) (some .within) (.text ",") mixedAmounts =
      .ok (.list [.int 25, .int 1, .int 0, .int (-2)]) := by rfl
  obtain ⟨hfits, _, hagain, _⟩ := coerce_canonical h
  exact ⟨hfits .integer (by decide) rfl, hagain⟩

end QueryFilter
