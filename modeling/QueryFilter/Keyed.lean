/-! Lists of entries by name, in the order in which the names first came. -/

namespace QueryFilter

abbrev Keyed (α : Type) := List (String × α)

namespace Keyed

variable {α β : Type}

def get? (m : Keyed α) (key : String) : Option α :=
  m.lookup key

def has (m : Keyed α) (key : String) : Bool :=
  m.any (·.1 == key)

def keys (m : Keyed α) : List String :=
  m.map Prod.fst

/-- Adds an entry; an entry of the same name is replaced where it stands. -/
def put (m : Keyed α) (key : String) (a : α) : Keyed α :=
  if has m key then m.map fun e => if e.1 == key then (key, a) else e else m ++ [(key, a)]

def ofList (es : List (String × α)) : Keyed α :=
  es.foldl (fun m e => put m e.1 e.2) []

theorem get?_put_self (m : Keyed α) (key : String) (a : α) : get? (put m key a) key = some a := by
  unfold put get?
  split
  · rename_i h
    induction m with
    | nil => simp [has] at h
    | cons e m ih =>
      obtain ⟨k, v⟩ := e
      by_cases he : k = key
      · simp [he]
      · have hm : has m key = true := by simpa [has, he] using h
        have hk : (key == k) = false := by simpa using Ne.symm he
        simpa [List.lookup_cons, he, hk] using ih hm
  · rename_i h
    induction m with
    | nil => simp
    | cons e m ih =>
      obtain ⟨k, v⟩ := e
      simp only [has, List.any_cons, Bool.or_eq_true, not_or, beq_iff_eq] at h
      have hk : (key == k) = false := by simpa using Ne.symm h.1
      simpa [List.lookup_cons, hk] using ih h.2

theorem get?_put_of_ne (m : Keyed α) {key other : String} (a : α) (h : other ≠ key) :
    get? (put m key a) other = get? m other := by
  have ho : (other == key) = false := by simpa using h
  have hmap : (m.map fun e => if e.1 == key then (key, a) else e).lookup other =
      m.lookup other := by
    induction m with
    | nil => rfl
    | cons e m ih =>
      obtain ⟨k, v⟩ := e
      by_cases he : k = key
      · subst he
        simpa [List.lookup_cons, ho] using ih
      · cases hk : other == k with
        | true => simp [List.lookup_cons, he, hk]
        | false => simpa [List.lookup_cons, he, hk] using ih
  unfold put get?
  split
  · exact hmap
  · rw [List.lookup_append]
    simp [List.lookup_cons, ho]

theorem has_eq_isSome (m : Keyed α) (key : String) : has m key = (get? m key).isSome := by
  induction m with
  | nil => rfl
  | cons e m ih =>
    obtain ⟨k, v⟩ := e
    by_cases he : k = key
    · simp [has, get?, he]
    · have hk : (key == k) = false := by simpa using Ne.symm he
      have hk' : (k == key) = false := by simpa using he
      simpa [has, get?, List.lookup_cons, hk, hk'] using ih

theorem mem_of_get? {m : Keyed α} {key : String} {a : α} (h : m.get? key = some a) :
    (key, a) ∈ m := by
  induction m with
  | nil => cases h
  | cons e m ih =>
    obtain ⟨k, v⟩ := e
    by_cases hk : key = k
    · subst k
      simp only [get?, List.lookup_cons_self, Option.some.injEq] at h
      rw [h]
      exact List.mem_cons_self
    · have hb : (key == k) = false := by simpa using hk
      simp only [get?, List.lookup_cons, hb] at h
      exact List.mem_cons_of_mem _ (ih h)

/-- The last entry of a name counts. -/
theorem get?_ofList (es : List (String × α)) (key : String) :
    (ofList es).get? key = es.reverse.lookup key := by
  have hfold : ∀ m : Keyed α, (es.foldl (fun m e => m.put e.1 e.2) m).get? key =
      (es.reverse.lookup key).or (m.get? key) := by
    induction es with
    | nil => exact fun m => rfl
    | cons e es ih =>
      intro m
      obtain ⟨k, a⟩ := e
      rw [List.foldl_cons, ih, List.reverse_cons, List.lookup_append, Option.or_assoc]
      congr 1
      by_cases hk : key = k
      · subst hk
        simp [get?_put_self]
      · have hb : (key == k) = false := by simpa using hk
        simp [get?_put_of_ne m a hk, List.lookup_cons, hb]
  rw [ofList, hfold]
  exact Option.or_none

theorem mem_of_get?_ofList {es : List (String × α)} {key : String} {a : α}
    (h : (ofList es).get? key = some a) : (key, a) ∈ es := by
  rw [get?_ofList] at h
  exact List.mem_reverse.mp (mem_of_get? h)

theorem has_iff_mem_keys {m : Keyed α} {key : String} : has m key = true ↔ key ∈ keys m := by
  simp [has, keys]

theorem keys_put (m : Keyed α) (key : String) (a : α) :
    keys (put m key a) = if key ∈ keys m then keys m else keys m ++ [key] := by
  unfold put
  by_cases h : has m key = true
  · rw [if_pos h, if_pos (has_iff_mem_keys.mp h), keys, keys, List.map_map]
    refine List.map_congr_left fun e _ => ?_
    simp only [Function.comp]
    split
    next he => exact (beq_iff_eq.mp he).symm
    next => rfl
  · rw [if_neg h, if_neg fun hm => h (has_iff_mem_keys.mpr hm)]
    exact List.map_append

/-- The names come in the order of their first entries. -/
theorem keys_ofList (es : List (String × α)) :
    keys (ofList es) = (es.map Prod.fst).eraseDups := by
  have hfold : ∀ m : Keyed α, keys (es.foldl (fun m e => m.put e.1 e.2) m) =
      keys m ++ ((es.map Prod.fst).filter fun key => !(keys m).contains key).eraseDups := by
    induction es with
    | nil => exact fun m => by simp
    | cons e es ih =>
      intro m
      obtain ⟨key, a⟩ := e
      rw [List.foldl_cons, ih, keys_put, List.map_cons, List.filter_cons]
      by_cases hm : key ∈ keys m
      · simp [hm]
      · simp only [hm, if_false, List.contains_eq_mem, decide_false, Bool.not_false, if_true,
          List.eraseDups_cons, List.append_assoc, List.singleton_append, List.filter_filter]
        congr 3
        refine List.filter_congr fun other _ => ?_
        by_cases ho : other = key <;> simp [ho]
  have hall : ∀ names : List String,
      (names.filter fun key => !(keys ([] : Keyed α)).contains key) = names :=
    fun names => List.filter_eq_self.mpr fun _ _ => rfl
  rw [ofList, hfold, hall]
  rfl

/-- Where entries of one name are the same, it does not matter which of them counts. -/
theorem get?_ofList_iff {es : List (String × α)} {key : String} {a : α}
    (h : ∀ a b, (key, a) ∈ es → (key, b) ∈ es → a = b) :
    (ofList es).get? key = some a ↔ (key, a) ∈ es := by
  refine ⟨mem_of_get?_ofList, fun ha => ?_⟩
  have hkey : key ∈ (ofList es).keys := by
    rw [keys_ofList, List.mem_eraseDups]
    exact List.mem_map_of_mem ha
  rw [← has_iff_mem_keys, has_eq_isSome] at hkey
  obtain ⟨b, hb⟩ := Option.isSome_iff_exists.mp hkey
  rw [hb, h b a (mem_of_get?_ofList hb) ha]

end Keyed

end QueryFilter
