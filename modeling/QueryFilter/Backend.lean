import QueryFilter.Predicate
import QueryFilter.Trace

/-! What a query has to offer so that filters can be applied to it, and computations that extend
a query step by step. -/

namespace QueryFilter

/-- A query over some entity. `scope` opens a query over the entities behind a relation, if there
are any; `attach` takes up what was asked there, which is nothing for an empty query. -/
class Backend (Q : Type) where
  subject : Q → Value
  table : Q → Except Fault String
  size : Q → Nat
  add : Q → Predicate → Traced Q
  refuseComparison : Q → Value → Value → Traced Q
  scope : Q → String → Traced (Option Q)
  attach : Q → String → Q → Q

/-- A computation that extends a query. After a failure the query is as it was left. -/
structure Building (Q α : Type) where
  lines : List LogLine
  query : Q
  result : Except Fault α

namespace Building

variable {Q α β : Type}

def andThen (x : Building Q α) (f : α → Q → Building Q β) : Building Q β :=
  match x.result with
  | .ok a =>
    let y := f a x.query
    ⟨x.lines ++ y.lines, y.query, y.result⟩
  | .error e => ⟨x.lines, x.query, .error e⟩

def done (a : α) (q : Q) : Building Q α :=
  ⟨[], q, .ok a⟩

/-- A computation that leaves the query alone. -/
def aside (q : Q) (x : Traced α) : Building Q α :=
  ⟨x.lines, q, x.result⟩

/-- A computation that replaces the query when it succeeds. -/
def replacing (q : Q) (x : Traced (α × Q)) : Building Q α :=
  match x.result with
  | .ok (a, q') => ⟨x.lines, q', .ok a⟩
  | .error e => ⟨x.lines, q, .error e⟩

def adding [Backend Q] (q : Q) (p : Predicate) : Building Q Bool :=
  replacing q ((true, ·) <$> Backend.add q p)

/-- Takes up what was asked behind a relation, once that has ended. -/
def takingUp [Backend Q] (q : Q) (relation : String) (asked : Building Q α) : Building Q α :=
  match asked.result with
  | .ok a => ⟨asked.lines, Backend.attach q relation asked.query, .ok a⟩
  | .error e => ⟨asked.lines, q, .error e⟩

/-- Opens a query behind a relation, extends it and takes it up. Where the relation leads nowhere
nothing is asked. -/
def behind [Backend Q] (q : Q) (relation : String) (ask : Q → Building Q Bool) : Building Q Bool :=
  (aside q (Backend.scope q relation)).andThen fun sub q =>
    match sub with
    | none => done false q
    | some sub => takingUp q relation (ask sub)

theorem andThen_of_ok {x : Building Q α} {a : α} (f : α → Q → Building Q β)
    (h : x.result = .ok a) :
    x.andThen f = ⟨x.lines ++ (f a x.query).lines, (f a x.query).query, (f a x.query).result⟩ := by
  simp [andThen, h]

theorem andThen_of_error {x : Building Q α} {e : Fault} (f : α → Q → Building Q β)
    (h : x.result = .error e) : x.andThen f = ⟨x.lines, x.query, .error e⟩ := by
  simp [andThen, h]

theorem done_andThen (a : α) (q : Q) (f : α → Q → Building Q β) :
    (done a q).andThen f = f a q := by
  simp [andThen, done]

theorem andThen_assoc {γ : Type} (x : Building Q α) (f : α → Q → Building Q β)
    (g : β → Q → Building Q γ) :
    (x.andThen f).andThen g = x.andThen fun a q => (f a q).andThen g := by
  obtain ⟨lines, q, result⟩ := x
  cases result with
  | error e => rfl
  | ok a =>
    have hx : (⟨lines, q, .ok a⟩ : Building Q α).result = .ok a := rfl
    rw [andThen_of_ok f hx, andThen_of_ok _ hx]
    cases hf : (f a q).result with
    | error e => simp [andThen, hf]
    | ok b => simp [andThen, hf]

theorem andThen_eq_ok {x : Building Q α} {f : α → Q → Building Q β} {b : β} :
    (x.andThen f).result = .ok b ↔ ∃ a, x.result = .ok a ∧ (f a x.query).result = .ok b := by
  cases h : x.result with
  | error e => simp [andThen, h]
  | ok a => simp [andThen, h]

theorem andThen_eq_error {x : Building Q α} {f : α → Q → Building Q β} {e : Fault} :
    (x.andThen f).result = .error e ↔
      x.result = .error e ∨ ∃ a, x.result = .ok a ∧ (f a x.query).result = .error e := by
  cases h : x.result with
  | error e => simp [andThen, h]
  | ok a => simp [andThen, h]

@[simp] theorem aside_query (q : Q) (x : Traced α) : (aside q x).query = q := rfl

@[simp] theorem aside_result (q : Q) (x : Traced α) : (aside q x).result = x.result := rfl

@[simp] theorem done_result (a : α) (q : Q) : (done a q).result = .ok a := rfl

@[simp] theorem aside_ok_andThen (a : α) (q : Q) (f : α → Q → Building Q β) :
    (aside q (Traced.ofExcept (.ok a))).andThen f = f a q := rfl

theorem aside_bind (q : Q) (x : Traced α) (f : α → Traced β) :
    aside q (x >>= f) = (aside q x).andThen fun a q => aside q (f a) := by
  cases h : x.result with
  | error e =>
    rw [andThen_of_error (x := aside q x) _ h, aside, Traced.bind_error f h]
    rfl
  | ok a =>
    rw [andThen_of_ok (x := aside q x) _ h, aside, Traced.bind_ok f h]
    rfl

theorem adding_of_ok [Backend Q] {q q' : Q} {p : Predicate} {lines : List LogLine}
    (h : Backend.add q p = ⟨lines, .ok q'⟩) : adding q p = ⟨lines, q', .ok true⟩ := by
  have hm : (true, ·) <$> Backend.add q p = ⟨lines, .ok (true, q')⟩ := by
    rw [map_eq_pure_bind, h, Traced.bind_ok _ rfl]
    simp [Traced.pure_eq]
  simp [adding, replacing, hm]

theorem adding_of_error [Backend Q] {q : Q} {p : Predicate} {lines : List LogLine} {e : Fault}
    (h : Backend.add q p = ⟨lines, .error e⟩) : adding q p = ⟨lines, q, .error e⟩ := by
  have hm : (true, ·) <$> Backend.add q p = ⟨lines, .error e⟩ := by
    rw [map_eq_pure_bind, h, Traced.bind_error _ rfl]
  simp [adding, replacing, hm]

theorem takingUp_of_ok [Backend Q] {q : Q} {asked : Building Q α} {a : α} (relation : String)
    (h : asked.result = .ok a) :
    takingUp q relation asked = ⟨asked.lines, Backend.attach q relation asked.query, .ok a⟩ := by
  simp [takingUp, h]

theorem takingUp_of_error [Backend Q] {q : Q} {asked : Building Q α} {e : Fault}
    (relation : String) (h : asked.result = .error e) :
    takingUp q relation asked = ⟨asked.lines, q, .error e⟩ := by
  simp [takingUp, h]

end Building

def Backend.compare {Q : Type} [Backend Q] (q : Q) (column symbol operand : Value) :
    Traced Q :=
  match symbol.asText?.bind Comparison.ofSymbol? with
  | some c => Backend.add q ⟨column, .compare c, operand⟩
  | none =>
    if symbol.isHashable then Backend.refuseComparison q symbol column
    else Traced.fail .wrongKind

end QueryFilter
