import QueryFilter.Fault

/-! Computations that leave log lines and may fail; the lines written before a failure stay. -/

namespace QueryFilter

inductive Level where
  | debug | info | warning | error | critical
  deriving DecidableEq

namespace Level

def all : List Level :=
  [.debug, .info, .warning, .error, .critical]

def name : Level → String
  | .debug => "DEBUG"
  | .info => "INFO"
  | .warning => "WARNING"
  | .error => "ERROR"
  | .critical => "CRITICAL"

def severity : Level → Nat
  | .debug => 10
  | .info => 20
  | .warning => 30
  | .error => 40
  | .critical => 50

/-- The level that a text names; an unknown name means `info`. -/
def ofText (s : String) : Level :=
  (all.find? (·.name = Text.upper (Text.strip s))).getD .info

end Level

structure LogLine where
  level : Level
  logger : String
  message : String
  deriving DecidableEq

structure Traced (α : Type) where
  lines : List LogLine
  result : Except Fault α

namespace Traced

variable {α β γ : Type}

protected def pure (a : α) : Traced α :=
  ⟨[], .ok a⟩

protected def bind (x : Traced α) (f : α → Traced β) : Traced β :=
  match x.result with
  | .ok a => ⟨x.lines ++ (f a).lines, (f a).result⟩
  | .error e => ⟨x.lines, .error e⟩

instance : Monad Traced where
  pure := Traced.pure
  bind := Traced.bind

def ofExcept (r : Except Fault α) : Traced α :=
  ⟨[], r⟩

instance : MonadLift (Except Fault) Traced where
  monadLift := ofExcept

def fail (e : Fault) : Traced α :=
  ⟨[], .error e⟩

def log (level : Level) (logger message : String) : Traced Unit :=
  ⟨[⟨level, logger, message⟩], .ok ()⟩

theorem pure_eq (a : α) : (pure a : Traced α) = ⟨[], .ok a⟩ := rfl

theorem bind_ok {x : Traced α} {a : α} (f : α → Traced β) (h : x.result = .ok a) :
    (x >>= f) = ⟨x.lines ++ (f a).lines, (f a).result⟩ := by
  show Traced.bind x f = _
  simp [Traced.bind, h]

theorem bind_error {x : Traced α} {e : Fault} (f : α → Traced β) (h : x.result = .error e) :
    (x >>= f) = ⟨x.lines, .error e⟩ := by
  show Traced.bind x f = _
  simp [Traced.bind, h]

theorem bind_result_eq_ok {x : Traced α} {f : α → Traced β} {b : β} :
    (x >>= f).result = .ok b ↔ ∃ a, x.result = .ok a ∧ (f a).result = .ok b := by
  cases h : x.result with
  | error e => simp [bind_error f h]
  | ok a => simp [bind_ok f h]

theorem bind_result_eq_error {x : Traced α} {f : α → Traced β} {e : Fault} :
    (x >>= f).result = .error e ↔
      x.result = .error e ∨ ∃ a, x.result = .ok a ∧ (f a).result = .error e := by
  cases h : x.result with
  | error e => simp [bind_error f h]
  | ok a => simp [bind_ok f h]

theorem id_map_eq (x : Traced α) : id <$> x = x := by
  rcases x with ⟨l, _ | a⟩
  · rfl
  · show Traced.bind _ _ = _
    simp [Traced.bind, Traced.pure, Function.comp]

theorem pure_bind_eq (a : α) (f : α → Traced β) : pure a >>= f = f a := by
  show Traced.bind _ _ = _
  simp [Traced.bind, pure, Traced.pure]

theorem bind_assoc_eq (x : Traced α) (f : α → Traced β) (g : β → Traced γ) :
    x >>= f >>= g = x >>= fun a => f a >>= g := by
  show Traced.bind (Traced.bind x f) g = Traced.bind x fun a => Traced.bind (f a) g
  rcases x with ⟨l, _ | a⟩
  · rfl
  · rcases h : f a with ⟨m, _ | b⟩ <;> simp [Traced.bind, h]

instance : LawfulMonad Traced :=
  LawfulMonad.mk' Traced id_map_eq pure_bind_eq bind_assoc_eq

end Traced

end QueryFilter
