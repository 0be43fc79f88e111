import QueryFilter.Numeral.Integer

/-! Message templates as pieces. A percent sign begins a directive: a key in brackets, flags, a
width, a precision after a point, a size mark without effect, and a letter. Only the letter must
be there, and a second percent sign in its place stands for itself. -/

namespace QueryFilter.Template

open Text

/-- Brackets within a key come in pairs. -/
inductive Key where
  | absent
  | named (key : List Char)
  | unclosed
  deriving DecidableEq

/-- A width or precision, given in digits or by an argument. -/
inductive Extent where
  | given (n : Nat)
  | argument
  deriving DecidableEq

/-- A directive without a letter is one that the template breaks off. `index` counts the characters
in front of the letter. -/
structure Directive where
  key : Key
  flags : List Char
  width : Option Extent
  precision : Option Extent
  letter : Option Char
  index : Nat
  deriving DecidableEq

inductive Piece where
  | letter (c : Char)
  | directive (d : Directive)
  deriving DecidableEq

/-- A key up to its closing bracket, and the rest. -/
def readKey : (depth : Nat) → List Char → Option (List Char × List Char)
  | _, [] => none
  | depth, c :: cs =>
    if c = ')' then
      match depth with
      | 0 => some ([], cs)
      | depth + 1 => (readKey depth cs).map fun r => (c :: r.1, r.2)
    else if c = '(' then (readKey (depth + 1) cs).map fun r => (c :: r.1, r.2)
    else (readKey depth cs).map fun r => (c :: r.1, r.2)

def takeKey : List Char → Key × List Char
  | '(' :: cs =>
    match readKey 0 cs with
    | some (key, rest) => (.named key, rest)
    | none => (.unclosed, [])
  | cs => (.absent, cs)

def isFlag (c : Char) : Bool :=
  c == '-' || c == '+' || c == ' ' || c == '#' || c == '0'

def takeExtent : List Char → Option Extent × List Char
  | '*' :: cs => (some .argument, cs)
  | cs =>
    let digits := cs.takeWhile isPlainDigit
    if digits.isEmpty then (none, cs)
    else
      (some (.given (digitsValue (digits.filterMap digitValue?))), cs.dropWhile isPlainDigit)

/-- A point without digits means the precision zero. -/
def takePrecision : List Char → Option Extent × List Char
  | '.' :: cs =>
    let (extent, rest) := takeExtent cs
    (some (extent.getD (.given 0)), rest)
  | cs => (none, cs)

def dropSize : List Char → List Char
  | c :: cs => if c = 'h' ∨ c = 'l' ∨ c = 'L' then cs else c :: cs
  | [] => []

/-- The directive after a percent sign, in a template of `total` characters, and the rest. -/
def takeDirective (total : Nat) (cs : List Char) : Directive × List Char :=
  let (key, cs) := takeKey cs
  let flags := cs.takeWhile isFlag
  let (width, cs) := takeExtent (cs.dropWhile isFlag)
  let (precision, cs) := takePrecision cs
  let cs := dropSize cs
  ({ key, flags, width, precision, letter := cs.head?, index := total - cs.length }, cs.tail)

theorem readKey_length {depth : Nat} {cs key rest : List Char}
    (h : readKey depth cs = some (key, rest)) : rest.length ≤ cs.length := by
  induction cs generalizing depth key rest with
  | nil => simp [readKey] at h
  | cons c cs ih =>
    have step : ∀ {d : Nat}, (readKey d cs).map (fun r => (c :: r.1, r.2)) = some (key, rest) →
        rest.length ≤ (c :: cs).length := by
      intro d hd
      obtain ⟨⟨k, r⟩, hr, he⟩ := Option.map_eq_some_iff.1 hd
      obtain ⟨-, rfl⟩ := Prod.mk.inj he
      have := ih hr
      simp only [List.length_cons]
      omega
    unfold readKey at h
    split at h
    · split at h
      · obtain ⟨-, rfl⟩ := Prod.mk.inj (Option.some.inj h)
        simp
      · exact step h
    · split at h
      · exact step h
      · exact step h

theorem takeKey_length (cs : List Char) : (takeKey cs).2.length ≤ cs.length := by
  unfold takeKey
  split
  · split
    next h =>
      have := readKey_length h
      simp only [List.length_cons]
      omega
    next => simp
  · exact Nat.le_refl _

theorem takeExtent_length (cs : List Char) : (takeExtent cs).2.length ≤ cs.length := by
  unfold takeExtent
  split
  · simp
  · simp only
    split
    · exact Nat.le_refl _
    · exact (List.dropWhile_suffix _).length_le

theorem takePrecision_length (cs : List Char) : (takePrecision cs).2.length ≤ cs.length := by
  unfold takePrecision
  split
  next cs =>
    have := takeExtent_length cs
    simp only [List.length_cons]
    omega
  · exact Nat.le_refl _

theorem dropSize_length (cs : List Char) : (dropSize cs).length ≤ cs.length := by
  unfold dropSize
  split
  · split <;> simp
  · exact Nat.le_refl _

theorem takeDirective_length (total : Nat) (cs : List Char) :
    (takeDirective total cs).2.length ≤ cs.length := by
  have hk := takeKey_length cs
  have hf := (List.dropWhile_suffix isFlag (l := (takeKey cs).2)).length_le
  have hw := takeExtent_length ((takeKey cs).2.dropWhile isFlag)
  have hp := takePrecision_length (takeExtent ((takeKey cs).2.dropWhile isFlag)).2
  have hs := dropSize_length
    (takePrecision (takeExtent ((takeKey cs).2.dropWhile isFlag)).2).2
  simp only [takeDirective, List.length_tail]
  omega

def piecesFrom (total : Nat) : List Char → List Piece
  | [] => []
  | '%' :: '%' :: cs => .letter '%' :: piecesFrom total cs
  | '%' :: cs =>
    .directive (takeDirective total cs).1 :: piecesFrom total (takeDirective total cs).2
  | c :: cs => .letter c :: piecesFrom total cs
termination_by cs => cs.length
decreasing_by
  · simp only [List.length_cons]
    omega
  · have := takeDirective_length total cs
    simp only [List.length_cons]
    omega
  · simp

def parse (template : String) : List Piece :=
  piecesFrom template.length template.toList

end QueryFilter.Template
