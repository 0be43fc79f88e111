import QueryFilter.Keyed
import QueryFilter.Template.Directive
import QueryFilter.Template.Form

/-! Filling message templates with arguments. Directives take the arguments in order, or name
entries of a single mapping; a width or precision may take one as well. -/

namespace QueryFilter.Template

/-- Arguments in order, or the entries of one mapping together with the value that is next in
turn: the mapping itself, until an entry is named. -/
inductive Arguments where
  | listed (vs : List Value)
  | mapping (es : Keyed Value) (next : Option Value)

/-- A single mapping with entries stands for its entries. -/
def Arguments.ofList : List Value → Arguments
  | [.dict (e :: es)] => .mapping (e :: es) (some (.dict (e :: es)))
  | vs => .listed vs

def Arguments.take : Arguments → Except Fault (Value × Arguments)
  | .listed (v :: vs) => .ok (v, .listed vs)
  | .mapping es (some v) => .ok (v, .mapping es none)
  | _ => .error .wrongKind

/-- Only listed arguments have to be used up. -/
def Arguments.isUsed : Arguments → Bool
  | .listed vs => vs.isEmpty
  | .mapping .. => true

def Arguments.choose (key : Key) (args : Arguments) : Except Fault Arguments :=
  match key, args with
  | .absent, args => .ok args
  | _, .listed _ => .error .wrongKind
  | .unclosed, .mapping .. => .error (.template .unclosedKey)
  | .named key, .mapping es _ =>
    match es.get? (String.ofList key) with
    | some v => .ok (.mapping es (some v))
    | none => .error .noSuchEntry

/-- Two to the power of 63. -/
def widthBound : Nat := 9223372036854775808

/-- Two to the power of 31. -/
def precisionBound : Nat := 2147483648

/-- The width and whether an argument made it negative, which means the left side. The least
width of all counts as none. -/
def widthOf (width : Option Extent) (args : Arguments) : Except Fault (Nat × Bool × Arguments) :=
  match width with
  | none => .ok (0, false, args)
  | some (.given n) =>
    if widthBound ≤ n then .error (.template .wideWidth) else .ok (n, false, args)
  | some .argument => do
    let (v, args) ← args.take
    let n ← wholeOf v
    if -(widthBound : Int) ≤ n ∧ n < widthBound then
      pure (if n = -(widthBound : Int) then 0 else n.natAbs, decide (n < 0), args)
    else throw (.template .widthRange)

/-- A negative precision counts as zero. -/
def precisionOf (precision : Option Extent) (args : Arguments) :
    Except Fault (Option Nat × Arguments) :=
  match precision with
  | none => .ok (none, args)
  | some (.given n) =>
    if precisionBound ≤ n then .error (.template .widePrecision) else .ok (some n, args)
  | some .argument => do
    let (v, args) ← args.take
    let n ← wholeOf v
    if -(precisionBound : Int) ≤ n ∧ n < precisionBound then pure (some n.toNat, args)
    else throw (.template .precisionRange)

def Directive.fill (d : Directive) (args : Arguments) : Except Fault (List Char × Arguments) := do
  let args ← args.choose d.key
  let (width, left, args) ← widthOf d.width args
  let (precision, args) ← precisionOf d.precision args
  match d.letter with
  | none => throw (.template .incomplete)
  | some letter =>
    let (v, args) ← args.take
    let flags := if left then '-' :: d.flags else d.flags
    let cs ← form { flags, width, precision } letter d.index v
    pure (cs, args)

/-- Fills pieces in order. Listed arguments that are left over are an error. -/
def fill : List Piece → Arguments → Except Fault (List Char)
  | [], args => if args.isUsed then .ok [] else .error .wrongKind
  | .letter c :: ps, args => (fill ps args).map (c :: ·)
  | .directive d :: ps, args => do
    let (cs, args) ← d.fill args
    let rest ← fill ps args
    pure (cs ++ rest)

/-- A template with its arguments filled in; without arguments it is left as it is. -/
def render (template : String) (args : List Value) : Except Fault String :=
  if args.isEmpty then .ok template
  else (fill (parse template) (Arguments.ofList args)).map String.ofList

end QueryFilter.Template
