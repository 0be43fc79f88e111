import QueryFilter.Keyed
import QueryFilter.Numeral.Decimal
import QueryFilter.Value.Basic

/-! Values written as JSON. Numbers with a point or an exponent are binary numbers, the words NaN,
Infinity and -Infinity are read too, and of two entries with one key the later wins. -/

namespace QueryFilter.Value.Json

open Numeral Text

def isGap (c : Char) : Bool :=
  c == ' ' || c == '\t' || c == '\n' || c == '\r'

def skipGap (cs : List Char) : List Char :=
  cs.dropWhile isGap

def readHex4 : List Char → Option (Nat × List Char)
  | a :: b :: c :: d :: cs => do
    let a ← hexValue? a
    let b ← hexValue? b
    let c ← hexValue? c
    let d ← hexValue? d
    pure (4096 * a + 256 * b + 16 * c + d, cs)
  | _ => none

/-- The second half of a character that is written as two escapes. -/
def readLowHalf : List Char → Option (Nat × List Char)
  | '\\' :: 'u' :: cs => do
    let (n, cs) ← readHex4 cs
    if 0xDC00 ≤ n ∧ n < 0xE000 then pure (n - 0xDC00, cs) else none
  | _ => none

/-- A code point; half of a pair may stand alone. -/
def readPoint (cs : List Char) : Option (Nat × List Char) := do
  let (n, cs) ← readHex4 cs
  if 0xD800 ≤ n ∧ n < 0xDC00 then
    match readLowHalf cs with
    | some (low, rest) => pure (0x10000 + 0x400 * (n - 0xD800) + low, rest)
    | none => pure (n, cs)
  else pure (n, cs)

def readEscape : List Char → Option (Nat × List Char)
  | '"' :: cs => some (34, cs)
  | '\\' :: cs => some (92, cs)
  | '/' :: cs => some (47, cs)
  | 'b' :: cs => some (8, cs)
  | 'f' :: cs => some (12, cs)
  | 'n' :: cs => some (10, cs)
  | 'r' :: cs => some (13, cs)
  | 't' :: cs => some (9, cs)
  | 'u' :: cs => readPoint cs
  | _ => none

/-- The code points of a text after its opening quote. The fuel bounds their number. -/
def readText : (fuel : Nat) → List Char → Option (List Nat × List Char)
  | 0, _ => none
  | _, [] => none
  | fuel + 1, c :: cs =>
    if c = '"' then some ([], cs)
    else if c = '\\' then do
      let (n, cs) ← readEscape cs
      let (body, rest) ← readText fuel cs
      pure (n :: body, rest)
    else if c.toNat < 32 then none
    else do
      let (body, rest) ← readText fuel cs
      pure (c.toNat :: body, rest)

def textOf (points : List Nat) : String :=
  String.ofList (points.map Char.ofNat)

/-- The bytes of a code point; half of a pair has the three that no text has. -/
def pointBytes (n : Nat) : List UInt8 :=
  if 0xD800 ≤ n ∧ n < 0xE000 then
    [0xED, UInt8.ofNat (0x80 + n / 64 % 64), UInt8.ofNat (0x80 + n % 64)]
  else (textOf [n]).toUTF8.toList

/-- A text; with half of a pair in it, its bytes. -/
def ofPoints (points : List Nat) : Value :=
  if points.any fun n => 0xD800 ≤ n && n < 0xE000 then .bytes (points.flatMap pointBytes)
  else .text (textOf points)

/-- The digits before the point: one zero, or digits that do not begin with zero. -/
def spanWhole (cs : List Char) : List Char × List Char :=
  match cs with
  | '0' :: rest => (['0'], rest)
  | cs => (cs.takeWhile isPlainDigit, cs.dropWhile isPlainDigit)

/-- A point with digits, if both are there. -/
def spanPart : List Char → List Char × List Char
  | '.' :: cs =>
    let digits := cs.takeWhile isPlainDigit
    if digits.isEmpty then ([], '.' :: cs) else ('.' :: digits, cs.dropWhile isPlainDigit)
  | cs => ([], cs)

def spanPower (cs : List Char) : List Char × List Char :=
  match leadingExponent cs with
  | [] => ([], cs)
  | e :: es =>
    if (e :: es).all (fun c => c.toNat < 128) then (e :: es, cs.drop (es.length + 1)) else ([], cs)

def readNumber (cs : List Char) : Option (Value × List Char) := do
  let (sign, cs) := if cs.head? = some '-' then (['-'], cs.drop 1) else ([], cs)
  let (whole, cs) := spanWhole cs
  if whole.isEmpty then none
  else
    let (part, cs) := spanPart cs
    let (power, cs) := spanPower cs
    if part.isEmpty ∧ power.isEmpty then
      match readInteger (sign ++ whole) with
      | .ok n => pure (.int n, cs)
      | .error _ => none
    else do
      let x ← readDecimal? (sign ++ whole ++ part ++ power)
      pure (.float x, cs)

def words : List (String × Value) :=
  [("null", .null), ("true", .bool true), ("false", .bool false), ("NaN", .float .nan),
    ("Infinity", .float (.infinity false)), ("-Infinity", .float (.infinity true))]

def readWord (cs : List Char) : Option (Value × List Char) :=
  words.findSome? fun w =>
    if w.1.toList.isPrefixOf cs then some (w.2, cs.drop w.1.length) else none

mutual

def readValue : (fuel : Nat) → List Char → Option (Value × List Char)
  | 0, _ => none
  | fuel + 1, cs =>
    match skipGap cs with
    | '"' :: cs => do
      let (body, rest) ← readText (cs.length + 1) cs
      pure (ofPoints body, rest)
    | '[' :: cs =>
      match skipGap cs with
      | ']' :: rest => some (.list [], rest)
      | cs => do
        let (vs, rest) ← readItems fuel cs
        pure (.list vs, rest)
    | '\x7b' :: cs =>
      match skipGap cs with
      | '\x7d' :: rest => some (.dict [], rest)
      | cs => do
        let (es, rest) ← readEntries fuel [] cs
        pure (.dict es, rest)
    | cs => (readWord cs).or (readNumber cs)

def readItems : (fuel : Nat) → List Char → Option (List Value × List Char)
  | 0, _ => none
  | fuel + 1, cs => do
    let (v, cs) ← readValue fuel cs
    match skipGap cs with
    | ',' :: cs => do
      let (vs, rest) ← readItems fuel cs
      pure (v :: vs, rest)
    | ']' :: rest => pure ([v], rest)
    | _ => none

def readEntries : (fuel : Nat) → List (String × Value) → List Char →
    Option (List (String × Value) × List Char)
  | 0, _, _ => none
  | fuel + 1, seen, cs =>
    match skipGap cs with
    | '"' :: cs => do
      let (key, cs) ← readText (cs.length + 1) cs
      match skipGap cs with
      | ':' :: cs => do
        let (v, cs) ← readValue fuel cs
        let seen := Keyed.put seen (textOf key) v
        match skipGap cs with
        | ',' :: cs => readEntries fuel seen cs
        | '\x7d' :: rest => pure (seen, rest)
        | _ => none
      | _ => none
    | _ => none

end

def read? (s : String) : Option Value := do
  let cs := s.toList
  let (v, rest) ← readValue (cs.length + 1) cs
  if (skipGap rest).isEmpty then pure v else none

end QueryFilter.Value.Json
