import QueryFilter.Text.LetterTable

/-! Letter case. Words of this library are written in the first 128 characters, so folding needs
to be right only for characters whose other case lies there; literal text of a date pattern is
compared over the whole character set. -/

namespace QueryFilter.Text

/-- Lower case, for comparison with a word of the first 128 characters. -/
def foldLower (c : Char) : Char :=
  if c.toNat = 0x212A then 'k' else c.toLower

def lower (s : String) : String :=
  s.map foldLower

theorem lower_eq (s : String) : lower s = String.ofList (s.toList.map foldLower) := by
  rw [← String.toList_map, String.ofList_toList]
  rfl

/-- Upper case, for comparison with a word of the first 128 characters. Some letters become two
or three. -/
def foldUpper (c : Char) : List Char :=
  match c.toNat with
  | 0xDF => ['S', 'S']
  | 0x131 => ['I']
  | 0x17F => ['S']
  | 0xFB00 => ['F', 'F']
  | 0xFB01 => ['F', 'I']
  | 0xFB02 => ['F', 'L']
  | 0xFB03 => ['F', 'F', 'I']
  | 0xFB04 => ['F', 'F', 'L']
  | 0xFB05 => ['S', 'T']
  | 0xFB06 => ['S', 'T']
  | _ => [c.toUpper]

def upper (s : String) : String :=
  String.ofList (s.toList.flatMap foldUpper)

def CaseRun.contains (r : CaseRun) (n : Nat) : Bool :=
  r.first ≤ n && n ≤ r.last && (n - r.first) % r.step == 0

/-- The lower-case letter of any script, as a code point. -/
def lowerPoint (c : Char) : Nat :=
  if c.toNat < 128 then c.toLower.toNat
  else match caseRuns.find? (·.contains c.toNat) with
    | some r => (c.toNat + r.shift).toNat
    | none => c.toNat

/-- Equality of two characters up to letter case. -/
def sameLetter (a b : Char) : Bool :=
  let x := lowerPoint a
  let y := lowerPoint b
  x == y || sharedCapitals.any (fun g => g.contains x && g.contains y)

end QueryFilter.Text
