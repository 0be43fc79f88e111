import QueryFilter.Calendar.Date
import QueryFilter.Text.Blank
import QueryFilter.Text.Letter

/-! Date patterns: literal letters, blanks and percent directives, each directive with the texts
it reads. A text is matched from the left; of several ways to read it the first that carries the
whole pattern through is taken, and then nothing of the text may be left. -/

namespace QueryFilter.Calendar

open Text

inductive Directive where
  | shortWeekday | longWeekday | shortMonth | longMonth | day | fraction | isoYear | hour | hour12
  | yearDay | month | minute | half | second | weekdayFromMonday | weekFromSunday | isoWeek
  | weekdayFromSunday | weekFromMonday | shortYear | year | offset | zone
  deriving DecidableEq

inductive Piece where
  | letter (c : Char)
  | blanks
  | field (d : Directive)
  deriving DecidableEq

inductive Pattern.Refusal where
  | badDirective
  | repeatedDirective
  deriving DecidableEq

/-- One place of a numeric field. -/
inductive Slot where
  | within (low high : Char)
  | digit
  | mark (c : Char)
  deriving DecidableEq

def Slot.accepts : Slot → Char → Bool
  | .within low high, c => low ≤ c && c ≤ high
  | .digit, c => isDigit c
  | .mark m, c => c == m

def dayPieces : List Piece :=
  [.field .month, .letter '/', .field .day, .letter '/', .field .shortYear]

def clockPieces : List Piece :=
  [.field .hour, .letter ':', .field .minute, .letter ':', .field .second]

def momentPieces : List Piece :=
  [.field .shortWeekday, .blanks, .field .shortMonth, .blanks, .field .day, .blanks] ++
    clockPieces ++ [.blanks, .field .year]

def directivePieces : Char → Option (List Piece)
  | 'a' => some [.field .shortWeekday]
  | 'A' => some [.field .longWeekday]
  | 'b' => some [.field .shortMonth]
  | 'B' => some [.field .longMonth]
  | 'c' => some momentPieces
  | 'd' => some [.field .day]
  | 'f' => some [.field .fraction]
  | 'G' => some [.field .isoYear]
  | 'H' => some [.field .hour]
  | 'I' => some [.field .hour12]
  | 'j' => some [.field .yearDay]
  | 'm' => some [.field .month]
  | 'M' => some [.field .minute]
  | 'p' => some [.field .half]
  | 'S' => some [.field .second]
  | 'u' => some [.field .weekdayFromMonday]
  | 'U' => some [.field .weekFromSunday]
  | 'V' => some [.field .isoWeek]
  | 'w' => some [.field .weekdayFromSunday]
  | 'W' => some [.field .weekFromMonday]
  | 'x' => some dayPieces
  | 'X' => some clockPieces
  | 'y' => some [.field .shortYear]
  | 'Y' => some [.field .year]
  | 'z' => some [.field .offset]
  | 'Z' => some [.field .zone]
  | '%' => some [.letter '%']
  | _ => none

/-- The pieces of a pattern text; a run of blanks is one piece, and `none` means a percent sign
without a directive. -/
def piecesOf : List Char → Option (List Piece)
  | [] => some []
  | '%' :: [] => none
  | '%' :: c :: cs => do
    let ps ← directivePieces c
    let rest ← piecesOf cs
    pure (ps ++ rest)
  | c :: cs => do
    let rest ← piecesOf cs
    if isBlank c then
      if rest.head? = some .blanks then pure rest else pure (.blanks :: rest)
    else pure (.letter c :: rest)

def directivesOf (ps : List Piece) : List Directive :=
  ps.filterMap fun
    | .field d => some d
    | _ => none

abbrev Pattern := List Piece

def Pattern.parse (format : String) : Except Pattern.Refusal Pattern :=
  match piecesOf format.toList with
  | none => .error .badDirective
  | some ps => if (directivesOf ps).Nodup then .ok ps else .error .repeatedDirective

def upTo (high : Char) : Slot := .within '0' high

def positive : Slot := .within '1' '9'

/-- The texts of a numeric directive, in order of preference. -/
def Directive.slots : Directive → List (List Slot)
  | .day =>
    [[.mark '3', upTo '1'], [.within '1' '2', .digit], [.mark '0', positive], [positive],
      [.mark ' ', positive]]
  | .fraction => [6, 5, 4, 3, 2, 1].map (fun n => List.replicate n (upTo '9'))
  | .hour => [[.mark '2', upTo '3'], [upTo '1', .digit], [.digit]]
  | .hour12 | .month => [[.mark '1', upTo '2'], [.mark '0', positive], [positive]]
  | .isoYear | .year => [List.replicate 4 .digit]
  | .yearDay =>
    [[.mark '3', .mark '6', upTo '6'], [.mark '3', upTo '5', .digit],
      [.within '1' '2', .digit, .digit], [.mark '0', positive, .digit],
      [.mark '0', .mark '0', positive], [positive, .digit], [.mark '0', positive], [positive]]
  | .minute => [[upTo '5', .digit], [.digit]]
  | .second => [[.mark '6', upTo '1'], [upTo '5', .digit], [.digit]]
  | .weekFromSunday | .weekFromMonday => [[.mark '5', upTo '3'], [upTo '4', .digit], [.digit]]
  | .weekdayFromSunday => [[upTo '6']]
  | .weekdayFromMonday => [[.within '1' '7']]
  | .isoWeek =>
    [[.mark '5', upTo '3'], [.mark '0', positive], [.within '1' '4', .digit], [.digit]]
  | .shortYear => [[.digit, .digit]]
  | _ => []

/-- The names of a named directive with their numbers, longer names first. -/
def Directive.names : Directive → List (String × Nat)
  | .longWeekday =>
    [("wednesday", 2), ("thursday", 3), ("saturday", 5), ("tuesday", 1), ("monday", 0),
      ("friday", 4), ("sunday", 6)]
  | .shortWeekday =>
    [("mon", 0), ("tue", 1), ("wed", 2), ("thu", 3), ("fri", 4), ("sat", 5), ("sun", 6)]
  | .longMonth =>
    [("september", 9), ("february", 2), ("november", 11), ("december", 12), ("january", 1),
      ("october", 10), ("august", 8), ("march", 3), ("april", 4), ("june", 6), ("july", 7),
      ("may", 5)]
  | .shortMonth =>
    [("jan", 1), ("feb", 2), ("mar", 3), ("apr", 4), ("may", 5), ("jun", 6), ("jul", 7),
      ("aug", 8), ("sep", 9), ("oct", 10), ("nov", 11), ("dec", 12)]
  | .half => [("am", 0), ("pm", 1)]
  | .zone => [("utc", 0), ("gmt", 0)]
  | _ => []

/-- A field of a text: the number it stands for, or `none` for a spelling that matches but has no
number. -/
abbrev Reading := Option Nat

def takeSlots : List Slot → List Char → Option (List Nat × List Char)
  | [], cs => some ([], cs)
  | _ :: _, [] => none
  | s :: ss, c :: cs =>
    if s.accepts c then (takeSlots ss cs).map (fun r => ((digitValue? c).toList ++ r.1, r.2))
    else none

/-- A name up to letter case. Only its plain spelling has a number. -/
def takeName (name : List Char) (cs : List Char) : Option (Bool × List Char) :=
  match name, cs with
  | [], cs => some (true, cs)
  | _ :: _, [] => none
  | n :: ns, c :: cs =>
    if sameLetter n c then (takeName ns cs).map (fun r => (foldLower c == n && r.1, r.2)) else none

/-- The forms of a time offset: colons before the minutes and before the seconds, and the number
of digits after the point. `none` stands for an absent part. -/
def offsetForms : List (Bool × Option (Bool × Option Nat)) :=
  [true, false].flatMap fun colon =>
    ([true, false].flatMap fun second =>
      ([some 6, some 5, some 4, some 3, some 2, some 1, none].map fun digits =>
        (colon, some (second, digits)))) ++ [(colon, none)]

def offsetSlots : Bool × Option (Bool × Option Nat) → List Slot
  | (colon, tail) =>
    let pause (b : Bool) : List Slot := if b then [.mark ':'] else []
    [.digit, .digit] ++ pause colon ++ [upTo '5', .digit] ++
      match tail with
      | none => []
      | some (second, digits) =>
        pause second ++ [upTo '5', .digit] ++
          match digits with
          | none => []
          | some n => .mark '.' :: List.replicate n .digit

/-- An offset has to be shorter than a day and to use its colons consistently. -/
def offsetReading (form : Bool × Option (Bool × Option Nat)) (ds : List Nat) : Reading :=
  let consistent :=
    match form.2 with
    | none => true
    | some (second, _) => form.1 == second
  if consistent && digitsValue (ds.take 2) < 24 then some 0 else none

def offsetWays : List Char → List (Reading × List Char)
  | [] => []
  | c :: cs =>
    if c = '+' ∨ c = '-' then
      offsetForms.filterMap fun form =>
        (takeSlots (offsetSlots form) cs).map fun r => (offsetReading form r.1, r.2)
    else if c = 'Z' then [(some 0, cs)]
    else []

/-- All ways to read a directive at the front of a text, in order of preference. -/
def Directive.ways (d : Directive) (cs : List Char) : List (Reading × List Char) :=
  if d = .offset then offsetWays cs
  else
    d.slots.filterMap (fun ss => (takeSlots ss cs).map fun r => (some (digitsValue r.1), r.2)) ++
      d.names.filterMap fun n =>
        (takeName n.1.toList cs).map fun r => (if r.1 then some n.2 else none, r.2)

/-- One or more blanks, as many as possible first. -/
def blankWays : List Char → List (List Char)
  | [] => []
  | c :: cs => if isBlank c then blankWays cs ++ [cs] else []

/-- The readings of the first way that carries the pattern through, and what it leaves. -/
def matchPieces : List Piece → List Char → Option (List (Directive × Reading) × List Char)
  | [], cs => some ([], cs)
  | .letter p :: ps, cs =>
    match cs with
    | [] => none
    | c :: cs => if sameLetter p c then matchPieces ps cs else none
  | .blanks :: ps, cs => (blankWays cs).findSome? (fun rest => matchPieces ps rest)
  | .field d :: ps, cs =>
    (d.ways cs).findSome? fun r => (matchPieces ps r.2).map fun m => ((d, r.1) :: m.1, m.2)

def Pattern.readings? (p : Pattern) (s : String) : Option (List (Directive × Nat)) := do
  let (fields, rest) ← matchPieces p s.toList
  if rest.isEmpty then fields.mapM (fun f => f.2.map (f.1, ·)) else none

end QueryFilter.Calendar
