/-! Cutting texts and the like: at every occurrence of a separator, and at the first or last dot. -/

namespace QueryFilter.Text

variable {α : Type}

def consFirst (c : α) : List (List α) → List (List α)
  | [] => [[c]]
  | p :: ps => (c :: p) :: ps

/-- Cuts at every occurrence of the separator, from the left and without overlap, after passing
over the next `skip` characters. -/
def cutAt [BEq α] (separator : List α) : (skip : Nat) → List α → List (List α)
  | _, [] => [[]]
  | skip + 1, _ :: cs => cutAt separator skip cs
  | 0, c :: cs =>
    if separator.isPrefixOf (c :: cs) then [] :: cutAt separator (separator.length - 1) cs
    else consFirst c (cutAt separator 0 cs)

def pieces [BEq α] (separator cs : List α) : List (List α) :=
  if separator.isEmpty then [cs] else cutAt separator 0 cs

/-- The pieces of a delimited text. The empty text has none, and an empty delimiter means a
comma. -/
def splitDelimited (s delimiter : String) : List String :=
  if s = "" then []
  else (pieces (if delimiter = "" then [','] else delimiter.toList) s.toList).map String.ofList

/-- What stands before and after the first dot; nothing after it when there is none. -/
def cutFirstDot : List Char → List Char × List Char
  | [] => ([], [])
  | c :: cs =>
    if c = '.' then ([], cs)
    else
      let (head, rest) := cutFirstDot cs
      (c :: head, rest)

def hasDot (s : String) : Bool :=
  s.toList.contains '.'

def headRest (s : String) : String × String :=
  let (head, rest) := cutFirstDot s.toList
  (String.ofList head, String.ofList rest)

/-- What stands before and after the last dot; nothing before it when there is none. -/
def tableColumn (s : String) : String × String :=
  let (last, first) := cutFirstDot s.toList.reverse
  (String.ofList first.reverse, String.ofList last.reverse)

theorem cutFirstDot_eq_self {cs : List Char} (h : '.' ∉ cs) : cutFirstDot cs = (cs, []) := by
  induction cs with
  | nil => rfl
  | cons c cs ih =>
    simp only [List.mem_cons, not_or] at h
    simp [cutFirstDot, Ne.symm h.1, ih h.2]

end QueryFilter.Text
