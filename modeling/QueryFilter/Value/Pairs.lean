import QueryFilter.Keyed
import QueryFilter.Value.Elements
import QueryFilter.Value.Equal

/-! Mappings whose keys are values, from a value that lists pairs. A key comes once, where it first
stood, and has the value that came last. -/

namespace QueryFilter.Value

abbrev Pairs := List (Value × Value)

namespace Pairs

def has (m : Pairs) (key : Value) : Bool :=
  m.any fun e => same e.1 key

def put (m : Pairs) (key v : Value) : Pairs :=
  if m.has key then m.map fun e => if same e.1 key then (e.1, v) else e else m ++ [(key, v)]

/-- The entries whose keys are texts. -/
def named (m : Pairs) : Keyed Value :=
  m.filterMap fun e => e.1.asText?.map (·, e.2)

def displayed (m : Pairs) : Keyed Value :=
  Keyed.ofList (m.map fun e => (e.1.display, e.2))

end Pairs

/-- A key and a value from the element at an index. -/
def pairAt (index : Nat) (v : Value) : Except Fault (Value × Value) := do
  match ← v.elements with
  | [key, v] => if key.isHashable then pure (key, v) else throw .wrongKind
  | vs => throw (.pairLength index vs.length)

/-- The pairs of a mapping, or of a value whose elements are pairs. -/
def pairs : Value → Except Fault Pairs
  | .dict es => .ok (es.map fun e => (.text e.1, e.2))
  | v => do
    let found ← (← v.elements).zipIdx.mapM fun e => pairAt e.2 e.1
    pure (found.foldl (fun m e => m.put e.1 e.2) [])

end QueryFilter.Value
