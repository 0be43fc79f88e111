import QueryFilter.Fault

/-! The elements of a value that can be listed. A text has its characters, a mapping its keys,
and a descriptor its named parts. -/

namespace QueryFilter.Value

def part (name : String) (v : Value) : Value :=
  .tuple [.text name, v]

def textElements (s : String) : List Value :=
  s.toList.map fun c => .text (String.singleton c)

def elements : Value → Except Fault (List Value)
  | .text s => .ok (textElements s)
  | .operator o => .ok (textElements o.symbol)
  | .type t => .ok (textElements t.symbol)
  | .bytes bs => .ok (bs.map fun b => .int b.toNat)
  | .list vs | .tuple vs | .set vs | .frozen vs => .ok vs
  | .dict es => .ok (es.map fun e => .text e.1)
  | .spec f v o t =>
    .ok [part "field" (.text f), part "value" v, part "operator" (.text o), part "type" (.text t)]
  | .field n t o => .ok [part "name" (.text n), part "type" (.type t),
      part "default_operator" (.operator o)]
  | .relation n fs d r => .ok [part "name" (.text n),
      part "allowed_fields" (.frozen (fs.map .text)),
      part "max_depth" (.int d), part "related" r]
  | _ => .error .wrongKind

end QueryFilter.Value
