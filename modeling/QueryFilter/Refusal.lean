import QueryFilter.Fault
import QueryFilter.Keyed

/-! Refusals made from arguments: a message and named details, or what a kind of refusal is
about. -/

namespace QueryFilter.Refusal

/-- Details by name; a name that comes again replaces the detail where it stands. -/
def detailsOf (details : List (Value × Value)) : Except Fault (Keyed Value) := do
  let named ← details.mapM fun d =>
    match d.1.asText? with
    | some name => pure (name, d.2)
    | none => throw .wrongKind
  pure (Keyed.ofList named)

/-- At most one argument is the message, which may be named instead. -/
def ofArguments (kind : RefusalKind) (args : List Value) (details : List (Value × Value)) :
    Except Fault Refusal := do
  let details ← detailsOf details
  if details.has "self" then throw .wrongKind
  match args, details.get? "message" with
  | [], named => pure ⟨kind, named.getD (.text ""), details.filter (·.1 != "message")⟩
  | [message], none => pure ⟨kind, message, details⟩
  | _, _ => throw .wrongKind

/-- A refusal about an entity, a key or a relation, made by the kind that is for it or by a
narrower one. -/
def about (owner kind : RefusalKind) (args : List Value) : Except Fault Refusal :=
  if !kind.lineage.contains owner then .error .noSuchMember
  else
    match owner, args with
    | .entity, [v] => .ok (.forEntity kind v)
    | .configuration, [key] => .ok (.forKey kind key)
    | .relation, [relation, reason] => .ok (.forRelation kind relation reason)
    | .general, _ | .operator, _ => .error .noSuchMember
    | _, _ => .error .wrongKind

end QueryFilter.Refusal
