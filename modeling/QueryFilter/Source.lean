import QueryFilter.Declaration
import QueryFilter.Settings

/-! Filters read from the parameters of a request. Only allowed fields are read, and an absent or
empty parameter yields no filter. -/

namespace QueryFilter

/-- The value of a parameter; only a mapping can be asked. -/
def parameter (source : Value) (name : String) : Except Fault Value :=
  match source with
  | .dict es => .ok (Value.entry es name)
  | _ => .error .noSuchMember

/-- The operator and type of an allowance, as given; anything empty means the defaults. -/
def allowanceTags (allowance : Value) : Except Fault (Value × Value) :=
  let orDefault (v : Value) (default : String) : Value := if v.isTrue then v else .text default
  if !allowance.isTrue then .ok (.text "=", .text "string")
  else
    match allowance with
    | .dict es =>
      .ok (orDefault (Value.entry es "operator") "=", orDefault (Value.entry es "type") "string")
    | _ => .error .noSuchMember

def readFilter (source : Value) (opening : String) (delimiter : Value) (field : String)
    (allowance : Value) :
    Except Fault (Option FilterSpec) := do
  let raw ← parameter source (opening ++ field)
  if raw.isBlank then pure none
  else
    let (operator, type) ← allowanceTags allowance
    let value ← coerce (FieldType.ofValue? type) none delimiter raw
    let spec ← FilterSpec.named (.ok field) value operator type
    pure (some spec)

def readSource (allowed source : Value) (opening : String) (delimiter : Value) :
    Except Fault (Keyed FilterSpec) :=
  match allowed with
  | .dict es => do
    let found ← es.mapM fun e => readFilter source opening delimiter e.1 e.2
    pure (found.filterMap fun s => s.map fun s => (s.field, s))
  | _ => .error .noSuchMember

def allowances (fields : Keyed FieldDescriptor) : Value :=
  .dict (fields.map fun f => (f.1, f.2.allowance))

end QueryFilter
