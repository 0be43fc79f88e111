import QueryFilter.Fault
import QueryFilter.Predicate

/-! Expressions on columns, as a database library builds them. An expression records the test and
the operands it is given, unless the library refuses them. -/

namespace QueryFilter

/-- What a library refuses: the fault that a test with some operands is answered with. -/
structure Expressions where
  refusal? : Test → List Value → Option Fault

namespace Expressions

/-- Null and truth values can be compared for equality only, entities and records not at all. -/
def comparable (c : Comparison) : Value → Bool
  | .null | .bool _ => c == .eq || c == .ne
  | v => v.entityName?.isNone

/-- Entities and records are no operands. Of a list of members only the first is looked at. -/
def admits : Test → List Value → Bool
  | .compare c, vs => vs.all (comparable c)
  | .within _, vs => (vs.take 1).all (·.entityName?.isNone)
  | _, vs => vs.all (·.entityName?.isNone)

def standard : Expressions where
  refusal? test vs := if admits test vs then none else some .comparisonOperand

/-- The operands that an expression keeps. -/
def record (x : Expressions) (test : Test) (operands : List Value) : Except Fault (List Value) :=
  match x.refusal? test operands with
  | some f => .error f
  | none => .ok operands

theorem record_eq_ok {x : Expressions} {test : Test} {vs operands : List Value}
    (h : x.record test vs = .ok operands) : operands = vs := by
  unfold record at h
  split at h
  · cases h
  · exact (Except.ok.inj h).symm

end Expressions

end QueryFilter
