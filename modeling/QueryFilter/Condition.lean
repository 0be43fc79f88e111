import QueryFilter.Backend
import QueryFilter.Derivation

/-! Queries recorded as conditions. A condition is a predicate on a column, or a relation together
with conditions on what it leads to. -/

namespace QueryFilter

inductive Condition where
  | leaf (p : Predicate)
  | has (relation : String) (inner : List Condition)

namespace Condition

def comparisonKey : Comparison → String
  | .eq => "$eq"
  | .ne => "$ne"
  | .gt => "$gt"
  | .gte => "$gte"
  | .lt => "$lt"
  | .lte => "$lte"
  | .like => "$like"
  | .notLike => "$nlike"
  | .ilike => "$ilike"
  | .notIlike => "$nilike"

def testKey : Test → String
  | .compare c => comparisonKey c
  | .within false => "$in"
  | .within true => "$nin"
  | .between false => "$between"
  | .between true => "$nbetween"
  | .null _ => "$null"
  | .date => "$date"
  | .part .month => "$month"
  | .part .year => "$year"
  | .part .day => "$day"

/-- Several conditions hold together; no conditions are the empty mapping. -/
def conjunction (written : List Value) : Value :=
  if written.isEmpty then .dict [] else .dict [("$and", .list written)]

mutual

def toValue : Condition → Value
  | .leaf p => .dict [(p.column.display, .dict [(testKey p.test, p.operand)])]
  | .has relation inner =>
    .dict [("$has", .dict [("relation", .text relation), ("where", conjunction (toValues inner))])]

def toValues : List Condition → List Value
  | [] => []
  | c :: cs => toValue c :: toValues cs

end

def entryText (key text : String) : String :=
  Value.enclosed "\x7b" [key ++ ": " ++ text] '}'

def conjunctionText (written : List String) : String :=
  if written.isEmpty then Value.enclosed "\x7b" [] '}'
  else entryText (Text.quoted "$and") (Value.enclosed "[" written ']')

mutual

/-- The written form of a condition as text. Columns that are no texts show as what they are. -/
def literal : Condition → String
  | .leaf p => entryText p.column.literal (Value.dict [(testKey p.test, p.operand)]).literal
  | .has relation inner =>
    entryText (Text.quoted "$has") (Value.enclosed "\x7b"
      [Text.quoted "relation" ++ ": " ++ Text.quoted relation,
        Text.quoted "where" ++ ": " ++ conjunctionText (literals inner)] '}')

def literals : List Condition → List String
  | [] => []
  | c :: cs => literal c :: literals cs

end

mutual

def IsNamed : Condition → Prop
  | .leaf p => ∃ s, p.column = .text s
  | .has _ inner => AreNamed inner

def AreNamed : List Condition → Prop
  | [] => True
  | c :: cs => IsNamed c ∧ AreNamed cs

end

theorem conjunctionText_eq (vs : List Value) :
    conjunctionText (vs.map Value.literal) = (conjunction vs).literal := by
  cases vs with
  | nil =>
    simp only [conjunctionText, conjunction, List.map_nil, List.isEmpty_nil, if_true,
      Value.literal_dict, Value.entryLiterals_nil]
  | cons v vs =>
    simp only [conjunctionText, conjunction, entryText, List.map_cons, List.isEmpty_cons,
      Bool.false_eq_true, if_false, Value.literal_dict, Value.literal_list,
      Value.entryLiterals_cons, Value.entryLiterals_nil, Value.literals_eq_map]

mutual

/-- Both written forms agree where all columns are named by texts. -/
theorem literal_eq (c : Condition) (h : IsNamed c) : literal c = (toValue c).literal := by
  cases c with
  | leaf p =>
    simp only [IsNamed] at h
    obtain ⟨s, hs⟩ := h
    simp only [literal, toValue, entryText, hs, Value.display_text, Value.literal_dict,
      Value.literal_text, Value.entryLiterals_cons, Value.entryLiterals_nil]
  | has r inner =>
    simp only [IsNamed] at h
    simp only [literal, toValue, entryText, Value.literal_dict, Value.literal_text,
      Value.entryLiterals_cons, Value.entryLiterals_nil, literals_eq inner h, conjunctionText_eq]

theorem literals_eq (cs : List Condition) (h : AreNamed cs) :
    literals cs = (toValues cs).map Value.literal := by
  cases cs with
  | nil => simp only [literals, toValues, List.map_nil]
  | cons c cs =>
    simp only [AreNamed] at h
    simp only [literals, toValues, List.map_cons, literal_eq c h.1, literals_eq cs h.2]

end

theorem toValues_eq_map (cs : List Condition) : toValues cs = cs.map toValue := by
  induction cs with
  | nil => simp [toValues]
  | cons c cs ih => simp [toValues, ih]

end Condition

structure ConditionQuery where
  catalog : Catalog
  settings : Settings
  subject : Value
  table : String
  nodes : List Condition := []

namespace ConditionQuery

/-- The table of a query's subject. A filterable entity has to have one. -/
def subjectTable (c : Catalog) (v : Value) : Except Fault String :=
  match c.filterable? v with
  | some e => e.requiredTable
  | none => .ok (((c.subject? v).bind (·.table)).getD "")

/-- An empty query; without a table given, over the table of its subject. -/
def start (c : Catalog) (s : Settings) (v : Value) (table : Option String) :
    Except Fault ConditionQuery :=
  match table with
  | some t => .ok ⟨c, s, v, t, []⟩
  | none => (subjectTable c v).map fun t => ⟨c, s, v, t, []⟩

def toValue (q : ConditionQuery) : Value :=
  Condition.conjunction (Condition.toValues q.nodes)

def text (q : ConditionQuery) : String :=
  Condition.conjunctionText (Condition.literals q.nodes)

def literal (q : ConditionQuery) : String :=
  "<ConditionQueryable: " ++ q.text ++ ">"

theorem text_eq {q : ConditionQuery} (h : Condition.AreNamed q.nodes) :
    q.text = q.toValue.literal := by
  simp only [text, toValue, Condition.literals_eq q.nodes h, Condition.conjunctionText_eq]

def record (q : ConditionQuery) (c : Condition) : ConditionQuery :=
  { q with nodes := q.nodes ++ [c] }

/-- The operand as it is recorded: members and bounds as a list, a test for null as its sense. -/
def recordedOperand (test : Test) (operand : Value) : Except Fault Value :=
  match test with
  | .within _ | .between _ => operand.elements.map .list
  | .null negated => .ok (.bool !negated)
  | _ => .ok operand

/-- Records a predicate. Its column has to be fit for the key of a mapping. -/
def add (q : ConditionQuery) (p : Predicate) : Except Fault ConditionQuery := do
  let operand ← recordedOperand p.test p.operand
  if !p.column.isHashable then throw .wrongKind
  pure (q.record (.leaf { p with operand }))

/-- What a relation of the query's subject leads to. A declared relation wins over one that the
catalogue knows. -/
def related? (q : ConditionQuery) (relation : String) : Except Fault (Option Value) :=
  match q.catalog.filterable? q.subject with
  | none => .ok none
  | some e => do
    let relations ← q.catalog.relationsOfEntity q.settings e
    match relations.get? relation with
    | some r => q.catalog.relatedFor q.subject r
    | none =>
      e.requireSchema
      q.catalog.linked? q.subject relation

def scope (q : ConditionQuery) (relation : String) : Except Fault (Option ConditionQuery) := do
  match ← q.related? relation with
  | none => pure none
  | some v => (start q.catalog q.settings v none).map some

def attach (q : ConditionQuery) (relation : String) (inner : ConditionQuery) : ConditionQuery :=
  if inner.nodes.isEmpty then q else q.record (.has relation inner.nodes)

instance : Backend ConditionQuery where
  subject q := q.subject
  table q := .ok q.table
  size q := q.nodes.length
  add q p := Traced.ofExcept (q.add p)
  refuseComparison q _ _ := pure q
  scope q relation := Traced.ofExcept (q.scope relation)
  attach := attach

end ConditionQuery

end QueryFilter
