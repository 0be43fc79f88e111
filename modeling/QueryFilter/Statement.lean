import QueryFilter.Backend
import QueryFilter.Catalog
import QueryFilter.Text.Split
import QueryFilter.Value.Elements

/-! Queries recorded as criteria of a select statement over a mapped entity, and the text of the
statement with its parameters. -/

namespace QueryFilter

/-- A test of a column with its operands (none, one, two, or a list of members), or a relation that
is followed from a table to another. The link names the relation and says whether any row behind it
or the one row there has to meet the criteria. -/
inductive Criterion where
  | column (table name : String) (test : Test) (operands : List Value)
  | related (owner : String) (link : Link) (table : String) (inner : List Criterion)

structure SelectQuery where
  catalog : Catalog
  entity : Entity
  columns : List String
  criteria : List Criterion := []

/-- A piece of a statement and the parameters of its question marks, in order. -/
structure Fragment where
  sql : String
  params : List Value := []

namespace Fragment

def join (separator : String) (fs : List Fragment) : Fragment :=
  ⟨separator.intercalate (fs.map (·.sql)), fs.flatMap (·.params)⟩

def map (f : String → String) (x : Fragment) : Fragment :=
  { x with sql := f x.sql }

def param (v : Value) : Fragment :=
  ⟨"?", [v]⟩

end Fragment

namespace Criterion

/-- Truth values are written out; other operands are parameters. -/
def literalOf? : Value → Option String
  | .bool b => some (if b then "1" else "0")
  | _ => none

def comparisonText (c : Comparison) (column : String) : String × String :=
  match c with
  | .like => (column ++ " LIKE ", "")
  | .notLike => (column ++ " NOT LIKE ", "")
  | .ilike => ("lower(" ++ column ++ ") LIKE lower(", ")")
  | .notIlike => ("lower(" ++ column ++ ") NOT LIKE lower(", ")")
  | c => (column ++ " " ++ c.symbol ++ " ", "")

def nullText (column : String) (negated : Bool) : Fragment :=
  ⟨column ++ (if negated then " IS NOT NULL" else " IS NULL"), []⟩

/-- A comparison with one operand. Null is asked for by name. -/
def compareFragment (c : Comparison) (column : String) (v : Value) : Fragment :=
  match v, c, literalOf? v with
  | .null, .ne, _ => nullText column true
  | .null, _, _ => nullText column false
  | _, _, some word => ⟨column ++ " " ++ c.symbol ++ " " ++ word, []⟩
  | v, c, none =>
    let (before, after) := comparisonText c column
    ⟨before ++ "?" ++ after, [v]⟩

def membersFragment (vs : List Value) : Fragment :=
  if vs.isEmpty then ⟨"(SELECT 1 FROM (SELECT 1) WHERE 1!=1)", []⟩
  else (Fragment.join ", " (vs.map Fragment.param)).map fun s => "(" ++ s ++ ")"

def partFormat : DatePart → String
  | .month => "%m"
  | .year => "%Y"
  | .day => "%d"

def partText (p : DatePart) (column : String) : String :=
  "CAST(STRFTIME('" ++ partFormat p ++ "', " ++ column ++ ") AS INTEGER)"

def columnFragment (column : String) (test : Test) (operands : List Value) : Fragment :=
  let operand := operands.headD .null
  match test with
  | .compare c => compareFragment c column operand
  | .within negated =>
    let members := membersFragment operands
    if negated then members.map fun s => "(" ++ column ++ " NOT IN " ++ s ++ ")"
    else members.map fun s => column ++ " IN " ++ s
  | .between negated =>
    ⟨column ++ (if negated then " NOT BETWEEN ? AND ?" else " BETWEEN ? AND ?"), operands⟩
  | .null negated => nullText column negated
  | .date => compareFragment .eq ("date(" ++ column ++ ")") operand
  | .part p => compareFragment .eq (partText p column) operand

/-- The key of the one side equals the key column of the many side. -/
def joinText (owner : String) (l : Link) (table : String) : String :=
  let (one, many) := if l.many then (owner, table) else (table, owner)
  one ++ ".id = " ++ many ++ "." ++ l.keyColumn

/-- That a relation leads to rows that meet criteria. -/
def existsFragment (tables : List String) (join : String) (inner : List Fragment) : Fragment :=
  (Fragment.join " AND " (⟨join, []⟩ :: inner)).map fun s =>
    "EXISTS (SELECT 1 FROM " ++ Value.commas tables ++ " WHERE " ++ s ++ ")"

mutual

/-- A criterion within a conjunction. The tables beside it are those that a relation joins and
that are named nowhere around it. -/
def fragment (beside : List String) : Criterion → Fragment
  | .column table name test operands => columnFragment (table ++ "." ++ name) test operands
  | .related owner l table inner =>
    (existsFragment (table :: beside) (joinText owner l table) (fragments inner)).map
      fun s => "(" ++ s ++ ")"

def fragments : List Criterion → List Fragment
  | [] => []
  | c :: cs => fragment [] c :: fragments cs

end

/-- The criteria of a statement; a relation that stands alone needs no brackets. -/
def whereFragment (beside : List String) : List Criterion → Fragment
  | [.related owner l table inner] =>
    existsFragment (table :: beside) (joinText owner l table) (fragments inner)
  | cs => Fragment.join " AND " (cs.map (fragment beside))

def isOnColumn : Criterion → Bool
  | .column .. => true
  | .related .. => false

end Criterion

namespace SelectQuery

def logger : String := "smartfilter.queryable.sqlalchemy"

def table (q : SelectQuery) : String :=
  q.entity.table.getD ""

def start (c : Catalog) (e : Entity) : SelectQuery :=
  ⟨c, e, c.columns (e.table.getD ""), []⟩

def startWith (c : Catalog) (e : Entity) (columns : List String) : Except Fault SelectQuery :=
  let q := start c e
  if columns.all q.columns.contains then .ok { q with columns } else .error .noSuchMember

/-- The columns in order. One that comes again is numbered. -/
def selected (table : String) (before : List String) : List String → List String
  | [] => []
  | n :: ns =>
    let again := before.count n
    let name := table ++ "." ++ n
    (if again = 0 then name else name ++ " AS " ++ n ++ "__" ++ toString again) ::
      selected table (n :: before) ns

/-- Whether the statement names its table: a column is selected or asked about. -/
def namesTable (q : SelectQuery) : Bool :=
  !q.columns.isEmpty || q.criteria.any Criterion.isOnColumn

def base (q : SelectQuery) : String :=
  let selection :=
    if q.columns.isEmpty then "" else " " ++ Value.commas (selected q.table [] q.columns)
  "SELECT" ++ selection ++ if q.namesTable then " FROM " ++ q.table else ""

def statement (q : SelectQuery) : Fragment :=
  if q.criteria.isEmpty then ⟨q.base, []⟩
  else
    let beside := if q.namesTable then [] else [q.table]
    (Criterion.whereFragment beside q.criteria).map fun s => q.base ++ " WHERE " ++ s

def literal (q : SelectQuery) : String :=
  "<SQLAlchemyQueryable " ++ q.entity.name ++ ": " ++ toString q.criteria.length ++ " predicates>"

def record (q : SelectQuery) (c : Criterion) : SelectQuery :=
  { q with criteria := q.criteria ++ [c] }

def columnText (v : Value) : Except Fault String :=
  match v, v.asText? with
  | .bytes _, _ => .error .wrongKind
  | _, some s => .ok s
  | _, none => .error .noSuchMember

/-- The column that a qualified name means, if the query's table has it. -/
def column? (q : SelectQuery) (qualified : Value) : Traced (Option String) := do
  let (owner, name) := Text.tableColumn (← (columnText qualified : Except Fault _))
  if owner ≠ "" ∧ owner ≠ q.table then
    Traced.log .warning logger
      ("Column " ++ qualified.display ++ " does not belong to table " ++ q.table)
    pure none
  else if (q.catalog.columns q.table).contains name then pure (some name)
  else
    Traced.log .warning logger ("Unknown column " ++ name ++ " on " ++ q.table)
    pure none

/-- Two bounds, neither fewer nor more. -/
def unpackBounds (v : Value) : Except Fault (List Value) := do
  let vs ← v.elements
  if vs.length < 2 then .error (.tooFewBounds vs.length)
  else if 2 < vs.length then .error .tooManyBounds
  else pure vs

/-- The operands that a test makes of a value. -/
def operandsOf (test : Test) (v : Value) : Except Fault (List Value) :=
  match test with
  | .compare _ | .date | .part _ => .ok [v]
  | .within _ => v.elements
  | .between _ => unpackBounds v
  | .null _ => .ok []

def recordedOperands (q : SelectQuery) (test : Test) (v : Value) : Except Fault (List Value) :=
  operandsOf test v >>= q.catalog.expressions.record test

/-- What is asked of an operand before the column is looked up. -/
def precheck (test : Test) (v : Value) : Except Fault Unit :=
  match test with
  | .between _ => (unpackBounds v).map fun _ => ()
  | _ => .ok ()

/-- Adds a predicate; one on a column that the table does not have is left out. -/
def add (q : SelectQuery) (p : Predicate) : Traced SelectQuery := do
  precheck p.test p.operand
  match ← q.column? p.column with
  | none => pure q
  | some name =>
    let operands ← (q.recordedOperands p.test p.operand : Except Fault _)
    pure (q.record (.column q.table name p.test operands))

def link? (q : SelectQuery) (relation : String) : Option Link :=
  Catalog.Link.targetIn? q.entity.links relation

def scope (q : SelectQuery) (relation : String) : Traced (Option SelectQuery) := do
  match (q.link? relation).bind fun l => q.catalog.entity? l.target with
  | some e => pure (some (start q.catalog e))
  | none =>
    Traced.log .warning logger
      ("Model " ++ q.entity.name ++ " has no relationship " ++ relation)
    pure none

def attach (q : SelectQuery) (relation : String) (inner : SelectQuery) : SelectQuery :=
  match q.link? relation with
  | some l =>
    if inner.criteria.isEmpty then q
    else q.record (.related q.table l inner.table inner.criteria)
  | none => q

instance : Backend SelectQuery where
  subject q := .entity q.entity.name
  table q := .ok q.table
  size q := q.criteria.length
  add := add
  refuseComparison q symbol column := do
    Traced.log .warning logger
      ("Unsupported comparison " ++ symbol.literal ++ " on " ++ column.display)
    pure q
  scope := scope
  attach := attach

end SelectQuery

end QueryFilter
