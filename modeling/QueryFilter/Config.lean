import QueryFilter.Settings
import QueryFilter.Trace
import QueryFilter.Value.Elements

/-! Configuration of one application of filters. Layers of options are merged entry by entry into
raw options, which are read as a whole after each one: an entry that makes them invalid is reported
and left out. -/

namespace QueryFilter

open Checked

structure FilterConfig where
  deep : Bool := true
  maxDepth : Nat := 2
  caseSensitive : Bool := false
  strict : Bool := false
  deriving DecidableEq

inductive ConfigKey where
  | deep | maxDepth | caseSensitive | strict
  deriving DecidableEq

def ConfigKey.all : List ConfigKey :=
  [.deep, .maxDepth, .caseSensitive, .strict]

def ConfigKey.name : ConfigKey → String
  | .deep => "deep"
  | .maxDepth => "max_relation_depth"
  | .caseSensitive => "case_sensitive"
  | .strict => "strict_mode"

namespace FilterConfig

def display (c : FilterConfig) : String :=
  " ".intercalate (Value.assignments
    [("deep", Value.boolLiteral c.deep), ("max_relation_depth", toString c.maxDepth),
      ("case_sensitive", Value.boolLiteral c.caseSensitive),
      ("strict_mode", Value.boolLiteral c.strict)])

/-- A negative depth counts as none. -/
def clampDepth (n : Int) : Nat :=
  n.toNat

/-- The configuration with one entry set, unless the value is not valid for it. -/
def assign (checks : Checks) (c : FilterConfig) (key : ConfigKey) (v : Value) :
    Check.Outcome FilterConfig :=
  match key with
  | .deep => (checks.bool v).map fun b => { c with deep := b }
  | .maxDepth => (checks.int v).map fun n => { c with maxDepth := clampDepth n }
  | .caseSensitive => (checks.bool v).map fun b => { c with caseSensitive := b }
  | .strict => (checks.bool v).map fun b => { c with strict := b }

/-- Reads the entry at a key, where there is one. After an issue the entry is read only for its
own. -/
def assignPart (checks : Checks) (parts : Keyed Value) (r : Checked FilterConfig)
    (key : ConfigKey) : Checked FilterConfig :=
  match r, parts.get? key.name with
  | r, none => r
  | .ok c, some v => inPlace key.name (c.assign checks key v)
  | .error is, some v => .error (is ++ (inPlace key.name (assign checks {} key v)).issues)

def ofParts (checks : Checks) (parts : Keyed Value) : Except Fault FilterConfig :=
  (ConfigKey.all.foldl (assignPart checks parts) (.ok {})).toExcept

/-- The configuration behind one more relation, with a given depth instead of its own. -/
def descend (c : FilterConfig) (depth : Option Int) : FilterConfig :=
  { c with maxDepth := clampDepth (depth.getD c.maxDepth - 1) }

/-- The options that hold where nothing else is given. -/
def builtIn : Keyed Value :=
  [("deep", .bool true), ("max_relation_depth", .int 2), ("case_sensitive", .bool false),
    ("strict_mode", .bool false)]

def defaultsOf (s : Settings) : Keyed Value :=
  [("deep", .bool s.deep), ("max_relation_depth", .int s.maxDepth),
    ("case_sensitive", .bool s.caseSensitive), ("strict_mode", .bool s.strict)]

end FilterConfig

def occursIn (part : List Char) : List Char → Bool
  | [] => part.isEmpty
  | c :: cs => part.isPrefixOf (c :: cs) || occursIn part cs

/-- The entry of a layer of options. Anything empty has none; of other values only a mapping can
give one, and only values that can be searched may be asked. -/
def layerEntry (layer : Value) (key : String) : Except Fault (Option Value) :=
  if !layer.isTrue then .ok none
  else
    match layer with
    | .dict es => .ok (Keyed.get? es key)
    | .list vs | .tuple vs | .set vs | .frozen vs =>
      if vs.any (·.asText? == some key) then .error .wrongKind else .ok none
    | .spec .. | .field .. | .relation .. => .ok none
    | v =>
      match v.asText? with
      | some s => if occursIn key.toList s.toList then .error .wrongKind else .ok none
      | none => .error .wrongKind

/-- The options with one entry of a layer, unless they are then no configuration any more. -/
def mergeEntry (checks : Checks) (layer : Value) (merged : Keyed Value) (key : ConfigKey) :
    Traced (Keyed Value) := do
  match ← (layerEntry layer key.name : Except Fault _) with
  | none => pure merged
  | some v =>
    match FilterConfig.ofParts checks (merged.put key.name v) with
    | .ok _ => pure (merged.put key.name v)
    | .error _ =>
      Traced.log .warning "smartfilter.config"
        ("Ignoring invalid filter option " ++ key.name ++ "=" ++ v.literal)
      pure merged

def mergeLayer (checks : Checks) (merged : Keyed Value) (layer : Value) : Traced (Keyed Value) :=
  ConfigKey.all.foldlM (mergeEntry checks layer) merged

/-- The configuration for an entity's options and the options of a call. The settings give the
defaults and the greatest depth. -/
def resolveConfig (checks : Checks) (s : Settings) (entityOptions options : Value) :
    Traced FilterConfig := do
  let merged ← mergeLayer checks FilterConfig.builtIn (.dict (FilterConfig.defaultsOf s))
  let merged ← mergeLayer checks merged entityOptions
  let merged ← mergeLayer checks merged options
  let c ← (FilterConfig.ofParts checks merged : Except Fault _)
  pure { c with maxDepth := min c.maxDepth (FilterConfig.clampDepth s.relationMaxDepth) }

/-- The first option that is no key of a configuration, if there is one. -/
def unknownOption? (options : List Value) : Option Value :=
  options.find? fun v => !ConfigKey.all.any fun k => v.asText? == some k.name

def validateOptions (options : Value) : Except Fault Unit := do
  let keys ← if options.isTrue then options.elements else pure []
  match unknownOption? keys with
  | some key => throw (.refused (.forKey .configuration key))
  | none => pure ()

end QueryFilter
