import QueryFilter.Check
import QueryFilter.Keyed
import QueryFilter.Value.Json

/-! Settings, with their defaults. Each can be given by name or by an environment variable whose
name, up to letter case, is the setting's name after a fixed beginning. -/

namespace QueryFilter

/-- Year, month and day in figures, with hyphens between them. -/
def standardDateFormat : String := "%Y-%m-%d"

structure Settings where
  enabled : Bool := true
  deep : Bool := true
  maxDepth : Int := 2
  caseSensitive : Bool := false
  strict : Bool := false
  excludedFields : List String :=
    ["id", "uuid", "created_at", "updated_at", "deleted_at", "password", "remember_token",
      "email_verified_at", "two_factor_secret", "two_factor_recovery_codes"]
  defaultOperators : Keyed String :=
    [("string", "like"), ("integer", "="), ("float", "="), ("boolean", "="), ("date", "="),
      ("array", "in")]
  discoverRelations : Bool := true
  relationMaxDepth : Int := 3
  excludedRelations : List String := ["password", "secret", "tokens", "oauth_providers"]
  maxFilters : Int := 20
  requestPrefix : String := ""
  arrayDelimiter : String := ","
  dateFormat : String := standardDateFormat
  debug : Bool := false
  logLevel : String := "INFO"
  deriving DecidableEq

namespace Settings

open Checked

def entries (s : Settings) : Keyed Value :=
  [("ENABLED", .bool s.enabled), ("DEFAULT_DEEP", .bool s.deep),
    ("DEFAULT_MAX_RELATION_DEPTH", .int s.maxDepth),
    ("DEFAULT_CASE_SENSITIVE", .bool s.caseSensitive), ("DEFAULT_STRICT_MODE", .bool s.strict),
    ("EXCLUDED_FIELDS", .list (s.excludedFields.map .text)),
    ("DEFAULT_OPERATORS", .dict (s.defaultOperators.map fun e => (e.1, .text e.2))),
    ("RELATION_AUTO_DISCOVER", .bool s.discoverRelations),
    ("RELATION_MAX_DEPTH", .int s.relationMaxDepth),
    ("EXCLUDED_RELATIONS", .list (s.excludedRelations.map .text)),
    ("MAX_FILTERS", .int s.maxFilters), ("REQUEST_PREFIX", .text s.requestPrefix),
    ("ARRAY_DELIMITER", .text s.arrayDelimiter), ("DATE_FORMAT", .text s.dateFormat),
    ("DEBUG", .bool s.debug), ("LOG_LEVEL", .text s.logLevel)]

/-- One setting by name, up to letter case. -/
def lookup? (s : Settings) (key : String) : Option Value :=
  s.entries.get? (Text.upper key)

/-- What a question for one setting, with a default, or for all of them gives. -/
def ask (s : Settings) : List Value → Except Fault Value
  | [] | [.null] | [.null, _] => .ok (.dict s.entries)
  | [key] => named key .null
  | [key, default] => named key default
  | _ => .error .wrongKind
where
  named (key default : Value) : Except Fault Value :=
    match key.asText? with
    | some name => .ok ((s.lookup? name).getD default)
    | none => .error .noSuchMember

def boolIn (raw : Keyed Value) (key : String) (default : Bool) : Checked Bool :=
  inPlace key (((raw.get? key).map Check.bool).getD (.ok default))

def intIn (raw : Keyed Value) (key : String) (default : Int) : Checked Int :=
  inPlace key (((raw.get? key).map Check.int).getD (.ok default))

def textIn (raw : Keyed Value) (key : String) (default : String) : Checked String :=
  inPlace key (((raw.get? key).map Check.text).getD (.ok default))

def listIn (raw : Keyed Value) (key : String) (default : List String) : Checked (List String) :=
  ((raw.get? key).map (textList key)).getD (.ok default)

def mapIn (raw : Keyed Value) (key : String) (default : Keyed String) : Checked (Keyed String) :=
  ((raw.get? key).map (textMap key)).getD (.ok default)

/-- The settings with raw values for some of them. Values are checked in order, and all issues
are gathered; names that are no setting are ignored. -/
def ofRaw (raw : Keyed Value) : Checked Settings :=
  let d : Settings := {}
  let enabled := boolIn raw "ENABLED" d.enabled
  let deep := boolIn raw "DEFAULT_DEEP" d.deep
  let maxDepth := intIn raw "DEFAULT_MAX_RELATION_DEPTH" d.maxDepth
  let caseSensitive := boolIn raw "DEFAULT_CASE_SENSITIVE" d.caseSensitive
  let strict := boolIn raw "DEFAULT_STRICT_MODE" d.strict
  let excludedFields := listIn raw "EXCLUDED_FIELDS" d.excludedFields
  let defaultOperators := mapIn raw "DEFAULT_OPERATORS" d.defaultOperators
  let discoverRelations := boolIn raw "RELATION_AUTO_DISCOVER" d.discoverRelations
  let relationMaxDepth := intIn raw "RELATION_MAX_DEPTH" d.relationMaxDepth
  let excludedRelations := listIn raw "EXCLUDED_RELATIONS" d.excludedRelations
  let maxFilters := intIn raw "MAX_FILTERS" d.maxFilters
  let requestPrefix := textIn raw "REQUEST_PREFIX" d.requestPrefix
  let arrayDelimiter := textIn raw "ARRAY_DELIMITER" d.arrayDelimiter
  let dateFormat := textIn raw "DATE_FORMAT" d.dateFormat
  let debug := boolIn raw "DEBUG" d.debug
  let logLevel := textIn raw "LOG_LEVEL" d.logLevel
  let found := enabled.issues ++ deep.issues ++ maxDepth.issues ++ caseSensitive.issues ++
    strict.issues ++ excludedFields.issues ++ defaultOperators.issues ++
    discoverRelations.issues ++ relationMaxDepth.issues ++ excludedRelations.issues ++
    maxFilters.issues ++ requestPrefix.issues ++ arrayDelimiter.issues ++ dateFormat.issues ++
    debug.issues ++ logLevel.issues
  if !found.isEmpty then .error found
  else do
    pure {
      enabled := ← enabled, deep := ← deep, maxDepth := ← maxDepth
      caseSensitive := ← caseSensitive, strict := ← strict
      excludedFields := ← excludedFields, defaultOperators := ← defaultOperators
      discoverRelations := ← discoverRelations, relationMaxDepth := ← relationMaxDepth
      excludedRelations := ← excludedRelations, maxFilters := ← maxFilters
      requestPrefix := ← requestPrefix, arrayDelimiter := ← arrayDelimiter
      dateFormat := ← dateFormat, debug := ← debug, logLevel := ← logLevel }

/-- The settings whose variables are written as JSON. -/
def structured : List String :=
  ["EXCLUDED_FIELDS", "DEFAULT_OPERATORS", "EXCLUDED_RELATIONS"]

/-- The raw value of a setting in the environment. Of variables whose names differ only in letter
case the last counts, and a null counts as absent. -/
def fromEnvironment (env : Keyed String) (key : String) : Except Fault (Option Value) :=
  let name := Text.lower ("SMART_FILTER_" ++ key)
  match env.reverse.find? (fun e => Text.lower e.1 = name) with
  | none => .ok none
  | some (_, written) =>
    if structured.contains key then
      match Value.Json.read? written with
      | none => .error .settingsText
      | some v => .ok (if v.isNull then none else some v)
    else .ok (some (.text written))

/-- Entries of a mapping that is given replace those of the environment one by one; any other
value replaces the environment's. -/
def overlay (low high : Value) : Value :=
  match low, high with
  | .dict es, .dict fs => .dict (fs.foldl (fun m e => Keyed.put m e.1 e.2) es)
  | _, high => high

def load (env : Keyed String) (given : Keyed Value) : Except Fault Settings := do
  let names := (({} : Settings).entries).keys
  let found ← names.mapM fun key => (fromEnvironment env key).map fun v => (key, v)
  let raw := found.filterMap fun (key, v) =>
    match v, given.get? key with
    | some low, some high => some (key, overlay low high)
    | some low, none => some (key, low)
    | none, some high => some (key, high)
    | none, none => none
  (ofRaw raw).toExcept

end Settings

end QueryFilter
