import QueryFilter.Source
import QueryFilter.Traversal

/-! Applying filters to a query: where they come from, how many are taken, and under which
configuration. -/

namespace QueryFilter

open Traced Building

namespace Scope

def resolveConfig (x : Scope) (options : Value) : Traced FilterConfig := do
  let e ← x.catalog.filterableEntity x.subject
  let entityOptions ← e.filterOptions
  QueryFilter.resolveConfig .lenient x.settings (.dict entityOptions.named) options

/-- Filters given directly win over those of a request. -/
def resolveFilters (x : Scope) (filters source : Value) : Except Fault (Keyed FilterSpec) :=
  if filters.isTrue then FilterSpec.ofFilters filters
  else if source.isNull then .ok []
  else do
    let fields ← x.fields
    readSource (allowances fields) source x.settings.requestPrefix
      (.text x.settings.arrayDelimiter)

/-- The filters that are taken when there are more than the limit. No positive limit is none. -/
def limited (x : Scope) (specs : Keyed FilterSpec) : Traced (Keyed FilterSpec) := do
  let limit := x.settings.maxFilters
  if limit ≤ 0 ∨ specs.length ≤ limit.toNat then pure specs
  else
    log .warning logger ("Received " ++ toString specs.length ++ " filters, only the first " ++
      toString limit ++ " are applied")
    pure (specs.take limit.toNat)

variable {Q : Type} [Backend Q]

/-- Applies specifications one after another and counts those that became predicates. -/
def applyFilters (x : Scope) (config : FilterConfig) : List FilterSpec → Q → Building Q Nat
  | [], q => done 0 q
  | spec :: specs, q =>
    (x.applySingle config spec q).andThen fun applied q =>
      (x.applyFilters config specs q).andThen fun n q =>
        done (applied.toNat + n) q

def appliedNote (x : Scope) (applied total : Nat) (config : FilterConfig) : Traced Unit := do
  let name ← x.entityName
  note ("Applied " ++ toString applied ++ " of " ++ toString total ++ " filters to " ++ name ++
    " (config=" ++ config.display ++ ")")

/-- The filters and the configuration of a call; none when there is nothing to do. -/
def prepare (x : Scope) (filters options source : Value) :
    Traced (Option (List FilterSpec × FilterConfig)) := do
  if !x.settings.enabled then pure none
  else
    let specs ← (x.resolveFilters filters source : Except Fault _)
    if specs.isEmpty then pure none
    else
      let specs ← x.limited specs
      let config ← x.resolveConfig options
      pure (some (specs.map Prod.snd, config))

def apply (x : Scope) (filters options source : Value) (q : Q) : Building Q Unit :=
  (aside q (x.prepare filters options source)).andThen fun prepared q =>
    match prepared with
    | none => done () q
    | some (specs, config) =>
      (x.applyFilters config specs q).andThen fun n q =>
        aside q (x.appliedNote n specs.length config)

/-- Applies the filters of a call without the limit on their number. -/
def applyAll (x : Scope) (filters options source : Value) (q : Q) : Building Q Nat :=
  (aside q (do
    let specs ← (x.resolveFilters filters source : Except Fault _)
    let config ← x.resolveConfig options
    pure (specs.map Prod.snd, config))).andThen fun prepared q =>
      x.applyFilters prepared.2 prepared.1 q

/-- Refuses the first path whose first relation is not declared or does not allow the rest. -/
def validatePaths (x : Scope) : List FilterSpec → Except Fault Unit
  | [] => .ok ()
  | spec :: specs =>
    if !spec.isPath then x.validatePaths specs
    else do
      let (name, rest) := spec.headRest
      let relations ← x.relations
      match relations.get? name with
      | none =>
        throw (.refused (.forRelation .relation (.text name) (.text "relation is not filterable")))
      | some r =>
        if rest = "" ∨ ¬ r.allows rest then
          throw (.refused (.forRelation .relation (.text name)
            (.text ("field [" ++ rest ++ "] is not filterable"))))
        else x.validatePaths specs

def validateRelations (x : Scope) (filters : Value) : Except Fault Unit := do
  let specs ← FilterSpec.ofFilters filters
  x.validatePaths (specs.map Prod.snd)

/-- The scope of an entity, or of the entity of a record; anything that is not filterable is
refused. -/
def forEntity (c : Catalog) (s : Settings) (v : Value) : Traced Scope :=
  match c.filterable? v with
  | some e => pure { catalog := c, settings := s, subject := .entity e.name }
  | none => do
    let refusal := Refusal.forEntity .entity v
    log .error "SmartFilterManager" refusal.text
    fail (.refused refusal)

def applyTo (c : Catalog) (s : Settings) (filters options source : Value) (q : Q) :
    Building Q Unit :=
  (aside q (forEntity c s (Backend.subject q))).andThen fun x q =>
    x.apply filters options source q

def applyThrough (c : Catalog) (s : Settings) (v filters options source : Value) (q : Q) :
    Building Q Unit :=
  (aside q (do
    let e ← c.filterableEntity v
    pure { catalog := c, settings := s, subject := .entity e.name : Scope })).andThen fun x q =>
      x.apply filters options source q

end Scope

end QueryFilter
