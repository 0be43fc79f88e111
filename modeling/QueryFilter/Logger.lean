import QueryFilter.Settings
import QueryFilter.Template
import QueryFilter.Trace

/-! Named loggers bound to settings, and the level that is set up once for all of them. -/

namespace QueryFilter

structure Logger where
  name : String := "smartfilter.logger"
  settings : Settings := {}

/-- The level that a value names; nothing, bytes and unknown names mean `info`. -/
def Level.ofValue (v : Value) : Except Fault Level :=
  if !v.isTrue then .ok .info
  else
    match v, v.asText? with
    | .bytes _, _ => .ok .info
    | _, some s => .ok (Level.ofText s)
    | _, none => .error .noSuchMember

namespace Logger

/-- An empty name is the default one. -/
def named (name : String) (settings : Settings) : Logger :=
  if name = "" then { settings } else { name, settings }

def traceLevel (l : Logger) : Level :=
  Level.ofText l.settings.logLevel

def write (l : Logger) (level : Level) (template : String) (args : List Value) : Traced Unit := do
  let message ← (Template.render template args : Except Fault _)
  Traced.log level l.name message

end Logger

/-- The level that logging was set up with, if it was, and the logger in use. -/
structure Logging where
  level : Option Level := none
  current : Option Logger := none

namespace Logging

/-- Sets the level the first time; later calls change nothing. -/
def setUp (g : Logging) (level : Level) : Logging :=
  if g.level.isSome then g else { g with level := some level }

/-- Sets the level up from at most one argument, which is not looked at when it is too late. -/
def setUpFrom (g : Logging) (args : List Value) : Except Fault Logging :=
  match args with
  | [] => .ok (g.setUp .info)
  | [v] => if g.level.isSome then .ok g else (Level.ofValue v).map g.setUp
  | _ => .error .wrongKind

/-- Takes a logger into use, and sets the level up from its settings if nobody has. -/
def use (g : Logging) (l : Logger) : Logging :=
  { g.setUp l.traceLevel with current := some l }

theorem setUp_setUp (g : Logging) (a b : Level) : (g.setUp a).setUp b = g.setUp a := by
  unfold setUp
  split <;> simp

end Logging

end QueryFilter
