import CommandMarkup.Registry.Environment
import CommandMarkup.Registry.Event

/-!
Registries: what command names resolve to, and the targets that operations are dispatched to.

A registry remembers a handle, or that there is none, under the lower case of each name that it has
met, and one target for each command name and operation. Several registries may share a host: the
world of the handlers, the log, the module names looked up, and the supply of serial numbers, by
which two things made at different times are told apart even if they look alike.
-/

namespace CommandMarkup

/-- The two operations of a handler. -/
inductive Operation where
  | prepare
  | render
  deriving DecidableEq

namespace Operation

/-- The name of the operation. -/
def toText : Operation → Text
  | prepare => "prepare".toList
  | render => "render".toList

/-- All operations. -/
def all : List Operation := [prepare, render]

/-- The operation of that name. -/
def ofText? (t : Text) : Option Operation := all.find? fun operation => operation.toText = t

end Operation

/-- A handler under a command name, with the module that it came from. -/
structure Handle (ω : Type) where
  name : Text
  moduleName : Text
  handler : Handler ω
  serial : Nat

/-- An operation bound to a handler. -/
structure Target (ω : Type) where
  operation : Operation
  handler : Handler ω
  serial : Nat

/-- The module name of handlers that were registered and not loaded. -/
def registeredModule : Text := "<registered>".toList

/-- What one registry remembers. -/
structure Memory (ω : Type) where
  handles : Table Text (Option (Handle ω)) := Table.empty
  targets : Table (Text × Operation) (Target ω) := Table.empty

/-- What registries share. The log has its oldest event first. -/
structure Host (ω : Type) where
  world : ω
  log : List Event := []
  probes : List Text := []
  nextSerial : Nat := 0

/-- What the operations of a registry work on. -/
structure State (ω : Type) extends Memory ω, Host ω

/-- What a registry is set up with. -/
structure Registry (ω : Type) where
  settings : Settings := {}
  environment : Environment ω

namespace Host

variable {ω : Type}

/-- Writes an event to the log. -/
def note (host : Host ω) (event : Event) : Host ω := { host with log := host.log ++ [event] }

/-- Notes that a module name is looked up. -/
def probe (host : Host ω) (moduleName : Text) : Host ω :=
  { host with probes := host.probes ++ [moduleName] }

/-- Makes a new handle. -/
def newHandle (host : Host ω) (name moduleName : Text) (handler : Handler ω) :
    Outcome (Host ω) (Handle ω) :=
  .ok ⟨name, moduleName, handler, host.nextSerial⟩ { host with nextSerial := host.nextSerial + 1 }

end Host

namespace State

variable {ω : Type}

/-- The state of a registry that has met no name. -/
def initial (world : ω) : State ω := { world }

/-- Writes an event to the log. -/
def note (s : State ω) (event : Event) : State ω := { s with toHost := s.toHost.note event }

/-- The state in which a name is remembered to have that handle, or none. -/
def remember (s : State ω) (name : Text) (entry : Option (Handle ω)) : State ω :=
  { s with handles := s.handles.put name entry }

/-- An operation on the host, seen from a registry. -/
def onHost {α : Type} (s : State ω) (o : Outcome (Host ω) α) : Outcome (State ω) α :=
  ⟨o.result, { s with toHost := o.state }⟩

end State

end CommandMarkup
