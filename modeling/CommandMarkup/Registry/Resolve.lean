import CommandMarkup.Call.Grammar
import CommandMarkup.Handler.ClassName
import CommandMarkup.Registry.Basic

/-!
Resolving command names. The first package in order that has a module of the name decides, and what
it comes to is remembered, a failure to load included. What breaks a package or a handler is passed
on and not remembered.
-/

namespace CommandMarkup.Registry

variable {ω : Type}

/-- The full name of the module that a package would provide a command in. -/
def moduleNameIn (package name : Text) : Text := package ++ '.' :: name

/-- The first module of the name in the packages. A package that is missing is skipped with a
warning. -/
def search (r : Registry ω) (name : Text) :
    List Text → Host ω → Outcome (Host ω) (Option (Text × Import (CommandModule ω)))
  | [], host => .ok none host
  | package :: packages, host =>
    let host := host.probe (moduleNameIn package name)
    match r.environment.package package with
    | .missing _ => search r name packages (host.note (.packageMissing package))
    | .failed reason => .error (.foreign .importing reason) host
    | .crashed fault => .error fault host
    | .loaded found =>
      match found.module? name with
      | some commandModule => .ok (some (moduleNameIn package name, commandModule)) host
      | none => search r name packages host

/-- A new handle for the handler class that a module defines for the command. -/
def load (r : Registry ω) (name moduleName : Text) (found : Import (CommandModule ω))
    (host : Host ω) : Outcome (Host ω) (Handle ω) :=
  match found with
  | .missing reason => .error (.load name moduleName reason) host
  | .failed reason => .error (.load name moduleName reason) host
  | .crashed fault => .error fault host
  | .loaded commandModule =>
    let className := Handler.classNameOf name
    match commandModule.handlerClass? className with
    | none =>
      let reason := "no CommandHandler subclass named ".toList ++ className
      .error (.load name moduleName reason) host
    | some handlerClass =>
      let host := host.note (.loaded name moduleName)
      match handlerClass.construct r.settings host.world with
      | ⟨.ok handler, world⟩ => { host with world }.newHandle name moduleName handler
      | ⟨.error fault, world⟩ => .error fault { host with world }

/-- Settles that there is no handler for a name. -/
def giveUp (name : Text) (host : Host ω) : Outcome (Host ω) (Option (Handle ω)) :=
  .ok none (host.note (.notFound name))

/-- What a name that was not met before comes to. -/
def build (r : Registry ω) (name : Text) (host : Host ω) :
    Outcome (Host ω) (Option (Handle ω)) :=
  if Call.isName name then
    (r.search name r.settings.extensionPackages host).andThen fun hit host =>
      match hit with
      | none => giveUp name host
      | some (moduleName, found) =>
        match r.load name moduleName found host with
        | ⟨.ok handle, host⟩ => .ok (some handle) host
        | ⟨.error (.load command source reason), host⟩ =>
          giveUp name (host.note (.loadFailed command source reason))
        | ⟨.error fault, host⟩ => .error fault host
  else giveUp name host

/-- The handle of a command name in whatever case, or none if there is no handler. -/
def resolve (r : Registry ω) (name : Text) (s : State ω) :
    Outcome (State ω) (Option (Handle ω)) :=
  match s.handles.get? (Text.lower name) with
  | some entry => .ok entry s
  | none =>
    (s.onHost (r.build (Text.lower name) s.toHost)).andThen fun entry s =>
      .ok entry (s.remember (Text.lower name) entry)

/-- Whether a command name resolves to a handler. -/
def isKnown (r : Registry ω) (name : Text) (s : State ω) : Outcome (State ω) Bool :=
  (r.resolve name s).andThen fun entry s => .ok entry.isSome s

end CommandMarkup.Registry
