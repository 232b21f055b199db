import CommandMarkup.Handler.Basic

/-!
The environment that command modules are looked for in: which packages there are, which modules
they hold, and what comes of importing either.
-/

namespace CommandMarkup

/-- What importing something comes to: it is there, it or something that it needs is not found, it
fails for another reason, or it breaks with a fault of its own. -/
inductive Import (α : Type) where
  | loaded (value : α)
  | missing (reason : Text)
  | failed (reason : Text)
  | crashed (fault : Fault)

/-- A command module: the handler classes that it defines, by name. -/
structure CommandModule (ω : Type) where
  handlerClass? : Text → Option (HandlerClass ω)

/-- The module that defines one handler class under a name. -/
def CommandModule.defining {ω : Type} (className : Text) (handlerClass : HandlerClass ω) :
    CommandModule ω where
  handlerClass? := fun name => if name = className then some handlerClass else none

/-- A package: the modules that it has, by name, and what importing each comes to. -/
structure Package (ω : Type) where
  module? : Text → Option (Import (CommandModule ω))

/-- The package with the listed modules, all of which can be imported. -/
def Package.ofModules {ω : Type} (modules : List (Text × CommandModule ω)) : Package ω where
  module? := fun name => (Table.find? name modules).map Import.loaded

/-- What importing each package comes to. -/
structure Environment (ω : Type) where
  package : Text → Import (Package ω)

end CommandMarkup
