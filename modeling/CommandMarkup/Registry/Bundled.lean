import CommandMarkup.Handler.Abstract
import CommandMarkup.Handler.DateTime
import CommandMarkup.Registry.Environment

/-!
The package of the bundled commands, `dt` and `abstract`, and the environment that has no other
package.
-/

namespace CommandMarkup

open Handler

variable {ω : Type}

/-- The package of the bundled commands. The clock shows the present moment in a world. -/
def Package.bundled (clock : ω → Calendar.Moment) : Package ω :=
  .ofModules
    [("dt".toList, .defining DateTime.className (DateTime.handlerClass clock)),
      ("abstract".toList, .defining Abstract.className Abstract.handlerClass)]

/-- The environment with the bundled package alone. -/
def Environment.bundled (clock : ω → Calendar.Moment) : Environment ω where
  package := fun name =>
    if name = bundledPackage then .loaded (.bundled clock)
    else .missing ("no package ".toList ++ name)

end CommandMarkup
