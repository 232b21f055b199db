import CommandMarkup.Text.Basic

/-!
The version of the command language and of the bundled commands.
-/

namespace CommandMarkup

/-- The version, as it is shown. -/
def version : Text := "0.1.0".toList

end CommandMarkup
