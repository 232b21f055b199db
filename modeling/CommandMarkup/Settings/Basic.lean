import CommandMarkup.Table
import CommandMarkup.Text.Basic

/-!
Settings that a registry, its embeddings and its handlers share, and the date formats kept in them.
-/

namespace CommandMarkup

/-- A date format: the class of the element around the date and the pattern of the date. An absent
pattern leaves the content as it is. -/
structure DateFormat where
  cssClass : Option Text := none
  pattern : Option Text := none
  deriving DecidableEq

namespace DateFormat

/-- The text, unless it is empty. -/
def nonempty? (t : Text) : Option Text := if t.isEmpty then none else some t

/-- Reads a configured date format. A bar sets the class off from the pattern; without a bar all of
it is the pattern, and an empty part counts as absent. -/
def ofText (t : Text) : DateFormat :=
  match Text.cut '|' t with
  | (_, none) => ⟨none, nonempty? t⟩
  | (cssClass, some pattern) => ⟨nonempty? cssClass, nonempty? pattern⟩

end DateFormat

/-- The name of the package that holds the bundled commands. -/
def bundledPackage : Text := "embedcmd.ext".toList

/-- The packages searched for command modules in order, the mode whose output commands take part
in, the date formats by variant, and what is put after a shortened text. -/
structure Settings where
  extensionPackages : List Text := [bundledPackage]
  outputMode : Text := "xhtml".toList
  dateFormats : Table Text Text := Table.empty
  ellipsis : Text := ['…']
  deriving DecidableEq

namespace Settings

/-- The date format of a variant. No variant is the empty one, and a variant that is not configured
has the empty format. -/
def dateFormat (settings : Settings) (variant : Option Text) : DateFormat :=
  DateFormat.ofText ((settings.dateFormats.get? (variant.getD [])).getD [])

end Settings

end CommandMarkup
