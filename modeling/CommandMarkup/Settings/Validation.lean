import CommandMarkup.Settings.Basic
import CommandMarkup.Text.Quoted
import CommandMarkup.Value

/-!
Reading settings from a value. Every field is checked by itself, and the issues of all fields are
reported together in the order of the fields; a field that is absent takes its default, and a field
of any other name is passed over. Settings do not change once they are read.
-/

namespace CommandMarkup

namespace Settings

/-- One step on the way to a part of a value. -/
inductive Step where
  | field (name : Text)
  | position (index : Nat)
  deriving DecidableEq

/-- What can be wrong with a part of a value. -/
inductive Problem where
  | notText
  | notList
  | notTable
  | notSettings
  | invalidPackage (name : Text)
  | frozen
  deriving DecidableEq

namespace Problem

/-- The problem in one word. -/
def code : Problem → Text
  | notText => "string_type".toList
  | notList => "list_type".toList
  | notTable => "dict_type".toList
  | notSettings => "model_type".toList
  | invalidPackage _ => "value_error".toList
  | frozen => "frozen_instance".toList

/-- The problem in a sentence. -/
def message : Problem → Text
  | notText => "Input should be a valid string".toList
  | notList => "Input should be a valid list".toList
  | notTable => "Input should be a valid dictionary".toList
  | notSettings => "Input should be a valid dictionary or instance of EmbedSettings".toList
  | invalidPackage name =>
    "Value error, Invalid extension package name: ".toList ++ Text.quote name
  | frozen => "Instance is frozen".toList

end Problem

/-- A problem and the place where it is. -/
structure Issue where
  location : List Step
  problem : Problem
  deriving DecidableEq

/-- Whether the text is an identifier of ASCII letters, digits and underscores that does not start
with a digit. -/
def isIdentifier : Text → Bool
  | [] => false
  | c :: rest => (c.isAlpha || c == '_') && rest.all fun d => d.isAlphanum || d == '_'

/-- Whether the text consists of identifiers with a dot between each two of them. -/
def isDottedName (t : Text) : Bool := (Text.splitOn '.' t).all isIdentifier

/-- A result, or the issues that stand in its way. -/
abbrev Checked (α : Type) := Except (List Issue) α

/-- Reads a text. -/
def checkText (location : List Step) : Value → Checked Text
  | .text t => .ok t
  | _ => .error [⟨location, .notText⟩]

/-- Both results, or the issues of both in order. -/
def checkBoth {α β : Type} : Checked α → Checked β → Checked (α × β)
  | .ok a, .ok b => .ok (a, b)
  | .ok _, .error issues => .error issues
  | .error issues, .ok _ => .error issues
  | .error issues, .error more => .error (issues ++ more)

/-- All results, or all issues in order. -/
def checkAll {α : Type} : List (Checked α) → Checked (List α)
  | [] => .ok []
  | first :: rest => (checkBoth first (checkAll rest)).map fun pair => pair.1 :: pair.2

/-- Reads a list of texts. -/
def checkTexts (name : Text) : Value → Checked (List Text)
  | .list items =>
    checkAll (items.mapIdx fun i item => checkText [.field name, .position i] item)
  | _ => .error [⟨[.field name], .notList⟩]

/-- Reads a table of texts. -/
def checkTable (name : Text) : Value → Checked (Table Text Text)
  | .object fields =>
    (checkAll (fields.map fun (key, value) =>
      (checkText [.field name, .field key] value).map fun t => (key, t))).map Table.ofEntries
  | _ => .error [⟨[.field name], .notTable⟩]

/-- Reads the names of the packages. The first bad name is an issue once all are texts. -/
def checkPackages (name : Text) (value : Value) : Checked (List Text) :=
  match checkTexts name value with
  | .error issues => .error issues
  | .ok packages =>
    match packages.find? fun package => !isDottedName package with
    | some package => .error [⟨[.field name], .invalidPackage package⟩]
    | none => .ok packages

/-- The field read by `check`, or its default if it is absent. -/
def checkField {α : Type} (value : Value) (name : Text) (default : α)
    (check : Text → Value → Checked α) : Checked α :=
  match value.field? name with
  | some field => check name field
  | none => .ok default

/-- Reads settings from an object. -/
def ofValue (value : Value) : Checked Settings :=
  match value with
  | .object _ =>
    let default : Settings := {}
    let packages :=
      checkField value "extension_packages".toList default.extensionPackages checkPackages
    let mode := checkField value "output_mode".toList default.outputMode
      fun name => checkText [.field name]
    let formats := checkField value "date_formats".toList default.dateFormats checkTable
    let ellipsis := checkField value "ellipsis".toList default.ellipsis
      fun name => checkText [.field name]
    (checkBoth packages (checkBoth mode (checkBoth formats ellipsis))).map
      fun (packages, mode, formats, ellipsis) => ⟨packages, mode, formats, ellipsis⟩
  | _ => .error [⟨[], .notSettings⟩]

/-- Whether the name can be that of a field. -/
def isFieldName (name : Text) : Bool := name.head? != some '_'

/-- Assigns a value to the attribute of that name. Settings refuse it if a field could have the
name, theirs or not. Under a name with an underscore before it any value may be kept beside the
fields, and none of them changes. -/
def assign (settings : Settings) (name : Text) (_value : Value) : Checked Settings :=
  if isFieldName name then .error [⟨[.field name], .frozen⟩] else .ok settings

end Settings

end CommandMarkup
