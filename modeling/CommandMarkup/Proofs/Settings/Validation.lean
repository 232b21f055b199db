import CommandMarkup.Proofs.Settings.PackageName

/-! Reading settings as a check of each field by itself. What is wrong with a value for a field is a
list of issues that nothing but that value decides; the issues of the fields follow each other, and
where there are none the settings are what the values say. -/
namespace CommandMarkup.Settings

variable {α β ι : Type}

/-- What is wrong with a value that is to be a text. -/
def textIssues (location : List Step) : Value → List Issue
  | .text _ => []
  | _ => [⟨location, .notText⟩]

/-- What is wrong with a value that is to be a list of texts. -/
def listIssues (name : Text) : Value → List Issue
  | .list items => (items.mapIdx fun i item => textIssues [.field name, .position i] item).flatten
  | _ => [⟨[.field name], .notList⟩]

/-- What is wrong with a value that is to be a table of texts. -/
def tableIssues (name : Text) : Value → List Issue
  | .object fields =>
    (fields.mapIdx fun _ field => textIssues [.field name, .field field.1] field.2).flatten
  | _ => [⟨[.field name], .notTable⟩]

/-- The text that a value is, if it is one. -/
def textOf? : Value → Option Text
  | .text t => some t
  | _ => none

/-- The issue of the first text in a list that is no package name. -/
def nameIssues (name : Text) : Value → List Issue
  | .list items =>
    ((items.filterMap textOf?).find? fun package => !isDottedName package).toList.map
      fun package => ⟨[.field name], .invalidPackage package⟩
  | _ => []

/-- What is wrong with a value that is to be a list of package names. The names are looked at once
all of them are texts. -/
def packageIssues (name : Text) (v : Value) : List Issue :=
  if listIssues name v = [] then nameIssues name v else listIssues name v

/-- The fields of settings, in the order in which their issues are reported. -/
inductive Field where
  | extensionPackages
  | outputMode
  | dateFormats
  | ellipsis

namespace Field

/-- All fields in order. -/
def all : List Field := [extensionPackages, outputMode, dateFormats, ellipsis]

/-- The name of the field in an object. -/
def name : Field → Text
  | extensionPackages => "extension_packages".toList
  | outputMode => "output_mode".toList
  | dateFormats => "date_formats".toList
  | ellipsis => "ellipsis".toList

/-- What is wrong with a value for the field. -/
def issues (f : Field) (v : Value) : List Issue :=
  match f with
  | extensionPackages => packageIssues f.name v
  | outputMode => textIssues [.field f.name] v
  | dateFormats => tableIssues f.name v
  | ellipsis => textIssues [.field f.name] v

/-- The value is of the kind that the field asks for. -/
def Admits : Field → Value → Prop
  | extensionPackages, v => ∃ packages : List Text, v = .list (packages.map .text) ∧
      ∀ package ∈ packages, IsPackageName package
  | outputMode, v => ∃ t, v = .text t
  | dateFormats, v => ∃ entries : List (Text × Text),
      v = .object (entries.map fun entry => (entry.1, .text entry.2))
  | ellipsis, v => ∃ t, v = .text t

/-- The settings have in the field what the value says. -/
def Reads : Field → Value → Settings → Prop
  | extensionPackages, v, settings => v = .list (settings.extensionPackages.map .text)
  | outputMode, v, settings => v = .text settings.outputMode
  | dateFormats, v, settings => ∃ entries : List (Text × Text),
      v = .object (entries.map fun entry => (entry.1, .text entry.2)) ∧
      settings.dateFormats = Table.ofEntries entries
  | ellipsis, v, settings => v = .text settings.ellipsis

/-- The settings have in the field what they have by default. -/
def IsDefault : Field → Settings → Prop
  | extensionPackages, settings => settings.extensionPackages = ["embedcmd.ext".toList]
  | outputMode, settings => settings.outputMode = "xhtml".toList
  | dateFormats, settings => settings.dateFormats = Table.empty
  | ellipsis, settings => settings.ellipsis = ['…']

/-- The settings have in the field what the object has under its name, or the default. -/
def Holds (f : Field) (value : Value) (settings : Settings) : Prop :=
  match value.field? f.name with
  | some v => f.Reads v settings
  | none => f.IsDefault settings

end Field

/-- A check comes to the issues if there are any, and otherwise to a result that the value reads
as. -/
inductive Settles (reads : α → Prop) (issues : List Issue) : Checked α → Prop where
  | ok {a : α} (hReads : reads a) (hNone : issues = []) : Settles reads issues (.ok a)
  | error (hSome : issues ≠ []) : Settles reads issues (.error issues)

namespace Settles

variable {reads : α → Prop} {issues more : List Issue} {check : Checked α}

theorem exists_ok_iff (h : Settles reads issues check) :
    (∃ a, check = .ok a) ↔ issues = [] := by
  cases h with
  | ok hReads hNone => exact iff_of_true ⟨_, rfl⟩ hNone
  | error hSome => exact iff_of_false nofun hSome

/-- A check that fails reports its issues, all of them and in order. -/
theorem error_iff (h : Settles reads issues check) (found : List Issue) :
    check = .error found ↔ found ≠ [] ∧ found = issues := by
  cases h with
  | ok hReads hNone =>
      apply iff_of_false nofun
      intro hFound
      exact hFound.1 (hFound.2.trans hNone)
  | error hSome =>
      constructor
      · intro hSame
        cases hSame
        exact ⟨hSome, rfl⟩
      · intro hFound
        rw [hFound.2]

theorem reads_ok (h : Settles reads issues check) {a : α} (hOk : check = .ok a) : reads a := by
  cases h with
  | ok hReads hNone =>
      cases hOk
      exact hReads
  | error hSome => cases hOk

/-- A check of a part is a check of what is made from the part. -/
theorem map {fits : β → Prop} (h : Settles reads issues check) (f : α → β)
    (hFits : ∀ a, reads a → fits (f a)) : Settles fits issues (check.map f) := by
  cases h with
  | ok hReads hNone => exact .ok (hFits _ hReads) hNone
  | error hSome => exact .error hSome

theorem mono {fits : α → Prop} (h : Settles reads issues check) (hFits : ∀ a, reads a → fits a) :
    Settles fits issues check := by
  cases h with
  | ok hReads hNone => exact .ok (hFits _ hReads) hNone
  | error hSome => exact .error hSome

/-- Of two checks the issues of both are reported, one after the other. -/
theorem both {fits : β → Prop} {other : Checked β} (h : Settles reads issues check)
    (hOther : Settles fits more other) :
    Settles (fun pair => reads pair.1 ∧ fits pair.2) (issues ++ more) (checkBoth check other) := by
  cases h with
  | ok hReads hNone =>
      cases hOther with
      | ok hFits hMore => exact .ok ⟨hReads, hFits⟩ (by simp [hNone, hMore])
      | error hMore =>
          rw [hNone]
          exact .error hMore
  | error hSome =>
      cases hOther with
      | ok hFits hMore =>
          rw [hMore, List.append_nil]
          exact .error hSome
      | error hMore => exact .error (by simp [hSome])

/-- Checks of all items of a list, each of which reads as what it is written for. -/
theorem all {written : α → ι} {issuesAt : Nat → ι → List Issue} {checkAt : Nat → ι → Checked α}
    (h : ∀ i item, Settles (fun a => item = written a) (issuesAt i item) (checkAt i item))
    (items : List ι) :
    Settles (fun results => items = results.map written) (items.mapIdx issuesAt).flatten
      (checkAll (items.mapIdx checkAt)) := by
  induction items generalizing issuesAt checkAt with
  | nil => exact .ok rfl rfl
  | cons item items ih =>
      rw [List.mapIdx_cons, List.mapIdx_cons, List.flatten_cons, checkAll]
      apply ((h 0 item).both (ih fun i => h (i + 1))).map
      intro pair hPair
      rw [List.map_cons, ← hPair.1, ← hPair.2]

end Settles

theorem settles_checkText (location : List Step) (v : Value) :
    Settles (fun t => v = .text t) (textIssues location v) (checkText location v) := by
  cases v with
  | text t => exact .ok rfl rfl
  | _ => exact .error (List.cons_ne_nil _ _)

/-- Reading a list of texts reports each element that is none, at its position. -/
theorem settles_checkTexts (name : Text) (v : Value) :
    Settles (fun packages => v = .list (packages.map .text)) (listIssues name v)
      (checkTexts name v) := by
  cases v with
  | list items =>
      have hAll := Settles.all
        (fun i item => settles_checkText [.field name, .position i] item) items
      rw [checkTexts]
      apply hAll.mono
      intro packages hPackages
      rw [hPackages]
  | _ => exact .error (List.cons_ne_nil _ _)

/-- A function that makes no use of the position. -/
theorem mapIdx_const (f : ι → α) (items : List ι) : items.mapIdx (fun _ => f) = items.map f := by
  induction items with
  | nil => rfl
  | cons item items ih => rw [List.mapIdx_cons, List.map_cons, ih]

/-- Reading a table of texts reports each entry that is none, at its key. -/
theorem settles_checkTable (name : Text) (v : Value) :
    Settles (fun table => ∃ entries : List (Text × Text),
      v = .object (entries.map fun entry => (entry.1, .text entry.2)) ∧
      table = Table.ofEntries entries) (tableIssues name v) (checkTable name v) := by
  cases v with
  | object fields =>
      have hField : ∀ (i : Nat) (field : Text × Value),
          Settles (fun entry : Text × Text => field = (entry.1, .text entry.2))
            (textIssues [.field name, .field field.1] field.2)
            ((checkText [.field name, .field field.1] field.2).map fun t => (field.1, t)) := by
        intro i field
        apply (settles_checkText [.field name, .field field.1] field.2).map
        intro t ht
        rw [← ht]
      have hAll := Settles.all hField fields
      rw [checkTable, ← mapIdx_const]
      apply hAll.map
      intro entries hEntries
      exact ⟨entries, by rw [hEntries], rfl⟩
  | _ => exact .error (List.cons_ne_nil _ _)

theorem listIssues_texts (name : Text) (packages : List Text) :
    listIssues name (.list (packages.map .text)) = [] := by
  rw [listIssues, List.flatten_eq_nil_iff]
  intro issues hIssues
  obtain ⟨i, hi, hAt⟩ := List.mem_mapIdx.mp hIssues
  rw [← hAt, List.getElem_map, textIssues]

/-- Where all are texts, the only issue is that of the first that is no package name. -/
theorem packageIssues_texts (name : Text) (packages : List Text) :
    packageIssues name (.list (packages.map .text)) =
      (packages.find? fun package => !isDottedName package).toList.map
        fun package => ⟨[.field name], .invalidPackage package⟩ := by
  have hTexts : (packages.map Value.text).filterMap textOf? = packages := by
    simp [List.filterMap_map, Function.comp_def, textOf?]
  rw [packageIssues, if_pos (listIssues_texts name packages), nameIssues, hTexts]

/-- Reading packages reports what is no text, or else the first name that is no dotted one. -/
theorem settles_checkPackages (name : Text) (v : Value) :
    Settles (fun packages => v = .list (packages.map .text)) (packageIssues name v)
      (checkPackages name v) := by
  have hTexts := settles_checkTexts name v
  rw [checkPackages]
  generalize checkTexts name v = check at hTexts
  cases hTexts with
  | error hSome =>
      rw [packageIssues, if_neg hSome]
      exact .error hSome
  | @ok packages hReads hNone =>
      rw [hReads, packageIssues_texts]
      dsimp only
      cases packages.find? fun package => !isDottedName package with
      | none => exact .ok rfl rfl
      | some package => exact .error (List.cons_ne_nil _ _)

/-- A field that is absent has no issues and takes its default. -/
theorem settles_checkField {reads : Value → α → Prop} {issuesOf : Value → List Issue}
    (check : Text → Value → Checked α) (name : Text)
    (h : ∀ v, Settles (reads v) (issuesOf v) (check name v)) (value : Value) (default : α) :
    Settles (fun a => match value.field? name with
        | some v => reads v a
        | none => a = default)
      ((value.field? name).elim [] issuesOf) (checkField value name default check) := by
  rw [checkField]
  cases value.field? name with
  | none => exact .ok rfl rfl
  | some v => exact h v

/-- What is wrong with an object, field by field. -/
def fieldIssues (value : Value) : List Issue :=
  Field.all.flatMap fun f => (value.field? f.name).elim [] f.issues

/-- Reading an object settles all four fields. Its issues are theirs in order, and without any the
settings hold what the object says. -/
theorem settles_ofValue (fields : List (Text × Value)) :
    Settles (fun settings => ∀ f : Field, f.Holds (.object fields) settings)
      (fieldIssues (.object fields)) (ofValue (.object fields)) := by
  have hPackages := settles_checkField _ Field.extensionPackages.name
    (settles_checkPackages _) (.object fields) [bundledPackage]
  have hMode := settles_checkField (fun name => checkText [.field name])
    Field.outputMode.name (settles_checkText _) (.object fields) "xhtml".toList
  have hFormats := settles_checkField _ Field.dateFormats.name
    (settles_checkTable _) (.object fields) Table.empty
  have hEllipsis := settles_checkField (fun name => checkText [.field name])
    Field.ellipsis.name (settles_checkText _) (.object fields) ['…']
  have hFields := hPackages.both (hMode.both (hFormats.both hEllipsis))
  rw [fieldIssues, Field.all, List.flatMap_cons, List.flatMap_cons, List.flatMap_cons,
    List.flatMap_cons, List.flatMap_nil, List.append_nil]
  apply hFields.map
  intro read hRead f
  cases f with
  | extensionPackages => exact hRead.1
  | outputMode => exact hRead.2.1
  | dateFormats => exact hRead.2.2.1
  | ellipsis => exact hRead.2.2.2

end CommandMarkup.Settings
