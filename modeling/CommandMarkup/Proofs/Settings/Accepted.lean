import CommandMarkup.Proofs.Registry.Store
import CommandMarkup.Proofs.Settings.Validation

/-! Accepted settings and what a registry does with them. Settings are read from an object if and
only if nothing is wrong with any of its fields, and a package that is no dotted name is something
wrong; they stay as they are read. So every module name that is ever looked up is the name of a
package and, after a dot, the name of a command, with no part of it empty.

Main statement: `ofValue_validates`. -/
namespace CommandMarkup.Settings

theorem eq_of_mem_textIssues {location : List Step} {v : Value} {issue : Issue}
    (h : issue ∈ textIssues location v) : issue = ⟨location, .notText⟩ := by
  cases v with
  | text t => cases h
  | _ => exact List.mem_singleton.mp h

theorem textIssues_eq_nil_iff {location : List Step} {v : Value} :
    textIssues location v = [] ↔ ∃ t, v = .text t := by
  have hCheck := settles_checkText location v
  constructor
  · intro hNone
    obtain ⟨t, ht⟩ := hCheck.exists_ok_iff.mpr hNone
    exact ⟨t, hCheck.reads_ok ht⟩
  · intro h
    obtain ⟨t, rfl⟩ := h
    rfl

/-- Nothing is wrong with a list of texts if and only if it is one. -/
theorem listIssues_eq_nil_iff {name : Text} {v : Value} :
    listIssues name v = [] ↔ ∃ packages : List Text, v = .list (packages.map .text) := by
  have hCheck := settles_checkTexts name v
  constructor
  · intro hNone
    obtain ⟨packages, hPackages⟩ := hCheck.exists_ok_iff.mpr hNone
    exact ⟨packages, hCheck.reads_ok hPackages⟩
  · intro h
    obtain ⟨packages, rfl⟩ := h
    exact listIssues_texts name packages

/-- Nothing is wrong with a table of texts if and only if it is one, keys that occur twice
included. -/
theorem tableIssues_eq_nil_iff {name : Text} {v : Value} :
    tableIssues name v = [] ↔ ∃ entries : List (Text × Text),
      v = .object (entries.map fun entry => (entry.1, .text entry.2)) := by
  have hCheck := settles_checkTable name v
  constructor
  · intro hNone
    obtain ⟨table, hTable⟩ := hCheck.exists_ok_iff.mpr hNone
    obtain ⟨entries, hEntries, _⟩ := hCheck.reads_ok hTable
    exact ⟨entries, hEntries⟩
  · intro h
    obtain ⟨entries, rfl⟩ := h
    rw [tableIssues, mapIdx_const, List.flatten_eq_nil_iff]
    simp [textIssues]

/-- An issue of the texts in the field lies in the field, and is about no name. -/
theorem of_mem_elementIssues {ι : Type} {name : Text} {steps : Nat → ι → List Step}
    {valueOf : ι → Value} {items : List ι} {issue : Issue}
    (h : issue ∈ (items.mapIdx fun i item =>
      textIssues (.field name :: steps i item) (valueOf item)).flatten) :
    issue.location.head? = some (.field name) ∧
      ∀ package, issue.problem ≠ .invalidPackage package := by
  obtain ⟨issues, hIssues, hMem⟩ := List.mem_flatten.mp h
  obtain ⟨i, hi, rfl⟩ := List.mem_mapIdx.mp hIssues
  rw [eq_of_mem_textIssues hMem]
  exact ⟨rfl, nofun⟩

/-- The issues of a list lie in its field, and none of them is about the name of a package. -/
theorem of_mem_listIssues {name : Text} {v : Value} {issue : Issue}
    (h : issue ∈ listIssues name v) :
    issue.location.head? = some (.field name) ∧
      ∀ package, issue.problem ≠ .invalidPackage package := by
  cases v with
  | list items => exact of_mem_elementIssues h
  | _ =>
      rw [List.mem_singleton.mp h]
      exact ⟨rfl, nofun⟩

theorem of_mem_tableIssues {name : Text} {v : Value} {issue : Issue}
    (h : issue ∈ tableIssues name v) :
    issue.location.head? = some (.field name) ∧
      ∀ package, issue.problem ≠ .invalidPackage package := by
  cases v with
  | object fields => exact of_mem_elementIssues h
  | _ =>
      rw [List.mem_singleton.mp h]
      exact ⟨rfl, nofun⟩

/-- The value is a list of texts in which the package is the first that is no package name. -/
def FirstBadPackage (v : Value) (package : Text) : Prop :=
  ∃ before after : List Text, v = .list ((before ++ package :: after).map .text) ∧
    (∀ other ∈ before, IsPackageName other) ∧ ¬ IsPackageName package

theorem not_isDottedName_iff {t : Text} : (!isDottedName t) = true ↔ ¬ IsPackageName t := by
  rw [← isDottedName_eq_true_iff, Bool.not_eq_true', Bool.not_eq_true]

theorem texts_injective {packages others : List Text}
    (h : Value.list (packages.map .text) = .list (others.map .text)) : packages = others := by
  apply List.map_injective_iff.mpr _ (Value.list.inj h)
  intro t u hText
  exact Value.text.inj hText

/-- The issues of a list of packages are those of its elements, or that of the first bad name, or
there are none. -/
theorem packageIssues_cases (name : Text) (v : Value) :
    (listIssues name v ≠ [] ∧ packageIssues name v = listIssues name v) ∨
    (∃ package, FirstBadPackage v package ∧
      packageIssues name v = [⟨[.field name], .invalidPackage package⟩]) ∨
    ∃ packages : List Text, v = .list (packages.map .text) ∧
      (∀ package ∈ packages, IsPackageName package) ∧ packageIssues name v = [] := by
  by_cases hTexts : listIssues name v = []
  · right
    obtain ⟨packages, rfl⟩ := listIssues_eq_nil_iff.mp hTexts
    rw [packageIssues_texts]
    cases hFind : packages.find? fun package => !isDottedName package with
    | some package =>
        left
        obtain ⟨hBad, before, after, rfl, hBefore⟩ := List.find?_eq_some_iff_append.mp hFind
        refine ⟨package, ⟨before, after, rfl, ?_, not_isDottedName_iff.mp hBad⟩, rfl⟩
        intro other hOther
        have hGood := hBefore other hOther
        rw [Bool.not_not] at hGood
        exact isDottedName_eq_true_iff.mp hGood
    | none =>
        right
        refine ⟨packages, rfl, ?_, rfl⟩
        intro package hPackage
        by_contra hBad
        exact List.find?_eq_none.mp hFind package hPackage (not_isDottedName_iff.mpr hBad)
  · left
    exact ⟨hTexts, if_neg hTexts⟩

/-- The first bad package is the same however the list is taken apart. -/
theorem FirstBadPackage.unique {v : Value} {package other : Text} (h : FirstBadPackage v package)
    (hOther : FirstBadPackage v other) : package = other := by
  obtain ⟨before, after, rfl, hBefore, hBad⟩ := h
  obtain ⟨before', after', hList, hBefore', hBad'⟩ := hOther
  have hFind : ∀ {first : List Text} {bad : Text} (rest : List Text),
      (∀ p ∈ first, IsPackageName p) → ¬ IsPackageName bad →
      (first ++ bad :: rest).find? (fun p => !isDottedName p) = some bad := by
    intro first bad rest hFirst hBad
    apply List.find?_eq_some_iff_append.mpr
    refine ⟨not_isDottedName_iff.mpr hBad, first, rest, rfl, ?_⟩
    intro p hp
    rw [Bool.not_not]
    exact isDottedName_eq_true_iff.mpr (hFirst p hp)
  have hSame := hFind after hBefore hBad
  rw [texts_injective hList, hFind after' hBefore' hBad'] at hSame
  exact Option.some.inj hSame.symm

/-- A bad name is only spoken of where all packages are texts. -/
theorem FirstBadPackage.listIssues {v : Value} {package : Text} (h : FirstBadPackage v package)
    (name : Text) : listIssues name v = [] := by
  obtain ⟨before, after, rfl, _⟩ := h
  exact listIssues_texts name _

/-- What the issues of a value for a field say. Nothing but the value takes part in them. -/
structure FieldIssues (f : Field) (v : Value) : Prop where
  none : f.issues v = [] ↔ f.Admits v
  located : ∀ issue ∈ f.issues v, issue.location.head? = some (.field f.name)
  named : ∀ package, (∃ issue ∈ f.issues v, issue.problem = .invalidPackage package) ↔
    f = .extensionPackages ∧ FirstBadPackage v package
  alone : ∀ package, (∃ issue ∈ f.issues v, issue.problem = .invalidPackage package) →
    f.issues v = [⟨[.field f.name], .invalidPackage package⟩]

/-- Where no package is bad, or none is asked for, no issue is about one. -/
theorem fieldIssues_of_unnamed {f : Field} {v : Value}
    (hUnnamed : f = .extensionPackages → ∀ package, ¬ FirstBadPackage v package)
    (hNone : f.issues v = [] ↔ f.Admits v)
    (hIssues : ∀ issue ∈ f.issues v, issue.location.head? = some (.field f.name) ∧
      ∀ package, issue.problem ≠ .invalidPackage package) : FieldIssues f v where
  none := hNone
  located := fun issue hIssue => (hIssues issue hIssue).1
  named := by
    intro package
    constructor
    · intro h
      obtain ⟨issue, hIssue, hProblem⟩ := h
      exact absurd hProblem ((hIssues issue hIssue).2 package)
    · intro h
      exact absurd h.2 (hUnnamed h.1 package)
  alone := by
    intro package h
    obtain ⟨issue, hIssue, hProblem⟩ := h
    exact absurd hProblem ((hIssues issue hIssue).2 package)

theorem FirstBadPackage.not_admits {v : Value} {package : Text} (h : FirstBadPackage v package) :
    ¬ Field.extensionPackages.Admits v := by
  intro hAdmits
  obtain ⟨packages, rfl, hNames⟩ := hAdmits
  obtain ⟨before, after, hList, _, hBad⟩ := h
  rw [texts_injective hList] at hNames
  exact hBad (hNames package (by simp))

/-- The one issue of a list with a bad package. -/
theorem fieldIssues_of_firstBad {v : Value} {bad : Text} (hFirst : FirstBadPackage v bad)
    (hIssues : Field.extensionPackages.issues v =
      [⟨[.field Field.extensionPackages.name], .invalidPackage bad⟩]) :
    FieldIssues .extensionPackages v := by
  have hOnly : ∀ package, (∃ issue ∈ Field.extensionPackages.issues v,
      issue.problem = .invalidPackage package) ↔ package = bad := by
    intro package
    simp [hIssues, eq_comm]
  constructor
  case none =>
    rw [hIssues]
    exact iff_of_false (List.cons_ne_nil _ _) hFirst.not_admits
  case located => simp [hIssues]
  case named =>
    intro package
    rw [hOnly]
    constructor
    · intro hSame
      exact ⟨rfl, hSame ▸ hFirst⟩
    · intro h
      exact h.2.unique hFirst
  case alone =>
    intro package h
    rw [hIssues, (hOnly package).mp h]

/-- For the packages the three cases have different issues: those of the elements, the one of the
first bad name, and none. -/
theorem fieldIssues_extensionPackages (v : Value) : FieldIssues .extensionPackages v := by
  rcases packageIssues_cases Field.extensionPackages.name v with ⟨hSome, hIssues⟩ |
    ⟨bad, hFirst, hIssues⟩ | ⟨packages, hPackages, hNames, hIssues⟩
  -- In each case the issues of the field are known.
  all_goals have hField : Field.extensionPackages.issues v = _ := hIssues
  · apply fieldIssues_of_unnamed
    · intro _ package hFirst
      exact hSome (hFirst.listIssues _)
    · rw [hField]
      apply iff_of_false hSome
      intro hAdmits
      obtain ⟨packages, hPackages, _⟩ := hAdmits
      exact hSome (listIssues_eq_nil_iff.mpr ⟨packages, hPackages⟩)
    · intro issue hIssue
      rw [hField] at hIssue
      exact of_mem_listIssues hIssue
  · exact fieldIssues_of_firstBad hFirst hField
  · have hAdmits : Field.extensionPackages.Admits v := ⟨packages, hPackages, hNames⟩
    apply fieldIssues_of_unnamed
    · intro _ package hFirst
      exact hFirst.not_admits hAdmits
    · exact iff_of_true hField hAdmits
    · simp [hField]

/-- Each field has its issues from its own value. Only the packages have a second check after the
first. -/
theorem fieldIssues_all (f : Field) (v : Value) : FieldIssues f v := by
  have hText : ∀ issue ∈ textIssues [.field f.name] v,
      issue.location.head? = some (.field f.name) ∧
        ∀ package, issue.problem ≠ .invalidPackage package := by
    intro issue hIssue
    rw [eq_of_mem_textIssues hIssue]
    exact ⟨rfl, nofun⟩
  cases f with
  | extensionPackages => exact fieldIssues_extensionPackages v
  | outputMode => exact fieldIssues_of_unnamed nofun textIssues_eq_nil_iff hText
  | dateFormats =>
      exact fieldIssues_of_unnamed nofun tableIssues_eq_nil_iff fun _ h => of_mem_tableIssues h
  | ellipsis => exact fieldIssues_of_unnamed nofun textIssues_eq_nil_iff hText

/-- Nothing is wrong with an object if and only if each field that it has is admitted. -/
theorem fieldIssues_eq_nil_iff {value : Value} :
    fieldIssues value = [] ↔ ∀ (f : Field) v, value.field? f.name = some v → f.Admits v := by
  have hAll : ∀ f : Field, f ∈ Field.all := by
    intro f
    cases f <;> simp [Field.all]
  rw [fieldIssues, List.flatMap_eq_nil_iff]
  constructor
  · intro h f v hv
    have hNone := h f (hAll f)
    rw [hv] at hNone
    exact (fieldIssues_all f v).none.mp hNone
  · intro h f _
    cases hv : value.field? f.name with
    | none => rfl
    | some v => exact (fieldIssues_all f v).none.mpr (h f v hv)

/-- The settings after assignments to them one after the other. A refused one changes nothing. -/
def assigned : List (Text × Value) → Settings → Settings
  | [], settings => settings
  | assignment :: assignments, settings =>
    match settings.assign assignment.1 assignment.2 with
    | .ok changed => assigned assignments changed
    | .error _ => assigned assignments settings

/-- Refused or not, an assignment leaves the settings as they are. -/
theorem eq_of_assign {settings changed : Settings} {name : Text} {v : Value}
    (h : settings.assign name v = .ok changed) : changed = settings := by
  rw [assign] at h
  split at h
  · cases h
  · exact (Except.ok.inj h).symm

/-- No row of assignments changes the settings. -/
theorem assigned_eq (assignments : List (Text × Value)) (settings : Settings) :
    assigned assignments settings = settings := by
  induction assignments with
  | nil => rfl
  | cons assignment assignments ih =>
      rw [assigned]
      split
      · next changed hChanged => rw [eq_of_assign hChanged, ih]
      · exact ih

/-- An assignment under a name that a field could have is refused, with the name in its place. -/
theorem assign_eq_error {name : Text} (h : isFieldName name = true) (settings : Settings)
    (v : Value) : settings.assign name v = .error [⟨[.field name], .frozen⟩] :=
  if_pos h

theorem isFieldName_name (f : Field) : isFieldName f.name = true := by
  cases f <;> rfl

/-- The module name of a command in a package of the settings, with identifiers between its dots. -/
def ModuleName (settings : Settings) (moduleName : Text) : Prop :=
  ∃ package ∈ settings.extensionPackages, ∃ name, moduleName = package ++ '.' :: name ∧
    IsPackageName package ∧ IsIdentifier name ∧ IsPackageName moduleName

/-- Packages that are accepted are named by dotted names, the default one too. -/
theorem isPackageName_of_ofValue {value : Value} {settings : Settings}
    (h : ofValue value = .ok settings) :
    ∀ package ∈ settings.extensionPackages, IsPackageName package := by
  cases value with
  | object fields =>
      have hCheck := settles_ofValue fields
      have hHolds := hCheck.reads_ok h .extensionPackages
      have hAdmits := fieldIssues_eq_nil_iff.mp (hCheck.exists_ok_iff.mp ⟨settings, h⟩)
        .extensionPackages
      rw [Field.Holds] at hHolds
      split at hHolds
      · next v hv =>
        obtain ⟨packages, hPackages, hNames⟩ := hAdmits v hv
        rw [texts_injective (hHolds.symm.trans hPackages)]
        exact hNames
      · rw [hHolds, List.forall_mem_singleton]
        exact isDottedName_eq_true_iff.mp (by decide)
  | _ => cases h

/-- A registry with accepted settings looks up nothing but well-formed module names, through every
run. -/
theorem probes_moduleNames {ω : Type} {value : Value} {r : Registry ω}
    (h : ofValue value = .ok r.settings) (actions : List (Registry.Action ω)) (s : State ω) :
    Registry.Adds (ModuleName r.settings) s.probes (Registry.run r actions s).probes := by
  apply (Registry.probes_run r s actions).mono
  intro moduleName hModule
  obtain ⟨name, hName, _, package, hPackage, rfl⟩ := hModule
  have hGood := isPackageName_of_ofValue h package hPackage
  exact ⟨package, hPackage, name, rfl, hGood, isIdentifier_of_isName hName,
    hGood.moduleNameIn hName⟩

/-- What reading settings from a value comes to, and what holds of settings that were read. -/
structure Validation (value : Value) : Prop where
  accepted : (∃ settings, ofValue value = .ok settings) ↔
    (∃ fields, value = .object fields) ∧
      ∀ (f : Field) v, value.field? f.name = some v → f.Admits v
  holds : ∀ settings, ofValue value = .ok settings → ∀ f : Field, f.Holds value settings
  refused : ∀ fields, value = .object fields → ∀ issues, ofValue value = .error issues ↔
    issues ≠ [] ∧ issues = Field.all.flatMap fun f => (value.field? f.name).elim [] f.issues
  foreign : (∀ fields, value ≠ .object fields) → ofValue value = .error [⟨[], .notSettings⟩]
  frozen : ∀ settings, ofValue value = .ok settings → ∀ assignments,
    assigned assignments settings = settings ∧
      (∀ (f : Field) v, settings.assign f.name v = .error [⟨[.field f.name], .frozen⟩]) ∧
      ∀ name v, name.head? ≠ some '_' → settings.assign name v = .error [⟨[.field name], .frozen⟩]
  probes : ∀ settings, ofValue value = .ok settings →
    ∀ {ω : Type} (environment : Environment ω) (actions : List (Registry.Action ω)) (s : State ω),
      Registry.Adds (ModuleName settings) s.probes
        (Registry.run ⟨settings, environment⟩ actions s).probes

/-- Reading settings, for all values: they are accepted if and only if the value is an object whose
fields are of the right kind, with packages that are dotted names as the pattern says, and refused
with the issues of the fields one after the other. Accepted settings take no assignment to a field,
theirs or not, and none at all changes them. Whatever is done with a registry that has them, it
looks up nothing but well-formed module names. -/
theorem ofValue_validates (value : Value) :
    (∀ t, t ∈ dottedName ↔ IsPackageName t) ∧ (∀ f v, FieldIssues f v) ∧ Validation value := by
  refine ⟨fun _ => mem_dottedName_iff, fieldIssues_all, ?_⟩
  constructor
  case accepted =>
    cases value with
    | object fields =>
        rw [(settles_ofValue fields).exists_ok_iff, fieldIssues_eq_nil_iff]
        exact (and_iff_right ⟨fields, rfl⟩).symm
    | _ =>
        apply iff_of_false nofun
        intro h
        obtain ⟨⟨fields, hFields⟩, _⟩ := h
        cases hFields
  case holds =>
    intro settings h
    cases value with
    | object fields => exact (settles_ofValue fields).reads_ok h
    | _ => cases h
  case refused =>
    intro fields hFields issues
    rw [hFields]
    exact (settles_ofValue fields).error_iff issues
  case foreign =>
    intro hForeign
    cases value with
    | object fields => exact absurd rfl (hForeign fields)
    | _ => rfl
  case frozen =>
    intro settings _ assignments
    refine ⟨assigned_eq assignments settings, fun f => assign_eq_error (isFieldName_name f) _, ?_⟩
    intro name v hName
    exact assign_eq_error (bne_iff_ne.mpr hName) settings v
  case probes =>
    intro settings h ω environment actions s
    exact probes_moduleNames (r := ⟨settings, environment⟩) h actions s

/-- The issues come in the order of the fields, not in that of the object. A package that is no text
keeps the bad name before it from being looked at. -/
example : ofValue (.object [("ellipsis".toList, .int 5),
    ("extension_packages".toList, .list [.text "a..b".toList, .null])]) =
      .error [⟨[.field "extension_packages".toList, .position 1], .notText⟩,
        ⟨[.field "ellipsis".toList], .notText⟩] := rfl

end CommandMarkup.Settings
