import CommandMarkup.Call.Reason

/-!
Reading calls. The text is cut at its first question mark, and what follows at every ampersand:
neither character occurs in a name or a value.

Main statements: the readers accept exactly the texts that the grammar derives, and give what they
are derived for (`Parameter.parse?_eq_some_iff`, `Call.read?_eq_some_iff`, `Call.parse_eq_ok_iff`).
-/

namespace CommandMarkup

namespace Parameter

/-- Reads one parameter: an equals sign makes it an assignment. -/
def parse? (t : Text) : Option Parameter :=
  match Text.cut '=' t with
  | (value, none) => if Call.isValue value then some (.bare value) else none
  | (name, some value) =>
    if Call.isName name && value.all Call.isValueChar then some (.assignment name value) else none

theorem parse?_eq_some_iff {t : Text} {p : Parameter} : parse? t = some p ↔ p.Writes t := by
  constructor
  · intro h
    rcases hCut : Text.cut '=' t with ⟨before, after⟩
    cases after with
    | none =>
      simp only [parse?, hCut] at h
      obtain ⟨rfl, _⟩ := Text.cut_eq_none_iff.1 hCut
      split at h
      · next hValue =>
        obtain rfl := Option.some.inj h
        exact .bare hValue
      · contradiction
    | some value =>
      simp only [parse?, hCut] at h
      obtain ⟨rfl, _⟩ := Text.cut_eq_some_iff.1 hCut
      split at h
      · next hBoth =>
        simp only [Bool.and_eq_true, List.all_eq_true] at hBoth
        obtain rfl := Option.some.inj h
        exact .assignment hBoth.1 hBoth.2
      · contradiction
  · intro h
    cases h with
    | bare hValue =>
      have hChars : ∀ c ∈ t, Call.isValueChar c = true := by
        simp only [Call.isValue, Bool.and_eq_true, List.all_eq_true] at hValue
        exact hValue.2
      have hCut : Text.cut '=' t = (t, none) :=
        Text.cut_eq_none_iff.2 ⟨rfl, fun hMem => absurd (hChars _ hMem) (by decide)⟩
      simp [parse?, hCut, hValue]
    | @assignment name value hName hValue =>
      have hCut : Text.cut '=' (name ++ '=' :: value) = (name, some value) :=
        Text.cut_eq_some_iff.2
          ⟨rfl, fun hMem => absurd (Call.isNameChar_of_isName hName _ hMem) (by decide)⟩
      have hAll : value.all Call.isValueChar = true := List.all_eq_true.2 hValue
      simp [parse?, hCut, hName, hAll]

/-- Reads the pieces of a parameter list, all or none. -/
def parseAll? : List Text → Option (List Parameter)
  | [] => some []
  | piece :: pieces =>
    match parse? piece, parseAll? pieces with
    | some p, some ps => some (p :: ps)
    | _, _ => none

theorem parseAll?_eq_some_iff {pieces : List Text} {ps : List Parameter} :
    parseAll? pieces = some ps ↔ pieces.map parse? = ps.map some := by
  induction pieces generalizing ps with
  | nil => cases ps <;> simp [parseAll?]
  | cons piece pieces ih =>
    cases hPiece : parse? piece with
    | none => cases ps <;> simp [parseAll?, hPiece]
    | some p =>
      cases hPieces : parseAll? pieces with
      | none =>
        have hNone : ∀ qs : List Parameter, pieces.map parse? ≠ qs.map some := fun qs hEq =>
          absurd (hPieces.symm.trans (ih.2 hEq)) (by simp)
        cases ps <;> simp [parseAll?, hPiece, hPieces, hNone]
      | some qs =>
        have hAll : parseAll? (piece :: pieces) = some (p :: qs) := by
          simp [parseAll?, hPiece, hPieces]
        rw [hAll, List.map_cons, hPiece, ih.1 hPieces, ← List.map_cons,
          List.map_inj_right fun _ _ => Option.some.inj, Option.some.injEq]

/-- No written parameter holds an ampersand. -/
theorem not_mem_of_writes {p : Parameter} {t : Text} (h : p.Writes t) : '&' ∉ t := by
  cases h with
  | bare hValue =>
    simp only [Call.isValue, Bool.and_eq_true, List.all_eq_true] at hValue
    intro hMem
    exact absurd (hValue.2 _ hMem) (by decide)
  | assignment hName hValue =>
    intro hMem
    rcases List.mem_append.1 hMem with hMem | hMem
    · exact absurd (Call.isNameChar_of_isName hName _ hMem) (by decide)
    · rcases List.mem_cons.1 hMem with hEq | hMem
      · exact absurd hEq (by decide)
      · exact absurd (hValue _ hMem) (by decide)

theorem parseAll?_of_writesList {ps : List Parameter} {t : Text} (h : WritesList ps t) :
    parseAll? (Text.splitOn '&' t) = some ps := by
  induction h with
  | one hHead =>
    rw [Text.splitOn_of_not_mem (not_mem_of_writes hHead)]
    simp [parseAll?, parse?_eq_some_iff.2 hHead]
  | more hHead _ ih =>
    rw [Text.splitOn_append_cons (not_mem_of_writes hHead)]
    simp [parseAll?, parse?_eq_some_iff.2 hHead, ih]

theorem writesList_of_parseAll? {pieces : List Text} {ps : List Parameter}
    (hNonempty : pieces ≠ []) (h : parseAll? pieces = some ps) :
    WritesList ps (Text.join '&' pieces) := by
  induction pieces generalizing ps with
  | nil => exact absurd rfl hNonempty
  | cons piece pieces ih =>
    simp only [parseAll?] at h
    split at h
    · next p qs hPiece hPieces =>
      obtain rfl := Option.some.inj h
      cases pieces with
      | nil =>
        obtain rfl : qs = [] := by simpa [parseAll?, eq_comm] using hPieces
        exact .one (parse?_eq_some_iff.1 hPiece)
      | cons next pieces =>
        exact .more (parse?_eq_some_iff.1 hPiece) (ih (List.cons_ne_nil _ _) hPieces)
    · contradiction

theorem parseAll?_splitOn_eq_some_iff {t : Text} {ps : List Parameter} :
    parseAll? (Text.splitOn '&' t) = some ps ↔ WritesList ps t :=
  ⟨fun h => Text.join_splitOn '&' t ▸ writesList_of_parseAll? (Text.splitOn_ne_nil '&' t) h,
    parseAll?_of_writesList⟩

end Parameter

namespace Call

/-- Reads a call as it is written, if the text is one. -/
def read? (t : Text) : Option Call :=
  match Text.cut '?' t with
  | (name, none) => if isName name then some ⟨name, []⟩ else none
  | (name, some ps) =>
    if isName name then (Parameter.parseAll? (Text.splitOn '&' ps)).map fun ps => ⟨name, ps⟩
    else none

theorem read?_eq_some_iff {t : Text} {call : Call} : read? t = some call ↔ call.Writes t := by
  constructor
  · intro h
    rcases hCut : Text.cut '?' t with ⟨name, rest⟩
    cases rest with
    | none =>
      simp only [read?, hCut] at h
      obtain ⟨rfl, _⟩ := Text.cut_eq_none_iff.1 hCut
      split at h
      · next hName =>
        obtain rfl := Option.some.inj h
        exact .plain hName
      · contradiction
    | some ps =>
      simp only [read?, hCut] at h
      obtain ⟨rfl, _⟩ := Text.cut_eq_some_iff.1 hCut
      split at h
      · next hName =>
        obtain ⟨list, hList, rfl⟩ := Option.map_eq_some_iff.1 h
        exact .withParameters hName (Parameter.parseAll?_splitOn_eq_some_iff.1 hList)
      · contradiction
  · intro h
    cases h with
    | plain hName =>
      have hCut : Text.cut '?' t = (t, none) := Text.cut_eq_none_iff.2
        ⟨rfl, fun hMem => absurd (isNameChar_of_isName hName _ hMem) (by decide)⟩
      simp [read?, hCut, hName]
    | @withParameters name rest ps hName hList =>
      have hCut : Text.cut '?' (name ++ '?' :: rest) = (name, some rest) :=
        Text.cut_eq_some_iff.2
          ⟨rfl, fun hMem => absurd (isNameChar_of_isName hName _ hMem) (by decide)⟩
      simp [read?, hCut, hName, Parameter.parseAll?_splitOn_eq_some_iff.2 hList]

/-- Reads a call, whose name comes out in lower case. -/
def parse? (t : Text) : Option Call := (read? t).map lowered

/-- The first bad piece of a parameter list; the pieces are counted from `position` on. -/
def diagnosePieces (position : Nat) : List Text → Reason
  | [] => .unexplained
  | piece :: pieces =>
    if piece.isEmpty then .emptyParameter position
    else if (Parameter.parse? piece).isNone then .malformedParameter piece position
    else diagnosePieces (position + 1) pieces

/-- What is wrong with a text that is no call. Without a question mark the parameter list counts
as empty. -/
def diagnose (t : Text) : Reason :=
  match Text.cut '?' t with
  | (name, ps) =>
    if !isName name then .invalidName name
    else if ps = some [] then .noParameters
    else diagnosePieces 1 (Text.splitOn '&' (ps.getD []))

/-- Reads a call, or says why the text is none. -/
def parse (t : Text) : Except Rejection Call :=
  if t.isEmpty then .error ⟨t, .empty⟩
  else
    match parse? t with
    | some call => .ok call
    | none => .error ⟨t, diagnose t⟩

/-- What is read is a written call with its name in lower case. -/
theorem parse_eq_ok_iff {t : Text} {call : Call} :
    parse t = .ok call ↔ ∃ raw : Call, raw.Writes t ∧ raw.lowered = call := by
  have hRead : parse? t = some call ↔ ∃ raw : Call, raw.Writes t ∧ raw.lowered = call := by
    simp only [parse?, Option.map_eq_some_iff, read?_eq_some_iff]
  rw [← hRead]
  cases t with
  | nil => simp [parse, parse?, read?, Text.cut, isName]
  | cons c t =>
    cases hParse : parse? (c :: t) with
    | none => simp [parse, hParse]
    | some found => simp [parse, hParse]

/-- A rejection carries the whole text. -/
theorem parse_eq_error_iff {t : Text} :
    (∃ reason, parse t = .error ⟨t, reason⟩) ↔ ∀ call, parse t ≠ .ok call := by
  constructor
  · rintro ⟨reason, hError⟩ call hOk
    exact absurd (hError.symm.trans hOk) (by simp)
  · intro h
    unfold parse at h ⊢
    split
    · exact ⟨_, rfl⟩
    · next hNonempty =>
      split
      · next call hParse =>
        simp only [hNonempty, hParse] at h
        exact absurd rfl (h call)
      · exact ⟨_, rfl⟩

end Call

end CommandMarkup
