import CommandMarkup.Proofs.Call.Pattern

/-! Derivations of the call grammar as trees, one constructor for each production. A tree holds the
texts of its names and values, so that only derivable texts can be written down as trees.

Main statement: a text is read as the call of its one derivation, or rejected as a whole
(`parse_reads_derivation`). -/
namespace CommandMarkup

/-- A derivation of `parameter ::= value | name '=' value?`. -/
inductive Parameter.Derivation where
  | value (text : {t : Text // t ∈ Call.Pattern.value})
  | assignment (name : {t : Text // t ∈ Call.Pattern.name})
      (value? : Option {t : Text // t ∈ Call.Pattern.value})

namespace Parameter.Derivation

/-- The text that is derived. -/
def text : Derivation → Text
  | value t => t.val
  | assignment name none => name.val ++ ['=']
  | assignment name (some v) => name.val ++ '=' :: v.val

/-- The parameter that the derivation stands for; a value left out is the empty one. -/
def parameter : Derivation → Parameter
  | value t => .bare t.val
  | assignment name none => .assignment name.val []
  | assignment name (some v) => .assignment name.val v.val

theorem writes (d : Derivation) : d.parameter.Writes d.text := by
  cases d with
  | value t => exact .bare (Call.Pattern.mem_value_iff.mp t.property)
  | assignment name value? =>
      have hName := Call.Pattern.mem_name_iff.mp name.property
      cases value? with
      | none => exact .assignment hName (by simp)
      | some v =>
          have hValue := Call.Pattern.mem_value_iff.mp v.property
          simp only [Call.isValue, Bool.and_eq_true, List.all_eq_true] at hValue
          exact .assignment hName hValue.2

/-- All ways to write a parameter come from a derivation. -/
theorem exists_of_writes {p : Parameter} {t : Text} (h : p.Writes t) :
    ∃ d : Derivation, d.text = t ∧ d.parameter = p := by
  cases h with
  | bare hValue => exact ⟨.value ⟨t, Call.Pattern.mem_value_iff.mpr hValue⟩, rfl, rfl⟩
  | @assignment name v hName hValue =>
      have hNode := Call.Pattern.mem_name_iff.mpr hName
      cases v with
      | nil => exact ⟨.assignment ⟨name, hNode⟩ none, rfl, rfl⟩
      | cons c v =>
          have hMem : c :: v ∈ Call.Pattern.value := Call.Pattern.mem_value_iff.mpr <| by
            simpa only [Call.isValue, List.isEmpty_cons, Bool.not_false, Bool.true_and,
              List.all_eq_true] using hValue
          exact ⟨.assignment ⟨name, hNode⟩ (some ⟨c :: v, hMem⟩), rfl, rfl⟩

theorem value_ne_nil (v : {t : Text // t ∈ Call.Pattern.value}) : v.val ≠ [] := by
  have hValue := Call.Pattern.mem_value_iff.mp v.property
  intro hNil
  rw [hNil] at hValue
  exact absurd hValue (by decide)

/-- No two derivations stand for one parameter: a value that is there is not empty. -/
theorem parameter_injective : Function.Injective parameter := by
  intro d e h
  match d, e with
  | value t, value u =>
      simp only [parameter, Parameter.bare.injEq] at h
      rw [Subtype.ext h]
  | assignment n none, assignment m none =>
      simp only [parameter, Parameter.assignment.injEq] at h
      rw [Subtype.ext h.1]
  | assignment n (some v), assignment m (some w) =>
      simp only [parameter, Parameter.assignment.injEq] at h
      rw [Subtype.ext h.1, Subtype.ext h.2]
  | assignment n none, assignment m (some w) =>
      simp only [parameter, Parameter.assignment.injEq] at h
      exact absurd h.2.symm (value_ne_nil w)
  | assignment n (some v), assignment m none =>
      simp only [parameter, Parameter.assignment.injEq] at h
      exact absurd h.2 (value_ne_nil v)
  | value t, assignment n none => exact absurd h (by simp [parameter])
  | value t, assignment n (some v) => exact absurd h (by simp [parameter])
  | assignment n none, value t => exact absurd h (by simp [parameter])
  | assignment n (some v), value t => exact absurd h (by simp [parameter])

/-- The text of `parameter ('&' parameter)*`. -/
def listText (first : Derivation) (more : List Derivation) : Text :=
  first.text ++ more.flatMap fun d => '&' :: d.text

theorem writesList (first : Derivation) (more : List Derivation) :
    WritesList ((first :: more).map parameter) (listText first more) := by
  induction more generalizing first with
  | nil => simpa [listText] using WritesList.one first.writes
  | cons next more ih => simpa [listText] using WritesList.more first.writes (ih next)

/-- All ways to write a parameter list come from derivations of its parameters. There is at least
one of them, as a list is not empty. -/
theorem exists_of_writesList {ps : List Parameter} {t : Text} (h : WritesList ps t) :
    ∃ first more, listText first more = t ∧ (first :: more).map parameter = ps := by
  induction h with
  | one hHead =>
      obtain ⟨first, rfl, rfl⟩ := exists_of_writes hHead
      exact ⟨first, [], by simp [listText], rfl⟩
  | more hHead _ ih =>
      obtain ⟨first, rfl, rfl⟩ := exists_of_writes hHead
      obtain ⟨next, more, rfl, rfl⟩ := ih
      exact ⟨first, next :: more, by simp [listText], rfl⟩

end Parameter.Derivation

namespace Call

/-- A derivation of `call ::= name ('?' parameter ('&' parameter)*)?`. -/
structure Derivation where
  name : {t : Text // t ∈ Pattern.name}
  parameters? : Option (Parameter.Derivation × List Parameter.Derivation)

namespace Derivation

/-- The parameter nodes in their order. -/
def nodes (d : Derivation) : List Parameter.Derivation :=
  match d.parameters? with
  | none => []
  | some (first, more) => first :: more

/-- The text that is derived. -/
def text (d : Derivation) : Text :=
  match d.parameters? with
  | none => d.name.val
  | some (first, more) => d.name.val ++ '?' :: Parameter.Derivation.listText first more

/-- The call that the derivation stands for: the name in lower case, and one parameter for each
parameter node. -/
def call (d : Derivation) : Call :=
  ⟨d.name.val.map Char.toLower, d.nodes.map Parameter.Derivation.parameter⟩

/-- The same with the name as it is written. -/
def raw (d : Derivation) : Call := ⟨d.name.val, d.nodes.map Parameter.Derivation.parameter⟩

theorem lowered_raw (d : Derivation) : d.raw.lowered = d.call := by
  simp only [lowered, raw, call, lower_name (Pattern.mem_name_iff.mp d.name.property)]

/-- A derivation of a call is one way to write it, letters as they are. -/
theorem writes (d : Derivation) : d.raw.Writes d.text := by
  obtain ⟨name, parameters?⟩ := d
  have hName := Pattern.mem_name_iff.mp name.property
  cases parameters? with
  | none => exact .plain hName
  | some list => exact .withParameters hName (Parameter.Derivation.writesList list.1 list.2)

/-- All ways to write a call come from a derivation. A call without parameters is written without a
question mark, any other with one. -/
theorem exists_of_writes {c : Call} {t : Text} (h : c.Writes t) :
    ∃ d : Derivation, d.text = t ∧ d.raw = c := by
  cases h with
  | plain hName => exact ⟨⟨⟨t, Pattern.mem_name_iff.mpr hName⟩, none⟩, rfl, rfl⟩
  | withParameters hName hList =>
      obtain ⟨first, more, rfl, rfl⟩ := Parameter.Derivation.exists_of_writesList hList
      exact ⟨⟨⟨_, Pattern.mem_name_iff.mpr hName⟩, some (first, more)⟩, rfl, rfl⟩

/-- A call before its letters are changed tells which derivation it comes from. -/
theorem raw_injective : Function.Injective raw := by
  rintro ⟨n, ps⟩ ⟨m, qs⟩ h
  simp only [raw, Call.mk.injEq] at h
  have hNodes := (List.map_injective_iff.mpr Parameter.Derivation.parameter_injective) h.2
  have hName : n = m := Subtype.ext h.1
  subst hName
  cases ps with
  | none =>
      cases qs with
      | none => rfl
      | some list => exact absurd hNodes (by simp [nodes])
  | some list =>
      cases qs with
      | none => exact absurd hNodes (by simp [nodes])
      | some other =>
          simp only [nodes, List.cons.injEq] at hNodes
          rw [show list = other from Prod.ext hNodes.1 hNodes.2]

/-- The grammar is unambiguous. The reader finds the raw call of every derivation of a text, and a
raw call determines its derivation. -/
theorem eq_of_text_eq {d e : Derivation} (h : d.text = e.text) : d = e := by
  have hRead : read? d.text = some d.raw := read?_eq_some_iff.mpr d.writes
  have hOther : read? e.text = some e.raw := read?_eq_some_iff.mpr e.writes
  rw [h, hOther] at hRead
  exact raw_injective (Option.some.inj hRead).symm

end Derivation

/-- What the parser accepts is what derivations yield. With the uniqueness of derivations this makes
the grammar unambiguous. -/
theorem parse_eq_ok_iff_derivation {t : Text} {c : Call} :
    parse t = .ok c ↔ ∃ d : Derivation, d.text = t ∧ d.call = c := by
  rw [parse_eq_ok_iff]
  constructor
  · rintro ⟨raw, hWrites, rfl⟩
    obtain ⟨d, hText, rfl⟩ := Derivation.exists_of_writes hWrites
    exact ⟨d, hText, d.lowered_raw.symm⟩
  · rintro ⟨d, rfl, rfl⟩
    exact ⟨d.raw, d.writes, d.lowered_raw⟩

/-- The grammar as a regular language and as a set of derivations have the same texts. -/
theorem mem_pattern_iff_derivation {t : Text} :
    t ∈ Pattern.call ↔ ∃ d : Derivation, d.text = t := by
  rw [Pattern.mem_call_iff]
  constructor
  · rintro ⟨raw, hWrites⟩
    obtain ⟨d, hText, _⟩ := Derivation.exists_of_writes hWrites
    exact ⟨d, hText⟩
  · rintro ⟨d, rfl⟩
    exact ⟨d.raw, d.writes⟩

/-- However the pattern matched a call with parameters, the cut at the question mark and the split
at the ampersands find the matched name and the matched pieces again, and reading a piece for the
second time succeeds. -/
theorem parse_of_match {n : Text} {pieces : List Text} (hName : n ∈ Pattern.name)
    (hNonempty : pieces ≠ []) (hPieces : ∀ piece ∈ pieces, piece ∈ Pattern.parameter) :
    Text.cut '?' (n ++ '?' :: Text.join '&' pieces) = (n, some (Text.join '&' pieces)) ∧
      Text.splitOn '&' (Text.join '&' pieces) = pieces ∧
      ∃ ps, pieces.map Parameter.parse? = ps.map some ∧
        parse (n ++ '?' :: Text.join '&' pieces) = .ok ⟨n.map Char.toLower, ps⟩ := by
  have hIsName := Pattern.mem_name_iff.mp hName
  obtain ⟨ps, hps⟩ := Pattern.exists_parseAll?_of_mem hPieces
  have hList := Parameter.writesList_of_parseAll? hNonempty hps
  refine ⟨Text.cut_eq_some_iff.mpr ⟨rfl, ?_⟩, ?_, ps, Parameter.parseAll?_eq_some_iff.mp hps, ?_⟩
  · intro hMem
    exact absurd (isNameChar_of_isName hIsName _ hMem) (by decide)
  · exact Text.splitOn_join hNonempty fun p hp => Pattern.not_mem_of_mem_parameter (hPieces p hp)
  · refine parse_eq_ok_iff.mpr ⟨⟨n, ps⟩, .withParameters hIsName hList, ?_⟩
    simp only [lowered, lower_name hIsName]

/-- The parser is the grammar. A text is read as a call if and only if that is the call of a
derivation of the text; any other text is rejected as a whole. A text has at most one derivation,
and has one if and only if the pattern matches it. Cutting what the pattern matched into pieces
and reading each again never disagrees with the match. -/
theorem parse_reads_derivation (t : Text) :
    (∀ c, parse t = .ok c ↔ ∃ d : Derivation, d.text = t ∧ d.call = c) ∧
    ((∃ reason, parse t = .error ⟨t, reason⟩) ↔ ¬ ∃ d : Derivation, d.text = t) ∧
    (∀ d e : Derivation, d.text = t → e.text = t → d = e) ∧
    (t ∈ Pattern.call ↔ ∃ d : Derivation, d.text = t) ∧
    (∀ n pieces, n ∈ Pattern.name → pieces ≠ [] →
      (∀ piece ∈ pieces, piece ∈ Pattern.parameter) → t = n ++ '?' :: Text.join '&' pieces →
        Text.cut '?' t = (n, some (Text.join '&' pieces)) ∧
        Text.splitOn '&' (Text.join '&' pieces) = pieces ∧
        (∀ piece ∈ pieces,
          if '=' ∈ piece then piece ∈ Pattern.assignment else piece ∈ Pattern.value) ∧
        ∃ ps, pieces.map Parameter.parse? = ps.map some ∧
          parse t = .ok ⟨n.map Char.toLower, ps⟩) := by
  refine ⟨fun c => parse_eq_ok_iff_derivation, ?_, ?_, mem_pattern_iff_derivation, ?_⟩
  · rw [parse_eq_error_iff]
    constructor
    · rintro hRejected ⟨d, hText⟩
      exact hRejected d.call (parse_eq_ok_iff_derivation.mpr ⟨d, hText, rfl⟩)
    · intro hNone c hOk
      obtain ⟨d, hText, _⟩ := parse_eq_ok_iff_derivation.mp hOk
      exact hNone ⟨d, hText⟩
  · intro d e hd he
    exact Derivation.eq_of_text_eq (hd.trans he.symm)
  · rintro n pieces hName hNonempty hPieces rfl
    obtain ⟨hCut, hSplit, hRead⟩ := parse_of_match hName hNonempty hPieces
    exact ⟨hCut, hSplit, fun p hp => Pattern.mem_of_mem_parameter (hPieces p hp), hRead⟩

/-- A value and an assignment that starts with it. -/
theorem parse_reads_derivation_overlap :
    ['D', 'o'] ∈ Pattern.name ∧
      (∀ piece ∈ [['a'], ['a', '=', 'b']], piece ∈ Pattern.parameter) ∧
      Text.splitOn '&' ['a', '&', 'a', '=', 'b'] = [['a'], ['a', '=', 'b']] ∧
      (∃ ps, [['a'], ['a', '=', 'b']].map Parameter.parse? = ps.map some ∧
        parse ['D', 'o', '?', 'a', '&', 'a', '=', 'b'] = .ok ⟨['d', 'o'], ps⟩) ∧
      ∃ d : Derivation, d.text = ['D', 'o', '?', 'a', '&', 'a', '=', 'b'] ∧
        ∀ e : Derivation, e.text = ['D', 'o', '?', 'a', '&', 'a', '=', 'b'] → e = d := by
  obtain ⟨hOk, _, hUnique, _, hMatch⟩ :=
    parse_reads_derivation ['D', 'o', '?', 'a', '&', 'a', '=', 'b']
  have hName : ['D', 'o'] ∈ Pattern.name := Pattern.mem_name_iff.mpr (by decide)
  have hAll : Parameter.parseAll? [['a'], ['a', '=', 'b']] =
      some [.bare ['a'], .assignment ['a'] ['b']] := by decide
  have hPieces := Pattern.mem_parameter_of_parseAll? hAll
  obtain ⟨_, hSplit, _, ps, hRead, hParse⟩ :=
    hMatch ['D', 'o'] [['a'], ['a', '=', 'b']] hName (by decide) hPieces rfl
  obtain ⟨d, hText, _⟩ := (hOk _).mp hParse
  exact ⟨hName, hPieces, hSplit, ⟨ps, hRead, hParse⟩, d, hText, fun e he => hUnique e d he hText⟩

end Call

end CommandMarkup
