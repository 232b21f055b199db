import CommandMarkup.Call.Grammar
import CommandMarkup.Embedding.Basic

/-!
Commands as they stand in a text. A command is told by its delimiters and by the characters of its
call text alone; whether the call text is a call is settled later.

Main statement: a match is a delimited command at the start of the text (`matchAt?_eq_some`).
-/

namespace CommandMarkup.Embedding

/-- What the parameter list of a call may hold, well formed or not. -/
def isListChar (c : Char) : Bool := Call.isValueChar c || c == '=' || c == '&'

/-- The longest start of the text that looks like a call, and what follows it. -/
def takeCall? : Text → Option (Text × Text)
  | [] => none
  | c :: t =>
    if Call.isNameStart c then
      match t.dropWhile Call.isNameChar with
      | '?' :: rest =>
        some (c :: t.takeWhile Call.isNameChar ++ '?' :: rest.takeWhile isListChar,
          rest.dropWhile isListChar)
      | rest => some (c :: t.takeWhile Call.isNameChar, rest)
    else none

/-- The call text of a command that starts here, and what follows the parenthesis after it. -/
def takeHead? (e : Embedding) (t : Text) : Option (Text × Text) :=
  match Text.dropStart? e.opening t with
  | none => none
  | some rest =>
    match takeCall? rest with
    | some (callText, '(' :: body) => some (callText, body)
    | _ => none

/-- The command that starts here, up to the first ending after its content has begun, and the text
after it. -/
def matchAt? (e : Embedding) (t : Text) : Option (Text × Text) :=
  match e.takeHead? t with
  | none => none
  | some (callText, body) =>
    (Text.breakOn? e.ending body).map fun parts => (e.enclose callText parts.1, parts.2)

/-- Whether the text as a whole is a command; its content may hold endings too. -/
def matchesWhole (e : Embedding) (t : Text) : Bool :=
  match e.takeHead? t with
  | none => false
  | some (_, body) => (Text.dropEnd? e.ending body).isSome

theorem takeCall?_eq_some {t callText rest : Text} (h : takeCall? t = some (callText, rest)) :
    t = callText ++ rest := by
  cases t with
  | nil => simp [takeCall?] at h
  | cons c t =>
    simp only [takeCall?] at h
    split at h
    · split at h
      · next tail hRest =>
        simp only [Option.some.injEq, Prod.mk.injEq] at h
        obtain ⟨rfl, rfl⟩ := h
        have := List.takeWhile_append_dropWhile (p := Call.isNameChar) (l := t)
        rw [hRest] at this
        simp [this]
      · simp only [Option.some.injEq, Prod.mk.injEq] at h
        obtain ⟨rfl, rfl⟩ := h
        simp
    · contradiction

theorem takeHead?_eq_some {e : Embedding} {t callText body : Text}
    (h : e.takeHead? t = some (callText, body)) : t = e.opening ++ callText ++ '(' :: body := by
  unfold takeHead? at h
  split at h
  · contradiction
  · next rest hStart =>
    obtain rfl := Text.dropStart?_eq_some_iff.1 hStart
    split at h
    · next c b hCall =>
      simp only [Option.some.injEq, Prod.mk.injEq] at h
      obtain ⟨rfl, rfl⟩ := h
      rw [takeCall?_eq_some hCall]
      simp
    · contradiction

theorem matchAt?_eq_some {e : Embedding} {t command rest : Text}
    (h : e.matchAt? t = some (command, rest)) :
    t = command ++ rest ∧ ∃ callText content, command = e.enclose callText content := by
  unfold matchAt? at h
  split at h
  · contradiction
  · next callText body hHead =>
    simp only [Option.map_eq_some_iff, Prod.mk.injEq] at h
    obtain ⟨parts, hParts, rfl, rfl⟩ := h
    have hBody := Text.eq_append_of_breakOn? (show _ = some (parts.1, parts.2) from hParts)
    refine ⟨?_, callText, parts.1, rfl⟩
    rw [takeHead?_eq_some hHead, hBody]
    simp [enclose]

theorem enclose_ne_nil (e : Embedding) (callText content : Text) :
    e.enclose callText content ≠ [] := by
  simp [enclose]

end CommandMarkup.Embedding
