import CommandMarkup.Embedding.Lexer

/-!
The commands in a text, from left to right. The next command is the leftmost one after the last, and
of two that start together that of the first embedding.

Main statement: the segments of a text lose nothing (`flatten_segments`).
-/

namespace CommandMarkup.Embedding

/-- A command found in a text: the text passed over before it, its embedding, and the command
itself with its delimiters. -/
structure Segment where
  before : Text
  embedding : Embedding
  command : Text
  deriving DecidableEq

/-- The command that starts here in the first embedding that has one. -/
def firstAt? : List Embedding → Text → Option (Embedding × Text × Text)
  | [], _ => none
  | e :: es, t =>
    match e.matchAt? t with
    | some (command, rest) => some (e, command, rest)
    | none => firstAt? es t

/-- The leftmost command, and the text after it. -/
def next? (es : List Embedding) : Text → Option (Segment × Text)
  | [] => none
  | c :: t =>
    match firstAt? es (c :: t) with
    | some (e, command, rest) => some (⟨[], e, command⟩, rest)
    | none =>
      (next? es t).map fun found => ({ found.1 with before := c :: found.1.before }, found.2)

theorem firstAt?_eq_some {es : List Embedding} {t command rest : Text} {e : Embedding}
    (h : firstAt? es t = some (e, command, rest)) :
    e ∈ es ∧ e.matchAt? t = some (command, rest) := by
  induction es with
  | nil => simp [firstAt?] at h
  | cons f es ih =>
    simp only [firstAt?] at h
    split at h
    · next command' rest' hMatch =>
      simp only [Option.some.injEq, Prod.mk.injEq] at h
      obtain ⟨rfl, rfl, rfl⟩ := h
      exact ⟨List.mem_cons_self, hMatch⟩
    · exact ⟨List.mem_cons_of_mem _ (ih h).1, (ih h).2⟩

theorem next?_eq_some {es : List Embedding} {t rest : Text} {s : Segment}
    (h : next? es t = some (s, rest)) :
    t = s.before ++ s.command ++ rest ∧ s.command ≠ [] := by
  induction t generalizing s with
  | nil => simp [next?] at h
  | cons c t ih =>
    simp only [next?] at h
    split at h
    · next e command rest' hFirst =>
      simp only [Option.some.injEq, Prod.mk.injEq] at h
      obtain ⟨rfl, rfl⟩ := h
      obtain ⟨hText, callText, content, hCommand⟩ := matchAt?_eq_some (firstAt?_eq_some hFirst).2
      exact ⟨by simpa using hText, hCommand ▸ enclose_ne_nil e callText content⟩
    · simp only [Option.map_eq_some_iff, Prod.mk.injEq] at h
      obtain ⟨found, hFound, rfl, rfl⟩ := h
      obtain ⟨hText, hNonempty⟩ := ih (s := found.1) hFound
      exact ⟨by simp [hText], hNonempty⟩

theorem length_of_next? {es : List Embedding} {t rest : Text} {s : Segment}
    (h : next? es t = some (s, rest)) : rest.length < t.length := by
  obtain ⟨hText, hNonempty⟩ := next?_eq_some h
  have := List.length_pos_iff.2 hNonempty
  rw [hText]
  simp only [List.length_append]
  omega

/-- All commands of the text from left to right, each with the text passed over before it, and the
text after the last one. -/
def segments (es : List Embedding) (t : Text) : List Segment × Text :=
  match _hNext : next? es t with
  | none => ([], t)
  | some (s, rest) => (s :: (segments es rest).1, (segments es rest).2)
termination_by t.length
decreasing_by all_goals exact length_of_next? _hNext

theorem flatten_segments (es : List Embedding) (t : Text) :
    (segments es t).1.flatMap (fun s => s.before ++ s.command) ++ (segments es t).2 = t := by
  fun_induction segments es t with
  | case1 t => rfl
  | case2 t s rest hNext ih =>
    obtain ⟨hText, _⟩ := next?_eq_some hNext
    rw [hText]
    simp only [List.flatMap_cons, List.append_assoc, List.append_cancel_left_eq] at ih ⊢
    exact ih

/-- A command with the offset at which it starts. -/
structure Match where
  start : Nat
  command : Text
  deriving DecidableEq

namespace Match

/-- The offset just after the command. -/
def stop (m : Match) : Nat := m.start + m.command.length

end Match

/-- The offsets of the commands of segments that begin at `start`. -/
def locate (start : Nat) : List Segment → List Match
  | [] => []
  | s :: rest =>
    let first : Match := ⟨start + s.before.length, s.command⟩
    first :: locate first.stop rest

/-- The successive commands of one embedding in a text. -/
def findAll (e : Embedding) (t : Text) : List Match := locate 0 (segments [e] t).1

end CommandMarkup.Embedding
