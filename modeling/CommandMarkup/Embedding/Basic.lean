import CommandMarkup.Text.Basic

/-!
Embeddings: the delimiters between which a command stands in a document.

Main statement: `split?` undoes `enclose` and accepts nothing else (`split?_eq_some_iff`).
-/

namespace CommandMarkup

/-- Inline output stays within the paragraph around it, block output stands outside of any. -/
inductive EmbeddingType where
  | inline
  | block
  deriving DecidableEq

namespace EmbeddingType

/-- The type in one word. -/
def toText : EmbeddingType → Text
  | inline => "inline".toList
  | block => "block".toList

end EmbeddingType

/-- How commands are embedded: the type of their output and the texts that open and close a
command. Any text may be a delimiter, also the empty one. -/
structure Embedding where
  type : EmbeddingType
  opening : Text
  closing : Text
  deriving DecidableEq

namespace Embedding

/-- Inline commands stand between percent signs. -/
def inline : Embedding := ⟨.inline, ['%'], ['%']⟩

/-- Block commands stand between hash signs. -/
def block : Embedding := ⟨.block, ['#'], ['#']⟩

/-- The end of a command: the parenthesis that closes its content, then the closing delimiter. -/
def ending (e : Embedding) : Text := ')' :: e.closing

/-- The command with the given call text and content as it stands in a document. -/
def enclose (e : Embedding) (callText content : Text) : Text :=
  e.opening ++ callText ++ '(' :: content ++ e.ending

/-- The call text and the content of a delimited command. The call text ends at the first
parenthesis. -/
def split? (e : Embedding) (command : Text) : Option (Text × Text) :=
  match Text.dropStart? e.opening command with
  | none => none
  | some rest =>
    match Text.cut '(' rest with
    | (_, none) => none
    | (callText, some body) => (Text.dropEnd? e.ending body).map fun content => (callText, content)

theorem split?_eq_some_iff {e : Embedding} {command callText content : Text} :
    e.split? command = some (callText, content) ↔
      command = e.enclose callText content ∧ '(' ∉ callText := by
  constructor
  · intro h
    unfold split? at h
    split at h
    · contradiction
    · next rest hStart =>
      obtain rfl := Text.dropStart?_eq_some_iff.1 hStart
      split at h
      · contradiction
      · next before body hCut =>
        obtain ⟨rfl, hMem⟩ := Text.cut_eq_some_iff.1 hCut
        simp only [Option.map_eq_some_iff, Prod.mk.injEq, Text.dropEnd?_eq_some_iff] at h
        obtain ⟨_, rfl, rfl, rfl⟩ := h
        exact ⟨by simp [enclose], hMem⟩
  · rintro ⟨rfl, hMem⟩
    have hStart : Text.dropStart? e.opening (e.enclose callText content) =
        some (callText ++ '(' :: (content ++ e.ending)) :=
      Text.dropStart?_eq_some_iff.2 (by simp [enclose])
    have hCut : Text.cut '(' (callText ++ '(' :: (content ++ e.ending)) =
        (callText, some (content ++ e.ending)) := Text.cut_eq_some_iff.2 ⟨rfl, hMem⟩
    have hEnd : Text.dropEnd? e.ending (content ++ e.ending) = some content :=
      Text.dropEnd?_eq_some_iff.2 rfl
    simp only [split?, hStart, hCut, hEnd, Option.map_some]

end Embedding

end CommandMarkup
