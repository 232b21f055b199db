import CommandMarkup.Embedding.Basic
import CommandMarkup.Value

/-!
Prepared commands: what is left of a command when a document has been read, to be put out later.
What is wrong with a command makes it a literal, whose text is put out in its place.
-/

namespace CommandMarkup

/-- A command ready to be put out. A literal has the marker for its command and text for its
payload. -/
structure Prepared where
  command : Text
  payload : Value
  embedding : EmbeddingType

namespace Prepared

/-- What stands for the command of a literal; it is no name. -/
def literalMarker : Text := ['=']

/-- The text in place of a command whose name resolves to no handler. -/
def notFound : Text := "##_COMMAND_NOT_FOUND_##".toList

/-- The text in place of a command whose call cannot be read. -/
def invalidSyntax : Text := "##_INVALID_COMMAND_SYNTAX_##".toList

/-- The text in place of a command whose handler reports an error. -/
def wrapError (message : Text) : Text := "##".toList ++ message ++ "##".toList

/-- A text to be put out escaped. -/
def literal (text : Text) (embedding : EmbeddingType) : Prepared :=
  ⟨literalMarker, .text text, embedding⟩

/-- Whether the payload is text to be put out escaped, and no handler takes part. -/
def isLiteral (p : Prepared) : Bool := p.command = literalMarker

end Prepared

end CommandMarkup
