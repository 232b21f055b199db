import CommandMarkup.Embedding.Basic
import CommandMarkup.Text.Escape

/-!
The elements that bundled handlers put around their output.
-/

namespace CommandMarkup.Handler

/-- An element with a class, if one is given, around a body that is escaped already. -/
def element (tag : Text) (cssClass : Option Text) (body : Text) : Text :=
  let classPart : Text :=
    match cssClass with
    | some name => " class='".toList ++ Text.escapeAttribute name ++ "'".toList
    | none => []
  '<' :: tag ++ classPart ++ '>' :: body ++ "</".toList ++ tag ++ ['>']

/-- The body in a block element, or inline as it is; a class needs an element inline too. -/
def wrap (embedding : EmbeddingType) (cssClass : Option Text) (body : Text) : Text :=
  match embedding, cssClass with
  | .block, _ => element "div".toList cssClass body
  | .inline, some _ => element "span".toList cssClass body
  | .inline, none => body

end CommandMarkup.Handler
