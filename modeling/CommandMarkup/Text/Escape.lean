import CommandMarkup.Text.Basic

/-!
Escaping for markup: the characters that open a tag, an entity or a quoted attribute are written
as entities.

Main statement: escaping character class by character class is one pass over the text
(`escape_eq_flatMap`).
-/

namespace CommandMarkup.Text

/-- The text with every occurrence of one character replaced. -/
def replaceChar (c : Char) (replacement : Text) (t : Text) : Text :=
  t.flatMap fun d => if d = c then replacement else [d]

/-- Escapes a text for the body of a document. The ampersand comes first, so that the entities
put in for the other characters stay whole. -/
def escape (t : Text) : Text :=
  replaceChar '"' "&quot;".toList
    (replaceChar '>' "&gt;".toList
      (replaceChar '<' "&lt;".toList
        (replaceChar '&' "&amp;".toList t)))

/-- Escapes a text for an attribute value between single quotation marks. -/
def escapeAttribute (t : Text) : Text := replaceChar '\'' "&#x27;".toList (escape t)

/-- How one character is written in the body of a document. -/
def escapeChar (c : Char) : Text :=
  if c = '&' then "&amp;".toList
  else if c = '<' then "&lt;".toList
  else if c = '>' then "&gt;".toList
  else if c = '"' then "&quot;".toList
  else [c]

theorem replaceChar_append (c : Char) (replacement t u : Text) :
    replaceChar c replacement (t ++ u) =
      replaceChar c replacement t ++ replaceChar c replacement u :=
  List.flatMap_append

theorem escape_append (t u : Text) : escape (t ++ u) = escape t ++ escape u := by
  simp only [escape, replaceChar_append]

theorem replaceChar_singleton (c : Char) (replacement : Text) {d : Char} (hNe : d ≠ c) :
    replaceChar c replacement [d] = [d] := by
  simp [replaceChar, hNe]

theorem escape_singleton (c : Char) : escape [c] = escapeChar c := by
  by_cases hAmp : c = '&'
  · subst hAmp; rfl
  by_cases hLess : c = '<'
  · subst hLess; rfl
  by_cases hGreater : c = '>'
  · subst hGreater; rfl
  by_cases hQuote : c = '"'
  · subst hQuote; rfl
  rw [escape, replaceChar_singleton _ _ hAmp, replaceChar_singleton _ _ hLess,
    replaceChar_singleton _ _ hGreater, replaceChar_singleton _ _ hQuote, escapeChar,
    if_neg hAmp, if_neg hLess, if_neg hGreater, if_neg hQuote]

theorem escape_eq_flatMap (t : Text) : escape t = t.flatMap escapeChar := by
  induction t with
  | nil => rfl
  | cons c t ih =>
    rw [show c :: t = [c] ++ t from rfl, escape_append, escape_singleton, ih]
    simp

end CommandMarkup.Text
