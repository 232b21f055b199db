import CommandMarkup.Prepared.Basic
import CommandMarkup.Proofs.Text.Entity

/-! Escaping for the body of a document as one pass. The four replacements come one after the other,
and each of the later ones goes over what the earlier ones put in; it finds nothing there, because
only the first one puts in its own character.

Main statement: `escape_one_pass`. -/
namespace CommandMarkup.Text

/-- Reads the four entities of the body. An ampersand that starts none of them stands for itself. -/
def unescape : Text → Text
  | '&' :: 'a' :: 'm' :: 'p' :: ';' :: t => '&' :: unescape t
  | '&' :: 'l' :: 't' :: ';' :: t => '<' :: unescape t
  | '&' :: 'g' :: 't' :: ';' :: t => '>' :: unescape t
  | '&' :: 'q' :: 'u' :: 'o' :: 't' :: ';' :: t => '"' :: unescape t
  | c :: t => c :: unescape t
  | [] => []

theorem unescape_cons {c : Char} (h : c ≠ '&') (t : Text) :
    unescape (c :: t) = c :: unescape t := by
  rw [unescape.eq_def]
  split <;> simp_all

/-- No entity starts another one. -/
theorem unescape_entity {entity : Text × Char} (h : entity ∈ bodyEntities) (t : Text) :
    unescape (entity.1 ++ t) = entity.2 :: unescape t := by
  simp only [bodyEntities, List.mem_cons, List.not_mem_nil, or_false] at h
  rcases h with rfl | rfl | rfl | rfl <;> rfl

theorem escape_cons (c : Char) (t : Text) : escape (c :: t) = escapeChar c ++ escape t := by
  rw [escape_eq_flatMap, escape_eq_flatMap, List.flatMap_cons]

/-- Reading the entities undoes escaping, also where the text had entities in it before. -/
theorem unescape_escape (t : Text) : unescape (escape t) = t := by
  induction t with
  | nil => rfl
  | cons c t ih =>
      rw [escape_cons]
      rcases escapeChar_cases c with hEntity | ⟨hSelf, hPlain⟩
      · rw [unescape_entity hEntity, ih]
      · have hAmpersand : c ≠ '&' := List.ne_of_not_mem_cons hPlain
        rw [hSelf, List.singleton_append, unescape_cons hAmpersand, ih]

/-- Different texts are escaped differently, since escaping can be undone. -/
theorem escape_injective : Function.Injective escape :=
  Function.LeftInverse.injective unescape_escape

/-- Escaping shortens no text. -/
theorem length_le_escape (t : Text) : t.length ≤ (escape t).length := by
  induction t with
  | nil => exact Nat.le_refl _
  | cons c t ih =>
      have hChar : 1 ≤ (escapeChar c).length := by
        have hEntities : ∀ entity ∈ bodyEntities, 1 ≤ entity.1.length := by decide
        rcases escapeChar_cases c with hEntity | ⟨hSelf, _⟩
        · exact hEntities _ hEntity
        · simp [hSelf]
      rw [escape_cons, List.length_append, List.length_cons]
      omega

/-- Escaping leaves a text as it is only if there is nothing to escape in it. An entity makes the
text longer, and what follows it cannot make up for that. -/
theorem escape_eq_self_iff (t : Text) : escape t = t ↔ ∀ c ∈ t, c ∉ ['&', '<', '>', '"'] := by
  induction t with
  | nil => exact iff_of_true rfl nofun
  | cons c t ih =>
      rw [escape_cons, List.forall_mem_cons]
      rcases escapeChar_cases c with hEntity | ⟨hSelf, hPlain⟩
      · have hMark : ∀ entity ∈ bodyEntities, entity.2 ∈ ['&', '<', '>', '"'] ∧
            1 < entity.1.length := by decide
        obtain ⟨hMem, hLong⟩ := hMark _ hEntity
        constructor
        · intro hSame
          have hLength := congrArg List.length hSame
          have hRest := length_le_escape t
          rw [List.length_append, List.length_cons] at hLength
          dsimp only at hLong
          omega
        · rintro ⟨hFree, _⟩
          exact absurd hMem hFree
      · rw [hSelf, List.singleton_append, List.cons_inj_right, ih]
        exact (and_iff_right hPlain).symm

/-- Escaping is a single pass that writes the four marks as entities and keeps all else. So it takes
texts apart as they were put together, is undone by reading the entities, leaves no markup, and
changes nothing but those marks; the signs around an error are none of them. -/
theorem escape_one_pass :
    (∀ t, escape t = t.flatMap escapeChar) ∧
    (∀ t u, escape (t ++ u) = escape t ++ escape u) ∧
    (∀ t, unescape (escape t) = t) ∧ Function.Injective escape ∧
    (∀ t, Inert (escape t)) ∧
    (∀ t, escape t = t ↔ ∀ c ∈ t, c ∉ ['&', '<', '>', '"']) ∧
    ∀ message, escape (Prepared.wrapError message) = Prepared.wrapError (escape message) := by
  refine ⟨escape_eq_flatMap, escape_append, unescape_escape, escape_injective, inert_escape,
    escape_eq_self_iff, ?_⟩
  intro message
  rw [Prepared.wrapError, escape_append, escape_append]
  rfl

/-- What looks like an entity already is escaped like any other text. -/
example : escape "a &lt; b \"<&amp;".toList =
    "a &amp;lt; b &quot;&lt;&amp;amp;".toList := by decide

end CommandMarkup.Text
