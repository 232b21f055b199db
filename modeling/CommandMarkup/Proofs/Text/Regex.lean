import CommandMarkup.Proofs.Call.Pattern

/-! Patterns as a backtracking matcher reads them. The language of a pattern says which texts it
matches; the rests say in which order the matcher finds its matches at the start of a text. A run
of characters is first tried at its longest and given back one by one, a gap is first tried empty
and widened one by one. `mem_rests_iff` says that the two agree on what is matched. -/
namespace CommandMarkup.Text

open Computability Call.Pattern

/-- A pattern. A class of characters is a list of ranges, both ends included. -/
inductive Regex where
  | literal (t : Text)
  | one (ranges : List (Char × Char))
  | run (ranges : List (Char × Char))
  | gap
  | optional (q : Regex)
  | sequence (q r : Regex)

namespace Regex

/-- The character lies in one of the ranges. -/
def InClass (ranges : List (Char × Char)) (c : Char) : Prop :=
  ∃ range ∈ ranges, range.1 ≤ c ∧ c ≤ range.2

instance (ranges : List (Char × Char)) : DecidablePred (InClass ranges) :=
  fun c => inferInstanceAs (Decidable (∃ range ∈ ranges, range.1 ≤ c ∧ c ≤ range.2))

/-- The texts that the pattern matches as a whole. -/
def language : Regex → Language Char
  | literal t => {t}
  | one ranges => oneOf (InClass ranges)
  | run ranges => (oneOf (InClass ranges))∗
  | gap => ⊤
  | optional q => q.language + 1
  | sequence q r => q.language * r.language

/-- What a run of characters may leave of a text, the longest run first. -/
def runRests (ranges : List (Char × Char)) : Text → List Text
  | [] => [[]]
  | c :: t => if InClass ranges c then runRests ranges t ++ [c :: t] else [c :: t]

/-- What a match at the start of a text may leave of it, in the order in which a backtracking
matcher comes to it. -/
def rests : Regex → Text → List Text
  | literal u, t => (dropStart? u t).toList
  | one _, [] => []
  | one ranges, c :: t => if InClass ranges c then [t] else []
  | run ranges, t => runRests ranges t
  | gap, t => t.tails
  | optional q, t => q.rests t ++ [t]
  | sequence q r, t => (q.rests t).flatMap r.rests

/-- A run over a class can stop after any row of characters of the class. -/
theorem mem_runRests_iff {ranges : List (Char × Char)} {t rest : Text} :
    rest ∈ runRests ranges t ↔ ∃ front, (∀ c ∈ front, InClass ranges c) ∧ t = front ++ rest := by
  induction t with
  | nil =>
      rw [runRests, List.mem_singleton]
      constructor
      · rintro rfl
        exact ⟨[], by simp, rfl⟩
      · rintro ⟨front, _, hText⟩
        exact (List.append_eq_nil_iff.mp hText.symm).2
  | cons c t ih =>
      by_cases hClass : InClass ranges c
      · rw [runRests, if_pos hClass, List.mem_append, List.mem_singleton, ih]
        constructor
        · rintro (⟨front, hFront, rfl⟩ | rfl)
          · exact ⟨c :: front, by simpa [hClass] using hFront, rfl⟩
          · exact ⟨[], by simp, rfl⟩
        · rintro ⟨front, hFront, hText⟩
          cases front with
          | nil => exact .inr hText.symm
          | cons d front =>
              obtain ⟨rfl, rfl⟩ := List.cons.inj hText
              exact .inl ⟨front, fun d hd => hFront d (List.mem_cons_of_mem _ hd), rfl⟩
      · rw [runRests, if_neg hClass, List.mem_singleton]
        constructor
        · rintro rfl
          exact ⟨[], by simp, rfl⟩
        · rintro ⟨front, hFront, hText⟩
          cases front with
          | nil => exact hText.symm
          | cons d front =>
              obtain ⟨rfl, _⟩ := List.cons.inj hText
              exact absurd (hFront c List.mem_cons_self) hClass

/-- A text is left over by a match if and only if what stands before it is in the language. -/
theorem mem_rests_iff {q : Regex} {t rest : Text} :
    rest ∈ q.rests t ↔ ∃ front ∈ q.language, t = front ++ rest := by
  induction q generalizing t rest with
  | literal u =>
      rw [rests, Option.mem_toList, dropStart?_eq_some_iff]
      exact ⟨fun h => ⟨u, rfl, h⟩, fun ⟨_, hFront, h⟩ => mem_singleton.mp hFront ▸ h⟩
  | one ranges =>
      cases t with
      | nil =>
          constructor
          · intro h
            cases h
          · rintro ⟨_, ⟨c, _, rfl⟩, hText⟩
            cases hText
      | cons c t =>
          by_cases hClass : InClass ranges c
          · rw [rests, if_pos hClass, List.mem_singleton]
            constructor
            · rintro rfl
              exact ⟨[c], ⟨c, hClass, rfl⟩, rfl⟩
            · rintro ⟨_, ⟨d, _, rfl⟩, hText⟩
              exact (List.cons.inj hText).2.symm
          · rw [rests, if_neg hClass]
            constructor
            · intro h
              cases h
            · rintro ⟨_, ⟨d, hd, rfl⟩, hText⟩
              exact absurd ((List.cons.inj hText).1 ▸ hd) hClass
  | run ranges =>
      rw [rests, mem_runRests_iff]
      simp only [language, mem_kstar_oneOf]
  | gap =>
      rw [rests, List.mem_tails]
      constructor
      · rintro ⟨front, rfl⟩
        exact ⟨front, trivial, rfl⟩
      · rintro ⟨front, _, rfl⟩
        exact List.suffix_append front rest
  | optional q ih =>
      rw [rests, List.mem_append, List.mem_singleton, ih]
      simp only [language, Language.mem_add, Language.mem_one]
      constructor
      · rintro (⟨front, hFront, rfl⟩ | rfl)
        · exact ⟨front, .inl hFront, rfl⟩
        · exact ⟨[], .inr rfl, rfl⟩
      · rintro ⟨front, hFront | rfl, rfl⟩
        · exact .inl ⟨front, hFront, rfl⟩
        · exact .inr rfl
  | sequence q r ihq ihr =>
      rw [rests, List.mem_flatMap]
      simp only [language, Language.mem_mul]
      constructor
      · rintro ⟨middle, hMiddle, hRest⟩
        obtain ⟨front, hFront, rfl⟩ := ihq.mp hMiddle
        obtain ⟨back, hBack, rfl⟩ := ihr.mp hRest
        exact ⟨front ++ back, ⟨front, hFront, back, hBack, rfl⟩, by rw [List.append_assoc]⟩
      · rintro ⟨_, ⟨front, hFront, back, hBack, rfl⟩, rfl⟩
        exact ⟨back ++ rest, ihq.mpr ⟨front, hFront, by rw [List.append_assoc]⟩,
          ihr.mpr ⟨back, hBack, rfl⟩⟩

/-- A run is never given back to what cannot start with a character of the run. -/
theorem flatMap_runRests {ranges : List (Char × Char)} {next : Text → List Text}
    (hNext : ∀ c u, InClass ranges c → next (c :: u) = []) (t : Text) :
    (runRests ranges t).flatMap next = next (t.dropWhile fun c => InClass ranges c) := by
  induction t with
  | nil => simp [runRests]
  | cons c t ih =>
      by_cases hClass : InClass ranges c
      · rw [runRests, if_pos hClass, List.flatMap_append, ih, List.flatMap_singleton,
          hNext c t hClass, List.append_nil, List.dropWhile_cons_of_pos (by simpa using hClass)]
      · rw [runRests, if_neg hClass, List.flatMap_singleton,
          List.dropWhile_cons_of_neg (by simpa using hClass)]

/-- The first way to widen a gap up to a mark is up to the first mark. -/
theorem head?_rests_gap (mark t : Text) :
    ((sequence gap (literal mark)).rests t).head? = (breakOn? mark t).map Prod.snd := by
  induction t with
  | nil =>
      cases hStart : dropStart? mark [] <;> simp [rests, breakOn?, hStart]
  | cons c t ih =>
      rw [rests, rests] at ih ⊢
      rw [List.tails_cons, List.flatMap_cons, List.head?_append, ih, rests]
      cases hStart : dropStart? mark (c :: t) <;> simp [breakOn?, hStart, Function.comp_def]

end Regex

end CommandMarkup.Text
