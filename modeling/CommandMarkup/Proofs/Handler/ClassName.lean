import CommandMarkup.Handler.ClassName
import CommandMarkup.Proofs.Call.Diagnosis
import CommandMarkup.Proofs.Call.RoundTrip

/-! The class names that commands ask for. Camel case keeps all of a name but its underscores, and
where no word of a name starts with a digit, the underscores can be put back.

Main statement: `classNameOf_camelCased`. -/
namespace CommandMarkup

namespace Text

/-- The text without its underscores. -/
def bare (t : Text) : Text := t.filter (· ≠ '_')

theorem bare_cons (c : Char) (t : Text) : bare (c :: t) = bare [c] ++ bare t :=
  List.filter_append [c] t

theorem bare_underscore (t : Text) : bare ('_' :: t) = bare t := bare_cons '_' t

/-- Joining two lists of pieces puts one more separator between them. -/
theorem join_append (sep : Char) {pieces more : List Text} (h : pieces ≠ []) (hMore : more ≠ []) :
    join sep (pieces ++ more) = join sep pieces ++ sep :: join sep more := by
  induction pieces with
  | nil => exact absurd rfl h
  | cons piece pieces ih =>
      cases pieces with
      | nil => exact join_cons sep piece hMore
      | cons next pieces =>
          have hRest := ih (List.cons_ne_nil _ _)
          rw [List.cons_append, join_cons sep piece (by simp), hRest,
            join_cons sep piece (List.cons_ne_nil _ _), List.append_assoc, List.cons_append]

/-- Splitting a text makes no new characters. -/
theorem mem_of_mem_splitOn {sep c : Char} {t piece : Text} (h : piece ∈ splitOn sep t)
    (hc : c ∈ piece) : c ∈ t := by
  rw [← join_splitOn sep t]
  cases hPieces : splitOn sep t with
  | nil => exact absurd hPieces (splitOn_ne_nil sep t)
  | cons first pieces =>
      rw [hPieces] at h
      rw [Call.Pattern.join_cons_eq_flatten]
      rcases List.mem_cons.mp h with rfl | hMore
      · exact List.mem_append_left _ hc
      · refine List.mem_append_right _ (List.mem_flatten.mpr ⟨sep :: piece, ?_, ?_⟩)
        · exact List.mem_map_of_mem hMore
        · exact List.mem_cons_of_mem _ hc

/-- A text with an empty piece starts or ends with the separator, or has two of them in a row. -/
theorem nil_mem_splitOn {sep : Char} {t : Text} (h : [] ∈ splitOn sep t) :
    t = [] ∨ [sep] <+: t ∨ [sep] <:+ t ∨ [sep, sep] <:+: t := by
  obtain ⟨before, after, hPieces⟩ := List.append_of_mem h
  have hText := join_splitOn sep t
  rw [hPieces] at hText
  subst hText
  by_cases hBefore : before = []
  · subst hBefore
    cases after with
    | nil => exact .inl rfl
    | cons next after => exact .inr (.inl ⟨join sep (next :: after), rfl⟩)
  · rw [join_append sep hBefore (List.cons_ne_nil _ _)]
    cases after with
    | nil => exact .inr (.inr (.inl (List.suffix_append _ _)))
    | cons next after =>
        refine .inr (.inr (.inr ⟨join sep before, join sep (next :: after), ?_⟩))
        rw [List.append_assoc]
        rfl

end Text

namespace Handler

open Computability Call.Pattern

/-- What a scan for `(^|_)(.)` can find at a place of the text, with the character that it captures
and what stands behind it. The start of the text is preferred to an underscore. -/
inductive Match : (start : Bool) → Text → Char → Text → Prop where
  | start {c : Char} {rest : Text} (h : c ≠ '\n') : Match true (c :: rest) c rest
  | mark {c : Char} {rest : Text} (h : c ≠ '\n') : Match false ('_' :: c :: rest) c rest

/-- The scan through a text from left to right, with the upper case of what is captured written for
each match. -/
inductive Scans : (start : Bool) → Text → Text → Prop where
  | done {start : Bool} : Scans start [] []
  | hit {start : Bool} {t rest written : Text} {c : Char} (h : Match start t c rest)
      (hRest : Scans false rest written) : Scans start t (Text.upperChar c ++ written)
  | miss {start : Bool} {t written : Text} {c : Char} (h : ∀ d rest, ¬ Match start (c :: t) d rest)
      (hRest : Scans false t written) : Scans start (c :: t) (c :: written)

/-- The capital letters `A` to `Z`. -/
def IsCapital (c : Char) : Prop := 'A' ≤ c ∧ c ≤ 'Z'

/-- A capital letter, any number of name characters, and `Command`. -/
def classNames : Language Char := oneOf IsCapital * (oneOf IsNameChar)∗ * {"Command".toList}

/-- The word with its first character in upper case. -/
def capitalized : Text → Text
  | [] => []
  | c :: rest => Text.upperChar c ++ rest

/-- Every word of the name starts with a letter. -/
def Worded (n : Text) : Prop :=
  ∀ word ∈ Text.splitOn '_' n, ∃ c rest, word = c :: rest ∧ IsSmallLetter c

/-- What the class name of a command is, and what it tells of the command. -/
structure CamelCased (n : Text) : Prop where
  scans : Scans true n (camel n)
  shape : classNameOf n ∈ classNames
  keeps : ∃ front, Text.dropEnd? "Command".toList (classNameOf n) = some front ∧
    Text.bare (Text.lower front) = Text.bare n
  words : ¬ ['_', '_'] <:+: n → ¬ ['_'] <:+ n →
    classNameOf n = (Text.splitOn '_' n).flatMap capitalized ++ "Command".toList
  injective : Worded n → ∀ m ∈ smallName, Worded m → classNameOf m = classNameOf n → m = n

/-- Past its start, a name is written as the scan for underscores writes it. -/
theorem scans_camelRest (t : Text) : Scans false t (camelRest t) := by
  fun_induction camelRest t with
  | case1 => exact .done
  | case2 c => exact .miss (fun d rest h => nomatch h) .done
  | case3 c d rest h ih =>
      obtain ⟨rfl, hBreak⟩ := h
      exact .hit (.mark hBreak) ih
  | case4 c d rest h ih =>
      refine .miss ?_ ih
      rintro e more (_ | hBreak)
      exact h ⟨rfl, hBreak⟩

/-- A name in camel case is what the scan writes from the start of it. -/
theorem scans_camel (t : Text) : Scans true t (camel t) := by
  cases t with
  | nil => exact .done
  | cons c rest =>
      rw [camel]
      split
      case isTrue hBreak =>
        refine .miss ?_ (scans_camelRest rest)
        rintro d more (h | _)
        exact h hBreak
      case isFalse hBreak => exact .hit (.start hBreak) (scans_camelRest rest)

/-- Upper case works letter by letter on names without capital letters, and can be taken back. -/
theorem upperChar_small {c : Char} (h : IsSmallNameChar c) :
    Text.upperChar c = [c.toUpper] ∧ IsNameChar c.toUpper ∧ c.toUpper.toLower = c := by
  have hAscii := Call.isAscii_of_isNameChar (isNameChar_of_isSmallNameChar h).1
  refine ⟨if_pos hAscii, ?_⟩
  revert h
  exact Text.forall_ascii
    (p := fun c => IsSmallNameChar c → IsNameChar c.toUpper ∧ c.toUpper.toLower = c)
    (by unfold IsSmallNameChar IsNameChar IsLetter IsSmallLetter; decide) hAscii

theorem isCapital_toUpper {c : Char} (h : IsSmallLetter c) : IsCapital c.toUpper := by
  have hAscii := Call.isAscii_of_isNameChar (isNameChar_of_isSmallNameChar (.inl h)).1
  revert h
  exact Text.forall_ascii (p := fun c => IsSmallLetter c → IsCapital c.toUpper)
    (by unfold IsSmallLetter IsCapital; decide) hAscii

theorem ne_break {c : Char} (h : IsSmallNameChar c) : c ≠ '\n' := by
  rintro rfl
  exact absurd h (by unfold IsSmallNameChar IsSmallLetter; decide)

theorem isNameChar_of_small {c : Char} (h : IsSmallNameChar c) : IsNameChar c :=
  isNameChar_eq_true_iff.mp (isNameChar_of_isSmallNameChar h).1

/-- All of camel case is name characters, and in lower case it has what the name has besides
underscores. -/
theorem camelRest_small {t : Text} (h : ∀ c ∈ t, IsSmallNameChar c) :
    (∀ c ∈ camelRest t, IsNameChar c) ∧
      Text.bare ((camelRest t).map Char.toLower) = Text.bare t := by
  fun_induction camelRest t with
  | case1 => exact ⟨nofun, rfl⟩
  | case2 c =>
      have hc := h c List.mem_cons_self
      refine ⟨List.forall_mem_singleton.mpr (isNameChar_of_small hc), ?_⟩
      rw [List.map_singleton, (isNameChar_of_isSmallNameChar hc).2]
  | case3 c d rest hMark ih =>
      obtain ⟨rfl, _⟩ := hMark
      obtain ⟨hd, hRest⟩ := List.forall_mem_cons.mp (List.forall_mem_cons.mp h).2
      obtain ⟨hUpper, hChar, hLower⟩ := upperChar_small hd
      obtain ⟨hChars, hBare⟩ := ih hRest
      rw [hUpper, List.singleton_append]
      refine ⟨List.forall_mem_cons.mpr ⟨hChar, hChars⟩, ?_⟩
      rw [List.map_cons, hLower, Text.bare_underscore, Text.bare_cons, hBare, ← Text.bare_cons]
  | case4 c d rest hKept ih =>
      obtain ⟨hc, hRest⟩ := List.forall_mem_cons.mp h
      obtain ⟨hChars, hBare⟩ := ih hRest
      refine ⟨List.forall_mem_cons.mpr ⟨isNameChar_of_small hc, hChars⟩, ?_⟩
      rw [List.map_cons, (isNameChar_of_isSmallNameChar hc).2, Text.bare_cons, hBare,
        ← Text.bare_cons]

theorem camelRest_of_not_mem {t : Text} (h : '_' ∉ t) : camelRest t = t := by
  fun_induction camelRest t with
  | case1 => rfl
  | case2 => rfl
  | case3 c d rest hMark _ => exact absurd (hMark.1 ▸ List.mem_cons_self) h
  | case4 c d rest _ ih => rw [ih fun hMem => h (List.mem_cons_of_mem _ hMem)]

/-- An underscore goes, and the character after it is written in upper case. -/
theorem camelRest_append {word : Text} (h : '_' ∉ word) {d : Char} (hBreak : d ≠ '\n')
    (rest : Text) :
    camelRest (word ++ '_' :: d :: rest) = word ++ (Text.upperChar d ++ camelRest rest) := by
  induction word with
  | nil => rw [List.nil_append, List.nil_append, camelRest, if_pos ⟨rfl, hBreak⟩]
  | cons c word ih =>
      have hc : c ≠ '_' := (List.ne_of_not_mem_cons h).symm
      have hKept : ∀ e u, camelRest (c :: e :: u) = c :: camelRest (e :: u) := fun e u => by
        rw [camelRest, if_neg fun hMark => hc hMark.1]
      have hRest := ih (List.not_mem_of_not_mem_cons h)
      cases word with
      | nil => exact (hKept _ _).trans (congrArg _ hRest)
      | cons e word => exact (hKept _ _).trans (congrArg _ hRest)

/-- Camel case writes the words one after the other. -/
theorem camelRest_join {word : Text} {words : List Text} (hWord : '_' ∉ word)
    (hWords : ∀ w ∈ words, w ≠ [] ∧ '_' ∉ w) (hBreak : '\n' ∉ Text.join '_' (word :: words)) :
    camelRest (Text.join '_' (word :: words)) = word ++ words.flatMap capitalized := by
  induction words generalizing word with
  | nil => exact (camelRest_of_not_mem hWord).trans (List.append_nil word).symm
  | cons next words ih =>
      obtain ⟨⟨hNonempty, hMark⟩, hRest⟩ := List.forall_mem_cons.mp hWords
      cases next with
      | nil => exact absurd rfl hNonempty
      | cons d next =>
          -- Behind its first character the next word takes the place of the word.
          have hFirst : Text.join '_' ((d :: next) :: words) =
              d :: Text.join '_' (next :: words) := by
            cases words <;> rfl
          rw [Text.join_cons '_' word (List.cons_ne_nil _ _), hFirst] at hBreak ⊢
          have hBehind : '\n' ∉ d :: Text.join '_' (next :: words) := fun hMem =>
            hBreak (List.mem_append_right _ (List.mem_cons_of_mem _ hMem))
          rw [camelRest_append hWord (List.ne_of_not_mem_cons hBehind).symm,
            ih (List.not_mem_of_not_mem_cons hMark) hRest (List.not_mem_of_not_mem_cons hBehind),
            List.flatMap_cons, capitalized, List.append_assoc]

/-- A name starts with a small letter, and goes on with characters of names. -/
theorem smallName_cons {n : Text} (h : n ∈ smallName) : ∃ c rest, n = c :: rest ∧
    IsSmallLetter c ∧ ∀ d ∈ rest, IsSmallNameChar d := by
  obtain ⟨_, ⟨c, hc, rfl⟩, rest, hRest, rfl⟩ := Language.mem_mul.mp h
  exact ⟨c, rest, rfl, hc, mem_kstar_oneOf.mp hRest⟩

/-- The first letter of a name is written as a capital. -/
theorem camel_cons {c : Char} (h : IsSmallLetter c) (rest : Text) :
    camel (c :: rest) = c.toUpper :: camelRest rest := by
  rw [camel, if_neg (ne_break (.inl h)), (upperChar_small (.inl h)).1]
  rfl

theorem classNameOf_mem {n : Text} (h : n ∈ smallName) : classNameOf n ∈ classNames := by
  obtain ⟨c, rest, rfl, hc, hRest⟩ := smallName_cons h
  rw [classNameOf, camel_cons hc]
  refine Language.mem_mul.mpr ⟨c.toUpper :: camelRest rest, ?_, _, rfl, rfl⟩
  refine Language.mem_mul.mpr ⟨[c.toUpper], ⟨_, isCapital_toUpper hc, rfl⟩, camelRest rest, ?_, rfl⟩
  exact mem_kstar_oneOf.mpr (camelRest_small hRest).1

/-- But for underscores and the case of letters, camel case is the name itself. -/
theorem camel_keeps {n : Text} (h : n ∈ smallName) :
    Text.bare (Text.lower (camel n)) = Text.bare n := by
  obtain ⟨c, rest, rfl, hc, hRest⟩ := smallName_cons h
  obtain ⟨_, hUpper, hLower⟩ := upperChar_small (.inl hc)
  obtain ⟨hChars, hBare⟩ := camelRest_small hRest
  have hAscii : ∀ d ∈ camel (c :: rest), Text.isAscii d = true := by
    rw [camel_cons hc]
    intro d hd
    refine Call.isAscii_of_isNameChar (isNameChar_eq_true_iff.mpr ?_)
    exact List.forall_mem_cons.mpr ⟨hUpper, hChars⟩ d hd
  rw [Text.lower_eq_map hAscii, camel_cons hc, List.map_cons, hLower, Text.bare_cons, hBare,
    ← Text.bare_cons]

/-- Words that are all there are written one after the other, each with a capital. -/
theorem camel_words {n : Text} (h : n ∈ smallName) (hWords : [] ∉ Text.splitOn '_' n) :
    camel n = (Text.splitOn '_' n).flatMap capitalized := by
  obtain ⟨c, rest, rfl, hc, hRest⟩ := smallName_cons h
  have hMark : c ≠ '_' := by
    rintro rfl
    exact absurd hc (by unfold IsSmallLetter; decide)
  cases hPieces : Text.splitOn '_' rest with
  | nil => exact absurd hPieces (Text.splitOn_ne_nil '_' rest)
  | cons word words =>
      have hSplit : Text.splitOn '_' (c :: rest) = (c :: word) :: words := by
        rw [Text.splitOn, if_neg hMark, hPieces]
      have hJoin : Text.join '_' (word :: words) = rest := by
        rw [← hPieces, Text.join_splitOn]
      have hFree : ∀ w ∈ word :: words, '_' ∉ w := fun w hw =>
        Text.not_mem_of_mem_splitOn (hPieces ▸ hw)
      have hBreak : '\n' ∉ Text.join '_' (word :: words) := by
        rw [hJoin]
        intro hMem
        exact ne_break (hRest _ hMem) rfl
      rw [hSplit] at hWords
      have hMore : ∀ w ∈ words, w ≠ [] ∧ '_' ∉ w := by
        intro w hw
        refine ⟨?_, hFree w (List.mem_cons_of_mem _ hw)⟩
        rintro rfl
        exact hWords (List.mem_cons_of_mem _ hw)
      rw [hSplit, camel, if_neg (ne_break (.inl hc)), ← hJoin,
        camelRest_join (hFree word List.mem_cons_self) hMore hBreak, List.flatMap_cons, capitalized,
        List.append_assoc]

/-- A name has no empty words if it has no two underscores in a row and none at its end. It has none
at its start anyway. -/
theorem nil_not_mem_splitOn {n : Text} (h : n ∈ smallName) (hTwo : ¬ ['_', '_'] <:+: n)
    (hEnd : ¬ ['_'] <:+ n) : [] ∉ Text.splitOn '_' n := by
  intro hNil
  rcases Text.nil_mem_splitOn hNil with rfl | ⟨rest, rfl⟩ | hSuffix | hInfix
  · obtain ⟨_, _, hCons, _⟩ := smallName_cons h
    cases hCons
  · obtain ⟨c, _, hCons, hc, _⟩ := smallName_cons h
    cases hCons
    exact absurd hc (by unfold IsSmallLetter; decide)
  · exact hEnd hSuffix
  · exact hTwo hInfix

/-- An underscore and the small letter for each capital letter. -/
def snake (t : Text) : Text :=
  t.flatMap fun c => if c.isUpper then ['_', c.toLower] else [c]

theorem snake_append (t u : Text) : snake (t ++ u) = snake t ++ snake u := List.flatMap_append

theorem snake_small {t : Text} (h : ∀ c ∈ t, IsSmallNameChar c) : snake t = t := by
  induction t with
  | nil => rfl
  | cons c t ih =>
      obtain ⟨hc, ht⟩ := List.forall_mem_cons.mp h
      have hAscii := Call.isAscii_of_isNameChar (isNameChar_of_isSmallNameChar hc).1
      have hSmall : c.isUpper = false := by
        revert hc
        exact Text.forall_ascii (p := fun c => IsSmallNameChar c → c.isUpper = false)
          (by unfold IsSmallNameChar IsSmallLetter; decide) hAscii
      rw [snake, List.flatMap_cons, hSmall]
      exact congrArg (c :: ·) (ih ht)

/-- A word that was capitalized comes back with an underscore before it. -/
theorem snake_capitalized {c : Char} {rest : Text} (hc : IsSmallLetter c)
    (hRest : ∀ d ∈ rest, IsSmallNameChar d) :
    snake (capitalized (c :: rest)) = '_' :: c :: rest := by
  obtain ⟨hUpper, _, hLower⟩ := upperChar_small (.inl hc)
  have hCapital : c.toUpper.isUpper = true := decide_eq_true (isCapital_toUpper hc)
  have hFirst : snake [c.toUpper] = ['_', c] := by
    rw [snake, List.flatMap_singleton, hCapital, hLower]
    rfl
  rw [capitalized, hUpper, snake_append, hFirst, snake_small hRest]
  rfl

/-- The underscores can be put back in front of words that start with letters. -/
theorem snake_words {words : List Text}
    (h : ∀ word ∈ words, ∃ c rest, word = c :: rest ∧ IsSmallLetter c ∧
      ∀ d ∈ rest, IsSmallNameChar d) :
    snake (words.flatMap capitalized) = (words.map fun word => '_' :: word).flatten := by
  induction words with
  | nil => rfl
  | cons word words ih =>
      obtain ⟨⟨c, rest, rfl, hc, hRest⟩, hWords⟩ := List.forall_mem_cons.mp h
      rw [List.flatMap_cons, snake_append, snake_capitalized hc hRest, ih hWords]
      rfl

theorem Worded.nil_not_mem {n : Text} (h : Worded n) : [] ∉ Text.splitOn '_' n := by
  intro hNil
  obtain ⟨_, _, hCons, _⟩ := h [] hNil
  cases hCons

/-- Where every word starts with a letter, camel case is undone: the capitals tell where the
underscores were. -/
theorem snake_camel {n : Text} (h : n ∈ smallName) (hWorded : Worded n) :
    snake (camel n) = '_' :: n := by
  obtain ⟨first, more, hCons, hFirst, hMore⟩ := smallName_cons h
  have hSmall : ∀ c ∈ n, IsSmallNameChar c := by
    rw [hCons]
    exact List.forall_mem_cons.mpr ⟨.inl hFirst, hMore⟩
  rw [camel_words h hWorded.nil_not_mem, snake_words]
  · cases hPieces : Text.splitOn '_' n with
    | nil => exact absurd hPieces (Text.splitOn_ne_nil '_' n)
    | cons word words =>
        have hJoin := Text.join_splitOn '_' n
        rw [hPieces, join_cons_eq_flatten] at hJoin
        rw [List.map_cons, List.flatten_cons, List.cons_append, hJoin]
  · intro word hWord
    obtain ⟨c, rest, rfl, hc⟩ := hWorded word hWord
    refine ⟨c, rest, rfl, hc, fun d hd => hSmall d ?_⟩
    exact Text.mem_of_mem_splitOn hWord (List.mem_cons_of_mem _ hd)

/-- A class name says what its command is called, up to underscores in general, and exactly where
every word of the name starts with a letter. -/
theorem classNameOf_camelCased {n : Text} (h : n ∈ smallName) : CamelCased n where
  scans := scans_camel n
  shape := classNameOf_mem h
  keeps := ⟨camel n, Text.dropEnd?_eq_some_iff.mpr rfl, camel_keeps h⟩
  words := by
    intro hTwo hEnd
    rw [classNameOf, camel_words h (nil_not_mem_splitOn h hTwo hEnd)]
  injective := by
    intro hWorded m hm hOther hSame
    have hCamel : camel m = camel n := List.append_cancel_right hSame
    have hSnake := snake_camel hm hOther
    rw [hCamel, snake_camel h hWorded] at hSnake
    exact (List.cons.inj hSnake).2.symm

/-- A name of two words, and one with an empty word between the others and one behind them. -/
theorem classNameOf_camelCased_underscores :
    "page_info".toList ∈ smallName ∧ CamelCased "page_info".toList ∧
      classNameOf "page_info".toList = "PageInfoCommand".toList ∧ Worded "page_info".toList ∧
      "x__y_".toList ∈ smallName ∧ CamelCased "x__y_".toList ∧
      classNameOf "x__y_".toList = "X_y_Command".toList := by
  have hName : "page_info".toList ∈ smallName :=
    map_toLower_mem_smallName (n := "page_info".toList) rfl
  have hOther : "x__y_".toList ∈ smallName := map_toLower_mem_smallName (n := "x__y_".toList) rfl
  have hWorded : Worded "page_info".toList := by
    intro word hWord
    rcases List.mem_pair.mp hWord with rfl | rfl
    · exact ⟨'p', _, rfl, by unfold IsSmallLetter; decide⟩
    · exact ⟨'i', _, rfl, by unfold IsSmallLetter; decide⟩
  exact ⟨hName, classNameOf_camelCased hName, rfl, hWorded, hOther, classNameOf_camelCased hOther,
    rfl⟩

/-- A word that starts with a digit can be run together with the one before it. -/
example : classNameOf "x_1".toList = classNameOf "x1".toList := rfl

end Handler

end CommandMarkup
