import RamlScaffold.Language.FieldName
import RamlScaffold.Proofs.Naming.Ascii

/-
  Which members of Go structures are public.

  A member is made of words that may hold underscores, so only
  the first character of the first word decides: a letter
  becomes a capital and a digit gets one in front, but an
  underscore stays where it is.

  Main declarations:
    * `Language.IsPublic`
    * `Language.isPublic_fieldName_iff`
    * `Language.underscore_is_not_public`
-/

------------------------------------------------------------
-- Public Members
------------------------------------------------------------

namespace RamlScaffold.Language

open Alphabet Naming

/- A character that a word of a member may hold. -/
def isMemberChar (c : Char) : Bool :=
  isAlphanumeric c || c == '_'

/- A letter or digit of ASCII, or an underscore. -/
def isGoChar (c : Char) : Bool :=
  c.isAlphanum || c == '_'

/-
  A public identifier of Go within ASCII: a capital letter
  with letters, digits and underscores behind it.
-/
def IsPublic (text : String) : Prop :=
  ∃ c rest,
    text.toList = c :: rest ∧
      c.isUpper = true ∧
      ∀ d ∈ rest, isGoChar d = true

theorem IsPublic.isUpper
    {text : String}
    (hPublic : IsPublic text)
    {first : Char}
    {rest : List Char}
    (hText : text.toList = first :: rest) :
    first.isUpper = true := by
  rcases hPublic with ⟨c, others, hList, hCapital, -⟩
  rw [hText] at hList
  rw [(List.cons.inj hList).1]
  exact hCapital

theorem isGoChar_of_isAscii
    {c : Char}
    (hAscii : isAscii c = true) :
    isGoChar c = isMemberChar c := by
  rw [isGoChar, isMemberChar, isAlphanumeric_of_isAscii hAscii]

theorem isGoChar_of_cases
    {c : Char}
    (hCases : c.isUpper = true ∨ c.isDigit = true) :
    isGoChar c = true := by
  rw [isGoChar, isAlphanum_of_cases hCases, Bool.true_or]

/- An underscore has no other case. -/
theorem titleCase_underscore (rest : List Char) :
    titleCase ('_' :: rest) = '_' :: rest := by
  rw [titleCase, upper_of_isAscii (by decide)]
  rfl

end RamlScaffold.Language

------------------------------------------------------------
-- Words Of Members
------------------------------------------------------------

namespace RamlScaffold.Language

open Alphabet Naming

/-
  A word in title form starts with a capital, a digit or an
  underscore, as its first character is a letter, a digit or
  an underscore.
-/
inductive Starts : Char → Char → Prop where
  | plain
      {c first : Char}
      (hOther : c ≠ '_')
      (hFirst : first.isUpper = true ∨ first.isDigit = true) :
      Starts c first
  | underscore : Starts '_' '_'

theorem starts_titleCase
    {c : Char}
    (hWord : isGoChar c = true)
    (rest : List Char) :
    ∃ first,
      titleCase (c :: rest) = first :: rest ∧
        Starts c first := by
  by_cases hUnderscore : c = '_'
  · subst hUnderscore
    exact ⟨'_', titleCase_underscore rest, .underscore⟩
  · have hPlain : c.isAlphanum = true := by
      simpa [isGoChar, hUnderscore] using hWord
    rcases titleCase_cons hPlain rest with ⟨first, hTitle, hFirst⟩
    exact ⟨first, hTitle, .plain hUnderscore hFirst⟩

theorem Starts.isGoChar
    {c first : Char}
    (hStarts : Starts c first) :
    isGoChar first = true := by
  cases hStarts with
  | plain _ hFirst => exact isGoChar_of_cases hFirst
  | underscore => decide

/- The words of a name in title form, joined. -/
def titles (text : List Char) : List Char :=
  (Text.words isMemberChar text).flatMap titleCase

variable
  {text : List Char}
  (hText : ∀ c ∈ text, isAscii c = true)
include hText

/- The words of an ASCII text hold what Go identifiers hold. -/
theorem isGoChar_of_mem_words
    {word : List Char}
    (hWord : word ∈ Text.words isMemberChar text)
    {c : Char}
    (hMem : c ∈ word) :
    isGoChar c = true := by
  rw [isGoChar_of_isAscii
    (hText c (Text.mem_of_mem_words hWord hMem))]
  exact Text.isWordChar_of_mem_words hWord hMem

/- So do the words in title form. -/
theorem isGoChar_of_mem_titles
    {c : Char}
    (hMem : c ∈ titles text) :
    isGoChar c = true := by
  rcases List.mem_flatMap.mp hMem with ⟨word, hWord, hTitle⟩
  have hPlain (d : Char) (hd : d ∈ word) : isGoChar d = true :=
    isGoChar_of_mem_words hText hWord hd
  cases word with
  | nil => cases hTitle
  | cons d rest =>
      rcases starts_titleCase (hPlain d List.mem_cons_self) rest
        with ⟨first, hFirst, hStarts⟩
      rw [hFirst] at hTitle
      rcases List.mem_cons.mp hTitle with rfl | hRest
      · exact hStarts.isGoChar
      · exact hPlain c (List.mem_cons_of_mem d hRest)

/- The first word starts with the first such character. -/
theorem titleCase_first
    {word : List Char}
    {others : List (List Char)}
    (hWords :
      Text.words isMemberChar text = word :: others) :
    ∃ c first rest,
      text.find? isMemberChar = some c ∧
        titleCase word = first :: rest ∧ Starts c first := by
  have hWord : word ∈ Text.words isMemberChar text := by
    rw [hWords]
    exact List.mem_cons_self
  cases word with
  | nil => exact absurd rfl (Text.ne_nil_of_mem_words hWord)
  | cons c letters =>
      have hPlain :=
        isGoChar_of_mem_words hText hWord List.mem_cons_self
      rcases starts_titleCase hPlain letters with
        ⟨first, hTitle, hStarts⟩
      exact
        ⟨c, first, letters, Text.find?_of_words hWords, hTitle,
          hStarts⟩

/- The words in title form start as the first of them does. -/
theorem starts_titles
    {first : Char}
    {rest : List Char}
    (hTitles : titles text = first :: rest) :
    ∃ c, text.find? isMemberChar = some c ∧ Starts c first := by
  cases hWords : Text.words isMemberChar text with
  | nil =>
      rw [titles, hWords] at hTitles
      cases hTitles
  | cons word others =>
      rcases titleCase_first hText hWords with
        ⟨c, head, letters, hFirst, hTitle, hStarts⟩
      rw [titles, hWords, List.flatMap_cons, hTitle] at hTitles
      rw [← (List.cons.inj hTitles).1]
      exact ⟨c, hFirst, hStarts⟩

/- Without a word there is nothing in title form, and only then. -/
theorem find?_of_no_titles
    (hTitles : titles text = []) :
    text.find? isMemberChar = none := by
  rw [← Text.words_eq_nil_iff]
  cases hWords : Text.words isMemberChar text with
  | nil => rfl
  | cons word others =>
      rcases titleCase_first hText hWords with
        ⟨c, head, letters, -, hTitle, -⟩
      rw [titles, hWords, List.flatMap_cons, hTitle] at hTitles
      cases hTitles

end RamlScaffold.Language

------------------------------------------------------------
-- Members
------------------------------------------------------------

namespace RamlScaffold.Language

open Alphabet Naming

/- A member is the words in title form behind a guard. -/
theorem fieldName_go_eq (wireName : String) :
    go.fieldName wireName =
      match titles wireName.toList with
      | [] => "Field"
      | c :: rest =>
          if c.isDigit then String.ofList ('F' :: c :: rest)
          else String.ofList (c :: rest) :=
  rfl

theorem fieldName_of_no_titles
    {wireName : String}
    (hTitles : titles wireName.toList = []) :
    go.fieldName wireName = "Field" := by
  rw [fieldName_go_eq, hTitles]

theorem toList_fieldName_of_titles
    {wireName : String}
    {c : Char}
    {rest : List Char}
    (hTitles : titles wireName.toList = c :: rest) :
    (go.fieldName wireName).toList =
      if c.isDigit then 'F' :: c :: rest else c :: rest := by
  rw [fieldName_go_eq, hTitles]
  dsimp only
  split
  · rw [String.toList_ofList]
  · rw [String.toList_ofList]

/-
  A member starts with the underscore that its name starts
  with, signs aside, and with a capital otherwise.
-/
theorem head_fieldName
    {wireName : String}
    (hName : IsAsciiText wireName) :
    ∃ first rest,
      (go.fieldName wireName).toList = first :: rest ∧
        (∀ c ∈ first :: rest, isGoChar c = true) ∧
        ((wireName.toList.find? isMemberChar = some '_' ∧
            first = '_') ∨
          (wireName.toList.find? isMemberChar ≠ some '_' ∧
            first.isUpper = true)) := by
  cases hTitles : titles wireName.toList with
  | nil =>
      have hLetters :
          ∀ c ∈ ['F', 'i', 'e', 'l', 'd'], isGoChar c = true :=
        forall_mem_of_all (by decide)
      rw [fieldName_of_no_titles hTitles,
        find?_of_no_titles hName hTitles]
      exact
        ⟨'F', ['i', 'e', 'l', 'd'], rfl, hLetters,
          Or.inr ⟨by decide, by decide⟩⟩
  | cons first rest =>
      have hLetters : ∀ c ∈ first :: rest, isGoChar c = true := by
        rw [← hTitles]
        exact fun c hc => isGoChar_of_mem_titles hName hc
      rcases starts_titles hName hTitles with ⟨c, hFirst, hStarts⟩
      rw [toList_fieldName_of_titles hTitles, hFirst]
      cases hStarts with
      | underscore =>
          exact ⟨'_', rest, rfl, hLetters, Or.inl ⟨rfl, rfl⟩⟩
      | plain hOther hCases =>
          have hAllowed : some c ≠ some '_' :=
            fun hSame => hOther (Option.some.inj hSame)
          by_cases hDigit : first.isDigit = true
          · exact
              ⟨'F', first :: rest, if_pos hDigit,
                List.forall_mem_cons.mpr ⟨by decide, hLetters⟩,
                Or.inr ⟨hAllowed, by decide⟩⟩
          · exact
              ⟨first, rest, if_neg hDigit, hLetters,
                Or.inr ⟨hAllowed, hCases.resolve_right hDigit⟩⟩

/-
  A member made of an ASCII name holds letters, digits and
  underscores.  It is public if and only if the first of these
  in the name is no underscore.
-/
theorem isPublic_fieldName_iff
    {wireName : String}
    (hName : IsAsciiText wireName) :
    (∀ c ∈ (go.fieldName wireName).toList, isGoChar c = true) ∧
      (IsPublic (go.fieldName wireName) ↔
        wireName.toList.find? isMemberChar ≠ some '_') := by
  rcases head_fieldName hName with
    ⟨first, rest, hText, hLetters, hFirst⟩
  refine ⟨by rw [hText]; exact hLetters, ?_⟩
  rcases hFirst with
    ⟨hUnderscore, rfl⟩ | ⟨hOther, hCapital⟩
  · have hHidden : ¬ IsPublic (go.fieldName wireName) := by
      intro hPublic
      cases hPublic.isUpper hText
    exact iff_of_false hHidden (not_not_intro hUnderscore)
  · have hPublic : IsPublic (go.fieldName wireName) :=
      ⟨first, rest, hText, hCapital,
        (List.forall_mem_cons.mp hLetters).2⟩
    exact iff_of_true hPublic hOther

/- Words that start with a digit or hold an underscore. -/
theorem isPublic_numberedName :
    IsAsciiText "-2fa_code" ∧
      IsPublic (go.fieldName "-2fa_code") ∧
      go.fieldName "-2fa_code" = "F2fa_code" := by
  have hName : IsAsciiText "-2fa_code" := by decide
  have hFirst :
      "-2fa_code".toList.find? isMemberChar ≠ some '_' := by
    decide
  exact
    ⟨hName, (isPublic_fieldName_iff hName).2.mpr hFirst,
      by decide⟩

/- An underscore in front is kept, and hides the member. -/
theorem underscore_is_not_public :
    IsAsciiText "_id" ∧
      go.fieldName "_id" = "_id" ∧
      ¬ IsPublic (go.fieldName "_id") := by
  have hField : go.fieldName "_id" = "_id" := by decide
  refine ⟨by decide, hField, ?_⟩
  intro hPublic
  rw [hField] at hPublic
  cases hPublic.isUpper rfl

end RamlScaffold.Language
