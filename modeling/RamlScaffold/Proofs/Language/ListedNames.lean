import RamlScaffold.Proofs.Language.References

/-
  Commas in written types.

  Reading does not know about commas.  It strips brackets and
  parentheses at the edges of a text only, and what is left is
  told by its bars and its words, so how many commas and how
  much white space part two names does not matter.

  Main declarations:
    * `Text.isGap`, `Text.IsGap`
    * `Text.words_gap`
    * `TypeShape.plain`, `TypeShape.read_eq_plain`
    * `TypeShape.Ending`, `TypeShape.ending_of`
    * `TypeShape.read_gap`
-/

------------------------------------------------------------
-- Gaps
------------------------------------------------------------

namespace RamlScaffold.Text

/- Whether a character may stand between two names. -/
def isGap (c : Char) : Bool :=
  Alphabet.isBlank c || c == ','

/- A text of commas and white space only. -/
def IsGap (text : List Char) : Prop :=
  ∀ c ∈ text, isGap c = true

instance (text : List Char) : Decidable (IsGap text) :=
  decidable_of_iff (text.all isGap = true) List.all_eq_true

theorem IsGap.append
    {first second : List Char}
    (hFirst : IsGap first)
    (hSecond : IsGap second) :
    IsGap (first ++ second) := by
  intro c hc
  rcases List.mem_append.mp hc with hc | hc
  · exact hFirst c hc
  · exact hSecond c hc

theorem IsGap.comma_cons
    {text : List Char}
    (hText : IsGap text) :
    IsGap (',' :: text) :=
  IsGap.append (by decide : IsGap [',']) hText

theorem IsBlank.isGap
    {text : List Char}
    (hText : IsBlank text) :
    IsGap text :=
  fun c hc => by simp [Text.isGap, hText c hc]

/- The only such character that is no white space. -/
theorem eq_comma_of_isGap
    {c : Char}
    (hGap : isGap c = true)
    (hc : Alphabet.isBlank c = false) :
    c = ',' := by
  simpa [isGap, hc] using hGap

theorem isAlphanumeric_comma :
    Alphabet.isAlphanumeric ',' = false := by
  decide +kernel

/- No part of a word stands in a gap. -/
theorem IsGap.not_alphanumeric
    {text : List Char}
    (hText : IsGap text) :
    ∀ c ∈ text, Alphabet.isAlphanumeric c = false := by
  intro c hMem
  cases hc : Alphabet.isBlank c with
  | true => exact Alphabet.isAlphanumeric_eq_false_of_isBlank hc
  | false =>
      rw [eq_comma_of_isGap (hText c hMem) hc]
      exact isAlphanumeric_comma

/- Words on both sides of a gap are not joined. -/
theorem words_gap
    {before after : List Char}
    (hBefore : IsGap before)
    (hAfter : IsGap after)
    (front back : List Char) :
    words Alphabet.isAlphanumeric
        (front ++ before ++ ',' :: (after ++ back)) =
      words Alphabet.isAlphanumeric front ++
        words Alphabet.isAlphanumeric back := by
  rw [words_append_cons isAlphanumeric_comma,
    words_append_separators front hBefore.not_alphanumeric,
    words_separators_append hAfter.not_alphanumeric]

end RamlScaffold.Text

------------------------------------------------------------
-- Texts That Nothing Is Stripped From
------------------------------------------------------------

namespace RamlScaffold.TypeShape

open RamlScaffold.Text

/-
  What a text with a comma is read as if neither brackets nor
  parentheses are stripped from it.
-/
def plain (text : List Char) : TypeShape :=
  if text.contains '|' then .anything
  else .named (Naming.typeIdentifier (String.ofList text))

/- An identifier depends on the words of a name only. -/
theorem typeIdentifier_congr
    {first second : List Char}
    (hSame :
      words Alphabet.isAlphanumeric first =
        words Alphabet.isAlphanumeric second) :
    Naming.typeIdentifier (String.ofList first) =
      Naming.typeIdentifier (String.ofList second) := by
  unfold Naming.typeIdentifier Naming.normalize
    Naming.pathIdentifier Naming.joinedWords
  rw [String.toList_ofList, String.toList_ofList, hSame]

/- Gaps make no difference to what is read that way. -/
theorem plain_gap
    {before after : List Char}
    (hBefore : IsGap before)
    (hAfter : IsGap after)
    (front back : List Char) :
    plain (front ++ before ++ ',' :: (after ++ back)) =
      plain (front ++ ',' :: back) := by
  have hBar {gap : List Char} (hGap : IsGap gap) : '|' ∉ gap :=
    fun hMem => absurd (hGap '|' hMem) (by decide)
  have hContains :
      (front ++ before ++ ',' :: (after ++ back)).contains '|' =
        (front ++ ',' :: back).contains '|' := by
    rw [Bool.eq_iff_iff, List.contains_iff_mem,
      List.contains_iff_mem]
    simp [hBar hBefore, hBar hAfter]
  have hWords :
      words Alphabet.isAlphanumeric
          (front ++ before ++ ',' :: (after ++ back)) =
        words Alphabet.isAlphanumeric (front ++ ',' :: back) := by
    have hNone : IsGap [] := by decide
    have hLone := words_gap hNone hNone front back
    rw [List.append_nil, List.nil_append] at hLone
    rw [words_gap hBefore hAfter, hLone]
  unfold plain
  rw [hContains, typeIdentifier_congr hWords]

theorem comma_not_mem_builtin :
    ∀ word ∈ builtinWords, ',' ∉ word.toList := by
  decide

/- A text with a comma is no word that is built in. -/
theorem read_eq_plain
    {text : List Char}
    (hComma : ',' ∈ text)
    (hElement : element? (trim text) = none)
    (hGroup : grouped? (trim text) = none) :
    read text = plain text := by
  have hContains :
      (trim text).contains '|' = text.contains '|' := by
    rw [Bool.eq_iff_iff, List.contains_iff_mem,
      List.contains_iff_mem, mem_trim_iff (by decide)]
  have hWord : String.ofList (trim text) ∉ builtinWords := by
    intro hBuiltin
    refine comma_not_mem_builtin _ hBuiltin ?_
    rw [String.toList_ofList, mem_trim_iff (by decide)]
    exact hComma
  have hName :
      Naming.typeIdentifier (String.ofList (trim text)) =
        Naming.typeIdentifier (String.ofList text) :=
    typeIdentifier_congr (words_trim text)
  rw [read_eq, hElement, hGroup, hContains,
    ofWord_of_not_builtin hWord, hName]
  rfl

end RamlScaffold.TypeShape

------------------------------------------------------------
-- The End Of A Text
------------------------------------------------------------

namespace RamlScaffold.TypeShape

open RamlScaffold.Text

/-
  Every text is blank, ends in brackets or in a parenthesis, or
  ends in something that reading does not strip.
-/
inductive Ending : List Char → Prop where
  | blank {text : List Char}
      (hText : IsBlank text) :
      Ending text
  | brackets {text after : List Char}
      (hText : Ending text)
      (hAfter : IsBlank after) :
      Ending (text ++ ['[', ']'] ++ after)
  | parenthesis {text after : List Char}
      (hText : Ending text)
      (hAfter : IsBlank after) :
      Ending (text ++ [')'] ++ after)
  | other {front after : List Char} {c : Char}
      (hc : Alphabet.isBlank c = false)
      (hParenthesis : c ≠ ')')
      (hBrackets : c = ']' → front.getLast? ≠ some '[')
      (hAfter : IsBlank after) :
      Ending (front ++ c :: after)

theorem ending_of (text : List Char) : Ending text := by
  by_cases hBlank : IsBlank text
  · exact .blank hBlank
  · rcases exists_last_of_not_isBlank hBlank with
      ⟨front, c, after, rfl, hc, hAfter⟩
    by_cases hParenthesis : c = ')'
    · subst hParenthesis
      rw [List.append_cons]
      exact .parenthesis (ending_of front) hAfter
    · by_cases hBrackets : c = ']' ∧ front.getLast? = some '['
      · rcases hBrackets with ⟨rfl, hLast⟩
        rcases List.getLast?_eq_some_iff.mp hLast with
          ⟨start, rfl⟩
        have hSplit :
            start ++ ['['] ++ ']' :: after =
              start ++ ['[', ']'] ++ after := by
          simp
        rw [hSplit]
        exact .brackets (ending_of start) hAfter
      · refine .other hc hParenthesis ?_ hAfter
        intro hBracket hLast
        exact hBrackets ⟨hBracket, hLast⟩
termination_by text.length
decreasing_by all_goals simp_all

/- A closing bracket alone makes no sequence. -/
theorem element?_of_no_bracket
    {front : List Char}
    (hFront : front.getLast? ≠ some '[')
    (c : Char) :
    element? (front ++ [c]) = none := by
  unfold element? stripEnd?
  rw [if_neg]
  intro hSuffix
  rcases List.isSuffixOf_iff_suffix.mp hSuffix with
    ⟨before, hSame⟩
  rw [List.append_cons] at hSame
  rw [← (List.append_inj' hSame rfl).1] at hFront
  exact hFront List.getLast?_concat

end RamlScaffold.TypeShape

------------------------------------------------------------
-- Gaps Between Names
------------------------------------------------------------

namespace RamlScaffold.TypeShape

open RamlScaffold.Text

/- A text gets no new end by trimming its start. -/
theorem getLast?_trimStart_ne
    {text : List Char}
    {c : Char}
    (hText : text.getLast? ≠ some c) :
    (trimStart text).getLast? ≠ some c := by
  rcases exists_blanks_append_trimStart text with
    ⟨before, _, hSplit⟩
  intro hLast
  apply hText
  rw [hSplit, List.getLast?_append, hLast]
  rfl

/- Nothing is stripped from a text with another ending. -/
theorem read_eq_plain_of_last
    {front : List Char}
    {c : Char}
    {after : List Char}
    (hComma : ',' ∈ front ++ c :: after)
    (hc : Alphabet.isBlank c = false)
    (hParenthesis : c ≠ ')')
    (hBrackets : c = ']' → front.getLast? ≠ some '[')
    (hAfter : IsBlank after) :
    read (front ++ c :: after) = plain (front ++ c :: after) := by
  have hTrim := trim_append_cons hc front hAfter
  refine read_eq_plain hComma ?_ ?_
  · rw [hTrim]
    by_cases hBracket : c = ']'
    · exact element?_of_no_bracket
        (getLast?_trimStart_ne (hBrackets hBracket)) c
    · exact element?_of_last_ne hBracket _
  · rw [hTrim]
    exact grouped?_of_last_ne hParenthesis _

/- Neither from one that closes what it does not open. -/
theorem read_eq_plain_of_close
    {text after : List Char}
    (hComma : ',' ∈ text)
    (hOpen : (trimStart text).head? ≠ some '(')
    (hAfter : IsBlank after) :
    read (text ++ [')'] ++ after) =
      plain (text ++ [')'] ++ after) := by
  have hTrim :
      trim (text ++ [')'] ++ after) = trimStart text ++ [')'] := by
    rw [trim_append_blanks _ hAfter, trim_append_parenthesis]
  refine read_eq_plain (by simp [hComma]) ?_ ?_
  · rw [hTrim]
    exact element?_of_last_ne (by decide) _
  · rw [hTrim]
    cases hStart : trimStart text with
    | nil => exact grouped?_of_first_ne (by decide) []
    | cons first rest =>
        rw [hStart] at hOpen
        refine grouped?_of_first_ne ?_ _
        rintro rfl
        exact hOpen rfl

/- A gap and its comma end in no opening bracket. -/
theorem getLast?_gap_ne
    (before : List Char)
    {after back : List Char}
    (hAfter : IsGap after)
    (hBack : back.getLast? ≠ some '[')
    (front : List Char) :
    (front ++ before ++ ',' :: (after ++ back)).getLast? ≠
      some '[' := by
  intro hLast
  rw [← List.cons_append, List.getLast?_append,
    List.getLast?_append] at hLast
  cases hEnd : back.getLast? with
  | some c =>
      rw [hEnd] at hLast hBack
      exact hBack hLast
  | none =>
      -- Nothing follows the gap, so the bracket would be in it.
      rw [hEnd, List.getLast?_cons] at hLast
      have hMem : '[' ∈ ',' :: after := by
        apply List.mem_of_getLast?
        rw [List.getLast?_cons]
        simpa using hLast
      exact absurd (hAfter.comma_cons '[' hMem) (by decide)

/-
  If the text behind a gap ends in nothing that is stripped,
  the whole text is read as it stands.
-/
theorem read_gap_of_blank
    (before : List Char)
    {after back : List Char}
    (hAfter : IsGap after)
    (hBack : IsBlank back)
    (front : List Char) :
    read (front ++ before ++ ',' :: (after ++ back)) =
      plain (front ++ before ++ ',' :: (after ++ back)) := by
  have hGap : IsGap (',' :: (after ++ back)) :=
    (hAfter.append hBack.isGap).comma_cons
  have hNotBlank : ¬ IsBlank (',' :: (after ++ back)) :=
    fun hAll =>
      absurd (hAll ',' List.mem_cons_self) (by decide)
  have hComma :
      ',' ∈ front ++ before ++ ',' :: (after ++ back) := by
    simp
  -- The last character that is not white space is a comma.
  rcases exists_last_of_not_isBlank hNotBlank with
    ⟨start, c, blanks, hSplit, hc, hBlanks⟩
  have hLast : c = ',' :=
    eq_comma_of_isGap (hGap c (by simp [hSplit])) hc
  subst hLast
  rw [hSplit, ← List.append_assoc] at hComma ⊢
  exact read_eq_plain_of_last hComma hc (by decide)
    (fun hBracket => absurd hBracket (by decide)) hBlanks

theorem read_gap_of_other
    (before : List Char)
    {after start blanks : List Char}
    {c : Char}
    (hAfter : IsGap after)
    (hc : Alphabet.isBlank c = false)
    (hParenthesis : c ≠ ')')
    (hBrackets : c = ']' → start.getLast? ≠ some '[')
    (hBlanks : IsBlank blanks)
    (front : List Char) :
    read
        (front ++ before ++
          ',' :: (after ++ (start ++ c :: blanks))) =
      plain
        (front ++ before ++
          ',' :: (after ++ (start ++ c :: blanks))) := by
  have hSplit :
      front ++ before ++
          ',' :: (after ++ (start ++ c :: blanks)) =
        front ++ before ++ ',' :: (after ++ start) ++
          c :: blanks := by
    simp
  rw [hSplit]
  refine read_eq_plain_of_last (by simp) hc hParenthesis ?_
    hBlanks
  intro hBracket
  exact getLast?_gap_ne before hAfter (hBrackets hBracket) front

/- The first character of a text stands in its first part. -/
theorem head?_trimStart_append
    {front rest : List Char}
    {c : Char}
    (hFirst : (trimStart (front ++ rest)).head? = some c) :
    (trimStart front).head? = some c ∨ c ∈ rest := by
  unfold trimStart at hFirst ⊢
  rw [List.dropWhile_append] at hFirst
  split at hFirst
  · right
    exact (List.dropWhile_sublist Alphabet.isBlank).subset
      (List.mem_of_head? hFirst)
  · next hFront =>
      left
      cases hStart : front.dropWhile Alphabet.isBlank with
      | nil => exact absurd (by rw [hStart]; rfl) hFront
      | cons first _ =>
          rw [hStart] at hFirst
          exact hFirst

theorem read_gap_of_close
    {before front : List Char}
    (hBefore : IsGap before)
    (hOpen : (trimStart front).head? ≠ some '(')
    (after back : List Char)
    {blanks : List Char}
    (hBlanks : IsBlank blanks) :
    read
        (front ++ before ++
          ',' :: (after ++ (back ++ [')'] ++ blanks))) =
      plain
        (front ++ before ++
          ',' :: (after ++ (back ++ [')'] ++ blanks))) := by
  have hSplit :
      front ++ before ++
          ',' :: (after ++ (back ++ [')'] ++ blanks)) =
        front ++ before ++ ',' :: (after ++ back) ++ [')'] ++
          blanks := by
    simp
  rw [hSplit]
  refine read_eq_plain_of_close (by simp) ?_ hBlanks
  rw [trimStart_append_cons (by decide), List.head?_append]
  intro hFirst
  -- Before the comma, only a gap follows what is in front.
  cases hStart : (trimStart (front ++ before)).head? with
  | none =>
      rw [hStart] at hFirst
      exact absurd (Option.some.inj hFirst) (by decide)
  | some c =>
      rw [hStart] at hFirst
      cases hFirst
      rcases head?_trimStart_append hStart with hFront | hMem
      · exact hOpen hFront
      · exact absurd (hBefore '(' hMem) (by decide)

/-
  However many commas and whatever white space part two names,
  the text is read the same.  Brackets and parentheses behind
  the gap are stripped from both texts alike.
-/
theorem read_gap
    {before after : List Char}
    (hBefore : IsGap before)
    (hAfter : IsGap after)
    (front back : List Char) :
    read (front ++ before ++ ',' :: (after ++ back)) =
      read (front ++ ',' :: back) := by
  have hNone : IsGap [] := by decide
  have hPlain := plain_gap hBefore hAfter
  induction ending_of back generalizing front with
  | blank hBack =>
      have hOne := read_gap_of_blank [] hNone hBack front
      rw [List.append_nil, List.nil_append] at hOne
      rw [hOne, read_gap_of_blank before hAfter hBack, hPlain]
  | other hc hParenthesis hBrackets hBlanks =>
      have hOne := read_gap_of_other [] hNone hc hParenthesis
        hBrackets hBlanks front
      rw [List.append_nil, List.nil_append] at hOne
      rw [hOne, read_gap_of_other before hAfter hc hParenthesis
        hBrackets hBlanks, hPlain]
  | @brackets back blanks _ hBlanks ih =>
      calc
        read (front ++ before ++
              ',' :: (after ++ (back ++ ['[', ']'] ++ blanks))) =
            read (front ++ before ++ ',' :: (after ++ back) ++
              ['[', ']'] ++ blanks) := by simp
        _ = .sequence
              (read (front ++ before ++
                ',' :: (after ++ back))) := by
          rw [read_append_blanks _ hBlanks, read_brackets]
        _ = .sequence (read (front ++ ',' :: back)) := by rw [ih]
        _ = read (front ++ ',' :: back ++ ['[', ']'] ++
              blanks) := by
          rw [read_append_blanks _ hBlanks, read_brackets]
        _ = read (front ++
              ',' :: (back ++ ['[', ']'] ++ blanks)) := by simp
  | @parenthesis back blanks _ hBlanks ih =>
      by_cases hOpen : (trimStart front).head? = some '('
      · rcases exists_blanks_append_trimStart front with
          ⟨indent, hIndent, hFront⟩
        rcases List.head?_eq_some_iff.mp hOpen with ⟨rest, hStart⟩
        rw [hStart] at hFront
        subst hFront
        calc
          read (indent ++ '(' :: rest ++ before ++
                ',' :: (after ++ (back ++ [')'] ++ blanks))) =
              read (indent ++
                ('(' :: (rest ++ before ++ ',' :: (after ++ back) ++
                  [')']) ++ blanks)) := by simp
          _ = read (rest ++ before ++ ',' :: (after ++ back)) := by
            rw [read_blanks_append hIndent,
              read_append_blanks _ hBlanks, read_parentheses]
          _ = read (rest ++ ',' :: back) := ih rest
          _ = read (indent ++
                ('(' :: (rest ++ ',' :: back ++ [')']) ++
                  blanks)) := by
            rw [read_blanks_append hIndent,
              read_append_blanks _ hBlanks, read_parentheses]
          _ = read (indent ++ '(' :: rest ++
                ',' :: (back ++ [')'] ++ blanks)) := by simp
      · have hOne :=
          read_gap_of_close hNone hOpen [] back hBlanks
        rw [List.append_nil, List.nil_append] at hOne
        rw [hOne, read_gap_of_close hBefore hOpen after back hBlanks,
          hPlain]

end RamlScaffold.TypeShape
