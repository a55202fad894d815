import RamlScaffold.Language.TypeShape
import RamlScaffold.Proofs.Naming.Identifier
import RamlScaffold.Proofs.Text.Blanks

/-
  How a written type is read, one form at a time.

  Reading looks at the last and the first character that are
  no white space.  Each lemma says what is read of a text with
  certain characters there, so later proofs need not unfold
  the reader.

  Main declarations:
    * `TypeShape.read_eq`
    * `TypeShape.read_blanks_append`
    * `TypeShape.read_append_blanks`
    * `TypeShape.read_brackets`, `TypeShape.read_parentheses`
    * `TypeShape.read_of_open`
    * `TypeShape.OperatorFree`, `TypeShape.read_word`
    * `Language.convert_ne_empty`
-/

------------------------------------------------------------
-- Endings
------------------------------------------------------------

namespace RamlScaffold.Text

theorem stripEnd?_append (front ending : List Char) :
    stripEnd? ending (front ++ ending) = some front := by
  unfold stripEnd?
  have hSuffix : ending.isSuffixOf (front ++ ending) = true :=
    List.isSuffixOf_iff_suffix.mpr (List.suffix_append _ _)
  rw [if_pos hSuffix, List.length_append,
    Nat.add_sub_cancel, List.take_left]

/- A text does not have an ending whose last sign differs. -/
theorem stripEnd?_of_last_ne
    {c d : Char}
    (hDiffer : c ≠ d)
    (front ending : List Char) :
    stripEnd? (ending ++ [d]) (front ++ [c]) = none := by
  unfold stripEnd?
  rw [if_neg]
  intro hSuffix
  rcases List.isSuffixOf_iff_suffix.mp hSuffix with
    ⟨before, hSame⟩
  rw [← List.append_assoc] at hSame
  exact hDiffer
    (List.singleton_inj.mp
      (List.append_inj' hSame rfl).2).symm

end RamlScaffold.Text

namespace RamlScaffold.TypeShape

open RamlScaffold.Text

theorem element?_brackets (front : List Char) :
    element? (front ++ ['[', ']']) = some front :=
  stripEnd?_append front ['[', ']']

theorem element?_of_last_ne
    {c : Char}
    (hc : c ≠ ']')
    (front : List Char) :
    element? (front ++ [c]) = none :=
  stripEnd?_of_last_ne hc front ['[']

theorem grouped?_parentheses (inner : List Char) :
    grouped? ('(' :: (inner ++ [')'])) = some inner :=
  stripEnd?_append inner [')']

theorem grouped?_of_last_ne
    {c : Char}
    (hc : c ≠ ')')
    (front : List Char) :
    grouped? (front ++ [c]) = none := by
  unfold grouped?
  split
  · next rest hText =>
      cases front with
      | nil =>
          rw [List.nil_append] at hText
          rw [← (List.cons.inj hText).2]
          rfl
      | cons first front =>
          rw [List.cons_append] at hText
          rw [← (List.cons.inj hText).2]
          exact stripEnd?_of_last_ne hc front []
  · rfl

theorem grouped?_of_first_ne
    {c : Char}
    (hc : c ≠ '(')
    (rest : List Char) :
    grouped? (c :: rest) = none := by
  unfold grouped?
  split
  · next hText => exact absurd (List.cons.inj hText).1 hc
  · rfl

end RamlScaffold.TypeShape

------------------------------------------------------------
-- Reading
------------------------------------------------------------

namespace RamlScaffold.TypeShape

open RamlScaffold.Text

/- The three forms in the order in which they are tried. -/
theorem read_eq (text : List Char) :
    read text =
      match element? (trim text) with
      | some inner => .sequence (read inner)
      | none =>
          match grouped? (trim text) with
          | some inner => read inner
          | none =>
              if (trim text).contains '|' then .anything
              else ofWord (String.ofList (trim text)) := by
  rw [read]
  split
  · next inner hElement => rw [hElement]
  · next hElement =>
      rw [hElement]
      dsimp only
      split
      · next inner hGroup => rw [hGroup]
      · next hGroup => rw [hGroup]

/- Texts with the same trimmed text are read alike. -/
theorem read_congr
    {first second : List Char}
    (hSame : trim first = trim second) :
    read first = read second := by
  rw [read_eq first, read_eq second, hSame]

theorem read_trimStart (text : List Char) :
    read (trimStart text) = read text :=
  read_congr (trim_trimStart text)

theorem read_trim (text : List Char) :
    read (trim text) = read text :=
  read_congr (trim_trim text)

theorem read_blanks_append
    {before : List Char}
    (hBefore : IsBlank before)
    (text : List Char) :
    read (before ++ text) = read text :=
  read_congr (trim_blanks_append hBefore text)

theorem read_append_blanks
    (text : List Char)
    {after : List Char}
    (hAfter : IsBlank after) :
    read (text ++ after) = read text :=
  read_congr (trim_append_blanks text hAfter)

/- A pair of brackets at the end makes a sequence. -/
theorem read_brackets (text : List Char) :
    read (text ++ ['[', ']']) = .sequence (read text) := by
  have hTrim :
      trim (text ++ ['[', ']']) =
        trimStart text ++ ['[', ']'] := by
    have hLast :=
      trim_append_cons (by decide : Alphabet.isBlank ']' = false)
        (text ++ ['[']) (by decide : IsBlank [])
    rw [trimStart_append_cons (by decide), List.append_assoc,
      List.append_assoc] at hLast
    exact hLast
  rw [read_eq, hTrim, element?_brackets]
  dsimp only
  rw [read_trimStart]

/- What ends in a parenthesis is no sequence. -/
theorem trim_append_parenthesis (text : List Char) :
    trim (text ++ [')']) = trimStart text ++ [')'] :=
  trim_append_cons (by decide) text (by decide : IsBlank [])

/- Parentheses around a text are dropped. -/
theorem read_parentheses (text : List Char) :
    read ('(' :: (text ++ [')'])) = read text := by
  have hStart :
      trimStart ('(' :: text) = '(' :: text :=
    trimStart_append_cons (by decide) [] text
  rw [read_eq, ← List.cons_append, trim_append_parenthesis,
    hStart, element?_of_last_ne (by decide), List.cons_append,
    grouped?_parentheses]

/-
  A closing parenthesis is left where it is if the text does
  not start with an opening one.  A bar then makes the type
  open.
-/
theorem read_of_close
    {text : List Char}
    {c : Char}
    {rest : List Char}
    (hStart : trimStart text = c :: rest)
    (hc : c ≠ '(')
    (hBar : '|' ∈ text) :
    read (text ++ [')']) = .anything := by
  have hContains : (trim (text ++ [')'])).contains '|' = true := by
    rw [List.contains_iff_mem, mem_trim_iff (by decide)]
    exact List.mem_append_left _ hBar
  rw [read_eq, hContains, trim_append_parenthesis,
    element?_of_last_ne (by decide), hStart, List.cons_append,
    grouped?_of_first_ne hc]
  rfl

/-
  A text with a bar that ends neither in a bracket nor in a
  parenthesis is open.
-/
theorem read_of_open
    {front : List Char}
    {c : Char}
    {after : List Char}
    (hc : Alphabet.isBlank c = false)
    (hBracket : c ≠ ']')
    (hParenthesis : c ≠ ')')
    (hAfter : IsBlank after)
    (hBar : '|' ∈ front ++ c :: after) :
    read (front ++ c :: after) = .anything := by
  have hContains :
      (trim (front ++ c :: after)).contains '|' = true := by
    rw [List.contains_iff_mem, mem_trim_iff (by decide)]
    exact hBar
  rw [read_eq, hContains, trim_append_cons hc front hAfter,
    element?_of_last_ne hBracket,
    grouped?_of_last_ne hParenthesis]
  rfl

/- Whether a character parts the forms of a written type. -/
def isOperator (c : Char) : Bool :=
  ['|', '(', ')', '[', ']'].contains c

/- A text that no such character parts. -/
def OperatorFree (text : List Char) : Prop :=
  ∀ c ∈ text, isOperator c = false

instance (text : List Char) : Decidable (OperatorFree text) :=
  decidable_of_iff
    (text.all (fun c => !isOperator c) = true)
    (by simp [OperatorFree])

/- A text without operators is a word. -/
theorem read_word
    {text : List Char}
    (hText : OperatorFree text) :
    read text = ofWord (String.ofList (trim text)) := by
  have hBar : (trim text).contains '|' = false := by
    rw [Bool.eq_false_iff, ne_eq, List.contains_iff_mem,
      mem_trim_iff (by decide)]
    intro hMem
    exact absurd (hText '|' hMem) (by decide)
  rw [read_eq, hBar]
  by_cases hBlank : IsBlank text
  · rw [trim_of_isBlank hBlank]
    rfl
  · rcases exists_last_of_not_isBlank hBlank with
      ⟨front, c, after, rfl, hc, hAfter⟩
    have hLast : isOperator c = false := hText c (by simp)
    have hBracket : c ≠ ']' := by
      rintro rfl
      exact absurd hLast (by decide)
    have hParenthesis : c ≠ ')' := by
      rintro rfl
      exact absurd hLast (by decide)
    rw [trim_append_cons hc front hAfter,
      element?_of_last_ne hBracket,
      grouped?_of_last_ne hParenthesis]
    rfl

end RamlScaffold.TypeShape

------------------------------------------------------------
-- Spelling
------------------------------------------------------------

namespace RamlScaffold.Text

theorem append_ne_empty
    {first : String}
    (hFirst : first ≠ "")
    (second : String) :
    first ++ second ≠ "" :=
  fun hEmpty => hFirst (String.append_eq_empty_iff.mp hEmpty).1

end RamlScaffold.Text

namespace RamlScaffold.Language

open RamlScaffold.Text

theorem anyType_ne_empty (language : Language) :
    language.anyType ≠ "" := by
  cases language <;> decide

theorem sequenceOf_ne_empty
    (language : Language)
    (element : String) :
    language.sequenceOf element ≠ "" := by
  cases language with
  | go => exact append_ne_empty (by decide) element
  | rust =>
      exact append_ne_empty
        (append_ne_empty (by decide) element) ">"

theorem mapOf_ne_empty
    (language : Language)
    (value : String) :
    language.mapOf value ≠ "" := by
  cases language with
  | go => exact append_ne_empty (by decide) value
  | rust =>
      exact append_ne_empty
        (append_ne_empty (by decide) value) ">"

/- A word that is not built in is spelled as an identifier. -/
theorem spell_ofWord_ne_empty
    (language : Language)
    (word : String) :
    language.spell (TypeShape.ofWord word) ≠ "" := by
  unfold TypeShape.ofWord
  split
  case h_14 => exact Naming.typeIdentifier_ne_empty word
  all_goals cases language <;> decide

theorem spell_read_ne_empty
    (language : Language)
    (text : List Char) :
    language.spell (TypeShape.read text) ≠ "" := by
  fun_induction TypeShape.read text with
  | case1 text inner hElement ih =>
      exact sequenceOf_ne_empty language _
  | case2 text hElement inner hGroup ih => exact ih
  | case3 => exact anyType_ne_empty language
  | case4 => exact spell_ofWord_ne_empty language _

/- Every text is written as some type. -/
theorem convert_ne_empty
    (language : Language)
    (typeName : String) :
    language.convert typeName ≠ "" :=
  spell_read_ne_empty language typeName.toList

/- White space around a written type does not matter. -/
theorem convert_trimmed
    (language : Language)
    (typeName : String) :
    language.convert (trimmed typeName) =
      language.convert typeName := by
  rw [convert, trimmed, String.toList_ofList,
    TypeShape.read_trim, convert]

end RamlScaffold.Language
