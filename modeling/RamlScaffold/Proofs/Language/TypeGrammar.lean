import RamlScaffold.Proofs.Language.TypeReading

/-
  Type expressions by their grammar, and how their texts are
  read.

  Names, arrays and groups are read as they are built.  A
  union is open, but brackets at the right edge of its last
  member are stripped before its bars are looked for, and so
  are parentheses at both edges, whether they belong together
  or not.  Such stray brackets make the whole union a sequence.

  Main declarations:
    * `TypeForm`, `TypeForm.Written`, `TypeForm.shape`
    * `TypeForm.strays`, `TypeForm.misread`
    * `TypeForm.read_of_written`
    * `TypeForm.convert_written`
    * `TypeForm.arrayMember_misread`
-/

------------------------------------------------------------
-- The Grammar
------------------------------------------------------------

namespace RamlScaffold

/- A type expression. -/
inductive TypeForm where
  | name (word : String)
  | array (element : TypeForm)
  | group (inner : TypeForm)
  | union (first second : TypeForm)
deriving DecidableEq, Repr

namespace TypeForm

/- Whether brackets behind an expression go to a member. -/
def isUnion : TypeForm → Bool
  | .union _ _ => true
  | _ => false

/-
  The texts of an expression.  White space may stand around
  every part.  Brackets bind tighter than a bar, so a union is
  put in parentheses before brackets.
-/
inductive Written : TypeForm → List Char → Prop where
  | name {word : String}
      (hWord : ¬ Text.IsBlank word.toList)
      (hOperators : TypeShape.OperatorFree word.toList) :
      Written (.name word) word.toList
  | spaced {form : TypeForm} {text before after : List Char}
      (hText : Written form text)
      (hBefore : Text.IsBlank before)
      (hAfter : Text.IsBlank after) :
      Written form (before ++ text ++ after)
  | array {element : TypeForm} {text : List Char}
      (hElement : Written element text)
      (hTight : element.isUnion = false) :
      Written (.array element) (text ++ ['[', ']'])
  | group {inner : TypeForm} {text : List Char}
      (hInner : Written inner text) :
      Written (.group inner) ('(' :: (text ++ [')']))
  | union {first second : TypeForm} {left right : List Char}
      (hFirst : Written first left)
      (hSecond : Written second right) :
      Written (.union first second) (left ++ '|' :: right)

/- What an expression denotes by its structure. -/
def shape : TypeForm → TypeShape
  | .name word => TypeShape.ofWord (Text.trimmed word)
  | .array element => .sequence (shape element)
  | .group inner => shape inner
  | .union _ _ => .anything

end TypeForm

end RamlScaffold

------------------------------------------------------------
-- Edges
------------------------------------------------------------

namespace RamlScaffold

/- What closes an expression at its right edge. -/
inductive Closer where
  | brackets
  | parenthesis
deriving DecidableEq, Repr

namespace TypeForm

/- The opening parentheses at the left edge. -/
def openers : TypeForm → Nat
  | .name _ => 0
  | .array element => openers element
  | .group inner => openers inner + 1
  | .union first _ => openers first

/- The closers at the right edge, the outermost first. -/
def closers : TypeForm → List Closer
  | .name _ => []
  | .array element => .brackets :: closers element
  | .group inner => .parenthesis :: closers inner
  | .union _ second => closers second

/-
  How many pairs of brackets are stripped at a right edge, if
  a closing parenthesis needs an opening one at the left edge.
-/
def bracketsStripped : Nat → List Closer → Nat
  | _, [] => 0
  | opened, .brackets :: closers =>
      bracketsStripped opened closers + 1
  | 0, .parenthesis :: _ => 0
  | opened + 1, .parenthesis :: closers =>
      bracketsStripped opened closers

/- The brackets of a last member that the union is given. -/
def strays : TypeForm → Nat
  | .name _ => 0
  | .array element => strays element
  | .group inner => strays inner
  | .union first second =>
      bracketsStripped first.openers second.closers

/- An expression in so many pairs of brackets. -/
def arrays : Nat → TypeForm → TypeForm
  | 0, form => form
  | count + 1, form => .array (arrays count form)

/- An expression with its stray brackets around the union. -/
def misread : TypeForm → TypeForm
  | .name word => .name word
  | .array element => .array (misread element)
  | .group inner => .group (misread inner)
  | .union first second =>
      arrays (bracketsStripped first.openers second.closers)
        (.union first second)

end TypeForm

end RamlScaffold

------------------------------------------------------------
-- Edges Of Texts
------------------------------------------------------------

namespace RamlScaffold

open RamlScaffold.Text

/- A text with so many opening parentheses at its left edge. -/
inductive Opens : Nat → List Char → Prop where
  | stop {text rest : List Char} {c : Char}
      (hStart : trimStart text = c :: rest)
      (hc : c ≠ '(') :
      Opens 0 text
  | parenthesis {count : Nat} {before text : List Char}
      (hBefore : IsBlank before)
      (hText : Opens count text) :
      Opens (count + 1) (before ++ '(' :: text)

namespace Opens

variable {count : Nat} {text : List Char}

theorem append
    (hText : Opens count text)
    (rest : List Char) :
    Opens count (text ++ rest) := by
  induction hText with
  | @stop text later c hStart hc =>
      have hAppended :
          trimStart (text ++ rest) = c :: (later ++ rest) := by
        unfold trimStart at hStart ⊢
        rw [List.dropWhile_append, hStart]
        rfl
      exact .stop hAppended hc
  | parenthesis hBefore hText ih =>
      rw [List.append_assoc]
      exact .parenthesis hBefore ih

theorem blanks_append
    {before : List Char}
    (hBefore : IsBlank before)
    (hText : Opens count text) :
    Opens count (before ++ text) := by
  cases hText with
  | stop hStart hc =>
      rw [← trimStart_blanks_append hBefore] at hStart
      exact .stop hStart hc
  | @parenthesis _ blanks text hBlanks hText =>
      rw [← List.append_assoc]
      exact .parenthesis (hBefore.append hBlanks) hText

end Opens

/- A text with these closers at its right edge. -/
inductive Closes : List Closer → List Char → Prop where
  | stop {front after : List Char} {c : Char}
      (hc : Alphabet.isBlank c = false)
      (hOperator : TypeShape.isOperator c = false)
      (hAfter : IsBlank after) :
      Closes [] (front ++ c :: after)
  | brackets {closers : List Closer} {text after : List Char}
      (hText : Closes closers text)
      (hAfter : IsBlank after) :
      Closes (.brackets :: closers)
        (text ++ ['[', ']'] ++ after)
  | parenthesis {closers : List Closer} {text after : List Char}
      (hText : Closes closers text)
      (hAfter : IsBlank after) :
      Closes (.parenthesis :: closers) (text ++ [')'] ++ after)

namespace Closes

variable {closers : List Closer} {text : List Char}

theorem prepend
    (hText : Closes closers text)
    (front : List Char) :
    Closes closers (front ++ text) := by
  induction hText with
  | stop hc hOperator hAfter =>
      rw [← List.append_assoc]
      exact .stop hc hOperator hAfter
  | brackets hText hAfter ih =>
      rw [← List.append_assoc, ← List.append_assoc]
      exact .brackets ih hAfter
  | parenthesis hText hAfter ih =>
      rw [← List.append_assoc, ← List.append_assoc]
      exact .parenthesis ih hAfter

theorem append_blanks
    (hText : Closes closers text)
    {after : List Char}
    (hAfter : IsBlank after) :
    Closes closers (text ++ after) := by
  cases hText with
  | stop hc hOperator hBlanks =>
      rw [List.append_assoc, List.cons_append]
      exact .stop hc hOperator (hBlanks.append hAfter)
  | brackets hText hBlanks =>
      rw [List.append_assoc]
      exact .brackets hText (hBlanks.append hAfter)
  | parenthesis hText hBlanks =>
      rw [List.append_assoc]
      exact .parenthesis hText (hBlanks.append hAfter)

end Closes

end RamlScaffold

------------------------------------------------------------
-- Written Expressions
------------------------------------------------------------

namespace RamlScaffold.TypeForm

open RamlScaffold.Text

variable {form : TypeForm} {text : List Char}

/- An expression has its opening parentheses in front. -/
theorem opens_of_written (hText : form.Written text) :
    Opens form.openers text := by
  induction hText with
  | @name word hWord hOperators =>
      rcases exists_first_of_not_isBlank hWord with
        ⟨c, rest, hStart, hMem⟩
      refine .stop hStart ?_
      rintro rfl
      exact absurd (hOperators '(' hMem) (by decide)
  | spaced _ hBefore _ ih =>
      exact (ih.blanks_append hBefore).append _
  | array _ _ ih => exact ih.append _
  | group _ ih =>
      have hNone : IsBlank [] := by decide
      exact .parenthesis hNone (ih.append [')'])
  | union _ _ ih _ => exact ih.append _

/- An expression has its closers at the end. -/
theorem closes_of_written (hText : form.Written text) :
    Closes form.closers text := by
  induction hText with
  | @name word hWord hOperators =>
      rcases exists_last_of_not_isBlank hWord with
        ⟨front, c, after, hSplit, hc, hAfter⟩
      have hOperator : TypeShape.isOperator c = false :=
        hOperators c (by simp [hSplit])
      rw [hSplit]
      exact .stop hc hOperator hAfter
  | spaced _ _ hAfter ih =>
      exact (ih.prepend _).append_blanks hAfter
  | array _ _ ih =>
      have hBrackets := Closes.brackets ih (by decide : IsBlank [])
      rw [List.append_nil] at hBrackets
      exact hBrackets
  | group _ ih =>
      have hGroup :=
        (Closes.parenthesis ih (by decide : IsBlank [])).prepend
          ['(']
      rw [List.append_nil] at hGroup
      exact hGroup
  | @union _ _ left right _ _ _ ih =>
      rw [List.append_cons]
      exact ih.prepend (left ++ ['|'])

end RamlScaffold.TypeForm

------------------------------------------------------------
-- Reading
------------------------------------------------------------

namespace RamlScaffold.TypeForm

open RamlScaffold.Text

/-
  A text with a bar is open, inside as many sequences as
  brackets are stripped at its right edge.
-/
theorem read_of_bar
    {closers : List Closer}
    {right : List Char}
    (hRight : Closes closers right)
    {opened : Nat}
    {left : List Char}
    (hLeft : Opens opened left)
    (first second : TypeForm) :
    TypeShape.read (left ++ '|' :: right) =
      (arrays (bracketsStripped opened closers)
        (.union first second)).shape := by
  induction hRight generalizing opened left with
  | @stop front after c hc hOperator hAfter =>
      have hBracket : c ≠ ']' := by
        rintro rfl
        exact absurd hOperator (by decide)
      have hParenthesis : c ≠ ')' := by
        rintro rfl
        exact absurd hOperator (by decide)
      have hSplit :
          left ++ '|' :: (front ++ c :: after) =
            (left ++ '|' :: front) ++ c :: after := by
        simp
      rw [hSplit,
        TypeShape.read_of_open hc hBracket hParenthesis hAfter
          (by simp)]
      rfl
  | @brackets closers text after hText hAfter ih =>
      have hSplit :
          left ++ '|' :: (text ++ ['[', ']'] ++ after) =
            (left ++ '|' :: text) ++ ['[', ']'] ++ after := by
        simp
      rw [hSplit, TypeShape.read_append_blanks _ hAfter,
        TypeShape.read_brackets, ih hLeft]
      rfl
  | @parenthesis closers text after hText hAfter ih =>
      have hSplit :
          left ++ '|' :: (text ++ [')'] ++ after) =
            (left ++ '|' :: text) ++ [')'] ++ after := by
        simp
      rw [hSplit, TypeShape.read_append_blanks _ hAfter]
      cases hLeft with
      | @stop _ rest c hStart hc =>
          have hWhole :
              trimStart (left ++ '|' :: text) =
                c :: (rest ++ '|' :: text) := by
            rw [trimStart_append_cons (by decide), hStart]
            rfl
          rw [TypeShape.read_of_close hWhole hc (by simp)]
          rfl
      | @parenthesis opened before inner hBefore hInner =>
          -- The two parentheses are stripped as if they belonged
          -- together.
          have hPair :
              before ++ '(' :: inner ++ '|' :: text ++ [')'] =
                before ++
                  '(' :: ((inner ++ '|' :: text) ++ [')']) := by
            simp
          rw [hPair, TypeShape.read_blanks_append hBefore,
            TypeShape.read_parentheses, ih hInner]
          rfl

/- A text is read as its expression is misread. -/
theorem read_of_written
    {form : TypeForm}
    {text : List Char}
    (hText : form.Written text) :
    TypeShape.read text = form.misread.shape := by
  induction hText with
  | name hWord hOperators =>
      exact TypeShape.read_word hOperators
  | spaced hText hBefore hAfter ih =>
      rw [TypeShape.read_append_blanks _ hAfter,
        TypeShape.read_blanks_append hBefore, ih]
  | array hElement hTight ih =>
      rw [TypeShape.read_brackets, ih]
      rfl
  | group hInner ih =>
      rw [TypeShape.read_parentheses, ih]
      rfl
  | @union first second left right hFirst hSecond _ _ =>
      exact
        read_of_bar (closes_of_written hSecond)
          (opens_of_written hFirst) first second

end RamlScaffold.TypeForm

------------------------------------------------------------
-- Type Literals
------------------------------------------------------------

namespace RamlScaffold

namespace Language

/- How many characters a sequence type has more. -/
def sequenceOverhead : Language → Nat
  | .go => 2
  | .rust => 5

theorem length_sequenceOf
    (language : Language)
    (element : String) :
    (language.sequenceOf element).length =
      element.length + language.sequenceOverhead := by
  cases language with
  | go =>
      rw [sequenceOf, String.length_append, Nat.add_comm]
      rfl
  | rust =>
      have hOpen : "Vec<".length = 4 := rfl
      have hClose : ">".length = 1 := rfl
      rw [sequenceOf, String.length_append,
        String.length_append, hOpen, hClose, sequenceOverhead]
      omega

end Language

namespace TypeForm

/- Every stray pair of brackets shows in the type literal. -/
theorem length_misread
    (language : Language)
    (form : TypeForm) :
    (language.spell form.misread.shape).length =
      (language.spell form.shape).length +
        form.strays * language.sequenceOverhead := by
  induction form with
  | name word => simp [misread, strays]
  | array element ih =>
      simp only [misread, shape, strays, Language.spell,
        Language.length_sequenceOf, ih]
      omega
  | group inner ih => exact ih
  | union first second _ _ =>
      have hArrays (count : Nat) :
          (language.spell
              (arrays count (.union first second)).shape).length =
            (language.spell .anything).length +
              count * language.sequenceOverhead := by
        induction count with
        | zero => simp [arrays, shape]
        | succ count ih =>
            have hLength :=
              language.length_sequenceOf
                (language.spell
                  (arrays count (.union first second)).shape)
            rw [ih] at hLength
            rw [Nat.succ_mul, ← Nat.add_assoc]
            exact hLength
      exact hArrays _

theorem misread_of_strays_eq_zero
    {form : TypeForm}
    (hStrays : form.strays = 0) :
    form.misread = form := by
  induction form with
  | name word => rfl
  | array element ih => rw [misread, ih hStrays]
  | group inner ih => rw [misread, ih hStrays]
  | union first second _ _ =>
      rw [strays] at hStrays
      rw [misread, hStrays]
      rfl

/-
  A text is converted to what its expression denotes with the
  stray brackets of a last member around the whole union, and
  so to what the expression denotes exactly if there are none.
-/
theorem convert_written
    {form : TypeForm}
    {text : List Char}
    (hText : form.Written text)
    (language : Language) :
    language.convert (String.ofList text) =
        language.spell form.misread.shape ∧
      (language.convert (String.ofList text) =
          language.spell form.shape ↔
        form.strays = 0) := by
  have hConvert :
      language.convert (String.ofList text) =
        language.spell form.misread.shape := by
    rw [Language.convert, String.toList_ofList,
      read_of_written hText]
  refine ⟨hConvert, ?_⟩
  rw [hConvert]
  constructor
  · intro hSame
    have hLength := form.length_misread language
    rw [hSame] at hLength
    have hOverhead : 0 < language.sequenceOverhead := by
      cases language <;> decide
    have hNone :
        form.strays * language.sequenceOverhead = 0 := by
      omega
    exact (Nat.mul_eq_zero.mp hNone).resolve_right
      (Nat.ne_of_gt hOverhead)
  · intro hStrays
    rw [misread_of_strays_eq_zero hStrays]

/- A union of groups, the last one of an array. -/
def groupedMembers : TypeForm :=
  .union (.group (.name "string"))
    (.group (.array (.name "integer")))

theorem written_groupedMembers :
    groupedMembers.Written "(string) | (integer[])".toList := by
  have hText :
      "(string) | (integer[])".toList =
        ([] ++ ('(' :: ("string".toList ++ [')'])) ++ [' ']) ++
          '|' ::
            ([' '] ++
              ('(' ::
                (("integer".toList ++ ['[', ']']) ++ [')'])) ++
              []) :=
    rfl
  rw [hText]
  refine .union (.spaced ?_ ?_ ?_) (.spaced ?_ ?_ ?_)
  · exact .group (.name (by decide) (by decide))
  · decide
  · decide
  · exact .group (.array (.name (by decide) (by decide)) rfl)
  · decide
  · decide

/- The brackets inside the last group are given to the union. -/
theorem convert_groupedMembers :
    groupedMembers.Written "(string) | (integer[])".toList ∧
      Language.rust.convert "(string) | (integer[])" =
        "Vec<serde_json::Value>" := by
  have hConvert :=
    (convert_written written_groupedMembers .rust).1
  rw [String.ofList_toList] at hConvert
  exact ⟨written_groupedMembers, hConvert.trans rfl⟩

/- A union whose last member is an array. -/
def arrayMember : TypeForm :=
  .union (.name "string") (.array (.name "integer"))

/-
  The union denotes the open type, but its text is converted
  to a sequence.
-/
theorem arrayMember_misread :
    arrayMember.Written "string|integer[]".toList ∧
      Language.go.spell arrayMember.shape =
        "interface\x7b\x7d" ∧
      Language.go.convert "string|integer[]" =
        "[]interface\x7b\x7d" := by
  refine ⟨?_, rfl, by decide +kernel⟩
  have hText :
      "string|integer[]".toList =
        "string".toList ++
          '|' :: ("integer".toList ++ ['[', ']']) :=
    rfl
  rw [hText]
  exact .union (.name (by decide) (by decide))
    (.array (.name (by decide) (by decide)) rfl)

end TypeForm

end RamlScaffold
