import Mathlib.Data.List.Chain
import RamlScaffold.Proofs.Naming.SnakeWords

/-
  The normal form of snake case.

  Snake case puts a single underscore between written
  characters and nowhere else, so underscores neither stand
  next to each other nor at an end.  What is written for a
  character is never empty and never an underscore, and this
  is all that the form rests on.

  An ASCII text in that form is written as it stands, so snake
  case has no more to do on what it wrote.

  Main declarations:
    * `Naming.Apart`, `Naming.isChain_snakeFrom`
    * `Naming.IsSnakeForm`, `Naming.isSnakeForm_snakeCase`
    * `Naming.snakeFrom_of_chain`
    * `Naming.snakeCase_of_isSnakeForm`
    * `Naming.snakeCase_normal_form`
-/

------------------------------------------------------------
-- Single Underscores
------------------------------------------------------------

namespace RamlScaffold.Naming

open RamlScaffold.Alphabet

/- Of two neighbours at most one is an underscore. -/
def Apart (c d : Char) : Prop :=
  c ≠ '_' ∨ d ≠ '_'

/- That is, no two underscores stand next to each other. -/
theorem isChain_apart_iff (text : List Char) :
    text.IsChain Apart ↔ ¬['_', '_'] <:+: text := by
  constructor
  · intro hChain hTwo
    rcases hTwo with ⟨front, back, rfl⟩
    have hPair : List.IsChain Apart ['_', '_'] :=
      hChain.left_of_append.right_of_append
    rcases hPair.rel with hOther | hOther
    · exact hOther rfl
    · exact hOther rfl
  · intro hSingle
    induction text with
    | nil => exact List.IsChain.nil
    | cons c rest ih =>
        refine (ih ?_).cons ?_
        · intro hTwo
          exact
            hSingle (hTwo.trans (List.suffix_cons c rest).isInfix)
        · intro d hHead
          by_cases hUnderscore : c = '_'
          · refine Or.inr ?_
            rintro rfl
            rcases List.head?_eq_some_iff.mp hHead with
              ⟨others, rfl⟩
            subst hUnderscore
            exact
              hSingle
                (List.prefix_append ['_', '_'] others).isInfix
          · exact Or.inl hUnderscore

/- Characters of words may stand in front of any text. -/
theorem isChain_plain_append
    {front back : List Char}
    (hFront : ∀ c ∈ front, c ≠ '_')
    (hBack : back.IsChain Apart) :
    (front ++ back).IsChain Apart := by
  induction front with
  | nil => exact hBack
  | cons c front ih =>
      rw [List.forall_mem_cons] at hFront
      rw [List.cons_append]
      exact (ih hFront.2).cons (fun _ _ => Or.inl hFront.1)

/- So may a separator, where such a character follows it. -/
theorem isChain_separator_append
    (mark : Mark)
    (nextIsCapital : Bool)
    {written back : List Char}
    (hSome : written ≠ [])
    (hWritten : ∀ c ∈ written, c ≠ '_')
    (hBack : back.IsChain Apart) :
    (mark.separator nextIsCapital ++
      (written ++ back)).IsChain Apart := by
  have hRest := isChain_plain_append hWritten hBack
  unfold Mark.separator
  split
  · refine hRest.cons ?_
    intro d hHead
    cases written with
    | nil => exact absurd rfl hSome
    | cons first others =>
        rw [List.forall_mem_cons] at hWritten
        cases hHead
        exact Or.inr hWritten.1
  · exact hRest

/- Small forms of the characters of words hold no underscore. -/
theorem ne_underscore_of_mem_lower
    {c d : Char}
    (hWord : isAlphanumeric c = true)
    (hMem : d ∈ lower c) :
    d ≠ '_' := by
  have hMark : '_' ∈ marks := by decide
  exact
    ne_of_mem_lower hMark (ne_of_isAlphanumeric hMark hWord) hMem

/-
  Whatever stands before the text, no two underscores are
  written next to each other.
-/
theorem isChain_snakeFrom
    (mark : Mark)
    (text : List Char) :
    (snakeFrom mark text).IsChain Apart := by
  induction text generalizing mark with
  | nil => exact List.IsChain.nil
  | cons c rest ih =>
      by_cases hWord : isAlphanumeric c = true
      · by_cases hCapital : isCapital c = true
        · rw [snakeFrom_cons_capital hWord hCapital]
          exact
            isChain_separator_append mark true (lower_ne_nil c)
              (fun d hd => ne_underscore_of_mem_lower hWord hd)
              (ih .capital)
        · have hPlain : ∀ d ∈ [c], d ≠ '_' := by
            intro d hd
            rw [List.mem_singleton.mp hd]
            exact ne_of_isAlphanumeric (by decide) hWord
          rw [Bool.not_eq_true] at hCapital
          rw [snakeFrom_cons_small hWord hCapital]
          exact
            isChain_separator_append mark false
              (List.cons_ne_nil c []) hPlain (ih .small)
      · rw [Bool.not_eq_true] at hWord
        rw [snakeFrom_cons_gap hWord]
        exact ih mark.skip

end RamlScaffold.Naming

------------------------------------------------------------
-- The Form
------------------------------------------------------------

namespace RamlScaffold.Naming

open RamlScaffold.Alphabet

/-
  Words with single underscores between them: there is a word,
  and every underscore stands between two.
-/
structure IsSnakeForm (text : String) : Prop where
  nonempty : text ≠ ""
  front : text.toList.head? ≠ some '_'
  back : text.toList.getLast? ≠ some '_'
  single : ¬['_', '_'] <:+: text.toList

/- Snake case of a text is what is written from its start. -/
theorem snakeChars_of_some
    {text : List Char}
    (hSome : snakeFrom .start text ≠ []) :
    snakeChars text = snakeFrom .start text := by
  unfold snakeChars
  split
  · next hNone => exact absurd hNone hSome
  · rfl

/- A text with a letter or a numeral is written in form. -/
theorem isSnakeForm_snakeCase
    {text : String}
    (hWord : HasWord text) :
    IsSnakeForm (snakeCase text) := by
  have hSome : snakeFrom .start text.toList ≠ [] := by
    rw [ne_eq, snakeFrom_eq_nil_iff, ← not_hasWord_iff]
    exact not_not_intro hWord
  rw [snakeCase, snakeChars_of_some hSome]
  refine ⟨?_, ?_, ?_, ?_⟩
  · rw [ne_eq, String.ofList_eq_empty_iff]
    exact hSome
  · rw [String.toList_ofList]
    exact head?_snakeFrom_ne text.toList
  · rw [String.toList_ofList]
    exact getLast?_snakeFrom_ne .start text.toList
  · rw [String.toList_ofList, ← isChain_apart_iff]
    exact isChain_snakeFrom .start text.toList

end RamlScaffold.Naming

------------------------------------------------------------
-- Texts In Form
------------------------------------------------------------

namespace RamlScaffold.Naming

open RamlScaffold.Alphabet

/- A small letter or digit is written as it is. -/
theorem small_of_isModuleChar
    {c : Char}
    (hChar : isModuleChar c = true)
    (hOther : c ≠ '_') :
    isAlphanumeric c = true ∧ isCapital c = false := by
  have hCases : c.isLower = true ∨ c.isDigit = true := by
    simpa [isModuleChar, hOther] using hChar
  rcases hCases with hLower | hDigit
  · exact small_of_isLower hLower
  · have hAscii := isAscii_of_cases (Or.inr hDigit)
    rw [isAlphanumeric_of_isAscii hAscii,
      isCapital_of_isAscii hAscii]
    exact
      ⟨isAlphanum_of_cases (Or.inr hDigit),
        of_isAscii
          (p := fun d => d.isDigit = true → d.isUpper = false)
          (by decide) hAscii hDigit⟩

/-
  Behind a written character a text in form is written as it
  stands.  An underscore is read as a gap and comes back in
  front of the character behind it, so the two of them are
  taken together.
-/
theorem snakeFrom_of_chain
    {text : List Char}
    (hChars : ∀ c ∈ text, isModuleChar c = true)
    (hChain : text.IsChain Apart)
    (hBack : text.getLast? ≠ some '_') :
    snakeFrom .small text = text := by
  induction text with
  | nil => rfl
  | cons c rest ih =>
      rw [List.forall_mem_cons] at hChars
      rw [List.isChain_cons] at hChain
      have hRest : snakeFrom .small rest = rest := by
        refine ih hChars.2 hChain.2 ?_
        intro hLast
        apply hBack
        rw [List.getLast?_cons, hLast]
        rfl
      by_cases hUnderscore : c = '_'
      · subst hUnderscore
        cases rest with
        | nil => exact absurd rfl hBack
        | cons d others =>
            have hOther : d ≠ '_' :=
              (hChain.1 d rfl).resolve_left (fun hNo => hNo rfl)
            rcases small_of_isModuleChar
                (hChars.2 d List.mem_cons_self) hOther with
              ⟨hWord, hSmall⟩
            rw [snakeFrom_cons_small hWord hSmall] at hRest
            rw [snakeFrom_cons_gap isAlphanumeric_underscore,
              snakeFrom_cons_small hWord hSmall]
            exact congrArg ('_' :: ·) hRest
      · rcases small_of_isModuleChar hChars.1 hUnderscore with
          ⟨hWord, hSmall⟩
        rw [snakeFrom_cons_small hWord hSmall, hRest]
        rfl

/- Small letters and digits in form are their own snake case. -/
theorem snakeCase_of_isSnakeForm
    {text : String}
    (hForm : IsSnakeForm text)
    (hChars : ∀ c ∈ text.toList, isModuleChar c = true) :
    snakeCase text = text := by
  have hChain := (isChain_apart_iff text.toList).mpr hForm.single
  have hSmall := snakeFrom_of_chain hChars hChain hForm.back
  have hStart : snakeFrom .start text.toList = text.toList := by
    cases hText : text.toList with
    | nil => rfl
    | cons c rest =>
        have hFront := hForm.front
        rw [hText] at hFront hChars hSmall
        have hOther : c ≠ '_' := by
          rintro rfl
          exact hFront rfl
        rcases small_of_isModuleChar
            (hChars c List.mem_cons_self) hOther with
          ⟨hWord, hCapital⟩
        rw [snakeFrom_cons_small hWord hCapital] at hSmall ⊢
        exact hSmall
  have hSome : snakeFrom .start text.toList ≠ [] := by
    rw [hStart, ne_eq, String.toList_eq_nil_iff]
    exact hForm.nonempty
  rw [snakeCase, snakeChars_of_some hSome, hStart,
    String.ofList_toList]

/- A lone underscore stands for texts without words. -/
theorem snakeCase_eq_underscore_iff (text : String) :
    snakeCase text = "_" ↔ ¬HasWord text := by
  constructor
  · intro hLone hWord
    have hForm := isSnakeForm_snakeCase hWord
    rw [hLone] at hForm
    exact hForm.front rfl
  · intro hNone
    rw [not_hasWord_iff] at hNone
    rw [snakeCase, snakeChars_of_no_words hNone]

/- All that snake case makes of a text. -/
theorem snakeCase_cases (text : String) :
    snakeCase text = "_" ∨ IsSnakeForm (snakeCase text) := by
  by_cases hWord : HasWord text
  · exact Or.inr (isSnakeForm_snakeCase hWord)
  · exact Or.inl ((snakeCase_eq_underscore_iff text).mpr hWord)

/- What an ASCII text becomes is plain. -/
theorem isModuleChar_of_mem_snakeCase
    {text : String}
    (hText : IsAsciiText text) :
    ∀ c ∈ (snakeCase text).toList, isModuleChar c = true := by
  intro c hMem
  rw [snakeCase, String.toList_ofList] at hMem
  exact isModuleChar_of_mem_snakeChars hText hMem

/- Snake case leaves those texts alone that are in form. -/
theorem snakeCase_eq_self_iff
    {text : String}
    (hText : IsAsciiText text) :
    snakeCase text = text ↔
      text = "_" ∨
        IsSnakeForm text ∧
          ∀ c ∈ text.toList, isModuleChar c = true := by
  constructor
  · intro hSame
    have hChars := isModuleChar_of_mem_snakeCase hText
    rw [hSame] at hChars
    rcases snakeCase_cases text with hLone | hForm
    · exact Or.inl (hSame.symm.trans hLone)
    · rw [hSame] at hForm
      exact Or.inr ⟨hForm, hChars⟩
  · intro hCases
    rcases hCases with rfl | ⟨hForm, hChars⟩
    · decide
    · exact snakeCase_of_isSnakeForm hForm hChars

/-
  The normal form of snake case.

  A text without letters and numerals becomes a lone
  underscore, and any other becomes words with single
  underscores between them.  For an ASCII text these are words
  of small letters and digits, and snake case leaves them, and
  no other ASCII text, as they are.
-/
theorem snakeCase_normal_form (text : String) :
    (snakeCase text = "_" ↔ ¬HasWord text) ∧
      (HasWord text → IsSnakeForm (snakeCase text)) ∧
      (IsAsciiText text →
        (∀ c ∈ (snakeCase text).toList,
          c.isLower = true ∨ c.isDigit = true ∨ c = '_') ∧
        snakeCase (snakeCase text) = snakeCase text ∧
        (snakeCase text = text ↔
          text = "_" ∨
            IsSnakeForm text ∧
              ∀ c ∈ text.toList, isModuleChar c = true)) := by
  refine
    ⟨snakeCase_eq_underscore_iff text, isSnakeForm_snakeCase, ?_⟩
  intro hText
  have hChars := isModuleChar_of_mem_snakeCase hText
  refine ⟨?_, ?_, snakeCase_eq_self_iff hText⟩
  · intro c hMem
    simpa [isModuleChar, or_assoc] using hChars c hMem
  · rcases snakeCase_cases text with hLone | hForm
    · rw [hLone]
      decide
    · exact snakeCase_of_isSnakeForm hForm hChars

theorem snakeCase_of_mixed_name :
    IsSnakeForm (snakeCase "HTTPServer--v2Api_") ∧
      snakeCase "HTTPServer--v2Api_" = "httpserver_v2_api" ∧
      snakeCase "httpserver_v2_api" = "httpserver_v2_api" := by
  have hForm := snakeCase_normal_form "HTTPServer--v2Api_"
  have hSnake :
      snakeCase "HTTPServer--v2Api_" = "httpserver_v2_api" := by
    decide
  have hAgain := (hForm.2.2 (by decide)).2.1
  rw [hSnake] at hAgain
  exact ⟨hForm.2.1 (by decide), hSnake, hAgain⟩

end RamlScaffold.Naming
