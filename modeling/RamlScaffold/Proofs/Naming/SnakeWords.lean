import RamlScaffold.Proofs.Naming.Ascii
import RamlScaffold.Proofs.Naming.SnakeCase

/-
  Snake case of ASCII texts.

  What is written in snake case has no capitals any more, so a
  second reading finds an underscore where one stands and
  nowhere else, and leaves the text as it is.

  Main declarations:
    * `Naming.snakeFrom_eq_nil_iff`
    * `Naming.isModuleChar_of_mem_snakeChars`
    * `Naming.head_snakeFrom`
    * `Naming.snakeChars_snakeChars`
-/

------------------------------------------------------------
-- Texts Without Words
------------------------------------------------------------

namespace RamlScaffold.Naming

open RamlScaffold.Alphabet

/- Nothing is written only where there is nothing to write. -/
theorem snakeFrom_eq_nil_iff
    (mark : Mark)
    (text : List Char) :
    snakeFrom mark text = [] ↔
      ∀ c ∈ text, isAlphanumeric c = false := by
  induction text generalizing mark with
  | nil => simp [snakeFrom]
  | cons c rest ih =>
      rw [List.forall_mem_cons]
      by_cases hWord : isAlphanumeric c = true
      · by_cases hCapital : isCapital c = true
        · rw [snakeFrom_cons_capital hWord hCapital]
          simp [hWord, lower_ne_nil c]
        · rw [Bool.not_eq_true] at hCapital
          rw [snakeFrom_cons_small hWord hCapital]
          simp [hWord]
      · rw [Bool.not_eq_true] at hWord
        rw [snakeFrom_cons_gap hWord, ih]
        simp [hWord]

theorem snakeChars_of_no_words
    {text : List Char}
    (hText : ∀ c ∈ text, isAlphanumeric c = false) :
    snakeChars text = ['_'] := by
  unfold snakeChars
  rw [(snakeFrom_eq_nil_iff .start text).mpr hText]

theorem snakeChars_ne_nil (text : List Char) :
    snakeChars text ≠ [] := by
  unfold snakeChars
  split
  · exact List.cons_ne_nil _ _
  · next hSome => exact hSome

end RamlScaffold.Naming

------------------------------------------------------------
-- Characters
------------------------------------------------------------

namespace RamlScaffold.Naming

open RamlScaffold.Alphabet

variable
  {text : List Char}
  (hText : ∀ c ∈ text, isAscii c = true)
include hText

/- A snake-case text holds small letters and digits. -/
theorem isModuleChar_of_mem_snakeChars
    {d : Char}
    (hMem : d ∈ snakeChars text) :
    isModuleChar d = true := by
  unfold snakeChars at hMem
  split at hMem
  · rw [List.mem_singleton.mp hMem]
    decide
  · exact isModuleChar_of_mem_snakeFrom hText hMem

/- It starts with one, unless it is a lone underscore. -/
theorem head_snakeFrom
    {c : Char}
    {rest : List Char}
    (hSnake : snakeFrom .start text = c :: rest) :
    c.isLower = true ∨ c.isDigit = true := by
  induction text with
  | nil => cases hSnake
  | cons d others ih =>
      have hAscii := hText d List.mem_cons_self
      by_cases hWord : isAlphanumeric d = true
      · by_cases hCapital : isCapital d = true
        · rw [snakeFrom_cons_capital hWord hCapital,
            lower_of_isAscii hAscii] at hSnake
          rw [isCapital_of_isAscii hAscii] at hCapital
          rw [← (List.cons.inj hSnake).1]
          exact Or.inl (isLower_toLower hCapital)
        · rw [Bool.not_eq_true] at hCapital
          rw [snakeFrom_cons_small hWord hCapital] at hSnake
          rw [isCapital_of_isAscii hAscii] at hCapital
          rw [isAlphanumeric_of_isAscii hAscii] at hWord
          rw [← (List.cons.inj hSnake).1]
          exact isLower_or_isDigit hWord hCapital
      · rw [Bool.not_eq_true] at hWord
        rw [snakeFrom_cons_gap hWord] at hSnake
        exact
          ih (fun e he => hText e (List.mem_cons_of_mem d he))
            hSnake

end RamlScaffold.Naming

------------------------------------------------------------
-- The Second Reading
------------------------------------------------------------

namespace RamlScaffold.Naming

open RamlScaffold.Alphabet

/- What stands before a place when it is read again. -/
def Mark.again : Mark → Mark
  | .start => .start
  | _ => .small

/- The separator is no letter. -/
theorem isAlphanumeric_underscore :
    isAlphanumeric '_' = false := by
  decide

/- A small letter is written behind the same separator. -/
theorem snakeFrom_separator_append
    {d : Char}
    (hWord : isAlphanumeric d = true)
    (hSmall : isCapital d = false)
    (mark : Mark)
    (nextIsCapital : Bool)
    (rest : List Char) :
    snakeFrom mark.again
        (mark.separator nextIsCapital ++ d :: rest) =
      mark.separator nextIsCapital ++
        d :: snakeFrom .small rest := by
  cases hParts : mark.parts nextIsCapital with
  | true =>
      -- An underscore stands behind some text only.
      have hAgain : mark.again = .small := by
        cases mark with
        | start => cases hParts
        | small => rfl
        | capital => rfl
        | gap => rfl
      have hSeparator : mark.separator nextIsCapital = ['_'] :=
        if_pos hParts
      rw [hSeparator, hAgain, List.singleton_append,
        snakeFrom_cons_gap isAlphanumeric_underscore,
        snakeFrom_cons_small hWord hSmall]
      rfl
  | false =>
      have hSeparator : mark.separator nextIsCapital = [] := by
        simp [Mark.separator, hParts]
      have hAgain : mark.again.separator false = [] := by
        cases mark <;> rfl
      rw [hSeparator, List.nil_append,
        snakeFrom_cons_small hWord hSmall, hAgain]

theorem small_of_isLower
    {c : Char}
    (hLower : c.isLower = true) :
    isAlphanumeric c = true ∧ isCapital c = false := by
  have hWord : c.isAlphanum = true :=
    Bool.or_eq_true_iff.mpr (Or.inl (isAlpha_of_isLower hLower))
  have hAscii := isAscii_of_isAlphanum hWord
  rw [isAlphanumeric_of_isAscii hAscii,
    isCapital_of_isAscii hAscii]
  exact
    ⟨hWord,
      of_isAscii
        (p := fun d => d.isLower = true → d.isUpper = false)
        (by decide) hAscii hLower⟩

/- The second reading writes what the first one wrote. -/
theorem snakeFrom_snakeFrom
    {text : List Char}
    (hText : ∀ c ∈ text, isAscii c = true)
    (mark : Mark) :
    snakeFrom mark.again (snakeFrom mark text) =
      snakeFrom mark text := by
  induction text generalizing mark with
  | nil => rfl
  | cons c rest ih =>
      have hAscii := hText c List.mem_cons_self
      have hRest (next : Mark) :=
        ih (fun d hd => hText d (List.mem_cons_of_mem c hd)) next
      by_cases hWord : isAlphanumeric c = true
      · by_cases hCapital : isCapital c = true
        · have hLower :=
            small_of_isLower
              (isLower_toLower
                (isCapital_of_isAscii hAscii ▸ hCapital))
          rw [snakeFrom_cons_capital hWord hCapital,
            lower_of_isAscii hAscii, List.singleton_append,
            snakeFrom_separator_append hLower.1 hLower.2]
          exact congrArg _ (congrArg _ (hRest .capital))
        · rw [Bool.not_eq_true] at hCapital
          rw [snakeFrom_cons_small hWord hCapital,
            snakeFrom_separator_append hWord hCapital]
          exact congrArg _ (congrArg _ (hRest .small))
      · rw [Bool.not_eq_true] at hWord
        have hSkip : mark.skip.again = mark.again := by
          cases mark <;> rfl
        rw [snakeFrom_cons_gap hWord, ← hSkip]
        exact hRest mark.skip

/- A text in snake case is its own snake case. -/
theorem snakeChars_snakeChars
    {text : List Char}
    (hText : ∀ c ∈ text, isAscii c = true) :
    snakeChars (snakeChars text) = snakeChars text := by
  cases hSnake : snakeFrom .start text with
  | nil =>
      have hLone : snakeChars text = ['_'] := by
        rw [snakeChars, hSnake]
      rw [hLone]
      apply snakeChars_of_no_words
      intro c hMem
      rw [List.mem_singleton.mp hMem]
      exact isAlphanumeric_underscore
  | cons c rest =>
      have hSame : snakeChars text = snakeFrom .start text := by
        rw [snakeChars, hSnake]
      have hAgain :
          snakeFrom .start (snakeFrom .start text) =
            snakeFrom .start text :=
        snakeFrom_snakeFrom hText .start
      rw [hSame, snakeChars, hAgain, hSnake]

end RamlScaffold.Naming
