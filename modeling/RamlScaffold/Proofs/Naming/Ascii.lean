import RamlScaffold.Proofs.Naming.Identifier

/-
  What identifiers and their snake case look like where names
  and paths are plain ASCII.

  An identifier is a capital letter with letters and digits
  behind it, whatever path it is made of, and in snake case it
  is a word that may stand for a module.

  Main declarations:
    * `Alphabet.of_isAscii`, `Alphabet.IsAsciiText`
    * `Naming.IsExported`, `Naming.isExported_normalize`
    * `Naming.IsModuleWord`
    * `Naming.isModuleWord_snakeCase`
-/

------------------------------------------------------------
-- ASCII Characters
------------------------------------------------------------

namespace RamlScaffold.Alphabet

/- What holds of the first 128 characters holds of ASCII. -/
theorem of_isAscii
    {p : Char → Prop}
    (hTried : ∀ n : Fin 128, p (Char.ofNat n))
    {c : Char}
    (hAscii : isAscii c = true) :
    p c := by
  have hCode : c.toNat < 128 := by
    simpa [isAscii] using hAscii
  have hTest := hTried ⟨c.toNat, hCode⟩
  simp only [Char.ofNat_toNat] at hTest
  exact hTest

/- A text of ASCII characters only. -/
def IsAsciiText (text : String) : Prop :=
  ∀ c ∈ text.toList, isAscii c = true

theorem all_isAscii_iff (text : String) :
    text.toList.all isAscii = true ↔ IsAsciiText text := by
  simp [IsAsciiText]

instance (text : String) : Decidable (IsAsciiText text) :=
  decidable_of_iff _ (all_isAscii_iff text)

theorem isAscii_of_isAlphanum
    {c : Char}
    (hWord : c.isAlphanum = true) :
    isAscii c = true := by
  apply decide_eq_true
  rcases Bool.or_eq_true_iff.mp hWord with hLetter | hDigit
  · rcases Bool.or_eq_true_iff.mp hLetter with hCapital | hSmall
    · have hLast : c.val ≤ 'Z'.val :=
        (of_decide_eq_true hCapital).2
      exact Nat.lt_of_le_of_lt hLast (by decide)
    · have hLast : c.val ≤ 'z'.val :=
        of_decide_eq_true (Bool.and_eq_true_iff.mp hSmall).2
      exact Nat.lt_of_le_of_lt hLast (by decide)
  · have hLast : c.val ≤ '9'.val :=
      of_decide_eq_true (Bool.and_eq_true_iff.mp hDigit).2
    exact Nat.lt_of_le_of_lt hLast (by decide)

/- Within ASCII a word is made of letters and digits. -/
theorem isAlphanumeric_of_isAscii
    {c : Char}
    (hAscii : isAscii c = true) :
    isAlphanumeric c = c.isAlphanum := by
  simp [isAlphanumeric, isLetter, isNumeral, hAscii,
    Char.isAlphanum]

theorem isCapital_of_isAscii
    {c : Char}
    (hAscii : isAscii c = true) :
    isCapital c = c.isUpper :=
  if_pos hAscii

theorem upper_of_isAscii
    {c : Char}
    (hAscii : isAscii c = true) :
    upper c = [c.toUpper] :=
  if_pos hAscii

theorem lower_of_isAscii
    {c : Char}
    (hAscii : isAscii c = true) :
    lower c = [c.toLower] :=
  if_pos hAscii

theorem isAlphanum_of_cases
    {c : Char}
    (hCases : c.isUpper = true ∨ c.isDigit = true) :
    c.isAlphanum = true := by
  rcases hCases with hCapital | hDigit
  · have hLetter : c.isAlpha = true :=
      Bool.or_eq_true_iff.mpr (Or.inl hCapital)
    exact Bool.or_eq_true_iff.mpr (Or.inl hLetter)
  · exact Bool.or_eq_true_iff.mpr (Or.inr hDigit)

theorem isAscii_of_cases
    {c : Char}
    (hCases : c.isUpper = true ∨ c.isDigit = true) :
    isAscii c = true :=
  isAscii_of_isAlphanum (isAlphanum_of_cases hCases)

theorem isAlpha_of_isLower
    {c : Char}
    (hLower : c.isLower = true) :
    c.isAlpha = true :=
  Bool.or_eq_true_iff.mpr (Or.inr hLower)

theorem isAscii_of_isLower
    {c : Char}
    (hLower : c.isLower = true) :
    isAscii c = true :=
  isAscii_of_isAlphanum
    (Bool.or_eq_true_iff.mpr (Or.inl (isAlpha_of_isLower hLower)))

/- The capital form of a digit is the digit. -/
theorem toUpper_cases
    {c : Char}
    (hWord : c.isAlphanum = true) :
    c.toUpper.isUpper = true ∨ c.toUpper.isDigit = true :=
  of_isAscii
    (p := fun d =>
      d.isAlphanum = true →
        d.toUpper.isUpper = true ∨ d.toUpper.isDigit = true)
    (by decide) (isAscii_of_isAlphanum hWord) hWord

theorem isLower_toLower
    {c : Char}
    (hCapital : c.isUpper = true) :
    c.toLower.isLower = true :=
  of_isAscii
    (p := fun d => d.isUpper = true → d.toLower.isLower = true)
    (by decide) (isAscii_of_cases (Or.inl hCapital)) hCapital

/- A letter that is no capital is a small one. -/
theorem isLower_or_isDigit
    {c : Char}
    (hWord : c.isAlphanum = true)
    (hSmall : c.isUpper = false) :
    c.isLower = true ∨ c.isDigit = true :=
  of_isAscii
    (p := fun d =>
      d.isAlphanum = true → d.isUpper = false →
        d.isLower = true ∨ d.isDigit = true)
    (by decide) (isAscii_of_isAlphanum hWord) hWord hSmall

end RamlScaffold.Alphabet

------------------------------------------------------------
-- Identifiers
------------------------------------------------------------

namespace RamlScaffold.Naming

open RamlScaffold.Alphabet

/- A title-cased word starts with a capital or a digit. -/
theorem titleCase_cons
    {c : Char}
    (hWord : c.isAlphanum = true)
    (rest : List Char) :
    ∃ first,
      titleCase (c :: rest) = first :: rest ∧
        (first.isUpper = true ∨ first.isDigit = true) := by
  have hAscii := isAscii_of_isAlphanum hWord
  refine ⟨c.toUpper, ?_, ?_⟩
  · rw [titleCase, upper_of_isAscii hAscii]
    rfl
  · exact toUpper_cases hWord

/- The words of an ASCII text hold letters and digits. -/
theorem isAlphanum_of_mem_words
    {text word : List Char}
    (hText : ∀ c ∈ text, isAscii c = true)
    (hWord : word ∈ Text.words isAlphanumeric text)
    {c : Char}
    (hMem : c ∈ word) :
    c.isAlphanum = true := by
  have hAscii := hText c (Text.mem_of_mem_words hWord hMem)
  rw [← isAlphanumeric_of_isAscii hAscii]
  exact Text.isWordChar_of_mem_words hWord hMem

theorem isAlphanum_of_mem_joinedWords
    {text : List Char}
    (hText : ∀ c ∈ text, isAscii c = true)
    {c : Char}
    (hMem : c ∈ joinedWords text) :
    c.isAlphanum = true := by
  rcases List.mem_flatMap.mp hMem with ⟨word, hWord, hTitle⟩
  have hPlain (d : Char) (hd : d ∈ word) : d.isAlphanum = true :=
    isAlphanum_of_mem_words hText hWord hd
  cases word with
  | nil => cases hTitle
  | cons first rest =>
      rcases titleCase_cons (hPlain first List.mem_cons_self)
          rest with
        ⟨head, hCons, hHead⟩
      rw [hCons] at hTitle
      rcases List.mem_cons.mp hTitle with rfl | hRest
      · exact isAlphanum_of_cases hHead
      · exact hPlain c (List.mem_cons_of_mem first hRest)

/- What starts with a capital or a digit, if it starts at all. -/
theorem head_joinedWords
    {text : List Char}
    (hText : ∀ c ∈ text, isAscii c = true)
    {c : Char}
    {rest : List Char}
    (hJoined : joinedWords text = c :: rest) :
    c.isUpper = true ∨ c.isDigit = true := by
  unfold joinedWords at hJoined
  cases hWords : Text.words isAlphanumeric text with
  | nil =>
      rw [hWords] at hJoined
      cases hJoined
  | cons word others =>
      have hWord : word ∈ Text.words isAlphanumeric text := by
        rw [hWords]
        exact List.mem_cons_self
      cases word with
      | nil => exact absurd rfl (Text.ne_nil_of_mem_words hWord)
      | cons first letters =>
          rcases titleCase_cons
              (isAlphanum_of_mem_words hText hWord
                List.mem_cons_self)
              letters with
            ⟨head, hCons, hHead⟩
          rw [hWords, List.flatMap_cons, hCons] at hJoined
          rw [← (List.cons.inj hJoined).1]
          exact hHead

/- A capital letter with letters and digits behind it. -/
def IsExported (text : String) : Prop :=
  ∃ c rest,
    text.toList = c :: rest ∧
      c.isUpper = true ∧
      ∀ d ∈ rest, d.isAlphanum = true

theorem IsExported.append
    {front : String}
    (hFront : IsExported front)
    {back : String}
    (hBack : ∀ c ∈ back.toList, c.isAlphanum = true) :
    IsExported (front ++ back) := by
  rcases hFront with ⟨c, rest, hText, hCapital, hRest⟩
  refine ⟨c, rest ++ back.toList, ?_, hCapital, ?_⟩
  · rw [String.toList_append, hText]
    rfl
  · intro d hd
    rcases List.mem_append.mp hd with hd | hd
    · exact hRest d hd
    · exact hBack d hd

/- The identifier of an ASCII path is exported in Go. -/
theorem isExported_normalize
    {path : String}
    (hPath : IsAsciiText path) :
    IsExported (normalize path none) := by
  unfold IsExported normalize pathIdentifier
  rw [String.toList_ofList, List.append_nil]
  cases hJoined : joinedWords path.toList with
  | nil =>
      refine ⟨'R', ['o', 'o', 't'], rfl, by decide, ?_⟩
      exact Alphabet.forall_mem_of_all (by decide)
  | cons c rest =>
      have hLetters (d : Char) (hd : d ∈ c :: rest) :
          d.isAlphanum = true := by
        rw [← hJoined] at hd
        exact isAlphanum_of_mem_joinedWords hPath hd
      dsimp only
      split
      · exact ⟨'N', c :: rest, rfl, by decide, hLetters⟩
      · next hDigit =>
          have hHead := head_joinedWords hPath hJoined
          exact
            ⟨c, rest, rfl, hHead.resolve_right hDigit,
              fun d hd =>
                hLetters d (List.mem_cons_of_mem c hd)⟩

end RamlScaffold.Naming

------------------------------------------------------------
-- Words For Modules
------------------------------------------------------------

namespace RamlScaffold.Naming

open RamlScaffold.Alphabet

/- A character that may stand inside the name of a module. -/
def isModuleChar (c : Char) : Bool :=
  c.isLower || c.isDigit || c == '_'

/-
  A small ASCII letter with small letters, digits and
  underscores behind it.
-/
def IsModuleWord (text : String) : Prop :=
  ∃ c rest,
    text.toList = c :: rest ∧
      c.isLower = true ∧
      ∀ d ∈ rest, isModuleChar d = true

theorem IsModuleWord.append
    {front : String}
    (hFront : IsModuleWord front)
    {back : String}
    (hBack : ∀ c ∈ back.toList, isModuleChar c = true) :
    IsModuleWord (front ++ back) := by
  rcases hFront with ⟨c, rest, hText, hSmall, hRest⟩
  refine ⟨c, rest ++ back.toList, ?_, hSmall, ?_⟩
  · rw [String.toList_append, hText]
    rfl
  · intro d hd
    rcases List.mem_append.mp hd with hd | hd
    · exact hRest d hd
    · exact hBack d hd

/- Within ASCII what is written in snake case is plain. -/
theorem isModuleChar_of_mem_snakeFrom
    {text : List Char}
    (hText : ∀ c ∈ text, isAscii c = true)
    {mark : Mark}
    {d : Char}
    (hMem : d ∈ snakeFrom mark text) :
    isModuleChar d = true := by
  induction text generalizing mark with
  | nil => cases hMem
  | cons c rest ih =>
      have hAscii := hText c List.mem_cons_self
      have hRest (next : Mark) (hd : d ∈ snakeFrom next rest) :
          isModuleChar d = true :=
        ih (fun e he => hText e (List.mem_cons_of_mem c he)) hd
      by_cases hWord : isAlphanumeric c = true
      · by_cases hCapital : isCapital c = true
        · rw [snakeFrom_cons_capital hWord hCapital,
            List.mem_append, List.mem_append,
            lower_of_isAscii hAscii, List.mem_singleton] at hMem
          rw [isCapital_of_isAscii hAscii] at hCapital
          rcases hMem with hPart | rfl | hMem
          · rw [Mark.eq_of_mem_separator hPart]
            decide
          · simp [isModuleChar, isLower_toLower hCapital]
          · exact hRest _ hMem
        · rw [Bool.not_eq_true] at hCapital
          rw [snakeFrom_cons_small hWord hCapital,
            List.mem_append, List.mem_cons] at hMem
          rw [isCapital_of_isAscii hAscii] at hCapital
          rw [isAlphanumeric_of_isAscii hAscii] at hWord
          rcases hMem with hPart | rfl | hMem
          · rw [Mark.eq_of_mem_separator hPart]
            decide
          · rcases isLower_or_isDigit hWord hCapital with
              hLower | hDigit
            · simp [isModuleChar, hLower]
            · simp [isModuleChar, hDigit]
          · exact hRest _ hMem
      · rw [Bool.not_eq_true] at hWord
        rw [snakeFrom_cons_gap hWord] at hMem
        exact hRest _ hMem

/- An exported identifier becomes a word for a module. -/
theorem isModuleWord_snakeCase
    {text : String}
    (hText : IsExported text) :
    IsModuleWord (snakeCase text) := by
  rcases hText with ⟨c, rest, hList, hCapital, hRest⟩
  have hLetter : c.isAlphanum = true :=
    isAlphanum_of_cases (Or.inl hCapital)
  have hAscii := isAscii_of_isAlphanum hLetter
  have hWord : isAlphanumeric c = true := by
    rw [isAlphanumeric_of_isAscii hAscii]
    exact hLetter
  have hUpper : isCapital c = true := by
    rw [isCapital_of_isAscii hAscii]
    exact hCapital
  have hSnake :
      snakeFrom .start (c :: rest) =
        c.toLower :: snakeFrom .capital rest := by
    rw [snakeFrom_cons_capital hWord hUpper,
      lower_of_isAscii hAscii]
    rfl
  refine
    ⟨c.toLower, snakeFrom .capital rest, ?_,
      isLower_toLower hCapital, ?_⟩
  · rw [snakeCase, String.toList_ofList, snakeChars, hList,
      hSnake]
  · intro d hd
    exact
      isModuleChar_of_mem_snakeFrom
        (fun e he => isAscii_of_isAlphanum (hRest e he)) hd

end RamlScaffold.Naming
