import RamlScaffold.Proofs.Language.SharedMembers

/-
  The names of parameters that are made of the names in paths.

  A parameter of Go is the words of a name, the first of them
  with a small letter, and a parameter of Rust is the name in
  snake case.  Neither is guarded, so a name that starts with
  a digit or reads like a reserved word makes no identifier.

  Main declarations:
    * `Naming.StartsWithDigit`, `Naming.StartsWithLetter`
    * `Naming.camelWords`, `Naming.lowerCamel_eq`
    * `Naming.lowerCamel_inj`
    * `Language.goKeywords`, `Language.IsIdentifier`
    * `Language.isIdentifier_lowerCamel_iff`
    * `Language.isIdentifier_snakeCase_iff`
-/

------------------------------------------------------------
-- First Characters
------------------------------------------------------------

namespace RamlScaffold.Alphabet

/- A capital, or a digit, comes back from its small form. -/
theorem toUpper_toLower
    {c : Char}
    (hCases : c.isUpper = true ∨ c.isDigit = true) :
    c.toLower.toUpper = c :=
  of_isAscii
    (p := fun d =>
      d.isUpper = true ∨ d.isDigit = true →
        d.toLower.toUpper = d)
    (by decide) (isAscii_of_cases hCases) hCases

theorem toLower_toUpper
    {c : Char}
    (hLower : c.isLower = true) :
    c.toUpper.toLower = c :=
  of_isAscii
    (p := fun d => d.isLower = true → d.toUpper.toLower = d)
    (by decide) (isAscii_of_isLower hLower) hLower

/- Digits have one form, and are the form of no other. -/
theorem isDigit_toUpper
    {c : Char}
    (hAscii : isAscii c = true) :
    c.toUpper.isDigit = c.isDigit :=
  of_isAscii (p := fun d => d.toUpper.isDigit = d.isDigit)
    (by decide) hAscii

theorem isDigit_toLower
    {c : Char}
    (hAscii : isAscii c = true) :
    c.toLower.isDigit = c.isDigit :=
  of_isAscii (p := fun d => d.toLower.isDigit = d.isDigit)
    (by decide) hAscii

theorem toLower_of_not_isUpper
    {c : Char}
    (hAscii : isAscii c = true)
    (hSmall : c.isUpper = false) :
    c.toLower = c :=
  of_isAscii (p := fun d => d.isUpper = false → d.toLower = d)
    (by decide) hAscii hSmall

end RamlScaffold.Alphabet

namespace RamlScaffold.Naming

open RamlScaffold.Alphabet

/- Whether the first letter or digit of a text is a digit. -/
def StartsWithDigit (text : String) : Prop :=
  (text.toList.find? isAlphanumeric).any Char.isDigit = true

instance (text : String) : Decidable (StartsWithDigit text) :=
  inferInstanceAs (Decidable (_ = true))

/- Whether a text has a letter or digit, and first a letter. -/
def StartsWithLetter (text : String) : Prop :=
  (text.toList.find? isAlphanumeric).any (!·.isDigit) = true

instance (text : String) : Decidable (StartsWithLetter text) :=
  inferInstanceAs (Decidable (_ = true))

variable
  {text : List Char}
  (hText : ∀ c ∈ text, isAscii c = true)
include hText

/- Words in title form start as the text does, in capitals. -/
theorem head?_joinedWords :
    (joinedWords text).head? =
      (text.find? isAlphanumeric).map Char.toUpper := by
  unfold joinedWords
  cases hWords : Text.words isAlphanumeric text with
  | nil =>
      rw [(Text.words_eq_nil_iff isAlphanumeric text).mp hWords]
      rfl
  | cons word others =>
      have hWord : word ∈ Text.words isAlphanumeric text := by
        rw [hWords]
        exact List.mem_cons_self
      cases word with
      | nil => exact absurd rfl (Text.ne_nil_of_mem_words hWord)
      | cons c letters =>
          have hAscii :=
            hText c (Text.mem_of_mem_words hWord List.mem_cons_self)
          rw [Text.find?_of_words hWords, List.flatMap_cons,
            titleCase, upper_of_isAscii hAscii]
          rfl

/- Snake case starts as the text does, in small letters. -/
theorem head?_snakeFrom :
    (snakeFrom .start text).head? =
      (text.find? isAlphanumeric).map Char.toLower := by
  induction text with
  | nil => rfl
  | cons c rest ih =>
      have hAscii := hText c List.mem_cons_self
      by_cases hWord : isAlphanumeric c = true
      · rw [List.find?_cons_of_pos hWord]
        by_cases hCapital : isCapital c = true
        · rw [snakeFrom_cons_capital hWord hCapital,
            lower_of_isAscii hAscii]
          rfl
        · rw [Bool.not_eq_true] at hCapital
          rw [snakeFrom_cons_small hWord hCapital]
          rw [isCapital_of_isAscii hAscii] at hCapital
          rw [Option.map_some,
            toLower_of_not_isUpper hAscii hCapital]
          rfl
      · rw [List.find?_cons_of_neg hWord]
        rw [Bool.not_eq_true] at hWord
        rw [snakeFrom_cons_gap hWord]
        exact ih (fun d hd => hText d (List.mem_cons_of_mem c hd))

end RamlScaffold.Naming

------------------------------------------------------------
-- Lower Camel Case
------------------------------------------------------------

namespace RamlScaffold.Naming

open RamlScaffold.Alphabet

/- The words of a name in title form, or a word for none. -/
def camelWords (text : String) : List Char :=
  match joinedWords text.toList with
  | [] => ['P', 'a', 'r', 'a', 'm']
  | c :: rest => c :: rest

/-
  What the words of an ASCII name look like in title form.  A
  digit stands in front only if the name starts with one.
-/
structure IsTitled (text : String) (words : List Char) : Prop where
  first :
    ∃ c rest,
      words = c :: rest ∧
        (c.isUpper = true ∧ ¬StartsWithDigit text ∨
          c.isDigit = true ∧ StartsWithDigit text)
  letters : ∀ c ∈ words, c.isAlphanum = true

theorem isTitled_camelWords
    {text : String}
    (hText : IsAsciiText text) :
    IsTitled text (camelWords text) := by
  have hHead := head?_joinedWords hText
  unfold camelWords
  cases hJoined : joinedWords text.toList with
  | nil =>
      rw [hJoined] at hHead
      have hNone : text.toList.find? isAlphanumeric = none :=
        Option.map_eq_none_iff.mp hHead.symm
      have hNoDigit : ¬StartsWithDigit text := by
        simp [StartsWithDigit, hNone]
      exact
        ⟨⟨'P', _, rfl, Or.inl ⟨by decide, hNoDigit⟩⟩,
          forall_mem_of_all (by decide)⟩
  | cons c rest =>
      rw [hJoined] at hHead
      rcases Option.map_eq_some_iff.mp hHead.symm with
        ⟨d, hFind, rfl⟩
      have hAscii := hText d (List.mem_of_find?_eq_some hFind)
      have hDigit :
          StartsWithDigit text ↔ d.toUpper.isDigit = true := by
        rw [isDigit_toUpper hAscii, StartsWithDigit, hFind,
          Option.any_some]
      refine ⟨⟨_, rest, rfl, ?_⟩, ?_⟩
      · rw [hDigit]
        by_cases hIs : d.toUpper.isDigit = true
        · exact Or.inr ⟨hIs, hIs⟩
        · have hFirst := head_joinedWords hText hJoined
          exact Or.inl ⟨hFirst.resolve_right hIs, hIs⟩
      · dsimp only
        rw [← hJoined]
        exact fun e he => isAlphanum_of_mem_joinedWords hText he

/- A parameter is the words with a small letter in front. -/
theorem toList_lowerCamel
    {text : String}
    {c : Char}
    {rest : List Char}
    (hWords : camelWords text = c :: rest)
    (hAscii : isAscii c = true) :
    (lowerCamel text).toList = c.toLower :: rest := by
  unfold camelWords at hWords
  unfold lowerCamel
  cases hJoined : joinedWords text.toList with
  | nil =>
      rw [hJoined] at hWords
      rcases List.cons.inj hWords with ⟨rfl, rfl⟩
      decide
  | cons d others =>
      rw [hJoined] at hWords
      rcases List.cons.inj hWords with ⟨rfl, rfl⟩
      dsimp only
      rw [String.toList_ofList, lower_of_isAscii hAscii]
      rfl

/-
  A parameter reads like a text with a small letter in front
  only if the words are that text in title form.
-/
theorem lowerCamel_eq_iff
    {text : String}
    (hText : IsAsciiText text)
    {word : String}
    {c : Char}
    {rest : List Char}
    (hWord : word.toList = c :: rest)
    (hLower : c.isLower = true) :
    lowerCamel text = word ↔
      camelWords text = c.toUpper :: rest := by
  have hTitled := isTitled_camelWords hText
  rcases hTitled.first with ⟨d, others, hWords, hFirst⟩
  have hCases : d.isUpper = true ∨ d.isDigit = true :=
    hFirst.imp And.left And.left
  have hAscii := isAscii_of_cases hCases
  rw [← String.toList_inj, toList_lowerCamel hWords hAscii,
    hWord, hWords]
  constructor
  · intro hSame
    rcases List.cons.inj hSame with ⟨rfl, rfl⟩
    rw [toUpper_toLower hCases]
  · intro hSame
    rcases List.cons.inj hSame with ⟨rfl, rfl⟩
    rw [toLower_toUpper hLower]

/- Parameters differ where the words do. -/
theorem lowerCamel_inj
    {first second : String}
    (hFirst : IsAsciiText first)
    (hSecond : IsAsciiText second) :
    lowerCamel first = lowerCamel second ↔
      camelWords first = camelWords second := by
  rcases (isTitled_camelWords hFirst).first with
    ⟨c, rest, hWords, hStart⟩
  rcases (isTitled_camelWords hSecond).first with
    ⟨d, others, hOthers, hOtherStart⟩
  have hc := hStart.imp And.left And.left
  have hd := hOtherStart.imp And.left And.left
  rw [← String.toList_inj,
    toList_lowerCamel hWords (isAscii_of_cases hc),
    toList_lowerCamel hOthers (isAscii_of_cases hd), hWords,
    hOthers]
  constructor
  · intro hSame
    rcases List.cons.inj hSame with ⟨hHead, rfl⟩
    rw [← toUpper_toLower hc, hHead, toUpper_toLower hd]
  · intro hSame
    rcases List.cons.inj hSame with ⟨rfl, rfl⟩
    rfl

end RamlScaffold.Naming

------------------------------------------------------------
-- Identifiers
------------------------------------------------------------

namespace RamlScaffold.Language

open Alphabet Naming

/- The keywords of Go. -/
def goKeywords : List String :=
  [
    "break", "case", "chan", "const", "continue", "default",
    "defer", "else", "fallthrough", "for", "func", "go",
    "goto", "if", "import", "interface", "map", "package",
    "range", "return", "select", "struct", "switch", "type",
    "var"]

/-
  A letter or an underscore, with letters, digits and
  underscores behind it, that is no keyword.
-/
def IsGoName (text : String) : Prop :=
  (∃ c rest,
    text.toList = c :: rest ∧
      (c.isAlpha = true ∨ c = '_') ∧
      ∀ d ∈ rest, isGoChar d = true) ∧
    text ∉ goKeywords

/- A legal identifier for a parameter. -/
def IsIdentifier
    (language : Language)
    (text : String) : Prop :=
  match language with
  | .go => IsGoName text
  | .rust => IsMember text

/- Words that make a keyword with a small letter in front. -/
def titledKeywords : List (List Char) :=
  goKeywords.map (fun keyword => titleCase keyword.toList)

/- Every keyword of Go starts with a small letter. -/
theorem isLower_of_goKeyword :
    ∀ keyword ∈ goKeywords,
      keyword.toList.head?.any Char.isLower = true := by
  decide

/- A digit is neither a letter nor an underscore. -/
theorem not_first_of_isDigit
    {c : Char}
    (hDigit : c.isDigit = true) :
    ¬(c.isAlpha = true ∨ c = '_') :=
  of_isAscii
    (p := fun d =>
      d.isDigit = true → ¬(d.isAlpha = true ∨ d = '_'))
    (by decide) (isAscii_of_cases (Or.inr hDigit)) hDigit

variable {text : String} (hText : IsAsciiText text)
include hText

/- A parameter is a keyword if its words are one in title form. -/
theorem lowerCamel_mem_goKeywords_iff :
    lowerCamel text ∈ goKeywords ↔
      camelWords text ∈ titledKeywords := by
  unfold titledKeywords
  rw [List.mem_map]
  have hKeyword
      {keyword : String}
      (hMem : keyword ∈ goKeywords) :
      lowerCamel text = keyword ↔
        titleCase keyword.toList = camelWords text := by
    have hHead := isLower_of_goKeyword keyword hMem
    cases hList : keyword.toList with
    | nil =>
        rw [hList] at hHead
        cases hHead
    | cons c rest =>
        rw [hList] at hHead
        have hLower : c.isLower = true := hHead
        have hAscii := isAscii_of_isLower hLower
        rw [lowerCamel_eq_iff hText hList hLower, titleCase,
          upper_of_isAscii hAscii, eq_comm]
        rfl
  constructor
  · intro hMem
    exact ⟨_, hMem, (hKeyword hMem).mp rfl⟩
  · rintro ⟨keyword, hMem, hSame⟩
    rw [(hKeyword hMem).mpr hSame]
    exact hMem

/-
  A parameter of Go is an identifier unless its name starts
  with a digit or has the words of a keyword.
-/
theorem isIdentifier_lowerCamel_iff :
    go.IsIdentifier (lowerCamel text) ↔
      ¬StartsWithDigit text ∧
        camelWords text ∉ titledKeywords := by
  have hTitled := isTitled_camelWords hText
  rcases hTitled.first with ⟨c, rest, hWords, hFirst⟩
  have hCases : c.isUpper = true ∨ c.isDigit = true :=
    hFirst.imp And.left And.left
  have hAscii := isAscii_of_cases hCases
  have hList := toList_lowerCamel hWords hAscii
  have hRest : ∀ d ∈ rest, isGoChar d = true := by
    intro d hd
    have hLetter :=
      hTitled.letters d
        (hWords ▸ List.mem_cons_of_mem c hd)
    rw [isGoChar, hLetter, Bool.true_or]
  unfold IsIdentifier IsGoName
  dsimp only
  rw [lowerCamel_mem_goKeywords_iff hText]
  refine and_congr_left' ?_
  rcases hFirst with ⟨hUpper, hNoDigit⟩ | ⟨hDigit, hStarts⟩
  · refine iff_of_true ?_ hNoDigit
    have hAlpha := isAlpha_of_isLower (isLower_toLower hUpper)
    exact ⟨c.toLower, rest, hList, Or.inl hAlpha, hRest⟩
  · refine iff_of_false ?_ (not_not_intro hStarts)
    rintro ⟨d, others, hSame, hBegin, -⟩
    rw [hList] at hSame
    rw [← (List.cons.inj hSame).1] at hBegin
    rw [← isDigit_toLower hAscii] at hDigit
    exact not_first_of_isDigit hDigit hBegin

/-
  A parameter of Rust is an identifier if its name starts with
  a letter, signs aside, and is no reserved word.
-/
theorem isIdentifier_snakeCase_iff :
    rust.IsIdentifier (snakeCase text) ↔
      StartsWithLetter text ∧
        snakeCase text ∉ keywords ++ nonRawKeywords := by
  have hHead := head?_snakeFrom hText
  have hList : (snakeCase text).toList = snakeChars text.toList :=
    String.toList_ofList
  unfold IsIdentifier IsMember
  dsimp only
  cases hSnake : snakeFrom .start text.toList with
  | nil =>
      rw [hSnake] at hHead
      have hNone := Option.map_eq_none_iff.mp hHead.symm
      have hAlone : snakeCase text = "_" := by
        rw [snakeCase, snakeChars, hSnake]
      refine iff_of_false ?_ (by simp [StartsWithLetter, hNone])
      rw [hAlone]
      exact not_isMember_underscore
  | cons first rest =>
      rw [hSnake] at hHead
      rcases Option.map_eq_some_iff.mp hHead.symm with
        ⟨c, hFind, rfl⟩
      have hAscii := hText c (List.mem_of_find?_eq_some hFind)
      have hWords : snakeChars text.toList = c.toLower :: rest := by
        rw [snakeChars, hSnake]
      rw [hWords] at hList
      have hLetter :
          StartsWithLetter text ↔ c.toLower.isDigit = false := by
        rw [isDigit_toLower hAscii, StartsWithLetter, hFind]
        simp
      rw [hLetter]
      constructor
      · rintro (⟨word, -, -, hRaw⟩ | ⟨hWord, hFree, -⟩)
        · have hHash := hash_not_mem_snakeChars text.toList
          rw [hWords, ← hList] at hHash
          exact absurd hRaw.symm (raw_ne_of_noHash hHash word)
        · refine ⟨?_, hFree⟩
          rcases hWord with ⟨d, others, hSame, hBegin, -⟩
          rw [hList] at hSame
          rw [← (List.cons.inj hSame).1] at hBegin
          rw [Bool.eq_false_iff]
          intro hDigit
          exact
            not_first_of_isDigit hDigit
              (hBegin.imp_left isAlpha_of_isLower)
      · rintro ⟨hNoDigit, hFree⟩
        have hLower : c.toLower.isLower = true := by
          refine (head_snakeFrom hText hSnake).resolve_right ?_
          rw [hNoDigit]
          exact Bool.false_ne_true
        refine
          Or.inr
            ⟨⟨_, rest, hList, Or.inl hLower, ?_⟩, hFree, ?_⟩
        · intro d hd
          apply isModuleChar_of_mem_snakeFrom hText
          rw [hSnake]
          exact List.mem_cons_of_mem _ hd
        · intro hSame
          rw [hSame] at hList
          rw [← (List.cons.inj hList).1] at hLower
          cases hLower

end RamlScaffold.Language
