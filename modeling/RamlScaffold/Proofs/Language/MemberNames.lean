import RamlScaffold.Api.Document
import RamlScaffold.Libraries
import RamlScaffold.Proofs.Language.FileNames
import RamlScaffold.Proofs.Naming.SnakeWords
import RamlScaffold.Schema.Structure

/-
  Which members of Rust structures are legal.

  A member is a name in snake case, guarded against a digit in
  front and against reserved words.  Nothing guards against a
  name without any letter or digit: its snake case is a lone
  underscore, which is no identifier.

  Main declarations:
    * `Language.IsMember`
    * `Language.isMember_unreserved`
    * `Language.isMember_fieldName_iff`
    * `Language.entryKey_is_no_member`
-/

------------------------------------------------------------
-- Legal Members
------------------------------------------------------------

namespace RamlScaffold.Language

open Alphabet Naming

/-
  A small ASCII letter or an underscore, with small letters,
  digits and underscores behind it.
-/
def IsMemberWord (text : String) : Prop :=
  ∃ c rest,
    text.toList = c :: rest ∧
      (c.isLower = true ∨ c = '_') ∧
      ∀ d ∈ rest, isModuleChar d = true

/-
  A legal member of a Rust structure: a reserved word in its
  raw form, if it has one, or a word that is not reserved and
  not a lone underscore.
-/
def IsMember (text : String) : Prop :=
  (∃ word ∈ keywords,
      word ∉ nonRawKeywords ∧ text = "r#" ++ word) ∨
    (IsMemberWord text ∧
      text ∉ keywords ++ nonRawKeywords ∧ text ≠ "_")

/- A lone underscore is a pattern and names nothing. -/
theorem not_isMember_underscore : ¬ IsMember "_" := by
  rintro (⟨word, -, -, hSame⟩ | ⟨-, -, hOther⟩)
  · have hText := congrArg String.toList hSame
    rw [String.toList_append] at hText
    cases (List.cons.inj hText).1
  · exact hOther rfl

theorem IsMemberWord.append_underscore
    {word : String}
    (hWord : IsMemberWord word) :
    IsMemberWord (word ++ "_") := by
  rcases hWord with ⟨c, rest, hText, hFirst, hRest⟩
  refine ⟨c, rest ++ ['_'], ?_, hFirst, ?_⟩
  · rw [String.toList_append, hText]
    rfl
  · intro d hd
    rcases List.mem_append.mp hd with hd | hd
    · exact hRest d hd
    · rw [List.mem_singleton.mp hd]
      decide

end RamlScaffold.Language

------------------------------------------------------------
-- Guards
------------------------------------------------------------

namespace RamlScaffold.Language

open Alphabet Naming

/- A word in a form that is not reserved. -/
def unreserved (word : String) : String :=
  if nonRawKeywords.contains word then word ++ "_"
  else if keywords.contains word then "r#" ++ word
  else word

/- A text with an underscore in front of a digit. -/
def guardDigit : List Char → String
  | [] => ""
  | c :: rest =>
      if c.isDigit then String.ofList ('_' :: c :: rest)
      else String.ofList (c :: rest)

/- A member is a name in snake case behind both guards. -/
theorem fieldName_rust_eq (wireName : String) :
    rust.fieldName wireName =
      unreserved (guardDigit (snakeChars wireName.toList)) :=
  rfl

/- A word that is not reserved makes a legal member. -/
theorem isMember_unreserved
    {word : String}
    (hWord : IsMemberWord word)
    (hOther : word ≠ "_") :
    IsMember (unreserved word) := by
  unfold unreserved
  split
  · refine Or.inr ⟨hWord.append_underscore, ?_, ?_⟩
    · intro hReserved
      apply (noUnderscore_of_reserved _ hReserved).1
      simp
    · rcases hWord with ⟨c, rest, hText, -, -⟩
      intro hSame
      have hList := congrArg String.toList hSame
      rw [String.toList_append, hText] at hList
      have hLength := congrArg List.length hList
      simp at hLength
  · next hNoRaw =>
      have hRaw : word ∉ nonRawKeywords := by
        simpa using hNoRaw
      split
      · next hKeyword =>
          exact
            Or.inl ⟨word, by simpa using hKeyword, hRaw, rfl⟩
      · next hPlain =>
          have hFree : word ∉ keywords := by
            simpa using hPlain
          refine Or.inr ⟨hWord, ?_, hOther⟩
          rw [List.mem_append, not_or]
          exact ⟨hFree, hRaw⟩

theorem toList_guardDigit
    (c : Char)
    (rest : List Char) :
    (guardDigit (c :: rest)).toList =
      if c.isDigit then '_' :: c :: rest else c :: rest := by
  rw [guardDigit]
  split
  · exact String.toList_ofList
  · exact String.toList_ofList

section Guarded

variable
  {c : Char}
  {rest : List Char}
  (hFirst : c.isLower = true ∨ c.isDigit = true)
include hFirst

/- Behind its guard a snake-case text is a word. -/
theorem isMemberWord_guardDigit
    (hRest : ∀ d ∈ rest, isModuleChar d = true) :
    IsMemberWord (guardDigit (c :: rest)) := by
  have hText := toList_guardDigit c rest
  by_cases hDigit : c.isDigit = true
  · have hChar : isModuleChar c = true := by
      simp [isModuleChar, hDigit]
    rw [if_pos hDigit] at hText
    exact
      ⟨'_', c :: rest, hText, Or.inr rfl,
        List.forall_mem_cons.mpr ⟨hChar, hRest⟩⟩
  · rw [if_neg hDigit] at hText
    exact
      ⟨c, rest, hText, Or.inl (hFirst.resolve_right hDigit),
        hRest⟩

/- It does not become an underscore. -/
theorem guardDigit_ne_underscore :
    guardDigit (c :: rest) ≠ "_" := by
  intro hSame
  have hText := toList_guardDigit c rest
  rw [hSame] at hText
  split at hText
  · cases (List.cons.inj hText).2
  · next hDigit =>
      have hLower := hFirst.resolve_right hDigit
      rw [← (List.cons.inj hText).1] at hLower
      cases hLower

end Guarded

end RamlScaffold.Language

------------------------------------------------------------
-- Members
------------------------------------------------------------

namespace RamlScaffold.Language

open Alphabet Naming

variable
  {wireName : String}
  (hName : IsAsciiText wireName)
include hName

/- Without a letter or digit the sentinel is handed on. -/
theorem fieldName_of_no_words
    (hNone : ∀ c ∈ wireName.toList, c.isAlphanum = false) :
    rust.fieldName wireName = "_" := by
  have hText : ∀ c ∈ wireName.toList, isAlphanumeric c = false := by
    intro c hMem
    rw [isAlphanumeric_of_isAscii (hName c hMem)]
    exact hNone c hMem
  rw [fieldName_rust_eq, snakeChars_of_no_words hText]
  decide

theorem isMember_fieldName
    (hWords : ∃ c ∈ wireName.toList, c.isAlphanum = true) :
    IsMember (rust.fieldName wireName) := by
  cases hSnake : snakeFrom .start wireName.toList with
  | nil =>
      rcases hWords with ⟨c, hMem, hWord⟩
      rw [← isAlphanumeric_of_isAscii (hName c hMem),
        (snakeFrom_eq_nil_iff _ _).mp hSnake c hMem] at hWord
      cases hWord
  | cons first rest =>
      have hFirst := head_snakeFrom hName hSnake
      have hRest : ∀ d ∈ rest, isModuleChar d = true := by
        intro d hd
        apply isModuleChar_of_mem_snakeFrom hName
        rw [hSnake]
        exact List.mem_cons_of_mem first hd
      have hText : snakeChars wireName.toList = first :: rest := by
        rw [snakeChars, hSnake]
      rw [fieldName_rust_eq, hText]
      exact
        isMember_unreserved
          (isMemberWord_guardDigit hFirst hRest)
          (guardDigit_ne_underscore hFirst)

/-
  A member made of an ASCII name is legal if and only if the
  name has a letter or a digit, and otherwise it is a lone
  underscore.
-/
theorem isMember_fieldName_iff :
    (IsMember (rust.fieldName wireName) ↔
        ∃ c ∈ wireName.toList, c.isAlphanum = true) ∧
      (rust.fieldName wireName = "_" ↔
        ∀ c ∈ wireName.toList, c.isAlphanum = false) := by
  by_cases hWords : ∃ c ∈ wireName.toList, c.isAlphanum = true
  · have hLegal := isMember_fieldName hName hWords
    constructor
    · exact iff_of_true hLegal hWords
    · refine iff_of_false ?_ (by simpa using hWords)
      intro hSame
      rw [hSame] at hLegal
      exact not_isMember_underscore hLegal
  · have hNone : ∀ c ∈ wireName.toList, c.isAlphanum = false := by
      simpa using hWords
    have hField := fieldName_of_no_words hName hNone
    constructor
    · refine iff_of_false ?_ hWords
      rw [hField]
      exact not_isMember_underscore
    · exact iff_of_true hField hNone

end RamlScaffold.Language

namespace RamlScaffold.Language

open Alphabet Naming

/- A reserved word without a raw form. -/
theorem isMember_reservedName :
    IsAsciiText "$self" ∧
      (∃ c ∈ "$self".toList, c.isAlphanum = true) ∧
      IsMember (rust.fieldName "$self") ∧
      rust.fieldName "$self" = "self_" := by
  have hName : IsAsciiText "$self" := by decide
  have hWord : ∃ c ∈ "$self".toList, c.isAlphanum = true :=
    ⟨'s', by decide, by decide⟩
  exact
    ⟨hName, hWord, (isMember_fieldName_iff hName).1.mpr hWord,
      by decide⟩

/- A map with a property beside the key of its entries. -/
def labelsValue : Yaml.Value :=
  .mapping
    [(.text "properties",
      .mapping
        [(.text "[]", .text "string"),
          (.text "note", .text "string")])]

/-
  The key of the entries stays as a member that is a lone
  underscore.
-/
theorem entryKey_is_no_member :
    IsAsciiText "[]" ∧
      (Structure.ofDecl rust "Labels"
          (TypeDecl.ofValue labelsValue) "api").own.map
          (fun field => (field.wireName, field.name)) =
        [("[]", rust.fieldName "[]"), ("note", "note")] ∧
      rust.fieldName "[]" = "_" ∧
      ¬ IsMember (rust.fieldName "[]") := by
  have hField : rust.fieldName "[]" = "_" := by decide
  refine ⟨by decide, by decide +kernel, hField, ?_⟩
  rw [hField]
  exact not_isMember_underscore

end RamlScaffold.Language
