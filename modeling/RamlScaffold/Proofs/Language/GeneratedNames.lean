import RamlScaffold.Proofs.Language.References
import RamlScaffold.Proofs.Naming.Ascii

/-
  Generated names are names already.

  An exported identifier is a single word that starts with a
  capital, so it is its own title form and needs no guard.
  Within ASCII every path and title make such an identifier,
  and a reference to it is spelled as it stands.

  Main declarations:
    * `Naming.typeIdentifier_of_isExported`
    * `Naming.isExported_normalize_title`
    * `Naming.typeIdentifier_eq_self_iff`
    * `Language.convert_of_isExported`
    * `Naming.generated_names_are_stable`
-/

------------------------------------------------------------
-- Identifiers Of Identifiers
------------------------------------------------------------

namespace RamlScaffold.Naming

open RamlScaffold.Alphabet

/- All characters of an exported identifier. -/
theorem IsExported.isAlphanum
    {text : String}
    (hText : IsExported text) :
    ∀ c ∈ text.toList, c.isAlphanum = true := by
  rcases hText with ⟨c, rest, hList, hCapital, hRest⟩
  rw [hList, List.forall_mem_cons]
  exact ⟨isAlphanum_of_cases (Or.inl hCapital), hRest⟩

theorem IsExported.isAlphanumeric
    {text : String}
    (hText : IsExported text) :
    ∀ c ∈ text.toList, isAlphanumeric c = true := by
  intro c hMem
  have hWord := hText.isAlphanum c hMem
  rw [isAlphanumeric_of_isAscii (isAscii_of_isAlphanum hWord)]
  exact hWord

/- A capital is its own capital, and no digit. -/
theorem upper_of_isUpper
    {c : Char}
    (hCapital : c.isUpper = true) :
    upper c = [c] ∧ c.isDigit = false := by
  have hAscii := isAscii_of_cases (Or.inl hCapital)
  have hTried :
      c.isUpper = true → c.toUpper = c ∧ c.isDigit = false :=
    of_isAscii
      (p := fun d =>
        d.isUpper = true → d.toUpper = d ∧ d.isDigit = false)
      (by decide) hAscii
  rw [upper_of_isAscii hAscii, (hTried hCapital).1]
  exact ⟨rfl, (hTried hCapital).2⟩

/- An exported identifier is its own identifier. -/
theorem typeIdentifier_of_isExported
    {text : String}
    (hText : IsExported text) :
    typeIdentifier text = text := by
  have hWords := hText.isAlphanumeric
  rcases hText with ⟨c, rest, hList, hCapital, -⟩
  rcases upper_of_isUpper hCapital with ⟨hUpper, hDigit⟩
  rw [hList] at hWords
  have hJoined : joinedWords text.toList = c :: rest := by
    rw [joinedWords, hList,
      Text.words_of_forall (List.cons_ne_nil c rest) hWords,
      List.flatMap_singleton, titleCase, hUpper]
    rfl
  have hPath : pathIdentifier text.toList = c :: rest := by
    rw [pathIdentifier, hJoined]
    dsimp only
    rw [hDigit, if_neg Bool.false_ne_true]
  rw [typeIdentifier, normalize, hPath, List.append_nil, ← hList,
    String.ofList_toList]

/- The words of an ASCII title leave an identifier exported. -/
theorem isExported_normalize_title
    {path : String}
    {title : Option String}
    (hPath : IsAsciiText path)
    (hTitle : ∀ text ∈ title, IsAsciiText text) :
    IsExported (normalize path title) := by
  cases title with
  | none => exact isExported_normalize hPath
  | some text =>
      have hSplit :
          normalize path (some text) =
            normalize path none ++
              String.ofList (joinedWords text.toList) := by
        simp only [normalize, List.append_nil,
          String.ofList_append]
      rw [hSplit]
      refine (isExported_normalize hPath).append ?_
      intro c hMem
      rw [String.toList_ofList] at hMem
      exact
        isAlphanum_of_mem_joinedWords (hTitle text rfl) hMem

/- The identifiers are the texts that are their own. -/
theorem typeIdentifier_eq_self_iff
    {text : String}
    (hText : IsAsciiText text) :
    typeIdentifier text = text ↔ IsExported text := by
  constructor
  · intro hSame
    rw [← hSame]
    exact isExported_normalize hText
  · exact typeIdentifier_of_isExported

end RamlScaffold.Naming

------------------------------------------------------------
-- References To Identifiers
------------------------------------------------------------

namespace RamlScaffold

open Naming

/- No built-in word starts with a capital. -/
theorem Naming.IsExported.not_builtin
    {text : String}
    (hText : IsExported text) :
    text ∉ TypeShape.builtinWords := by
  rcases hText with ⟨c, rest, hList, hCapital, -⟩
  have hStarts :
      ∀ word ∈ TypeShape.builtinWords,
        word.toList.head?.any Char.isUpper = false := by
    decide
  intro hWord
  have hHead := hStarts text hWord
  rw [hList, List.head?_cons, Option.any_some, hCapital]
    at hHead
  cases hHead

/- A reference to an exported identifier is that identifier. -/
theorem Language.convert_of_isExported
    {text : String}
    (hText : IsExported text)
    (language : Language) :
    language.convert text = text := by
  have hBlanks :
      ∀ c ∈ text.toList, Alphabet.isBlank c = false := by
    intro c hMem
    rw [Bool.eq_false_iff]
    intro hBlank
    have hWord := hText.isAlphanumeric c hMem
    rw [Alphabet.isAlphanumeric_eq_false_of_isBlank hBlank]
      at hWord
    cases hWord
  have hOperators : TypeShape.OperatorFree text.toList := by
    intro c hMem
    have hWord := hText.isAlphanum c hMem
    exact
      Alphabet.of_isAscii
        (p := fun d =>
          d.isAlphanum = true → TypeShape.isOperator d = false)
        (by decide) (Alphabet.isAscii_of_isAlphanum hWord) hWord
  rw [convert, TypeShape.read_word hOperators,
    Text.trim_of_forall hBlanks, String.ofList_toList,
    TypeShape.ofWord_of_not_builtin hText.not_builtin,
    typeIdentifier_of_isExported hText]
  rfl

end RamlScaffold

------------------------------------------------------------
-- Generated Names
------------------------------------------------------------

namespace RamlScaffold.Naming

open RamlScaffold.Alphabet

/-
  The names that ASCII paths and titles make.

  Such a name is a capital with letters and digits behind it.
  Names of that kind, and no other ASCII texts, are their own
  identifiers, so making a name of a name changes nothing, nor
  does a reference to it.
-/
theorem generated_names_are_stable
    {path : String}
    {title : Option String}
    (hPath : IsAsciiText path)
    (hTitle : ∀ text ∈ title, IsAsciiText text) :
    IsExported (normalize path title) ∧
      normalize path title ≠ "" ∧
      '_' ∉ (normalize path title).toList ∧
      '/' ∉ (normalize path title).toList ∧
      typeIdentifier (typeIdentifier path) =
        typeIdentifier path ∧
      (typeIdentifier path = path ↔ IsExported path) ∧
      typeIdentifier (normalize path title) =
        normalize path title ∧
      ∀ language : Language,
        language.convert (normalize path title) =
          normalize path title := by
  have hName := isExported_normalize_title hPath hTitle
  have hMarks := markFree_normalize path title
  refine
    ⟨hName, ?_, hMarks '_' (by decide), hMarks '/' (by decide),
      typeIdentifier_of_isExported (isExported_normalize hPath),
      typeIdentifier_eq_self_iff hPath,
      typeIdentifier_of_isExported hName,
      Language.convert_of_isExported hName⟩
  rcases hName with ⟨c, rest, hList, -, -⟩
  intro hEmpty
  rw [hEmpty] at hList
  cases hList

theorem digit_path_has_stable_name :
    normalize "/2fa/\x7buser-id\x7d" (some "get") = "N2faUserIdGet" ∧
      typeIdentifier "N2faUserIdGet" = "N2faUserIdGet" ∧
      IsExported "N2faUserIdGet" := by
  have hName :
      normalize "/2fa/\x7buser-id\x7d" (some "get") =
        "N2faUserIdGet" := by
    decide
  have hPath : IsAsciiText "/2fa/\x7buser-id\x7d" := by
    decide
  have hTitle : ∀ text ∈ some "get", IsAsciiText text := by
    decide
  rcases generated_names_are_stable hPath hTitle with
    ⟨hExported, -, -, -, -, -, hSame, -⟩
  rw [hName] at hExported hSame
  exact ⟨hName, hSame, hExported⟩

end RamlScaffold.Naming
