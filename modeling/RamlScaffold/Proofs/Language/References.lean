import RamlScaffold.Proofs.Language.TypeGrammar
import RamlScaffold.Proofs.Schema.Shape

/-
  References to catalog types.

  A definition makes its name from the key as it stands, and a
  reference from what is left of an expression when brackets,
  parentheses and white space are gone.  Both come to the same
  identifier, since white space is no part of a word.

  Main declarations:
    * `Naming.typeIdentifier_trimmed`
    * `TypeShape.builtinWords`
    * `TypeForm.wrapped?`, `TypeForm.depth`
    * `TypeForm.convert_reference`
-/

------------------------------------------------------------
-- Identifiers
------------------------------------------------------------

namespace RamlScaffold

/- White space around a name does not change its identifier. -/
theorem Naming.typeIdentifier_trimmed (name : String) :
    typeIdentifier (Text.trimmed name) = typeIdentifier name := by
  unfold typeIdentifier normalize pathIdentifier joinedWords
    Text.trimmed
  rw [String.toList_ofList, Text.words_trim]

/- The words that are no references, nothing among them. -/
def TypeShape.builtinWords : List String :=
  ["", "any", "nil", "string", "date-only", "time-only",
    "datetime-only", "datetime", "number", "integer",
    "boolean", "file", "object"]

/- Every other word refers to the type of its identifier. -/
theorem TypeShape.ofWord_of_not_builtin
    {word : String}
    (hWord : word ∉ builtinWords) :
    ofWord word = .named (Naming.typeIdentifier word) := by
  simp only [builtinWords, List.mem_cons, not_or] at hWord
  simp [ofWord, hWord]

end RamlScaffold

------------------------------------------------------------
-- Wrapped Names
------------------------------------------------------------

namespace RamlScaffold

namespace TypeForm

/- The name inside of brackets and parentheses, if it is one. -/
def wrapped? : TypeForm → Option String
  | .name word => some word
  | .array element => wrapped? element
  | .group inner => wrapped? inner
  | .union _ _ => none

/- The brackets around what an expression is built from. -/
def depth : TypeForm → Nat
  | .name _ => 0
  | .array element => depth element + 1
  | .group inner => depth inner
  | .union _ _ => 0

variable {form : TypeForm} {key : String}

/- Only unions have stray brackets. -/
theorem strays_of_wrapped
    (hKey : form.wrapped? = some key) :
    form.strays = 0 := by
  induction form with
  | name word => rfl
  | array element ih => exact ih hKey
  | group inner ih => exact ih hKey
  | union first second _ _ => cases hKey

/- A name that is no word of its own denotes a reference. -/
theorem shape_of_name
    (hFree : Text.trimmed key ∉ TypeShape.builtinWords) :
    (TypeForm.name key).shape =
      .named (Naming.typeIdentifier key) := by
  rw [shape, TypeShape.ofWord_of_not_builtin hFree,
    Naming.typeIdentifier_trimmed]

theorem spell_wrapped_go
    (hKey : form.wrapped? = some key)
    (hFree : Text.trimmed key ∉ TypeShape.builtinWords) :
    Language.go.spell form.shape =
      String.join (List.replicate form.depth "[]") ++
        Naming.typeIdentifier key := by
  induction form with
  | name word =>
      rw [Option.some.inj hKey, shape_of_name hFree]
      simp [Language.spell, depth]
  | array element ih =>
      simp only [shape, Language.spell, Language.sequenceOf,
        ih hKey, depth, List.replicate_succ, String.join_cons,
        String.append_assoc]
  | group inner ih => exact ih hKey
  | union first second _ _ => cases hKey

theorem spell_wrapped_rust
    (hKey : form.wrapped? = some key)
    (hFree : Text.trimmed key ∉ TypeShape.builtinWords) :
    Language.rust.spell form.shape =
      String.join (List.replicate form.depth "Vec<") ++
        Naming.typeIdentifier key ++
        String.join (List.replicate form.depth ">") := by
  induction form with
  | name word =>
      rw [Option.some.inj hKey, shape_of_name hFree]
      simp [Language.spell, depth]
  | array element ih =>
      -- The new sequence opens in front of the others and
      -- closes behind them.
      have hClose :
          String.join
              (List.replicate (element.depth + 1) ">") =
            String.join (List.replicate element.depth ">") ++
              ">" := by
        rw [List.replicate_succ', String.join_append,
          String.join_cons, String.join_nil, String.append_empty]
      rw [depth, hClose, List.replicate_succ, String.join_cons,
        shape, Language.spell, ih hKey]
      simp only [Language.sequenceOf, String.append_assoc]
  | group inner ih => exact ih hKey
  | union first second _ _ => cases hKey

end TypeForm

namespace TypeForm

/-
  A reference resolves: whatever brackets, parentheses and
  white space stand around the key of a catalog type, the text
  is converted to as many sequences of the structure that the
  type is generated as.
-/
theorem convert_reference
    {form : TypeForm}
    {text : List Char}
    (hText : form.Written text)
    {key : String}
    (hKey : form.wrapped? = some key)
    (hFree : Text.trimmed key ∉ TypeShape.builtinWords)
    (decl : TypeDecl)
    (package : String) :
    Language.go.convert (String.ofList text) =
        String.join (List.replicate form.depth "[]") ++
          (Structure.ofDecl .go key decl package).name ∧
      Language.rust.convert (String.ofList text) =
        String.join (List.replicate form.depth "Vec<") ++
          (Structure.ofDecl .rust key decl package).name ++
          String.join (List.replicate form.depth ">") := by
  have hConvert (language : Language) :
      language.convert (String.ofList text) =
        language.spell form.shape := by
    rw [Language.convert, String.toList_ofList,
      read_of_written hText,
      misread_of_strays_eq_zero (strays_of_wrapped hKey)]
  rw [hConvert, hConvert, Structure.ofDecl_name,
    Structure.ofDecl_name]
  exact
    ⟨spell_wrapped_go hKey hFree, spell_wrapped_rust hKey hFree⟩

/- A key with a digit in front and white space at its end. -/
def modelSequences : TypeForm :=
  .array (.group (.array (.group (.name "3d-model "))))

theorem written_modelSequences :
    modelSequences.Written " ((3d-model )[]) []".toList := by
  have hText :
      " ((3d-model )[]) []".toList =
        ([' '] ++
            ('(' ::
              ((('(' :: ("3d-model ".toList ++ [')'])) ++
                ['[', ']']) ++ [')'])) ++
            [' ']) ++
          ['[', ']'] :=
    rfl
  rw [hText]
  refine .array (.spaced ?_ (by decide) (by decide)) rfl
  refine .group (.array (.group ?_) rfl)
  exact .name (by decide) (by decide)

theorem convert_modelSequences :
    modelSequences.Written " ((3d-model )[]) []".toList ∧
      modelSequences.wrapped? = some "3d-model " ∧
      Text.trimmed "3d-model " ∉ TypeShape.builtinWords ∧
      Language.go.convert " ((3d-model )[]) []" =
        "[][]N3dModel" ∧
      Language.rust.convert " ((3d-model )[]) []" =
        "Vec<Vec<N3dModel>>" := by
  have hFree :
      Text.trimmed "3d-model " ∉ TypeShape.builtinWords := by
    decide +kernel
  have hConvert :=
    convert_reference written_modelSequences rfl hFree {} "api"
  rw [String.ofList_toList] at hConvert
  exact
    ⟨written_modelSequences, rfl, hFree,
      hConvert.1.trans (by decide +kernel),
      hConvert.2.trans (by decide +kernel)⟩

end TypeForm

end RamlScaffold
