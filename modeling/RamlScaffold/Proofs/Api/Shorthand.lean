import RamlScaffold.Proofs.Api.LongArrays
import RamlScaffold.Proofs.Api.TypeNames
import RamlScaffold.Proofs.Naming.Ascii
import RamlScaffold.Proofs.Text.AsciiCase

/-
  Types given by a text alone and by a schema with that text.

  A schema reads its type as a list of names, and a lone text
  is converted as it stands, so the two differ if commas stand
  around the names.  They also differ on the word for an array,
  which only a schema rewrites.

  Main declarations:
    * `Yaml.typeEntries`
    * `TypeExpr.convert_ne_of_arrayWord`
    * `TypeExpr.convert_elementName_iff`
    * `Field.ofEntry_text_eq_iff`
    * `Field.shorthand_agrees_iff`
    * `Field.shorthand_disagrees`
-/

------------------------------------------------------------
-- The Word For An Array
------------------------------------------------------------

namespace RamlScaffold

open Text

/- The word for an array is made of letters. -/
theorem isAlpha_arrayWord :
    ∀ c ∈ (Text.lowerAscii "array").toList, c.isAlpha = true :=
  Alphabet.forall_mem_of_all (by decide)

namespace TypeExpr

variable
  {text : String}
  (hArray : (parse text).isArrayWord = true)
include hArray

/- The word is the only name of a text that is read as it. -/
theorem name_of_arrayWord :
    ∃ name,
      namesOf text.toList = [name] ∧
        Text.sameAscii (Text.trimmed (String.ofList name))
            "array" = true := by
  rw [parse_eq, listedNames] at hArray
  rcases hNames : namesOf text.toList with
    _ | ⟨name, _ | ⟨second, rest⟩⟩
  · rw [hNames] at hArray
    cases hArray
  · rw [hNames] at hArray
    exact ⟨name, rfl, hArray⟩
  · rw [hNames] at hArray
    cases hArray

/- Around its letters stand commas and white space only. -/
theorem isGap_or_isAlpha
    {c : Char}
    (hMem : c ∈ text.toList) :
    isGap c = true ∨ c.isAlpha = true := by
  rcases name_of_arrayWord hArray with ⟨name, hNames, hSame⟩
  rcases isGap_or_mem_namesOf hMem with hGap | ⟨piece, hPiece, hc⟩
  · exact Or.inl hGap
  · rw [hNames, List.mem_singleton] at hPiece
    subst hPiece
    cases hBlank : Alphabet.isBlank c with
    | true => exact Or.inl (by simp [isGap, hBlank])
    | false =>
        refine
          Or.inr (isAlpha_of_sameAscii isAlpha_arrayWord hSame ?_)
        rw [Text.trimmed, String.toList_ofList,
          String.toList_ofList, mem_trim_iff hBlank]
        exact hc

theorem operatorFree_of_arrayWord :
    TypeShape.OperatorFree text.toList := by
  intro c hMem
  rw [Bool.eq_false_iff]
  intro hOperator
  have hNone :
      ∀ d ∈ ['|', '(', ')', '[', ']'],
        isGap d = false ∧ d.isAlpha = false :=
    Alphabet.forall_mem_of_all (by decide)
  have hPlain := hNone c (List.contains_iff_mem.mp hOperator)
  rcases isGap_or_isAlpha hArray hMem with hGap | hLetter
  · rw [hPlain.1] at hGap
    cases hGap
  · rw [hPlain.2] at hLetter
    cases hLetter

/- The identifier of such a text is made of its letters. -/
theorem isExported_of_arrayWord :
    Naming.IsExported (Naming.typeIdentifier text) := by
  rcases name_of_arrayWord hArray with ⟨name, hNames, hSame⟩
  have hWords :=
    words_eq_flatMap_namesOf text.toList
  rw [hNames, List.flatMap_singleton] at hWords
  have hName :
      Naming.typeIdentifier text =
        Naming.typeIdentifier
          (Text.trimmed (String.ofList name)) := by
    rw [Naming.typeIdentifier_trimmed,
      ← TypeShape.typeIdentifier_congr hWords,
      String.ofList_toList]
  rw [hName]
  refine Naming.isExported_normalize ?_
  intro c hMem
  have hLetter :=
    isAlpha_of_sameAscii isAlpha_arrayWord hSame hMem
  exact Alphabet.isAscii_of_isAlphanum
    (Bool.or_eq_true_iff.mpr (Or.inl hLetter))

end TypeExpr

/- A lone word is no sequence of any values. -/
theorem Language.spell_ofWord_ne
    (language : Language)
    {word : String}
    (hWord : Naming.IsExported (Naming.typeIdentifier word)) :
    language.spell (TypeShape.ofWord word) ≠
      language.sequenceOf language.anyType := by
  have hIdentifier :
      Naming.typeIdentifier word ≠
        language.sequenceOf language.anyType := by
    intro hSame
    rcases hWord with ⟨c, rest, hText, hCapital, hRest⟩
    rw [hSame] at hText
    cases language with
    | go =>
        have hHead : c = '[' := (List.cons.inj hText).1.symm
        rw [hHead] at hCapital
        exact absurd hCapital (by decide)
    | rust =>
        have hMem : '<' ∈ rest := by
          rw [← (List.cons.inj hText).2]
          decide
        exact absurd (hRest '<' hMem) (by decide)
  unfold TypeShape.ofWord
  split
  case h_14 => exact hIdentifier
  all_goals cases language <;> decide

/- A text that reads as a lone word is no such sequence. -/
theorem Language.convert_ne_of_word
    (language : Language)
    {text : String}
    (hText : TypeShape.OperatorFree text.toList)
    (hWord : Naming.IsExported (Naming.typeIdentifier text)) :
    language.convert text ≠
      language.sequenceOf language.anyType := by
  rw [convert, TypeShape.read_word hText]
  refine language.spell_ofWord_ne ?_
  have hName := Naming.typeIdentifier_trimmed text
  rw [Text.trimmed] at hName
  rw [hName]
  exact hWord

namespace TypeExpr

variable
  {text : String}
  (hArray : (parse text).isArrayWord = true)
include hArray

theorem convert_ne_of_arrayWord (language : Language) :
    language.convert text ≠
      language.sequenceOf language.anyType :=
  language.convert_ne_of_word (operatorFree_of_arrayWord hArray)
    (isExported_of_arrayWord hArray)

theorem convert_pared_ne_of_arrayWord (language : Language) :
    language.convert (pared text) ≠
      language.sequenceOf language.anyType := by
  refine language.convert_ne_of_word ?_ ?_
  · intro c hMem
    rw [pared, String.toList_ofList] at hMem
    refine operatorFree_of_arrayWord hArray c ?_
    exact (List.dropWhile_sublist isGap).subset
      ((List.rdropWhile_prefix isGap _).subset hMem)
  · have hName :=
      TypeShape.typeIdentifier_congr (words_pare text.toList)
    rw [String.ofList_toList] at hName
    rw [pared, hName]
    exact isExported_of_arrayWord hArray

end TypeExpr

end RamlScaffold

------------------------------------------------------------
-- Elements
------------------------------------------------------------

namespace RamlScaffold

/- The entries of a schema that is a type and nothing else. -/
def Yaml.typeEntries
    (text : String) : List (Yaml.Value × Yaml.Value) :=
  [(.text "type", .text text)]

theorem Language.convert_any (language : Language) :
    language.convert "any" = language.anyType := by
  have hWord :
      String.ofList (Text.trim "any".toList) = "any" := by
    decide +kernel
  rw [convert, TypeShape.read_word (by decide), hWord]
  rfl

theorem Language.sequenceOf_inj
    (language : Language)
    {first second : String} :
    language.sequenceOf first = language.sequenceOf second ↔
      first = second := by
  cases language <;> simp [sequenceOf]

namespace TypeExpr

open Yaml

variable (language : Language) (text : String)

/- The word alone is an array of any values. -/
theorem convert_withElement :
    language.convert
        (((parse text).withElement "any").rawOr "any") =
      if (parse text).isArrayWord then
        language.sequenceOf language.anyType
      else language.convert (Text.pared text) := by
  unfold withElement
  split
  · rw [rawOr, isAbsent_arrayOf, ← language.convert_any,
      ← language.convert_arrayOf]
    rfl
  · exact convert_parse language text

theorem convert_elementName_text :
    language.convert (elementName (.text text)) =
      language.convert (Text.pared text) := by
  have hName :
      elementName (.text text) = (parse text).rawOr "any" :=
    rfl
  rw [hName, convert_parse]

theorem convert_elementName_typeEntries :
    language.convert
        (elementName (.mapping (typeEntries text))) =
      if (parse text).isArrayWord then
        language.sequenceOf language.anyType
      else language.convert (Text.pared text) := by
  rw [← convert_withElement, elementName]
  rfl

/- As the items of an array they differ on the word only. -/
theorem convert_elementName_iff :
    language.convert (elementName (.text text)) =
        language.convert
          (elementName (.mapping (typeEntries text))) ↔
      (parse text).isArrayWord = false := by
  rw [convert_elementName_text, convert_elementName_typeEntries]
  split
  · next hArray =>
      have hOther := convert_pared_ne_of_arrayWord hArray language
      simp [hArray, hOther]
  · next hArray => simp [hArray]

end TypeExpr

end RamlScaffold

------------------------------------------------------------
-- Fields
------------------------------------------------------------

namespace RamlScaffold

namespace Field

section

variable [PatternLanguage]

/- The field that an entry of a schema makes. -/
def ofEntry
    (language : Language)
    (key : String)
    (value : Yaml.Value) : Field :=
  ofProperty language (Property.ofEntry key value)

/- The field of a key that has some type. -/
def ofKey
    (language : Language)
    (key typeName : String) : Field :=
  { name := language.fieldName (Property.nameOfKey key).1
    wireName := (Property.nameOfKey key).1
    typeName := typeName
    required := (Property.nameOfKey key).2 }

theorem ofKey_inj
    (language : Language)
    (key : String)
    {first second : String} :
    ofKey language key first = ofKey language key second ↔
      first = second := by
  simp [ofKey]

variable (language : Language) (key text : String)

/- A lone text is converted as it stands. -/
theorem ofEntry_text :
    ofEntry language key (.text text) =
      ofKey language key (language.convert text) := by
  unfold ofEntry ofProperty Property.ofEntry ofKey
  rw [← language.convert_trimmed]

theorem ofEntry_typeEntries :
    ofEntry language key (.mapping (Yaml.typeEntries text)) =
      ofKey language key
        (if (TypeExpr.parse text).isArrayWord then
          language.sequenceOf language.anyType
        else language.convert (Text.pared text)) := by
  rw [← TypeExpr.convert_withElement]
  generalize hExpr :
    (TypeExpr.parse text).withElement "any" = typeExpr
  have hField :
      ofEntry language key (.mapping (Yaml.typeEntries text)) =
        ofProperty language
          { name := (Property.nameOfKey key).1
            typeName :=
              if typeExpr.isAbsent then none
              else some typeExpr.raw
            required := (Property.nameOfKey key).2 } := by
    rw [← hExpr]
    rfl
  rw [hField, TypeExpr.rawOr]
  split
  · rw [language.convert_any]
    rfl
  · rfl

theorem ofEntry_arrayEntries (items : Yaml.Value) :
    ofEntry language key (.mapping (Yaml.arrayEntries items)) =
      ofKey language key
        (language.sequenceOf
          (language.convert (TypeExpr.elementName items))) := by
  rw [← typeName_arrayEntries language key items]
  rfl

/- The type of an array that a catalog type declares. -/
theorem convert_ofValue_arrayEntries (items : Yaml.Value) :
    language.convert
        (TypeDecl.ofValue
          (.mapping (Yaml.arrayEntries items))).typeExpr.raw =
      language.sequenceOf
        (language.convert (TypeExpr.elementName items)) := by
  have hExpr :
      (TypeDecl.ofValue
          (.mapping (Yaml.arrayEntries items))).typeExpr =
        TypeExpr.ofSchema (Yaml.arrayEntries items) :=
    rfl
  rw [hExpr,
    TypeExpr.ofSchema_of_array
      (TypeExpr.isArrayWord_arrayEntries items),
    TypeExpr.itemsName_arrayEntries, language.convert_arrayOf]

/-
  A lone text and a schema with that text as its type make the
  same field exactly if the text is no word for an array and is
  converted alike without the commas around it.
-/
theorem ofEntry_text_eq_iff :
    ofEntry language key (.text text) =
        ofEntry language key
          (.mapping (Yaml.typeEntries text)) ↔
      (TypeExpr.parse text).isArrayWord = false ∧
        language.convert text =
          language.convert (Text.pared text) := by
  rw [ofEntry_text, ofEntry_typeEntries, ofKey_inj]
  cases hArray : (TypeExpr.parse text).isArrayWord with
  | true =>
      have hOther :=
        TypeExpr.convert_ne_of_arrayWord hArray language
      simp [hOther]
  | false => simp

/-
  Where a property has a type, a lone text and a schema agree
  up to commas around the text and up to the word for an
  array.  Where an array has its items, in a property as well
  as in the catalog, they agree up to that word.
-/
theorem shorthand_agrees_iff :
    (ofEntry language key (.text text) =
          ofEntry language key
            (.mapping (Yaml.typeEntries text)) ↔
        (TypeExpr.parse text).isArrayWord = false ∧
          language.convert text =
            language.convert (Text.pared text)) ∧
      (ofEntry language key
            (.mapping (Yaml.arrayEntries (.text text))) =
          ofEntry language key
            (.mapping
              (Yaml.arrayEntries
                (.mapping (Yaml.typeEntries text)))) ↔
        (TypeExpr.parse text).isArrayWord = false) ∧
      (language.convert
            (TypeDecl.ofValue
              (.mapping
                (Yaml.arrayEntries (.text text)))).typeExpr.raw =
          language.convert
            (TypeDecl.ofValue
              (.mapping
                (Yaml.arrayEntries
                  (.mapping
                    (Yaml.typeEntries text))))).typeExpr.raw ↔
        (TypeExpr.parse text).isArrayWord = false) := by
  have hItems :=
    TypeExpr.convert_elementName_iff language text
  refine ⟨ofEntry_text_eq_iff language key text, ?_, ?_⟩
  · rw [ofEntry_arrayEntries, ofEntry_arrayEntries, ofKey_inj,
      language.sequenceOf_inj]
    exact hItems
  · rw [convert_ofValue_arrayEntries,
      convert_ofValue_arrayEntries, language.sequenceOf_inj]
    exact hItems

end

/-
  The word for an array alone is taken for a name in a lone
  text, and for an array of any values in a schema.  A comma
  behind a built-in type hides it in a lone text only.
-/
theorem shorthand_disagrees :
    (ofEntry .go "tags" (.text "array")).typeName = "Array" ∧
      (ofEntry .go "tags"
          (.mapping (Yaml.typeEntries "array"))).typeName =
        "[]interface\x7b\x7d" ∧
      (ofEntry .go "tags"
          (.mapping
            (Yaml.arrayEntries (.text "array")))).typeName =
        "[]Array" ∧
      (ofEntry .go "tags"
          (.mapping
            (Yaml.arrayEntries
              (.mapping (Yaml.typeEntries "array"))))).typeName =
        "[][]interface\x7b\x7d" ∧
      (ofEntry .go "tags" (.text "string,")).typeName =
        "String" ∧
      (ofEntry .go "tags"
          (.mapping (Yaml.typeEntries "string,"))).typeName =
        "string" := by
  have hArray :
      (TypeExpr.parse "array").isArrayWord = true := by
    decide +kernel
  have hOther :
      (TypeExpr.parse "string,").isArrayWord = false := by
    decide +kernel
  have hPared :
      Text.pared "array" = "array" ∧
        Text.pared "string," = "string" := by
    decide +kernel
  have hNames :
      Language.go.convert "array" = "Array" ∧
        Language.go.convert "string," = "String" ∧
        Language.go.convert "string" = "string" := by
    unfold Language.convert
    rw [TypeShape.read_word (by decide),
      TypeShape.read_word (by decide),
      TypeShape.read_word (by decide)]
    decide +kernel
  refine ⟨?_, ?_, ?_, ?_, ?_, ?_⟩
  · rw [ofEntry_text, hNames.1]
    rfl
  · rw [ofEntry_typeEntries, hArray]
    rfl
  · rw [ofEntry_arrayEntries, TypeExpr.convert_elementName_text,
      hPared.1, hNames.1]
    rfl
  · rw [ofEntry_arrayEntries,
      TypeExpr.convert_elementName_typeEntries, hArray]
    rfl
  · rw [ofEntry_text, hNames.2.1]
    rfl
  · rw [ofEntry_typeEntries, hOther, hPared.2, hNames.2.2]
    rfl

end Field

end RamlScaffold
