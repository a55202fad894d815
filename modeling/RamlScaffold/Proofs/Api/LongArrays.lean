import RamlScaffold.Api.Document
import RamlScaffold.Libraries
import RamlScaffold.Proofs.Language.TypeReading
import RamlScaffold.Schema.Structure

/-
  Arrays in their long form, with a type and its items.

  The long form is rewritten as a text with brackets at its
  end, and a text with a bar is put in parentheses before.
  Reading strips just these brackets and parentheses again, so
  every level of the long form is one sequence, whatever the
  innermost text is.

  Main declarations:
    * `Language.convert_arrayOf`
    * `TypeExpr.ofSchema_of_array`
    * `Yaml.Value.arrays`
    * `Language.sequencesOf`, `Language.sequencesOf_go`
    * `Field.typeName_arrays`
-/

------------------------------------------------------------
-- Brackets And Parentheses
------------------------------------------------------------

namespace RamlScaffold

/-
  The short form of an array is a sequence of its elements,
  with parentheses around them or not.
-/
theorem Language.convert_arrayOf
    (language : Language)
    (element : String) :
    language.convert (TypeExpr.arrayOf element).raw =
      language.sequenceOf (language.convert element) := by
  unfold TypeExpr.arrayOf
  split
  · have hText :
        ("(" ++ element ++ ")[]").toList =
          '(' :: (element.toList ++ [')']) ++ ['[', ']'] := by
      simp
    rw [TypeExpr.raw, convert, hText, TypeShape.read_brackets,
      TypeShape.read_parentheses]
    rfl
  · have hText :
        (element ++ "[]").toList =
          element.toList ++ ['[', ']'] := by
      simp
    rw [TypeExpr.raw, convert, hText, TypeShape.read_brackets]
    rfl

end RamlScaffold

------------------------------------------------------------
-- Schemas Of Arrays
------------------------------------------------------------

namespace RamlScaffold.TypeExpr

open Yaml

/- An array is an expression of its own, and never missing. -/
theorem isAbsent_arrayOf (element : String) :
    (arrayOf element).isAbsent = false := by
  unfold arrayOf
  split
  · rfl
  · rfl

/- A schema of an array is the short form over its items. -/
theorem ofSchema_of_array
    {entries : List (Value × Value)}
    (hType :
      (ofValue (get? "type" entries)).isArrayWord = true) :
    ofSchema entries = arrayOf (itemsName entries) := by
  rw [ofSchema, withElement, if_pos hType]

/- An element that is an array itself has its short form. -/
theorem elementName_of_array
    {entries : List (Value × Value)}
    (hType :
      (ofValue (get? "type" entries)).isArrayWord = true) :
    elementName (.mapping entries) =
      (arrayOf (itemsName entries)).raw := by
  rw [elementName, withElement, if_pos hType, rawOr,
    isAbsent_arrayOf]
  rfl

end RamlScaffold.TypeExpr

------------------------------------------------------------
-- Nested Arrays
------------------------------------------------------------

namespace RamlScaffold

/- The entries of an array in its long form. -/
def Yaml.arrayEntries
    (items : Yaml.Value) : List (Yaml.Value × Yaml.Value) :=
  [(.text "type", .text "array"), (.text "items", items)]

/- A value inside of so many arrays in long form. -/
def Yaml.Value.arrays
    (value : Yaml.Value) : Nat → Yaml.Value
  | 0 => value
  | depth + 1 => .mapping (Yaml.arrayEntries (arrays value depth))

/- A type literal inside of so many sequences. -/
def Language.sequencesOf
    (language : Language)
    (element : String) : Nat → String
  | 0 => element
  | depth + 1 =>
      language.sequenceOf (language.sequencesOf element depth)

/- Every sequence opens in front of those inside of it. -/
theorem Language.sequencesOf_go
    (element : String)
    (depth : Nat) :
    Language.go.sequencesOf element depth =
      String.join (List.replicate depth "[]") ++ element := by
  induction depth with
  | zero => rfl
  | succ depth ih =>
      rw [sequencesOf, ih, List.replicate_succ,
        String.join_cons, String.append_assoc]
      rfl

/- In Rust, a sequence closes behind those inside as well. -/
theorem Language.sequencesOf_rust
    (element : String)
    (depth : Nat) :
    Language.rust.sequencesOf element depth =
      String.join (List.replicate depth "Vec<") ++ element ++
        String.join (List.replicate depth ">") := by
  induction depth with
  | zero => simp [sequencesOf]
  | succ depth ih =>
      have hClose :
          String.join (List.replicate (depth + 1) ">") =
            String.join (List.replicate depth ">") ++ ">" := by
        rw [List.replicate_succ', String.join_append,
          String.join_cons, String.join_nil, String.append_empty]
      rw [sequencesOf, ih, hClose, List.replicate_succ,
        String.join_cons]
      simp only [sequenceOf, String.append_assoc]

namespace TypeExpr

open Yaml

theorem isArrayWord_arrayEntries (items : Value) :
    (ofValue (get? "type" (arrayEntries items))).isArrayWord =
      true := by
  have hType :
      get? "type" (arrayEntries items) =
        some (.text "array") :=
    rfl
  rw [hType]
  decide +kernel

theorem itemsName_arrayEntries (items : Value) :
    itemsName (arrayEntries items) = elementName items := by
  simp [arrayEntries, itemsName, Value.isText]

/- Every array around an element is one sequence. -/
theorem convert_elementName_arrays
    (language : Language)
    (value : Value)
    (depth : Nat) :
    language.convert (elementName (value.arrays depth)) =
      language.sequencesOf (language.convert (elementName value))
        depth := by
  induction depth with
  | zero => rfl
  | succ depth ih =>
      rw [Value.arrays,
        elementName_of_array (isArrayWord_arrayEntries _),
        itemsName_arrayEntries, language.convert_arrayOf, ih]
      rfl

end TypeExpr

namespace Field

section

variable [PatternLanguage]

/- A property in long form is a sequence of its items. -/
theorem typeName_arrayEntries
    (language : Language)
    (key : String)
    (items : Yaml.Value) :
    (ofProperty language
        (Property.ofEntry key
          (.mapping (Yaml.arrayEntries items)))).typeName =
      language.sequenceOf
        (language.convert (TypeExpr.elementName items)) := by
  rw [← language.convert_arrayOf,
    ← TypeExpr.itemsName_arrayEntries]
  simp only [ofProperty, Property.ofEntry,
    TypeExpr.ofSchema_of_array
      (TypeExpr.isArrayWord_arrayEntries items),
    TypeExpr.isAbsent_arrayOf, Bool.false_eq_true, if_false]

/-
  A property whose type is nested in arrays in long form has
  one sequence for each of them, around what the innermost
  text is converted to on its own.  A text without any name
  stands for any value.
-/
theorem typeName_arrays
    (key text : String)
    (depth : Nat) :
    let typeName (language : Language) : String :=
      (ofProperty language
        (Property.ofEntry key
          (Yaml.Value.arrays (.text text) (depth + 1)))).typeName
    let base (language : Language) : String :=
      language.convert ((TypeExpr.parse text).rawOr "any")
    (∀ language,
      typeName language =
        language.sequencesOf (base language) (depth + 1)) ∧
      typeName .go =
        String.join (List.replicate (depth + 1) "[]") ++
          base .go ∧
      typeName .rust =
        String.join (List.replicate (depth + 1) "Vec<") ++
          base .rust ++
          String.join (List.replicate (depth + 1) ">") := by
  intro typeName base
  have hArrays (language : Language) :
      typeName language =
        language.sequencesOf (base language) (depth + 1) := by
    dsimp only [typeName]
    rw [Yaml.Value.arrays, typeName_arrayEntries,
      TypeExpr.convert_elementName_arrays]
    rfl
  refine ⟨hArrays, ?_, ?_⟩
  · rw [hArrays, Language.sequencesOf_go]
  · rw [hArrays, Language.sequencesOf_rust]

end

/- A union is put in parentheses once for every level. -/
example :
    (ofProperty .rust
        (Property.ofEntry "rows"
          (Yaml.Value.arrays (.text "string | integer")
            2))).typeName =
      "Vec<Vec<serde_json::Value>>" := by
  rw [Yaml.Value.arrays, typeName_arrayEntries,
    TypeExpr.convert_elementName_arrays]
  decide +kernel

end Field

end RamlScaffold
