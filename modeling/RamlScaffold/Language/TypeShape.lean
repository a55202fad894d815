import RamlScaffold.Language

/-
  The shape that a written type has, apart from any target
  language, and its spelling in each language.

  A type is read by its outermost form: a trailing pair of
  brackets is a sequence, enclosing parentheses are dropped,
  a bar makes the type open, and what is left is a word.

  Key definitions include:
    * `TypeShape`
    * `TypeShape.ofWord`
    * `TypeShape.read`
    * `Language.spell`
    * `Language.convert`, `Language.convertUnion`
    * `Language.anyType`, `Language.mapOf`
-/

------------------------------------------------------------
-- Shapes
------------------------------------------------------------

namespace RamlScaffold

/- What a written type denotes. -/
inductive TypeShape where
  | anything
  | text
  | number
  | integer
  | boolean
  | bytes
  | object
  | named (identifier : String)
  | sequence (element : TypeShape)
deriving DecidableEq, Repr

end RamlScaffold

------------------------------------------------------------
-- Reading
------------------------------------------------------------

namespace RamlScaffold

namespace TypeShape

/-
  The shape of a lone word: a built-in type, or a reference
  to the structure of a catalog type.
-/
def ofWord (word : String) : TypeShape :=
  match word with
  | "" | "any" | "nil" => .anything
  | "string" | "date-only" | "time-only" | "datetime-only"
  | "datetime" => .text
  | "number" => .number
  | "integer" => .integer
  | "boolean" => .boolean
  | "file" => .bytes
  | "object" => .object
  | other => .named (Naming.typeIdentifier other)

/- The element of a sequence type, if the text is one. -/
def element? (text : List Char) : Option (List Char) :=
  Text.stripEnd? ['[', ']'] text

/- What stands in enclosing parentheses, if any do. -/
def grouped? : List Char → Option (List Char)
  | '(' :: rest => Text.stripEnd? [')'] rest
  | _ => none

/- A stripped text and its ending make up the whole. -/
theorem length_stripEnd?
    {ending text rest : List Char}
    (hStrip : Text.stripEnd? ending text = some rest) :
    rest.length + ending.length = text.length := by
  unfold Text.stripEnd? at hStrip
  split at hStrip
  · next hSuffix =>
      have hLe :=
        (List.isSuffixOf_iff_suffix.mp hSuffix).length_le
      injection hStrip with hRest
      subst hRest
      simp only [List.length_take]
      omega
  · contradiction

/- Trimming makes no text longer. -/
theorem length_trim_le (text : List Char) :
    (Text.trim text).length ≤ text.length := by
  have hDrop (t : List Char) :
      (t.dropWhile Alphabet.isBlank).length ≤ t.length :=
    (List.dropWhile_sublist _).length_le
  unfold Text.trim Text.trimEnd Text.trimStart
  rw [List.length_reverse]
  have hOuter :=
    hDrop (text.dropWhile Alphabet.isBlank).reverse
  rw [List.length_reverse] at hOuter
  exact Nat.le_trans hOuter (hDrop text)

/- A grouped text is longer than what it groups. -/
theorem length_grouped?
    {text rest : List Char}
    (_hGroup : grouped? text = some rest) :
    rest.length < text.length := by
  unfold grouped? at _hGroup
  split at _hGroup
  · next inner =>
      have hLength := length_stripEnd? _hGroup
      simp only [List.length_cons, List.length_nil] at hLength ⊢
      omega
  · contradiction

/- The shape of a written type. -/
def read (text : List Char) : TypeShape :=
  match _hElement : element? (Text.trim text) with
  | some inner => .sequence (read inner)
  | none =>
      match _hGroup : grouped? (Text.trim text) with
      | some inner => read inner
      | none =>
          if (Text.trim text).contains '|' then .anything
          else ofWord (String.ofList (Text.trim text))
termination_by text.length
decreasing_by
  · have hLength := length_stripEnd? _hElement
    have hTrim := length_trim_le text
    simp only [List.length_cons, List.length_nil] at hLength
    omega
  · have hLength := length_grouped? _hGroup
    have hTrim := length_trim_le text
    omega

end TypeShape

end RamlScaffold

------------------------------------------------------------
-- Spelling
------------------------------------------------------------

namespace RamlScaffold

namespace Language

/- The type that holds any value. -/
def anyType : Language → String
  | .go => "interface\x7b\x7d"
  | .rust => "serde_json::Value"

/- The sequence type over an element type. -/
def sequenceOf
    (language : Language)
    (element : String) : String :=
  match language with
  | .go => "[]" ++ element
  | .rust => "Vec<" ++ element ++ ">"

/- The type of mappings from strings to a value type. -/
def mapOf
    (language : Language)
    (value : String) : String :=
  match language with
  | .go => "map[string]" ++ value
  | .rust =>
      "std::collections::HashMap<String, " ++ value ++ ">"

/- A shape as a type literal. -/
def spell (language : Language) : TypeShape → String
  | .anything => language.anyType
  | .text =>
      match language with
      | .go => "string"
      | .rust => "String"
  | .number =>
      match language with
      | .go => "float64"
      | .rust => "f64"
  | .integer =>
      match language with
      | .go => "int"
      | .rust => "i64"
  | .boolean => "bool"
  | .bytes =>
      match language with
      | .go => "[]byte"
      | .rust => "Vec<u8>"
  | .object =>
      match language with
      | .go => language.mapOf language.anyType
      | .rust => language.anyType
  | .named identifier => identifier
  | .sequence element =>
      language.sequenceOf (language.spell element)

/- The type literal of a written type. -/
def convert
    (language : Language)
    (typeName : String) : String :=
  language.spell (TypeShape.read typeName.toList)

/-
  The type literal of a union.  Neither language has closed
  unions, so its members do not matter.
-/
def convertUnion
    (language : Language)
    (_union : String) : String :=
  language.anyType

end Language

end RamlScaffold
