import RamlScaffold.Proofs.Api.TypeNames
import RamlScaffold.Proofs.Text.AsciiCase

/-
  What a node of the type catalog declares, facet by facet.

  A node that is no schema is nothing but its type facet.  The
  names that a type facet yields are trimmed and not empty, so
  what a declaration trims again is left as it is, and the
  flags of the declaration say just what the facets do.

  Main declarations:
    * `Yaml.Value.facet?`, `Yaml.Value.typeNames`
    * `Yaml.Value.writtenNames`
    * `Yaml.Value.IsObject`, `Yaml.Value.DeclaresEntries`
    * `Yaml.Value.ListsValues`
    * `TypeDecl.ofValue_eq`
    * `TypeDecl.union_iff`, `TypeDecl.array_iff`
    * `TypeDecl.map_iff`, `TypeDecl.enumeration_iff`
-/

------------------------------------------------------------
-- Facets
------------------------------------------------------------

namespace RamlScaffold.Yaml.Value

/- A facet of a schema. -/
def facet? (key : String) : Value → Option Value
  | .mapping entries => get? key entries
  | _ => none

/- The type facet; a node that is no schema is one itself. -/
def typeFacet? : Value → Option Value
  | .mapping entries => get? "type" entries
  | value => some value

/- The names that a type facet yields. -/
def namesOfFacet : Option Value → List String
  | some (.text content) =>
      (TypeExpr.namesOf content.toList).map String.ofList
  | some (.sequence items) =>
      ((items.filterMap asText?).map Text.trimmed).filter
        (· != "")
  | _ => []

/- The names that the type facet of a node yields. -/
def typeNames (value : Value) : List String :=
  namesOfFacet value.typeFacet?

/- The element of a node that is an array in long form. -/
def elementName : Value → String
  | .mapping entries => TypeExpr.itemsName entries
  | _ => "any"

/- A name, or the short form of an array in long form. -/
def shortForm (value : Value) (name : String) : String :=
  if Text.sameAscii name "array" then
    (TypeExpr.arrayOf value.elementName).raw
  else name

/-
  The names of a node as they count: a lone name for an array
  gives way to the short form of the array.
-/
def writtenNames (value : Value) : List String :=
  match value.typeNames with
  | [name] => [value.shortForm name]
  | names => names

/- The properties of a node. -/
def properties
    [PatternLanguage]
    (value : Value) : List Property :=
  Property.listOfValue (value.facet? "properties")

end RamlScaffold.Yaml.Value

------------------------------------------------------------
-- Conditions On Facets
------------------------------------------------------------

namespace RamlScaffold

variable [PatternLanguage]

/-
  A property name that stands for the entries of a map: empty
  brackets, two slashes, or a pattern between slashes.
-/
def IsEntryKey (name : String) : Prop :=
  name = "[]" ∨ name = "//" ∨
    ∃ pattern,
      pattern ≠ "" ∧ name = "/" ++ pattern ++ "/" ∧
        PatternLanguage.compiles pattern = true

namespace Yaml.Value

/- Whether a node is an object, by name or for lack of one. -/
def IsObject (value : Value) : Prop :=
  value.typeNames = [] ∨
    ∃ name,
      value.writtenNames = [name] ∧
        Text.sameAscii name "object" = true

/- Whether the additional properties of a node have a type. -/
def AddsProperties (value : Value) : Prop :=
  (∃ content,
      value.facet? "additionalProperties" =
        some (.text content)) ∨
    ∃ entries,
      value.facet? "additionalProperties" =
        some (.mapping entries)

/- Whether a node declares the entries of a map. -/
def DeclaresEntries (value : Value) : Prop :=
  value.AddsProperties ∨
    ∃ property ∈ value.properties, IsEntryKey property.name

/- A text, a number or a truth value. -/
inductive IsScalar : Value → Prop where
  | text (content : String) : IsScalar (.text content)
  | number (value : Number) : IsScalar (.number value)
  | bool (value : Bool) : IsScalar (.bool value)

/- Whether the enum facet of a node lists a scalar. -/
def ListsValues (value : Value) : Prop :=
  ∃ items,
    value.facet? "enum" = some (.sequence items) ∧
      ∃ item ∈ items, item.IsScalar

end Yaml.Value

end RamlScaffold

------------------------------------------------------------
-- Map Keys
------------------------------------------------------------

namespace RamlScaffold

/- What stands before an ending is the rest of the text. -/
theorem Text.eq_append_of_stripEnd?
    {ending text front : List Char}
    (hStrip : stripEnd? ending text = some front) :
    text = front ++ ending := by
  unfold stripEnd? at hStrip
  split at hStrip
  · next hSuffix =>
      rcases List.isSuffixOf_iff_suffix.mp hSuffix with
        ⟨before, rfl⟩
      rw [List.length_append, Nat.add_sub_cancel,
        List.take_left] at hStrip
      rw [Option.some.inj hStrip]
  · cases hStrip

variable [PatternLanguage]

theorem isMapPatternKey_slashes
    {pattern : String}
    (hSome : pattern ≠ "") :
    isMapPatternKey ("/" ++ pattern ++ "/") =
      PatternLanguage.compiles pattern := by
  have hText :
      ("/" ++ pattern ++ "/").toList =
        '/' :: (pattern.toList ++ ['/']) := by
    simp
  have hLetters : pattern.toList ≠ [] :=
    fun hNone => hSome (String.toList_eq_nil_iff.mp hNone)
  unfold isMapPatternKey
  rw [hText]
  split
  · next hBrackets => cases (List.cons.inj hBrackets).1
  · next hSlashes =>
      -- Two slashes have nothing between them.
      have hLength := congrArg List.length hSlashes
      have hNone : pattern.toList.length = 0 := by
        simpa using hLength
      exact absurd (List.length_eq_zero_iff.mp hNone) hLetters
  · next rest _ hSlash =>
      rw [← (List.cons.inj hSlash).2, Text.stripEnd?_append]
      split
      · next hNone =>
          exact absurd (Option.some.inj hNone) hLetters
      · next letters _ hSame =>
          rw [← Option.some.inj hSame, String.ofList_toList]
      · next hNone => cases hNone
  · next hOther => exact absurd rfl (hOther _)

/- The keys that are looked for are those of map entries. -/
theorem isMapPatternKey_iff (name : String) :
    isMapPatternKey name = true ↔ IsEntryKey name := by
  constructor
  · intro hKey
    unfold isMapPatternKey at hKey
    split at hKey
    · next hText =>
        exact Or.inl (String.toList_inj.mp (hText.trans rfl))
    · next hText =>
        exact
          Or.inr (Or.inl (String.toList_inj.mp (hText.trans rfl)))
    · next rest _ hText =>
        split at hKey
        · cases hKey
        · next pattern hNone hStrip =>
            refine
              Or.inr
                (Or.inr ⟨String.ofList pattern, ?_, ?_, hKey⟩)
            · intro hEmpty
              exact hNone (String.ofList_eq_empty_iff.mp hEmpty)
            · apply String.toList_inj.mp
              rw [hText, Text.eq_append_of_stripEnd? hStrip]
              simp
        · cases hKey
    · cases hKey
  · rintro (rfl | rfl | ⟨pattern, hSome, rfl, hCompiles⟩)
    · rfl
    · rfl
    · rw [isMapPatternKey_slashes hSome]
      exact hCompiles

end RamlScaffold

------------------------------------------------------------
-- Names
------------------------------------------------------------

namespace RamlScaffold.Yaml.Value

open RamlScaffold.Text

/- Names of a type facet are trimmed and not empty. -/
theorem trimmed_of_mem_typeNames
    {value : Value}
    {name : String}
    (hName : name ∈ value.typeNames) :
    trimmed name = name ∧ name ≠ "" := by
  unfold typeNames namesOfFacet at hName
  split at hName
  · have hListed := TypeExpr.isName_of_mem_listedNames hName
    exact ⟨hListed.trimmed, hListed.nonempty⟩
  · rcases List.mem_filter.mp hName with ⟨hMem, hSome⟩
    rcases List.mem_map.mp hMem with ⟨text, -, rfl⟩
    refine ⟨?_, by simpa using hSome⟩
    rw [trimmed, trimmed, String.toList_ofList, trim_trim]
  · cases hName

/- The short form of an array ends in brackets. -/
theorem getLast?_arrayOf (element : String) :
    (TypeExpr.arrayOf element).raw.toList.getLast? =
      some ']' := by
  unfold TypeExpr.arrayOf
  split
  · have hText :
        ("(" ++ element ++ ")[]").toList =
          '(' :: (element.toList ++ [')', '[']) ++ [']'] := by
      simp
    rw [TypeExpr.raw, hText, List.getLast?_concat]
  · have hText :
        (element ++ "[]").toList =
          element.toList ++ ['['] ++ [']'] := by
      simp
    rw [TypeExpr.raw, hText, List.getLast?_concat]

theorem trimEnd_of_last
    {text : List Char}
    (hLast :
      ∀ c, text.getLast? = some c → Alphabet.isBlank c = false) :
    trimEnd text = text := by
  rcases List.eq_nil_or_concat' text with rfl | ⟨front, c, rfl⟩
  · rfl
  · have hPlain := hLast c List.getLast?_concat
    unfold trimEnd
    rw [List.reverse_append, List.reverse_singleton,
      List.singleton_append, List.dropWhile_cons_of_neg,
      List.reverse_cons, List.reverse_reverse]
    simp [hPlain]

/- A name that counts does not end in white space. -/
theorem trimEnd_of_mem_writtenNames
    {value : Value}
    {name : String}
    (hName : name ∈ value.writtenNames) :
    trimEnd name.toList = name.toList := by
  have hPlain
      {other : String}
      (hOther : other ∈ value.typeNames) :
      trimEnd other.toList = other.toList := by
    have hSame := (trimmed_of_mem_typeNames hOther).1
    apply trimEnd_of_last
    intro c hc
    rw [← hSame, trimmed, String.toList_ofList] at hc
    exact isBlank_eq_false_of_getLast?_trim hc
  unfold writtenNames at hName
  split at hName
  · next other hNames =>
      have hOther : other ∈ value.typeNames := by
        rw [hNames]
        exact List.mem_singleton_self other
      rw [List.mem_singleton.mp hName, shortForm]
      split
      · apply trimEnd_of_last
        intro c hc
        rw [getLast?_arrayOf] at hc
        rw [← Option.some.inj hc]
        decide
      · exact hPlain hOther
  · exact hPlain hName

end RamlScaffold.Yaml.Value

------------------------------------------------------------
-- Declarations
------------------------------------------------------------

namespace RamlScaffold

open Yaml

namespace TypeExpr

theorem ofValue_eq (facet? : Option Value) :
    ofValue facet? = ofNames (Value.namesOfFacet facet?) := by
  rcases facet? with _ | value
  · rfl
  · cases value <;> rfl

/- A lone name for an array is rewritten, and nothing else. -/
theorem withElement_ofNames
    (value : Value) :
    (ofNames value.typeNames).withElement value.elementName =
      ofNames value.writtenNames := by
  unfold Value.writtenNames
  split
  · next name hNames =>
      have hMem : name ∈ value.typeNames := by
        rw [hNames]
        exact List.mem_singleton_self name
      have hTrimmed := (Value.trimmed_of_mem_typeNames hMem).1
      rw [hNames, ofNames, withElement, isArrayWord, hTrimmed,
        Value.shortForm]
      split
      · unfold arrayOf
        split
        · rfl
        · rfl
      · rfl
  · next hOther =>
      rcases hNames : value.typeNames with
        _ | ⟨first, _ | ⟨second, rest⟩⟩
      · rfl
      · exact absurd hNames (hOther first)
      · rfl

end TypeExpr

namespace TypeDecl

/- The values that an enum keeps are the scalars. -/
theorem isSome_keyText?_iff (value : Value) :
    value.keyText?.isSome = true ↔ value.IsScalar := by
  constructor
  · intro hText
    cases value with
    | text content => exact .text content
    | number number => exact .number number
    | bool flag => exact .bool flag
    | null => cases hText
    | sequence items => cases hText
    | mapping entries => cases hText
    | tagged tag value => cases hText
  · rintro (content | number | flag)
    · rfl
    · rfl
    · rfl

variable [PatternLanguage]

/- A declaration has the parts that its facets declare. -/
theorem ofValue_eq (value : Value) :
    ∃ description,
      ofValue value =
        ofParts (TypeExpr.ofNames value.writtenNames)
          value.properties
          (additionalOfValue (value.facet? "additionalProperties"))
          (enumOfValue (value.facet? "enum")) description := by
  rw [← TypeExpr.withElement_ofNames, Value.typeNames,
    ← TypeExpr.ofValue_eq]
  cases value with
  | mapping entries => exact ⟨_, rfl⟩
  | null => exact ⟨none, rfl⟩
  | bool flag => exact ⟨none, rfl⟩
  | number value => exact ⟨none, rfl⟩
  | text content => exact ⟨none, rfl⟩
  | sequence items => exact ⟨none, rfl⟩
  | tagged tag value => exact ⟨none, rfl⟩

/- The flags of a declaration are derived from its facets. -/
theorem flags_ofValue (value : Value) :
    (ofValue value).flags =
      TypeFlags.derive (TypeExpr.ofNames value.writtenNames)
        value.properties
        (additionalOfValue (value.facet? "additionalProperties"))
        (enumOfValue (value.facet? "enum")) := by
  rcases ofValue_eq value with ⟨description, hValue⟩
  rw [hValue]
  rfl

theorem typeExpr_ofValue (value : Value) :
    (ofValue value).typeExpr =
      TypeExpr.ofNames value.writtenNames := by
  rcases ofValue_eq value with ⟨description, hValue⟩
  rw [hValue]
  rfl

theorem properties_ofValue (value : Value) :
    (ofValue value).properties = value.properties := by
  rcases ofValue_eq value with ⟨description, hValue⟩
  rw [hValue]
  rfl

theorem additional_ofValue (value : Value) :
    (ofValue value).additional =
      additionalOfValue
        (value.facet? "additionalProperties") := by
  rcases ofValue_eq value with ⟨description, hValue⟩
  rw [hValue]
  rfl

/- Additional properties have a type or are not declared. -/
theorem isSome_additional_iff (value : Value) :
    (ofValue value).additional.isSome = true ↔
      value.AddsProperties := by
  rw [additional_ofValue, Value.AddsProperties]
  rcases value.facet? "additionalProperties" with _ | facet
  · simp [additionalOfValue]
  · cases facet <;> simp [additionalOfValue]

end TypeDecl

end RamlScaffold

------------------------------------------------------------
-- Flags
------------------------------------------------------------

namespace RamlScaffold

open Yaml

namespace TypeExpr

/- What holds of a lone name holds of the only one there is. -/
theorem nameHas_ofNames_iff
    (test : List Char → Bool)
    (names : List String) :
    (ofNames names).nameHas test = true ↔
      ∃ name, names = [name] ∧ test name.toList = true := by
  rcases names with _ | ⟨first, _ | ⟨second, rest⟩⟩
  · simp [ofNames, nameHas]
  · simp [ofNames, nameHas]
  · simp [ofNames, nameHas]

theorem isObjectLike_ofNames_iff (names : List String) :
    (ofNames names).isObjectLike = true ↔
      names = [] ∨
        ∃ name,
          names = [name] ∧
            Text.sameAscii name "object" = true := by
  rcases names with _ | ⟨first, _ | ⟨second, rest⟩⟩
  · simp [ofNames, isObjectLike]
  · simp [ofNames, isObjectLike]
  · simp [ofNames, isObjectLike]

end TypeExpr

theorem Yaml.Value.writtenNames_eq_nil_iff (value : Value) :
    value.writtenNames = [] ↔ value.typeNames = [] := by
  unfold writtenNames
  split
  · next name hNames => simp [hNames]
  · rfl

namespace TypeDecl

variable [PatternLanguage] (value : Value)

theorem union_iff :
    (ofValue value).flags.union = true ↔
      ∃ name, value.writtenNames = [name] ∧ '|' ∈ name.toList := by
  rw [flags_ofValue, TypeFlags.derive,
    TypeExpr.nameHas_ofNames_iff]
  simp only [List.contains_iff_mem]

theorem array_iff :
    (ofValue value).flags.array = true ↔
      ∃ name,
        value.writtenNames = [name] ∧
          ['[', ']'] <:+ name.toList := by
  rw [flags_ofValue, TypeFlags.derive,
    TypeExpr.nameHas_ofNames_iff]
  refine exists_congr ?_
  intro name
  refine and_congr_right ?_
  intro hNames
  have hMem : name ∈ value.writtenNames := by
    rw [hNames]
    exact List.mem_singleton_self name
  have hTrim :
      Text.trimEnd name.toList = name.toList :=
    Value.trimEnd_of_mem_writtenNames hMem
  rw [hTrim]
  exact List.isSuffixOf_iff_suffix

theorem map_iff :
    (ofValue value).flags.map = true ↔
      value.IsObject ∧ value.DeclaresEntries := by
  have hKeys :
      value.properties.any (fun p => isMapPatternKey p.name) =
          true ↔
        ∃ property ∈ value.properties,
          IsEntryKey property.name := by
    simp only [List.any_eq_true, isMapPatternKey_iff]
  rw [flags_ofValue, ← additional_ofValue, TypeFlags.derive,
    Bool.and_eq_true, Bool.or_eq_true, hKeys,
    isSome_additional_iff, TypeExpr.isObjectLike_ofNames_iff,
    Value.writtenNames_eq_nil_iff]
  rfl

theorem enumeration_iff :
    (ofValue value).flags.enumeration = true ↔
      value.ListsValues := by
  rw [flags_ofValue, Value.ListsValues, TypeFlags.derive,
    Bool.not_eq_true', Bool.eq_false_iff, ne_eq,
    List.isEmpty_iff, ← ne_eq]
  rcases value.facet? "enum" with _ | facet
  · simp [enumOfValue]
  · cases facet with
    | sequence items =>
        rw [ne_eq, enumOfValue, List.filterMap_eq_nil_iff]
        simp [← isSome_keyText?_iff, Option.isSome_iff_ne_none]
    | null => simp [enumOfValue]
    | bool flag => simp [enumOfValue]
    | number number => simp [enumOfValue]
    | text content => simp [enumOfValue]
    | mapping entries => simp [enumOfValue]
    | tagged tag inner => simp [enumOfValue]

end TypeDecl

end RamlScaffold
