import RamlScaffold.Proofs.Api.Facets
import RamlScaffold.Proofs.Schema.Realization

/-
  The table by which nodes of the type catalog are classified.

  Each row asks for some facets of the node and excludes what
  the rows above it ask for, so exactly one row fits a node.
  The classifier has branches for declarations that no node
  has: a map that is an array, or an enum without a name.
  Which patterns compile is left to the language of patterns.

  Main declarations:
    * `Yaml.Value.CompilesTo`
    * `TypeDecl.classify_of_compilesTo`
    * `Yaml.Value.exists_compilesTo`
    * `TypeDecl.classify_iff`
    * `TypeDecl.classify_map_none_iff`
    * `TypeDecl.classify_follows_table`
-/

------------------------------------------------------------
-- The Table
------------------------------------------------------------

namespace RamlScaffold.Yaml.Value

/-
  A node with one name that is no union, no array and no
  object.
-/
structure NamesType (value : Value) (name : String) : Prop where
  written : value.writtenNames = [name]
  noBar : '|' ∉ name.toList
  noBrackets : ¬ ['[', ']'] <:+ name.toList
  noObject : ¬ Text.sameAscii name "object" = true

/- What a node of the type catalog compiles to. -/
inductive CompilesTo
    [PatternLanguage]
    (value : Value) : Classification → Prop where
  | severalParents
      (hNames : 2 ≤ value.typeNames.length) :
      CompilesTo value
        (.multipleInheritance (firstOccurrences value.typeNames))
  | union
      {name : String}
      (hName : value.writtenNames = [name])
      (hBar : '|' ∈ name.toList) :
      CompilesTo value (.union name)
  | array
      {name : String}
      (hName : value.writtenNames = [name])
      (hNoBar : '|' ∉ name.toList)
      (hBrackets : ['[', ']'] <:+ name.toList) :
      CompilesTo value (.array name)
  | map
      (hObject : value.IsObject)
      (hEntries : value.DeclaresEntries) :
      CompilesTo value (.map (TypeDecl.ofValue value).mapValue?)
  | plainObject
      (hObject : value.IsObject)
      (hNoEntries : ¬ value.DeclaresEntries) :
      CompilesTo value .plainObject
  | enumeration
      {name : String}
      (hName : value.NamesType name)
      (hValues : value.ListsValues) :
      CompilesTo value (.enumeration (some name))
  | specialization
      {name : String}
      (hName : value.NamesType name)
      (hNoValues : ¬ value.ListsValues)
      (hNone : value.properties = []) :
      CompilesTo value (.specialization name)
  | singleInheritance
      {name : String}
      (hName : value.NamesType name)
      (hNoValues : ¬ value.ListsValues)
      (hSome : value.properties ≠ []) :
      CompilesTo value (.singleInheritance name)

end RamlScaffold.Yaml.Value

------------------------------------------------------------
-- Objects
------------------------------------------------------------

namespace RamlScaffold

open Yaml

/- A name for an object holds neither a bar nor a bracket. -/
theorem not_mem_of_object
    {name : String}
    (hName : Text.sameAscii name "object" = true)
    {sign : Char}
    (hSign : sign.isAlpha = false) :
    sign ∉ name.toList := by
  have hLetters :
      ∀ c ∈ (Text.lowerAscii "object").toList,
        c.isAlpha = true :=
    Alphabet.forall_mem_of_all (by decide)
  intro hMem
  rw [isAlpha_of_sameAscii hLetters hName hMem] at hSign
  cases hSign

/- The name of an object, if it has one, is a name for it. -/
theorem Yaml.Value.IsObject.sameAscii
    {value : Value}
    (hObject : value.IsObject)
    {name : String}
    (hName : value.writtenNames = [name]) :
    Text.sameAscii name "object" = true := by
  rcases hObject with hNone | ⟨other, hOther, hSame⟩
  · rw [(Value.writtenNames_eq_nil_iff value).mpr hNone] at hName
    cases hName
  · rw [hOther] at hName
    rw [← List.singleton_inj.mp hName]
    exact hSame

namespace TypeDecl

variable [PatternLanguage]
variable
  {value : Value}
  (hObject : value.IsObject)
include hObject

theorem union_of_object :
    ¬ (ofValue value).flags.union = true := by
  rw [union_iff]
  rintro ⟨name, hName, hBar⟩
  exact
    not_mem_of_object (hObject.sameAscii hName) (by decide) hBar

theorem array_of_object :
    ¬ (ofValue value).flags.array = true := by
  rw [array_iff]
  rintro ⟨name, hName, hBrackets⟩
  exact
    not_mem_of_object (hObject.sameAscii hName) (by decide)
      (hBrackets.subset List.mem_cons_self)

/- An object is written as one. -/
theorem raw_of_object :
    Text.sameAscii (ofValue value).typeExpr.raw "object" =
      true := by
  rw [typeExpr_ofValue]
  rcases hObject with hNone | ⟨name, hName, hSame⟩
  · rw [(Value.writtenNames_eq_nil_iff value).mpr hNone]
    decide
  · rw [hName]
    exact hSame

end TypeDecl

end RamlScaffold

------------------------------------------------------------
-- Rows
------------------------------------------------------------

namespace RamlScaffold

open Yaml

namespace Yaml.Value

variable {value : Value}

/- Several names count as they are. -/
theorem writtenNames_of_several
    (hNames : 2 ≤ value.typeNames.length) :
    value.writtenNames = value.typeNames := by
  unfold writtenNames
  split
  · next name hName =>
      rw [hName] at hNames
      cases hNames with
      | step hLess => cases hLess
  · rfl

/- One name counts as one, in its short form. -/
theorem writtenNames_of_few
    (hNames : ¬ 2 ≤ value.typeNames.length) :
    value.writtenNames = [] ∨
      ∃ name, value.writtenNames = [name] := by
  unfold writtenNames
  rcases hTypes : value.typeNames with
    _ | ⟨first, _ | ⟨second, rest⟩⟩
  · exact Or.inl rfl
  · exact Or.inr ⟨value.shortForm first, rfl⟩
  · rw [hTypes] at hNames
    simp at hNames

end Yaml.Value

/- Names that are trimmed and not empty are kept as parents. -/
theorem TypeExpr.parents_typeNames (value : Value) :
    parents value.typeNames =
      firstOccurrences value.typeNames := by
  have hTrimmed :
      value.typeNames.map Text.trimmed = value.typeNames := by
    conv => rhs; rw [← List.map_id value.typeNames]
    refine List.map_congr_left ?_
    intro name hName
    exact (Value.trimmed_of_mem_typeNames hName).1
  have hKept :
      value.typeNames.filter (· != "") = value.typeNames := by
    refine List.filter_eq_self.mpr ?_
    intro name hName
    exact bne_iff_ne.mpr (Value.trimmed_of_mem_typeNames hName).2
  rw [parents, hTrimmed, hKept]

namespace TypeDecl

variable [PatternLanguage] {value : Value}

theorem classify_of_several
    (hNames : 2 ≤ value.typeNames.length) :
    (ofValue value).classify =
      .multipleInheritance
        (firstOccurrences value.typeNames) := by
  rw [← TypeExpr.parents_typeNames, classify, typeExpr_ofValue,
    Value.writtenNames_of_several hNames]
  rcases hTypes : value.typeNames with
    _ | ⟨first, _ | ⟨second, rest⟩⟩
  · rw [hTypes] at hNames
    cases hNames
  · rw [hTypes] at hNames
    simp at hNames
  · rfl

/- Without several names the flags decide. -/
theorem classify_of_name
    {name : String}
    (hName : value.writtenNames = [name]) :
    (ofValue value).classify = (ofValue value).classifySingle := by
  rw [classify, typeExpr_ofValue, hName]
  rfl

theorem classify_of_object
    (hObject : value.IsObject) :
    (ofValue value).classify = (ofValue value).classifySingle := by
  rcases hObject with hNone | ⟨name, hName, -⟩
  · rw [classify, typeExpr_ofValue,
      (Value.writtenNames_eq_nil_iff value).mpr hNone]
    rfl
  · exact classify_of_name hName

/- The flags of a node with one name. -/
theorem union_iff_of_name
    {name : String}
    (hName : value.writtenNames = [name]) :
    (ofValue value).flags.union = true ↔ '|' ∈ name.toList := by
  rw [union_iff, hName]
  simp

theorem array_iff_of_name
    {name : String}
    (hName : value.writtenNames = [name]) :
    (ofValue value).flags.array = true ↔
      ['[', ']'] <:+ name.toList := by
  rw [array_iff, hName]
  simp

theorem raw_of_name
    {name : String}
    (hName : value.writtenNames = [name]) :
    (ofValue value).typeExpr.raw = name := by
  rw [typeExpr_ofValue, hName]
  rfl

/- A node whose name is no object is no map. -/
theorem map_of_namesType
    {name : String}
    (hName : value.NamesType name) :
    ¬ (ofValue value).flags.map = true := by
  rw [map_iff]
  rintro ⟨hObject, -⟩
  exact hName.noObject (hObject.sameAscii hName.written)

/- Behind a mere name the enum and the properties decide. -/
theorem classify_of_namesType
    {name : String}
    (hName : value.NamesType name) :
    (ofValue value).classify =
      if (ofValue value).flags.enumeration then
        .enumeration (some name)
      else if (ofValue value).properties.isEmpty then
        .specialization name
      else .singleInheritance name := by
  have hWritten := hName.written
  have hUnion : ¬ (ofValue value).flags.union = true :=
    fun hUnion =>
      hName.noBar ((union_iff_of_name hWritten).mp hUnion)
  have hArray : ¬ (ofValue value).flags.array = true :=
    fun hArray =>
      hName.noBrackets ((array_iff_of_name hWritten).mp hArray)
  have hSingle :
      (ofValue value).typeExpr.single? = some name := by
    rw [typeExpr_ofValue, hWritten]
    rfl
  rw [classify_of_name hWritten, classifySingle, if_neg hUnion,
    if_neg hArray, if_neg (map_of_namesType hName),
    raw_of_name hWritten, if_neg hName.noObject, hSingle]

/- Every row tells the classification of its nodes. -/
theorem classify_of_compilesTo
    {classification : Classification}
    (hRow : value.CompilesTo classification) :
    (ofValue value).classify = classification := by
  cases hRow with
  | severalParents hNames => exact classify_of_several hNames
  | union hName hBar =>
      rw [classify_of_name hName, classifySingle,
        if_pos ((union_iff_of_name hName).mpr hBar),
        raw_of_name hName]
  | array hName hNoBar hBrackets =>
      have hUnion : ¬ (ofValue value).flags.union = true :=
        fun hUnion =>
          hNoBar ((union_iff_of_name hName).mp hUnion)
      rw [classify_of_name hName, classifySingle,
        if_neg hUnion,
        if_pos ((array_iff_of_name hName).mpr hBrackets),
        raw_of_name hName]
  | map hObject hEntries =>
      have hMap := (map_iff value).mpr ⟨hObject, hEntries⟩
      rw [classify_of_object hObject, classifySingle,
        if_neg (union_of_object hObject),
        if_neg (array_of_object hObject), if_pos hMap]
  | plainObject hObject hNoEntries =>
      have hMap : ¬ (ofValue value).flags.map = true :=
        fun hMap => hNoEntries ((map_iff value).mp hMap).2
      rw [classify_of_object hObject, classifySingle,
        if_neg (union_of_object hObject),
        if_neg (array_of_object hObject), if_neg hMap,
        if_pos (raw_of_object hObject)]
  | enumeration hName hValues =>
      rw [classify_of_namesType hName,
        if_pos ((enumeration_iff value).mpr hValues)]
  | specialization hName hNoValues hNone =>
      have hEnum : ¬ (ofValue value).flags.enumeration = true :=
        fun hEnum => hNoValues ((enumeration_iff value).mp hEnum)
      rw [classify_of_namesType hName, if_neg hEnum,
        properties_ofValue, hNone]
      rfl
  | singleInheritance hName hNoValues hSome =>
      have hEnum : ¬ (ofValue value).flags.enumeration = true :=
        fun hEnum => hNoValues ((enumeration_iff value).mp hEnum)
      have hProperties : ¬ value.properties.isEmpty = true :=
        fun hEmpty => hSome (List.isEmpty_iff.mp hEmpty)
      rw [classify_of_namesType hName, if_neg hEnum,
        properties_ofValue, if_neg hProperties]

end TypeDecl

/- Some row fits every node. -/
theorem Yaml.Value.exists_compilesTo
    [PatternLanguage]
    (value : Value) :
    ∃ classification, value.CompilesTo classification := by
  by_cases hNames : 2 ≤ value.typeNames.length
  · exact ⟨_, .severalParents hNames⟩
  · by_cases hObject : value.IsObject
    · by_cases hEntries : value.DeclaresEntries
      · exact ⟨_, .map hObject hEntries⟩
      · exact ⟨_, .plainObject hObject hEntries⟩
    · rcases writtenNames_of_few hNames with
        hNone | ⟨name, hName⟩
      · have hTypes := (writtenNames_eq_nil_iff value).mp hNone
        exact absurd (Or.inl hTypes) hObject
      · by_cases hBar : '|' ∈ name.toList
        · exact ⟨_, .union hName hBar⟩
        · by_cases hBrackets : ['[', ']'] <:+ name.toList
          · exact ⟨_, .array hName hBar hBrackets⟩
          · have hPlain : value.NamesType name :=
              ⟨hName, hBar, hBrackets,
                fun hSame =>
                  hObject (Or.inr ⟨name, hName, hSame⟩)⟩
            by_cases hValues : value.ListsValues
            · exact ⟨_, .enumeration hPlain hValues⟩
            · by_cases hProperties : value.properties = []
              · exact
                  ⟨_, .specialization hPlain hValues hProperties⟩
              · exact
                  ⟨_, .singleInheritance hPlain hValues
                    hProperties⟩

end RamlScaffold

------------------------------------------------------------
-- What No Node Is
------------------------------------------------------------

namespace RamlScaffold

open Yaml

namespace TypeDecl

variable (value : Value)

/- Several names leave a parent behind. -/
theorem firstOccurrences_typeNames_ne_nil
    (hNames : 2 ≤ value.typeNames.length) :
    firstOccurrences value.typeNames ≠ [] := by
  rcases List.exists_mem_of_length_pos
    (Nat.lt_of_lt_of_le Nat.zero_lt_two hNames) with
    ⟨name, hName⟩
  exact
    List.ne_nil_of_mem ((mem_firstOccurrences _ name).mpr hName)

variable [PatternLanguage]

/- The classification of a node is the row that fits it. -/
theorem classify_iff (classification : Classification) :
    (ofValue value).classify = classification ↔
      value.CompilesTo classification := by
  constructor
  · intro hClass
    rcases value.exists_compilesTo with ⟨other, hRow⟩
    rw [← hClass, classify_of_compilesTo hRow]
    exact hRow
  · exact classify_of_compilesTo

/- A map is neither an array nor a union. -/
theorem map_excludes :
    (ofValue value).flags.map = true →
      ¬ (ofValue value).flags.array = true ∧
        ¬ (ofValue value).flags.union = true := by
  intro hMap
  have hObject := ((map_iff value).mp hMap).1
  exact ⟨array_of_object hObject, union_of_object hObject⟩

theorem mapValue?_eq_none_iff :
    (ofValue value).mapValue? = none ↔
      ¬ value.AddsProperties ∧ value.properties.length ≠ 1 := by
  rw [← isSome_additional_iff, mapValue?, properties_ofValue]
  cases (ofValue value).additional with
  | some name => simp
  | none =>
      rcases value.properties with
        _ | ⟨first, _ | ⟨second, rest⟩⟩
      · simp
      · simp
      · simp

/- Maps are the objects that declare entries. -/
theorem classify_map_iff (valueType? : Option String) :
    (ofValue value).classify = .map valueType? ↔
      value.IsObject ∧ value.DeclaresEntries ∧
        valueType? = (ofValue value).mapValue? := by
  rw [classify_iff]
  constructor
  · intro hRow
    cases hRow with
    | map hObject hEntries => exact ⟨hObject, hEntries, rfl⟩
  · rintro ⟨hObject, hEntries, rfl⟩
    exact .map hObject hEntries

/- An enum of the type catalog has a name. -/
theorem classify_ne_enumeration_none :
    (ofValue value).classify ≠ .enumeration none := by
  rw [ne_eq, classify_iff]
  intro hRow
  cases hRow

/-
  A map has no type of values only if several properties are
  declared in place of additional ones.
-/
theorem classify_map_none_iff :
    (ofValue value).classify = .map none ↔
      value.IsObject ∧ ¬ value.AddsProperties ∧
        2 ≤ value.properties.length ∧
        ∃ property ∈ value.properties,
          IsEntryKey property.name := by
  rw [classify_map_iff]
  constructor
  · rintro ⟨hObject, hEntries, hValue⟩
    rcases (mapValue?_eq_none_iff value).mp hValue.symm with
      ⟨hNoType, hLength⟩
    rcases hEntries with hType | ⟨property, hMem, hKey⟩
    · exact absurd hType hNoType
    · have hSome := List.length_pos_of_mem hMem
      exact
        ⟨hObject, hNoType, by omega, property, hMem, hKey⟩
  · rintro ⟨hObject, hNoType, hLength, hKey⟩
    have hValue : (ofValue value).mapValue? = none :=
      (mapValue?_eq_none_iff value).mpr ⟨hNoType, by omega⟩
    exact ⟨hObject, Or.inr hKey, hValue.symm⟩

/-
  Nodes of the type catalog are classified by the table, which
  has one row for each of them.  Several parents leave a list
  that is not empty, an enum always has a name, a map is no
  array and no union, and its values lack a type only where
  several properties stand for additional ones.
-/
theorem classify_follows_table :
    (∀ classification,
      (ofValue value).classify = classification ↔
        value.CompilesTo classification) ∧
      (2 ≤ value.typeNames.length →
        firstOccurrences value.typeNames ≠ []) ∧
      (ofValue value).classify ≠ .enumeration none ∧
      ((ofValue value).flags.map = true →
        ¬ (ofValue value).flags.array = true ∧
          ¬ (ofValue value).flags.union = true) ∧
      ((ofValue value).classify = .map none ↔
        value.IsObject ∧ ¬ value.AddsProperties ∧
          2 ≤ (ofValue value).properties.length ∧
          ∃ property ∈ (ofValue value).properties,
            IsEntryKey property.name) := by
  refine
    ⟨classify_iff value,
      firstOccurrences_typeNames_ne_nil value,
      classify_ne_enumeration_none value,
      map_excludes value, ?_⟩
  rw [properties_ofValue]
  exact classify_map_none_iff value

end TypeDecl

end RamlScaffold
