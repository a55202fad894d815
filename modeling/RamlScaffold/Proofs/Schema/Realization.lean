import RamlScaffold.Proofs.Keyed.Order
import RamlScaffold.Proofs.Language.TypeReading
import RamlScaffold.Proofs.Schema.Shape

/-
  What a structure owes to the declaration it is made of.

  A classification either calls for an alias, replaces the
  fields by parents, keeps the fields of the properties, or
  puts one parent beside them.  There is one lemma for each of
  the first three.

  Main declarations:
    * `TypeExpr.names`
    * `Classification.isAlias`, `Classification.isPlain`
    * `Structure.Realizes`
    * `TypeDecl.parents_of_classify`
    * `Structure.realizes_of_decl_and_payload`
-/

------------------------------------------------------------
-- Classifications
------------------------------------------------------------

namespace RamlScaffold

/- The names that a type facet gives. -/
def TypeExpr.names : TypeExpr → List String
  | .absent => []
  | .single name => [name]
  | .multiple names => names

namespace Classification

/- Whether a classification calls for an alias. -/
def isAlias : Classification → Bool
  | .union _ => true
  | .array _ => true
  | .map value => value.isSome
  | .enumeration base => base.isSome
  | .specialization _ => true
  | _ => false

/- Whether a classification keeps the fields as they are. -/
def isPlain : Classification → Bool
  | .plainObject => true
  | .map value => value.isNone
  | .enumeration base => base.isNone
  | _ => false

end Classification

/-
  A structure that has the form its declaration calls for.
  The keys of its fields are strictly ascending, so each is
  there once.
-/
structure Structure.Realizes
    (struct : Structure)
    (decl : TypeDecl) : Prop where
  kind_eq : struct.kind = decl.classify.kind
  isOneLine_eq : struct.isOneLine = decl.classify.isAlias
  aliased :
    struct.isOneLine = true →
      struct.fields = [] ∧ struct.oneLine ≠ ""
  fielded : struct.isOneLine = false → struct.oneLine = ""
  parents :
    decl.classify.kind = .multipleInheritance →
      (∀ entry ∈ struct.fields, entry.2.isEmbedded = true) ∧
        struct.fields.Ascending ∧
        ∀ key,
          key ∈ struct.fields.keys ↔
            key ≠ "" ∧
              ∃ name ∈ decl.typeExpr.names,
                Text.trimmed name = key
  own :
    decl.classify.isPlain = true →
      (∀ entry ∈ struct.fields, entry.2.isEmbedded = false) ∧
        struct.fields.Ascending ∧
        ∀ key,
          key ∈ struct.fields.keys ↔
            ∃ property ∈ decl.properties, property.name = key

end RamlScaffold

------------------------------------------------------------
-- Parents
------------------------------------------------------------

namespace RamlScaffold

theorem mem_firstOccurrences
    (names : List String)
    (name : String) :
    name ∈ firstOccurrences names ↔ name ∈ names := by
  have hFold (kept : List String) :
      name ∈ names.foldl
        (fun kept other =>
          if kept.contains other then kept
          else kept ++ [other])
        kept ↔
        name ∈ kept ∨ name ∈ names := by
    induction names generalizing kept with
    | nil => simp
    | cons first names ih =>
        rw [List.foldl_cons, ih]
        split
        · next hKept =>
            have hFirst : first ∈ kept :=
              List.contains_iff_mem.mp hKept
            grind
        · grind
  exact (hFold []).trans (by simp)

namespace TypeExpr

/- The parents are the names, trimmed, that are not empty. -/
theorem mem_parents
    (names : List String)
    (parent : String) :
    parent ∈ parents names ↔
      parent ≠ "" ∧
        ∃ name ∈ names, Text.trimmed name = parent := by
  unfold parents
  rw [mem_firstOccurrences, List.mem_filter, List.mem_map,
    bne_iff_ne]
  exact and_comm

end TypeExpr

namespace TypeDecl

theorem kind_classifySingle_ne (decl : TypeDecl) :
    decl.classifySingle.kind ≠ .multipleInheritance := by
  unfold classifySingle
  grind [Classification.kind]

/- Several parents are those that the type facet names. -/
theorem parents_of_classify
    {decl : TypeDecl}
    (hKind : decl.classify.kind = .multipleInheritance) :
    decl.classify =
      .multipleInheritance
        (TypeExpr.parents decl.typeExpr.names) := by
  unfold classify at hKind ⊢
  split
  · next first second rest hExpr =>
      rw [hExpr]
      rfl
  · next hExpr =>
      split at hKind
      · next first second rest hSame =>
          exact absurd hSame (hExpr first second rest)
      · exact absurd hKind decl.kind_classifySingle_ne

end TypeDecl

end RamlScaffold

------------------------------------------------------------
-- Shapes
------------------------------------------------------------

namespace RamlScaffold.Structure

@[simp] theorem shape_kind
    (language : Language)
    (struct : Structure)
    (classification : Classification) :
    (shape language struct classification).kind =
      classification.kind := by
  cases classification with
  | multipleInheritance parents =>
      rw [shape_multipleInheritance]
      rfl
  | map value => cases value <;> rfl
  | enumeration base => cases base <;> rfl
  | _ => rfl

/- An alias has no fields and stands for some type. -/
theorem shape_of_isAlias
    (language : Language)
    (struct : Structure)
    {classification : Classification}
    (hAlias : classification.isAlias = true) :
    ∃ typeName ≠ "",
      shape language struct classification =
        { struct with
          kind := classification.kind
          fields := []
          alias? := some typeName } := by
  cases classification with
  | union raw =>
      exact ⟨_, language.anyType_ne_empty, rfl⟩
  | array raw =>
      exact ⟨_, language.convert_ne_empty raw, rfl⟩
  | map value =>
      rcases Option.isSome_iff_exists.mp hAlias with
        ⟨element, rfl⟩
      exact ⟨_, language.mapOf_ne_empty _, rfl⟩
  | enumeration base =>
      rcases Option.isSome_iff_exists.mp hAlias with
        ⟨name, rfl⟩
      exact ⟨_, language.convert_ne_empty name, rfl⟩
  | specialization parent =>
      exact ⟨_, language.convert_ne_empty parent, rfl⟩
  | multipleInheritance _ => cases hAlias
  | plainObject => cases hAlias
  | singleInheritance _ => cases hAlias

/- Only a classification makes a structure an alias. -/
theorem isOneLine_shape
    (language : Language)
    {struct : Structure}
    (hStruct : struct.alias? = none)
    (classification : Classification) :
    (shape language struct classification).isOneLine =
      classification.isAlias := by
  have hKept : struct.alias?.isSome = false := by
    rw [hStruct]
    rfl
  cases classification with
  | multipleInheritance parents =>
      rw [shape_multipleInheritance]
      exact hKept
  | map value =>
      cases value with
      | none => exact hKept
      | some element => rfl
  | enumeration base =>
      cases base with
      | none => exact hKept
      | some name => rfl
  | plainObject => exact hKept
  | singleInheritance parent => exact hKept
  | _ => rfl

/- Plain structures keep their fields. -/
theorem fields_shape_of_isPlain
    (language : Language)
    (struct : Structure)
    {classification : Classification}
    (hPlain : classification.isPlain = true) :
    (shape language struct classification).fields =
      struct.fields := by
  cases classification with
  | plainObject => rfl
  | map value =>
      rw [Option.isNone_iff_eq_none.mp hPlain]
      rfl
  | enumeration base =>
      rw [Option.isNone_iff_eq_none.mp hPlain]
      rfl
  | multipleInheritance _ => cases hPlain
  | union _ => cases hPlain
  | array _ => cases hPlain
  | specialization _ => cases hPlain
  | singleInheritance _ => cases hPlain

end RamlScaffold.Structure

------------------------------------------------------------
-- Structures Of Declarations
------------------------------------------------------------

namespace RamlScaffold.Structure

/- A structure with a field for each property, no more. -/
structure HasFieldsOf
    (struct : Structure)
    (language : Language)
    (properties : List Property) : Prop where
  fields_eq :
    struct.fields =
      Keyed.ofList
        (properties.map
          (fun property =>
            (property.name,
              Field.ofProperty language property)))
  alias?_eq : struct.alias? = none

/- Parents are embedded, each under its name. -/
theorem parents_of_shape
    (language : Language)
    (struct : Structure)
    {decl : TypeDecl}
    (hKind : decl.classify.kind = .multipleInheritance) :
    let fields := (shape language struct decl.classify).fields
    (∀ entry ∈ fields, entry.2.isEmbedded = true) ∧
      fields.Ascending ∧
      ∀ key,
        key ∈ fields.keys ↔
          key ≠ "" ∧
            ∃ name ∈ decl.typeExpr.names,
              Text.trimmed name = key := by
  rw [TypeDecl.parents_of_classify hKind,
    shape_multipleInheritance]
  refine ⟨?_, Keyed.ascending_ofList _, ?_⟩
  · intro entry hEntry
    rcases List.mem_map.mp
        (Keyed.mem_of_mem_ofList hEntry) with
      ⟨parent, _, rfl⟩
    rfl
  · intro key
    rw [Keyed.mem_keys_ofList, ← TypeExpr.mem_parents]
    simp

/- Properties become fields, each under its name. -/
theorem own_of_shape
    {language : Language}
    {struct : Structure}
    {decl : TypeDecl}
    (hStruct : struct.HasFieldsOf language decl.properties)
    (hPlain : decl.classify.isPlain = true) :
    let fields := (shape language struct decl.classify).fields
    (∀ entry ∈ fields, entry.2.isEmbedded = false) ∧
      fields.Ascending ∧
      ∀ key,
        key ∈ fields.keys ↔
          ∃ property ∈ decl.properties,
            property.name = key := by
  rw [fields_shape_of_isPlain language struct hPlain,
    hStruct.fields_eq]
  refine ⟨?_, Keyed.ascending_ofList _, ?_⟩
  · intro entry hEntry
    rcases List.mem_map.mp
        (Keyed.mem_of_mem_ofList hEntry) with
      ⟨property, _, rfl⟩
    rfl
  · intro key
    rw [Keyed.mem_keys_ofList]
    simp

/-
  Shaping a structure that has the fields of the properties
  makes one that has the form the declaration calls for.
-/
theorem realizes_shape
    {language : Language}
    {struct : Structure}
    {decl : TypeDecl}
    (hStruct : struct.HasFieldsOf language decl.properties) :
    (shape language struct decl.classify).Realizes decl where
  kind_eq := shape_kind language struct decl.classify
  isOneLine_eq :=
    isOneLine_shape language hStruct.alias?_eq _
  aliased := by
    intro hOneLine
    rw [isOneLine_shape language hStruct.alias?_eq] at hOneLine
    rcases shape_of_isAlias language struct hOneLine with
      ⟨typeName, hName, hShape⟩
    rw [hShape]
    exact ⟨rfl, hName⟩
  fielded := by
    intro hFielded
    rw [oneLine, Option.isNone_iff_eq_none.mp
      (Option.isSome_eq_false_iff.mp hFielded)]
    rfl
  parents := parents_of_shape language struct
  own := own_of_shape hStruct

/-
  Whatever its declaration or payload says, a structure has
  the form that its classification calls for.
-/
theorem realizes_of_decl_and_payload
    (language : Language)
    (package : String) :
    (∀ name decl,
      (ofDecl language name decl package).Realizes decl) ∧
      ∀ methodName payload direction,
        (ofPayload language methodName payload package
          direction).Realizes payload.toTypeDecl :=
  ⟨fun _ _ => realizes_shape ⟨rfl, rfl⟩,
    fun _ _ _ => realizes_shape ⟨rfl, rfl⟩⟩

/- A parent that is named twice is embedded once. -/
example :
    (ofDecl .go "Cat"
        { typeExpr := .multiple ["Pet", "Named ", " Named"] }
        "api").fields.keys =
      ["Named", "Pet"] := by
  decide +kernel

end RamlScaffold.Structure
