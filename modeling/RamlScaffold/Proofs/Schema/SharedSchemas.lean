import RamlScaffold.Api.Document
import RamlScaffold.Libraries
import RamlScaffold.Proofs.Schema.Shape

/-
  Schemas that are written in several places.

  A schema may stand in the type catalog, as the body of a
  method or response, and under the JSON media type of a body.
  A payload keeps neither the comments nor the enum values of
  its schema, but it keeps the flags that they led to, and the
  structure of a schema is shaped by nothing else.

  Main declarations:
    * `Structure.SameShape`, `Structure.SameShape.shape`
    * `Structure.sameShape_ofDecl`
    * `Structure.sameShape_ofPayload`
    * `Body.ofValue_schema`, `Body.ofValue_mediaType`
    * `Body.schema_shapes_alike`
-/

------------------------------------------------------------
-- Structures Of One Shape
------------------------------------------------------------

namespace RamlScaffold.Structure

/-
  Structures that differ at most in their names, packages,
  comments and enum values.
-/
structure SameShape (struct other : Structure) : Prop where
  fields_eq : struct.fields = other.fields
  kind_eq : struct.kind = other.kind
  isOneLine_eq : struct.isOneLine = other.isOneLine
  oneLine_eq : struct.oneLine = other.oneLine

namespace SameShape

theorem symm
    {struct other : Structure}
    (hSame : struct.SameShape other) :
    other.SameShape struct where
  fields_eq := hSame.fields_eq.symm
  kind_eq := hSame.kind_eq.symm
  isOneLine_eq := hSame.isOneLine_eq.symm
  oneLine_eq := hSame.oneLine_eq.symm

theorem trans
    {struct other third : Structure}
    (hSame : struct.SameShape other)
    (hOther : other.SameShape third) :
    struct.SameShape third where
  fields_eq := hSame.fields_eq.trans hOther.fields_eq
  kind_eq := hSame.kind_eq.trans hOther.kind_eq
  isOneLine_eq := hSame.isOneLine_eq.trans hOther.isOneLine_eq
  oneLine_eq := hSame.oneLine_eq.trans hOther.oneLine_eq

/- Comments and enum values are no part of a shape. -/
theorem described
    (struct : Structure)
    (description enumValues : List String) :
    { struct with
      description := description
      enumValues := enumValues }.SameShape struct :=
  ⟨rfl, rfl, rfl, rfl⟩

/- Structures of one shape that get one kind. -/
theorem withKind
    {struct other : Structure}
    (hSame : struct.SameShape other)
    (kind : Kind) :
    { struct with kind := kind }.SameShape
      { other with kind := kind } where
  fields_eq := hSame.fields_eq
  kind_eq := rfl
  isOneLine_eq := hSame.isOneLine_eq
  oneLine_eq := hSame.oneLine_eq

/- Structures of one kind that stand for one type. -/
theorem withAlias
    {struct other : Structure}
    (hKind : struct.kind = other.kind)
    (typeName : String) :
    (struct.withAlias typeName).SameShape
      (other.withAlias typeName) where
  fields_eq := rfl
  kind_eq := hKind
  isOneLine_eq := rfl
  oneLine_eq := rfl

/- Structures of one shape that get one more parent. -/
theorem withParent
    {struct other : Structure}
    (hSame : struct.SameShape other)
    (language : Language)
    (parent : String) :
    (Structure.withParent language struct parent).SameShape
      (Structure.withParent language other parent) where
  fields_eq :=
    congrArg
      (fun fields =>
        Keyed.insert parent (Field.ofParent language parent)
          fields)
      hSame.fields_eq
  kind_eq := hSame.kind_eq
  isOneLine_eq := hSame.isOneLine_eq
  oneLine_eq := hSame.oneLine_eq

/- A classification reads nothing but the shape it changes. -/
theorem shape
    {struct other : Structure}
    (hSame : struct.SameShape other)
    (language : Language)
    (classification : Classification) :
    (Structure.shape language struct classification).SameShape
      (Structure.shape language other classification) := by
  have hKept := hSame.withKind classification.kind
  cases classification with
  | multipleInheritance parents =>
      rw [shape_multipleInheritance, shape_multipleInheritance]
      exact ⟨rfl, rfl, hKept.isOneLine_eq, hKept.oneLine_eq⟩
  | union raw => exact withAlias hKept.kind_eq _
  | array raw => exact withAlias hKept.kind_eq _
  | map value =>
      cases value with
      | none => exact hKept
      | some name => exact withAlias hKept.kind_eq _
  | plainObject => exact hKept
  | enumeration base =>
      cases base with
      | none => exact hKept
      | some name => exact withAlias hKept.kind_eq _
  | specialization parent => exact withAlias hKept.kind_eq _
  | singleInheritance parent =>
      exact hKept.withParent language parent

end SameShape

end RamlScaffold.Structure

------------------------------------------------------------
-- Declarations And Payloads
------------------------------------------------------------

namespace RamlScaffold

/- What a payload drops does not count for its kind. -/
@[simp] theorem TypeDecl.classify_toPayload (decl : TypeDecl) :
    decl.toPayload.toTypeDecl.classify = decl.classify :=
  rfl

namespace Structure

variable
  (language : Language)
  (decl : TypeDecl)

/- The fields of properties do not depend on a name. -/
theorem sameShape_ofProperties
    (name other package otherPackage : String)
    (properties : List Property) :
    (ofProperties language name package properties).SameShape
      (ofProperties language other otherPackage properties) :=
  ⟨rfl, rfl, rfl, rfl⟩

/- Neither name nor package of a catalog type shapes it. -/
theorem sameShape_ofDecl
    (name other package otherPackage : String) :
    (ofDecl language name decl package).SameShape
      (ofDecl language other decl otherPackage) := by
  unfold ofDecl
  apply SameShape.shape
  exact
    (SameShape.described _ _ _).trans
      ((sameShape_ofProperties ..).trans
        (SameShape.described _ _ _).symm)

/- A payload has the shape of its schema in the catalog. -/
theorem sameShape_ofPayload
    (methodName package : String)
    (direction : Direction)
    (name otherPackage : String) :
    (ofPayload language methodName decl.toPayload package
      direction).SameShape
        (ofDecl language name decl otherPackage) := by
  unfold ofPayload ofDecl
  simp only [TypeDecl.classify_toPayload]
  apply SameShape.shape
  exact
    (sameShape_ofProperties ..).trans
      (SameShape.described _ _ _).symm

end Structure

end RamlScaffold

------------------------------------------------------------
-- Bodies
------------------------------------------------------------

namespace RamlScaffold.Body

open Yaml

/- The JSON media type is not the name of a facet. -/
theorem ne_of_jsonMediaType
    {mediaType facet : String}
    (hMedia : Text.sameAscii mediaType jsonMediaType = true)
    (hFacet : Text.sameAscii facet jsonMediaType = false) :
    mediaType ≠ facet := by
  rintro rfl
  rw [hMedia] at hFacet
  cases hFacet

variable [PatternLanguage]

/- A schema that is a body is its JSON payload. -/
theorem ofValue_schema
    {entries : List (Value × Value)}
    (hSchema :
      (get? "type" entries).isSome = true ∨
        (get? "properties" entries).isSome = true) :
    ofValue (some (.mapping entries)) =
      { json :=
          some (TypeDecl.ofValue (.mapping entries)).toPayload } :=
  if_pos (Bool.or_eq_true_iff.mpr hSchema)

/- A schema under the JSON media type, however it is spelled. -/
theorem ofValue_mediaType
    {mediaType : String}
    (hMedia : Text.sameAscii mediaType jsonMediaType = true)
    (schema : Value) :
    ofValue (some (.mapping [(.text mediaType, schema)])) =
      { json := some (TypeDecl.ofValue schema).toPayload } := by
  have hType : mediaType ≠ "type" :=
    ne_of_jsonMediaType hMedia (by decide +kernel)
  have hProperties : mediaType ≠ "properties" :=
    ne_of_jsonMediaType hMedia (by decide +kernel)
  have hNone :
      ∀ facet, mediaType ≠ facet →
        get? facet [(.text mediaType, schema)] = none := by
    intro facet hFacet
    simp [get?, Value.isText, hFacet.symm]
  simp [ofValue, hNone _ hType, hNone _ hProperties,
    Value.keyText?, withMediaType, hMedia]

variable
  {entries : List (Value × Value)}
  (hSchema :
    (get? "type" entries).isSome = true ∨
      (get? "properties" entries).isSome = true)
  {mediaType : String}
  (hMedia : Text.sameAscii mediaType jsonMediaType = true)
include hSchema hMedia

/-
  A schema that stands alone or under the JSON media type is
  one payload.  Whatever their names, packages and comments,
  its structures have the shape of the catalog's.
-/
theorem schema_shapes_alike :
    ∃ payload : Payload,
      (ofValue (some (.mapping entries))).json =
          some payload ∧
        (ofValue
          (some
            (.mapping
              [(.text mediaType, .mapping entries)]))).json =
            some payload ∧
        ∀ language methodName package direction name
            otherPackage,
          (Structure.ofPayload language methodName payload
            package direction).SameShape
              (Structure.ofDecl language name
                (TypeDecl.ofValue (.mapping entries))
                otherPackage) := by
  refine
    ⟨(TypeDecl.ofValue (.mapping entries)).toPayload,
      ?_, ?_, ?_⟩
  · rw [ofValue_schema hSchema]
  · rw [ofValue_mediaType hMedia]
  · intro language methodName package direction name
      otherPackage
    exact
      Structure.sameShape_ofPayload language _ methodName
        package direction name otherPackage

end RamlScaffold.Body

namespace RamlScaffold.Body

open Yaml

/- An enum with a comment, of which a payload keeps neither. -/
def colorSchema : List (Value × Value) :=
  [(.text "enum", .sequence [.text "red", .text "blue"]),
    (.text "type", .text "string"),
    (.text "description", .text "A color.")]

theorem colorSchema_shapes_alike :
    ∃ payload : Payload,
      (ofValue (some (.mapping colorSchema))).json =
          some payload ∧
        (ofValue
          (some
            (.mapping
              [(.text "Application/JSON",
                .mapping colorSchema)]))).json =
            some payload ∧
        (Structure.ofPayload .rust "PaintPost" payload "api"
          .request).SameShape
            (Structure.ofDecl .rust "Color"
              (TypeDecl.ofValue (.mapping colorSchema)) "api") ∧
        (Structure.ofDecl .rust "Color"
          (TypeDecl.ofValue (.mapping colorSchema)) "api").kind =
            .enumeration := by
  have hSchema :
      (get? "type" colorSchema).isSome = true ∨
        (get? "properties" colorSchema).isSome = true :=
    Or.inl rfl
  have hMedia :
      Text.sameAscii "Application/JSON" jsonMediaType = true := by
    decide +kernel
  rcases schema_shapes_alike hSchema hMedia with
    ⟨payload, hDirect, hTyped, hAlike⟩
  exact
    ⟨payload, hDirect, hTyped,
      hAlike .rust "PaintPost" "api" .request "Color" "api",
      by decide +kernel⟩

end RamlScaffold.Body
