import RamlScaffold.Schema.Classification
import RamlScaffold.Language.FieldName
import RamlScaffold.Language.TypeShape

/-
  The structures that declarations and payloads compile to.

  A structure either has fields or is an alias for a type on
  one line.  Parents are embedded as fields of their own.

  Key definitions include:
    * `Field`, `Structure`
    * `Structure.ofProperties`
    * `Structure.shape`
    * `Structure.ofDecl`
    * `Direction`, `Structure.ofPayload`
-/

------------------------------------------------------------
-- Structures
------------------------------------------------------------

namespace RamlScaffold

/-
  A field of a structure.  An embedded field stands for a
  parent rather than for a value with a name.
-/
structure Field where
  name : String
  wireName : String
  typeName : String
  required : Bool := true
  isEmbedded : Bool := false
deriving DecidableEq, Repr, Inhabited

/-
  A structure to be generated.  Fields are kept by their wire
  names, or by the name of the parent that they embed.
-/
structure Structure where
  name : String
  package : String
  fields : Keyed Field := []
  alias? : Option String := none
  description : List String := []
  kind : Kind := .plainObject
  enumValues : List String := []
deriving DecidableEq, Repr, Inhabited

namespace Structure

/- Whether the structure is an alias on one line. -/
def isOneLine (struct : Structure) : Bool :=
  struct.alias?.isSome

/- The type that the structure is an alias for, or no text. -/
def oneLine (struct : Structure) : String :=
  struct.alias?.getD ""

/- The embedded fields, in the order of their keys. -/
def embedded (struct : Structure) : List Field :=
  (struct.fields.map Prod.snd).filter (·.isEmbedded)

/- The fields that are not embedded, in the order of keys. -/
def own (struct : Structure) : List Field :=
  (struct.fields.map Prod.snd).filter
    (fun field => !field.isEmbedded)

end Structure

end RamlScaffold

------------------------------------------------------------
-- Fields
------------------------------------------------------------

namespace RamlScaffold

namespace Field

/- The field that embeds a parent. -/
def ofParent
    (language : Language)
    (parent : String) : Field where
  name := language.fieldName parent
  wireName := parent
  typeName := language.convert parent
  required := true
  isEmbedded := true

/- The field of a property. -/
def ofProperty
    (language : Language)
    (property : Property) : Field where
  name := language.fieldName property.name
  wireName := property.name
  typeName :=
    match property.typeName with
    | some name => language.convert name
    | none => language.anyType
  required := property.required

end Field

end RamlScaffold

------------------------------------------------------------
-- Synthesis
------------------------------------------------------------

namespace RamlScaffold

namespace Structure

/- The structure with a field for each property. -/
def ofProperties
    (language : Language)
    (name package : String)
    (properties : List Property) : Structure where
  name := name
  package := package
  fields :=
    Keyed.ofList
      (properties.map
        (fun property =>
          (property.name, Field.ofProperty language property)))

/- A structure without fields that stands for a type. -/
def withAlias
    (struct : Structure)
    (typeName : String) : Structure :=
  { struct with fields := [], alias? := some typeName }

/- A structure with one more parent. -/
def withParent
    (language : Language)
    (struct : Structure)
    (parent : String) : Structure :=
  { struct with
    fields :=
      struct.fields.insert parent
        (Field.ofParent language parent) }

/- A structure reshaped by its classification. -/
def shape
    (language : Language)
    (struct : Structure)
    (classification : Classification) : Structure :=
  let kept := { struct with kind := classification.kind }
  match classification with
  | .multipleInheritance parents =>
      parents.foldl (withParent language) { kept with fields := [] }
  | .union raw => kept.withAlias (language.convertUnion raw)
  | .array raw => kept.withAlias (language.convert raw)
  | .map (some value) =>
      kept.withAlias (language.mapOf (language.convert value))
  | .map none => kept
  | .plainObject => kept
  | .enumeration (some base) =>
      kept.withAlias (language.convert base)
  | .enumeration none => kept
  | .specialization parent =>
      kept.withAlias (language.convert parent)
  | .singleInheritance parent => withParent language kept parent

/- The structure of a catalog type under its name. -/
def ofDecl
    (language : Language)
    (name : String)
    (decl : TypeDecl)
    (package : String) : Structure :=
  let plain :=
    ofProperties language (Naming.typeIdentifier name) package
      decl.properties
  shape language
    { plain with
      description := (decl.description.map Text.lines).getD []
      enumValues := decl.enumValues }
    decl.classify

end Structure

end RamlScaffold

------------------------------------------------------------
-- Payloads
------------------------------------------------------------

namespace RamlScaffold

/- Whether a body is sent or received by a client. -/
inductive Direction where
  | request
  | response
deriving DecidableEq, Repr

/- The end of the names of body structures. -/
def Direction.ending : Direction → String
  | .request => "Req"
  | .response => "Resp"

/- The structure of a payload under the name of a method. -/
def Structure.ofPayload
    (language : Language)
    (methodName : String)
    (payload : Payload)
    (package : String)
    (direction : Direction) : Structure :=
  let decl := payload.toTypeDecl
  shape language
    (ofProperties language (methodName ++ direction.ending)
      package decl.properties)
    decl.classify

end RamlScaffold
