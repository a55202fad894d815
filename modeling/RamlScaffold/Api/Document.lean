import RamlScaffold.Api.Languages
import RamlScaffold.Api.Model

/-
  The API definition that a document describes.

  Keys and scalars are read where the model asks for them, and
  what does not fit the place it stands in counts as missing.
  Only the tree of resources is strict: each node has to be a
  mapping or empty, and each verb may be declared once.

  Key definitions include:
    * `Yaml.Value.keyText?`
    * `TypeExpr.ofValue`, `TypeExpr.elementName`
    * `isMapPatternKey`, `TypeFlags.derive`
    * `Property.ofEntry`, `TypeDecl.ofValue`
    * `Body.ofValue`, `Method.ofValue`
    * `ResourceFault`, `Resource.ofValue`
    * `DocumentFault`, `Api.ofValue`, `Api.parse`
-/

------------------------------------------------------------
-- Scalars
------------------------------------------------------------

namespace RamlScaffold

namespace Yaml

/- The text of a scalar that is a key or an enum value. -/
def Value.keyText? : Value → Option String
  | .text content => some content
  | .number value => some value.render
  | .bool value => some (if value then "true" else "false")
  | _ => none

/- The text under a key. -/
def getText?
    (key : String)
    (entries : List (Value × Value)) : Option String :=
  (get? key entries).bind Value.asText?

end Yaml

end RamlScaffold

------------------------------------------------------------
-- Type Facets
------------------------------------------------------------

namespace RamlScaffold

open Yaml

namespace TypeExpr

/- The expression that a `type` facet writes. -/
def ofValue : Option Value → TypeExpr
  | some (.text content) => parse content
  | some (.sequence items) =>
      ofNames
        (((items.filterMap Value.asText?).map
          Text.trimmed).filter (· != ""))
  | _ => .absent

/- Whether the expression is the word for an array. -/
def isArrayWord : TypeExpr → Bool
  | .single name => Text.sameAscii (Text.trimmed name) "array"
  | _ => false

/- The array over an element; unions are parenthesised. -/
def arrayOf (element : String) : TypeExpr :=
  if element.contains '|' then .single ("(" ++ element ++ ")[]")
  else .single (element ++ "[]")

/- The long form of an array in its short form. -/
def withElement
    (typeExpr : TypeExpr)
    (element : String) : TypeExpr :=
  if typeExpr.isArrayWord then arrayOf element else typeExpr

/- The written form, with a name for a missing facet. -/
def rawOr
    (missing : String)
    (typeExpr : TypeExpr) : String :=
  if typeExpr.isAbsent then missing else typeExpr.raw

/- What a schema without `type` is, by its properties. -/
def missingName (entries : List (Value × Value)) : String :=
  if (get? "properties" entries).isSome then "object" else "any"

mutual

/- The element type that an `items` facet declares. -/
def elementName : Value → String
  | .mapping entries =>
      ((ofValue (get? "type" entries)).withElement
        (itemsName entries)).rawOr (missingName entries)
  | value => (ofValue (some value)).rawOr "any"

/- The element type that the `items` of a schema declare. -/
def itemsName : List (Value × Value) → String
  | [] => "any"
  | (key, value) :: entries =>
      if key.isText "items" then elementName value
      else itemsName entries

end

/- The expression of a schema, with arrays in short form. -/
def ofSchema (entries : List (Value × Value)) : TypeExpr :=
  (ofValue (get? "type" entries)).withElement
    (itemsName entries)

end TypeExpr

end RamlScaffold

------------------------------------------------------------
-- Flags
------------------------------------------------------------

namespace RamlScaffold

variable [PatternLanguage]

/-
  Whether a property key declares map entries: empty brackets,
  two slashes, or a pattern between slashes.  A pattern that
  does not compile is an ordinary name.
-/
def isMapPatternKey (key : String) : Bool :=
  match key.toList with
  | ['[', ']'] => true
  | ['/', '/'] => true
  | '/' :: rest =>
      match Text.stripEnd? ['/'] rest with
      | some [] => false
      | some pattern =>
          PatternLanguage.compiles (String.ofList pattern)
      | none => false
  | _ => false

namespace TypeExpr

/- Whether the expression is an object or missing. -/
def isObjectLike : TypeExpr → Bool
  | .absent => true
  | .single name => Text.sameAscii name "object"
  | .multiple _ => false

/- Whether a lone name passes a test on its characters. -/
def nameHas
    (test : List Char → Bool) : TypeExpr → Bool
  | .single name => test name.toList
  | _ => false

end TypeExpr

/- The flags of a declaration, by its facets. -/
def TypeFlags.derive
    (typeExpr : TypeExpr)
    (properties : List Property)
    (additional : Option String)
    (enumValues : List String) : TypeFlags where
  array :=
    typeExpr.nameHas
      (fun name => ['[', ']'].isSuffixOf (Text.trimEnd name))
  union := typeExpr.nameHas (fun name => name.contains '|')
  map :=
    typeExpr.isObjectLike &&
      (additional.isSome ||
        properties.any (fun p => isMapPatternKey p.name))
  enumeration := !enumValues.isEmpty

end RamlScaffold

------------------------------------------------------------
-- Properties
------------------------------------------------------------

namespace RamlScaffold

open Yaml

variable [PatternLanguage]

namespace Property

/-
  The name of a property key and whether the key alone makes
  it required.  A question mark at the end is a marker.
-/
def nameOfKey (key : String) : String × Bool :=
  match Text.stripEnd? ['?'] key.toList with
  | some stripped =>
      if isMapPatternKey key then (key, true)
      else (String.ofList stripped, false)
  | none => (key, true)

/- A property of a schema, by its key and its value. -/
def ofEntry
    (key : String)
    (value : Value) : Property :=
  let (name, required) := nameOfKey key
  match value with
  | .text content =>
      { name := name
        typeName := some (Text.trimmed content)
        required := required }
  | .sequence items =>
      { name := name
        typeName :=
          some (TypeExpr.ofValue (some (.sequence items))).raw
        required := required }
  | .mapping entries =>
      let typeExpr := TypeExpr.ofSchema entries
      { name := name
        typeName :=
          if typeExpr.isAbsent then
            if (get? "properties" entries).isSome then
              some "object"
            else none
          else some typeExpr.raw
        required :=
          ((get? "required" entries).bind
            Value.asBool?).getD required }
  | _ =>
      { name := name, typeName := none, required := required }

/- The properties that a `properties` facet declares. -/
def listOfValue : Option Value → List Property
  | some (.mapping entries) =>
      entries.filterMap
        (fun (key, value) =>
          key.keyText?.map (fun name => ofEntry name value))
  | _ => []

end Property

end RamlScaffold

------------------------------------------------------------
-- Declarations
------------------------------------------------------------

namespace RamlScaffold

open Yaml

variable [PatternLanguage]

namespace TypeDecl

/- The type of additional properties, if any are declared. -/
def additionalOfValue : Option Value → Option String
  | some (.text content) => some (Text.trimmed content)
  | some (.mapping entries) =>
      some ((TypeExpr.ofValue (get? "type" entries)).rawOr "any")
  | _ => none

/- The values of an `enum` facet. -/
def enumOfValue : Option Value → List String
  | some (.sequence items) => items.filterMap Value.keyText?
  | _ => []

/- The declaration of a type by its parts. -/
def ofParts
    (typeExpr : TypeExpr)
    (properties : List Property)
    (additional : Option String)
    (enumValues : List String)
    (description : Option String) : TypeDecl where
  typeExpr := typeExpr
  properties := properties
  flags :=
    TypeFlags.derive typeExpr properties additional enumValues
  additional := additional
  enumValues := enumValues
  description := description

/- A declaration by its schema, or by its type alone. -/
def ofValue : Value → TypeDecl
  | .mapping entries =>
      ofParts (TypeExpr.ofSchema entries)
        (Property.listOfValue (get? "properties" entries))
        (additionalOfValue (get? "additionalProperties" entries))
        (enumOfValue (get? "enum" entries))
        (getText? "description" entries)
  | value =>
      ofParts
        ((TypeExpr.ofValue (some value)).withElement "any")
        [] none [] none

/- The payload with the schema of a declaration. -/
def toPayload (decl : TypeDecl) : Payload where
  typeExpr := decl.typeExpr
  properties := decl.properties
  flags := decl.flags
  additional := decl.additional

end TypeDecl

end RamlScaffold

------------------------------------------------------------
-- Bodies And Methods
------------------------------------------------------------

namespace RamlScaffold

open Yaml

variable [PatternLanguage]

namespace Body

/- The media type whose schema counts. -/
def jsonMediaType : String := "application/json"

/- A body with one more media type. -/
def withMediaType
    (body : Body)
    (mediaType : String)
    (schema : Value) : Body :=
  if Text.sameAscii mediaType jsonMediaType then
    { body with
      json := some (TypeDecl.ofValue schema).toPayload }
  else
    { body with
      otherMediaTypes := body.otherMediaTypes ++ [mediaType] }

/-
  The body that a node declares.  A schema without a media
  type is a JSON schema.
-/
def ofValue : Option Value → Body
  | some (.mapping entries) =>
      if (get? "type" entries).isSome ||
          (get? "properties" entries).isSome then
        { json :=
            some (TypeDecl.ofValue (.mapping entries)).toPayload }
      else
        entries.foldl
          (fun body (key, schema) =>
            match key.keyText? with
            | some mediaType => body.withMediaType mediaType schema
            | none => body)
          {}
  | _ => {}

end Body

namespace Response

/- A response under its code. -/
def ofEntry
    (code : String)
    (value : Value) : Response where
  code := code
  body :=
    match value with
    | .mapping entries => Body.ofValue (get? "body" entries)
    | _ => {}

/- The responses that a `responses` facet declares. -/
def listOfValue : Option Value → List Response
  | some (.mapping entries) =>
      entries.filterMap
        (fun (key, value) =>
          key.keyText?.map (fun code => ofEntry code value))
  | _ => []

end Response

/- The method that a verb declares. -/
def Method.ofValue
    (verb : Verb) : Value → Method
  | .mapping entries =>
      { verb := verb
        description := getText? "description" entries
        body := Body.ofValue (get? "body" entries)
        responses :=
          Response.listOfValue (get? "responses" entries) }
  | _ => { verb := verb }

end RamlScaffold

------------------------------------------------------------
-- Resources
------------------------------------------------------------

namespace RamlScaffold

open Yaml

variable [PatternLanguage]

/- Why a tree of resources is malformed. -/
inductive ResourceFault where
  | notMapping (uri : String)
  | verbTwice (uri : String) (verb : Verb)
  | inside (uri : String) (fault : ResourceFault)
deriving DecidableEq, Repr

namespace ResourceFault

/- The messages of a fault, the outermost first. -/
def messages : ResourceFault → List String
  | .notMapping uri =>
      ["resource " ++ uri ++ " must be a mapping"]
  | .verbTwice uri verb =>
      ["resource " ++ uri ++ " declares " ++ verb.wireName ++
        " twice"]
  | .inside uri fault => ("in resource " ++ uri) :: fault.messages

end ResourceFault

/- Whether a key names a resource. -/
def isResourceKey (key : String) : Bool :=
  key.toList.head? == some '/'

namespace Resource

mutual

/- The resource at an address. -/
def ofValue
    (uri : String) : Value → Except ResourceFault Resource
  | .null => .ok { uri := uri }
  | .mapping entries =>
      withEntries
        { uri := uri
          displayName := getText? "displayName" entries
          description := getText? "description" entries }
        entries
  | _ => .error (.notMapping uri)

/- A resource with the children and methods of entries. -/
def withEntries
    (resource : Resource) :
    List (Value × Value) → Except ResourceFault Resource
  | [] => .ok resource
  | (key, value) :: entries =>
      match key.keyText? with
      | none => withEntries resource entries
      | some name =>
          if isResourceKey name then
            match ofValue name value with
            | .error fault => .error (.inside resource.uri fault)
            | .ok child =>
                withEntries
                  { resource with
                    nested := resource.nested ++ [child] }
                  entries
          else
            match Verb.parse? name with
            | none => withEntries resource entries
            | some verb =>
                if (resource.method? verb).isSome then
                  .error (.verbTwice resource.uri verb)
                else
                  withEntries
                    { resource with
                      methods :=
                        resource.methods ++
                          [Method.ofValue verb value] }
                    entries

end

/- The resources among the entries of a document root. -/
def listOfEntries :
    List (Value × Value) →
      Except ResourceFault (List Resource)
  | [] => .ok []
  | (key, value) :: entries =>
      match key.keyText? with
      | none => listOfEntries entries
      | some name =>
          if isResourceKey name then do
            let resource ← ofValue name value
            let resources ← listOfEntries entries
            return resource :: resources
          else listOfEntries entries

end Resource

end RamlScaffold

------------------------------------------------------------
-- Definitions
------------------------------------------------------------

namespace RamlScaffold

open Yaml

/- Why a document is no API definition. -/
inductive DocumentFault where
  | malformed
  | rootNotMapping
  | resource (fault : ResourceFault)
deriving DecidableEq, Repr

namespace DocumentFault

/- The messages of a fault, the outermost first. -/
def messages : DocumentFault → List String
  | .malformed => ["Failed to parse RAML document as YAML"]
  | .rootNotMapping => ["RAML document root must be a mapping"]
  | .resource fault => fault.messages

end DocumentFault

namespace Api

variable [PatternLanguage]

/- The catalog with the types of one section added. -/
def addTypes
    (types : Keyed TypeDecl)
    (catalog : Option Value) : Keyed TypeDecl :=
  match catalog with
  | some (.mapping entries) =>
      entries.foldl
        (fun types (key, value) =>
          match key.keyText? with
          | some name => types.insert name (TypeDecl.ofValue value)
          | none => types)
        types
  | _ => types

/- The type catalog; later sections replace earlier ones. -/
def catalogOf
    (entries : List (Value × Value)) : Keyed TypeDecl :=
  addTypes (addTypes [] (get? "types" entries))
    (get? "schemas" entries)

/- The definition that the value of a document describes. -/
def ofValue (root : Value) : Except DocumentFault Api :=
  match root.asMapping? with
  | none => .error .rootNotMapping
  | some entries =>
      match Resource.listOfEntries entries with
      | .error fault => .error (.resource fault)
      | .ok resources =>
          .ok
            { title := (getText? "title" entries).getD ""
              baseUri := getText? "baseUri" entries
              types := catalogOf entries
              resources := resources }

/- The definition that a text describes. -/
def parse
    [DocumentLanguage]
    (text : String) : Except DocumentFault Api :=
  match DocumentLanguage.read? text with
  | none => .error .malformed
  | some root => ofValue root

end Api

end RamlScaffold
