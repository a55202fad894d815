import RamlScaffold.Keyed
import RamlScaffold.Api.Verb
import RamlScaffold.Api.TypeExpr

/-
  The model of an API definition: the type catalog and the
  tree of resources with their methods and bodies.

  Key definitions include:
    * `TypeFlags`, `Property`, `TypeDecl`
    * `Payload`, `Payload.toTypeDecl`
    * `Body`, `Response`, `Method`
    * `Resource`, `Resource.method?`
    * `Api`
-/

------------------------------------------------------------
-- Declarations
------------------------------------------------------------

namespace RamlScaffold

/- Structural marks that a declaration carries. -/
structure TypeFlags where
  array : Bool := false
  map : Bool := false
  enumeration : Bool := false
  union : Bool := false
deriving DecidableEq, Repr, Inhabited

/-
  A property of a declared type or of a payload.  A property
  without a type may hold any value.
-/
structure Property where
  name : String
  typeName : Option String
  required : Bool := true
deriving DecidableEq, Repr, Inhabited

/- An entry of the type catalog. -/
structure TypeDecl where
  typeExpr : TypeExpr := .absent
  properties : List Property := []
  flags : TypeFlags := {}
  additional : Option String := none
  enumValues : List String := []
  description : Option String := none
deriving DecidableEq, Repr, Inhabited

end RamlScaffold

------------------------------------------------------------
-- Bodies
------------------------------------------------------------

namespace RamlScaffold

/- The schema of a JSON body. -/
structure Payload where
  typeExpr : TypeExpr := .absent
  properties : List Property := []
  flags : TypeFlags := {}
  additional : Option String := none
deriving DecidableEq, Repr, Inhabited

namespace Payload

/- A payload seen as a declaration without a name. -/
def toTypeDecl (payload : Payload) : TypeDecl where
  typeExpr := payload.typeExpr
  properties := payload.properties
  flags := payload.flags
  additional := payload.additional

end Payload

/-
  A request or response body: its JSON schema, if it has one,
  and the other media types it declares.
-/
structure Body where
  json : Option Payload := none
  otherMediaTypes : List String := []
deriving DecidableEq, Repr, Inhabited

/- A response, under a status code or `default`. -/
structure Response where
  code : String
  body : Body
deriving DecidableEq, Repr, Inhabited

end RamlScaffold

------------------------------------------------------------
-- Resources
------------------------------------------------------------

namespace RamlScaffold

/- A method of a resource. -/
structure Method where
  verb : Verb
  description : Option String := none
  body : Body := {}
  responses : List Response := []
deriving DecidableEq, Repr, Inhabited

/-
  A resource and the resources nested in it.  The address is
  relative to the resource around it.
-/
structure Resource where
  uri : String
  displayName : Option String := none
  description : Option String := none
  methods : List Method := []
  nested : List Resource := []
deriving Repr, Inhabited

namespace Resource

/- The first method with a verb. -/
def method?
    (resource : Resource)
    (verb : Verb) : Option Method :=
  resource.methods.find? (fun method => method.verb == verb)

/- The methods in the order in which verbs are visited. -/
def orderedMethods (resource : Resource) : List Method :=
  Verb.walkOrder.filterMap resource.method?

end Resource

/- An API definition. -/
structure Api where
  title : String := ""
  baseUri : Option String := none
  types : Keyed TypeDecl := []
  resources : List Resource := []
deriving Repr, Inhabited

end RamlScaffold
