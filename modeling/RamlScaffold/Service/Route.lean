import RamlScaffold.Schema.Structure

/-
  What the sources of a resource are generated from: its name,
  its routes, and the same for the resources nested in it.

  Key definitions include:
    * `Route`
    * `Service`
    * `Service.allRoutes`
    * `Resource.describe`
-/

------------------------------------------------------------
-- Routes
------------------------------------------------------------

namespace RamlScaffold

/- A route: one method at the full path of a resource. -/
structure Route where
  handlerName : String
  endpoint : String
  verb : Verb
  pathParams : List String
  requestBody : Option String
  responseBody : Option String
  description : List String
deriving DecidableEq, Repr, Inhabited

/- A resource as the templates see it. -/
structure Service where
  name : String
  endpoint : String
  package : String
  routes : List Route
  nested : List Service
  isServer : Bool
  description : List String
deriving Repr, Inhabited

namespace Service

mutual

/- The routes of a service, then those nested in it. -/
def allRoutes : Service → List Route
  | ⟨_, _, _, routes, nested, _, _⟩ =>
      routes ++ allRoutesOfList nested

/- The routes of services, in order. -/
def allRoutesOfList : List Service → List Route
  | [] => []
  | service :: services =>
      allRoutes service ++ allRoutesOfList services

end

end Service

end RamlScaffold

------------------------------------------------------------
-- Description
------------------------------------------------------------

namespace RamlScaffold

/- The route of a method at a path. -/
def Method.route
    (path : String)
    (method : Method) : Route :=
  let handlerName :=
    Naming.normalize path (some method.verb.title)
  let hasResponse :=
    method.responses.any (fun r => r.body.json.isSome)
  { handlerName := handlerName
    endpoint := path
    verb := method.verb
    pathParams := Naming.pathParams path
    requestBody :=
      if method.body.json.isSome then
        some (handlerName ++ Direction.ending .request)
      else none
    responseBody :=
      if hasResponse then
        some (handlerName ++ Direction.ending .response)
      else none
    description := (method.description.map Text.lines).getD [] }

namespace Resource

mutual

/- The service of a resource below an ancestor path. -/
def describe
    (package : String)
    (isServer : Bool)
    (ancestor : String) :
    Resource → Service
  | ⟨uri, displayName, description, methods, nested⟩ =>
      let resource : Resource :=
        ⟨uri, displayName, description, methods, nested⟩
      let path := ancestor ++ uri
      { name := Naming.normalize path none
        endpoint := path
        package := package
        routes := resource.orderedMethods.map (Method.route path)
        nested := describeList package isServer path nested
        isServer := isServer
        description :=
          ((description <|> displayName).map
            Text.lines).getD [] }

/- The services of resources that share an ancestor path. -/
def describeList
    (package : String)
    (isServer : Bool)
    (ancestor : String) :
    List Resource → List Service
  | [] => []
  | resource :: resources =>
      describe package isServer ancestor resource ::
        describeList package isServer ancestor resources

end

end Resource

end RamlScaffold
