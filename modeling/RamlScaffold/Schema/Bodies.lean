import RamlScaffold.Schema.Structure

/-
  The structures of the bodies in a tree of resources.

  The walk visits a resource before the resources nested in
  it, and its verbs in the fixed order.  A method has at most
  one request and one response structure, the latter from its
  first response with a payload.

  Key definitions include:
    * `BodyStep`
    * `Method.bodySteps`
    * `Resource.bodySteps`, `Resource.bodyStructures`
    * `Resource.walkSteps`, `Resource.walkBodies`
    * `Api.bodySteps`, `Api.bodyStructures`
    * `Api.walkSteps`
-/

------------------------------------------------------------
-- Steps
------------------------------------------------------------

namespace RamlScaffold

/- What the walk does at a body. -/
inductive BodyStep where
  | emit (struct : Structure)
  | skip (methodName code : String)
deriving Repr

/- The structure that a step emits, if it emits one. -/
def BodyStep.structure? : BodyStep → Option Structure
  | .emit struct => some struct
  | .skip _ _ => none

namespace Method

/- The responses with a payload, under their codes. -/
def jsonResponses (method : Method) : List (String × Payload) :=
  method.responses.filterMap
    (fun response =>
      response.body.json.map
        (fun payload => (response.code, payload)))

/- The steps at the responses of a method. -/
def responseSteps
    (language : Language)
    (methodName package : String)
    (method : Method) : List BodyStep :=
  match method.jsonResponses with
  | [] => []
  | (_, payload) :: others =>
      .emit
        (Structure.ofPayload language methodName payload package
          .response) ::
        others.map (fun (code, _) => .skip methodName code)

/- The steps at the bodies of a method. -/
def bodySteps
    (language : Language)
    (methodName package : String)
    (method : Method) : List BodyStep :=
  let request :=
    match method.body.json with
    | some payload =>
        [.emit
          (Structure.ofPayload language methodName payload
            package .request)]
    | none => []
  request ++ method.responseSteps language methodName package

end Method

end RamlScaffold

------------------------------------------------------------
-- Steps Of A Tree
------------------------------------------------------------

namespace RamlScaffold

namespace Resource

/- The steps at the methods of one resource. -/
def ownBodySteps
    (language : Language)
    (package path : String)
    (resource : Resource) : List BodyStep :=
  let name := Naming.normalize path none
  resource.orderedMethods.flatMap
    (fun method =>
      method.bodySteps language (name ++ method.verb.title)
        package)

mutual

/- The steps at a resource below an ancestor path. -/
def bodySteps
    (language : Language)
    (package ancestor : String) :
    Resource → List BodyStep
  | ⟨uri, displayName, description, methods, nested⟩ =>
      ownBodySteps language package (ancestor ++ uri)
          ⟨uri, displayName, description, methods, nested⟩ ++
        bodyStepsOfList language package (ancestor ++ uri) nested

/- The steps at resources that share an ancestor path. -/
def bodyStepsOfList
    (language : Language)
    (package ancestor : String) :
    List Resource → List BodyStep
  | [] => []
  | resource :: resources =>
      bodySteps language package ancestor resource ++
        bodyStepsOfList language package ancestor resources

end

/- The body structures of a resource, in walk order. -/
def bodyStructures
    (language : Language)
    (package ancestor : String)
    (resource : Resource) : List Structure :=
  (bodySteps language package ancestor resource).filterMap
    BodyStep.structure?

end Resource

/- The steps at all bodies of a definition, in walk order. -/
def Api.bodySteps
    (language : Language)
    (package : String)
    (api : Api) : List BodyStep :=
  api.resources.flatMap (Resource.bodySteps language package "")

/- The body structures of a definition, in walk order. -/
def Api.bodyStructures
    (language : Language)
    (package : String)
    (api : Api) : List Structure :=
  (api.bodySteps language package).filterMap BodyStep.structure?

end RamlScaffold

------------------------------------------------------------
-- The Walk
------------------------------------------------------------

namespace RamlScaffold

section

variable {m : Type → Type} [Monad m]

/- What an action on structures does at a step. -/
def BodyStep.handTo
    (action : Structure → m Unit) : BodyStep → m Unit
  | .emit struct => action struct
  | .skip _ _ => pure ()

namespace Resource

/-
  Takes an action at the bodies of one resource, method after
  method.
-/
def walkMethods
    (language : Language)
    (package path : String)
    (resource : Resource)
    (action : BodyStep → m Unit) : m Unit :=
  let name := Naming.normalize path none
  resource.orderedMethods.forM
    (fun method =>
      (method.bodySteps language (name ++ method.verb.title)
        package).forM action)

mutual

/-
  Takes an action at the bodies of a resource, and then at
  those of the resources nested in it.  Nothing follows on an
  action that fails.
-/
def walkSteps
    (language : Language)
    (package ancestor : String) :
    Resource → (BodyStep → m Unit) → m Unit
  | ⟨uri, displayName, description, methods, nested⟩,
      action => do
      walkMethods language package (ancestor ++ uri)
        ⟨uri, displayName, description, methods, nested⟩ action
      walkStepsOfList language package (ancestor ++ uri) nested
        action

/- Walks resources that share an ancestor path. -/
def walkStepsOfList
    (language : Language)
    (package ancestor : String) :
    List Resource → (BodyStep → m Unit) → m Unit
  | [], _ => pure ()
  | resource :: resources, action => do
      walkSteps language package ancestor resource action
      walkStepsOfList language package ancestor resources action

end

/-
  Hands the body structures of a resource to an action, one
  after the other.
-/
def walkBodies
    (language : Language)
    (package ancestor : String)
    (resource : Resource)
    (action : Structure → m Unit) : m Unit :=
  resource.walkSteps language package ancestor
    (BodyStep.handTo action)

end Resource

/- Walks all resources of a definition, in their order. -/
def Api.walkSteps
    (language : Language)
    (package : String)
    (api : Api)
    (action : BodyStep → m Unit) : m Unit :=
  api.resources.forM
    (fun resource =>
      resource.walkSteps language package "" action)

end

end RamlScaffold
