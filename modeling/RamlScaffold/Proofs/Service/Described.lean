import RamlScaffold.Proofs.Naming.Identifier
import RamlScaffold.Proofs.Service.BodyRoutes
import RamlScaffold.Proofs.Template.ServiceContext
import RamlScaffold.Proofs.Text.Lines
import RamlScaffold.Proofs.Text.Quotes

/-
  What holds of the services of described resources, whatever
  their paths and descriptions are.

  Main declarations:
    * `Route.IsDescribed`, `Service.IsDescribed`
    * `Resource.isDescribed_describe`
    * `Service.IsOneLine`, `Service.HasPlainPaths`
    * `Resource.isOneLine_of_plain`
    * `Service.Prints`
-/

------------------------------------------------------------
-- Described Services
------------------------------------------------------------

namespace RamlScaffold

/-
  A route as methods are described: its handler is an
  identifier, its bodies are named after the handler, and its
  description comes in lines.
-/
structure Route.IsDescribed (route : Route) : Prop where
  handler : Naming.MarkFree route.handlerName
  request :
    ∀ body, route.requestBody = some body →
      body = route.handlerName ++ Direction.ending .request
  response :
    ∀ body, route.responseBody = some body →
      body = route.handlerName ++ Direction.ending .response
  description : ∀ line ∈ route.description, Text.OneLine line

/- A service as resources are described. -/
structure Service.IsDescribed (service : Service) : Prop where
  name : Naming.MarkFree service.name
  description : ∀ line ∈ service.description, Text.OneLine line
  routes : ∀ route ∈ service.allRoutes, route.IsDescribed

theorem Method.isDescribed_route
    (path : String)
    (method : Method) :
    (method.route path).IsDescribed := by
  refine ⟨?_, ?_, ?_, ?_⟩
  · exact
      Naming.markFree_normalize path (some method.verb.title)
  · intro body hBody
    simp only [Method.route] at hBody
    split at hBody
    · exact (Option.some.inj hBody).symm
    · cases hBody
  · intro body hBody
    simp only [Method.route] at hBody
    split at hBody
    · exact (Option.some.inj hBody).symm
    · cases hBody
  · intro line hLine
    exact Text.oneLine_of_mem_getD hLine

namespace Resource

theorem isDescribed_describe
    (package : String)
    (isServer : Bool)
    (ancestor : String)
    (resource : Resource) :
    (resource.describe package isServer ancestor).IsDescribed := by
  refine ⟨?_, ?_, ?_⟩
  · cases resource
    exact Naming.markFree_normalize _ none
  · cases resource
    intro line hLine
    exact Text.oneLine_of_mem_getD hLine
  · intro route hRoute
    rw [allRoutes_describe] at hRoute
    rcases List.mem_map.mp hRoute with ⟨placed, -, rfl⟩
    exact Method.isDescribed_route placed.1 placed.2

end Resource

end RamlScaffold

------------------------------------------------------------
-- Names Of Bodies
------------------------------------------------------------

namespace RamlScaffold

namespace Route

variable {route : Route}

theorem IsDescribed.markFree_request
    (hRoute : route.IsDescribed)
    {body : String}
    (hBody : route.requestBody = some body) :
    Naming.MarkFree body := by
  rw [hRoute.request body hBody]
  exact hRoute.handler.append (by decide)

theorem IsDescribed.markFree_response
    (hRoute : route.IsDescribed)
    {body : String}
    (hBody : route.responseBody = some body) :
    Naming.MarkFree body := by
  rw [hRoute.response body hBody]
  exact hRoute.handler.append (by decide)

theorem IsDescribed.namesBodies
    (hRoute : route.IsDescribed) :
    route.NamesBodies := by
  refine ⟨?_, ?_⟩
  · intro hBody
    have hEmpty := hRoute.request "" hBody
    simp [Direction.ending] at hEmpty
  · intro hBody
    have hEmpty := hRoute.response "" hBody
    simp [Direction.ending] at hEmpty

end Route

theorem Service.IsDescribed.namesBodies
    {service : Service}
    (hService : service.IsDescribed) :
    ∀ route ∈ service.allRoutes, route.NamesBodies :=
  fun route hRoute => (hService.routes route hRoute).namesBodies

end RamlScaffold

------------------------------------------------------------
-- Services In Lines
------------------------------------------------------------

namespace RamlScaffold

/-
  A service whose paths hold no line break, so the lines it is
  printed in are lines.
-/
structure Service.IsOneLine (service : Service) : Prop where
  endpoint : Text.OneLine service.endpoint
  routes :
    ∀ route ∈ service.allRoutes, Text.OneLine route.endpoint

/- A service whose routes have paths that stand for themselves. -/
def Service.HasPlainPaths (service : Service) : Prop :=
  ∀ route ∈ service.allRoutes, Text.IsPlain route.endpoint

instance (service : Service) : Decidable service.HasPlainPaths :=
  inferInstanceAs
    (Decidable
      (∀ route ∈ service.allRoutes, Text.IsPlain route.endpoint))

theorem Text.IsPlain.oneLine
    {text : String}
    (hText : IsPlain text) :
    OneLine text :=
  hText '\n' (by decide)

namespace Resource

mutual

/- Every path below a resource goes on with its own path. -/
theorem path_of_mem_placedMethods
    (ancestor : String) :
    ∀ resource : Resource,
      ∀ placed ∈ resource.placedMethods ancestor,
        ∃ rest, placed.1 = ancestor ++ resource.uri ++ rest
  | ⟨uri, displayName, description, methods, nested⟩ => by
      have hBelow :=
        path_of_mem_placedMethodsOfList (ancestor ++ uri) nested
      intro placed hPlaced
      rw [placedMethods, List.mem_append] at hPlaced
      rcases hPlaced with hOwn | hNested
      · rcases List.mem_map.mp hOwn with ⟨method, -, rfl⟩
        exact ⟨"", String.append_empty.symm⟩
      · exact hBelow placed hNested

theorem path_of_mem_placedMethodsOfList
    (ancestor : String) :
    ∀ resources : List Resource,
      ∀ placed ∈ placedMethodsOfList ancestor resources,
        ∃ rest, placed.1 = ancestor ++ rest
  | [] => by
      intro placed hPlaced
      rw [placedMethodsOfList] at hPlaced
      cases hPlaced
  | resource :: resources => by
      have hOwn := path_of_mem_placedMethods ancestor resource
      have hOthers :=
        path_of_mem_placedMethodsOfList ancestor resources
      intro placed hPlaced
      rw [placedMethodsOfList, List.mem_append] at hPlaced
      rcases hPlaced with hFirst | hRest
      · rcases hOwn placed hFirst with ⟨rest, hPath⟩
        refine ⟨resource.uri ++ rest, ?_⟩
        rw [hPath, String.append_assoc]
      · exact hOthers placed hRest

end

/-
  With a route the path of the service itself is part of a
  path that stands for itself.
-/
theorem isOneLine_of_plain
    {package : String}
    {isServer : Bool}
    {ancestor : String}
    {resource : Resource}
    (hPlain :
      (resource.describe package isServer ancestor).HasPlainPaths)
    (hRoot :
      resource.placedMethods ancestor = [] →
        Text.OneLine (ancestor ++ resource.uri)) :
    (resource.describe package isServer ancestor).IsOneLine := by
  refine ⟨?_, fun route hRoute => (hPlain route hRoute).oneLine⟩
  have hEndpoint :
      (resource.describe package isServer ancestor).endpoint =
        ancestor ++ resource.uri := by
    cases resource
    rfl
  rw [hEndpoint]
  cases hPlaced : resource.placedMethods ancestor with
  | nil => exact hRoot hPlaced
  | cons placed others =>
      have hMem : placed ∈ resource.placedMethods ancestor := by
        rw [hPlaced]
        exact List.mem_cons_self
      have hRoute :
          placed.2.route placed.1 ∈
            (resource.describe package isServer
              ancestor).allRoutes := by
        rw [allRoutes_describe]
        exact List.mem_map_of_mem hMem
      rcases path_of_mem_placedMethods ancestor resource placed
          hMem with
        ⟨rest, hPath⟩
      have hLine : Text.OneLine placed.1 :=
        (hPlain _ hRoute).oneLine
      rw [hPath, Text.oneLine_append] at hLine
      exact hLine.1

end Resource

/- Whether a template prints a service in certain lines. -/
def Service.Prints
    (service : Service)
    (template : Template)
    (lines : List String) : Prop :=
  ∃ text,
    Template.render template service.context = .ok text ∧
      Text.fileLines text = lines

theorem Naming.MarkFree.oneLine
    {text : String}
    (hText : Naming.MarkFree text) :
    Text.OneLine text :=
  hText '\n' (by decide)

theorem Verb.oneLine_wireName (verb : Verb) :
    Text.OneLine verb.wireName := by
  cases verb <;> decide

theorem Verb.quote_not_mem_wireName (verb : Verb) :
    '"' ∉ verb.wireName.toList := by
  cases verb <;> decide

end RamlScaffold
