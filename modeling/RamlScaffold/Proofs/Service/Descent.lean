import RamlScaffold.Proofs.Api.DocumentRoutes
import RamlScaffold.Proofs.Naming.Composition

/-
  A service and the services nested in it.

  Names and parameters are made anew from the whole path at
  every level of a tree.  A nested resource of a document has
  an address with a slash in front, and this is why what is
  made of the longer path starts with what is made of the
  shorter one.

  Main declarations:
    * `Resource.at?`, `Service.at?`
    * `Resource.at?_describe`
    * `Resource.IsRead`, `Resource.IsRead.nested`
    * `Resource.IsRead.at?`
    * `Service.Continues`
    * `Resource.nested_service_continues`
-/

------------------------------------------------------------
-- Positions
------------------------------------------------------------

namespace RamlScaffold

/-
  The resource that a position leads to, one index for each
  level, with the path of the resources above it.
-/
def Resource.at?
    (ancestor : String) :
    Resource → List Nat → Option (String × Resource)
  | resource, [] => some (ancestor, resource)
  | resource, index :: position =>
      match resource.nested[index]? with
      | none => none
      | some child =>
          at? (ancestor ++ resource.uri) child position

/- The service that a position leads to. -/
def Service.at? : Service → List Nat → Option Service
  | service, [] => some service
  | service, index :: position =>
      match service.nested[index]? with
      | none => none
      | some child => at? child position

namespace Resource

variable (package : String) (isServer : Bool)

theorem describeList_eq_map
    (ancestor : String)
    (resources : List Resource) :
    describeList package isServer ancestor resources =
      resources.map (describe package isServer ancestor) := by
  induction resources with
  | nil => rw [describeList, List.map_nil]
  | cons resource resources ih =>
      rw [describeList, ih, List.map_cons]

/- What is nested in a service is described below its path. -/
theorem nested_describe
    (ancestor : String)
    (resource : Resource) :
    (resource.describe package isServer ancestor).nested =
      resource.nested.map
        (describe package isServer (ancestor ++ resource.uri)) := by
  rcases resource with
    ⟨uri, displayName, description, methods, nested⟩
  rw [describe, describeList_eq_map]

theorem endpoint_describe
    (ancestor : String)
    (resource : Resource) :
    (resource.describe package isServer ancestor).endpoint =
      ancestor ++ resource.uri := by
  rcases resource with
    ⟨uri, displayName, description, methods, nested⟩
  rw [describe]

/- The name of a service is the identifier of its path. -/
theorem name_describe
    (ancestor : String)
    (resource : Resource) :
    (resource.describe package isServer ancestor).name =
      Naming.normalize (ancestor ++ resource.uri) none := by
  rcases resource with
    ⟨uri, displayName, description, methods, nested⟩
  rw [describe]

/- Every route of a service has the parameters of its path. -/
theorem pathParams_of_mem_describe
    {ancestor : String}
    {resource : Resource}
    {route : Route}
    (hRoute :
      route ∈
        (resource.describe package isServer ancestor).routes) :
    route.pathParams =
      Naming.pathParams (ancestor ++ resource.uri) := by
  rcases resource with
    ⟨uri, displayName, description, methods, nested⟩
  rw [describe] at hRoute
  rcases List.mem_map.mp hRoute with ⟨method, -, rfl⟩
  rfl

/- Positions in a service are those in its resource. -/
theorem at?_describe
    (ancestor : String)
    (resource : Resource)
    (position : List Nat) :
    (resource.describe package isServer ancestor).at? position =
      (resource.at? ancestor position).map
        (fun (base, reached) =>
          reached.describe package isServer base) := by
  induction position generalizing ancestor resource with
  | nil => rfl
  | cons index position ih =>
      rw [Service.at?, at?, nested_describe, List.getElem?_map]
      cases resource.nested[index]? with
      | none => rfl
      | some child => exact ih (ancestor ++ resource.uri) child

end Resource

end RamlScaffold

------------------------------------------------------------
-- Resources Of Documents
------------------------------------------------------------

namespace RamlScaffold

theorem Yaml.Value.isResourceKey_of_childKey?
    {key : Value}
    {name : String}
    (hKey : key.childKey? = some name) :
    isResourceKey name = true := by
  cases key.keyCase with
  | child other hChild _ _ hSlash =>
      rw [hKey] at hChild
      rw [Option.some.inj hChild]
      exact hSlash
  | verb _ _ hChild _ _ _ _ =>
      rw [hKey] at hChild
      cases hChild
  | other hChild _ _ =>
      rw [hKey] at hChild
      cases hChild

namespace Resource

open RamlScaffold.Yaml

variable [PatternLanguage]

/- Whether a resource is read from a node of a document. -/
def IsRead (resource : Resource) : Prop :=
  ∃ uri value, ofValue uri value = .ok resource

/-
  What is nested in a resource when all entries are taken has
  been there before, or is read from an entry whose key is its
  address.
-/
theorem nested_of_withEntries
    {resource last : Resource}
    {entries : List (Value × Value)}
    (hAll : withEntries resource entries = .ok last)
    {child : Resource}
    (hChild : child ∈ last.nested) :
    child ∈ resource.nested ∨
      child.IsRead ∧ isResourceKey child.uri = true := by
  induction entries generalizing resource with
  | nil =>
      rw [withEntries] at hAll
      rw [Except.ok.inj hAll]
      exact Or.inl hChild
  | cons entry entries ih =>
      rcases entry with ⟨key, value⟩
      rcases takes_of_withEntries hAll with
        ⟨middle, hTakes, hRest⟩
      cases hTakes with
      | child name taken hName hVerb hOf =>
          rcases ih hRest with hBefore | hRead
          · rcases List.mem_append.mp hBefore with hOld | hNew
            · exact Or.inl hOld
            · rw [List.mem_singleton.mp hNew]
              refine Or.inr ⟨⟨name, value, hOf⟩, ?_⟩
              rw [(verbs_of_ofValue hOf).1]
              exact Value.isResourceKey_of_childKey? hName
          · exact Or.inr hRead
      | method verb hName hVerb hFree =>
          -- A method leaves what is nested as it is.
          have hSame := ih hRest
          exact hSame
      | other hName hVerb => exact ih hRest

/- A nested resource is read, too, and starts with a slash. -/
theorem IsRead.nested
    {resource : Resource}
    (hRead : resource.IsRead)
    {child : Resource}
    (hChild : child ∈ resource.nested) :
    child.IsRead ∧ isResourceKey child.uri = true := by
  rcases hRead with ⟨uri, value, hOf⟩
  cases value with
  | mapping entries =>
      rw [ofValue] at hOf
      exact
        (nested_of_withEntries hOf hChild).resolve_left
          List.not_mem_nil
  | null =>
      rw [ofValue] at hOf
      rw [← Except.ok.inj hOf] at hChild
      cases hChild
  | bool value => cases hOf
  | number value => cases hOf
  | text content => cases hOf
  | sequence items => cases hOf
  | tagged tag value => cases hOf

/- All resources of a tree that is read are read. -/
theorem IsRead.at?
    {resource : Resource}
    (hRead : resource.IsRead)
    {ancestor base : String}
    {position : List Nat}
    {reached : Resource}
    (hAt :
      resource.at? ancestor position = some (base, reached)) :
    reached.IsRead := by
  induction position generalizing ancestor resource with
  | nil =>
      rw [Resource.at?] at hAt
      rw [← (Prod.mk.inj (Option.some.inj hAt)).2]
      exact hRead
  | cons index position ih =>
      rw [Resource.at?] at hAt
      cases hChild : resource.nested[index]? with
      | none =>
          rw [hChild] at hAt
          cases hAt
      | some child =>
          rw [hChild] at hAt
          have hMem := List.mem_of_getElem? hChild
          exact ih (hRead.nested hMem).1 hAt

end Resource

end RamlScaffold

------------------------------------------------------------
-- Nested Services
------------------------------------------------------------

namespace RamlScaffold

open Naming

/-
  How the service of an address is made of the service around
  it.  Names go on where the path above has a word, and then
  the first word of the whole path decides on the guard.
  Parameters go on where the braces above are closed.
-/
structure Service.Continues
    (above below : Service)
    (uri : String) : Prop where
  endpoint : below.endpoint = above.endpoint ++ uri
  name :
    HasWord above.endpoint →
      below.name = above.name ++ titled uri
  guard :
    HasWord above.endpoint →
      digitGuard above.endpoint = digitGuard below.endpoint ∧
        above.name =
          digitGuard below.endpoint ++ titled above.endpoint ∧
        below.name =
          digitGuard below.endpoint ++ titled below.endpoint
  pathParams :
    BracesClose above.endpoint.toList →
      ∀ route ∈ below.routes,
        route.pathParams =
          Naming.pathParams above.endpoint ++
            Naming.pathParams uri

namespace Resource

/- A resource that starts with a slash goes on with a path. -/
theorem continues_of_isResourceKey
    (package base : String)
    (isServer : Bool)
    (parent : Resource)
    {child : Resource}
    (hSlash : isResourceKey child.uri = true) :
    (parent.describe package isServer base).Continues
      (child.describe package isServer (base ++ parent.uri))
      child.uri := by
  refine ⟨?_, ?_, ?_, ?_⟩
  · rw [endpoint_describe, endpoint_describe]
  · intro hWord
    rw [endpoint_describe] at hWord
    rw [name_describe, name_describe]
    exact normalize_append hWord hSlash
  · intro hWord
    rw [endpoint_describe] at hWord
    rw [endpoint_describe, endpoint_describe, name_describe,
      name_describe]
    have hGuard := digitGuard_append hWord child.uri
    refine ⟨hGuard.symm, ?_, ?_⟩
    · rw [hGuard]
      exact normalize_eq_guarded hWord
    · exact normalize_eq_guarded (hWord.append child.uri)
  · intro hClose route hRoute
    rw [endpoint_describe] at hClose ⊢
    rw [pathParams_of_mem_describe package isServer hRoute]
    exact pathParams_append hClose child.uri

/-
  Descriptions go on from level to level.

  In the tree that is read from a node, below any path, take a
  resource at any depth and one that is nested in it.  Their
  services stand at the same places, and the inner one goes on
  where the outer one ends.
-/
theorem nested_service_continues
    [PatternLanguage]
    {uri : String}
    {value : Yaml.Value}
    {tree : Resource}
    (hTree : ofValue uri value = .ok tree)
    (package ancestor : String)
    (isServer : Bool)
    {position : List Nat}
    {base : String}
    {parent child : Resource}
    (hParent :
      tree.at? ancestor position = some (base, parent))
    {index : Nat}
    (hChild : parent.nested[index]? = some child) :
    ∃ above below : Service,
      (tree.describe package isServer ancestor).at? position =
          some above ∧
        above.nested[index]? = some below ∧
        above.endpoint = base ++ parent.uri ∧
        above.Continues below child.uri := by
  have hRead : parent.IsRead :=
    IsRead.at? ⟨uri, value, hTree⟩ hParent
  have hSlash :=
    (hRead.nested (List.mem_of_getElem? hChild)).2
  refine
    ⟨parent.describe package isServer base,
      child.describe package isServer (base ++ parent.uri),
      ?_, ?_, endpoint_describe package isServer base parent,
      continues_of_isResourceKey package base isServer parent
        hSlash⟩
  · rw [at?_describe, hParent]
    rfl
  · rw [nested_describe, List.getElem?_map, hChild]
    rfl

/- A node with a node below it, and a verb at the inner one. -/
def codesNode : Yaml.Value :=
  .mapping
    [(.text "/codes",
      .mapping
        [(.text "/\x7bcode-id\x7d",
          .mapping [(.text "get", .null)])])]

/- The resource of the inner node. -/
def codeResource : Resource where
  uri := "/\x7bcode-id\x7d"
  methods := [{ verb := .get }]

/- The resource of the node around it. -/
def codesResource : Resource where
  uri := "/codes"
  nested := [codeResource]

/-
  Below a path that starts with a digit the guard stays in
  front, and the parameters of the path come first.
-/
theorem code_service_continues :
    ofValue "/users/\x7bid\x7d" codesNode =
        .ok
          { uri := "/users/\x7bid\x7d"
            nested := [codesResource] } ∧
      ∃ above below : Service,
        above.name = "N2faUsersIdCodes" ∧
          below.name = above.name ++ "CodeId" ∧
          below.endpoint =
            "/2fa/users/\x7bid\x7d/codes/\x7bcode-id\x7d" ∧
          below.routes.length = 1 ∧
          ∀ route ∈ below.routes,
            route.pathParams = ["id", "code-id"] := by
  have hTree :
      ofValue "/users/\x7bid\x7d" codesNode =
        .ok
          { uri := "/users/\x7bid\x7d"
            nested := [codesResource] } := by
    rfl
  refine ⟨hTree, ?_⟩
  have hParent :
      Resource.at? "/2fa"
          { uri := "/users/\x7bid\x7d"
            nested := [codesResource] } [0] =
        some ("/2fa/users/\x7bid\x7d", codesResource) := by
    rfl
  have hChild : codesResource.nested[0]? = some codeResource := by
    rfl
  rcases nested_service_continues hTree "api" "/2fa" true
      hParent hChild with
    ⟨above, below, hOuter, hInner, hPath, hContinues⟩
  have hAbove :
      above.endpoint = "/2fa/users/\x7bid\x7d/codes" := by
    rw [hPath]
    decide
  have hBelow :
      below.endpoint =
        "/2fa/users/\x7bid\x7d/codes/\x7bcode-id\x7d" := by
    rw [hContinues.endpoint, hAbove]
    decide
  have hWord : HasWord above.endpoint := by
    rw [hAbove]
    decide
  have hClose : BracesClose above.endpoint.toList := by
    rw [hAbove]
    decide
  have hRoutes : below.routes.length = 1 := by
    rw [at?_describe, hParent, Option.map_some] at hOuter
    rw [← Option.some.inj hOuter, nested_describe,
      List.getElem?_map, hChild, Option.map_some] at hInner
    rw [← Option.some.inj hInner]
    decide
  refine ⟨above, below, ?_, ?_, hBelow, hRoutes, ?_⟩
  · rw [(hContinues.guard hWord).2.1, hBelow, hAbove]
    decide
  · have hTitled : titled codeResource.uri = "CodeId" := by
      decide
    rw [hContinues.name hWord, hTitled]
  · intro route hRoute
    rw [hContinues.pathParams hClose route hRoute, hAbove]
    decide

end Resource

end RamlScaffold
