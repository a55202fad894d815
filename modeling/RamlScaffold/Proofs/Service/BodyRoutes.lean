import RamlScaffold.Proofs.Naming.Identifier
import RamlScaffold.Proofs.Schema.Shape
import RamlScaffold.Proofs.Schema.Walk
import RamlScaffold.Schema.Bodies
import RamlScaffold.Service.Route

/-
  The walk over bodies against the routes of a service.

  Both visit the methods of a resource tree in one order.  A
  method whose route names a body is one for which the walk
  emits a structure of that name, and the other way around.

  Main declarations:
    * `Resource.placedMethods`
    * `Method.firstJson?`, `Method.bodyStructures`
    * `Route.bodyNames`
    * `Api.name_of_mem_bodyStructures`
    * `Resource.emittedBodies`
    * `Resource.emittedBodies_names`
-/

------------------------------------------------------------
-- Methods And Their Paths
------------------------------------------------------------

namespace RamlScaffold.Resource

mutual

/-
  The methods of a resource and of those nested in it, each
  with its full path, in the order of the walk.
-/
def placedMethods
    (ancestor : String) :
    Resource → List (String × Method)
  | ⟨uri, displayName, description, methods, nested⟩ =>
      let resource : Resource :=
        ⟨uri, displayName, description, methods, nested⟩
      resource.orderedMethods.map
          (fun method => (ancestor ++ uri, method)) ++
        placedMethodsOfList (ancestor ++ uri) nested

/- The methods of resources that share an ancestor path. -/
def placedMethodsOfList
    (ancestor : String) :
    List Resource → List (String × Method)
  | [] => []
  | resource :: resources =>
      placedMethods ancestor resource ++
        placedMethodsOfList ancestor resources

end

mutual

/- The routes of a service are those of its methods. -/
theorem allRoutes_describe
    (package : String)
    (isServer : Bool)
    (ancestor : String) :
    ∀ resource : Resource,
      (resource.describe package isServer ancestor).allRoutes =
        (resource.placedMethods ancestor).map
          (fun placed => placed.2.route placed.1)
  | ⟨uri, displayName, description, methods, nested⟩ => by
      have hNested :=
        allRoutes_describeList package isServer
          (ancestor ++ uri) nested
      rw [describe, Service.allRoutes, hNested, placedMethods,
        List.map_append, List.map_map]
      rfl

theorem allRoutes_describeList
    (package : String)
    (isServer : Bool)
    (ancestor : String) :
    ∀ resources : List Resource,
      Service.allRoutesOfList
          (describeList package isServer ancestor resources) =
        (placedMethodsOfList ancestor resources).map
          (fun placed => placed.2.route placed.1)
  | [] => rfl
  | resource :: resources => by
      have hFirst :=
        allRoutes_describe package isServer ancestor resource
      have hRest :=
        allRoutes_describeList package isServer ancestor
          resources
      rw [describeList, Service.allRoutesOfList, hFirst, hRest,
        placedMethodsOfList, List.map_append]

end

end RamlScaffold.Resource

------------------------------------------------------------
-- Bodies Of A Method
------------------------------------------------------------

namespace RamlScaffold.Method

/- The JSON body of the first response that has one. -/
def firstJson? (method : Method) : Option Payload :=
  method.responses.findSome?
    (fun response => response.body.json)

/-
  The structures of a method at a path: its request body, if
  there is one, then its first response body, if there is one.
-/
def bodyStructures
    (language : Language)
    (package path : String)
    (method : Method) : List Structure :=
  let methodName := Naming.normalize path none ++ method.verb.title
  (method.body.json.map
      (fun payload =>
        Structure.ofPayload language methodName payload package
          .request)).toList ++
    (method.firstJson?.map
      (fun payload =>
        Structure.ofPayload language methodName payload package
          .response)).toList

theorem head?_jsonResponses (method : Method) :
    method.jsonResponses.head?.map Prod.snd =
      method.firstJson? := by
  unfold jsonResponses firstJson?
  induction method.responses with
  | nil => rfl
  | cons response responses ih =>
      cases hJson : response.body.json with
      | none =>
          rw [List.filterMap_cons_none, ih,
            List.findSome?_cons, hJson]
          rw [hJson, Option.map_none]
      | some payload => simp [hJson]

/- A method has a first JSON body if any response has one. -/
theorem isSome_firstJson? (method : Method) :
    method.firstJson?.isSome =
      method.responses.any
        (fun response => response.body.json.isSome) :=
  List.isSome_findSome?

/- All that the walk skips are later responses. -/
theorem structures_responseSteps
    (language : Language)
    (methodName package : String)
    (method : Method) :
    (method.responseSteps language methodName package).filterMap
        BodyStep.structure? =
      (method.firstJson?.map
        (fun payload =>
          Structure.ofPayload language methodName payload
            package .response)).toList := by
  rw [← head?_jsonResponses]
  unfold responseSteps
  cases method.jsonResponses with
  | nil => rfl
  | cons response others =>
      rcases response with ⟨code, payload⟩
      have hSkips :
          (others.map
              (fun other =>
                BodyStep.skip methodName other.1)).filterMap
            BodyStep.structure? = [] := by
        rw [List.filterMap_map, List.filterMap_eq_nil_iff]
        intro other hOther
        rfl
      exact congrArg (List.cons _) hSkips

theorem structures_bodySteps
    (language : Language)
    (package path : String)
    (method : Method) :
    (method.bodySteps language
          (Naming.normalize path none ++ method.verb.title)
          package).filterMap
        BodyStep.structure? =
      method.bodyStructures language package path := by
  unfold bodySteps bodyStructures
  rw [List.filterMap_append, structures_responseSteps]
  cases method.body.json with
  | none => rfl
  | some payload => rfl

end RamlScaffold.Method

------------------------------------------------------------
-- Names Of Bodies
------------------------------------------------------------

namespace RamlScaffold

/- The body structures that a route names. -/
def Route.bodyNames (route : Route) : List String :=
  route.requestBody.toList ++ route.responseBody.toList

/- The route of a method names the structures of its bodies. -/
theorem Method.bodyNames_route
    (language : Language)
    (package path : String)
    (method : Method) :
    (method.route path).bodyNames =
      (method.bodyStructures language package path).map
        Structure.name := by
  unfold Route.bodyNames route bodyStructures
  rw [Naming.normalize_title, ← isSome_firstJson?]
  dsimp only
  cases method.body.json with
  | none =>
      cases method.firstJson? with
      | none => rfl
      | some payload => simp
  | some payload =>
      cases method.firstJson? with
      | none => simp
      | some response => simp

end RamlScaffold

------------------------------------------------------------
-- The Walk
------------------------------------------------------------

namespace RamlScaffold.Resource

mutual

/- The walk emits what the methods have, in their order. -/
theorem structures_bodySteps
    (language : Language)
    (package ancestor : String) :
    ∀ resource : Resource,
      (resource.bodySteps language package ancestor).filterMap
          BodyStep.structure? =
        (resource.placedMethods ancestor).flatMap
          (fun placed =>
            placed.2.bodyStructures language package placed.1)
  | ⟨uri, displayName, description, methods, nested⟩ => by
      have hNested :=
        structures_bodyStepsOfList language package
          (ancestor ++ uri) nested
      rw [bodySteps, ownBodySteps, List.filterMap_append,
        List.filterMap_flatMap, hNested, placedMethods,
        List.flatMap_append, List.flatMap_map]
      simp only [Method.structures_bodySteps]

theorem structures_bodyStepsOfList
    (language : Language)
    (package ancestor : String) :
    ∀ resources : List Resource,
      (bodyStepsOfList language package ancestor
            resources).filterMap
          BodyStep.structure? =
        (placedMethodsOfList ancestor resources).flatMap
          (fun placed =>
            placed.2.bodyStructures language package placed.1)
  | [] => rfl
  | resource :: resources => by
      have hFirst :=
        structures_bodySteps language package ancestor resource
      have hRest :=
        structures_bodyStepsOfList language package ancestor
          resources
      rw [bodyStepsOfList, List.filterMap_append, hFirst, hRest,
        placedMethodsOfList, List.flatMap_append]

end

end RamlScaffold.Resource

namespace RamlScaffold

theorem Method.name_of_mem_bodyStructures
    {language : Language}
    {package path : String}
    {method : Method}
    {struct : Structure}
    (hStruct :
      struct ∈ method.bodyStructures language package path) :
    ∃ direction : Direction,
      struct.name =
        Naming.normalize path none ++ method.verb.title ++
          direction.ending := by
  unfold bodyStructures at hStruct
  simp only [List.mem_append, Option.mem_toList,
    Option.map_eq_some_iff] at hStruct
  rcases hStruct with ⟨payload, -, rfl⟩ | ⟨payload, -, rfl⟩
  · exact ⟨.request, Structure.ofPayload_name ..⟩
  · exact ⟨.response, Structure.ofPayload_name ..⟩

/- A body structure is that of a method at its path. -/
theorem Api.placed_of_mem_bodyStructures
    {language : Language}
    {package : String}
    {api : Api}
    {struct : Structure}
    (hStruct : struct ∈ api.bodyStructures language package) :
    ∃ placed ∈ api.resources.flatMap (Resource.placedMethods ""),
      ∃ direction : Direction,
        struct.name =
          Naming.normalize placed.1 none ++
              placed.2.verb.title ++
            direction.ending := by
  unfold bodyStructures bodySteps at hStruct
  rw [List.filterMap_flatMap, List.mem_flatMap] at hStruct
  rcases hStruct with ⟨resource, hResource, hSteps⟩
  rw [Resource.structures_bodySteps, List.mem_flatMap] at hSteps
  rcases hSteps with ⟨placed, hPlaced, hMethod⟩
  exact
    ⟨placed, List.mem_flatMap.mpr ⟨resource, hResource, hPlaced⟩,
      Method.name_of_mem_bodyStructures hMethod⟩

/- A body structure is named by a path, a verb and its end. -/
theorem Api.name_of_mem_bodyStructures
    {language : Language}
    {package : String}
    {api : Api}
    {struct : Structure}
    (hStruct : struct ∈ api.bodyStructures language package) :
    ∃ (path : String) (verb : Verb) (direction : Direction),
      struct.name =
        Naming.normalize path none ++ verb.title ++
          direction.ending := by
  rcases placed_of_mem_bodyStructures hStruct with
    ⟨placed, -, direction, hName⟩
  exact ⟨placed.1, placed.2.verb, direction, hName⟩

end RamlScaffold

------------------------------------------------------------
-- Emitted Structures
------------------------------------------------------------

namespace RamlScaffold

/- Puts a structure after those that were recorded before. -/
def Structure.record
    (struct : Structure) : StateM (List Structure) Unit :=
  modify (fun recorded => recorded ++ [struct])

theorem Structure.forM_record
    (structs recorded : List Structure) :
    ((structs.forM record).run recorded).2 =
      recorded ++ structs := by
  induction structs generalizing recorded with
  | nil => exact (List.append_nil recorded).symm
  | cons struct structs ih =>
      have hStep :
          (((struct :: structs).forM record).run recorded).2 =
            ((structs.forM record).run
              (recorded ++ [struct])).2 :=
        rfl
      rw [hStep, ih, List.append_assoc]
      rfl

namespace Resource

/- What the walk hands to its action, in order. -/
def emittedBodies
    (language : Language)
    (package ancestor : String)
    (resource : Resource) : List Structure :=
  ((resource.walkBodies language package ancestor
    Structure.record).run []).2

/- The walk hands on all structures of the resource. -/
theorem emittedBodies_eq_bodyStructures
    (language : Language)
    (package ancestor : String)
    (resource : Resource) :
    resource.emittedBodies language package ancestor =
      resource.bodyStructures language package ancestor := by
  rw [emittedBodies, walkBodies_eq_forM, Structure.forM_record,
    List.nil_append]

theorem emittedBodies_eq
    (language : Language)
    (package ancestor : String)
    (resource : Resource) :
    resource.emittedBodies language package ancestor =
      (resource.placedMethods ancestor).flatMap
        (fun placed =>
          placed.2.bodyStructures language package placed.1) := by
  rw [emittedBodies_eq_bodyStructures, bodyStructures,
    structures_bodySteps]

/-
  The walk emits structures of exactly the names that the
  routes of the service name, as often and in their order.

  The structures are those of the methods of the routes, where
  the response is the first, in declaration order, that has a
  JSON body.
-/
theorem emittedBodies_names
    (language : Language)
    (package ancestor : String)
    (isServer : Bool)
    (resource : Resource) :
    (resource.emittedBodies language package ancestor).map
          Structure.name =
        (resource.describe package isServer
          ancestor).allRoutes.flatMap Route.bodyNames ∧
      (resource.describe package isServer ancestor).allRoutes =
        (resource.placedMethods ancestor).map
          (fun placed => placed.2.route placed.1) ∧
      resource.emittedBodies language package ancestor =
        (resource.placedMethods ancestor).flatMap
          (fun placed =>
            placed.2.bodyStructures language package
              placed.1) := by
  have hRoutes :=
    allRoutes_describe package isServer ancestor resource
  have hBodies :=
    emittedBodies_eq language package ancestor resource
  refine ⟨?_, hRoutes, hBodies⟩
  rw [hRoutes, hBodies, List.map_flatMap, List.flatMap_map]
  simp only [Method.bodyNames_route language package]

end Resource

end RamlScaffold
