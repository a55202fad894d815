import RamlScaffold.Proofs.Api.DocumentRoutes
import RamlScaffold.Proofs.Schema.BodyNames
import RamlScaffold.Proofs.Text.Affixes

/-
  Reading the names of body structures.

  A name is put together without separators, and paths may end
  in the name of a verb or in one of the endings.  It is read
  from the right: one ending stands at its end, and in front
  of that the name of one verb.  What is left is the identifier
  of the path, whatever it looks like.

  Main declarations:
    * `Text.before?_eq_some_iff`
    * `Text.cut?`, `Text.cut?_eq_some_iff`
    * `BodyPlace.read?`, `BodyPlace.read?_eq_some_iff`
    * `BodyPlace.built`, `Resource.placedPayloads`
    * `Resource.emittedBodies_eq_built`
    * `BodyPlace.built_names_tell_places`
-/

------------------------------------------------------------
-- Cutting Off An Ending
------------------------------------------------------------

namespace RamlScaffold.Text

/- What stands before an end makes up the text with it. -/
theorem before?_eq_some_iff
    (stop text front : String) :
    before? stop text = some front ↔ text = front ++ stop := by
  constructor
  · intro hBefore
    have hStop : stop.toList <:+ text.toList := by
      by_cases hStop : stop.toList <:+ text.toList
      · exact hStop
      · rw [before?_eq_none hStop] at hBefore
        cases hBefore
    rcases hStop with ⟨rest, hRest⟩
    have hText : text = String.ofList rest ++ stop := by
      rw [← String.ofList_toList (s := text), ← hRest,
        String.ofList_append, String.ofList_toList]
    rw [hText, before?_append] at hBefore
    rw [hText, Option.some.inj hBefore]
  · rintro rfl
    exact before?_append stop front

/- A text cut before the first ending of a row that it has. -/
def cut?
    {α : Type}
    (ending : α → String)
    (choices : List α)
    (text : String) : Option (String × α) :=
  choices.findSome?
    (fun choice =>
      (before? (ending choice) text).map
        (fun front => (front, choice)))

/-
  Where no ending is the end of another it does not matter
  which one is tried first: a text is cut as it was put
  together.
-/
theorem cut?_eq_some_iff
    {α : Type}
    {ending : α → String}
    (hEndings :
      ∀ a b, (ending a).toList <:+ (ending b).toList → a = b)
    {choices : List α}
    (hChoices : ∀ choice, choice ∈ choices)
    (text front : String)
    (choice : α) :
    cut? ending choices text = some (front, choice) ↔
      text = front ++ ending choice := by
  have hSound {pair : String × α}
      (hCut : cut? ending choices text = some pair) :
      text = pair.1 ++ ending pair.2 := by
    rcases List.exists_of_findSome?_eq_some hCut with
      ⟨found, -, hFound⟩
    rcases Option.map_eq_some_iff.mp hFound with
      ⟨rest, hRest, rfl⟩
    exact (before?_eq_some_iff _ _ _).mp hRest
  constructor
  · exact hSound
  · intro hText
    cases hCut : cut? ending choices text with
    | none =>
        have hMiss :=
          List.findSome?_eq_none_iff.mp hCut choice
            (hChoices choice)
        rw [hText, before?_append] at hMiss
        cases hMiss
    | some pair =>
        have hSame :
            front ++ ending choice = pair.1 ++ ending pair.2 :=
          hText.symm.trans (hSound hCut)
        rcases append_inj_of_endings hEndings hSame with
          ⟨hFront, hChoice⟩
        rw [hFront, hChoice]

end RamlScaffold.Text

------------------------------------------------------------
-- Reading A Name
------------------------------------------------------------

namespace RamlScaffold

theorem Direction.mem_all (direction : Direction) :
    direction ∈ [Direction.request, Direction.response] := by
  cases direction <;> decide

namespace BodyPlace

/-
  The identifier of a path, the verb and the direction in the
  name of a body.
-/
def read? (text : String) : Option (String × Verb × Direction) :=
  (Text.cut? Direction.ending [.request, .response] text).bind
    (fun outer =>
      (Text.cut? Verb.title Verb.walkOrder outer.1).map
        (fun inner => (inner.1, inner.2, outer.2)))

/- A text is read in no way but the one that spells it. -/
theorem read?_eq_some_iff
    (text identifier : String)
    (verb : Verb)
    (direction : Direction) :
    read? text = some (identifier, verb, direction) ↔
      text = identifier ++ verb.title ++ direction.ending := by
  unfold read?
  constructor
  · intro hRead
    rcases Option.bind_eq_some_iff.mp hRead with
      ⟨⟨method, found⟩, hMethod, hRest⟩
    rcases Option.map_eq_some_iff.mp hRest with
      ⟨⟨front, last⟩, hFront, hSame⟩
    dsimp only at hFront hSame
    cases hSame
    rw [Text.cut?_eq_some_iff Direction.eq_of_suffix
      Direction.mem_all] at hMethod
    rw [Text.cut?_eq_some_iff Verb.eq_of_suffix
      Verb.mem_walkOrder] at hFront
    rw [hMethod, hFront]
  · intro hText
    have hMethod :
        Text.cut? Direction.ending [.request, .response] text =
          some (identifier ++ verb.title, direction) :=
      (Text.cut?_eq_some_iff Direction.eq_of_suffix
        Direction.mem_all _ _ _).mpr hText
    have hIdentifier :
        Text.cut? Verb.title Verb.walkOrder
            (identifier ++ verb.title) =
          some (identifier, verb) :=
      (Text.cut?_eq_some_iff Verb.eq_of_suffix
        Verb.mem_walkOrder _ _ _).mpr rfl
    rw [hMethod, Option.bind_some, hIdentifier]
    rfl

/- The name of a body tells all of its place but the path. -/
theorem read?_name (place : BodyPlace) :
    read? place.name = some place.key :=
  (read?_eq_some_iff _ _ _ _).mpr rfl

end BodyPlace

end RamlScaffold

------------------------------------------------------------
-- Names That Walks Build
------------------------------------------------------------

namespace RamlScaffold

/- The structure that a walk builds of a body at a place. -/
def BodyPlace.built
    (language : Language)
    (package : String)
    (place : BodyPlace)
    (payload : Payload) : Structure :=
  Structure.ofPayload language
    (Naming.normalize place.path none ++ place.verb.title)
    payload package place.direction

theorem BodyPlace.name_built
    (language : Language)
    (package : String)
    (place : BodyPlace)
    (payload : Payload) :
    (place.built language package payload).name = place.name :=
  Structure.ofPayload_name ..

/- The bodies that a method has structures for, as placed. -/
def Method.placedPayloads
    (path : String)
    (method : Method) : List (BodyPlace × Payload) :=
  (method.body.json.map
      (fun payload =>
        (BodyPlace.mk path method.verb .request,
          payload))).toList ++
    (method.firstJson?.map
      (fun payload =>
        (BodyPlace.mk path method.verb .response,
          payload))).toList

theorem Method.bodyStructures_eq_built
    (language : Language)
    (package path : String)
    (method : Method) :
    method.bodyStructures language package path =
      (method.placedPayloads path).map
        (fun (place, payload) =>
          place.built language package payload) := by
  unfold bodyStructures placedPayloads
  cases method.body.json with
  | none => cases method.firstJson? <;> rfl
  | some payload => cases method.firstJson? <;> rfl

/- A route names the bodies of its method by their places. -/
theorem Method.bodyNames_route_eq
    (path : String)
    (method : Method) :
    (method.route path).bodyNames =
      (method.placedPayloads path).map
        (fun (place, _) => place.name) := by
  rw [Method.bodyNames_route .go "" path method,
    Method.bodyStructures_eq_built, List.map_map]
  apply List.map_congr_left
  rintro ⟨place, payload⟩ -
  exact place.name_built .go "" payload

namespace Resource

/- The bodies of a tree that a walk builds structures of. -/
def placedPayloads
    (ancestor : String)
    (resource : Resource) : List (BodyPlace × Payload) :=
  (resource.placedMethods ancestor).flatMap
    (fun (path, method) => method.placedPayloads path)

/- A walk builds one structure for each of them, in order. -/
theorem emittedBodies_eq_built
    (language : Language)
    (package ancestor : String)
    (resource : Resource) :
    resource.emittedBodies language package ancestor =
      (resource.placedPayloads ancestor).map
        (fun (place, payload) =>
          place.built language package payload) := by
  rw [emittedBodies_eq, placedPayloads, List.map_flatMap]
  simp only [Method.bodyStructures_eq_built]

/- The routes of its service name them alike. -/
theorem bodyNames_allRoutes
    (package ancestor : String)
    (isServer : Bool)
    (resource : Resource) :
    (resource.describe package isServer
          ancestor).allRoutes.flatMap Route.bodyNames =
      (resource.placedPayloads ancestor).map
        (fun (place, _) => place.name) := by
  rw [allRoutes_describe, placedPayloads, List.flatMap_map,
    List.map_flatMap]
  simp only [Method.bodyNames_route_eq]

end Resource

/- A resource with a single body, at a place of any kind. -/
def BodyPlace.resource
    (place : BodyPlace)
    (payload : Payload) : Resource where
  uri := place.path
  methods :=
    match place.direction with
    | .request =>
        [{ verb := place.verb
           body := { json := some payload } }]
    | .response =>
        [{ verb := place.verb
           responses := [⟨"200", { json := some payload }⟩] }]

theorem BodyPlace.placedPayloads_resource
    (place : BodyPlace)
    (payload : Payload) :
    (place.resource payload).placedPayloads "" =
      [(place, payload)] := by
  rcases place with ⟨path, verb, direction⟩
  cases direction <;> cases verb <;>
    simp [resource, Resource.placedPayloads,
      Resource.placedMethods, Resource.placedMethodsOfList,
      Resource.orderedMethods, Resource.method?,
      Verb.walkOrder, Method.placedPayloads,
      Method.firstJson?]

/-
  What the names of body structures tell.

  A walk builds a structure for each body of its tree, at the
  place of the body, and the routes name the bodies alike.
  There are bodies at places of any path, verb and direction.
  Two of them have the same name if direction and verb are the
  same and both paths have the same identifier, and only then,
  since these three can be read off the name.
-/
theorem BodyPlace.built_names_tell_places
    (language other : Language)
    (package otherPackage : String) :
    (∀ (ancestor : String) (isServer : Bool)
        (resource : Resource),
      resource.emittedBodies language package ancestor =
          (resource.placedPayloads ancestor).map
            (fun (place, payload) =>
              place.built language package payload) ∧
        (resource.describe package isServer
              ancestor).allRoutes.flatMap Route.bodyNames =
          (resource.emittedBodies language package
              ancestor).map
            Structure.name) ∧
      (∀ (place : BodyPlace) (payload : Payload),
        ∃ resource : Resource,
          resource.emittedBodies language package "" =
            [place.built language package payload]) ∧
      (∀ (first second : BodyPlace)
          (payload otherPayload : Payload),
        (first.built language package payload).name =
            (second.built other otherPackage
              otherPayload).name ↔
          first.direction = second.direction ∧
            first.verb = second.verb ∧
            Naming.normalize first.path none =
              Naming.normalize second.path none) ∧
      ∀ (place : BodyPlace) (payload : Payload),
        read? (place.built language package payload).name =
          some
            (Naming.normalize place.path none, place.verb,
              place.direction) := by
  refine ⟨?_, ?_, ?_, ?_⟩
  · intro ancestor isServer resource
    have hBuilt :=
      resource.emittedBodies_eq_built language package ancestor
    refine ⟨hBuilt, ?_⟩
    rw [resource.bodyNames_allRoutes, hBuilt, List.map_map]
    apply List.map_congr_left
    rintro ⟨place, payload⟩ -
    exact (place.name_built language package payload).symm
  · intro place payload
    refine ⟨place.resource payload, ?_⟩
    rw [Resource.emittedBodies_eq_built,
      place.placedPayloads_resource payload]
    rfl
  · intro first second payload otherPayload
    rw [name_built, name_built, name_eq_iff]
    simp only [key, Prod.mk.injEq]
    constructor
    · rintro ⟨hPath, hVerb, hDirection⟩
      exact ⟨hDirection, hVerb, hPath⟩
    · rintro ⟨hDirection, hVerb, hPath⟩
      exact ⟨hPath, hVerb, hDirection⟩
  · intro place payload
    rw [name_built]
    exact place.read?_name

/-
  An ending that belongs to the path is left to the path.
-/
example :
    BodyPlace.read? "UsersGetReqPostReq" =
      some ("UsersGetReq", .post, .request) := by
  decide

end RamlScaffold
