import RamlScaffold.Api.Document
import RamlScaffold.Libraries
import RamlScaffold.Proofs.Schema.Calls

/-
  Which body structures have the same name.

  The name of a body tells its verb and whether it is sent or
  received, but of its path no more than the identifier.  Two
  paths of one definition can have the same identifier, and
  then one structure takes the place of the other.

  Main declarations:
    * `append_inj_of_endings`
    * `BodyPlace`, `BodyPlace.name`, `BodyPlace.key`
    * `BodyPlace.name_eq_iff`
    * `Api.bodyPlaces`, `Api.bodyNames_eq`
    * `Api.bodyNames_collide_iff`
    * `siblingBodies_share_name`
-/

------------------------------------------------------------
-- Endings That Can Be Told Apart
------------------------------------------------------------

namespace RamlScaffold

/-
  A text is split in one way only into a front and an ending,
  if no ending is the end of another.
-/
theorem append_inj_of_endings
    {α : Type}
    {ending : α → String}
    (hEndings :
      ∀ a b, (ending a).toList <:+ (ending b).toList → a = b)
    {first second : String}
    {a b : α}
    (hSame : first ++ ending a = second ++ ending b) :
    first = second ∧ a = b := by
  have hLists :
      first.toList ++ (ending a).toList =
        second.toList ++ (ending b).toList := by
    rw [← String.toList_append, ← String.toList_append, hSame]
  have hLeft :
      (ending a).toList <:+
        first.toList ++ (ending a).toList :=
    List.suffix_append _ _
  have hRight :
      (ending b).toList <:+
        first.toList ++ (ending a).toList := by
    rw [hLists]
    exact List.suffix_append _ _
  have hEnding : a = b := by
    rcases List.suffix_or_suffix_of_suffix hLeft hRight with
      hEnd | hEnd
    · exact hEndings a b hEnd
    · exact (hEndings b a hEnd).symm
  subst hEnding
  exact ⟨String.append_left_inj (ending a) |>.mp hSame, rfl⟩

/- No verb ends like another. -/
theorem Verb.eq_of_suffix (first second : Verb) :
    first.title.toList <:+ second.title.toList →
      first = second := by
  cases first <;> cases second <;> decide

/- The two directions end differently. -/
theorem Direction.eq_of_suffix (first second : Direction) :
    first.ending.toList <:+ second.ending.toList →
      first = second := by
  cases first <;> cases second <;> decide

end RamlScaffold

------------------------------------------------------------
-- Places Of Bodies
------------------------------------------------------------

namespace RamlScaffold

/- Where a body stands: a full path, a verb, a direction. -/
structure BodyPlace where
  path : String
  verb : Verb
  direction : Direction
deriving DecidableEq, Repr

namespace BodyPlace

/- The name of the structure of the body at a place. -/
def name (place : BodyPlace) : String :=
  Naming.normalize place.path none ++ place.verb.title ++
    place.direction.ending

/- All that the name of a body tells about its place. -/
def key (place : BodyPlace) : String × Verb × Direction :=
  (Naming.normalize place.path none, place.verb,
    place.direction)

/- Bodies have the same name exactly if their keys agree. -/
theorem name_eq_iff (first second : BodyPlace) :
    first.name = second.name ↔ first.key = second.key := by
  constructor
  · intro hSame
    rcases append_inj_of_endings Direction.eq_of_suffix hSame
      with ⟨hMethod, hDirection⟩
    rcases append_inj_of_endings Verb.eq_of_suffix hMethod with
      ⟨hPath, hVerb⟩
    unfold key
    rw [hPath, hVerb, hDirection]
  · intro hKey
    rcases Prod.mk.inj hKey with ⟨hPath, hRest⟩
    rcases Prod.mk.inj hRest with ⟨hVerb, hDirection⟩
    unfold name
    rw [hPath, hVerb, hDirection]

end BodyPlace

/- The places of the JSON bodies of a method. -/
def Method.bodyPlaces
    (path : String)
    (method : Method) : List BodyPlace :=
  (method.body.json.map
      (fun _ => BodyPlace.mk path method.verb .request)).toList ++
    (method.firstJson?.map
      (fun _ => BodyPlace.mk path method.verb .response)).toList

theorem Method.names_bodyStructures
    (language : Language)
    (package path : String)
    (method : Method) :
    (method.bodyStructures language package path).map
        Structure.name =
      (method.bodyPlaces path).map BodyPlace.name := by
  unfold bodyStructures bodyPlaces
  cases method.body.json with
  | none =>
      cases method.firstJson? with
      | none => rfl
      | some payload => simp [BodyPlace.name]
  | some payload =>
      cases method.firstJson? with
      | none => simp [BodyPlace.name]
      | some response => simp [BodyPlace.name]

namespace Api

/- The places of the JSON bodies of a definition, in order. -/
def bodyPlaces (api : Api) : List BodyPlace :=
  (api.resources.flatMap (Resource.placedMethods "")).flatMap
    (fun placed => placed.2.bodyPlaces placed.1)

/- The names of all structures that the walks hand out. -/
def bodyNames
    (language : Language)
    (package : String)
    (api : Api) : List String :=
  (api.resources.flatMap
      (Resource.emittedBodies language package "")).map
    Structure.name

/- The walks name one structure for each place, in order. -/
theorem bodyNames_eq
    (language : Language)
    (package : String)
    (api : Api) :
    api.bodyNames language package =
      api.bodyPlaces.map BodyPlace.name := by
  unfold bodyNames bodyPlaces
  simp only [Resource.emittedBodies_eq, List.map_flatMap,
    List.flatMap_assoc, Method.names_bodyStructures]

/-
  Which bodies of a definition have the same name.  Verb and
  direction always tell them apart, and paths do exactly as
  far as their identifiers differ.
-/
theorem bodyNames_collide_iff
    (language : Language)
    (package : String)
    (api : Api) :
    api.bodyNames language package =
        api.bodyPlaces.map BodyPlace.name ∧
      (∀ first second : BodyPlace,
        first.name = second.name ↔
          Naming.normalize first.path none =
              Naming.normalize second.path none ∧
            first.verb = second.verb ∧
            first.direction = second.direction) ∧
      ((api.bodyNames language package).Nodup ↔
        (api.bodyPlaces.map BodyPlace.key).Nodup) := by
  have hNames := api.bodyNames_eq language package
  refine ⟨hNames, ?_, ?_⟩
  · intro first second
    rw [BodyPlace.name_eq_iff]
    simp only [BodyPlace.key, Prod.mk.injEq]
  · rw [hNames, List.Nodup, List.Nodup, List.pairwise_map,
      List.pairwise_map]
    simp only [ne_eq, BodyPlace.name_eq_iff]

end Api

end RamlScaffold

------------------------------------------------------------
-- A Collision
------------------------------------------------------------

namespace RamlScaffold

/- A resource with a response whose body is of a type. -/
def siblingResource (typeName : String) : Yaml.Value :=
  .mapping
    [(.text "get",
      .mapping
        [(.text "responses",
          .mapping
            [(.text "200",
              .mapping
                [(.text "body",
                  .mapping
                    [(.text "type", .text typeName)])])])])]

/- A document with a parameter and a word of the same name. -/
def siblingDocument : Yaml.Value :=
  .mapping
    [(.text "title", .text "Users"),
      (.text "/users/\x7bid\x7d", siblingResource "string"),
      (.text "/users/id", siblingResource "integer")]

/- The places of the bodies of that document. -/
def siblingPlaces : List BodyPlace :=
  [⟨"/users/\x7bid\x7d", .get, .response⟩,
    ⟨"/users/id", .get, .response⟩]

/-
  The document is a definition whose two bodies have the same
  name, although their paths differ.
-/
theorem siblingBodies_share_name :
    ∃ api,
      Api.ofValue siblingDocument = .ok api ∧
        api.bodyPlaces = siblingPlaces ∧
        siblingPlaces.Nodup ∧
        api.bodyNames .go "main" =
          ["UsersIdGetResp", "UsersIdGetResp"] := by
  have hRead :
      (Api.ofValue siblingDocument).toOption.map
          (fun api =>
            (api.bodyPlaces, api.bodyNames .go "main")) =
        some
          (siblingPlaces,
            ["UsersIdGetResp", "UsersIdGetResp"]) := by
    decide +kernel
  cases hApi : Api.ofValue siblingDocument with
  | error fault =>
      rw [hApi] at hRead
      cases hRead
  | ok api =>
      rw [hApi] at hRead
      rcases Prod.mk.inj (Option.some.inj hRead) with
        ⟨hPlaces, hNames⟩
      exact ⟨api, rfl, hPlaces, by decide, hNames⟩

end RamlScaffold
