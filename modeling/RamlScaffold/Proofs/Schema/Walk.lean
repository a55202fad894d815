import RamlScaffold.Schema.Bodies

/-
  The walk over bodies, as a row of steps.

  However deep a tree of resources is, walking it with an
  action is taking the action at the steps of the tree, one
  after the other.

  Main declarations:
    * `Resource.walkSteps_eq_forM`
    * `Resource.walkBodies_eq_forM`
    * `Api.walkSteps_eq_forM`
-/

------------------------------------------------------------
-- The Steps Of A Walk
------------------------------------------------------------

namespace RamlScaffold

section

variable {m : Type → Type} [Monad m] [LawfulMonad m]

theorem forM_flatMap
    {α β : Type}
    (items : List α)
    (parts : α → List β)
    (action : β → m Unit) :
    (items.flatMap parts).forM action =
      items.forM (fun item => (parts item).forM action) := by
  induction items with
  | nil => rfl
  | cons item items ih =>
      simp only [List.forM_eq_forM] at ih ⊢
      rw [List.flatMap_cons, List.forM_append, List.forM_cons, ih]

/- Steps are handed on where they emit a structure. -/
theorem forM_handTo
    (steps : List BodyStep)
    (action : Structure → m Unit) :
    steps.forM (BodyStep.handTo action) =
      (steps.filterMap BodyStep.structure?).forM action := by
  induction steps with
  | nil => rfl
  | cons step steps ih =>
      simp only [List.forM_eq_forM] at ih ⊢
      rw [List.forM_cons, ih]
      cases step with
      | emit struct => rfl
      | skip methodName code => exact pure_bind _ _

namespace Resource

theorem walkMethods_eq_forM
    (language : Language)
    (package path : String)
    (resource : Resource)
    (action : BodyStep → m Unit) :
    resource.walkMethods language package path action =
      (resource.ownBodySteps language package path).forM
        action :=
  (forM_flatMap _ _ action).symm

mutual

/- A tree is walked by taking its steps in order. -/
theorem walkSteps_eq_forM
    (language : Language)
    (package ancestor : String) :
    ∀ (resource : Resource) (action : BodyStep → m Unit),
      resource.walkSteps language package ancestor action =
        (resource.bodySteps language package ancestor).forM
          action
  | ⟨uri, displayName, description, methods, nested⟩,
      action => by
      have hNested :=
        walkStepsOfList_eq_forM language package
          (ancestor ++ uri) nested action
      rw [walkSteps, bodySteps, walkMethods_eq_forM, hNested]
      simp only [List.forM_eq_forM]
      rw [List.forM_append]

theorem walkStepsOfList_eq_forM
    (language : Language)
    (package ancestor : String) :
    ∀ (resources : List Resource)
      (action : BodyStep → m Unit),
      walkStepsOfList language package ancestor resources
          action =
        (bodyStepsOfList language package ancestor
          resources).forM action
  | [], _ => rfl
  | resource :: resources, action => by
      have hFirst :=
        walkSteps_eq_forM language package ancestor resource
          action
      have hRest :=
        walkStepsOfList_eq_forM language package ancestor
          resources action
      rw [walkStepsOfList, bodyStepsOfList, hFirst, hRest]
      simp only [List.forM_eq_forM]
      rw [List.forM_append]

end

theorem walkBodies_eq_forM
    (language : Language)
    (package ancestor : String)
    (resource : Resource)
    (action : Structure → m Unit) :
    resource.walkBodies language package ancestor action =
      (resource.bodyStructures language package
        ancestor).forM action := by
  unfold walkBodies bodyStructures
  rw [walkSteps_eq_forM, forM_handTo]

end Resource

theorem Api.walkSteps_eq_forM
    (language : Language)
    (package : String)
    (api : Api)
    (action : BodyStep → m Unit) :
    api.walkSteps language package action =
      (api.bodySteps language package).forM action := by
  unfold walkSteps bodySteps
  simp only [Resource.walkSteps_eq_forM, forM_flatMap]

end

end RamlScaffold
