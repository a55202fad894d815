import RamlScaffold.Proofs.Service.BodyRoutes

/-
  The calls of an action that a walk over bodies makes.

  The walk calls its action with one structure after the other
  until the action fails.  What the action has taken by then
  are the first structures of the walk, and its failure is
  that of the walk.

  Main declarations:
    * `Handler`, `Call`, `Handler.noting`
    * `Calls`, `calls_of_forM`
    * `Calls.of_failed`
    * `Api.bodyStructures_eq_flatMap`
    * `Resource.calls_of_walkBodies`
-/

------------------------------------------------------------
-- Calls
------------------------------------------------------------

namespace RamlScaffold

/- An action on structures that has a state and may fail. -/
abbrev Handler (σ ε : Type) : Type :=
  Structure → ExceptT ε (StateM σ) Unit

/- A call of an action, and how it ended. -/
structure Call (ε : Type) where
  struct : Structure
  result : Except ε Unit

namespace Call

variable {ε : Type}

/- The structure of a call that was successful. -/
def taken? : Call ε → Option Structure
  | ⟨struct, .ok _⟩ => some struct
  | ⟨_, .error _⟩ => none

end Call

section

variable {σ ε : Type}

/- An action that notes its calls besides. -/
def Handler.noting
    (action : Handler σ ε) :
    Handler (σ × List (Call ε)) ε :=
  fun struct =>
    ExceptT.mk (do
      let (state, calls) ← get
      let (result, after) := (action struct).run.run state
      set (after, calls ++ [⟨struct, result⟩])
      return result)

/-
  The calls that structures lead to from a first state, with
  the result and the last state.  Only a call that succeeds is
  followed by another.
-/
inductive Calls
    (action : Handler σ ε) :
    List Structure → σ → List (Call ε) → Except ε Unit → σ →
      Prop where
  | done
      (state : σ) :
      Calls action [] state [] (.ok ()) state
  | failed
      (struct : Structure)
      (structs : List Structure)
      (state after : σ)
      (failure : ε)
      (hCall :
        (action struct).run.run state =
          (.error failure, after)) :
      Calls action (struct :: structs) state
        [⟨struct, .error failure⟩] (.error failure) after
  | took
      (struct : Structure)
      (structs : List Structure)
      (state middle after : σ)
      (calls : List (Call ε))
      (result : Except ε Unit)
      (hCall :
        (action struct).run.run state = (.ok (), middle))
      (hRest :
        Calls action structs middle calls result after) :
      Calls action (struct :: structs) state
        (⟨struct, .ok ()⟩ :: calls) result after

end

end RamlScaffold

------------------------------------------------------------
-- Calls Of A Walk
------------------------------------------------------------

namespace RamlScaffold

section

variable {σ ε : Type} {action : Handler σ ε}

theorem Handler.run_noting
    (action : Handler σ ε)
    (struct : Structure)
    (state : σ)
    (calls : List (Call ε)) :
    (action.noting struct).run.run (state, calls) =
      (((action struct).run.run state).1,
        ((action struct).run.run state).2,
        calls ++
          [⟨struct, ((action struct).run.run state).1⟩]) :=
  rfl

/- What follows on a call, by how the call ended. -/
theorem run_forM_cons
    (action : Handler σ ε)
    (struct : Structure)
    (structs : List Structure)
    (state : σ) :
    ((struct :: structs).forM action).run.run state =
      match (action struct).run.run state with
      | (.ok _, after) => (structs.forM action).run.run after
      | (.error failure, after) => (.error failure, after) := by
  rw [List.forM_eq_forM, List.forM_cons, ExceptT.run_bind,
    StateT.run_bind]
  rcases (action struct).run.run state with ⟨_ | value, after⟩
  · rfl
  · rfl

/-
  Structures in a row are called as `Calls` describes, whether
  the calls are noted or not.
-/
theorem calls_of_forM
    (action : Handler σ ε)
    (structs : List Structure)
    (state : σ)
    (earlier : List (Call ε)) :
    ∃ calls result after,
      Calls action structs state calls result after ∧
        (structs.forM action).run.run state = (result, after) ∧
        (structs.forM action.noting).run.run (state, earlier) =
          (result, after, earlier ++ calls) := by
  induction structs generalizing state earlier with
  | nil =>
      refine ⟨[], .ok (), state, .done state, rfl, ?_⟩
      rw [List.append_nil]
      rfl
  | cons struct structs ih =>
      rw [run_forM_cons, run_forM_cons, Handler.run_noting]
      rcases hCall : (action struct).run.run state with
        ⟨failure | ⟨⟩, middle⟩
      · exact
          ⟨_, _, middle,
            .failed struct structs state middle failure hCall,
            rfl, rfl⟩
      · rcases ih middle (earlier ++ [⟨struct, .ok ()⟩]) with
          ⟨calls, result, after, hRest, hRun, hNoted⟩
        refine
          ⟨_, result, after,
            .took struct structs state middle after calls result
              hCall hRest,
            hRun, ?_⟩
        rw [List.append_cons earlier _ calls]
        exact hNoted

/-
  The call that fails is the last.  The action has taken what
  stands before it, and the failure is the result.
-/
theorem Calls.of_failed
    {structs : List Structure}
    {state after : σ}
    {calls : List (Call ε)}
    {result : Except ε Unit}
    (hCalls : Calls action structs state calls result after)
    {n : Nat}
    {struct : Structure}
    {failure : ε}
    (hFailed : calls[n]? = some ⟨struct, .error failure⟩) :
    result = .error failure ∧
      calls.length = n + 1 ∧
      calls.filterMap Call.taken? = structs.take n ∧
      structs[n]? = some struct := by
  induction hCalls generalizing n with
  | done => simp at hFailed
  | failed first structs state after stop hCall =>
      cases n with
      | zero =>
          simp only [List.getElem?_cons_zero, Option.some.injEq,
            Call.mk.injEq, Except.error.injEq] at hFailed
          rcases hFailed with ⟨rfl, rfl⟩
          exact ⟨rfl, rfl, rfl, rfl⟩
      | succ n => simp at hFailed
  | took first structs state middle after calls result hCall
      hRest ih =>
      cases n with
      | zero => simp at hFailed
      | succ n =>
          rw [List.getElem?_cons_succ] at hFailed
          rcases ih hFailed with ⟨hResult, hLength, hTaken, hNext⟩
          refine ⟨hResult, ?_, ?_, ?_⟩
          · rw [List.length_cons, hLength]
          · exact congrArg (List.cons first) hTaken
          · rw [List.getElem?_cons_succ, hNext]

/- The bodies of a definition are those of its resources. -/
theorem Api.bodyStructures_eq_flatMap
    (language : Language)
    (package : String)
    (api : Api) :
    api.bodyStructures language package =
      api.resources.flatMap
        (Resource.emittedBodies language package "") := by
  unfold bodyStructures bodySteps
  rw [List.filterMap_flatMap]
  congr
  funext resource
  exact
    (resource.emittedBodies_eq_bodyStructures language package
      "").symm

/-
  A walk that calls an action until it fails.  The structures
  are those that a walk meets whose action never fails.
-/
theorem Resource.calls_of_walkBodies
    (language : Language)
    (package ancestor : String)
    (resource : Resource)
    (action : Handler σ ε)
    (state : σ) :
    ∃ calls result after,
      Calls action
          (resource.emittedBodies language package ancestor)
          state calls result after ∧
        (resource.walkBodies language package ancestor
            action).run.run state =
          (result, after) ∧
        (resource.walkBodies language package ancestor
            action.noting).run.run (state, []) =
          (result, after, calls) := by
  rw [emittedBodies_eq_bodyStructures, walkBodies_eq_forM,
    walkBodies_eq_forM]
  exact calls_of_forM action _ state []

end

end RamlScaffold
