import RamlScaffold.Proofs.Api.Catalog
import RamlScaffold.Proofs.Generation.Report
import RamlScaffold.Proofs.Schema.Calls

/-
  Runs that fail.

  A run that fails has written the artefacts in front of the
  one that failed, and nothing else.  A file is rendered before
  it is written, so that the one that failed is as it was.

  Main declarations:
    * `Run.FailsAt`
    * `Run.failsAt_of_effect`
    * `Run.failure_stops_there`
-/

------------------------------------------------------------
-- Where A Run Fails
------------------------------------------------------------

namespace RamlScaffold.Run

section

variable [WriteAccess]

/-
  What makes a run fail when it has come to these files, and
  has yet to do these jobs.  The index has its turn when no
  job is left.
-/
inductive FailsAt
    (run : Run)
    (output : Path)
    (files : FileTree) : List Job → Failure → Prop where
  | artefact
      (job : Job)
      (later : List Job)
      (failure : Failure)
      (hJob :
        job.perform run.generator.templates files =
          (.error failure, files)) :
      FailsAt run output files (job :: later) failure
  | listing
      (hRust : run.generator.language = .rust)
      (hNames : files.names? output = none) :
      FailsAt run output files [] (.directoryUnlistable output)
  | index
      (names : List String)
      (failure : Failure)
      (hRust : run.generator.language = .rust)
      (hNames : files.names? output = some names)
      (hJob :
        (Generator.indexJob output names).perform
            run.generator.templates files =
          (.error failure, files)) :
      FailsAt run output files [] failure

variable {run : Run} {output : Path}
variable {files last : FileTree} {failure : Failure}

theorem failsAt_of_runJobs
    {jobs : List Job}
    (hRun :
      runJobs run.generator.templates jobs files =
        (.error failure, last)) :
    ∃ front job later outcomes,
      jobs = front ++ job :: later ∧
        runJobs run.generator.templates front files =
          (.ok outcomes, last) ∧
        ∀ others,
          run.FailsAt output last (job :: (later ++ others))
            failure := by
  rcases runJobs_eq_error hRun with
    ⟨front, job, later, outcomes, hJobs, hFront, hJob⟩
  exact
    ⟨front, job, later, outcomes, hJobs, hFront,
      fun others => .artefact job _ failure hJob⟩

/- Services fail as their jobs do. -/
theorem runJobs_of_services_error
    (hServices :
      Effect.all (run.generator.serviceEffect output run.mode)
          run.services files =
        (.error failure, last)) :
    runJobs run.generator.templates (run.serviceJobs output)
        files =
      (.error failure, last) := by
  rw [← Effect.forget_eq_error_iff] at hServices ⊢
  rw [← hServices]
  exact
    (forget_all_runJobs run.generator.templates
      (run.generator.serviceJobs output run.mode)
      (run.generator.serviceReport output run.mode)
      run.services files).symm

theorem failsAt_of_indexEffect
    (hIndex :
      run.generator.indexEffect output files =
        (.error failure, last)) :
    last = files ∧ run.FailsAt output files [] failure := by
  unfold Generator.indexEffect at hIndex
  cases hLanguage : run.generator.language with
  | go =>
      rw [hLanguage] at hIndex
      cases hIndex
  | rust =>
      rw [hLanguage] at hIndex
      dsimp only at hIndex
      cases hNames : files.names? output with
      | none =>
          rw [hNames] at hIndex
          cases hIndex
          exact ⟨rfl, .listing hLanguage hNames⟩
      | some names =>
          rw [hNames] at hIndex
          have hJob := Effect.andThen_value_eq_error hIndex
          have hFiles := Job.files_of_error hJob
          rw [hFiles] at hJob
          exact
            ⟨hFiles, .index names failure hLanguage hNames hJob⟩

/-
  A run that fails has come as far as its first artefact that
  fails.
-/
theorem failsAt_of_effect
    (hRun : run.effect output files = (.error failure, last)) :
    (files.createAll? output = none ∧
        failure = .directoryUncreatable output ∧
        last = files) ∨
      ∃ ready front left outcomes,
        files.createAll? output = some ready ∧
          run.structureJobs output ++ run.serviceJobs output =
            front ++ left ∧
          runJobs run.generator.templates front ready =
            (.ok outcomes, last) ∧
          run.FailsAt output last left failure := by
  unfold effect at hRun
  cases hReady : files.createAll? output with
  | none =>
      rw [hReady] at hRun
      cases hRun
      exact Or.inl ⟨rfl, rfl, rfl⟩
  | some ready =>
      rw [hReady] at hRun
      refine Or.inr ⟨ready, ?_⟩
      -- The structures fail, or the services, or the index.
      rcases Effect.andThen_eq_error hRun with
        hStructures | ⟨first, stage, hStructures, hAfter⟩
      · rcases failsAt_of_runJobs hStructures with
          ⟨front, job, later, outcomes, hJobs, hFront, hFails⟩
        refine
          ⟨front, _, outcomes, rfl, ?_, hFront,
            hFails (run.serviceJobs output)⟩
        rw [hJobs, List.append_assoc, List.cons_append]
      rcases Effect.andThen_eq_error hAfter with
        hServices | ⟨reports, middle, hServices, hRest⟩
      · rcases failsAt_of_runJobs
            (runJobs_of_services_error hServices) with
          ⟨front, job, later, outcomes, hJobs, hFront, hFails⟩
        have hBoth := runJobs_append_of_ok hStructures hFront
        refine ⟨_, _, _, rfl, ?_, hBoth, hFails []⟩
        rw [hJobs, List.append_nil, List.append_assoc]
      · rcases services_eq_ok_iff.mp ⟨reports, hServices⟩ with
          ⟨second, hJobs⟩
        have hAll := runJobs_append_of_ok hStructures hJobs
        have hIndex := Effect.andThen_value_eq_error hRest
        rcases failsAt_of_indexEffect hIndex with
          ⟨hFiles, hFails⟩
        rw [hFiles]
        exact
          ⟨_, [], _, rfl, (List.append_nil _).symm, hAll,
            hFails⟩

/- The index is as it was where only other jobs were done. -/
theorem index_of_front
    {ready : FileTree}
    (hReady : files.createAll? output = some ready)
    {front left : List Job}
    (hJobs :
      run.structureJobs output ++ run.serviceJobs output =
        front ++ left)
    {outcomes : List WriteOutcome}
    (hFront :
      runJobs run.generator.templates front ready =
        (.ok outcomes, last))
    (contents : Contents)
    (isProgram : Bool) :
    last.at? (output.child indexName).place =
        some (.file contents isProgram) ↔
      files.at? (output.child indexName).place =
        some (.file contents isProgram) := by
  have hNone :
      ∀ job ∈ writers front outcomes,
        job.path.place ≠ (output.child indexName).place := by
    intro job hJob
    have hMem :
        job ∈
          run.structureJobs output ++ run.serviceJobs output := by
      rw [hJobs]
      exact List.mem_append_left left
        ((writers_sublist front outcomes).subset hJob)
    exact place_ne_index hMem
  rw [at?_of_no_writer hFront hNone,
    FileTree.file_createAll?_iff hReady]

/-
  A failure stops right there.

  A walk whose action fails has taken the structures before
  the failing one, and ends with the failure.  A run that
  fails has its directory as far as it was created, and the
  writes of its artefacts up to the failing one: those of the
  catalog by their keys, then those of the bodies as the walk
  meets them, and then those of the services.  Nothing of the
  failing artefact and of later ones is written, and the index
  is as it was.
-/
theorem failure_stops_there [PatternLanguage] :
    (∀ {σ ε : Type} (language : Language)
        (package ancestor : String) (resource : Resource)
        (action : Handler σ ε) (state : σ),
      ∀ result after calls,
        (resource.walkBodies language package ancestor
            action.noting).run.run (state, []) =
          (result, after, calls) →
        ∀ n struct failure,
          calls[n]? = some ⟨struct, .error failure⟩ →
          result = .error failure ∧
            calls.length = n + 1 ∧
            calls.filterMap Call.taken? =
              (resource.emittedBodies language package
                ancestor).take n ∧
            (resource.emittedBodies language package
                ancestor)[n]? =
              some struct ∧
            (resource.walkBodies language package ancestor
                action).run.run state =
              (result, after)) ∧
    (∀ (run : Run) (output : Path) (start after : Workspace)
        (failure : Failure),
      (run.action output).run.run start =
          (.error failure, after) →
        (start.files.createAll? output = none ∧
            failure = .directoryUncreatable output ∧
            after.files = start.files) ∨
          ∃ ready front left outcomes,
            start.files.createAll? output = some ready ∧
            run.structureJobs output ++
                run.serviceJobs output =
              front ++ left ∧
            runJobs run.generator.templates front ready =
              (.ok outcomes, after.files) ∧
            run.FailsAt output after.files left failure ∧
            (∀ place,
              ready.HoldsAfter run.generator.templates
                (writers front outcomes) place
                (after.files.at? place)) ∧
            ∀ contents isProgram,
              after.files.at? (output.child indexName).place =
                  some (.file contents isProgram) ↔
                start.files.at? (output.child indexName).place =
                  some (.file contents isProgram)) ∧
    (∀ root api, Api.ofValue root = .ok api →
      api.types.Ascending) ∧
    ∀ (language : Language) (package : String) (api : Api),
      api.bodyStructures language package =
        api.resources.flatMap
          (Resource.emittedBodies language package "") := by
  refine ⟨?_, ?_, ?_, Api.bodyStructures_eq_flatMap⟩
  · intro σ ε language package ancestor resource action state
      result after calls hRun n struct failure hFailed
    rcases resource.calls_of_walkBodies language package
        ancestor action state with
      ⟨made, ended, last, hCalls, hWalk, hNoted⟩
    rw [hRun] at hNoted
    rcases Prod.mk.inj hNoted with ⟨rfl, hRest⟩
    rcases Prod.mk.inj hRest with ⟨rfl, rfl⟩
    rcases hCalls.of_failed hFailed with
      ⟨hResult, hLength, hTaken, hNext⟩
    exact ⟨hResult, hLength, hTaken, hNext, hWalk⟩
  · intro run output start after failure hRun
    rcases failsAt_of_effect (effect_of_action hRun) with
      hDirectory |
        ⟨ready, front, left, outcomes, hReady, hJobs, hFront,
          hFails⟩
    · exact Or.inl hDirectory
    · exact Or.inr
        ⟨ready, front, left, outcomes, hReady, hJobs, hFront,
          hFails, holdsAfter_runJobs hFront,
          index_of_front hReady hJobs hFront⟩
  · intro root api hApi
    exact Api.ascending_types hApi

end

/- Structures are taken until one has been. -/
def takeOne : Handler Nat Unit :=
  fun _ => do
    let taken ← get
    if taken = 0 then set 1 else throw ()

/- A resource with one request and one response. -/
def filesResource : Resource where
  uri := "/files"
  methods :=
    [{ verb := .post
       body := { json := some {} }
       responses :=
         [{ code := "200", body := { json := some {} } }] }]

/- A workspace in which an interface cannot be written. -/
def blockedWorkspace : Workspace :=
  ⟨[(["gen"], .directory),
      (["gen", "users_if.rs"], .directory)],
    []⟩

/- A workspace in which that interface has been written. -/
def interfaceWorkspace : Workspace :=
  ⟨[(["gen"], .directory),
      (["gen", "users_if.rs"], .file (.text "old") false)],
    []⟩

/- A system that does not let the interface be written. -/
@[reducible]
def interfaceKept : WriteAccess where
  allows place := place != ["gen", "users_if.rs"]

/-
  The second structure fails, then an interface with a
  directory in its place, and then one that is kept.
-/
theorem usersRun_fails :
    (∃ result after calls struct,
      (filesResource.walkBodies .rust "api" ""
          takeOne.noting).run.run (0, []) =
        (result, after, calls) ∧
      calls[1]? = some ⟨struct, .error ()⟩ ∧
      calls.filterMap Call.taken? =
        (filesResource.emittedBodies .rust "api" "").take 1) ∧
      (∃ failure after,
        ((usersRun .rust "stub").action ⟨"gen"⟩).run.run
            blockedWorkspace =
          (.error failure, after) ∧
        ∀ contents isProgram,
          after.files.at? ((Path.mk "gen").child indexName).place ≠
            some (.file contents isProgram)) ∧
      ∃ failure after,
        (@action interfaceKept (usersRun .rust "stub")
            ⟨"gen"⟩).run.run interfaceWorkspace =
          (.error failure, after) ∧
        after.files.at? ["gen", "users_if.rs"] =
          some (.file (.text "old") false) ∧
        ∀ contents isProgram,
          after.files.at? ((Path.mk "gen").child indexName).place ≠
            some (.file contents isProgram) := by
  have hNoIndex
      {access : WriteAccess}
      {start after : Workspace}
      {failure : Failure}
      (hRun :
        ((usersRun .rust "stub").action ⟨"gen"⟩).run.run start =
          (.error failure, after))
      (hReady : start.files.createAll? ⟨"gen"⟩ ≠ none)
      (hFree :
        start.files.at? ((Path.mk "gen").child indexName).place =
          none) :
      ∀ contents isProgram,
        after.files.at? ((Path.mk "gen").child indexName).place ≠
          some (.file contents isProgram) := by
    intro contents isProgram
    rcases failure_stops_there.2.1 _ _ _ _ _ hRun with
      ⟨hNone, -⟩ | ⟨_, _, _, _, -, -, -, -, -, hIndex⟩
    · exact absurd hNone hReady
    · rw [ne_eq, hIndex, hFree]
      exact nofun
  refine ⟨?_, ?_, ?_⟩
  · have hTaken :=
      failure_stops_there.1 .rust "api" "" filesResource takeOne
        0 _ _ _ rfl 1 _ () rfl
    exact ⟨_, _, _, _, rfl, rfl, hTaken.2.2.1⟩
  · have hRun :
        ∃ failure after,
          ((usersRun .rust "stub").action ⟨"gen"⟩).run.run
              blockedWorkspace =
            (.error failure, after) :=
      ⟨_, _, rfl⟩
    rcases hRun with ⟨failure, after, hRun⟩
    exact
      ⟨failure, after, hRun,
        hNoIndex hRun (by decide +kernel) (by decide +kernel)⟩
  · have hRun :
        ∃ failure after,
          (@action interfaceKept (usersRun .rust "stub")
              ⟨"gen"⟩).run.run interfaceWorkspace =
            (.error failure, after) ∧
          after.files.at? ["gen", "users_if.rs"] =
            some (.file (.text "old") false) :=
      ⟨_, _, rfl, by decide +kernel⟩
    rcases hRun with ⟨failure, after, hRun, hKept⟩
    exact
      ⟨failure, after, hRun, hKept,
        hNoIndex hRun (by decide +kernel) (by decide +kernel)⟩

end RamlScaffold.Run
