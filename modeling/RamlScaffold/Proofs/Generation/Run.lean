import RamlScaffold.Proofs.Generation.Plan

/-
  Runs of generators, and the jobs that they have planned.

  Which structures and services a run has depends on its API
  and not on the files.  Only the index of the modules looks
  at the files that are there.

  Main declarations:
    * `Run`, `Run.action`
    * `Run.types`, `Run.bodies`, `Run.services`
    * `Run.effect`, `Run.yields_action`
    * `Run.Plans`, `Run.files_effect`
-/

------------------------------------------------------------
-- Runs
------------------------------------------------------------

namespace RamlScaffold

/- A generator with all that it is asked for. -/
structure Run where
  generator : Generator
  mode : Mode
  scope : Scope
  api : Api

namespace Run

/- Generates what is asked for into a directory. -/
def action
    [WriteAccess]
    (run : Run)
    (output : Path) : Action GenerationReport :=
  run.generator.generateAll output run.mode run.scope run.api

/- The structures of the catalog, if the scope has them. -/
def types (run : Run) : List Structure :=
  if run.scope.types then
    run.api.types.map run.generator.typeStructure
  else []

/- The structures of the bodies, if the scope has them. -/
def bodies (run : Run) : List Structure :=
  if run.scope.bodies then
    run.api.bodyStructures run.generator.language
      run.generator.package
  else []

/- The top-level services, if the scope has them. -/
def services (run : Run) : List Service :=
  if run.scope.services then
    run.generator.services run.mode run.api
  else []

/- The jobs of structures, which stand before all others. -/
def structureJobs
    (run : Run)
    (output : Path) : List Job :=
  (run.types ++ run.bodies).map
    (run.generator.structureJob output)

/- The jobs of services, in the order of the services. -/
def serviceJobs
    (run : Run)
    (output : Path) : List Job :=
  run.services.flatMap
    (run.generator.serviceJobs output run.mode)

/- What a run reports of its services and of its index. -/
def reportOf
    (run : Run)
    (output : Path)
    (services : List EmitReport)
    (index : List Path) : GenerationReport where
  types := run.types
  bodies := run.bodies
  services := services
  written :=
    (run.types ++ run.bodies).map
        (run.generator.structurePath output) ++
      services.flatMap EmitReport.written ++ index

end Run

end RamlScaffold

------------------------------------------------------------
-- Effects
------------------------------------------------------------

namespace RamlScaffold.Run

variable [WriteAccess]

/- What a run does after it has written its structures. -/
def effectAfter
    (run : Run)
    (output : Path)
    (files : FileTree) : Effect GenerationReport :=
  (Effect.all (run.generator.serviceEffect output run.mode)
    run.services files).andThen
      (fun services after =>
        (run.generator.indexEffect output after).andThen
          (fun index last =>
            (.ok (run.reportOf output services index), last)))

/- What a run does where its directory is ready. -/
def effectOn
    (run : Run)
    (output : Path)
    (files : FileTree) : Effect GenerationReport :=
  (runJobs run.generator.templates (run.structureJobs output)
    files).andThen
      (fun _ middle => run.effectAfter output middle)

/- What a run does. -/
def effect
    (run : Run)
    (output : Path)
    (files : FileTree) : Effect GenerationReport :=
  match files.createAll? output with
  | none => (.error (.directoryUncreatable output), files)
  | some ready => run.effectOn output ready

end RamlScaffold.Run

namespace RamlScaffold.Run

open RamlScaffold.Action

variable [WriteAccess]

theorem yields_types
    (run : Run)
    {output : Path}
    {files : FileTree}
    (hReady : files.IsReady output) :
    Yields
      (if run.scope.types then
        run.generator.generateTypes output run.api
      else pure [])
      files
      ((runJobs run.generator.templates
          (run.types.map (run.generator.structureJob output))
          files).andThen
        (fun _ after => (.ok run.types, after))) := by
  unfold types
  cases run.scope.types with
  | true =>
      exact run.generator.yields_generateTypes run.api hReady
  | false => exact yields_pure [] files

theorem yields_bodies
    (run : Run)
    {output : Path}
    {files : FileTree}
    (hReady : files.IsReady output) :
    Yields
      (if run.scope.bodies then
        run.generator.generateBodies output run.api
      else pure [])
      files
      ((runJobs run.generator.templates
          (run.bodies.map (run.generator.structureJob output))
          files).andThen
        (fun _ after => (.ok run.bodies, after))) := by
  unfold bodies
  cases run.scope.bodies with
  | true =>
      exact run.generator.yields_generateBodies run.api hReady
  | false => exact yields_pure [] files

theorem yields_services
    (run : Run)
    {output : Path}
    {files : FileTree}
    (hReady : files.IsReady output) :
    Yields
      (if run.scope.services then
        run.generator.emitServices output run.mode run.api
      else pure [])
      files
      (Effect.all (run.generator.serviceEffect output run.mode)
        run.services files) := by
  unfold services
  cases run.scope.services with
  | true =>
      exact run.generator.yields_emitServices run.mode run.api
        hReady
  | false => exact yields_pure [] files

/- All structures are written before the first service. -/
theorem runJobs_structureJobs
    (run : Run)
    (output : Path)
    (files : FileTree)
    {α : Type}
    (next : FileTree → Effect α) :
    (runJobs run.generator.templates (run.structureJobs output)
        files).andThen (fun _ after => next after) =
      (runJobs run.generator.templates
          (run.types.map (run.generator.structureJob output))
          files).andThen
        (fun _ middle =>
          (runJobs run.generator.templates
            (run.bodies.map (run.generator.structureJob output))
            middle).andThen (fun _ after => next after)) := by
  unfold structureJobs
  rw [List.map_append, runJobs_append, Effect.andThen_assoc]
  simp only [Effect.andThen_assoc, Effect.andThen_ok]

theorem yields_effectOn
    (run : Run)
    {output : Path}
    {files ready : FileTree}
    (hCreate : files.createAll? output = some ready) :
    (run.action output).Yields files
      (run.effectOn output ready) := by
  have hReady := FileTree.isReady_of_createAll? hCreate
  unfold action Generator.generateAll effectOn
  refine (yields_createDirectory_some hCreate).pass ?_
  rw [runJobs_structureJobs]
  unfold effectAfter
  -- Each part is taken or left out, and is ready afterwards.
  refine Yields.ofChoice ?_
  refine (run.yields_types hReady).bindValue ?_
  have hMiddle :=
    (follows_runJobs run.generator.templates
      (run.types.map (run.generator.structureJob output))
      ready).isReady hReady
  refine Yields.ofChoice ?_
  refine (run.yields_bodies hMiddle).bindValue ?_
  have hAfter :=
    (follows_runJobs run.generator.templates
      (run.bodies.map (run.generator.structureJob output))
      _).isReady hMiddle
  refine Yields.ofChoice ?_
  refine (run.yields_services hAfter).bind ?_
  intro services last _
  unfold Generator.indexEffect
  cases run.generator.language with
  | go =>
      exact (yields_pure [] last).pass (yields_pure _ last)
  | rust =>
      cases hNames : last.names? output with
      | none =>
          exact (run.generator.yields_writeIndex_none hNames).fail
            _
      | some names =>
          dsimp only
          rw [Effect.andThen_assoc]
          refine
            (run.generator.yields_writeIndex_some
              hNames).bindValue ?_
          exact (yields_pure _ _).pass (yields_pure _ _)

/- The action of a run has its effect, whatever was reported. -/
theorem yields_action
    (run : Run)
    (output : Path)
    (files : FileTree) :
    (run.action output).Yields files (run.effect output files) := by
  unfold effect
  cases hCreate : files.createAll? output with
  | none =>
      exact (yields_createDirectory_none hCreate).fail _
  | some ready => exact run.yields_effectOn hCreate

theorem run_action
    (run : Run)
    (output : Path)
    (workspace : Workspace) :
    ∃ reported,
      (run.action output).run.run workspace =
        ((run.effect output workspace.files).1,
          ⟨(run.effect output workspace.files).2, reported⟩) :=
  run.yields_action output workspace.files workspace.events

theorem effect_of_action
    {run : Run}
    {output : Path}
    {start after : Workspace}
    {result : Except Failure GenerationReport}
    (hRun : (run.action output).run.run start = (result, after)) :
    run.effect output start.files = (result, after.files) := by
  rcases run.run_action output start with ⟨reported, hStart⟩
  rw [hStart] at hRun
  rcases Prod.mk.inj hRun with ⟨hResult, hAfter⟩
  rw [← hResult, ← hAfter]

theorem files_action
    (run : Run)
    (output : Path)
    (workspace : Workspace) :
    ((run.action output).run.run workspace).2.files =
      (run.effect output workspace.files).2 := by
  rcases run.run_action output workspace with ⟨reported, hRun⟩
  rw [hRun]

end RamlScaffold.Run

------------------------------------------------------------
-- Planned Jobs
------------------------------------------------------------

namespace RamlScaffold.Run

variable [WriteAccess]

/- The jobs that a run may come to after its structures. -/
def PlansAfter
    (run : Run)
    (output : Path)
    (job : Job) : Prop :=
  job ∈ run.serviceJobs output ∨
    run.generator.language = .rust ∧
      ∃ names, job = Generator.indexJob output names

/- The jobs that a run may come to, whatever files there are. -/
def Plans
    (run : Run)
    (output : Path)
    (job : Job) : Prop :=
  job ∈ run.structureJobs output ∨ run.PlansAfter output job

/- The files after the services are those after their jobs. -/
theorem files_services
    (run : Run)
    (output : Path)
    (files : FileTree) :
    (Effect.all (run.generator.serviceEffect output run.mode)
        run.services files).2 =
      (runJobs run.generator.templates (run.serviceJobs output)
        files).2 := by
  have hForget :=
    forget_all_runJobs run.generator.templates
      (run.generator.serviceJobs output run.mode)
      (run.generator.serviceReport output run.mode)
      run.services files
  have hFiles := congrArg Prod.snd hForget
  rw [Effect.files_forget, Effect.files_forget] at hFiles
  exact hFiles

section

variable {run : Run} {output : Path}
variable {R : FileTree → FileTree → Prop}

/-
  What the steps of its later jobs keep, the run keeps after
  its structures, whether it succeeds or fails.
-/
theorem files_effectAfter
    (hRefl : ∀ files, R files files)
    (hTrans :
      ∀ {first second third},
        R first second → R second third → R first third)
    (hStep :
      ∀ job, run.PlansAfter output job → ∀ tree effect,
        job.Step run.generator.templates tree effect →
          R tree effect.2)
    (files : FileTree) :
    R files (run.effectAfter output files).2 := by
  unfold effectAfter
  refine Effect.files_andThen (R := R) hTrans ?_ ?_
  · rw [files_services]
    exact files_runJobs hRefl hTrans
      (fun job hJob => hStep job (Or.inl hJob)) files
  · intro services after _
    rw [Effect.files_andThen_value]
    unfold Generator.indexEffect
    cases hLanguage : run.generator.language with
    | go => exact hRefl after
    | rust =>
        cases after.names? output with
        | none => exact hRefl after
        | some names =>
            dsimp only
            rw [Effect.files_andThen_value]
            exact hStep _ (Or.inr ⟨hLanguage, names, rfl⟩)
              after _ (Job.step_perform _ _ after)

/-
  What the creation of the directory and every step of a
  planned job keeps, the run keeps, whether it succeeds or
  fails.
-/
theorem files_effect
    (hRefl : ∀ files, R files files)
    (hTrans :
      ∀ {first second third},
        R first second → R second third → R first third)
    {files : FileTree}
    (hCreate :
      ∀ ready, files.createAll? output = some ready →
        R files ready)
    (hStep :
      ∀ job, run.Plans output job → ∀ tree effect,
        job.Step run.generator.templates tree effect →
          R tree effect.2) :
    R files (run.effect output files).2 := by
  unfold effect
  cases hReady : files.createAll? output with
  | none => exact hRefl files
  | some ready =>
      refine hTrans (hCreate ready hReady) ?_
      refine Effect.files_andThen (R := R) hTrans ?_ ?_
      · exact files_runJobs hRefl hTrans
          (fun job hJob => hStep job (Or.inl hJob)) ready
      · intro outcomes middle _
        exact files_effectAfter hRefl hTrans
          (fun job hJob => hStep job (Or.inr hJob)) middle

end

section

variable {run : Run} {output : Path} {place : Place}
variable {contents : Contents} {isProgram : Bool}

/-
  A file stays as it is, unless a planned job that replaces
  files is at its place.
-/
theorem file_effectAfter
    (hOther :
      ∀ job, run.PlansAfter output job → job.replaces = true →
        job.path.place ≠ place)
    {files : FileTree}
    (hFile : files.at? place = some (.file contents isProgram)) :
    (run.effectAfter output files).2.at? place =
      some (.file contents isProgram) := by
  refine
    files_effectAfter
      (R := fun first last =>
        first.at? place = some (.file contents isProgram) →
          last.at? place = some (.file contents isProgram))
      ?_ ?_ ?_ files hFile
  · exact fun tree hPlace => hPlace
  · exact fun hFirst hSecond hPlace => hSecond (hFirst hPlace)
  · exact fun job hJob tree effect hStep hPlace =>
      hStep.file (hOther job hJob) hPlace

theorem file_effect
    (hOther :
      ∀ job, run.Plans output job → job.replaces = true →
        job.path.place ≠ place)
    {files : FileTree}
    (hFile : files.at? place = some (.file contents isProgram)) :
    (run.effect output files).2.at? place =
      some (.file contents isProgram) := by
  refine
    files_effect
      (R := fun first last =>
        first.at? place = some (.file contents isProgram) →
          last.at? place = some (.file contents isProgram))
      ?_ ?_ ?_ ?_ hFile
  · exact fun tree hPlace => hPlace
  · exact fun hFirst hSecond hPlace => hSecond (hFirst hPlace)
  · exact fun ready hReady hPlace =>
      FileTree.at?_createAll? hReady hPlace
  · exact fun job hJob tree effect hStep hPlace =>
      hStep.file (hOther job hJob) hPlace

end

/- A run that succeeds has written its structures before. -/
theorem effect_eq_ok
    {run : Run}
    {output : Path}
    {files last : FileTree}
    {report : GenerationReport}
    (hRun : run.effect output files = (.ok report, last)) :
    ∃ ready outcomes middle,
      files.createAll? output = some ready ∧
        runJobs run.generator.templates
            (run.structureJobs output) ready =
          (.ok outcomes, middle) ∧
        run.effectAfter output middle = (.ok report, last) := by
  unfold effect at hRun
  cases hReady : files.createAll? output with
  | none =>
      rw [hReady] at hRun
      cases hRun
  | some ready =>
      rw [hReady] at hRun
      rcases Effect.andThen_eq_ok hRun with
        ⟨outcomes, middle, hStructures, hAfter⟩
      exact ⟨ready, outcomes, middle, rfl, hStructures, hAfter⟩

end RamlScaffold.Run
