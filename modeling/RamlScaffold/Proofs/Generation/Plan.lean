import RamlScaffold.Proofs.Generation.Job
import RamlScaffold.Proofs.Language.FileNames
import RamlScaffold.Proofs.Service.BodyRoutes

/-
  The parts of a generator as jobs.

  Every part takes the jobs of its structures, its services or
  its index, in a directory that is ready.

  Main declarations:
    * `Generator.structureJob`, `Generator.serviceJobs`
    * `Generator.serviceEffect`, `Generator.indexEffect`
    * `Generator.yields_generateTypes`
    * `Generator.yields_generateBodies`
    * `Generator.yields_emitServices`
-/

------------------------------------------------------------
-- Jobs Of A Generator
------------------------------------------------------------

namespace RamlScaffold.Generator

/- The file of a structure is always replaced. -/
def structureJob
    (generator : Generator)
    (output : Path)
    (struct : Structure) : Job where
  template := Artefact.struct.templateName
  context := struct.context
  path := generator.structurePath output struct
  replaces := true

/- The interface of a service is always replaced. -/
def interfaceJob
    (generator : Generator)
    (output : Path)
    (service : Service) : Job where
  template := Artefact.interface.templateName
  context := service.context
  path := generator.servicePath output service "if"
  replaces := true

/- The stub of a service replaces nothing. -/
def stubJob
    (generator : Generator)
    (output : Path)
    (service : Service) : Job where
  template := Artefact.stub.templateName
  context := service.context
  path := generator.servicePath output service "api"
  replaces := false

/- The client of a service is always replaced. -/
def clientJob
    (generator : Generator)
    (output : Path)
    (service : Service) : Job where
  template := Artefact.client.templateName
  context := service.context
  path := generator.servicePath output service "service"
  replaces := true

/- The jobs of a service. -/
def serviceJobs
    (generator : Generator)
    (output : Path)
    (mode : Mode)
    (service : Service) : List Job :=
  match mode with
  | .server =>
      [generator.interfaceJob output service,
        generator.stubJob output service]
  | .client => [generator.clientJob output service]

/- The index of the modules in a directory with these names. -/
def indexJob
    (output : Path)
    (names : List String) : Job where
  template := Artefact.index.templateName
  context := moduleContext (modulesOf names)
  path := output.child indexName
  replaces := true

/- A service, by what became of the last of its files. -/
def serviceReport
    (generator : Generator)
    (output : Path)
    (mode : Mode)
    (service : Service)
    (outcomes : List WriteOutcome) : EmitReport :=
  match mode with
  | .client =>
      ⟨service, .serviceWritten,
        [generator.servicePath output service "service"]⟩
  | .server =>
      if outcomes.getLast? = some .skippedExisting then
        ⟨service, .stubSkippedExists,
          [generator.servicePath output service "if"]⟩
      else
        ⟨service, .stubWritten,
          [generator.servicePath output service "if",
            generator.servicePath output service "api"]⟩

@[simp] theorem service_serviceReport
    (generator : Generator)
    (output : Path)
    (mode : Mode)
    (service : Service)
    (outcomes : List WriteOutcome) :
    (generator.serviceReport output mode service
      outcomes).service = service := by
  unfold serviceReport
  split
  · rfl
  · split
    · rfl
    · rfl

variable [WriteAccess]

/- What writing the files of a service does. -/
def serviceEffect
    (generator : Generator)
    (output : Path)
    (mode : Mode)
    (service : Service)
    (files : FileTree) : Effect EmitReport :=
  (runJobs generator.templates
    (generator.serviceJobs output mode service) files).andThen
      (fun outcomes after =>
        (.ok
          (generator.serviceReport output mode service outcomes),
          after))

/- What writing the index of the modules does. -/
def indexEffect
    (generator : Generator)
    (output : Path)
    (files : FileTree) : Effect (List Path) :=
  match generator.language with
  | .go => (.ok [], files)
  | .rust =>
      match files.names? output with
      | none => (.error (.directoryUnlistable output), files)
      | some names =>
          ((indexJob output names).perform generator.templates
            files).andThen
              (fun _ after =>
                (.ok [output.child indexName], after))

end RamlScaffold.Generator

------------------------------------------------------------
-- Structures
------------------------------------------------------------

namespace RamlScaffold.Generator

open RamlScaffold.Action

/- Creating what is ready changes nothing. -/
theorem yields_createDirectory_of_isReady
    {output : Path}
    {files : FileTree}
    (hReady : files.IsReady output) :
    Yields (createDirectory output) files (.ok (), files) :=
  yields_createDirectory_some
    (FileTree.createAll?_of_isReady hReady)

variable [WriteAccess]

theorem yields_writeStructure
    (generator : Generator)
    (output : Path)
    (struct : Structure)
    (files : FileTree) :
    (generator.writeStructure output struct).Yields files
      ((generator.structureJob output struct).perform
        generator.templates files).forget := by
  unfold writeStructure
  exact
    (Job.yields_perform generator.templates
      (generator.structureJob output struct) files).andPure
      (fun _ => ())

theorem yields_generateType
    (generator : Generator)
    (output : Path)
    (entry : String × TypeDecl)
    (files : FileTree) :
    (generator.generateType output entry).Yields files
      (((generator.structureJob output
          (generator.typeStructure entry)).perform
            generator.templates files).andThen
        (fun _ after =>
          (.ok (generator.typeStructure entry), after))) := by
  unfold generateType
  refine (yields_reportAll _ files).pass ?_
  have hWrite :=
    (generator.yields_writeStructure output
      (generator.typeStructure entry) files).andPure
      (fun _ => generator.typeStructure entry)
  rw [Effect.forget, Effect.andThen_assoc] at hWrite
  exact hWrite

/- The catalog takes the jobs of its structures. -/
theorem yields_generateTypes
    (generator : Generator)
    {output : Path}
    (api : Api)
    {files : FileTree}
    (hReady : files.IsReady output) :
    (generator.generateTypes output api).Yields files
      ((runJobs generator.templates
          ((api.types.map generator.typeStructure).map
            (generator.structureJob output)) files).andThen
        (fun _ after =>
          (.ok (api.types.map generator.typeStructure),
            after))) := by
  unfold generateTypes
  refine (yields_createDirectory_of_isReady hReady).pass ?_
  rw [runJobs, List.map_map, ← Effect.all_andThen_value]
  refine yields_mapM (I := fun _ => True) ?_ ?_ trivial
  · intro entry _ tree _
    exact generator.yields_generateType output entry tree
  · exact fun _ _ _ _ => trivial

/- A structure that the walk meets is written and kept. -/
theorem yields_generateBody_emit
    (generator : Generator)
    (output : Path)
    (struct : Structure)
    (structs : List Structure)
    (files : FileTree) :
    Yields
      ((generator.generateBody output (.emit struct)).run
        structs)
      files
      (((generator.structureJob output struct).perform
          generator.templates files).andThen
        (fun _ after =>
          (.ok ((), structs ++ [struct]), after))) := by
  have hWrite :=
    (generator.yields_writeStructure output struct files).andPure
      (fun _ => ((), structs ++ [struct]))
  rw [Effect.forget, Effect.andThen_assoc] at hWrite
  unfold generateBody
  rw [StateT.run_bind, StateT.run_monadLift]
  refine ((yields_reportAll _ files).andPure _).pass ?_
  rw [StateT.run_bind, StateT.run_monadLift, bind_assoc]
  simp only [pure_bind]
  exact hWrite

theorem yields_generateBody_skip
    (generator : Generator)
    (output : Path)
    (methodName code : String)
    (structs : List Structure)
    (files : FileTree) :
    Yields
      ((generator.generateBody output
        (.skip methodName code)).run structs)
      files (.ok ((), structs), files) := by
  unfold generateBody
  rw [StateT.run_bind, StateT.run_monadLift]
  refine ((yields_reportAll _ files).andPure _).pass ?_
  exact yields_pure _ files

/-
  The walk takes the jobs of the structures that it meets, and
  keeps these structures.
-/
theorem yields_forM_generateBody
    (generator : Generator)
    (output : Path)
    (steps : List BodyStep)
    (structs : List Structure)
    (files : FileTree) :
    Yields
      ((steps.forM (generator.generateBody output)).run structs)
      files
      ((runJobs generator.templates
          ((steps.filterMap BodyStep.structure?).map
            (generator.structureJob output)) files).andThen
        (fun _ after =>
          (.ok
            ((), structs ++ steps.filterMap BodyStep.structure?),
            after))) := by
  induction steps generalizing structs files with
  | nil =>
      rw [List.filterMap_nil, List.append_nil]
      exact yields_pure _ files
  | cons step steps ih =>
      rw [List.forM_eq_forM, List.forM_cons, StateT.run_bind]
      cases step with
      | skip methodName code =>
          exact
            (generator.yields_generateBody_skip output methodName
              code structs files).pass (ih structs files)
      | emit struct =>
          have hBodies :
              (BodyStep.emit struct :: steps).filterMap
                  BodyStep.structure? =
                struct :: steps.filterMap BodyStep.structure? :=
            rfl
          rw [hBodies, List.map_cons, runJobs_cons_andThen,
            List.append_cons]
          have hRest :=
            (generator.yields_generateBody_emit output struct
              structs files).bind
              (fun kept after _ => ih kept.2 after)
          rw [Effect.andThen_assoc] at hRest
          exact hRest

/- The bodies take the jobs of their structures. -/
theorem yields_generateBodies
    (generator : Generator)
    {output : Path}
    (api : Api)
    {files : FileTree}
    (hReady : files.IsReady output) :
    (generator.generateBodies output api).Yields files
      ((runJobs generator.templates
          ((api.bodyStructures generator.language
              generator.package).map
            (generator.structureJob output)) files).andThen
        (fun _ after =>
          (.ok
            (api.bodyStructures generator.language
              generator.package),
            after))) := by
  unfold generateBodies
  refine (yields_createDirectory_of_isReady hReady).pass ?_
  rw [Api.walkSteps_eq_forM]
  have hBodies :=
    (generator.yields_forM_generateBody output
      (api.bodySteps generator.language generator.package)
      [] files).andPure Prod.snd
  rw [Effect.andThen_assoc] at hBodies
  exact hBodies

end RamlScaffold.Generator

------------------------------------------------------------
-- Services And Index
------------------------------------------------------------

namespace RamlScaffold.Generator

open RamlScaffold.Action

variable [WriteAccess]

theorem serviceEffect_server
    (generator : Generator)
    (output : Path)
    (service : Service)
    (files : FileTree) :
    generator.serviceEffect output .server service files =
      ((generator.interfaceJob output service).perform
        generator.templates files).andThen
        (fun first middle =>
          ((generator.stubJob output service).perform
            generator.templates middle).andThen
            (fun second after =>
              (.ok
                (generator.serviceReport output .server service
                  [first, second]),
                after))) := by
  simp only [serviceEffect, serviceJobs, runJobs, Effect.all,
    Effect.andThen_assoc, Effect.andThen_ok]

theorem serviceEffect_client
    (generator : Generator)
    (output : Path)
    (service : Service)
    (files : FileTree) :
    generator.serviceEffect output .client service files =
      ((generator.clientJob output service).perform
        generator.templates files).andThen
        (fun first after =>
          (.ok
            (generator.serviceReport output .client service
              [first]),
            after)) := by
  simp only [serviceEffect, serviceJobs, runJobs, Effect.all,
    Effect.andThen_assoc, Effect.andThen_ok]

theorem yields_emitServer
    (generator : Generator)
    (output : Path)
    (service : Service)
    (files : FileTree) :
    (generator.emitServer output service).Yields files
      (generator.serviceEffect output .server service files) := by
  rw [serviceEffect_server]
  refine
    (Job.yields_perform generator.templates
      (generator.interfaceJob output service) files).bind ?_
  intro first middle _
  refine
    (Job.yields_perform generator.templates
      (generator.stubJob output service) middle).bind ?_
  intro second after _
  cases second with
  | written => exact yields_pure _ after
  | skippedExisting =>
      exact (yields_report _ after).pass (yields_pure _ after)

theorem yields_emitClient
    (generator : Generator)
    (output : Path)
    (service : Service)
    (files : FileTree) :
    (generator.emitClient output service).Yields files
      (generator.serviceEffect output .client service files) := by
  rw [serviceEffect_client]
  exact
    (Job.yields_perform generator.templates
      (generator.clientJob output service) files).andPure _

theorem yields_emitService
    (generator : Generator)
    {output : Path}
    (mode : Mode)
    (service : Service)
    {files : FileTree}
    (hReady : files.IsReady output) :
    (generator.emitService output mode service).Yields files
      (generator.serviceEffect output mode service files) := by
  unfold emitService
  refine (yields_createDirectory_of_isReady hReady).pass ?_
  rw [← Effect.andThen_self
    (generator.serviceEffect output mode service files)]
  cases mode with
  | server =>
      refine
        (generator.yields_emitServer output service files).bind ?_
      intro report after _
      exact (yields_report _ after).pass
        (yields_pure report after)
  | client =>
      refine
        (generator.yields_emitClient output service files).bind ?_
      intro report after _
      exact (yields_report _ after).pass
        (yields_pure report after)

theorem follows_serviceEffect
    (generator : Generator)
    (output : Path)
    (mode : Mode)
    (service : Service)
    (files : FileTree) :
    files.Follows
      (generator.serviceEffect output mode service files).2 := by
  unfold serviceEffect
  rw [Effect.files_andThen_value]
  exact follows_runJobs _ _ files

/- The services take their effects in a row. -/
theorem yields_emitServices
    (generator : Generator)
    {output : Path}
    (mode : Mode)
    (api : Api)
    {files : FileTree}
    (hReady : files.IsReady output) :
    (generator.emitServices output mode api).Yields files
      (Effect.all (generator.serviceEffect output mode)
        (generator.services mode api) files) := by
  unfold emitServices
  refine (yields_createDirectory_of_isReady hReady).pass ?_
  refine yields_mapM (I := fun tree => tree.IsReady output)
    ?_ ?_ hReady
  · intro service _ tree hTree
    exact generator.yields_emitService mode service hTree
  · intro service _ tree hTree
    exact
      (generator.follows_serviceEffect output mode service
        tree).isReady hTree

/- The index takes the job of the names that are listed. -/
theorem yields_writeIndex_some
    (generator : Generator)
    {output : Path}
    {files : FileTree}
    {names : List String}
    (hNames : files.names? output = some names) :
    (generator.writeIndex output).Yields files
      (((indexJob output names).perform generator.templates
        files).andThen
          (fun _ after =>
            (.ok (output.child indexName), after))) := by
  unfold writeIndex
  refine (yields_listDirectory_some hNames).pass ?_
  exact
    (Job.yields_perform generator.templates
      (indexJob output names) files).andPure _

theorem yields_writeIndex_none
    (generator : Generator)
    {output : Path}
    {files : FileTree}
    (hNames : files.names? output = none) :
    (generator.writeIndex output).Yields files
      (.error (.directoryUnlistable output), files) := by
  unfold writeIndex
  exact (yields_listDirectory_none hNames).fail _

end RamlScaffold.Generator
