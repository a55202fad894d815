import RamlScaffold.Proofs.Generation.Rerun
import RamlScaffold.Proofs.Generation.Writes

/-
  The report of a run against the files that it wrote.

  The report lists the files after the fact, by the names of
  structures and the outcomes of services.  It lists exactly
  the writes, in their order: what is not listed is as it was,
  and what is listed has the text that was written last.

  Main declarations:
    * `Generator.Emits`
    * `Generator.emits_of_serviceEffect`
    * `Generator.written_of_emits`
    * `Generator.written_of_services`
    * `Generator.emits_of_services`
    * `Generator.AccountsForStub`
    * `Run.report_lists_writes`
-/

------------------------------------------------------------
-- Services That Succeed
------------------------------------------------------------

namespace RamlScaffold.Generator

/- An interface and a stub are different files. -/
theorem stub_ne_interface
    (generator : Generator)
    (output : Path)
    {service : Service}
    (hName : Naming.SignFree service.name) :
    generator.servicePath output service "api" ≠
      generator.servicePath output service "if" := by
  intro hSame
  apply generator.place_interface_ne_stubPlace output hName
    (generator.language.resourceStem service.name)
  rw [← hSame]
  exact generator.place_stub output hName

variable [WriteAccess]

/-
  All that writing the files of a service can do when it
  succeeds.  The stub is looked for when the interface has
  been written.
-/
inductive Emits
    (generator : Generator)
    (output : Path)
    (service : Service)
    (files : FileTree) :
    Mode → EmitReport → FileTree → Prop where
  | client
      (after : FileTree)
      (hClient :
        (generator.clientJob output service).perform
            generator.templates files =
          (.ok .written, after)) :
      Emits generator output service files .client
        ⟨service, .serviceWritten,
          [generator.servicePath output service "service"]⟩
        after
  | stubWritten
      (stage after : FileTree)
      (hInterface :
        (generator.interfaceJob output service).perform
            generator.templates files =
          (.ok .written, stage))
      (hAbsent :
        stage.hasEntry
            (generator.servicePath output service "api") =
          false)
      (hStub :
        (generator.stubJob output service).perform
            generator.templates stage =
          (.ok .written, after)) :
      Emits generator output service files .server
        ⟨service, .stubWritten,
          [generator.servicePath output service "if",
            generator.servicePath output service "api"]⟩
        after
  | stubSkipped
      (stage after : FileTree)
      (hInterface :
        (generator.interfaceJob output service).perform
            generator.templates files =
          (.ok .written, stage))
      (hPresent :
        stage.hasEntry
            (generator.servicePath output service "api") =
          true)
      (hStub :
        (generator.stubJob output service).perform
            generator.templates stage =
          (.ok .skippedExisting, after)) :
      Emits generator output service files .server
        ⟨service, .stubSkippedExists,
          [generator.servicePath output service "if"]⟩
        after

variable {generator : Generator} {output : Path}
variable {service : Service} {mode : Mode}
variable {files after : FileTree} {report : EmitReport}

theorem emits_of_serviceEffect
    (hEffect :
      generator.serviceEffect output mode service files =
        (.ok report, after)) :
    Emits generator output service files mode report after := by
  cases mode with
  | client =>
      rw [serviceEffect_client] at hEffect
      rcases Effect.andThen_eq_ok hEffect with
        ⟨outcome, last, hClient, hReport⟩
      rcases Prod.mk.inj hReport with ⟨hValue, rfl⟩
      rw [← Except.ok.inj hValue]
      have hOutcome := Job.outcome_of_replaces rfl hClient
      rw [hOutcome] at hClient
      exact .client last hClient
  | server =>
      rw [serviceEffect_server] at hEffect
      rcases Effect.andThen_eq_ok hEffect with
        ⟨first, stage, hInterface, hRest⟩
      rcases Effect.andThen_eq_ok hRest with
        ⟨second, last, hStub, hReport⟩
      rcases Prod.mk.inj hReport with ⟨hValue, rfl⟩
      rw [← Except.ok.inj hValue]
      have hOutcome := Job.outcome_of_replaces rfl hInterface
      rw [hOutcome] at hInterface
      have hAbsent := Job.written_iff_absent rfl hStub
      cases second with
      | written =>
          exact .stubWritten stage last hInterface
            (hAbsent.mp rfl) hStub
      | skippedExisting =>
          have hPresent :
              stage.hasEntry
                  (generator.servicePath output service "api") =
                true := by
            rw [← Bool.not_eq_false]
            exact fun hNone => nomatch hAbsent.mpr hNone
          exact .stubSkipped stage last hInterface hPresent hStub

/- The files reported of a service are those written. -/
theorem written_of_emits
    (hEmits :
      Emits generator output service files mode report after) :
    ∃ outcomes,
      runJobs generator.templates
          (generator.serviceJobs output mode service) files =
        (.ok outcomes, after) ∧
      report.written =
        (writers (generator.serviceJobs output mode service)
          outcomes).map Job.path := by
  cases hEmits with
  | client _ hClient =>
      exact ⟨[.written], runJobs_singleton hClient, rfl⟩
  | stubWritten _ _ hInterface _ hStub =>
      exact
        ⟨[.written, .written],
          runJobs_append_of_ok (runJobs_singleton hInterface)
            (runJobs_singleton hStub),
          rfl⟩
  | stubSkipped _ _ hInterface _ hStub =>
      exact
        ⟨[.written, .skippedExisting],
          runJobs_append_of_ok (runJobs_singleton hInterface)
            (runJobs_singleton hStub),
          rfl⟩

/- The files reported of services are those written. -/
theorem written_of_services
    {services : List Service}
    {reports : List EmitReport}
    (hAll :
      Effect.all (generator.serviceEffect output mode) services
          files =
        (.ok reports, after)) :
    ∃ outcomes,
      runJobs generator.templates
          (services.flatMap (generator.serviceJobs output mode))
          files =
        (.ok outcomes, after) ∧
      reports.flatMap EmitReport.written =
        (writers
          (services.flatMap (generator.serviceJobs output mode))
          outcomes).map Job.path := by
  induction services generalizing files reports with
  | nil =>
      rcases Effect.all_nil_eq_ok hAll with ⟨rfl, rfl⟩
      exact ⟨[], rfl, rfl⟩
  | cons service services ih =>
      rcases Effect.all_cons_eq_ok hAll with
        ⟨report, middle, others, hService, hOthers, rfl⟩
      rcases written_of_emits (emits_of_serviceEffect hService)
        with ⟨first, hFirst, hWritten⟩
      rcases ih hOthers with ⟨rest, hRest, hOthersWritten⟩
      refine
        ⟨first ++ rest, runJobs_append_of_ok hFirst hRest, ?_⟩
      rw [List.flatMap_cons, List.flatMap_cons, hWritten,
        hOthersWritten,
        writers_append
          (Effect.length_of_all_eq_ok hFirst).symm,
        List.map_append]

/- What was done for a service among others. -/
theorem emits_of_services
    {earlier later : List Service}
    {reports : List EmitReport}
    (hAll :
      Effect.all (generator.serviceEffect output mode)
          (earlier ++ service :: later) files =
        (.ok reports, after)) :
    ∃ outcomes before emitted next,
      runJobs generator.templates
          (earlier.flatMap (generator.serviceJobs output mode))
          files =
        (.ok outcomes, before) ∧
      reports[earlier.length]? = some emitted ∧
      Emits generator output service before mode emitted next := by
  rcases Effect.all_append_eq_ok hAll with
    ⟨first, before, rest, hEarlier, hRest, rfl⟩
  rcases Effect.all_cons_eq_ok hRest with
    ⟨emitted, next, others, hService, -, rfl⟩
  rcases written_of_services hEarlier with ⟨outcomes, hJobs, -⟩
  refine
    ⟨outcomes, before, emitted, next, hJobs, ?_,
      emits_of_serviceEffect hService⟩
  rw [← Effect.length_of_all_eq_ok hEarlier]
  simp

/- No service is left on the way. -/
theorem outcome_of_emits
    (hEmits :
      Emits generator output service files mode report after) :
    report.outcome ≠ .unvisited ∧
      report.outcome ≠ .interfaceWritten := by
  cases hEmits with
  | client => exact ⟨nofun, nofun⟩
  | stubWritten => exact ⟨nofun, nofun⟩
  | stubSkipped => exact ⟨nofun, nofun⟩

/-
  Whether a report is right about the stub of its service,
  where these were the files when the stub was looked for.
-/
structure AccountsForStub
    (generator : Generator)
    (output : Path)
    (stage : FileTree)
    (report : EmitReport) : Prop where
  outcome :
    report.outcome = .stubWritten ↔
      stage.hasEntry
          (generator.servicePath output report.service "api") =
        false
  written :
    generator.servicePath output report.service "api" ∈
        report.written ↔
      report.outcome = .stubWritten

/- The stub is looked for right after the interface. -/
theorem accountsForStub_of_emits
    (hName : Naming.SignFree service.name)
    (hEmits :
      Emits generator output service files .server report
        after) :
    ∃ outcomes stage,
      runJobs generator.templates
          [generator.interfaceJob output service] files =
        (.ok outcomes, stage) ∧
      generator.AccountsForStub output stage report := by
  have hOther := generator.stub_ne_interface output hName
  cases hEmits with
  | stubWritten stage _ hInterface hAbsent hStub =>
      refine
        ⟨[.written], stage, runJobs_singleton hInterface, ?_, ?_⟩
      · simp [hAbsent]
      · simp
  | stubSkipped stage _ hInterface hPresent hStub =>
      refine
        ⟨[.written], stage, runJobs_singleton hInterface, ?_, ?_⟩
      · simp [hPresent]
      · simp [hOther]

/- The files of the index that are reported are written. -/
theorem written_of_index
    {outcomes : List WriteOutcome}
    (hIndex :
      runJobs generator.templates
          (generator.indexJobs output files) files =
        (.ok outcomes, after)) :
    generator.indexPaths output =
      (writers (generator.indexJobs output files)
        outcomes).map Job.path := by
  rw [writers_of_replaces ?_ hIndex]
  · unfold indexPaths indexJobs
    cases generator.language with
    | go => rfl
    | rust => rfl
  · intro job hJob
    unfold indexJobs at hJob
    cases hLanguage : generator.language with
    | go =>
        rw [hLanguage] at hJob
        cases hJob
    | rust =>
        rw [hLanguage] at hJob
        rw [List.mem_singleton.mp hJob]
        rfl

end RamlScaffold.Generator

------------------------------------------------------------
-- Whole Runs
------------------------------------------------------------

namespace RamlScaffold.Run

section

variable [WriteAccess]

variable {run : Run} {output : Path}
variable {ready last : FileTree} {report : GenerationReport}

/- The structures of a run are all written. -/
theorem written_of_structures
    {outcomes : List WriteOutcome}
    (hStructures :
      runJobs run.generator.templates (run.structureJobs output)
          ready =
        (.ok outcomes, last)) :
    (run.types ++ run.bodies).map
        (run.generator.structurePath output) =
      (writers (run.structureJobs output) outcomes).map
        Job.path := by
  have hReplaces :
      ∀ job ∈ run.structureJobs output, job.replaces = true := by
    intro job hJob
    rcases List.mem_map.mp hJob with ⟨struct, -, rfl⟩
    rfl
  rw [writers_of_replaces hReplaces hStructures, structureJobs,
    List.map_map]
  rfl

/- A run that succeeds reports the jobs that wrote a file. -/
theorem written_of_effect
    {files : FileTree}
    (hRun : run.effect output files = (.ok report, last)) :
    ∃ ready first stage second middle outcomes,
      files.createAll? output = some ready ∧
        runJobs run.generator.templates
            (run.structureJobs output) ready =
          (.ok first, stage) ∧
        Effect.all (run.generator.serviceEffect output run.mode)
            run.services stage =
          (.ok report.services, middle) ∧
        runJobs run.generator.templates
            (run.structureJobs output ++ run.serviceJobs output)
            ready =
          (.ok second, middle) ∧
        runJobs run.generator.templates (run.jobs output middle)
            ready =
          (.ok outcomes, last) ∧
        report.written =
          (writers (run.jobs output middle) outcomes).map
            Job.path := by
  rcases effect_eq_ok hRun with
    ⟨ready, first, stage, hReady, hStructures, hAfter⟩
  rcases effectAfter_eq_ok hAfter with
    ⟨services, middle, index, hServices, hIndex, rfl⟩
  rcases Generator.written_of_services hServices with
    ⟨others, hServiceJobs, hServicesWritten⟩
  rcases Generator.indexEffect_eq_ok hIndex with
    ⟨-, hPaths, later, hIndexJobs⟩
  have hMost := runJobs_append_of_ok hStructures hServiceJobs
  refine
    ⟨ready, first, stage, first ++ others, middle,
      first ++ others ++ later, hReady, hStructures, hServices,
      hMost, runJobs_append_of_ok hMost hIndexJobs, ?_⟩
  have hLength := Effect.length_of_all_eq_ok hStructures
  have hMostLength := Effect.length_of_all_eq_ok hMost
  unfold jobs serviceJobs
  rw [writers_append hMostLength.symm,
    writers_append hLength.symm, List.map_append,
    List.map_append, ← written_of_structures hStructures,
    ← hServicesWritten,
    ← Generator.written_of_index hIndexJobs, ← hPaths]
  rfl

/- What was done for the services that are reported. -/
theorem emits_of_effect
    {stage middle : FileTree}
    {reports earlier later : List EmitReport}
    {emitted : EmitReport}
    (hServices :
      Effect.all (run.generator.serviceEffect output run.mode)
          run.services stage =
        (.ok reports, middle))
    (hSplit : reports = earlier ++ emitted :: later) :
    ∃ outcomes before next,
      emitted.service ∈ run.services ∧
      runJobs run.generator.templates
          ((earlier.map EmitReport.service).flatMap
            (run.generator.serviceJobs output run.mode))
          stage =
        (.ok outcomes, before) ∧
      Generator.Emits run.generator output emitted.service
        before run.mode emitted next := by
  have hOrder := service_reports hServices
  rw [hSplit, List.map_append, List.map_cons] at hOrder
  rw [← hOrder] at hServices ⊢
  rcases Generator.emits_of_services hServices with
    ⟨outcomes, before, found, next, hJobs, hFound, hEmits⟩
  have hSame : found = emitted := by
    rw [hSplit, List.length_map] at hFound
    simpa using hFound.symm
  rw [hSame] at hEmits
  exact ⟨outcomes, before, next, by simp, hJobs, hEmits⟩

/-
  The report of a run that succeeds.  Its files are those that
  were written, in their order.  All other files are as they
  were, and each of these has the whole text of the last
  artefact that was written there.  Stubs are reported as they
  were found right before their turn.
-/
theorem report_lists_writes
    {start after : Workspace}
    (hRun :
      (run.action output).run.run start = (.ok report, after)) :
    ∃ ready middle first outcomes,
      start.files.createAll? output = some ready ∧
      runJobs run.generator.templates
          (run.structureJobs output ++ run.serviceJobs output)
          ready =
        (.ok first, middle) ∧
      runJobs run.generator.templates (run.jobs output middle)
          ready =
        (.ok outcomes, after.files) ∧
      report.written =
        (writers (run.jobs output middle) outcomes).map
          Job.path ∧
      (∀ place, (∀ path ∈ report.written, path.place ≠ place) →
        ∀ contents isProgram,
          after.files.at? place =
              some (.file contents isProgram) ↔
            start.files.at? place =
              some (.file contents isProgram)) ∧
      (∀ path ∈ report.written,
        ∃ before job later text,
          writers (run.jobs output middle) outcomes =
            before ++ job :: later ∧
          job.path.place = path.place ∧
          (∀ other ∈ later, other.path.place ≠ path.place) ∧
          run.generator.templates.renderText job.template
              job.context =
            .ok text ∧
          after.files.readText? path = some text) ∧
      report.services.map EmitReport.service = run.services ∧
      (run.mode = .server →
        ∀ earlier emitted later,
          report.services = earlier ++ emitted :: later →
          ∃ values stage,
            runJobs run.generator.templates
                (run.structureJobs output ++
                  (earlier.map EmitReport.service).flatMap
                    (run.generator.serviceJobs output .server) ++
                  [run.generator.interfaceJob output
                    emitted.service])
                ready =
              (.ok values, stage) ∧
            run.generator.AccountsForStub output stage
              emitted) ∧
      ∀ emitted ∈ report.services,
        emitted.outcome ≠ .unvisited ∧
          emitted.outcome ≠ .interfaceWritten := by
  rcases written_of_effect (effect_of_action hRun) with
    ⟨ready, outcomes, stage, most, middle, all, hReady,
      hStructures, hServices, hMost, hJobs, hWritten⟩
  refine
    ⟨ready, middle, most, all, hReady, hMost, hJobs, hWritten,
      ?_, ?_, service_reports hServices, ?_, ?_⟩
  -- A file that is not listed was not written.
  · intro place hNone contents isProgram
    have hNoWriter :
        ∀ job ∈ writers (run.jobs output middle) all,
          job.path.place ≠ place := by
      intro job hJob
      apply hNone
      rw [hWritten]
      exact List.mem_map_of_mem hJob
    rw [← FileTree.file_createAll?_iff hReady,
      at?_of_no_writer hJobs hNoWriter]
  -- A file that is listed has the text of its last writer.
  · intro path hPath
    rw [hWritten] at hPath
    rcases List.mem_map.mp hPath with ⟨job, hJob, rfl⟩
    rcases text_of_writer hJobs hJob with
      ⟨before, other, later, text, isProgram, hSplit, hPlace,
        hLast, hText, hFile⟩
    have hPlan :=
      plans_of_mem_jobs ((writers_sublist _ _).subset hJob)
    exact
      ⟨before, other, later, text, hSplit, hPlace, hLast, hText,
        FileTree.readText?_of_file hPlan.namesFile hFile⟩
  -- The services in front lead up to the turn of a stub.
  · intro hServer earlier emitted later hSplit
    rcases emits_of_effect hServices hSplit with
      ⟨values, before, next, hService, hEarlier, hEmits⟩
    rw [hServer] at hEarlier hEmits
    rcases Generator.accountsForStub_of_emits
        (signFree_service hService) hEmits with
      ⟨others, found, hInterface, hAccounts⟩
    have hFront := runJobs_append_of_ok hStructures hEarlier
    exact
      ⟨_, found, runJobs_append_of_ok hFront hInterface, hAccounts⟩
  · intro emitted hEmitted
    rcases List.append_of_mem hEmitted with
      ⟨earlier, later, hSplit⟩
    rcases emits_of_effect hServices hSplit with
      ⟨values, before, next, -, -, hEmits⟩
    exact Generator.outcome_of_emits hEmits

end

/- The small run skips the stub and reports all other files. -/
theorem usersRun_reports :
    ∃ report after,
      ((usersRun .rust "stub").action ⟨"gen"⟩).run.run
          usersWorkspace =
        (.ok report, after) ∧
      ∀ path ∈ report.written,
        ∃ text, after.files.readText? path = some text := by
  have hOk :
      (((usersRun .rust "stub").action ⟨"gen"⟩).run.run
        usersWorkspace).1.isOk = true := by
    decide +kernel
  rcases hRun :
      ((usersRun .rust "stub").action ⟨"gen"⟩).run.run
        usersWorkspace with
    ⟨failure | report, after⟩
  · rw [hRun] at hOk
    cases hOk
  · rcases report_lists_writes hRun with
      ⟨_, _, _, _, -, -, -, -, -, hTexts, -⟩
    refine ⟨report, after, rfl, ?_⟩
    intro path hPath
    rcases hTexts path hPath with
      ⟨_, _, _, text, -, -, -, -, hText⟩
    exact ⟨text, hText⟩

end RamlScaffold.Run
