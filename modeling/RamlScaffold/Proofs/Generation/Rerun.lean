import RamlScaffold.Proofs.Generation.Between
import RamlScaffold.Proofs.Generation.Index
import RamlScaffold.Proofs.Generation.WriteOnce

/-
  A run that succeeded, once more.

  The second run has the jobs of the first: what they write is
  on its way to what the first left, and the index lists the
  same modules although the index itself is among the files
  by then.

  Main declarations:
    * `Generator.reports_of_stubs`
    * `Run.effectAfter_eq_ok`, `Run.effect_of_ok`
    * `Run.jobs`, `Run.jobs_of_effect`
    * `Run.effect_again`
    * `Run.rerun_changes_nothing`
-/

------------------------------------------------------------
-- Services That Have Stubs
------------------------------------------------------------

namespace RamlScaffold

variable [WriteAccess]

namespace Generator

/- A service whose stub exists gets its interface only. -/
theorem serviceEffect_of_stub
    {generator : Generator}
    {output : Path}
    {service : Service}
    (hName : Naming.SignFree service.name)
    {files after : FileTree}
    (hStub :
      files.at? (generator.servicePath output service "api").place ≠
        none)
    {report : EmitReport}
    (hEffect :
      generator.serviceEffect output .server service files =
        (.ok report, after)) :
    report.outcome = .stubSkippedExists ∧
      report.written =
        [generator.servicePath output service "if"] := by
  rw [serviceEffect_server] at hEffect
  rcases Effect.andThen_eq_ok hEffect with
    ⟨first, middle, hInterface, hRest⟩
  have hMiddle :=
    (Job.step_of_perform hInterface).follows.entry _ hStub
  have hNamesFile :=
    Path.namesFile_child
      (generator.language.isFileName_resourceFileName hName
        (by decide : Naming.SignFree "api")) output
  have hEntry :=
    (FileTree.hasEntry_iff hNamesFile middle).mpr hMiddle
  have hSkip :=
    (generator.stubJob output service).perform_of_hasEntry rfl
      hEntry generator.templates
  rw [hSkip, Effect.andThen_ok] at hRest
  have hReport := Except.ok.inj (congrArg Prod.fst hRest)
  rw [← hReport]
  exact ⟨rfl, rfl⟩

/- Where all stubs exist, no service gets one. -/
theorem reports_of_stubs
    {generator : Generator}
    {output : Path}
    {services : List Service}
    (hNames :
      ∀ service ∈ services, Naming.SignFree service.name)
    {files after : FileTree}
    (hStubs :
      ∀ service ∈ services,
        files.at?
            (generator.servicePath output service "api").place ≠
          none)
    {reports : List EmitReport}
    (hAll :
      Effect.all (generator.serviceEffect output .server)
          services files =
        (.ok reports, after)) :
    ∀ report ∈ reports,
      report.outcome = .stubSkippedExists ∧
        ∃ service ∈ services,
          report.written =
            [generator.servicePath output service "if"] := by
  induction services generalizing files reports after with
  | nil =>
      rw [(Effect.all_nil_eq_ok hAll).1]
      intro report hReport
      cases hReport
  | cons service services ih =>
      rcases Effect.all_cons_eq_ok hAll with
        ⟨first, middle, others, hFirst, hOthers, hReports⟩
      have hMiddle :
          ∀ other ∈ services,
            middle.at?
                (generator.servicePath output other
                  "api").place ≠
              none := by
        intro other hOther
        have hFollows :=
          generator.follows_serviceEffect output .server service
            files
        rw [hFirst] at hFollows
        exact hFollows.entry _
          (hStubs other (List.mem_cons_of_mem service hOther))
      rw [hReports]
      intro report hReport
      rcases List.mem_cons.mp hReport with rfl | hReport
      · rcases serviceEffect_of_stub
            (hNames service List.mem_cons_self)
            (hStubs service List.mem_cons_self) hFirst with
          ⟨hOutcome, hWritten⟩
        exact ⟨hOutcome, service, List.mem_cons_self, hWritten⟩
      · have hRestNames :
            ∀ other ∈ services, Naming.SignFree other.name :=
          fun other hOther =>
            hNames other (List.mem_cons_of_mem service hOther)
        rcases ih hRestNames hMiddle hOthers report hReport with
          ⟨hOutcome, other, hOther, hWritten⟩
        exact
          ⟨hOutcome, other,
            List.mem_cons_of_mem service hOther, hWritten⟩

end Generator

end RamlScaffold

------------------------------------------------------------
-- Runs That Succeed
------------------------------------------------------------

namespace RamlScaffold.Run

variable [WriteAccess]

variable {run : Run} {output : Path}

theorem effectAfter_eq_ok
    {files last : FileTree}
    {report : GenerationReport}
    (hAfter :
      run.effectAfter output files = (.ok report, last)) :
    ∃ services middle index,
      Effect.all (run.generator.serviceEffect output run.mode)
          run.services files =
        (.ok services, middle) ∧
      run.generator.indexEffect output middle =
        (.ok index, last) ∧
      report = run.reportOf output services index := by
  rcases Effect.andThen_eq_ok hAfter with
    ⟨services, middle, hServices, hRest⟩
  rcases Effect.andThen_eq_ok hRest with
    ⟨index, final, hIndex, hFinal⟩
  have hReport := Except.ok.inj (congrArg Prod.fst hFinal)
  have hLast : final = last := congrArg Prod.snd hFinal
  rw [hLast] at hIndex
  exact ⟨services, middle, index, hServices, hIndex,
    hReport.symm⟩

/- A run whose parts succeed succeeds. -/
theorem effect_of_ok
    {files ready middle after last : FileTree}
    (hReady : files.createAll? output = some ready)
    {outcomes : List WriteOutcome}
    (hStructures :
      runJobs run.generator.templates (run.structureJobs output)
          ready =
        (.ok outcomes, middle))
    {services : List EmitReport}
    (hServices :
      Effect.all (run.generator.serviceEffect output run.mode)
          run.services middle =
        (.ok services, after))
    {index : List Path}
    (hIndex :
      run.generator.indexEffect output after =
        (.ok index, last)) :
    run.effect output files =
      (.ok (run.reportOf output services index), last) := by
  unfold effect
  rw [hReady]
  dsimp only [effectOn, effectAfter]
  rw [hStructures, Effect.andThen_ok, hServices,
    Effect.andThen_ok, hIndex, Effect.andThen_ok]

/- The services succeed exactly if their jobs do. -/
theorem services_eq_ok_iff
    {files after : FileTree} :
    (∃ reports,
        Effect.all (run.generator.serviceEffect output run.mode)
            run.services files =
          (.ok reports, after)) ↔
      ∃ outcomes,
        runJobs run.generator.templates (run.serviceJobs output)
            files =
          (.ok outcomes, after) := by
  rw [← Effect.forget_eq_ok_iff, ← Effect.forget_eq_ok_iff]
  have hForget :=
    forget_all_runJobs run.generator.templates
      (run.generator.serviceJobs output run.mode)
      (run.generator.serviceReport output run.mode)
      run.services files
  exact Iff.of_eq (congrArg (· = _) hForget)

/- Services are reported in their order. -/
theorem service_reports
    {files after : FileTree}
    {reports : List EmitReport}
    (hServices :
      Effect.all (run.generator.serviceEffect output run.mode)
          run.services files =
        (.ok reports, after)) :
    reports.map EmitReport.service = run.services := by
  refine Effect.map_of_all_eq_ok ?_ hServices
  intro service tree report last hEffect
  rcases Effect.andThen_eq_ok hEffect with
    ⟨outcomes, middle, -, hReport⟩
  rw [← Except.ok.inj (congrArg Prod.fst hReport)]
  exact Generator.service_serviceReport ..

end RamlScaffold.Run

------------------------------------------------------------
-- The Second Run
------------------------------------------------------------

namespace RamlScaffold.Run

variable {run : Run} {output : Path}

/- All jobs of a run whose services left these files. -/
def jobs
    (run : Run)
    (output : Path)
    (files : FileTree) : List Job :=
  run.structureJobs output ++ run.serviceJobs output ++
    run.generator.indexJobs output files

theorem plans_of_mem_jobs
    {files : FileTree}
    {job : Job}
    (hJob : job ∈ run.jobs output files) :
    run.Plans output job := by
  unfold jobs at hJob
  rw [List.mem_append, List.mem_append] at hJob
  rcases hJob with (hStructure | hService) | hIndex
  · exact Or.inl hStructure
  · exact Or.inr (Or.inl hService)
  · unfold Generator.indexJobs at hIndex
    cases hLanguage : run.generator.language with
    | go =>
        rw [hLanguage] at hIndex
        cases hIndex
    | rust =>
        rw [hLanguage] at hIndex
        exact Or.inr (Or.inr
          ⟨hLanguage, _, List.mem_singleton.mp hIndex⟩)

/- A tree with the same keys lists the same names. -/
theorem namesIn_eq_of_keys
    {first second : FileTree}
    (hKeys : first.map Prod.fst = second.map Prod.fst)
    (place : Place) :
    first.namesIn place = second.namesIn place := by
  unfold FileTree.namesIn
  rw [hKeys]

/- The index is no stub. -/
theorem stub_not_mem_indexPaths
    {stub : Path}
    (hStub : stub ∈ run.stubPaths output) :
    stub ∉ run.generator.indexPaths output := by
  rcases List.mem_map.mp hStub with ⟨service, hService, hPath⟩
  have hStem :=
    run.generator.place_stub output (signFree_service hService)
  unfold Generator.indexPaths
  intro hIndex
  cases hLanguage : run.generator.language with
  | go =>
      rw [hLanguage] at hIndex
      cases hIndex
  | rust =>
      rw [hLanguage] at hIndex hStem
      apply place_index_ne_stubPlace output
      rw [← hStem, ← List.mem_singleton.mp hIndex, ← hPath]

section

variable [WriteAccess]

/- A run that succeeds has done all of its jobs. -/
theorem jobs_of_effect
    {files last : FileTree}
    {report : GenerationReport}
    (hRun : run.effect output files = (.ok report, last)) :
    ∃ ready after outcomes services,
      files.createAll? output = some ready ∧
        runJobs run.generator.templates (run.jobs output after)
            ready =
          (.ok outcomes, last) ∧
        run.generator.CanList output after ∧
        modulesOf (sorted (last.namesIn output.place)) =
          modulesOf (sorted (after.namesIn output.place)) ∧
        after.isDirectory output = last.isDirectory output ∧
        services.map EmitReport.service = run.services ∧
        report =
          run.reportOf output services
            (run.generator.indexPaths output) := by
  rcases effect_eq_ok hRun with
    ⟨ready, outcomes, middle, hReady, hStructures, hAfter⟩
  rcases effectAfter_eq_ok hAfter with
    ⟨services, after, index, hServices, hIndex, hReport⟩
  rcases services_eq_ok_iff.mp ⟨services, hServices⟩ with
    ⟨others, hServiceJobs⟩
  rcases Generator.indexEffect_eq_ok hIndex with
    ⟨hList, hPaths, written, hIndexJobs⟩
  refine
    ⟨ready, after, _, services, hReady,
      runJobs_append_of_ok
        (runJobs_append_of_ok hStructures hServiceJobs)
        hIndexJobs,
      hList,
      run.generator.modulesOf_runJobs_indexJobs hIndexJobs,
      ?_, service_reports hServices, ?_⟩
  · exact
      ((follows_of_runJobs hIndexJobs).isDirectory_eq output).symm
  · rw [hReport, hPaths]

/-
  What succeeded once succeeds again on what it left, and
  leaves it as it is.
-/
theorem effect_again
    {files last : FileTree}
    {report : GenerationReport}
    (hRun : run.effect output files = (.ok report, last)) :
    ∃ services middle after final,
      run.effect output last =
          (.ok
            (run.reportOf output services
              (run.generator.indexPaths output)),
            final) ∧
        (∀ place, final.at? place = last.at? place) ∧
        (∀ place, last.at? place ≠ none →
          middle.at? place ≠ none) ∧
        Effect.all (run.generator.serviceEffect output run.mode)
            run.services middle =
          (.ok services, after) := by
  rcases jobs_of_effect hRun with
    ⟨ready, after, outcomes, reports, hReady, hJobs, hList,
      hModules, hDirectory, -, -⟩
  have hNames : NameFiles (run.jobs output after) :=
    fun job hJob => (plans_of_mem_jobs hJob).namesFile
  have hBetween : FileTree.Between ready last last :=
    ⟨fun place => Or.inr rfl, fun place hPlace => hPlace⟩
  rcases runJobs_between hNames hJobs hBetween with
    ⟨again, final, hAgain, hPlaces, hKeys⟩
  -- The second run, part by part.
  rcases runJobs_append_eq_ok hAgain with
    ⟨most, later, written, hMost, hIndexJobs⟩
  rcases runJobs_append_eq_ok hMost with
    ⟨first, middle, second, hStructures, hServiceJobs⟩
  rcases services_eq_ok_iff.mpr ⟨second, hServiceJobs⟩ with
    ⟨services, hServices⟩
  -- Its index lists what the index of the first run listed.
  have hLater := follows_of_runJobs hMost
  have hLaterKeys :=
    hLater.keys_eq (follows_of_runJobs hIndexJobs) hKeys
  have hSameJobs :
      run.generator.indexJobs output after =
        run.generator.indexJobs output later := by
    apply run.generator.indexJobs_eq
    rw [namesIn_eq_of_keys hLaterKeys, hModules]
  have hLaterList : run.generator.CanList output later := by
    intro hRust
    rw [hLater.isDirectory_eq, ← hDirectory]
    exact hList hRust
  rw [hSameJobs] at hIndexJobs
  have hIndex := Generator.indexEffect_of_ok hLaterList hIndexJobs
  have hLastReady :=
    (follows_of_runJobs hJobs).isReady
      (FileTree.isReady_of_createAll? hReady)
  refine
    ⟨services, middle, later, final,
      effect_of_ok (FileTree.createAll?_of_isReady hLastReady)
        hStructures hServices hIndex,
      hPlaces, (follows_of_runJobs hStructures).entry,
      hServices⟩

/- Every stub exists after a run for servers. -/
theorem stub_of_effect
    (hServer : run.mode = .server)
    {service : Service}
    (hService : service ∈ run.services)
    {files last : FileTree}
    {report : GenerationReport}
    (hRun : run.effect output files = (.ok report, last)) :
    last.at?
        (run.generator.servicePath output service "api").place ≠
      none := by
  rcases jobs_of_effect hRun with
    ⟨ready, after, outcomes, reports, -, hJobs, -⟩
  have hJob :
      run.generator.stubJob output service ∈
        run.jobs output after := by
    unfold jobs
    apply List.mem_append_left
    apply List.mem_append_right
    refine List.mem_flatMap.mpr ⟨service, hService, ?_⟩
    rw [hServer]
    exact List.mem_cons_of_mem _ List.mem_cons_self
  exact entry_of_mem_runJobs hJob
    (plans_of_mem_jobs hJob).namesFile hJobs

/- Where stubs exist, they are reported as skipped. -/
theorem skipped_of_stubs
    (hServer : run.mode = .server)
    {files after : FileTree}
    (hStubs :
      ∀ service ∈ run.services,
        files.at?
            (run.generator.servicePath output service
              "api").place ≠
          none)
    {services : List EmitReport}
    (hServices :
      Effect.all (run.generator.serviceEffect output run.mode)
          run.services files =
        (.ok services, after)) :
    ∀ emitted ∈ services,
      emitted.outcome = .stubSkippedExists ∧
        ∀ stub ∈ run.stubPaths output,
          stub ∉ emitted.written := by
  intro emitted hEmitted
  rw [hServer] at hServices
  rcases Generator.reports_of_stubs
      (fun _ hService => signFree_service hService)
      hStubs hServices emitted hEmitted with
    ⟨hOutcome, service, hService, hWritten⟩
  refine ⟨hOutcome, ?_⟩
  intro stub hStub hMem
  rw [hWritten, List.mem_singleton] at hMem
  rcases List.mem_map.mp hStub with ⟨other, hOther, hPath⟩
  apply run.generator.place_interface_ne_stubPlace output
    (signFree_service hService)
  rw [← hMem, ← hPath]
  exact run.generator.place_stub output
    (signFree_service hOther)

/-
  A run that succeeds can be taken again.  It succeeds, every
  place has what it had, and the reports agree on structures
  and services.  For servers every stub is skipped, and none
  is among the files that are written, unless a structure has
  its path.
-/
theorem rerun_changes_nothing
    {start after : Workspace}
    {report : GenerationReport}
    (hRun :
      (run.action output).run.run start = (.ok report, after)) :
    ∃ again last,
      (run.action output).run.run after = (.ok again, last) ∧
        (∀ place,
          last.files.at? place = after.files.at? place) ∧
        again.types = report.types ∧
        again.bodies = report.bodies ∧
        again.services.map EmitReport.service =
          report.services.map EmitReport.service ∧
        (run.mode = .server →
          (∀ emitted ∈ again.services,
            emitted.outcome = .stubSkippedExists ∧
              ∀ stub ∈ run.stubPaths output,
                stub ∉ emitted.written) ∧
            ∀ stub ∈ run.stubPaths output,
              stub ∈ again.written →
                stub ∈ (run.types ++ run.bodies).map
                  (run.generator.structurePath output)) := by
  have hEffect := effect_of_action hRun
  rcases jobs_of_effect hEffect with
    ⟨ready, middle, outcomes, services, -, -, -, -, -, hServices,
      hReport⟩
  rcases effect_again hEffect with
    ⟨emitted, stage, later, final, hAgain, hPlaces, hKept, hAll⟩
  rcases run.run_action output after with ⟨events, hSecond⟩
  rw [hAgain] at hSecond
  refine
    ⟨_, _, hSecond, hPlaces, ?_, ?_, ?_, ?_⟩
  · rw [hReport]
    rfl
  · rw [hReport]
    rfl
  · rw [hReport]
    exact (service_reports hAll).trans hServices.symm
  · intro hServer
    have hStubs :
        ∀ service ∈ run.services,
          stage.at?
              (run.generator.servicePath output service
                "api").place ≠
            none :=
      fun service hService =>
        hKept _ (stub_of_effect hServer hService hEffect)
    have hSkipped := skipped_of_stubs hServer hStubs hAll
    refine ⟨hSkipped, ?_⟩
    intro stub hStub hWritten
    rcases List.mem_append.mp hWritten with hMost | hIndex
    · rcases List.mem_append.mp hMost with hStructure | hService
      · exact hStructure
      · rcases List.mem_flatMap.mp hService with
          ⟨one, hOne, hMem⟩
        exact absurd hMem ((hSkipped one hOne).2 stub hStub)
    · exact absurd hIndex (stub_not_mem_indexPaths hStub)

end

/- The small run has two artefacts with the same file. -/
theorem usersRun_again :
    ∃ report after again last,
      ((usersRun .rust "stub").action ⟨"gen"⟩).run.run
          usersWorkspace =
        (.ok report, after) ∧
      ((usersRun .rust "stub").action ⟨"gen"⟩).run.run after =
        (.ok again, last) ∧
      ∀ place, last.files.at? place = after.files.at? place := by
  have hOk :
      (((usersRun .rust "stub").action ⟨"gen"⟩).run.run
        usersWorkspace).1.isOk = true := by
    decide +kernel
  rcases hRun :
      ((usersRun .rust "stub").action ⟨"gen"⟩).run.run
        usersWorkspace with
    ⟨failure | report, after⟩
  · rw [hRun] at hOk
    cases hOk
  · rcases rerun_changes_nothing hRun with
      ⟨again, last, hAgain, hPlaces, -⟩
    exact ⟨report, after, again, last, rfl, hAgain, hPlaces⟩

end RamlScaffold.Run
