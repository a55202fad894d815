import RamlScaffold.Proofs.Generation.Report
import RamlScaffold.Proofs.Language.SharedNames

/-
  When every artefact of a run has a file of its own.

  The report of a run has no path twice exactly if its file
  names differ, and these differ exactly as far as stems do.
  Different names can have one stem, and the stem of a
  structure can be that of a service with its artefact.

  Stubs never matter: where a structure has the file of a
  stub, the stub is found in place and not written.

  Main declarations:
    * `Mode.artefact`
    * `Run.KeepsApart`
    * `Run.nodup_services_iff`
    * `Run.structures_apart_iff`
    * `Run.nodup_written_iff`
    * `caseRun_writes_twice`
-/

------------------------------------------------------------
-- Paths In One Directory
------------------------------------------------------------

namespace RamlScaffold

/- Files of one directory differ exactly if their names do. -/
theorem Path.child_eq_iff
    (output : Path)
    {first second : String}
    (hFirst : IsFileName first)
    (hSecond : IsFileName second) :
    output.child first = output.child second ↔
      first = second := by
  constructor
  · intro hSame
    have hPlace := place_child hFirst output
    rw [hSame, place_child hSecond, List.append_cancel_left_eq,
      List.singleton_inj] at hPlace
    exact hPlace.symm
  · intro hSame
    rw [hSame]

/- Images are distinct exactly if what tells them apart is. -/
theorem nodup_map_iff_of_eq_iff
    {α β γ : Type}
    {f : α → β}
    {g : α → γ}
    {items : List α}
    (hSame :
      ∀ a ∈ items, ∀ b ∈ items, f a = f b ↔ g a = g b) :
    (items.map f).Nodup ↔ (items.map g).Nodup := by
  unfold List.Nodup
  rw [List.pairwise_map, List.pairwise_map]
  exact List.Pairwise.iff_of_mem
    (fun ha hb => not_congr (hSame _ ha _ hb))

/- The artefact of a service that is always written anew. -/
def Mode.artefact : Mode → String
  | .server => "if"
  | .client => "service"

theorem Mode.signFree_artefact (mode : Mode) :
    Naming.SignFree mode.artefact := by
  cases mode <;> decide

theorem Mode.exists_lastOf?_artefact (mode : Mode) :
    ∃ c, lastOf? mode.artefact = some c ∧ c ≠ 'i' ∧ c ≠ '_' := by
  cases mode with
  | server => exact ⟨'f', rfl, by decide, by decide⟩
  | client => exact ⟨'e', rfl, by decide, by decide⟩

end RamlScaffold

------------------------------------------------------------
-- Files Of Services
------------------------------------------------------------

namespace RamlScaffold

namespace Generator

variable {generator : Generator} {output : Path}

/- Two artefacts have one path if they have one file name. -/
theorem servicePath_eq_iff
    {first second : Service}
    (hFirst : Naming.SignFree first.name)
    (hSecond : Naming.SignFree second.name)
    {artefact other : String}
    (hArtefact : Naming.SignFree artefact)
    (hOther : Naming.SignFree other) :
    generator.servicePath output first artefact =
        generator.servicePath output second other ↔
      generator.language.resourceFileName first.name artefact =
        generator.language.resourceFileName second.name
          other :=
  Path.child_eq_iff output
    (generator.language.isFileName_resourceFileName hFirst
      hArtefact)
    (generator.language.isFileName_resourceFileName hSecond
      hOther)

theorem structurePath_eq_servicePath_iff
    (generator : Generator)
    (output : Path)
    {struct : Structure}
    {service : Service}
    (hStruct : Naming.SignFree struct.name)
    (hService : Naming.SignFree service.name)
    {artefact : String}
    (hArtefact : Naming.SignFree artefact) :
    generator.structurePath output struct =
        generator.servicePath output service artefact ↔
      generator.language.structureFileName struct.name =
        generator.language.resourceFileName service.name
          artefact :=
  Path.child_eq_iff output
    (generator.language.isFileName_structureFileName hStruct)
    (generator.language.isFileName_resourceFileName hService
      hArtefact)

variable [WriteAccess]

/-
  What is reported of a service: the file that is always
  written, and behind it at most the stub.
-/
theorem written_cases
    {service : Service}
    {mode : Mode}
    {files after : FileTree}
    {report : EmitReport}
    (hEmits :
      Emits generator output service files mode report after) :
    report.written =
        [generator.servicePath output service mode.artefact] ∨
      mode = .server ∧
        report.written =
          [generator.servicePath output service mode.artefact,
            generator.servicePath output service "api"] := by
  cases hEmits with
  | client => exact Or.inl rfl
  | stubWritten => exact Or.inr ⟨rfl, rfl⟩
  | stubSkipped => exact Or.inl rfl

end Generator

namespace Run

variable {run : Run} {output : Path}
variable {stage middle : FileTree} {reports : List EmitReport}

/- What is reported of the services of a run. -/
structure Reported
    (run : Run)
    (output : Path)
    (emitted : EmitReport) : Prop where
  service : emitted.service ∈ run.services
  always :
    run.generator.servicePath output emitted.service
        run.mode.artefact ∈
      emitted.written
  cases :
    ∀ path ∈ emitted.written,
      path =
          run.generator.servicePath output emitted.service
            run.mode.artefact ∨
        run.mode = .server ∧
          path =
            run.generator.servicePath output emitted.service
              "api"
  nodup : emitted.written.Nodup

/- Artefacts of services share a path only with their stems. -/
theorem Reported.disjoint_iff
    {first second : EmitReport}
    (hFirst : run.Reported output first)
    (hSecond : run.Reported output second) :
    (∀ path ∈ first.written, ∀ other ∈ second.written,
        path ≠ other) ↔
      run.generator.language.resourceStem first.service.name ≠
        run.generator.language.resourceStem
          second.service.name := by
  have hFirstName := signFree_service hFirst.service
  have hSecondName := signFree_service hSecond.service
  have hArtefact := run.mode.signFree_artefact
  have hStub : Naming.SignFree "api" := by decide
  rcases run.mode.exists_lastOf?_artefact with
    ⟨c, hLast, hOther, -⟩
  constructor
  · intro hApart hStem
    refine hApart _ hFirst.always _ hSecond.always ?_
    rw [Generator.servicePath_eq_iff hFirstName hSecondName
      hArtefact hArtefact, Language.resourceFileName_eq_iff]
    exact hStem
  · intro hStem path hPath other hMem hSame
    rw [hSame] at hPath
    rcases hFirst.cases other hPath with
      hOne | ⟨-, hOne⟩
    · rcases hSecond.cases other hMem with
        hTwo | ⟨-, hTwo⟩
      · rw [hOne, Generator.servicePath_eq_iff hFirstName
          hSecondName hArtefact hArtefact,
          Language.resourceFileName_eq_iff] at hTwo
        exact hStem hTwo
      · rw [hOne, Generator.servicePath_eq_iff hFirstName
          hSecondName hArtefact hStub] at hTwo
        exact Language.resourceFileName_ne_of_ending _ hLast
          (d := 'i') rfl hOther _ _ hTwo
    · rcases hSecond.cases other hMem with
        hTwo | ⟨-, hTwo⟩
      · rw [hOne, Generator.servicePath_eq_iff hFirstName
          hSecondName hStub hArtefact] at hTwo
        exact Language.resourceFileName_ne_of_ending _
          (c := 'i') rfl hLast hOther.symm _ _ hTwo
      · rw [hOne, Generator.servicePath_eq_iff hFirstName
          hSecondName hStub hStub,
          Language.resourceFileName_eq_iff] at hTwo
        exact hStem hTwo

variable [WriteAccess]

theorem reported_of_services
    (hServices :
      Effect.all (run.generator.serviceEffect output run.mode)
          run.services stage =
        (.ok reports, middle)) :
    ∀ emitted ∈ reports, run.Reported output emitted := by
  intro emitted hEmitted
  rcases List.append_of_mem hEmitted with
    ⟨earlier, later, hSplit⟩
  rcases emits_of_effect hServices hSplit with
    ⟨values, before, next, hService, -, hEmits⟩
  rcases Generator.written_cases hEmits with
    hWritten | ⟨hServer, hWritten⟩
  · refine ⟨hService, ?_, ?_, ?_⟩
    · simp [hWritten]
    · intro path hPath
      rw [hWritten, List.mem_singleton] at hPath
      exact Or.inl hPath
    · simp [hWritten]
  · refine ⟨hService, ?_, ?_, ?_⟩
    · simp [hWritten]
    · intro path hPath
      rw [hWritten, List.mem_cons, List.mem_singleton] at hPath
      exact hPath.imp_right (And.intro hServer)
    · have hOther :=
        run.generator.stub_ne_interface output
          (signFree_service hService)
      rw [hWritten, hServer]
      simp [Mode.artefact, hOther.symm]

/- Services are reported apart exactly if their stems differ. -/
theorem nodup_services_iff
    (hServices :
      Effect.all (run.generator.serviceEffect output run.mode)
          run.services stage =
        (.ok reports, middle)) :
    (reports.flatMap EmitReport.written).Nodup ↔
      (run.services.map
        (fun service =>
          run.generator.language.resourceStem
            service.name)).Nodup := by
  have hReported := reported_of_services hServices
  rw [← service_reports hServices, List.map_map]
  unfold List.Nodup
  rw [List.pairwise_flatMap, List.pairwise_map]
  constructor
  · rintro ⟨-, hApart⟩
    refine hApart.imp_of_mem ?_
    intro first second hFirst hSecond
    exact ((hReported first hFirst).disjoint_iff
      (hReported second hSecond)).mp
  · intro hStems
    refine ⟨fun emitted hMem => (hReported emitted hMem).nodup, ?_⟩
    refine hStems.imp_of_mem ?_
    intro first second hFirst hSecond
    exact ((hReported first hFirst).disjoint_iff
      (hReported second hSecond)).mpr

end Run

end RamlScaffold

------------------------------------------------------------
-- Structures And Services
------------------------------------------------------------

namespace RamlScaffold.Run

variable [WriteAccess]

variable {run : Run} {output : Path}
variable {ready stage middle : FileTree}
variable {outcomes : List WriteOutcome}
variable {reports : List EmitReport}

/- A stub that is reported has no structure in its place. -/
theorem structure_ne_reported_stub
    (hStructures :
      runJobs run.generator.templates (run.structureJobs output)
          ready =
        (.ok outcomes, stage))
    (hServices :
      Effect.all (run.generator.serviceEffect output run.mode)
          run.services stage =
        (.ok reports, middle))
    (hServer : run.mode = .server)
    {emitted : EmitReport}
    (hEmitted : emitted ∈ reports)
    (hStub :
      run.generator.servicePath output emitted.service "api" ∈
        emitted.written)
    {struct : Structure}
    (hStruct : struct ∈ run.types ++ run.bodies) :
    run.generator.structurePath output struct ≠
      run.generator.servicePath output emitted.service "api" := by
  rcases List.append_of_mem hEmitted with
    ⟨earlier, later, hSplit⟩
  rcases emits_of_effect hServices hSplit with
    ⟨values, before, next, hService, hEarlier, hEmits⟩
  rw [hServer] at hEarlier hEmits
  rcases Generator.accountsForStub_of_emits
      (signFree_service hService) hEmits with
    ⟨others, found, hInterface, hAccounts⟩
  have hAbsent :=
    hAccounts.outcome.mp (hAccounts.written.mp hStub)
  -- The structure was written before the stub was looked for.
  have hJob :
      run.generator.structureJob output struct ∈
        run.structureJobs output :=
    List.mem_map_of_mem hStruct
  have hNames :
      (run.generator.structureJob output
        struct).path.NamesFile :=
    Plans.namesFile (Or.inl hJob)
  have hEntry := entry_of_mem_runJobs hJob hNames hStructures
  have hFollows :=
    (follows_of_runJobs hEarlier).trans
      (follows_of_runJobs hInterface)
  have hFound :=
    (FileTree.hasEntry_iff hNames found).mpr
      (hFollows.entry _ hEntry)
  intro hSame
  rw [← hSame] at hAbsent
  rw [Generator.structureJob, hAbsent] at hFound
  cases hFound

/-
  Structures and services are reported apart exactly if no
  structure has the stem of a service with the artefact that
  is always written.
-/
theorem structures_apart_iff
    (hStructures :
      runJobs run.generator.templates (run.structureJobs output)
          ready =
        (.ok outcomes, stage))
    (hServices :
      Effect.all (run.generator.serviceEffect output run.mode)
          run.services stage =
        (.ok reports, middle)) :
    (∀ struct ∈ run.types ++ run.bodies,
        ∀ path ∈ reports.flatMap EmitReport.written,
          run.generator.structurePath output struct ≠ path) ↔
      ∀ struct ∈ run.types ++ run.bodies,
        ∀ service ∈ run.services,
          run.generator.language.structureStem struct.name ≠
            run.generator.language.resourceStem service.name ++
              "_" ++ run.mode.artefact := by
  have hReported := reported_of_services hServices
  have hArtefact := run.mode.signFree_artefact
  rcases run.mode.exists_lastOf?_artefact with
    ⟨c, hLast, -, hOther⟩
  have hSame
      {struct : Structure}
      (hStruct : struct ∈ run.types ++ run.bodies)
      {service : Service}
      (hService : service ∈ run.services) :=
    (run.generator.structurePath_eq_servicePath_iff output
      (signFree_structure hStruct) (signFree_service hService)
      hArtefact).trans
      (run.generator.language.structureFileName_eq_resourceFileName_iff
        hLast hOther struct.name service.name)
  constructor
  · intro hApart struct hStruct service hService hStem
    rw [← service_reports hServices] at hService
    rcases List.mem_map.mp hService with
      ⟨emitted, hEmitted, rfl⟩
    have hOf := hReported emitted hEmitted
    exact hApart struct hStruct _
      (List.mem_flatMap.mpr ⟨emitted, hEmitted, hOf.always⟩)
      ((hSame hStruct hOf.service).mpr hStem)
  · intro hApart struct hStruct path hPath
    rcases List.mem_flatMap.mp hPath with
      ⟨emitted, hEmitted, hWritten⟩
    have hOf := hReported emitted hEmitted
    rcases hOf.cases path hWritten with rfl | ⟨hServer, rfl⟩
    · rw [ne_eq, hSame hStruct hOf.service]
      exact hApart struct hStruct emitted.service hOf.service
    · exact structure_ne_reported_stub hStructures hServices
        hServer hEmitted hWritten hStruct

end RamlScaffold.Run

------------------------------------------------------------
-- Whole Runs
------------------------------------------------------------

namespace RamlScaffold.Run

variable {run : Run} {output : Path}

/-
  Whether structures differ in their stems, services differ in
  theirs, and no structure is named like an artefact.
-/
structure KeepsApart (run : Run) : Prop where
  structures :
    ((run.types ++ run.bodies).map
      (fun struct =>
        run.generator.language.structureStem struct.name)).Nodup
  services :
    (run.services.map
      (fun service =>
        run.generator.language.resourceStem service.name)).Nodup
  between :
    ∀ struct ∈ run.types ++ run.bodies,
      ∀ service ∈ run.services,
        run.generator.language.structureStem struct.name ≠
          run.generator.language.resourceStem service.name ++
            "_" ++ run.mode.artefact

/- The paths of structures differ exactly if the stems do. -/
theorem nodup_structurePaths_iff
    (run : Run)
    (output : Path) :
    ((run.types ++ run.bodies).map
        (run.generator.structurePath output)).Nodup ↔
      ((run.types ++ run.bodies).map
        (fun struct =>
          run.generator.language.structureStem
            struct.name)).Nodup := by
  apply nodup_map_iff_of_eq_iff
  intro first hFirst second hSecond
  rw [← Language.structureFileName_eq_iff]
  exact Path.child_eq_iff output
    (run.generator.language.isFileName_structureFileName
      (signFree_structure hFirst))
    (run.generator.language.isFileName_structureFileName
      (signFree_structure hSecond))

/- The index is reported once, and is no other artefact. -/
theorem index_apart
    {reports : List EmitReport}
    (hReported :
      ∀ emitted ∈ reports, run.Reported output emitted) :
    (run.generator.indexPaths output).Nodup ∧
      ∀ path ∈
          (run.types ++ run.bodies).map
              (run.generator.structurePath output) ++
            reports.flatMap EmitReport.written,
        ∀ index ∈ run.generator.indexPaths output,
          path ≠ index := by
  have hIndex :
      ∀ index ∈ run.generator.indexPaths output,
        index = output.child indexName := by
    intro index hMem
    unfold Generator.indexPaths at hMem
    split at hMem
    · cases hMem
    · exact List.mem_singleton.mp hMem
  constructor
  · unfold Generator.indexPaths
    split <;> simp
  · intro path hPath index hMem
    rw [hIndex index hMem]
    rcases List.mem_append.mp hPath with hStructure | hService
    · rcases List.mem_map.mp hStructure with
        ⟨struct, hStruct, rfl⟩
      rw [ne_eq, Generator.structurePath,
        Path.child_eq_iff output
          (run.generator.language.isFileName_structureFileName
            (signFree_structure hStruct))
          isFileName_indexName]
      exact Language.structureFileName_ne_index _ _
    · rcases List.mem_flatMap.mp hService with
        ⟨emitted, hEmitted, hWritten⟩
      have hOf := hReported emitted hEmitted
      have hOther
          {artefact : String}
          (hArtefact : Naming.SignFree artefact) :
          run.generator.servicePath output emitted.service
              artefact ≠
            output.child indexName := by
        rw [ne_eq, Generator.servicePath,
          Path.child_eq_iff output
            (run.generator.language.isFileName_resourceFileName
              (signFree_service hOf.service) hArtefact)
            isFileName_indexName]
        exact Language.resourceFileName_ne_index _ _ _
      rcases hOf.cases path hWritten with rfl | ⟨-, rfl⟩
      · exact hOther run.mode.signFree_artefact
      · exact hOther (by decide)

/-
  The report of a run that succeeds has no path twice exactly
  if its structures and services are kept apart by what their
  files keep of their names.
-/
theorem nodup_written_iff
    [WriteAccess]
    {start after : Workspace}
    {report : GenerationReport}
    (hRun :
      (run.action output).run.run start = (.ok report, after)) :
    report.written.Nodup ↔ run.KeepsApart := by
  rcases effect_eq_ok (effect_of_action hRun) with
    ⟨ready, outcomes, stage, hReady, hStructures, hAfter⟩
  rcases effectAfter_eq_ok hAfter with
    ⟨reports, middle, index, hServices, hIndexed, rfl⟩
  have hIndex := (Generator.indexEffect_eq_ok hIndexed).2.1
  have hOthers := index_apart (reported_of_services hServices)
  have hApart := structures_apart_iff hStructures hServices
  have hReport :
      (run.reportOf output reports index).written =
        (run.types ++ run.bodies).map
            (run.generator.structurePath output) ++
          reports.flatMap EmitReport.written ++
          run.generator.indexPaths output := by
    rw [← hIndex]
    rfl
  rw [hReport, List.nodup_append, List.nodup_append,
    nodup_structurePaths_iff, nodup_services_iff hServices]
  constructor
  · rintro ⟨⟨hNames, hStems, hBetween⟩, -⟩
    refine ⟨hNames, hStems, hApart.mp ?_⟩
    intro struct hStruct
    exact hBetween _ (List.mem_map_of_mem hStruct)
  · intro hKeeps
    refine
      ⟨⟨hKeeps.structures, hKeeps.services, ?_⟩, hOthers.1,
        hOthers.2⟩
    intro path hPath
    rcases List.mem_map.mp hPath with ⟨struct, hStruct, rfl⟩
    exact hApart.mpr hKeeps.between struct hStruct

/-
  The small run writes no file twice, although a structure has
  the file of its stub.
-/
theorem usersRun_writes_once :
    ∃ report after,
      ((usersRun .rust "stub").action ⟨"gen"⟩).run.run
          ⟨[], []⟩ =
        (.ok report, after) ∧
      report.written.Nodup := by
  have hOk :
      (((usersRun .rust "stub").action ⟨"gen"⟩).run.run
        ⟨[], []⟩).1.isOk = true := by
    decide +kernel
  have hKeeps : (usersRun .rust "stub").KeepsApart :=
    ⟨by decide +kernel, by decide +kernel, by decide +kernel⟩
  rcases hRun :
      ((usersRun .rust "stub").action ⟨"gen"⟩).run.run
        ⟨[], []⟩ with
    ⟨failure | report, after⟩
  · rw [hRun] at hOk
    cases hOk
  · exact ⟨report, after, rfl, (nodup_written_iff hRun).mpr hKeeps⟩

end RamlScaffold.Run

------------------------------------------------------------
-- Names That Differ In Case
------------------------------------------------------------

namespace RamlScaffold

/- Two types and two resources that differ in case only. -/
def caseApi : Api where
  types := [("UserID", {}), ("UserId", {})]
  resources := [{ uri := "/users" }, { uri := "/userS" }]

/- A run over names that differ in case only. -/
def caseRun (language : Language) : Run where
  generator := ⟨language, "api", .plain "stub"⟩
  mode := .server
  scope := {}
  api := caseApi

/- The files that such a run reports, if it succeeds. -/
def caseRunWrites (language : Language) : Option (List Path) :=
  (((caseRun language).action ⟨"gen"⟩).run.run
      ⟨[], []⟩).1.toOption.map
    GenerationReport.written

/-
  All names of structures differ and all names of services do,
  and still the run writes a file twice: in Rust that of the
  two types, and in Go the interface of the two resources.
-/
theorem caseRun_writes_twice :
    (((caseRun .rust).types ++ (caseRun .rust).bodies).map
        Structure.name).Nodup ∧
      ((caseRun .rust).services.map Service.name).Nodup ∧
      caseRunWrites .rust =
        some
          [⟨"gen/user_id.rs"⟩, ⟨"gen/user_id.rs"⟩,
            ⟨"gen/users_if.rs"⟩, ⟨"gen/users_api.rs"⟩,
            ⟨"gen/user_s_if.rs"⟩, ⟨"gen/user_s_api.rs"⟩,
            ⟨"gen/mod.rs"⟩] ∧
      (((caseRun .go).types ++ (caseRun .go).bodies).map
        Structure.name).Nodup ∧
      ((caseRun .go).services.map Service.name).Nodup ∧
      caseRunWrites .go =
        some
          [⟨"gen/UserID.go"⟩, ⟨"gen/UserId.go"⟩,
            ⟨"gen/users_if.go"⟩, ⟨"gen/users_api.go"⟩,
            ⟨"gen/users_if.go"⟩] := by
  decide +kernel

end RamlScaffold
