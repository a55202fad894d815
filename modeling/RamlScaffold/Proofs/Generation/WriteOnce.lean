import RamlScaffold.Libraries
import RamlScaffold.Proofs.Generation.Places

/-
  Stubs are written once.

  In Go nothing that is written anew can have the name of a
  stub, whatever the runs before and after it generate.  In
  Rust a structure of the catalog can: a stub is kept exactly
  as long as no structure clashes with it.

  Main declarations:
    * `Run.history`
    * `Run.replacedPaths`, `Run.stubPaths`
    * `Run.history_keeps_go_stubs`
    * `Run.clashes`
    * `Run.rust_stub_after_run`
-/

------------------------------------------------------------
-- Histories
------------------------------------------------------------

namespace RamlScaffold.Run

/- The workspace after runs into one directory, in order. -/
def history
    [WriteAccess]
    (output : Path)
    (runs : List Run)
    (start : Workspace) : Workspace :=
  runs.foldl
    (fun workspace run =>
      ((run.action output).run.run workspace).2)
    start

/- The files of a run that are replaced where they exist. -/
def replacedPaths
    (run : Run)
    (output : Path) : List Path :=
  (run.types ++ run.bodies).map
      (run.generator.structurePath output) ++
    run.services.flatMap
      (fun service =>
        [run.generator.servicePath output service "if",
          run.generator.servicePath output service "service"])

/- The stubs of the services of a run. -/
def stubPaths
    (run : Run)
    (output : Path) : List Path :=
  run.services.map
    (fun service =>
      run.generator.servicePath output service "api")

end RamlScaffold.Run

------------------------------------------------------------
-- A Small Run
------------------------------------------------------------

namespace RamlScaffold

/- Templates of one text each, with a text for stubs. -/
def Templates.plain (stub : String) : Templates :=
  [("client_service", fun _ => some "client"),
    ("mod", fun _ => some "modules"),
    ("resource_api", fun _ => some stub),
    ("resource_if", fun _ => some "interface"),
    ("struct", fun _ => some "structure")]

/- A type and a resource with much the same name. -/
def usersApi : Api where
  types := [("UsersApi", {})]
  resources := [{ uri := "/users" }]

/- A run over the small definition. -/
def usersRun
    (language : Language)
    (stub : String) : Run where
  generator := ⟨language, "api", .plain stub⟩
  mode := .server
  scope := {}
  api := usersApi

/- The service of the small definition. -/
def usersService : Service :=
  Resource.describe "api" true "" { uri := "/users" }

end RamlScaffold

------------------------------------------------------------
-- Stubs In Go
------------------------------------------------------------

namespace RamlScaffold.Run

theorem structure_ne_stub_go
    {run : Run}
    (hGo : run.generator.language = .go)
    (stem : String) :
    ∀ struct ∈ run.types ++ run.bodies,
      run.generator.language.structureFileName struct.name ≠
        stem ++ run.generator.language.stubEnding := by
  intro struct hStruct
  rw [hGo]
  exact Language.structureFileName_go_ne_stub
    (signFree_structure hStruct) stem

section

variable [WriteAccess]

/- A run keeps every file that is named like a stub. -/
theorem file_action_go
    {run : Run}
    (hGo : run.generator.language = .go)
    {output : Path}
    {stem : String}
    {workspace : Workspace}
    {contents : Contents}
    {isProgram : Bool}
    (hFile :
      workspace.files.at? (Language.go.stubPlace output stem) =
        some (.file contents isProgram)) :
    ((run.action output).run.run workspace).2.files.at?
        (Language.go.stubPlace output stem) =
      some (.file contents isProgram) := by
  rw [files_action]
  refine file_effect ?_ hFile
  intro job hPlan hReplaces
  rw [← hGo]
  exact hPlan.place_ne_stubPlace
    (structure_ne_stub_go hGo stem) hReplaces

theorem file_history_go
    {runs : List Run}
    (hGo : ∀ run ∈ runs, run.generator.language = .go)
    {output : Path}
    {stem : String}
    {workspace : Workspace}
    {contents : Contents}
    {isProgram : Bool}
    (hFile :
      workspace.files.at? (Language.go.stubPlace output stem) =
        some (.file contents isProgram)) :
    (history output runs workspace).files.at?
        (Language.go.stubPlace output stem) =
      some (.file contents isProgram) := by
  induction runs generalizing workspace with
  | nil => exact hFile
  | cons run runs ih =>
      apply ih
      · exact fun other hOther =>
          hGo other (List.mem_cons_of_mem run hOther)
      · exact file_action_go (hGo run List.mem_cons_self) hFile

/- What one run replaces is no stub of another. -/
omit [WriteAccess] in
theorem place_ne_of_replaced_go
    {first second : Run}
    (hFirst : first.generator.language = .go)
    (hSecond : second.generator.language = .go)
    {output replaced stub : Path}
    (hReplaced : replaced ∈ first.replacedPaths output)
    (hStub : stub ∈ second.stubPaths output) :
    replaced.place ≠ stub.place := by
  rcases List.mem_map.mp hStub with ⟨service, hService, rfl⟩
  rw [second.generator.place_stub output
    (signFree_service hService), hSecond, ← hFirst]
  rcases List.mem_append.mp hReplaced with hStructure | hOther
  · rcases List.mem_map.mp hStructure with
      ⟨struct, hStruct, rfl⟩
    rw [ne_eq,
      first.generator.place_structurePath_eq_stubPlace_iff
        output (signFree_structure hStruct)]
    exact structure_ne_stub_go hFirst _ struct hStruct
  · rcases List.mem_flatMap.mp hOther with
      ⟨other, hMem, hPath⟩
    have hName := signFree_service hMem
    rcases List.mem_cons.mp hPath with rfl | hPath
    · exact first.generator.place_interface_ne_stubPlace output
        hName _
    · rw [List.mem_singleton.mp hPath]
      exact first.generator.place_client_ne_stubPlace output
        hName _

/-
  Whatever Go runs a history has, successful or failing, a
  file that is named like a stub is never changed once it
  exists: nothing that is replaced has the place of a stub.
-/
theorem history_keeps_go_stubs
    {runs : List Run}
    (hGo : ∀ run ∈ runs, run.generator.language = .go)
    (output : Path) :
    (∀ earlier later, runs = earlier ++ later →
      ∀ start stem contents isProgram,
        (history output earlier start).files.at?
            (output.place ++ [stem ++ "_api.go"]) =
          some (.file contents isProgram) →
        (history output runs start).files.at?
            (output.place ++ [stem ++ "_api.go"]) =
          some (.file contents isProgram)) ∧
      ∀ first ∈ runs, ∀ second ∈ runs,
        ∀ replaced ∈ first.replacedPaths output,
          ∀ stub ∈ second.stubPaths output,
            replaced.place ≠ stub.place := by
  constructor
  · rintro earlier later rfl start stem contents isProgram hFile
    unfold history at hFile ⊢
    rw [List.foldl_append]
    refine file_history_go ?_ hFile
    exact fun run hRun =>
      hGo run (List.mem_append_right earlier hRun)
  · intro first hFirst second hSecond replaced hReplaced stub
      hStub
    exact place_ne_of_replaced_go (hGo first hFirst)
      (hGo second hSecond) hReplaced hStub

end

theorem second_go_run_keeps_stub :
    (∀ run ∈ [usersRun .go "first", usersRun .go "second"],
        run.generator.language = .go) ∧
      (history ⟨"gen"⟩
          [usersRun .go "first", usersRun .go "second"]
          ⟨[], []⟩).files.at?
          ((Path.mk "gen").place ++ ["users" ++ "_api.go"]) =
        some (.file (.text "first") false) := by
  have hGo :
      ∀ run ∈ [usersRun .go "first", usersRun .go "second"],
        run.generator.language = .go := by
    decide
  refine ⟨hGo, ?_⟩
  exact
    (history_keeps_go_stubs hGo ⟨"gen"⟩).1
      [usersRun .go "first"] [usersRun .go "second"] rfl
      ⟨[], []⟩ "users" (.text "first") false
      (by decide +kernel)

end RamlScaffold.Run

------------------------------------------------------------
-- Stubs In Rust
------------------------------------------------------------

namespace RamlScaffold.Run

/- The catalog structures that have the file of a stub. -/
def clashes
    (run : Run)
    (service : Service) : List Structure :=
  run.types.filter
    (fun struct =>
      Naming.snakeCase struct.name ==
        Naming.snakeCase service.name ++ "_api")

/- The end of its name keeps a body apart from all stubs. -/
theorem body_ne_stub_rust
    {run : Run}
    {struct : Structure}
    (hStruct : struct ∈ run.bodies)
    (stem : String) :
    Language.rust.structureFileName struct.name ≠
      stem ++ Language.rust.stubEnding := by
  rcases name_of_mem_bodies hStruct with
    ⟨path, verb, direction, hName⟩
  rw [hName]
  cases direction with
  | request =>
      exact Language.structureFileName_rust_ne_stub (c := 'q')
        (by decide) (by decide) (lastOf?_append _ "Req" rfl)
        (by decide) stem
  | response =>
      exact Language.structureFileName_rust_ne_stub (c := 'p')
        (by decide) (by decide) (lastOf?_append _ "Resp" rfl)
        (by decide) stem

theorem structure_eq_stub_iff
    {run : Run}
    {struct : Structure}
    (hStruct : struct ∈ run.types ++ run.bodies)
    (service : Service) :
    Language.rust.structureFileName struct.name =
        Naming.snakeCase service.name ++
          Language.rust.stubEnding ↔
      struct ∈ run.clashes service := by
  have hName :=
    Language.structureFileName_rust_eq_stub_iff struct.name
      (Naming.snakeCase service.name)
  unfold clashes
  rw [List.mem_filter, beq_iff_eq, ← hName]
  constructor
  · intro hSame
    rcases List.mem_append.mp hStruct with hType | hBody
    · exact ⟨hType, hSame⟩
    · exact absurd hSame (body_ne_stub_rust hBody _)
  · exact And.right

/- The place of the stub of a service. -/
def rustStub
    (output : Path)
    (service : Service) : Place :=
  Language.rust.stubPlace output
    (Naming.snakeCase service.name)

theorem place_stub_rust
    {run : Run}
    (hRust : run.generator.language = .rust)
    (output : Path)
    {service : Service}
    (hName : Naming.SignFree service.name) :
    (run.generator.servicePath output service "api").place =
      rustStub output service := by
  rw [run.generator.place_stub output hName, hRust]
  rfl

/- The structures at the place of a stub are those clashing. -/
theorem place_structure_eq_rustStub_iff
    {run : Run}
    (hRust : run.generator.language = .rust)
    (output : Path)
    (service : Service)
    {struct : Structure}
    (hStruct : struct ∈ run.types ++ run.bodies) :
    (run.generator.structurePath output struct).place =
        rustStub output service ↔
      struct ∈ run.clashes service := by
  unfold rustStub
  rw [← structure_eq_stub_iff hStruct service, ← hRust,
    run.generator.place_structurePath_eq_stubPlace_iff output
      (signFree_structure hStruct)]

/- The last of a list that has a property, and what follows. -/
theorem split_of_getLast?_filter
    {α : Type}
    {p : α → Bool}
    {items : List α}
    {item : α}
    (hLast : (items.filter p).getLast? = some item) :
    ∃ before later,
      items = before ++ item :: later ∧
        ∀ other ∈ later, p other = false := by
  rcases List.getLast?_eq_some_iff.mp hLast with ⟨front, hFront⟩
  rcases List.filter_eq_append_iff.mp hFront with
    ⟨start, rest, hItems, -, hRest⟩
  rcases List.filter_eq_cons_iff.mp hRest with
    ⟨gap, later, hSplit, -, -, hLater⟩
  refine ⟨start ++ gap, later, ?_, ?_⟩
  · rw [hItems, hSplit, List.append_assoc]
  · intro other hOther
    rw [List.filter_eq_nil_iff] at hLater
    exact Bool.eq_false_iff.mpr (hLater other hOther)

/- Nothing after the last clash has the place of the stub. -/
theorem structureJobs_split
    {run : Run}
    (hRust : run.generator.language = .rust)
    (output : Path)
    {service : Service}
    {struct : Structure}
    (hLast : (run.clashes service).getLast? = some struct) :
    ∃ before later,
      run.structureJobs output =
          before ++
            run.generator.structureJob output struct :: later ∧
        ∀ other ∈ later,
          other.path.place ≠ rustStub output service := by
  rcases split_of_getLast?_filter hLast with
    ⟨before, later, hTypes, hLater⟩
  refine
    ⟨before.map (run.generator.structureJob output),
      (later ++ run.bodies).map
        (run.generator.structureJob output), ?_, ?_⟩
  · unfold structureJobs
    rw [hTypes, List.append_assoc, List.map_append,
      List.cons_append, List.map_cons]
  · intro other hOther hPlace
    rcases List.mem_map.mp hOther with ⟨follower, hMem, rfl⟩
    have hAmong : follower ∈ run.types ++ run.bodies := by
      rw [hTypes, List.append_assoc, List.cons_append]
      exact List.mem_append_right before
        (List.mem_cons_of_mem struct hMem)
    have hClash :=
      (place_structure_eq_rustStub_iff hRust output service
        hAmong).mp hPlace
    rcases List.mem_append.mp hMem with hTail | hBody
    · rw [clashes, List.mem_filter, hLater follower hTail]
        at hClash
      cases hClash.2
    · rw [← structure_eq_stub_iff hAmong] at hClash
      exact body_ne_stub_rust hBody _ hClash

section

variable [WriteAccess]

/- A stub that no structure clashes with is kept. -/
theorem file_effect_rust
    {run : Run}
    (hRust : run.generator.language = .rust)
    {service : Service}
    (hClashes : run.clashes service = [])
    {output : Path}
    {files : FileTree}
    {contents : Contents}
    {isProgram : Bool}
    (hFile :
      files.at? (rustStub output service) =
        some (.file contents isProgram)) :
    (run.effect output files).2.at? (rustStub output service) =
      some (.file contents isProgram) := by
  refine file_effect ?_ hFile
  intro job hPlan hReplaces
  unfold rustStub
  rw [← hRust]
  refine hPlan.place_ne_stubPlace ?_ hReplaces
  intro struct hStruct hSame
  rw [hRust, structure_eq_stub_iff hStruct, hClashes] at hSame
  cases hSame

/-
  A run that succeeds leaves the last structure that clashes
  with a stub in the place of the stub.
-/
theorem text_effect_rust
    {run : Run}
    (hRust : run.generator.language = .rust)
    {service : Service}
    {struct : Structure}
    (hLast : (run.clashes service).getLast? = some struct)
    {output : Path}
    {files last : FileTree}
    {contents : Contents}
    {isProgram : Bool}
    (hFile :
      files.at? (rustStub output service) =
        some (.file contents isProgram))
    {report : GenerationReport}
    (hRun : run.effect output files = (.ok report, last)) :
    ∃ text,
      run.generator.templates.renderText
          Artefact.struct.templateName struct.context =
        .ok text ∧
      last.at? (rustStub output service) =
        some (.file (.text text) isProgram) := by
  rcases effect_eq_ok hRun with
    ⟨ready, outcomes, middle, hReady, hStructures, hAfter⟩
  rcases structureJobs_split hRust output hLast with
    ⟨before, later, hJobs, hLater⟩
  have hClash := List.mem_of_getLast? hLast
  have hPlace :
      (run.generator.structureJob output struct).path.place =
        rustStub output service :=
    (place_structure_eq_rustStub_iff hRust output service
      (List.mem_append_left _ (List.mem_filter.mp hClash).1)).mpr
      hClash
  rw [hJobs] at hStructures
  rcases file_runJobs_replaced rfl
      (fun other hOther _ => hPlace ▸ hLater other hOther)
      hStructures with
    ⟨text, hText, hMiddle⟩
  refine ⟨text, hText, ?_⟩
  have hProgram :
      ready.isProgramAt (rustStub output service) =
        isProgram := by
    unfold FileTree.isProgramAt
    rw [FileTree.at?_createAll? hReady hFile]
  rw [hPlace, hProgram] at hMiddle
  have hKept :
      (run.effectAfter output middle).2.at?
          (rustStub output service) =
        some (.file (.text text) isProgram) := by
    refine file_effectAfter ?_ hMiddle
    intro job hPlan hReplaces
    unfold rustStub
    rw [← hRust]
    exact hPlan.place_ne_stubPlace hReplaces _
  rw [hAfter] at hKept
  exact hKept

/-
  What becomes of a stub that exists.  It is kept, by runs
  that succeed and by runs that fail, if no structure of the
  catalog clashes with it; otherwise a run that succeeds
  leaves the last such structure in its place.  The clashing
  structures are those that have the path of the stub.
-/
theorem rust_stub_after_run
    {run : Run}
    (hRust : run.generator.language = .rust)
    {service : Service}
    (hService :
      service ∈ run.generator.services run.mode run.api)
    {output : Path}
    {workspace : Workspace}
    {contents : Contents}
    {isProgram : Bool}
    (hFile :
      workspace.files.at?
          (run.generator.servicePath output service "api").place =
        some (.file contents isProgram)) :
    (∀ struct ∈ run.types ++ run.bodies,
      (run.generator.structurePath output struct).place =
          (run.generator.servicePath output service
            "api").place ↔
        struct ∈ run.clashes service) ∧
      (run.clashes service = [] →
        ((run.action output).run.run workspace).2.files.at?
            (run.generator.servicePath output service
              "api").place =
          some (.file contents isProgram)) ∧
      ∀ struct report,
        (run.clashes service).getLast? = some struct →
        ((run.action output).run.run workspace).1 =
          .ok report →
        ∃ text,
          run.generator.templates.renderText
              Artefact.struct.templateName struct.context =
            .ok text ∧
          ((run.action output).run.run workspace).2.files.at?
              (run.generator.servicePath output service
                "api").place =
            some (.file (.text text) isProgram) := by
  have hStub :=
    place_stub_rust hRust output
      (Generator.signFree_service hService)
  rcases run.run_action output workspace with ⟨reported, hRun⟩
  rw [hStub] at hFile ⊢
  rw [hRun]
  refine ⟨?_, ?_, ?_⟩
  · intro struct hStruct
    exact place_structure_eq_rustStub_iff hRust output service
      hStruct
  · intro hClashes
    exact file_effect_rust hRust hClashes hFile
  · intro struct report hLast hReport
    exact text_effect_rust hRust hLast hFile
      (Prod.ext hReport rfl)

end

/- A workspace in which the stub of the users is kept. -/
def usersWorkspace : Workspace :=
  ⟨[(["gen"], .directory),
      (["gen", "users_api.rs"], .file (.text "mine") false)],
    []⟩

/- The catalog structure that clashes with the stub. -/
def usersStructure : Structure :=
  (usersRun .rust "stub").generator.typeStructure
    ("UsersApi", {})

theorem usersRun_leaves_structure :
    ((usersRun .rust "stub").clashes usersService).getLast? =
        some usersStructure ∧
      ∃ text,
        (usersRun .rust "stub").generator.templates.renderText
            Artefact.struct.templateName
            usersStructure.context =
          .ok text ∧
        (((usersRun .rust "stub").action ⟨"gen"⟩).run.run
            usersWorkspace).2.files.at?
            ((usersRun .rust "stub").generator.servicePath
              ⟨"gen"⟩ usersService "api").place =
          some (.file (.text text) false) := by
  have hRust :
      (usersRun .rust "stub").generator.language = .rust :=
    rfl
  have hService :
      usersService ∈
        (usersRun .rust "stub").generator.services .server
          usersApi :=
    List.mem_cons_self
  have hFile :
      usersWorkspace.files.at?
          ((usersRun .rust "stub").generator.servicePath ⟨"gen"⟩
            usersService "api").place =
        some (.file (.text "mine") false) := by
    decide +kernel
  have hLast :
      ((usersRun .rust "stub").clashes usersService).getLast? =
        some usersStructure := by
    decide +kernel
  refine ⟨hLast, ?_⟩
  have hOk :
      (((usersRun .rust "stub").action ⟨"gen"⟩).run.run
        usersWorkspace).1.isOk = true := by
    decide +kernel
  cases hReport :
      (((usersRun .rust "stub").action ⟨"gen"⟩).run.run
        usersWorkspace).1 with
  | error failure =>
      rw [hReport] at hOk
      cases hOk
  | ok report =>
      exact (rust_stub_after_run hRust hService hFile).2.2
        usersStructure report hLast hReport

/- A stub that exists is lost to a structure of its name. -/
theorem usersRun_loses_stub :
    usersWorkspace.files.at? ["gen", "users_api.rs"] =
        some (.file (.text "mine") false) ∧
      (((usersRun .rust "stub").action ⟨"gen"⟩).run.run
          usersWorkspace).2.files.at? ["gen", "users_api.rs"] =
        some (.file (.text "structure") false) := by
  decide +kernel

end RamlScaffold.Run
