import RamlScaffold.Proofs.Generation.Run

/-
  Where the planned files of a run lie.

  Every planned file lies directly in the output directory.
  The names of structures and services hold no sign, whatever
  catalog and resources they come from.

  Main declarations:
    * `Run.signFree_structure`, `Run.signFree_service`
    * `Run.Plans.isFile`
    * `Language.stubPlace`
    * `Run.PlansAfter.place_ne_stubPlace`
    * `Run.Plans.place_ne_stubPlace`
    * `Run.place_ne_index`
-/

------------------------------------------------------------
-- Names Of Structures And Services
------------------------------------------------------------

namespace RamlScaffold

namespace Naming

theorem signFree_ending (direction : Direction) :
    SignFree direction.ending := by
  cases direction <;> decide

end Naming

namespace Run

variable {run : Run}

theorem name_of_mem_types
    {struct : Structure}
    (hStruct : struct ∈ run.types) :
    ∃ name, struct.name = Naming.typeIdentifier name := by
  unfold types at hStruct
  split at hStruct
  · rcases List.mem_map.mp hStruct with ⟨entry, -, rfl⟩
    exact ⟨entry.1, Structure.ofDecl_name ..⟩
  · cases hStruct

theorem name_of_mem_bodies
    {struct : Structure}
    (hStruct : struct ∈ run.bodies) :
    ∃ (path : String) (verb : Verb) (direction : Direction),
      struct.name =
        Naming.normalize path none ++ verb.title ++
          direction.ending := by
  unfold bodies at hStruct
  split at hStruct
  · exact Api.name_of_mem_bodyStructures hStruct
  · cases hStruct

/- The name of a structure holds no sign. -/
theorem signFree_structure
    {struct : Structure}
    (hStruct : struct ∈ run.types ++ run.bodies) :
    Naming.SignFree struct.name := by
  rcases List.mem_append.mp hStruct with hType | hBody
  · rcases name_of_mem_types hType with ⟨name, hName⟩
    rw [hName]
    exact Naming.signFree_normalize name none
  · rcases name_of_mem_bodies hBody with
      ⟨path, verb, direction, hName⟩
    rw [hName]
    exact
      ((Naming.signFree_normalize path none).append
        (Naming.signFree_title verb)).append
        (Naming.signFree_ending direction)

end Run

/- The name of a service holds no sign. -/
theorem Generator.signFree_service
    {generator : Generator}
    {mode : Mode}
    {api : Api}
    {service : Service}
    (hService : service ∈ generator.services mode api) :
    Naming.SignFree service.name := by
  rcases List.mem_map.mp hService with ⟨resource, -, rfl⟩
  rcases resource with
    ⟨uri, displayName, description, methods, nested⟩
  rw [Resource.describe]
  exact Naming.signFree_normalize _ none

theorem Run.signFree_service
    {run : Run}
    {service : Service}
    (hService : service ∈ run.services) :
    Naming.SignFree service.name := by
  unfold services at hService
  split at hService
  · exact Generator.signFree_service hService
  · cases hService

end RamlScaffold

------------------------------------------------------------
-- Places
------------------------------------------------------------

namespace RamlScaffold

theorem isFileName_indexName : IsFileName indexName :=
  ⟨by decide, by decide, by decide⟩

namespace Generator

theorem place_structurePath
    (generator : Generator)
    (output : Path)
    {struct : Structure}
    (hName : Naming.SignFree struct.name) :
    (generator.structurePath output struct).place =
      output.place ++
        [generator.language.structureFileName struct.name] :=
  Path.place_child
    (generator.language.isFileName_structureFileName hName)
    output

theorem place_servicePath
    (generator : Generator)
    (output : Path)
    {service : Service}
    (hName : Naming.SignFree service.name)
    {artefact : String}
    (hArtefact : Naming.SignFree artefact) :
    (generator.servicePath output service artefact).place =
      output.place ++
        [generator.language.resourceFileName service.name
          artefact] :=
  Path.place_child
    (generator.language.isFileName_resourceFileName hName
      hArtefact)
    output

end Generator

namespace Run

variable {run : Run} {output : Path} {job : Job}

/- A later job is one of a service or that of the index. -/
theorem PlansAfter.cases
    (hPlan : run.PlansAfter output job) :
    (∃ service ∈ run.services,
        job = run.generator.interfaceJob output service ∨
          job = run.generator.stubJob output service ∨
          job = run.generator.clientJob output service) ∨
      (run.generator.language = .rust ∧
        ∃ names, job = Generator.indexJob output names) := by
  rcases hPlan with hService | hIndex
  · apply Or.inl
    rcases List.mem_flatMap.mp hService with
      ⟨service, hMem, hJob⟩
    refine ⟨service, hMem, ?_⟩
    cases hMode : run.mode with
    | server =>
        rw [hMode] at hJob
        rcases List.mem_cons.mp hJob with hFirst | hSecond
        · exact Or.inl hFirst
        · exact Or.inr (Or.inl (List.mem_singleton.mp hSecond))
    | client =>
        rw [hMode] at hJob
        exact Or.inr (Or.inr (List.mem_singleton.mp hJob))
  · exact Or.inr hIndex

/- A planned file lies directly in the output directory. -/
theorem Plans.isFile
    (hPlan : run.Plans output job) :
    ∃ name, IsFileName name ∧ job.path = output.child name := by
  rcases hPlan with hStructure | hAfter
  · rcases List.mem_map.mp hStructure with
      ⟨struct, hStruct, rfl⟩
    exact
      ⟨_, Language.isFileName_structureFileName _
        (signFree_structure hStruct), rfl⟩
  · rcases hAfter.cases with
      ⟨service, hService, hJob⟩ | ⟨-, names, rfl⟩
    · have hName {artefact : String}
          (hArtefact : Naming.SignFree artefact) :=
        run.generator.language.isFileName_resourceFileName
          (signFree_service hService) hArtefact
      rcases hJob with rfl | rfl | rfl
      · exact ⟨_, hName (by decide), rfl⟩
      · exact ⟨_, hName (by decide), rfl⟩
      · exact ⟨_, hName (by decide), rfl⟩
    · exact ⟨_, isFileName_indexName, rfl⟩

theorem Plans.namesFile
    (hPlan : run.Plans output job) :
    job.path.NamesFile := by
  rcases hPlan.isFile with ⟨name, hName, hPath⟩
  rw [hPath]
  exact Path.namesFile_child hName output

end Run

end RamlScaffold

------------------------------------------------------------
-- Places Of Stubs
------------------------------------------------------------

namespace RamlScaffold

/- The place where the stub of a stem lies. -/
def Language.stubPlace
    (language : Language)
    (output : Path)
    (stem : String) : Place :=
  output.place ++ [stem ++ language.stubEnding]

theorem Language.append_eq_stubPlace_iff
    (language : Language)
    (output : Path)
    (name stem : String) :
    output.place ++ [name] = language.stubPlace output stem ↔
      name = stem ++ language.stubEnding := by
  unfold stubPlace
  rw [List.append_cancel_left_eq, List.singleton_inj]

namespace Generator

/- A structure lies at the place of a stub if so named. -/
theorem place_structurePath_eq_stubPlace_iff
    (generator : Generator)
    (output : Path)
    {struct : Structure}
    (hName : Naming.SignFree struct.name)
    (stem : String) :
    (generator.structurePath output struct).place =
        generator.language.stubPlace output stem ↔
      generator.language.structureFileName struct.name =
        stem ++ generator.language.stubEnding := by
  rw [generator.place_structurePath output hName]
  exact Language.append_eq_stubPlace_iff _ output _ stem

/- The stub of a service lies at the place of a stub. -/
theorem place_stub
    (generator : Generator)
    (output : Path)
    {service : Service}
    (hName : Naming.SignFree service.name) :
    (generator.servicePath output service "api").place =
      generator.language.stubPlace output
        (generator.language.resourceStem service.name) := by
  rw [generator.place_servicePath output hName (by decide),
    Language.append_eq_stubPlace_iff]
  exact generator.language.resourceFileName_api service.name

/- The other files of services lie elsewhere. -/
theorem place_servicePath_ne_stubPlace
    (generator : Generator)
    (output : Path)
    {service : Service}
    (hName : Naming.SignFree service.name)
    {artefact : String}
    (hArtefact : Naming.SignFree artefact)
    {c : Char}
    (hLast : lastOf? artefact = some c)
    (hOther : c ≠ 'i')
    (stem : String) :
    (generator.servicePath output service artefact).place ≠
      generator.language.stubPlace output stem := by
  rw [generator.place_servicePath output hName hArtefact, ne_eq,
    Language.append_eq_stubPlace_iff]
  exact Language.resourceFileName_ne_stub _ hLast hOther _ stem

theorem place_interface_ne_stubPlace
    (generator : Generator)
    (output : Path)
    {service : Service}
    (hName : Naming.SignFree service.name)
    (stem : String) :
    (generator.servicePath output service "if").place ≠
      generator.language.stubPlace output stem :=
  generator.place_servicePath_ne_stubPlace output hName
    (by decide) (c := 'f') rfl (by decide) stem

theorem place_client_ne_stubPlace
    (generator : Generator)
    (output : Path)
    {service : Service}
    (hName : Naming.SignFree service.name)
    (stem : String) :
    (generator.servicePath output service "service").place ≠
      generator.language.stubPlace output stem :=
  generator.place_servicePath_ne_stubPlace output hName
    (by decide) (c := 'e') rfl (by decide) stem

end Generator

/- The index of the modules lies elsewhere. -/
theorem place_index_ne_stubPlace
    (output : Path)
    (stem : String) :
    (output.child indexName).place ≠
      Language.rust.stubPlace output stem := by
  rw [Path.place_child isFileName_indexName, ne_eq,
    Language.append_eq_stubPlace_iff]
  exact Language.ne_stub "mod" (c := 'd') rfl (by decide)
    .rust stem

namespace Run

variable {run : Run} {output : Path} {job : Job}

/- No later job replaces a stub. -/
theorem PlansAfter.place_ne_stubPlace
    (hPlan : run.PlansAfter output job)
    (hReplaces : job.replaces = true)
    (stem : String) :
    job.path.place ≠
      run.generator.language.stubPlace output stem := by
  rcases hPlan.cases with
    ⟨service, hService, hJob⟩ | ⟨hRust, names, rfl⟩
  · have hName := signFree_service hService
    rcases hJob with rfl | rfl | rfl
    · exact run.generator.place_interface_ne_stubPlace output
        hName stem
    · cases hReplaces
    · exact run.generator.place_client_ne_stubPlace output
        hName stem
  · rw [hRust]
    exact place_index_ne_stubPlace output stem

/- No job replaces a stub, where no structure is named so. -/
theorem Plans.place_ne_stubPlace
    {stem : String}
    (hStructures :
      ∀ struct ∈ run.types ++ run.bodies,
        run.generator.language.structureFileName struct.name ≠
          stem ++ run.generator.language.stubEnding)
    (hPlan : run.Plans output job)
    (hReplaces : job.replaces = true) :
    job.path.place ≠
      run.generator.language.stubPlace output stem := by
  rcases hPlan with hStructure | hAfter
  · rcases List.mem_map.mp hStructure with
      ⟨struct, hStruct, rfl⟩
    intro hPlace
    apply hStructures struct hStruct
    rw [← run.generator.place_structurePath_eq_stubPlace_iff
      output (signFree_structure hStruct)]
    exact hPlace
  · exact hAfter.place_ne_stubPlace hReplaces stem

end Run

end RamlScaffold

------------------------------------------------------------
-- The Place Of The Index
------------------------------------------------------------

namespace RamlScaffold

namespace Language

/- A reserved word is no module, the index among them. -/
theorem moduleName_ne_mod (stem : String) :
    moduleName stem ≠ "mod" := by
  intro hSame
  apply moduleName_not_reserved stem
  rw [hSame]
  decide

/- No structure has the file of the index. -/
theorem structureFileName_ne_index
    (language : Language)
    (name : String) :
    language.structureFileName name ≠ indexName := by
  intro hSame
  cases language with
  | go =>
      have hLast := lastOf?_append name ".go" rfl
      rw [structureFileName] at hSame
      rw [hSame] at hLast
      exact absurd hLast (by decide)
  | rust =>
      exact moduleName_ne_mod _
        (String.append_left_inj ".rs" |>.mp hSame)

/- No artefact of a service has the file of the index. -/
theorem resourceFileName_ne_index
    (language : Language)
    (name artefact : String) :
    language.resourceFileName name artefact ≠ indexName := by
  intro hSame
  have hMem : '_' ∈ indexName.toList := by
    rw [← hSame, resourceFileName_eq]
    simp
  exact absurd hMem (by decide)

end Language

namespace Run

variable {run : Run} {output : Path} {job : Job}

/- Structures and services leave the index alone. -/
theorem place_ne_index
    (hJob :
      job ∈ run.structureJobs output ++ run.serviceJobs output) :
    job.path.place ≠ (output.child indexName).place := by
  have hOther {name : String}
      (hName : name ≠ indexName) :
      output.place ++ [name] ≠
        (output.child indexName).place := by
    rw [Path.place_child isFileName_indexName, ne_eq,
      List.append_cancel_left_eq, List.singleton_inj]
    exact hName
  rcases List.mem_append.mp hJob with hStructure | hService
  · rcases List.mem_map.mp hStructure with
      ⟨struct, hStruct, rfl⟩
    have hPlace :=
      run.generator.place_structurePath output
        (signFree_structure hStruct)
    rw [Generator.structureJob, hPlace]
    exact hOther (Language.structureFileName_ne_index _ _)
  · rcases List.mem_flatMap.mp hService with
      ⟨service, hMem, hOf⟩
    have hName := signFree_service hMem
    have hPlace (artefact : String)
        (hArtefact : Naming.SignFree artefact) :
        (run.generator.servicePath output service
            artefact).place ≠
          (output.child indexName).place := by
      rw [run.generator.place_servicePath output hName hArtefact]
      exact hOther (Language.resourceFileName_ne_index _ _ _)
    unfold Generator.serviceJobs at hOf
    cases hMode : run.mode with
    | server =>
        rw [hMode] at hOf
        rcases List.mem_cons.mp hOf with rfl | hStub
        · exact hPlace "if" (by decide)
        · rw [List.mem_singleton.mp hStub]
          exact hPlace "api" (by decide)
    | client =>
        rw [hMode] at hOf
        rw [List.mem_singleton.mp hOf]
        exact hPlace "service" (by decide)

end Run

end RamlScaffold
