import RamlScaffold.CommandLine.Run
import RamlScaffold.Proofs.Generation.Alike
import RamlScaffold.Proofs.Generation.Rerun
import RamlScaffold.Proofs.Template.Index

/-
  A run that is taken in parts: types, then bodies, then
  services.

  Each part writes the index for the files that are there by
  then.  The trees on the way differ from those of the whole
  run at the index only, and no other file looks at it.  The
  last part lists what the whole run lists.

  Main declarations:
    * `Generator.IndexRenders`, `Generator.CanIndex`
    * `Generator.indexEffect_sameOff`
    * `Generator.indexEffect_meets`
    * `Run.part`, `Run.effect_of_sameOff`
    * `Run.effect_in_parts`
    * `Run.parts_make_the_whole`
-/

------------------------------------------------------------
-- Writing The Index Early
------------------------------------------------------------

namespace RamlScaffold.Generator

variable {generator : Generator} {output : Path}

/- The places of the index, if there is one. -/
def indexPlaces
    (generator : Generator)
    (output : Path) : List Place :=
  (generator.indexPaths output).map Path.place

/- Whether the index can be rendered for any modules. -/
def IndexRenders (generator : Generator) : Prop :=
  generator.language = .rust →
    ∀ modules, ∃ text,
      generator.templates.renderText Artefact.index.templateName
          (moduleContext modules) =
        .ok text

/- The built-in index can be rendered for any modules. -/
theorem indexRenders_of_builtin
    (hTemplate :
      Keyed.get? Artefact.index.templateName
          generator.templates =
        some (Rendering.builtin Template.Builtin.rustIndex)) :
    generator.IndexRenders := by
  intro _ modules
  have hText := Template.Builtin.render_rustIndex modules
  exact ⟨_, Templates.renderText_of_ok hTemplate hText⟩

theorem namesFile_index (output : Path) :
    (output.child indexName).NamesFile :=
  Path.namesFile_child isFileName_indexName output

/- The index is at one place, and declares no module. -/
theorem module_of_mem_indexPlaces
    {place : Place}
    (hPlace : place ∈ generator.indexPlaces output) :
    (FileTree.nameBelow? output.place place).bind moduleOf? =
      none := by
  unfold indexPlaces indexPaths at hPlace
  cases hLanguage : generator.language with
  | go =>
      rw [hLanguage] at hPlace
      cases hPlace
  | rust =>
      rw [hLanguage] at hPlace
      rw [List.mem_singleton.mp hPlace,
        Path.place_child isFileName_indexName,
        FileTree.nameBelow?_append]
      exact moduleOf?_indexName

/- The modules do not depend on the index being there. -/
theorem modulesOf_placesOff
    (generator : Generator)
    (output : Path)
    (tree : FileTree) :
    modulesOf (sorted (tree.namesIn output.place)) =
      sorted
        ((tree.placesOff
          (generator.indexPlaces output)).filterMap
          (fun place =>
            (FileTree.nameBelow? output.place place).bind
              moduleOf?)) := by
  rw [modulesOf_sorted]
  unfold FileTree.namesIn FileTree.placesOff
  rw [List.filterMap_filterMap, List.filterMap_filter]
  congr 2
  funext place
  split
  · rfl
  · next hMem =>
      have hIndex : place ∈ generator.indexPlaces output := by
        simpa using hMem
      exact module_of_mem_indexPlaces hIndex

variable [WriteAccess]

/- Whether the index can be written, where it has to be. -/
def CanIndex
    (generator : Generator)
    (output : Path)
    (files : FileTree) : Prop :=
  generator.language = .rust →
    files.isDirectory output = true ∧
      files.Admits (output.child indexName)

/- Where the index was written, it could be. -/
theorem canIndex_of_ok
    {files last : FileTree}
    {index : List Path}
    (hIndex :
      generator.indexEffect output files = (.ok index, last)) :
    generator.CanIndex output files := by
  rcases indexEffect_eq_ok hIndex with
    ⟨hList, -, outcomes, hJobs⟩
  intro hRust
  refine ⟨hList hRust, ?_⟩
  unfold indexJobs at hJobs
  rw [hRust] at hJobs
  rcases runJobs_cons_eq_ok hJobs with
    ⟨outcome, middle, others, hJob, -⟩
  cases Job.step_of_perform hJob with
  | skipped hKeeps hEntry => cases hKeeps
  | written text hText hAdmits hFree => exact hAdmits

/- Only the directories matter for where it can be written. -/
theorem CanIndex.of_directories
    {first second : FileTree}
    (hFirst : generator.CanIndex output first)
    (hSame :
      ∀ place,
        second.at? place = some .directory ↔
          first.at? place = some .directory) :
    generator.CanIndex output second := by
  intro hRust
  rcases hFirst hRust with ⟨hDirectory, hAdmits⟩
  refine ⟨?_, hAdmits.of_directories hSame⟩
  rw [FileTree.isDirectory_iff, hSame]
  exact (FileTree.isDirectory_iff first output).mp hDirectory

theorem CanIndex.of_follows
    {first second : FileTree}
    (hSecond : generator.CanIndex output second)
    (hFollows : first.Follows second) :
    generator.CanIndex output first :=
  hSecond.of_directories
    (fun place => (hFollows.directory place).symm)

/- The index can be written early, and is all that changes. -/
theorem indexEffect_sameOff
    (hRenders : generator.IndexRenders)
    {files : FileTree}
    (hFiles : generator.CanIndex output files) :
    ∃ last,
      generator.indexEffect output files =
          (.ok (generator.indexPaths output), last) ∧
        files.SameOff (generator.indexPlaces output) last := by
  have hJobs :
      ∃ outcomes last,
        runJobs generator.templates
            (generator.indexJobs output files) files =
          (.ok outcomes, last) ∧
        files.SameOff (generator.indexPlaces output) last := by
    unfold indexJobs indexPlaces indexPaths
    cases hLanguage : generator.language with
    | go => exact ⟨[], files, rfl, FileTree.SameOff.refl files⟩
    | rust =>
        rcases hRenders hLanguage
            (modulesOf (sorted (files.namesIn output.place))) with
          ⟨text, hText⟩
        have hAdmits := (hFiles hLanguage).2
        exact
          ⟨_, _,
            runJobs_singleton
              (Job.perform_of_admits rfl hText hAdmits),
            FileTree.SameOff.of_written hAdmits
              (List.mem_singleton_self _) _⟩
  rcases hJobs with ⟨outcomes, last, hRun, hSame⟩
  have hList : generator.CanList output files :=
    fun hRust => (hFiles hRust).1
  exact ⟨last, indexEffect_of_ok hList hRun, hSame⟩

/-
  The index that is written last makes trees the same that
  differed at the index only.
-/
theorem indexEffect_meets
    {first second last final : FileTree}
    {index others : List Path}
    (hSame :
      first.SameOff (generator.indexPlaces output) second)
    (hFirst :
      generator.indexEffect output first = (.ok index, last))
    (hSecond :
      generator.indexEffect output second =
        (.ok others, final))
    (place : Place) :
    final.at? place = last.at? place := by
  have hModules :
      modulesOf (sorted (second.namesIn output.place)) =
        modulesOf (sorted (first.namesIn output.place)) := by
    rw [generator.modulesOf_placesOff,
      generator.modulesOf_placesOff, hSame.order]
  rcases indexEffect_eq_ok hFirst with ⟨-, -, _, hJobs⟩
  rcases indexEffect_eq_ok hSecond with ⟨-, -, _, hSecondJobs⟩
  rw [generator.indexJobs_eq hModules] at hSecondJobs
  unfold indexPlaces indexPaths at hSame
  unfold indexJobs at hJobs hSecondJobs
  cases hLanguage : generator.language with
  | go =>
      rw [hLanguage] at hSame hJobs hSecondJobs
      have hLast : first = last := congrArg Prod.snd hJobs
      have hFinal : second = final :=
        congrArg Prod.snd hSecondJobs
      rw [← hLast, ← hFinal]
      exact hSame.entry place List.not_mem_nil
  | rust =>
      rw [hLanguage] at hSame hJobs hSecondJobs
      rcases runJobs_cons_eq_ok hJobs with
        ⟨_, middle, _, hJob, hRest⟩
      rcases runJobs_cons_eq_ok hSecondJobs with
        ⟨_, next, _, hSecondJob, hSecondRest⟩
      have hLast : middle = last := congrArg Prod.snd hRest
      have hFinal : next = final :=
        congrArg Prod.snd hSecondRest
      rw [← hLast, ← hFinal]
      have hReplaces :
          (indexJob output
            (sorted (first.namesIn output.place))).replaces =
            true :=
        rfl
      refine
        Job.perform_meets hReplaces ?_ hSame hJob hSecondJob
          place
      intro other hOther
      exact List.mem_singleton.mp hOther

end RamlScaffold.Generator

------------------------------------------------------------
-- Parts Of A Run
------------------------------------------------------------

namespace RamlScaffold.Run

variable {run : Run} {output : Path}

/- The part of a run that is named on the command line. -/
def part (run : Run) (name : String) : Run :=
  { run with scope := Scope.ofNames (some [name]) }

/- No structure and no service has the file of the index. -/
theorem filesOff_index
    (run : Run)
    (output : Path) :
    FilesOff (run.generator.indexPlaces output)
      (run.structureJobs output ++ run.serviceJobs output) := by
  intro job hJob
  have hPlan : run.Plans output job := by
    rcases List.mem_append.mp hJob with hStructure | hService
    · exact Or.inl hStructure
    · exact Or.inr (Or.inl hService)
  refine ⟨hPlan.namesFile, ?_⟩
  intro hMem
  unfold Generator.indexPlaces Generator.indexPaths at hMem
  cases hLanguage : run.generator.language with
  | go =>
      rw [hLanguage] at hMem
      cases hMem
  | rust =>
      rw [hLanguage] at hMem
      exact place_ne_index hJob (List.mem_singleton.mp hMem)

variable [WriteAccess]

/- Services fare the same on trees that differ at the index. -/
theorem services_sameOff
    {first second last : FileTree}
    {reports : List EmitReport}
    (hSame :
      first.SameOff (run.generator.indexPlaces output) second)
    (hServices :
      Effect.all (run.generator.serviceEffect output run.mode)
          run.services first =
        (.ok reports, last)) :
    ∃ final,
      Effect.all (run.generator.serviceEffect output run.mode)
          run.services second =
        (.ok reports, final) ∧
      last.SameOff (run.generator.indexPlaces output) final := by
  refine Effect.all_simulated ?_ hSame hServices
  intro service hService tree other report after hTrees hEffect
  have hJobs :
      FilesOff (run.generator.indexPlaces output)
        (run.generator.serviceJobs output run.mode service) := by
    intro job hJob
    apply run.filesOff_index output
    apply List.mem_append_right
    exact List.mem_flatMap.mpr ⟨service, hService, hJob⟩
  rcases Effect.andThen_eq_ok hEffect with
    ⟨outcomes, middle, hRun, hReport⟩
  rcases runJobs_sameOff hJobs hTrees hRun with
    ⟨next, hNext, hAfter⟩
  rcases Prod.mk.inj hReport with ⟨hValue, rfl⟩
  refine ⟨next, ?_, hAfter⟩
  unfold Generator.serviceEffect
  rw [hNext, Effect.andThen_ok, hValue]

/-
  A run whose structures and services succeed on one tree
  succeeds on every tree that differs at the index only.  It
  writes the index, and leaves trees that differ at the index
  only.
-/
theorem effect_of_sameOff
    (hRenders : run.generator.IndexRenders)
    {files ready first middle after : FileTree}
    (hCreate : files.createAll? output = some ready)
    (hSame :
      first.SameOff (run.generator.indexPlaces output) ready)
    {outcomes : List WriteOutcome}
    (hStructures :
      runJobs run.generator.templates (run.structureJobs output)
          first =
        (.ok outcomes, middle))
    {services : List EmitReport}
    (hServices :
      Effect.all (run.generator.serviceEffect output run.mode)
          run.services middle =
        (.ok services, after))
    (hIndex : run.generator.CanIndex output after) :
    ∃ before last,
      run.effect output files =
          (.ok
            (run.reportOf output services
              (run.generator.indexPaths output)),
            last) ∧
        after.SameOff (run.generator.indexPlaces output) before ∧
        run.generator.indexEffect output before =
          (.ok (run.generator.indexPaths output), last) ∧
        after.SameOff (run.generator.indexPlaces output)
          last := by
  have hOff := run.filesOff_index output
  rcases runJobs_sameOff
      (fun job hJob => hOff job (List.mem_append_left _ hJob))
      hSame hStructures with
    ⟨stage, hStage, hMiddle⟩
  rcases services_sameOff hMiddle hServices with
    ⟨before, hBefore, hAfter⟩
  rcases Generator.indexEffect_sameOff hRenders
      (hIndex.of_directories hAfter.directory) with
    ⟨last, hLast, hSameLast⟩
  exact
    ⟨before, last, effect_of_ok hCreate hStage hBefore hLast,
      hAfter, hLast, hAfter.trans hSameLast⟩

end RamlScaffold.Run

------------------------------------------------------------
-- The Whole In Parts
------------------------------------------------------------

namespace RamlScaffold

/- Three reports that make up one, each with one part of it. -/
structure GenerationReport.IsMadeOf
    (whole first second third : GenerationReport) : Prop where
  types :
    first.types = whole.types ∧
      first.bodies = [] ∧ first.services = []
  bodies :
    second.types = [] ∧
      second.bodies = whole.bodies ∧ second.services = []
  services :
    third.types = [] ∧
      third.bodies = [] ∧ third.services = whole.services

namespace Run

variable {run : Run} {output : Path}

section

variable (hScope : run.scope = Scope.ofNames none)
include hScope

theorem types_part (name : String) :
    (run.part name).types =
      if name = "types" then run.types else [] := by
  by_cases hName : name = "types"
  · simp [types, part, hScope, Scope.ofNames, hName]
  · simp [types, part, Scope.ofNames, hName, Ne.symm hName]

theorem bodies_part (name : String) :
    (run.part name).bodies =
      if name = "bodies" then run.bodies else [] := by
  by_cases hName : name = "bodies"
  · simp [bodies, part, hScope, Scope.ofNames, hName]
  · simp [bodies, part, Scope.ofNames, hName, Ne.symm hName]

theorem services_part (name : String) :
    (run.part name).services =
      if name = "resources" then run.services else [] := by
  by_cases hName : name = "resources"
  · simp [services, part, hScope, Scope.ofNames, hName]
  · simp [services, part, Scope.ofNames, hName, Ne.symm hName]

theorem structureJobs_types :
    (run.part "types").structureJobs output =
      run.types.map (run.generator.structureJob output) := by
  unfold structureJobs
  rw [types_part hScope, bodies_part hScope, if_pos rfl,
    if_neg (by decide), List.append_nil]
  rfl

theorem structureJobs_bodies :
    (run.part "bodies").structureJobs output =
      run.bodies.map (run.generator.structureJob output) := by
  unfold structureJobs
  rw [types_part hScope, bodies_part hScope, if_pos rfl,
    if_neg (by decide), List.nil_append]
  rfl

theorem structureJobs_services :
    (run.part "resources").structureJobs output = [] := by
  unfold structureJobs
  rw [types_part hScope, bodies_part hScope,
    if_neg (by decide), if_neg (by decide)]
  rfl

variable [WriteAccess]

/-
  A whole run that succeeds can be taken in parts, which leave
  the same entries at all places.
-/
theorem effect_in_parts
    (hRenders : run.generator.IndexRenders)
    {files last : FileTree}
    {report : GenerationReport}
    (hRun : run.effect output files = (.ok report, last)) :
    ∃ first one second two third three,
      (run.part "types").effect output files =
          (.ok first, one) ∧
        (run.part "bodies").effect output one =
          (.ok second, two) ∧
        (run.part "resources").effect output two =
          (.ok third, three) ∧
        (∀ place, three.at? place = last.at? place) ∧
        report.IsMadeOf first second third := by
  rcases effect_eq_ok hRun with
    ⟨ready, outcomes, middle, hReady, hStructures, hAfter⟩
  rcases effectAfter_eq_ok hAfter with
    ⟨services, after, index, hServices, hIndex, rfl⟩
  rw [structureJobs, List.map_append] at hStructures
  rcases runJobs_append_eq_ok hStructures with
    ⟨_, stage, _, hTypes, hBodies⟩
  -- The directories are the same all the time.
  rcases services_eq_ok_iff.mp ⟨services, hServices⟩ with
    ⟨_, hServiceJobs⟩
  have hLater := follows_of_runJobs hServiceJobs
  have hBefore := follows_of_runJobs hBodies
  have hAfterIndex := Generator.canIndex_of_ok hIndex
  have hMiddleIndex := hAfterIndex.of_follows hLater
  have hStageIndex := hMiddleIndex.of_follows hBefore
  have hStageReady :=
    (follows_of_runJobs hTypes).isReady
      (FileTree.isReady_of_createAll? hReady)
  have hMiddleReady := hBefore.isReady hStageReady
  -- Each part starts on what the one before has left.
  rw [← structureJobs_types hScope] at hTypes
  rw [← structureJobs_bodies hScope] at hBodies
  have hNoServices
      (name : String)
      (hName : name ≠ "resources")
      (tree : FileTree) :
      Effect.all
          ((run.part name).generator.serviceEffect output
            (run.part name).mode)
          (run.part name).services tree =
        (.ok [], tree) := by
    rw [services_part hScope, if_neg hName]
    rfl
  rcases (run.part "types").effect_of_sameOff hRenders hReady
      (FileTree.SameOff.refl ready) hTypes
      (hNoServices "types" (by decide) stage) hStageIndex with
    ⟨_, one, hFirst, -, -, hOne⟩
  rcases (run.part "bodies").effect_of_sameOff hRenders
      (FileTree.createAll?_of_isReady (hOne.isReady hStageReady))
      hOne hBodies
      (hNoServices "bodies" (by decide) middle) hMiddleIndex with
    ⟨_, two, hSecond, -, -, hTwo⟩
  have hNoStructures :
      runJobs (run.part "resources").generator.templates
          ((run.part "resources").structureJobs output) middle =
        (.ok [], middle) := by
    rw [structureJobs_services hScope]
    rfl
  have hServicesPart :
      Effect.all
          ((run.part "resources").generator.serviceEffect output
            (run.part "resources").mode)
          (run.part "resources").services middle =
        (.ok services, after) := by
    rw [services_part hScope, if_pos rfl]
    exact hServices
  rcases (run.part "resources").effect_of_sameOff hRenders
      (FileTree.createAll?_of_isReady (hTwo.isReady hMiddleReady))
      hTwo hNoStructures hServicesPart hAfterIndex with
    ⟨before, three, hThird, hBeforeLast, hLast, -⟩
  refine
    ⟨_, one, _, two, _, three, hFirst, hSecond, hThird,
      Generator.indexEffect_meets hBeforeLast hIndex hLast, ?_⟩
  refine ⟨⟨?_, ?_, rfl⟩, ⟨?_, ?_, rfl⟩, ?_, ?_, rfl⟩
  · exact (types_part hScope "types").trans (if_pos rfl)
  · exact (bodies_part hScope "types").trans
      (if_neg (by decide))
  · exact (types_part hScope "bodies").trans
      (if_neg (by decide))
  · exact (bodies_part hScope "bodies").trans (if_pos rfl)
  · exact (types_part hScope "resources").trans
      (if_neg (by decide))
  · exact (bodies_part hScope "resources").trans
      (if_neg (by decide))

end

section

variable [WriteAccess]

/-
  A run of all parts that succeeds can be taken as three runs
  of one part each.  They succeed, every place has what it has
  after the whole run, and their reports make up its report.
  In Rust the index has to be the built-in one, or another
  that can be rendered for any modules.
-/
theorem parts_make_the_whole
    {start after : Workspace}
    {report : GenerationReport}
    (hScope : run.scope = Scope.ofNames none)
    (hIndex :
      Keyed.get? Artefact.index.templateName
            run.generator.templates =
          some
            (Rendering.builtin Template.Builtin.rustIndex) ∨
        run.generator.IndexRenders)
    (hRun :
      (run.action output).run.run start = (.ok report, after)) :
    ∃ first one second two third three,
      ((run.part "types").action output).run.run start =
          (.ok first, one) ∧
        ((run.part "bodies").action output).run.run one =
          (.ok second, two) ∧
        ((run.part "resources").action output).run.run two =
          (.ok third, three) ∧
        (∀ place,
          three.files.at? place = after.files.at? place) ∧
        report.IsMadeOf first second third := by
  have hRenders : run.generator.IndexRenders := by
    rcases hIndex with hBuiltin | hRenders
    · exact Generator.indexRenders_of_builtin hBuiltin
    · exact hRenders
  rcases effect_in_parts hScope hRenders (effect_of_action hRun)
    with
    ⟨first, one, second, two, third, three, hFirst, hSecond,
      hThird, hPlaces, hReports⟩
  rcases (run.part "types").run_action output start with
    ⟨events, hTypes⟩
  rw [hFirst] at hTypes
  rcases (run.part "bodies").run_action output ⟨one, events⟩ with
    ⟨moreEvents, hBodies⟩
  rw [hSecond] at hBodies
  rcases (run.part "resources").run_action output
      ⟨two, moreEvents⟩ with
    ⟨allEvents, hServices⟩
  rw [hThird] at hServices
  exact
    ⟨first, ⟨one, events⟩, second, ⟨two, moreEvents⟩, third,
      ⟨three, allEvents⟩, hTypes, hBodies, hServices, hPlaces,
      hReports⟩

/-
  A run succeeds if its structures and services do, in a
  directory where its index can be written.
-/
theorem effect_ok_of_jobs
    (hRenders : run.generator.IndexRenders)
    {files : FileTree}
    (hReady : files.IsReady output)
    (hIndex : run.generator.CanIndex output files)
    (hJobs :
      (runJobs run.generator.templates
        (run.structureJobs output ++ run.serviceJobs output)
        files).1.isOk = true) :
    ∃ report last,
      run.effect output files = (.ok report, last) := by
  rcases hRun :
      runJobs run.generator.templates
        (run.structureJobs output ++ run.serviceJobs output)
        files with
    ⟨failure | outcomes, after⟩
  · rw [hRun] at hJobs
    cases hJobs
  · rcases runJobs_append_eq_ok hRun with
      ⟨_, middle, _, hStructures, hServiceJobs⟩
    rcases services_eq_ok_iff.mpr ⟨_, hServiceJobs⟩ with
      ⟨services, hServices⟩
    rcases effect_of_sameOff hRenders
        (FileTree.createAll?_of_isReady hReady)
        (FileTree.SameOff.refl files) hStructures hServices
        (hIndex.of_directories
          (follows_of_runJobs hRun).directory) with
      ⟨-, last, hEffect, -⟩
    exact ⟨_, last, hEffect⟩

end

/- The small run, with the built-in index of modules. -/
def indexedRun : Run :=
  { usersRun .rust "stub" with
    generator :=
      ⟨.rust, "api",
        (Templates.plain "stub").insert
          Artefact.index.templateName
          (Rendering.builtin Template.Builtin.rustIndex)⟩ }

/- The small run with the built-in index succeeds. -/
theorem indexedRun_succeeds :
    ∃ report after,
      (indexedRun.action ⟨"gen"⟩).run.run usersWorkspace =
        (.ok report, after) := by
  have hRenders : indexedRun.generator.IndexRenders :=
    Generator.indexRenders_of_builtin rfl
  have hIndex :
      indexedRun.generator.CanIndex ⟨"gen"⟩
        usersWorkspace.files :=
    fun _ =>
      ⟨by decide, Generator.namesFile_index _, by decide +kernel,
        by decide +kernel, rfl⟩
  have hReady :
      usersWorkspace.files.IsReady ⟨"gen"⟩ := by
    unfold FileTree.IsReady
    decide +kernel
  rcases effect_ok_of_jobs hRenders hReady hIndex
      (by decide +kernel) with
    ⟨report, last, hEffect⟩
  rcases indexedRun.run_action ⟨"gen"⟩ usersWorkspace with
    ⟨events, hAction⟩
  rw [hEffect] at hAction
  exact ⟨report, ⟨last, events⟩, hAction⟩

/- A type of the small run has the file of its stub. -/
theorem indexedRun_in_parts :
    ∃ report after first one second two third three,
      (indexedRun.action ⟨"gen"⟩).run.run usersWorkspace =
          (.ok report, after) ∧
        ((indexedRun.part "types").action ⟨"gen"⟩).run.run
            usersWorkspace =
          (.ok first, one) ∧
        ((indexedRun.part "bodies").action ⟨"gen"⟩).run.run one =
          (.ok second, two) ∧
        ((indexedRun.part "resources").action ⟨"gen"⟩).run.run
            two =
          (.ok third, three) ∧
        (∀ place,
          three.files.at? place = after.files.at? place) ∧
        report.IsMadeOf first second third := by
  rcases indexedRun_succeeds with ⟨report, after, hRun⟩
  rcases parts_make_the_whole rfl (Or.inl rfl) hRun with
    ⟨first, one, second, two, third, three, hParts⟩
  exact
    ⟨report, after, first, one, second, two, third, three, hRun,
      hParts⟩

end Run

end RamlScaffold
