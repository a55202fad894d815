import RamlScaffold.Proofs.Generation.Parts
import RamlScaffold.Proofs.Generation.Report
import RamlScaffold.Proofs.Language.ModuleNames

/-
  What the index of modules lists after a run.

  The index is written last.  It has a line for every Rust
  file in the directory, whoever wrote it, so it has one for
  every file of the run.  No two files of one directory have
  the same name, and a run keeps it that way.

  Main declarations:
    * `FileTree.IsKeyed`, `Run.isKeyed_effect`
    * `FileTree.ListsModules`
    * `FileTree.listsModules_modulesOf`
    * `Run.Plans.rustFile`
    * `Api.IsAscii`
    * `Run.index_lists_modules`
-/

------------------------------------------------------------
-- One Entry Per Place
------------------------------------------------------------

namespace RamlScaffold

namespace FileTree

/- Whether every place has one entry at most. -/
def IsKeyed (tree : FileTree) : Prop :=
  (tree.map Prod.fst).Nodup

instance (tree : FileTree) : Decidable (IsKeyed tree) := by
  unfold IsKeyed
  infer_instance

theorem IsKeyed.set
    {tree : FileTree}
    (hKeyed : tree.IsKeyed)
    (place : Place)
    (entry : FileEntry) :
    (tree.set place entry).IsKeyed := by
  unfold IsKeyed at hKeyed ⊢
  rw [map_fst_set]
  split
  · exact hKeyed
  · next hNew =>
      rw [List.nodup_append]
      refine ⟨hKeyed, by simp, ?_⟩
      intro key hKey other hOther hSame
      rw [List.mem_singleton] at hOther
      rw [hSame, hOther] at hKey
      exact hNew hKey

theorem IsKeyed.foldl_addDirectory
    (places : List Place)
    {tree : FileTree}
    (hKeyed : tree.IsKeyed) :
    (places.foldl addDirectory tree).IsKeyed := by
  induction places generalizing tree with
  | nil => exact hKeyed
  | cons place places ih =>
      apply ih
      unfold addDirectory
      split
      · exact hKeyed.set place .directory
      · exact hKeyed

end FileTree

variable [WriteAccess]

/- A job leaves one entry at most at every place. -/
theorem Job.Step.isKeyed
    {templates : Templates}
    {job : Job}
    {tree : FileTree}
    {effect : Effect WriteOutcome}
    (hStep : job.Step templates tree effect)
    (hKeyed : tree.IsKeyed) :
    effect.2.IsKeyed := by
  cases hStep with
  | failed failure => exact hKeyed
  | skipped hKeeps hEntry => exact hKeyed
  | written text hText hAdmits hFree => exact hKeyed.set _ _

/- A run leaves one entry at most at every place. -/
theorem Run.isKeyed_effect
    (run : Run)
    (output : Path)
    {files : FileTree}
    (hKeyed : files.IsKeyed) :
    (run.effect output files).2.IsKeyed := by
  refine
    files_effect
      (R := fun first last => first.IsKeyed → last.IsKeyed)
      ?_ ?_ ?_ ?_ hKeyed
  · exact fun tree hTree => hTree
  · exact fun hFirst hSecond hTree => hSecond (hFirst hTree)
  · intro ready hReady hTree
    rw [(FileTree.createAll?_eq_some_iff.mp hReady).2]
    exact hTree.foldl_addDirectory _
  · exact fun job hJob tree effect hStep hTree =>
      hStep.isKeyed hTree

end RamlScaffold

------------------------------------------------------------
-- Modules Of A Directory
------------------------------------------------------------

namespace RamlScaffold

namespace FileTree

theorem nameBelow?_eq_some_iff
    (place other : Place)
    (name : String) :
    nameBelow? place other = some name ↔
      other = place ++ [name] := by
  constructor
  · intro hName
    unfold nameBelow? at hName
    cases hLast : other.getLast? with
    | none =>
        rw [hLast] at hName
        cases hName
    | some last =>
        rw [hLast] at hName
        rcases List.getLast?_eq_some_iff.mp hLast with
          ⟨front, rfl⟩
        simp only [List.dropLast_concat] at hName
        split at hName
        · next hPlace =>
            rw [hPlace, Option.some.inj hName]
        · cases hName
  · rintro rfl
    exact nameBelow?_append place name

theorem mem_namesIn_iff
    (tree : FileTree)
    (place : Place)
    (name : String) :
    name ∈ tree.namesIn place ↔
      place ++ [name] ∈ tree.map Prod.fst := by
  unfold namesIn
  rw [List.mem_filterMap]
  constructor
  · rintro ⟨other, hOther, hName⟩
    rw [← (nameBelow?_eq_some_iff place other name).mp hName]
    exact hOther
  · intro hPlace
    exact ⟨_, hPlace, nameBelow?_append place name⟩

/- The names in a directory are different. -/
theorem nodup_namesIn
    {tree : FileTree}
    (hKeyed : tree.IsKeyed)
    (place : Place) :
    (tree.namesIn place).Nodup := by
  unfold namesIn
  refine List.Pairwise.filterMap _ ?_ hKeyed
  intro first second hOther name hFirst last hSecond hSame
  rw [nameBelow?_eq_some_iff] at hFirst hSecond
  rw [hFirst, hSecond, hSame] at hOther
  exact hOther rfl

end FileTree

/- The index is the one file with its stem and extension. -/
theorem moduleOf?_eq_some_iff
    (name stem : String) :
    moduleOf? name = some stem ↔
      extensionOf? name = some "rs" ∧
        name ≠ indexName ∧
        stemOf name = stem := by
  have hIndex (hRust : extensionOf? name = some "rs") :
      stemOf name = "mod" ↔ name = indexName := by
    constructor
    · intro hStem
      rw [name_of_extensionOf? hRust, hStem]
      rfl
    · rintro rfl
      decide
  unfold moduleOf?
  constructor
  · intro hModule
    split at hModule
    · next hCases =>
        refine ⟨hCases.1, ?_, Option.some.inj hModule⟩
        rw [ne_eq, ← hIndex hCases.1]
        exact hCases.2
    · cases hModule
  · rintro ⟨hRust, hOther, hStem⟩
    rw [ne_eq, ← hIndex hRust] at hOther
    rw [if_pos ⟨hRust, hOther⟩, hStem]

namespace FileTree

/-
  Whether a list tells the modules of a directory: in strictly
  ascending order, one for each entry with the extension of
  Rust files, apart from the index.
-/
structure ListsModules
    (tree : FileTree)
    (place : Place)
    (modules : List String) : Prop where
  ascending : modules.Pairwise (fun a b => a < b)
  complete :
    ∀ stem,
      stem ∈ modules ↔
        ∃ name,
          tree.at? (place ++ [name]) ≠ none ∧
            extensionOf? name = some "rs" ∧
            name ≠ indexName ∧
            stemOf name = stem

theorem at?_ne_none_iff
    {place : Place}
    (hStart : ¬ IsStart place)
    (tree : FileTree) :
    tree.at? place ≠ none ↔ place ∈ tree.map Prod.fst := by
  rw [at?_of_not_isStart hStart, ne_eq,
    List.lookup_eq_none_iff]
  simp

/- A file with an extension is no starting point. -/
theorem not_isStart_of_extensionOf?
    {name extension : String}
    (hName : extensionOf? name = some extension)
    (place : Place) :
    ¬ IsStart (place ++ [name]) := by
  rintro (hEmpty | hRoot)
  · simp at hEmpty
  · have hLast : name = "/" := by
      have hSame := congrArg List.getLast? hRoot
      simpa using hSame
    rw [hLast] at hName
    cases hName

/- The modules of a directory are those of its names. -/
theorem listsModules_modulesOf
    {tree : FileTree}
    (hKeyed : tree.IsKeyed)
    (place : Place) :
    tree.ListsModules place
      (modulesOf (sorted (tree.namesIn place))) := by
  rw [modulesOf_sorted]
  have hDistinct :
      (sorted ((tree.namesIn place).filterMap
        moduleOf?)).Nodup := by
    rw [(sorted_perm _).nodup_iff]
    refine
      List.Pairwise.filterMap _ ?_ (nodup_namesIn hKeyed place)
    intro first second hOther stem hFirst last hSecond hSame
    rw [moduleOf?_eq_some_iff] at hFirst hSecond
    apply hOther
    rw [name_of_extensionOf? hFirst.1,
      name_of_extensionOf? hSecond.1, hFirst.2.2, hSecond.2.2,
      hSame]
  refine ⟨?_, ?_⟩
  · refine List.Pairwise.imp₂ ?_ (pairwise_sorted _) hDistinct
    intro first second hLe hNe
    exact Std.lt_of_le_of_ne hLe hNe
  · intro stem
    rw [(sorted_perm _).mem_iff, List.mem_filterMap]
    constructor
    · rintro ⟨name, hName, hModule⟩
      rw [moduleOf?_eq_some_iff] at hModule
      refine ⟨name, ?_, hModule⟩
      rw [at?_ne_none_iff
        (not_isStart_of_extensionOf? hModule.1 place)]
      exact (mem_namesIn_iff tree place name).mp hName
    · rintro ⟨name, hEntry, hModule⟩
      rw [at?_ne_none_iff
        (not_isStart_of_extensionOf? hModule.1 place)] at hEntry
      exact
        ⟨name, (mem_namesIn_iff tree place name).mpr hEntry,
          (moduleOf?_eq_some_iff name stem).mpr hModule⟩

end FileTree

end RamlScaffold

------------------------------------------------------------
-- Files That Are Modules
------------------------------------------------------------

namespace RamlScaffold

namespace Run

variable {run : Run} {output : Path} {job : Job}

/- The planned files have the extension of Rust files. -/
theorem Plans.rustFile
    (hRust : run.generator.language = .rust)
    (hPlan : run.Plans output job) :
    ∃ name,
      IsFileName name ∧
        job.path = output.child name ∧
        extensionOf? name = some "rs" := by
  rcases hPlan with hStructure | hAfter
  · rcases List.mem_map.mp hStructure with
      ⟨struct, hStruct, rfl⟩
    refine
      ⟨_, Language.isFileName_structureFileName _
        (signFree_structure hStruct), rfl, ?_⟩
    rw [hRust, extensionOf?,
      Language.splitName_structureFileName]
  · rcases hAfter.cases with
      ⟨service, hService, hJob⟩ | ⟨-, names, rfl⟩
    · have hFile
          {artefact : String}
          (hArtefact : Naming.SignFree artefact) :
          ∃ name,
            IsFileName name ∧
              run.generator.servicePath output service artefact =
                output.child name ∧
              extensionOf? name = some "rs" := by
        refine
          ⟨_, Language.isFileName_resourceFileName _
            (signFree_service hService) hArtefact, rfl, ?_⟩
        rw [hRust, extensionOf?,
          Language.splitName_resourceFileName]
      rcases hJob with rfl | rfl | rfl
      · exact hFile (by decide)
      · exact hFile (by decide)
      · exact hFile (by decide)
    · exact ⟨indexName, isFileName_indexName, rfl, by decide⟩

variable [WriteAccess]

/-
  Every file of a run that succeeds is among the modules of
  its directory, apart from the index.
-/
theorem stem_mem_modules
    (hRust : run.generator.language = .rust)
    {files last tree : FileTree}
    {outcomes : List WriteOutcome}
    (hJobs :
      runJobs run.generator.templates (run.jobs output files)
          tree =
        (.ok outcomes, last))
    {modules : List String}
    (hModules : last.ListsModules output.place modules)
    (hJob : job ∈ run.jobs output files)
    (hOther : job.path ≠ output.child indexName) :
    ∃ name,
      IsFileName name ∧
        job.path = output.child name ∧
        stemOf name ∈ modules := by
  have hPlan := plans_of_mem_jobs hJob
  rcases hPlan.rustFile hRust with
    ⟨name, hName, hPath, hExtension⟩
  refine ⟨name, hName, hPath, ?_⟩
  have hEntry := entry_of_mem_runJobs hJob hPlan.namesFile hJobs
  rw [hPath, Path.place_child hName] at hEntry
  refine
    (hModules.complete _).mpr ⟨name, hEntry, hExtension, ?_, rfl⟩
  rintro rfl
  exact hOther hPath

end Run

end RamlScaffold

------------------------------------------------------------
-- Structures Of ASCII Definitions
------------------------------------------------------------

namespace RamlScaffold

/-
  Whether the names of the catalog, and the paths of all
  methods, are ASCII.
-/
structure Api.IsAscii (api : Api) : Prop where
  names : ∀ entry ∈ api.types, Alphabet.IsAsciiText entry.1
  paths :
    ∀ placed ∈ api.resources.flatMap (Resource.placedMethods ""),
      Alphabet.IsAsciiText placed.1

theorem Verb.isAlphanum_title (verb : Verb) :
    ∀ c ∈ verb.title.toList, c.isAlphanum = true := by
  apply Alphabet.forall_mem_of_all
  cases verb <;> decide

theorem Direction.isAlphanum_ending (direction : Direction) :
    ∀ c ∈ direction.ending.toList, c.isAlphanum = true := by
  apply Alphabet.forall_mem_of_all
  cases direction <;> decide

namespace Run

variable {run : Run}

/- The structures of an ASCII definition are exported. -/
theorem isExported_structure
    (hAscii : run.api.IsAscii)
    {struct : Structure}
    (hStruct : struct ∈ run.types ++ run.bodies) :
    Naming.IsExported struct.name := by
  rcases List.mem_append.mp hStruct with hType | hBody
  · unfold types at hType
    split at hType
    · rcases List.mem_map.mp hType with ⟨entry, hEntry, rfl⟩
      have hName :
          (run.generator.typeStructure entry).name =
            Naming.typeIdentifier entry.1 :=
        Structure.ofDecl_name ..
      rw [hName]
      exact Naming.isExported_normalize
        (hAscii.names entry hEntry)
    · cases hType
  · unfold bodies at hBody
    split at hBody
    · rcases Api.placed_of_mem_bodyStructures hBody with
        ⟨placed, hPlaced, direction, hName⟩
      rw [hName]
      exact
        ((Naming.isExported_normalize
              (hAscii.paths placed hPlaced)).append
            placed.2.verb.isAlphanum_title).append
          direction.isAlphanum_ending
    · cases hBody

end Run

end RamlScaffold

------------------------------------------------------------
-- The Index After A Run
------------------------------------------------------------

namespace RamlScaffold

/- The line that declares a module. -/
def declarationLine (name : String) : String :=
  "pub mod " ++ name ++ ";\n"

/- The line that hands on what a module has. -/
def useLine (name : String) : String :=
  "pub use " ++ name ++ "::*;\n"

/- What the built-in index says of modules. -/
def indexText (modules : List String) : String :=
  "// Code generated by ramlgen. DO NOT EDIT.\n" ++ "\n" ++
    String.join (modules.map declarationLine) ++
    "\n" ++
    String.join (modules.map useLine)

theorem renderText_index
    {templates : Templates}
    (hBuiltin :
      Keyed.get? Artefact.index.templateName templates =
        some (Rendering.builtin Template.Builtin.rustIndex))
    (modules : List String) :
    templates.renderText Artefact.index.templateName
        (moduleContext modules) =
      .ok (indexText modules) :=
  Templates.renderText_of_ok hBuiltin
    (Template.Builtin.render_rustIndex modules)

namespace Run

variable {run : Run} {output : Path}

section

variable [WriteAccess]

/- The index of a run lists the modules of its directory. -/
theorem index_of_jobs
    (hRust : run.generator.language = .rust)
    {files last tree : FileTree}
    {outcomes : List WriteOutcome}
    (hJobs :
      runJobs run.generator.templates (run.jobs output files)
          tree =
        (.ok outcomes, last)) :
    ∃ text,
      run.generator.templates.renderText
          Artefact.index.templateName
          (moduleContext
            (modulesOf (sorted (files.namesIn output.place)))) =
        .ok text ∧
        last.readText? (output.child indexName) = some text := by
  have hIndex :
      run.generator.indexJobs output files =
        [Generator.indexJob output
          (sorted (files.namesIn output.place))] := by
    unfold Generator.indexJobs
    rw [hRust]
  unfold jobs at hJobs
  rw [hIndex] at hJobs
  have hLast (other : Job) (hOther : other ∈ []) :
      other.replaces = true →
        other.path.place ≠
          (Generator.indexJob output
            (sorted (files.namesIn output.place))).path.place :=
    (List.not_mem_nil hOther).elim
  rcases file_runJobs_replaced rfl hLast hJobs with
    ⟨text, hText, hFile⟩
  exact
    ⟨text, hText,
      FileTree.readText?_of_file
        (Path.namesFile_child isFileName_indexName output)
        hFile⟩

/-
  The index after a Rust run that succeeds.

  It is the rendering of a list of modules, and with the
  built-in template it declares and uses each of them on a
  line.  The list is strictly ascending and has the stems of
  the Rust files of the directory, those of the run among
  them.  The modules of structures are no reserved words, and
  plain words if the definition is ASCII.
-/
theorem index_lists_modules
    {start after : Workspace}
    {report : GenerationReport}
    (hRust : run.generator.language = .rust)
    (hKeyed : start.files.IsKeyed)
    (hRun :
      (run.action output).run.run start = (.ok report, after)) :
    ∃ modules text,
      after.files.readText? (output.child indexName) =
          some text ∧
        run.generator.templates.renderText
            Artefact.index.templateName
            (moduleContext modules) =
          .ok text ∧
        (Keyed.get? Artefact.index.templateName
              run.generator.templates =
            some
              (Rendering.builtin Template.Builtin.rustIndex) →
          text = indexText modules) ∧
        after.files.ListsModules output.place modules ∧
        (∀ path ∈ report.written,
          path ≠ output.child indexName →
            ∃ name,
              IsFileName name ∧
                path = output.child name ∧
                stemOf name ∈ modules) ∧
        (∀ struct ∈ report.types ++ report.bodies,
          stemOf (Language.rust.structureFileName struct.name) ≠
              "mod" ∧
            stemOf
                (Language.rust.structureFileName struct.name) ∉
              Language.keywords ++ Language.nonRawKeywords) ∧
        (run.api.IsAscii →
          ∀ struct ∈ report.types ++ report.bodies,
            Naming.IsModuleWord
              (stemOf
                (Language.rust.structureFileName
                  struct.name))) := by
  have hEffect := effect_of_action hRun
  rcases jobs_of_effect hEffect with
    ⟨_, middle, _, services, -, hJobs, -, hModules, -, -,
      hReport⟩
  rcases index_of_jobs hRust hJobs with ⟨text, hText, hFile⟩
  have hLastKeyed : after.files.IsKeyed := by
    have hKept := run.isKeyed_effect output hKeyed
    rw [hEffect] at hKept
    exact hKept
  have hLists :=
    FileTree.listsModules_modulesOf hLastKeyed output.place
  rw [hModules] at hLists
  have hStem (struct : Structure) :
      stemOf (Language.rust.structureFileName struct.name) =
        Language.moduleName (Naming.snakeCase struct.name) := by
    rw [stemOf, Language.splitName_structureFileName]
  refine
    ⟨_, text, hFile, hText, ?_, hLists, ?_, ?_, ?_⟩
  · intro hBuiltin
    rw [renderText_index hBuiltin] at hText
    exact (Except.ok.inj hText).symm
  · intro path hPath hOther
    rcases written_of_effect hEffect with
      ⟨_, _, _, _, last, outcomes, -, -, -, -, hAllJobs, hWritten⟩
    rw [hWritten] at hPath
    rcases List.mem_map.mp hPath with ⟨job, hWriter, rfl⟩
    exact stem_mem_modules hRust hAllJobs hLists
      ((writers_sublist _ _).subset hWriter) hOther
  · intro struct _
    rw [hStem]
    exact
      ⟨Language.moduleName_ne_mod _,
        Language.moduleName_not_reserved _⟩
  · intro hAscii struct hStruct
    rw [hReport] at hStruct
    rw [hStem]
    exact Language.isModuleWord_moduleName
      (Naming.isModuleWord_snakeCase
        (isExported_structure hAscii hStruct))

end

/-
  The small run finds its definition to be ASCII, and so its
  structures become plain modules.
-/
theorem indexedRun_lists_modules :
    ∃ report after modules,
      (indexedRun.action ⟨"gen"⟩).run.run usersWorkspace =
          (.ok report, after) ∧
        after.files.readText? (Path.child ⟨"gen"⟩ indexName) =
          some (indexText modules) ∧
        after.files.ListsModules ["gen"] modules ∧
        ∀ struct ∈ report.types ++ report.bodies,
          Naming.IsModuleWord
            (stemOf
              (Language.rust.structureFileName
                struct.name)) := by
  rcases indexedRun_succeeds with ⟨report, after, hRun⟩
  have hKeyed : usersWorkspace.files.IsKeyed := by
    decide
  have hAscii : indexedRun.api.IsAscii :=
    ⟨by decide, by decide⟩
  rcases index_lists_modules rfl hKeyed hRun with
    ⟨modules, text, hFile, -, hText, hLists, -, -, hPlain⟩
  rw [hText rfl] at hFile
  exact
    ⟨report, after, modules, hRun, hFile, hLists,
      hPlain hAscii⟩

end Run

end RamlScaffold
