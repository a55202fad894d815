import RamlScaffold.Libraries
import RamlScaffold.Proofs.Generation.Overrides
import RamlScaffold.Proofs.Generation.Run

/-
  Which runs are refused before the first file is written.
  What documents, patterns and templates are is left to the
  languages that they are written in.

  A run looks at its definition and at its templates before it
  makes its directory.  A run that is not refused ends like
  the generation itself, and what becomes of the formatter
  changes nothing about that.

  Main declarations:
    * `Api.loaded`, `Api.yields_load`
    * `IsRefused`, `not_isRefused_iff`
    * `run_formatLeniently`, `result_generateFromSpec`
    * `yields_of_isRefused`
    * `refused_or_generated`
-/

------------------------------------------------------------
-- The Definition
------------------------------------------------------------

namespace RamlScaffold.Api

open RamlScaffold.Action

variable [DocumentLanguage] [PatternLanguage]

/- The definition in a file, or why there is none. -/
def loaded
    (files : FileTree)
    (path : Path) : Except Failure Api :=
  match files.readText? path with
  | none => .error (.specUnreadable path)
  | some text =>
      match Api.parse text with
      | .ok api => .ok api
      | .error fault => .error (.specInvalid path fault)

theorem loaded_eq_ok_iff
    (files : FileTree)
    (path : Path)
    (api : Api) :
    loaded files path = .ok api ↔
      ∃ text root,
        files.readText? path = some text ∧
          DocumentLanguage.read? text = some root ∧
            Api.ofValue root = .ok api := by
  unfold loaded Api.parse
  cases files.readText? path with
  | none => simp
  | some text =>
      cases hRoot : DocumentLanguage.read? text with
      | none => simp [hRoot]
      | some root =>
          cases hApi : Api.ofValue root with
          | error fault => simp [hRoot, hApi]
          | ok other => simp [hRoot, hApi]

theorem yields_load
    (path : Path)
    (files : FileTree) :
    Yields (load path) files (loaded files path, files) := by
  have hRead :=
    yields_readFile path (.specUnreadable path) files
  unfold load loaded
  cases hText : files.readText? path with
  | none =>
      rw [hText] at hRead
      exact hRead.fail _
  | some text =>
      rw [hText] at hRead
      refine hRead.pass ?_
      dsimp only
      cases Api.parse text with
      | ok api => exact yields_pure api files
      | error fault => exact yields_throw _ files

end RamlScaffold.Api

------------------------------------------------------------
-- Refusals
------------------------------------------------------------

namespace RamlScaffold

variable [DocumentLanguage] [PatternLanguage]
variable [TemplateLanguage]

/-
  Why a run is refused: its definition cannot be read, is not
  YAML or describes no API, or the directory of templates is
  missing, or a file in it that replaces a template cannot be
  read or is malformed.
-/
inductive IsRefused
    (files : FileTree)
    (spec : Path)
    (options : Options) : Prop where
  | specUnreadable
      (hText : files.readText? spec = none)
  | specNotYaml
      (text : String)
      (hText : files.readText? spec = some text)
      (hRoot : DocumentLanguage.read? text = none)
  | specRejected
      (text : String)
      (root : Yaml.Value)
      (fault : DocumentFault)
      (hText : files.readText? spec = some text)
      (hRoot : DocumentLanguage.read? text = some root)
      (hFault : Api.ofValue root = .error fault)
  | templatesMissing
      (directory : Path)
      (hTemplates : options.templates = some directory)
      (hDirectory : files.isDirectory directory = false)
  | templateUnreadable
      (directory : Path)
      (artefact : Artefact)
      (hTemplates : options.templates = some directory)
      (hFile :
        files.isFile
          (TemplateSet.overridePath directory options.language
            artefact))
      (hText :
        files.readText?
            (TemplateSet.overridePath directory options.language
              artefact) =
          none)
  | templateMalformed
      (directory : Path)
      (artefact : Artefact)
      (text : String)
      (hTemplates : options.templates = some directory)
      (hFile :
        files.isFile
          (TemplateSet.overridePath directory options.language
            artefact))
      (hText :
        files.readText?
            (TemplateSet.overridePath directory options.language
              artefact) =
          some text)
      (hTemplate : TemplateLanguage.compiles text = false)

theorem not_isRefused_iff
    (files : FileTree)
    (spec : Path)
    (options : Options) :
    ¬IsRefused files spec options ↔
      (∃ api, Api.loaded files spec = .ok api) ∧
        ∃ generator,
          (TemplateSet.asked files options >>=
              Generator.build options.language options.package) =
            .ok generator := by
  rw [TemplateSet.exists_build_iff]
  constructor
  · intro hTaken
    refine ⟨?_, ?_⟩
    · simp only [Api.loaded_eq_ok_iff]
      cases hText : files.readText? spec with
      | none => exact absurd (.specUnreadable hText) hTaken
      | some text =>
          cases hRoot : DocumentLanguage.read? text with
          | none =>
              exact absurd (.specNotYaml text hText hRoot) hTaken
          | some root =>
              cases hApi : Api.ofValue root with
              | error fault =>
                  exact
                    absurd
                      (.specRejected text root fault hText hRoot
                        hApi)
                      hTaken
              | ok api =>
                  exact ⟨api, text, root, rfl, hRoot, hApi⟩
    · intro directory hTemplates
      refine ⟨?_, ?_⟩
      · cases hDirectory : files.isDirectory directory with
        | true => rfl
        | false =>
            exact
              absurd
                (.templatesMissing directory hTemplates
                  hDirectory)
                hTaken
      · intro artefact hFile
        cases hText :
            files.readText?
              (TemplateSet.overridePath directory
                options.language artefact) with
        | none =>
            exact
              absurd
                (.templateUnreadable directory artefact
                  hTemplates hFile hText)
                hTaken
        | some text =>
            cases hTemplate : TemplateLanguage.compiles text with
            | false =>
                exact
                  absurd
                    (.templateMalformed directory artefact text
                      hTemplates hFile hText hTemplate)
                    hTaken
            | true => exact ⟨text, hText, hTemplate⟩
  · rintro ⟨⟨api, hApi⟩, hOffered⟩ hRefused
    rcases (Api.loaded_eq_ok_iff files spec api).mp hApi with
      ⟨given, tree, hGiven, hTree, hOfValue⟩
    cases hRefused with
    | specUnreadable hText =>
        cases hText.symm.trans hGiven
    | specNotYaml text hText hRoot =>
        cases hText.symm.trans hGiven
        cases hRoot.symm.trans hTree
    | specRejected text root fault hText hRoot hFault =>
        cases hText.symm.trans hGiven
        cases hRoot.symm.trans hTree
        cases hFault.symm.trans hOfValue
    | templatesMissing directory hTemplates hDirectory =>
        have hIs := (hOffered directory hTemplates).1
        cases hDirectory.symm.trans hIs
    | templateUnreadable directory artefact hTemplates hFile
        hText =>
        rcases (hOffered directory hTemplates).2 artefact hFile
          with ⟨text, hRead, -⟩
        cases hText.symm.trans hRead
    | templateMalformed directory artefact text hTemplates hFile
        hText hTemplate =>
        rcases (hOffered directory hTemplates).2 artefact hFile
          with ⟨other, hRead, hOffer⟩
        cases hText.symm.trans hRead
        cases hTemplate.symm.trans hOffer

end RamlScaffold

------------------------------------------------------------
-- Runs That Are Not Refused
------------------------------------------------------------

namespace RamlScaffold

section

/- A failure that is reported is no failure any more. -/
theorem Action.run_tryCatch_report
    (action : Action Unit)
    (event : Failure → Event)
    (workspace : Workspace) :
    ∃ after,
      (tryCatch action
            (fun failure => Action.report (event failure))).run.run
          workspace =
        (.ok (), after) := by
  rw [ExceptT.run_tryCatch, StateT.run_bind]
  rcases action.run.run workspace with ⟨failure | value, after⟩
  · exact ⟨_, rfl⟩
  · exact ⟨after, rfl⟩

theorem run_formatLeniently
    (tools : Tools)
    (options : Options)
    (workspace : Workspace) :
    ∃ after,
      (formatLeniently tools options).run.run workspace =
        (.ok (), after) :=
  Action.run_tryCatch_report _ _ workspace

variable [DocumentLanguage] [PatternLanguage]
variable [TemplateLanguage] [WriteAccess]

/-
  A run that has its definition and its templates ends like
  the generation, whatever becomes of the formatter.
-/
theorem result_generateFromSpec
    (tools : Tools)
    (options : Options)
    {spec : Path}
    {workspace : Workspace}
    {api : Api}
    {generator : Generator}
    (hApi : Api.loaded workspace.files spec = .ok api)
    (hGenerator :
      (TemplateSet.asked workspace.files options >>=
          Generator.build options.language options.package) =
        .ok generator) :
    ((generateFromSpec tools spec options).run.run
        workspace).1 =
      ((generator.generateAll options.output options.mode
          options.scope api).run.run workspace).1 := by
  let run : Run := ⟨generator, options.mode, options.scope, api⟩
  have hLoad := Api.yields_load spec workspace.files
  rw [hApi] at hLoad
  have hBuild :=
    TemplateSet.yields_ofOptions options workspace.files
  rw [hGenerator] at hBuild
  have hStart := Action.yields_report (startEvent options api)
  -- The generation starts with the files as they were.
  rcases hLoad workspace.events with ⟨loaded, hLoaded⟩
  rcases hBuild loaded with ⟨built, hBuilt⟩
  rcases hStart workspace.files built with ⟨started, hStarted⟩
  rcases run.run_action options.output
      ⟨workspace.files, started⟩ with
    ⟨reported, hAction⟩
  rcases run.run_action options.output workspace with
    ⟨direct, hDirect⟩
  have hAlone := congrArg Prod.fst hDirect
  unfold Run.action at hAction hAlone
  rw [hAlone]
  unfold generateFromSpec
  rw [Action.run_bind, hLoaded]
  dsimp only
  rw [Action.run_bind, hBuilt]
  dsimp only
  rw [Action.run_bind, hStarted]
  dsimp only
  rw [Action.run_bind, hAction]
  rcases run.effect options.output workspace.files with
    ⟨failure | report, after⟩
  · rfl
  · dsimp only
    split
    · rcases run_formatLeniently tools options
          ⟨after, reported⟩ with
        ⟨formatted, hFormatted⟩
      rw [Action.run_bind, hFormatted]
      rfl
    · rfl

/- A run that is refused fails and leaves all files alone. -/
theorem yields_of_isRefused
    (tools : Tools)
    {files : FileTree}
    {spec : Path}
    {options : Options}
    (hRefused : IsRefused files spec options) :
    ∃ failure,
      (generateFromSpec tools spec options).Yields files
        (.error failure, files) := by
  have hLoad := Api.yields_load spec files
  have hBuild := TemplateSet.yields_ofOptions options files
  have hNone :=
    mt (not_isRefused_iff files spec options).mpr
      (not_not_intro hRefused)
  unfold generateFromSpec
  cases hApi : Api.loaded files spec with
  | error failure =>
      rw [hApi] at hLoad
      exact ⟨failure, hLoad.fail _⟩
  | ok api =>
      rw [hApi] at hLoad
      cases hGenerator :
          TemplateSet.asked files options >>=
            Generator.build options.language options.package with
      | error failure =>
          rw [hGenerator] at hBuild
          refine ⟨failure, hLoad.pass ?_⟩
          exact hBuild.fail _
      | ok generator =>
          exact absurd ⟨⟨api, hApi⟩, generator, hGenerator⟩ hNone

/-
  A run that is refused fails before it has changed a file.
  Any other run has its definition and its generator, and its
  result is that of the generation alone, with or without a
  formatter and whatever the formatter does.
-/
theorem refused_or_generated
    (spec : Path)
    (options : Options)
    (workspace : Workspace) :
    (IsRefused workspace.files spec options →
      ∀ tools, ∃ failure reported,
        (generateFromSpec tools spec options).run.run workspace =
          (.error failure, ⟨workspace.files, reported⟩)) ∧
    (¬IsRefused workspace.files spec options →
      ∃ api generator,
        ((Api.load spec).run.run workspace).1 = .ok api ∧
        ((Generator.ofOptions options).run.run workspace).1 =
          .ok generator ∧
        ∀ tools format,
          ((generateFromSpec tools spec
              { options with format := format }).run.run
              workspace).1 =
            ((generator.generateAll options.output options.mode
              options.scope api).run.run workspace).1) := by
  constructor
  · intro hRefused tools
    rcases yields_of_isRefused tools hRefused with
      ⟨failure, hYields⟩
    exact ⟨failure, hYields workspace.events⟩
  · intro hTaken
    rcases (not_isRefused_iff workspace.files spec options).mp
        hTaken with
      ⟨⟨api, hApi⟩, generator, hGenerator⟩
    refine ⟨api, generator, ?_, ?_, ?_⟩
    · rcases Api.yields_load spec workspace.files
          workspace.events with
        ⟨reported, hLoad⟩
      rw [hLoad, hApi]
    · rcases TemplateSet.yields_ofOptions options
          workspace.files workspace.events with
        ⟨reported, hBuild⟩
      rw [hBuild, hGenerator]
    · intro tools format
      exact
        result_generateFromSpec tools
          { options with format := format } hApi hGenerator

end

/- A definition without types, bodies and resources. -/
def plainWorkspace : Workspace :=
  ⟨[(["api.raml"], .file (.text "title: T") false)], []⟩

/- Programs that cannot be run. -/
def missingTools : Tools where
  formatter language := language.name
  run _ _ := .refused "not found"

/- What the command line asks for if it says nothing. -/
def plainOptions : Options :=
  ({} : Settings).resolve

theorem exists_ok_of_isOk
    {α : Type}
    {result : Except Failure α}
    (hOk : result.isOk = true) :
    ∃ value, result = .ok value := by
  cases result with
  | error failure => cases hOk
  | ok value => exact ⟨value, rfl⟩

theorem missing_refused_and_plain_generated :
    (IsRefused plainWorkspace.files ⟨"other.raml"⟩ plainOptions ∧
      ∃ failure reported,
        (generateFromSpec missingTools ⟨"other.raml"⟩
            plainOptions).run.run plainWorkspace =
          (.error failure, ⟨plainWorkspace.files, reported⟩)) ∧
    ¬IsRefused plainWorkspace.files ⟨"api.raml"⟩ plainOptions ∧
    ∃ (api : Api) (generator : Generator)
        (report : GenerationReport),
      ((generator.generateAll plainOptions.output
          plainOptions.mode plainOptions.scope api).run.run
          plainWorkspace).1 = .ok report ∧
      ((generateFromSpec missingTools ⟨"api.raml"⟩
          plainOptions).run.run plainWorkspace).1 =
        .ok report := by
  have hRefused :
      IsRefused plainWorkspace.files ⟨"other.raml"⟩
        plainOptions :=
    .specUnreadable (by decide +kernel)
  have hTaken :
      ¬IsRefused plainWorkspace.files ⟨"api.raml"⟩
        plainOptions := by
    refine (not_isRefused_iff _ _ _).mpr ⟨?_, ?_⟩
    · exact exists_ok_of_isOk (by decide +kernel)
    · exact exists_ok_of_isOk (by decide +kernel)
  have hOk :
      ((generateFromSpec missingTools ⟨"api.raml"⟩
        plainOptions).run.run plainWorkspace).1.isOk = true := by
    decide +kernel
  rcases exists_ok_of_isOk hOk with ⟨report, hReport⟩
  rcases (refused_or_generated ⟨"api.raml"⟩ plainOptions
      plainWorkspace).2 hTaken with
    ⟨api, generator, -, -, hResult⟩
  refine ⟨⟨hRefused, ?_⟩, hTaken, api, generator, report, ?_,
    hReport⟩
  · exact
      (refused_or_generated ⟨"other.raml"⟩ plainOptions
        plainWorkspace).1 hRefused missingTools
  · exact (hResult missingTools plainOptions.format).symm.trans
      hReport

end RamlScaffold
