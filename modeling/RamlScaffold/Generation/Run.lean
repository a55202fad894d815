import RamlScaffold.Generation.Formatting
import RamlScaffold.Settings

/-
  A run from a definition file to generated sources.

  Everything that can be refused is looked at before the first
  file is written.  A formatter that fails is reported, and
  the generated files are kept.

  Key definitions include:
    * `Api.load`
    * `TemplateSet.withDirectory`
    * `Generator.ofOptions`
    * `generateFromSpec`
-/

------------------------------------------------------------
-- Loading
------------------------------------------------------------

namespace RamlScaffold

/- Reads the definition in a file. -/
def Api.load
    [DocumentLanguage] [PatternLanguage]
    (path : Path) : Action Api := do
  let text ← Action.readFile path (.specUnreadable path)
  match Api.parse text with
  | .ok api => return api
  | .error fault => throw (.specInvalid path fault)

namespace TemplateSet

/- A set with the file of an artefact in place, if it is. -/
def withFile
    (directory : Path)
    (set : TemplateSet)
    (artefact : Artefact) : Action TemplateSet := do
  let name := artefact.templateName
  let path := directory.child (fileName set.language name)
  if (← Action.files).isFile path then
    let source ← Action.readFile path (.templateUnreadable path)
    Action.report
      { level := .debug
        source := .templates
        message := "using template override"
        fields :=
          [("template", .text name), ("path", .text path.text)] }
    return set.replace name source
  else return set

/- A set with the templates that a directory replaces. -/
def withDirectory
    (set : TemplateSet)
    (directory : Path) : Action TemplateSet := do
  if (← Action.files).isDirectory directory then
    Artefact.all.foldlM (withFile directory) set
  else throw (.templatesMissing directory)

end TemplateSet

/- The generator that options ask for. -/
def Generator.ofOptions
    [TemplateLanguage]
    (options : Options) : Action Generator := do
  let builtin := TemplateSet.builtin options.language
  let set ←
    match options.templates with
    | none => pure builtin
    | some directory => builtin.withDirectory directory
  liftExcept
    (Generator.build options.language options.package set)

end RamlScaffold

------------------------------------------------------------
-- Runs
------------------------------------------------------------

namespace RamlScaffold

namespace Failure

/- A failure on one line, with what the system says of it. -/
def report (failure : Failure) : String :=
  let messages :=
    match failure with
    | .formatterUnrunnable _ reason => failure.messages ++ [reason]
    | _ => failure.messages
  ": ".intercalate messages

end Failure

/- What is reported before anything is generated. -/
def startEvent (options : Options) (api : Api) : Event where
  level := .info
  source := .generation
  message := "generating"
  fields :=
    [("title", .text api.title),
      ("language", .text options.language.name),
      ("mode", .text options.mode.name),
      ("output", .text options.output.text)]

/- What is reported when all is generated. -/
def endEvent (report : GenerationReport) : Event where
  level := .info
  source := .generation
  message := "generation complete"
  fields :=
    [("types", .count report.types.length),
      ("bodies", .count report.bodies.length),
      ("resources", .count report.services.length),
      ("files", .count report.written.length)]

/- Formats the output; a failure is only reported. -/
def formatLeniently
    (tools : Tools)
    (options : Options) : Action Unit :=
  tryCatch (formatOutput tools options.output options.language)
    (fun failure =>
      Action.report
        { level := .warn
          source := .generation
          message := "formatting generated sources failed"
          fields := [("error", .text failure.report)] })

/- Generates the sources of the definition in a file. -/
def generateFromSpec
    [DocumentLanguage] [PatternLanguage]
    [TemplateLanguage] [WriteAccess]
    (tools : Tools)
    (spec : Path)
    (options : Options) : Action GenerationReport := do
  let api ← Api.load spec
  let generator ← Generator.ofOptions options
  Action.report (startEvent options api)
  let report ←
    generator.generateAll options.output options.mode
      options.scope api
  if options.format then formatLeniently tools options
  Action.report (endEvent report)
  return report

end RamlScaffold
