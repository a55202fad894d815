import RamlScaffold.CommandLine.Arguments
import RamlScaffold.CommandLine.Inspect
import RamlScaffold.Libraries
import RamlScaffold.CommandLine.Log
import RamlScaffold.Generation.Run

/-
  Running what the command line asks for.

  Key definitions include:
    * `Request.run`
    * `Request.paths`, `Request.directories`
    * `Surroundings`, `Outcome`
    * `runProgram`
-/

------------------------------------------------------------
-- Requests
------------------------------------------------------------

namespace RamlScaffold

variable [DocumentLanguage] [PatternLanguage]
variable [TemplateLanguage] [WriteAccess]

namespace Scope

/- The scope of named parts; all parts if none is named. -/
def ofNames : Option (List String) → Scope
  | none => {}
  | some names =>
      { types := names.contains "types"
        bodies := names.contains "bodies"
        services := names.contains "resources" }

end Scope

/- What is printed when all is generated. -/
def GenerationReport.summary
    (report : GenerationReport)
    (output : Path) : String :=
  "✅ Generated " ++ toString report.types.length ++
    " type(s), " ++ toString report.bodies.length ++
    " body structure(s), " ++ toString report.services.length ++
    " resource(s) into " ++ output.text ++ "\n"

/- Generates sources; the command line wins over the file. -/
def runGenerate
    (tools : Tools)
    (spec : Path)
    (settings : Settings)
    (only : Option (List String))
    (config : Option Path) : Action String := do
  let fallback ← Settings.ofFile config spec
  let options :=
    { (settings.orElse fallback).resolve with
      scope := Scope.ofNames only }
  let report ← generateFromSpec tools spec options
  return report.summary options.output

/- The events of the synthesis of all structures. -/
def Api.synthesisEvents
    (language : Language)
    (api : Api) : List Event :=
  let types :=
    api.types.flatMap
      (fun entry =>
        (Structure.ofDecl language entry.1 entry.2 "").declEvents
          entry.1)
  let bodies :=
    (api.bodySteps language "").flatMap BodyStep.events
  types ++ bodies

/- Shows what would be generated. -/
def runInspect
    (spec : Path)
    (language : Language)
    (asJson : Bool) : Action String := do
  let api ← Api.load spec
  Action.reportAll (api.synthesisEvents language)
  if asJson then return api.inspectJson language ++ "\n"
  else return api.inspectReport language

/- Does what is asked for, and returns what is printed. -/
def Request.run
    (tools : Tools) : Request → Action String
  | .generate spec settings only config =>
      runGenerate tools spec settings only config
  | .inspect spec language asJson =>
      runInspect spec language asJson

end RamlScaffold

------------------------------------------------------------
-- Places
------------------------------------------------------------

namespace RamlScaffold

namespace Request

/- The files that a request names or implies. -/
def paths : Request → List Path
  | .inspect spec _ _ => [spec]
  | .generate spec _ _ config =>
      let beside :=
        spec.parent?.map (fun p => p.child settingsFileName)
      spec :: (config.toList ++ beside.toList)

/-
  The directories that a request reads and writes, once the
  files that it names are known.
-/
def directories
    (files : FileTree) : Request → List Path
  | .inspect _ _ _ => []
  | .generate spec settings _ config =>
      match ((Settings.ofFile config spec).run.run ⟨files, []⟩).1 with
      | .error _ => []
      | .ok fallback =>
          let options := (settings.orElse fallback).resolve
          options.output :: options.templates.toList

end Request

end RamlScaffold

------------------------------------------------------------
-- The Program
------------------------------------------------------------

namespace RamlScaffold

/- What a run finds around it, besides its arguments. -/
structure Surroundings where
  logFormat : Option String := none
  logRules : Option String := none
  tools : Tools
  files : FileTree

/- How a run ends. -/
structure Outcome where
  exitCode : Nat
  output : String := ""
  fault : Option ArgumentFault := none
  failure : Option Failure := none
  events : List Event := []
  files : FileTree

/- The name of the program with its version. -/
def versionLine : String := "ramlgen 0.1.0-alpha.1\n"

/- How the program is called. -/
def usageText : String :=
  "RAML code generator\n\n" ++
    "Usage: ramlgen [OPTIONS] <COMMAND>\n\n" ++
    "Commands:\n" ++
    "  generate  Generate structures and resource " ++
    "scaffolding from a RAML file\n" ++
    "  inspect   Print how every type and resource of a RAML " ++
    "file would be generated\n" ++
    "  help      Print this message or the help of the given " ++
    "subcommand(s)\n\n" ++
    "Options:\n" ++
    "      --log-level <LOG_LEVEL>  Log level used when RUST_LOG " ++
    "is not set [default: info]\n" ++
    "  -h, --help                   Print help\n" ++
    "  -V, --version                Print version\n"

/- What is printed instead of a run. -/
def answerText : ArgumentFault → String
  | .displayVersion => versionLine
  | .displayHelp => usageText
  | _ => ""

/- How a run ends that was refused for its arguments. -/
def refusedOutcome
    (files : FileTree)
    (fault : ArgumentFault) : Outcome where
  exitCode := if fault.isAnswer then 0 else 2
  output := answerText fault
  fault := some fault
  files := files

/- The format in which a run shows its events. -/
def Surroundings.format (surroundings : Surroundings) : LogFormat :=
  LogFormat.ofName (surroundings.logFormat.getD "")

/- Runs the program with its arguments. -/
def runProgram
    [DocumentLanguage] [PatternLanguage]
    [TemplateLanguage] [WriteAccess]
    (surroundings : Surroundings)
    (arguments : List String) : Outcome :=
  match CommandLine.parse arguments with
  | .error fault => refusedOutcome surroundings.files fault
  | .ok commandLine =>
      let filter :=
        LogFilter.choose surroundings.logRules
          commandLine.logLevel
      let (result, workspace) :=
        (commandLine.request.run surroundings.tools).run.run
          { files := surroundings.files }
      let events := workspace.events.reverse.filter filter.shows
      match result with
      | .ok output =>
          { exitCode := 0
            output := output
            events := events
            files := workspace.files }
      | .error failure =>
          { exitCode := 1
            failure := some failure
            events := events
            files := workspace.files }

end RamlScaffold
