import RamlScaffold.Generation.Action
import RamlScaffold.Generation.Context

/-
  Turning an API definition into source files.

  Structures, interfaces and clients are written anew by every
  run.  The stub of a service is written once: where its file
  exists, it is left alone.

  Key definitions include:
    * `WriteOutcome`, `Templates.renderText`
    * `Templates.renderFile`
    * `Mode`, `EmitOutcome`, `EmitReport`
    * `Generator`, `Generator.build`
    * `Generator.generateTypes`, `Generator.generateBodies`
    * `Generator.emitServices`
    * `Scope`, `GenerationReport`, `Generator.generateAll`
-/

------------------------------------------------------------
-- Rendering
------------------------------------------------------------

namespace RamlScaffold

/- What became of a file that was to be written. -/
inductive WriteOutcome where
  | written
  | skippedExisting
deriving DecidableEq, Repr

namespace Templates

/- The text that a template makes of a context. -/
def renderText
    (templates : Templates)
    (name : String)
    (context : Template.Value) : Except Failure String :=
  match Keyed.get? name templates with
  | none => .error (.templateUnknown name)
  | some rendering =>
      match rendering context with
      | some text => .ok text
      | none => .error (.templateFailed name)

/-
  Writes the text of a template to a file.  A file that exists
  is kept, and nothing is rendered, unless it may be replaced.
-/
def renderFile
    [WriteAccess]
    (templates : Templates)
    (name : String)
    (context : Template.Value)
    (path : Path)
    (replaces : Bool) : Action WriteOutcome := do
  if !replaces && (← Action.files).hasEntry path then
    Action.report
      { level := .debug
        source := .templates
        message := "skipping existing file"
        fields := [("path", .text path.text)] }
    return .skippedExisting
  else
    let text ← liftExcept (renderText templates name context)
    Action.writeFile path text
    Action.report
      { level := .info
        source := .templates
        message := "generated"
        fields :=
          [("path", .text path.text), ("template", .text name)] }
    return .written

end Templates

end RamlScaffold

------------------------------------------------------------
-- Services
------------------------------------------------------------

namespace RamlScaffold

/- Which side of an API is generated. -/
inductive Mode where
  | server
  | client
deriving DecidableEq, Repr, Inhabited

/- The name of a mode. -/
def Mode.name : Mode → String
  | .server => "server"
  | .client => "client"

/-
  How far the files of a service have come.  The first two
  are on the way: no service is left in them.
-/
inductive EmitOutcome where
  | unvisited
  | interfaceWritten
  | stubWritten
  | stubSkippedExists
  | serviceWritten
deriving DecidableEq, Repr

namespace EmitOutcome

/- The name of an outcome in reports. -/
def name : EmitOutcome → String
  | .unvisited => "unvisited"
  | .interfaceWritten => "interface_written"
  | .stubWritten => "stub_written"
  | .stubSkippedExists => "stub_skipped_exists"
  | .serviceWritten => "service_written"

/- The name of an outcome for readers. -/
def title : EmitOutcome → String
  | .unvisited => "Unvisited"
  | .interfaceWritten => "InterfaceWritten"
  | .stubWritten => "StubWritten"
  | .stubSkippedExists => "StubSkippedExists"
  | .serviceWritten => "ServiceWritten"

end EmitOutcome

/- What became of a service, and the files written for it. -/
structure EmitReport where
  service : Service
  outcome : EmitOutcome
  written : List Path

namespace EmitReport

/- A service of which no file has been written. -/
def unvisited (service : Service) : EmitReport :=
  ⟨service, .unvisited, []⟩

/- A report after one more file, with the outcome of that. -/
def wrote
    (report : EmitReport)
    (path : Path)
    (outcome : EmitOutcome) : EmitReport :=
  { report with
    outcome := outcome
    written := report.written ++ [path] }

end EmitReport

end RamlScaffold

------------------------------------------------------------
-- Generators
------------------------------------------------------------

namespace RamlScaffold

/- A generator for a language, with its templates compiled. -/
structure Generator where
  language : Language
  package : String
  templates : Templates

namespace Generator

/- The generator for a language, a package and templates. -/
def build
    [TemplateLanguage]
    (language : Language)
    (package : String)
    (set : TemplateSet) : Except Failure Generator :=
  if set.language = language then
    match set.compile with
    | .error name => .error (.templateInvalid name)
    | .ok templates => .ok ⟨language, package, templates⟩
  else .error (.languageMismatch set.language language)

/- The file of a structure. -/
def structurePath
    (generator : Generator)
    (output : Path)
    (struct : Structure) : Path :=
  output.child (generator.language.structureFileName struct.name)

/- Writes the file of a structure. -/
def writeStructure
    [WriteAccess]
    (generator : Generator)
    (output : Path)
    (struct : Structure) : Action Unit := do
  let _ ←
    generator.templates.renderFile Artefact.struct.templateName
      struct.context (generator.structurePath output struct) true
  return ()

/- The file of an artefact of a service. -/
def servicePath
    (generator : Generator)
    (output : Path)
    (service : Service)
    (artefact : String) : Path :=
  output.child
    (generator.language.resourceFileName service.name artefact)

end Generator

end RamlScaffold

------------------------------------------------------------
-- Structures
------------------------------------------------------------

namespace RamlScaffold

namespace Generator

/- The structure of a catalog type. -/
def typeStructure
    (generator : Generator)
    (entry : String × TypeDecl) : Structure :=
  Structure.ofDecl generator.language entry.1 entry.2
    generator.package

/- Writes the structure of a catalog type. -/
def generateType
    [WriteAccess]
    (generator : Generator)
    (output : Path)
    (entry : String × TypeDecl) : Action Structure := do
  let struct := generator.typeStructure entry
  Action.reportAll (struct.declEvents entry.1)
  generator.writeStructure output struct
  return struct

/- Writes the structures of the catalog, in its order. -/
def generateTypes
    [WriteAccess]
    (generator : Generator)
    (output : Path)
    (api : Api) : Action (List Structure) := do
  Action.createDirectory output
  api.types.mapM (generator.generateType output)

/-
  Takes a step of the walk over bodies: a structure is
  written, and then kept with those before it.
-/
def generateBody
    [WriteAccess]
    (generator : Generator)
    (output : Path)
    (step : BodyStep) : StateT (List Structure) Action Unit := do
  Action.reportAll step.events
  match step with
  | .emit struct =>
      generator.writeStructure output struct
      modify (fun structs => structs ++ [struct])
  | .skip _ _ => return ()

/- Writes the structures of all bodies as they are met. -/
def generateBodies
    [WriteAccess]
    (generator : Generator)
    (output : Path)
    (api : Api) : Action (List Structure) := do
  Action.createDirectory output
  let (_, structs) ←
    (api.walkSteps generator.language generator.package
      (generator.generateBody output)).run []
  return structs

end Generator

end RamlScaffold

------------------------------------------------------------
-- Emission
------------------------------------------------------------

namespace RamlScaffold

namespace Generator

/- Writes the interface of a service, and its stub once. -/
def emitServer
    [WriteAccess]
    (generator : Generator)
    (output : Path)
    (service : Service) : Action EmitReport := do
  let interface := generator.servicePath output service "if"
  let stub := generator.servicePath output service "api"
  let _ ←
    generator.templates.renderFile
      Artefact.interface.templateName service.context interface
      true
  let report :=
    (EmitReport.unvisited service).wrote interface
      .interfaceWritten
  let outcome ←
    generator.templates.renderFile Artefact.stub.templateName
      service.context stub false
  match outcome with
  | .written => return report.wrote stub .stubWritten
  | .skippedExisting =>
      Action.report
        { level := .debug
          source := .resources
          message := "implementation stub exists"
          fields :=
            [("resource", .text service.name),
              ("previous", .text report.outcome.title)] }
      return { report with outcome := .stubSkippedExists }

/- Writes the client of a service. -/
def emitClient
    [WriteAccess]
    (generator : Generator)
    (output : Path)
    (service : Service) : Action EmitReport := do
  let client := generator.servicePath output service "service"
  let _ ←
    generator.templates.renderFile Artefact.client.templateName
      service.context client true
  let report := EmitReport.unvisited service
  return report.wrote client .serviceWritten

/- Writes the files of a service. -/
def emitService
    [WriteAccess]
    (generator : Generator)
    (output : Path)
    (mode : Mode)
    (service : Service) : Action EmitReport := do
  Action.createDirectory output
  let report ←
    match mode with
    | .server => generator.emitServer output service
    | .client => generator.emitClient output service
  Action.report
    { level := .info
      source := .resources
      message := "resource emitted"
      fields :=
        [("resource", .text service.name),
          ("outcome", .text report.outcome.title)] }
  return report

/- The services of the top-level resources. -/
def services
    (generator : Generator)
    (mode : Mode)
    (api : Api) : List Service :=
  api.resources.map
    (Resource.describe generator.package (mode == .server) "")

/- Writes the files of all top-level resources. -/
def emitServices
    [WriteAccess]
    (generator : Generator)
    (output : Path)
    (mode : Mode)
    (api : Api) : Action (List EmitReport) := do
  Action.createDirectory output
  (generator.services mode api).mapM
    (generator.emitService output mode)

end Generator

end RamlScaffold

------------------------------------------------------------
-- The Module Index
------------------------------------------------------------

namespace RamlScaffold

/- The name of the module index. -/
def indexName : String := "mod.rs"

/- The module that a file declares, if it declares one. -/
def moduleOf? (name : String) : Option String :=
  if extensionOf? name = some "rs" ∧ stemOf name ≠ "mod" then
    some (stemOf name)
  else none

/- The modules of a directory, in ascending order. -/
def modulesOf (names : List String) : List String :=
  (names.filterMap moduleOf?).mergeSort (fun a b => a ≤ b)

namespace Generator

/- Writes the index of the modules of a directory. -/
def writeIndex
    [WriteAccess]
    (generator : Generator)
    (output : Path) : Action Path := do
  let names ← Action.listDirectory output
  let path := output.child indexName
  let _ ←
    generator.templates.renderFile Artefact.index.templateName
      (moduleContext (modulesOf names)) path true
  return path

end Generator

end RamlScaffold

------------------------------------------------------------
-- Whole Runs
------------------------------------------------------------

namespace RamlScaffold

/- Which artefacts a run generates. -/
structure Scope where
  types : Bool := true
  bodies : Bool := true
  services : Bool := true
deriving DecidableEq, Repr, Inhabited

/- What a run generated, and every file that it wrote. -/
structure GenerationReport where
  types : List Structure := []
  bodies : List Structure := []
  services : List EmitReport := []
  written : List Path := []

namespace Generator

/- Generates what the scope asks for, in its fixed order. -/
def generateAll
    [WriteAccess]
    (generator : Generator)
    (output : Path)
    (mode : Mode)
    (scope : Scope)
    (api : Api) : Action GenerationReport := do
  Action.createDirectory output
  let types ←
    if scope.types then generator.generateTypes output api
    else pure []
  let bodies ←
    if scope.bodies then generator.generateBodies output api
    else pure []
  let services ←
    if scope.services then
      generator.emitServices output mode api
    else pure []
  let index ←
    match generator.language with
    | .go => pure []
    | .rust => do
        let path ← generator.writeIndex output
        pure [path]
  let written :=
    (types ++ bodies).map (generator.structurePath output) ++
      services.flatMap EmitReport.written ++ index
  return ⟨types, bodies, services, written⟩

end Generator

end RamlScaffold
