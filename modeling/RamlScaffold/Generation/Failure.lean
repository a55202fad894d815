import RamlScaffold.Api.Document
import RamlScaffold.Files.Path
import RamlScaffold.Language

/-
  Why a run stops.

  Key definitions include:
    * `Failure`
    * `Failure.messages`
    * `Failure.Origin`, `Failure.origin`
-/

------------------------------------------------------------
-- Failures
------------------------------------------------------------

namespace RamlScaffold

/- Why a run stops. -/
inductive Failure where
  | document (fault : DocumentFault)
  | specUnreadable (path : Path)
  | specInvalid (path : Path) (fault : DocumentFault)
  | languageMismatch (templates target : Language)
  | templatesMissing (path : Path)
  | templateUnreadable (path : Path)
  | templateInvalid (name : String)
  | templateUnknown (name : String)
  | templateFailed (name : String)
  | fileUnwritable (path : Path)
  | directoryUncreatable (path : Path)
  | directoryUnlistable (path : Path)
  | settingsMissing (path : Path)
  | settingsUnreadable (path : Path)
  | settingsInvalid (path : Path)
  | formatterUnrunnable (language : Language) (reason : String)
  | formatterFailed (language : Language) (path : Path)
deriving DecidableEq, Repr

namespace Failure

/- The messages of a failure, the outermost first. -/
def messages : Failure → List String
  | .document fault => fault.messages
  | .specUnreadable path =>
      ["Failed to read RAML file: " ++ path.text]
  | .specInvalid path fault =>
      ("Invalid RAML file: " ++ path.text) :: fault.messages
  | .languageMismatch templates target =>
      ["Template set is for " ++ templates.name ++
        " but the generator targets " ++ target.name]
  | .templatesMissing path =>
      ["Template directory does not exist: " ++ path.text]
  | .templateUnreadable path =>
      ["Failed to read template: " ++ path.text]
  | .templateInvalid name => ["Invalid template: " ++ name]
  | .templateUnknown name => ["Unknown template: " ++ name]
  | .templateFailed name =>
      ["Failed to render template: " ++ name]
  | .fileUnwritable path => ["Failed to write " ++ path.text]
  | .directoryUncreatable path =>
      ["Failed to create output directory: " ++ path.text]
  | .directoryUnlistable path =>
      ["Failed to list output directory: " ++ path.text]
  | .settingsMissing path =>
      ["Config file not found: " ++ path.text]
  | .settingsUnreadable path =>
      ["Failed to read generator config: " ++ path.text]
  | .settingsInvalid path =>
      ["Failed to parse generator config: " ++ path.text]
  | .formatterUnrunnable language _ =>
      ["Failed to run formatter for " ++ language.name]
  | .formatterFailed language path =>
      [language.name ++ " formatter failed on " ++ path.text]

/- Where a failure comes from in the end. -/
inductive Origin where
  | program
  | document
  | settings
  | template
  | files
deriving DecidableEq, Repr

end Failure

/- Where a fault of a document comes from. -/
def DocumentFault.origin : DocumentFault → Failure.Origin
  | .malformed => .document
  | _ => .program

namespace Failure

/- Where a failure comes from in the end. -/
def origin : Failure → Origin
  | .document fault => fault.origin
  | .specInvalid _ fault => fault.origin
  | .templateInvalid _ => .template
  | .templateUnknown _ => .template
  | .templateFailed _ => .template
  | .settingsInvalid _ => .settings
  | .specUnreadable _ => .files
  | .templateUnreadable _ => .files
  | .fileUnwritable _ => .files
  | .directoryUncreatable _ => .files
  | .directoryUnlistable _ => .files
  | .settingsUnreadable _ => .files
  | .formatterUnrunnable _ _ => .files
  | _ => .program

end Failure

end RamlScaffold
