import RamlScaffold.Files.Tree
import RamlScaffold.Generation.Event
import RamlScaffold.Generation.Failure

/-
  Actions on files.  An action that fails keeps the files and
  the events of the steps before the failure.

  Key definitions include:
    * `Workspace`, `Action`
    * `Action.report`
    * `Action.createDirectory`, `Action.writeFile`
    * `Action.listDirectory`
-/

------------------------------------------------------------
-- Actions
------------------------------------------------------------

namespace RamlScaffold

/- The files, and the events so far, the last one first. -/
structure Workspace where
  files : FileTree
  events : List Event := []

/- An action on a workspace that may fail. -/
abbrev Action : Type → Type :=
  ExceptT Failure (StateM Workspace)

namespace Action

/- The files as they are. -/
def files : Action FileTree := do
  return (← get).files

/- Reports an event. -/
def report (event : Event) : Action Unit :=
  modify fun workspace =>
    { workspace with events := event :: workspace.events }

/- Reports events, one after the other. -/
def reportAll (events : List Event) : Action Unit :=
  events.forM report

/- Puts other files in place. -/
def setFiles (files : FileTree) : Action Unit :=
  modify fun workspace => { workspace with files := files }

/- Changes the files, or fails where the change cannot be. -/
def change
    (changed : FileTree → Option FileTree)
    (failure : Failure) : Action Unit := do
  match changed (← files) with
  | some tree => setFiles tree
  | none => throw failure

/- Makes a directory with all directories around it. -/
def createDirectory (path : Path) : Action Unit :=
  change (fun tree => tree.createAll? path)
    (.directoryUncreatable path)

/- Writes a text to a file. -/
def writeFile
    [WriteAccess]
    (path : Path)
    (content : String) : Action Unit :=
  change (fun tree => tree.write? path (.text content))
    (.fileUnwritable path)

/- The names in a directory, in ascending order. -/
def listDirectory (path : Path) : Action (List String) := do
  match (← files).names? path with
  | some names => return names
  | none => throw (.directoryUnlistable path)

/- The text of a file, or a failure. -/
def readFile
    (path : Path)
    (failure : Failure) : Action String := do
  match (← files).readText? path with
  | some content => return content
  | none => throw failure

end Action

end RamlScaffold
