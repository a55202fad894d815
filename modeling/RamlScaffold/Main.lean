import RamlScaffold.CommandLine.Run

/-
  The program: it looks at the files that a run may need, runs
  it, and writes what has changed.

  No other program is started, so every formatter is one that
  cannot be run; the run reports that and keeps its files.

  Key definitions include:
    * `Disk.load`
    * `Disk.store`
    * `main`
-/

------------------------------------------------------------
-- Files
------------------------------------------------------------

namespace RamlScaffold.Disk

/- The name under which the system knows a place. -/
def systemName : Place → String
  | [] => "."
  | "/" :: names => "/" ++ "/".intercalate names
  | names => "/".intercalate names

/- The names in the directory at a place, if one is there. -/
def namesAt (place : Place) : IO (Option (List String)) := do
  try
    let entries ← (System.mkFilePath [systemName place]).readDir
    return some (entries.toList.map (·.fileName))
  catch _ => return none

/- The file at a place, if one is there. -/
def fileAt (place : Place) : IO (Option FileEntry) := do
  try
    let bytes ← IO.FS.readBinFile (systemName place)
    return some (.file (Contents.ofBytes bytes) false)
  catch _ => return none

/- The file or directory at a place, if one is there. -/
def entryAt (place : Place) : IO (Option FileEntry) := do
  match (← namesAt place) with
  | some _ => return some .directory
  | none => fileAt place

/- A tree with what is at a place, if anything is. -/
def withPlace
    (tree : FileTree)
    (place : Place) : IO FileTree := do
  if place = ["/"] then return tree
  else
    match (← entryAt place) with
    | some entry => return tree.set place entry
    | none => return tree

/- A tree with what lies directly in a directory. -/
def withChildren
    (tree : FileTree)
    (place : Place) : IO FileTree := do
  let names := (← namesAt place).getD []
  names.foldlM (fun tree name => withPlace tree (place ++ [name]))
    tree

/- A tree with all that a path leads to. -/
def withPath
    (tree : FileTree)
    (path : Path) : IO FileTree := do
  let reached ←
    (FileTree.placesTo path.place).foldlM withPlace tree
  withChildren reached path.place

/- The files that a request may read or replace. -/
def load (request : Request) : IO FileTree := do
  let named ← request.paths.foldlM withPath []
  (request.directories named).foldlM withPath named

/- Writes an entry, unless it was there before. -/
def storeEntry
    (before : FileTree)
    (place : Place)
    (entry : FileEntry) : IO Unit := do
  if before.at? place = some entry then return ()
  else
    match entry with
    | .directory => IO.FS.createDirAll (systemName place)
    | .file (.text content) _ =>
        IO.FS.writeFile (systemName place) content
    | .file (.binary bytes) _ =>
        IO.FS.writeBinFile (systemName place) ⟨bytes.toArray⟩

/- Writes what a run has changed. -/
def store (before after : FileTree) : IO Unit :=
  after.forM
    (fun (place, entry) => storeEntry before place entry)

end RamlScaffold.Disk

------------------------------------------------------------
-- The Program
------------------------------------------------------------

namespace RamlScaffold

/- The tools of a program that starts no other program. -/
def noTools : Tools where
  formatter
    | .go => "gofmt"
    | .rust => "rustfmt"
  run _ _ := .refused "no other program is started"

/- The files at the start of a run. -/
def initialFiles
    (arguments : List String) : IO FileTree :=
  match CommandLine.parse arguments with
  | .ok commandLine => Disk.load commandLine.request
  | .error _ => return []

/- Prints how a run went, its events first. -/
def printOutcome
    (format : LogFormat)
    (outcome : Outcome) : IO Unit := do
  for event in outcome.events do
    IO.eprintln (event.line format)
  IO.print outcome.output
  if let some fault := outcome.fault then
    if !fault.isAnswer then
      IO.eprintln ("error: " ++ fault.name)
  if let some failure := outcome.failure then
    IO.eprintln ("error: " ++ failure.report)

end RamlScaffold

open RamlScaffold in
/- Runs the program with its arguments. -/
def main (arguments : List String) : IO UInt32 := do
  let files ← initialFiles arguments
  let surroundings : Surroundings :=
    { logFormat := ← IO.getEnv "RAMLGEN_LOG_FORMAT"
      logRules := ← IO.getEnv "RUST_LOG"
      tools := noTools
      files := files }
  let outcome := runProgram surroundings arguments
  Disk.store files outcome.files
  printOutcome surroundings.format outcome
  return outcome.exitCode.toUInt32
