import RamlScaffold.Generation.Action

/-
  Running the formatter of a language on generated files.

  The program itself is not part of the library: whoever runs
  an action says which program stands for a formatter and what
  running it does to the files.

  Key definitions include:
    * `Command`, `RunResult`, `Tools`
    * `formatterArguments`
    * `formatOutput`
-/

------------------------------------------------------------
-- Programs
------------------------------------------------------------

namespace RamlScaffold

/- A program with its arguments. -/
structure Command where
  program : String
  arguments : List String
deriving DecidableEq, Repr

/- An argument in quotes, as it is shown. -/
def shownArgument (argument : String) : String :=
  let shown :=
    argument.toList.flatMap
      (fun c => if c == '"' || c == '\\' then ['\\', c] else [c])
  String.ofList ('"' :: (shown ++ ['"']))

/- A command as it is shown in reports. -/
def Command.display (command : Command) : String :=
  " ".intercalate
    ((command.program :: command.arguments).map shownArgument)

/- What becomes of a command. -/
inductive RunResult where
  | refused (reason : String)
  | finished (files : FileTree) (succeeded : Bool)

/- The programs that a run may call, and what they do. -/
structure Tools where
  formatter : Language → String
  run : Command → FileTree → RunResult

end RamlScaffold

------------------------------------------------------------
-- Formatting
------------------------------------------------------------

namespace RamlScaffold

/- The sources of Rust among the names in a directory. -/
def rustSources
    (directory : Path)
    (names : List String) : List String :=
  (names.filter (fun name => extensionOf? name == some "rs")).map
    (fun name => (directory.child name).text)

/-
  The arguments of the formatter.  There are none where no
  file is to be formatted.
-/
def formatterArguments
    (directory : Path)
    (language : Language) : Action (Option (List String)) := do
  match language with
  | .go => return some ["-w", directory.text]
  | .rust =>
      let names ← Action.listDirectory directory
      match rustSources directory names with
      | [] => return none
      | sources => return some (["--edition", "2021"] ++ sources)

/- Runs a formatter, which may refuse or fail. -/
def runFormatter
    (tools : Tools)
    (directory : Path)
    (language : Language)
    (arguments : List String) : Action Unit := do
  let command : Command := ⟨tools.formatter language, arguments⟩
  Action.report
    { level := .debug
      source := .formatting
      message := "formatting generated sources"
      fields := [("cmd", .text command.display)] }
  match tools.run command (← Action.files) with
  | .refused reason =>
      throw (.formatterUnrunnable language reason)
  | .finished files succeeded =>
      Action.setFiles files
      if succeeded then return ()
      else throw (.formatterFailed language directory)

/- Formats the generated files of a directory. -/
def formatOutput
    (tools : Tools)
    (directory : Path)
    (language : Language) : Action Unit := do
  match (← formatterArguments directory language) with
  | none => return ()
  | some arguments =>
      runFormatter tools directory language arguments

end RamlScaffold
