import RamlScaffold.Settings

/-
  Reading the arguments of the command line.

  An option takes its value from the text behind an equals
  sign or from the next argument.  A value that was taken from
  the next argument is looked at when the next option, or the
  end, is met; so an unknown option behind it is refused first.

  Key definitions include:
    * `ArgumentFault`
    * `Argument`, `Subcommand`
    * `Progress`, `Progress.commit`
    * `Progress.read`
    * `Request`, `CommandLine`, `CommandLine.parse`
-/

------------------------------------------------------------
-- Faults
------------------------------------------------------------

namespace RamlScaffold

/- Why arguments are not run. -/
inductive ArgumentFault where
  | unknownArgument
  | invalidValue
  | missingRequiredArgument
  | invalidSubcommand
  | argumentConflict
  | tooManyValues
  | missingSubcommand
  | displayHelp
  | displayVersion
  | displayHelpOnMissing
deriving DecidableEq, Repr

namespace ArgumentFault

/- The name of a fault. -/
def name : ArgumentFault → String
  | .unknownArgument => "UnknownArgument"
  | .invalidValue => "InvalidValue"
  | .missingRequiredArgument => "MissingRequiredArgument"
  | .invalidSubcommand => "InvalidSubcommand"
  | .argumentConflict => "ArgumentConflict"
  | .tooManyValues => "TooManyValues"
  | .missingSubcommand => "MissingSubcommand"
  | .displayHelp => "DisplayHelp"
  | .displayVersion => "DisplayVersion"
  | .displayHelpOnMissing =>
      "DisplayHelpOnMissingArgumentOrSubcommand"

/- Whether the user asked for what is shown. -/
def isAnswer : ArgumentFault → Bool
  | .displayHelp => true
  | .displayVersion => true
  | _ => false

end ArgumentFault

end RamlScaffold

------------------------------------------------------------
-- Arguments
------------------------------------------------------------

namespace RamlScaffold

/- An option of the program or of a subcommand. -/
inductive Argument where
  | spec
  | output
  | language
  | package
  | kind
  | only
  | templates
  | config
  | noFormat
  | json
  | logLevel
  | help
  | version
deriving DecidableEq, Repr

namespace Argument

/- The long name of an option. -/
def longName : Argument → String
  | .spec => "spec"
  | .output => "output"
  | .language => "language"
  | .package => "package"
  | .kind => "kind"
  | .only => "only"
  | .templates => "template-dir"
  | .config => "config"
  | .noFormat => "no-format"
  | .json => "json"
  | .logLevel => "log-level"
  | .help => "help"
  | .version => "version"

/- The letter of an option, if it has one. -/
def letter? : Argument → Option Char
  | .spec => some 's'
  | .output => some 'o'
  | .language => some 'l'
  | .package => some 'p'
  | .kind => some 'k'
  | .help => some 'h'
  | .version => some 'V'
  | _ => none

/- Whether an option takes a value. -/
def takesValue : Argument → Bool
  | .noFormat => false
  | .json => false
  | .help => false
  | .version => false
  | _ => true

/- Whether an option may have the given value. -/
def accepts
    (argument : Argument)
    (value : String) : Bool :=
  match argument with
  | .spec | .output | .templates | .config => value != ""
  | .language => (Language.ofName? value).isSome
  | .kind => (Mode.ofName? value).isSome
  | .only => ["types", "bodies", "resources"].contains value
  | _ => true

/- The values that are written in one. -/
def separate
    (argument : Argument)
    (value : String) : List String :=
  if argument = .only then
    (Text.splitBy (· == ',') value.toList).map String.ofList
  else [value]

end Argument

/- A subcommand that does something. -/
inductive Subcommand where
  | generate
  | inspect
deriving DecidableEq, Repr

namespace Subcommand

/- The subcommand of a name. -/
def ofName? (name : String) : Option Subcommand :=
  match name with
  | "generate" => some .generate
  | "inspect" => some .inspect
  | _ => none

/- The options of the program, or of a subcommand of it. -/
def arguments : Option Subcommand → List Argument
  | none => [.logLevel, .help, .version]
  | some .generate =>
      [.spec, .output, .language, .package, .kind, .only,
        .templates, .config, .noFormat, .logLevel, .help]
  | some .inspect =>
      [.spec, .language, .json, .logLevel, .help]

end Subcommand

end RamlScaffold

------------------------------------------------------------
-- Progress
------------------------------------------------------------

namespace RamlScaffold

/-
  What was read of the arguments of a command.  `pending` is
  the option whose values have not been looked at.
-/
structure Progress where
  values : List (Argument × List String) := []
  pending : Option (Argument × List String) := none
  expectsValue : Bool := false
  isTrailing : Bool := false

namespace Progress

/- The values of an option, if it was given. -/
def values?
    (progress : Progress)
    (argument : Argument) : Option (List String) :=
  progress.values.lookup argument

/- The last value of an option, if it was given. -/
def value?
    (progress : Progress)
    (argument : Argument) : Option String :=
  (progress.values? argument).bind List.getLast?

/- Whether an option was given. -/
def has
    (progress : Progress)
    (argument : Argument) : Bool :=
  (progress.values? argument).isSome

/- Takes an option with its values into account. -/
def commit
    (progress : Progress)
    (argument : Argument)
    (given : List String) : Except ArgumentFault Progress :=
  let values := given.flatMap argument.separate
  if argument = .help then .error .displayHelp
  else if argument = .version then .error .displayVersion
  else if argument.takesValue && given.isEmpty then
    .error .invalidValue
  else if argument = .only then
    if values.all argument.accepts then
      let before := (progress.values? .only).getD []
      .ok
        { progress with
          values :=
            (.only, before ++ values) ::
              progress.values.filter (fun entry =>
                entry.1 ≠ .only) }
    else .error .invalidValue
  else if progress.has argument then .error .argumentConflict
  else if values.all argument.accepts then
    .ok
      { progress with
        values := (argument, values) :: progress.values }
  else .error .invalidValue

/- Takes the pending option into account. -/
def settle
    (progress : Progress) : Except ArgumentFault Progress :=
  match progress.pending with
  | none => .ok progress
  | some (argument, given) =>
      { progress with pending := none }.commit argument given

/- Takes an option that is complete into account. -/
def complete
    (progress : Progress)
    (argument : Argument)
    (given : List String) : Except ArgumentFault Progress := do
  let settled ← progress.settle
  let done ← settled.commit argument given
  return { done with expectsValue := false }

/- Waits for the value of an option. -/
def await
    (progress : Progress)
    (argument : Argument) : Except ArgumentFault Progress := do
  let settled ← progress.settle
  .ok
    { settled with
      pending := some (argument, [])
      expectsValue := true }

/- Adds a value to the pending option. -/
def addValue
    (progress : Progress)
    (value : String) : Progress :=
  match progress.pending with
  | none => progress
  | some (argument, given) =>
      { progress with
        pending := some (argument, given ++ [value])
        expectsValue := argument == .only }

end Progress

end RamlScaffold

------------------------------------------------------------
-- Reading
------------------------------------------------------------

namespace RamlScaffold

namespace Progress

/- Reads an option in its long form, without its hyphens. -/
def readLong
    (known : List Argument)
    (progress : Progress)
    (body : List Char) : Except ArgumentFault Progress :=
  let name := String.ofList (body.takeWhile (· != '='))
  let attached := body.dropWhile (· != '=')
  match known.find? (fun argument => argument.longName == name) with
  | none => .error .unknownArgument
  | some argument =>
      match attached with
      | [] =>
          if argument.takesValue then progress.await argument
          else progress.complete argument []
      | _ :: value =>
          if argument.takesValue then
            progress.complete argument [String.ofList value]
          else .error .tooManyValues

/- Reads options in their short form, without the hyphen. -/
def readShort
    (known : List Argument)
    (progress : Progress) :
    List Char → Except ArgumentFault Progress
  | [] => .ok progress
  | c :: rest =>
      match known.find? (fun argument => argument.letter? == some c)
      with
      | none => .error .unknownArgument
      | some argument =>
          if argument.takesValue then
            match rest with
            | [] => progress.await argument
            | '=' :: value =>
                progress.complete argument [String.ofList value]
            | value =>
                progress.complete argument [String.ofList value]
          else do
            let progress ← progress.complete argument []
            readShort known progress rest

/- Reads an argument that is no name of a subcommand. -/
def readOne
    (known : List Argument)
    (stray : ArgumentFault)
    (progress : Progress)
    (argument : String) : Except ArgumentFault Progress :=
  if progress.isTrailing then .error stray
  else
    match argument.toList with
    | ['-', '-'] => .ok { progress with isTrailing := true }
    | '-' :: '-' :: body => progress.readLong known body
    | '-' :: c :: body => progress.readShort known (c :: body)
    | _ =>
        if progress.expectsValue then
          .ok (progress.addValue argument)
        else .error stray

/- Reads all arguments of a subcommand. -/
def readAll
    (known : List Argument) :
    Progress → List String → Except ArgumentFault Progress
  | progress, [] => progress.settle
  | progress, argument :: arguments => do
      let progress ←
        readOne known .unknownArgument progress argument
      readAll known progress arguments

end Progress

end RamlScaffold

------------------------------------------------------------
-- Requests
------------------------------------------------------------

namespace RamlScaffold

/- What the arguments ask for. -/
inductive Request where
  | generate
      (spec : Path)
      (settings : Settings)
      (only : Option (List String))
      (config : Option Path)
  | inspect (spec : Path) (language : Language) (asJson : Bool)
deriving Repr

/- The arguments of a run. -/
structure CommandLine where
  logLevel : String
  request : Request
deriving Repr

namespace Progress

/- The path of an option, if it was given. -/
def path?
    (progress : Progress)
    (argument : Argument) : Option Path :=
  (progress.value? argument).map Path.mk

/- The language that was given, if one was. -/
def language? (progress : Progress) : Option Language :=
  (progress.value? .language).bind Language.ofName?

/- The settings that were given. -/
def settings (progress : Progress) : Settings where
  language := progress.language?
  package := progress.value? .package
  mode := (progress.value? .kind).bind Mode.ofName?
  templates := progress.path? .templates
  output := progress.path? .output
  format := if progress.has .noFormat then some false else none

/- The request of a subcommand; a definition is required. -/
def request
    (progress : Progress)
    (subcommand : Subcommand) : Except ArgumentFault Request :=
  match progress.path? .spec with
  | none => .error .missingRequiredArgument
  | some spec =>
      match subcommand with
      | .generate =>
          .ok
            (.generate spec progress.settings
              (progress.values? .only) (progress.path? .config))
      | .inspect =>
          .ok
            (.inspect spec (progress.language?.getD .go)
              (progress.has .json))

end Progress

/- The level that is logged when none is given. -/
def defaultLogLevel : String := "info"

/- Reads what follows the name of a subcommand. -/
def readSubcommand
    (progress : Progress)
    (subcommand : Subcommand)
    (arguments : List String) :
    Except ArgumentFault CommandLine := do
  let inner ←
    Progress.readAll (Subcommand.arguments (some subcommand)) {}
      arguments
  let request ← inner.request subcommand
  let outer ← progress.settle
  let given := inner.value? .logLevel <|> outer.value? .logLevel
  return ⟨given.getD defaultLogLevel, request⟩

/- What the help on help and on subcommands answers. -/
def readHelp : List String → ArgumentFault
  | [] => .displayHelp
  | [name] =>
      if name = "help" || (Subcommand.ofName? name).isSome then
        .displayHelp
      else .invalidSubcommand
  | _ => .invalidSubcommand

namespace CommandLine

/- The fault of an argument that belongs to no option. -/
def strayFault
    (progress : Progress)
    (argument : String) : ArgumentFault :=
  let isName :=
    argument = "help" || (Subcommand.ofName? argument).isSome
  if progress.isTrailing && isName then .unknownArgument
  else .invalidSubcommand

/- Reads arguments up to the name of a subcommand. -/
def readFrom
    (progress : Progress) :
    List String → Except ArgumentFault CommandLine
  | [] => do
      let settled ← progress.settle
      if settled.values.isEmpty then .error .displayHelpOnMissing
      else .error .missingSubcommand
  | argument :: arguments =>
      let mayBeName :=
        !progress.isTrailing && !progress.expectsValue
      match Subcommand.ofName? argument with
      | some subcommand =>
          if mayBeName then
            readSubcommand progress subcommand arguments
          else do
            let progress ←
              progress.readOne (Subcommand.arguments none)
                (strayFault progress argument) argument
            readFrom progress arguments
      | none =>
          if mayBeName && argument == "help" then
            .error (readHelp arguments)
          else do
            let progress ←
              progress.readOne (Subcommand.arguments none)
                (strayFault progress argument) argument
            readFrom progress arguments

/- Reads the arguments that follow the name of the program. -/
def parse
    (arguments : List String) :
    Except ArgumentFault CommandLine :=
  readFrom {} arguments

end CommandLine

end RamlScaffold
