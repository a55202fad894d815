import RamlScaffold.Generation.Generator
import RamlScaffold.Settings.Toml

/-
  The settings of a run: what the command line says, what a
  settings file next to the definition says, and defaults.

  Key definitions include:
    * `Settings`, `Settings.orElse`, `Settings.relativeTo`
    * `Options`, `Settings.resolve`
    * `Settings.ofToml?`
    * `Settings.load`, `settingsPathFor?`
-/

------------------------------------------------------------
-- Settings
------------------------------------------------------------

namespace RamlScaffold

/- Settings, each of which may be left open. -/
structure Settings where
  language : Option Language := none
  package : Option String := none
  mode : Option Mode := none
  templates : Option Path := none
  output : Option Path := none
  format : Option Bool := none
deriving DecidableEq, Repr, Inhabited

/- The settings of a run, all of them decided. -/
structure Options where
  language : Language
  package : String
  mode : Mode
  templates : Option Path
  output : Path
  format : Bool
  scope : Scope := {}
deriving DecidableEq, Repr

namespace Settings

/- Settings in which open ones are taken from others. -/
def orElse (settings fallback : Settings) : Settings where
  language := settings.language <|> fallback.language
  package := settings.package <|> fallback.package
  mode := settings.mode <|> fallback.mode
  templates := settings.templates <|> fallback.templates
  output := settings.output <|> fallback.output
  format := settings.format <|> fallback.format

/- Settings whose relative paths start at a directory. -/
def relativeTo
    (settings : Settings)
    (base : Path) : Settings :=
  { settings with
    templates := settings.templates.map base.join
    output := settings.output.map base.join }

/- The directory that is written to by default. -/
def defaultOutput : Path := ⟨"generated"⟩

/- Settings with defaults where they are open. -/
def resolve (settings : Settings) : Options :=
  let language := settings.language.getD .go
  { language := language
    package := settings.package.getD language.defaultPackage
    mode := settings.mode.getD .server
    templates := settings.templates
    output := settings.output.getD defaultOutput
    format := settings.format.getD true }

end Settings

end RamlScaffold

------------------------------------------------------------
-- Settings Files
------------------------------------------------------------

namespace RamlScaffold

/- The language of a name. -/
def Language.ofName? (name : String) : Option Language :=
  match name with
  | "go" => some .go
  | "rust" => some .rust
  | _ => none

/- The mode of a name. -/
def Mode.ofName? (name : String) : Option Mode :=
  match name with
  | "server" => some .server
  | "client" => some .client
  | _ => none

namespace Settings

/- Whether a value is an array or a table without content. -/
def isHollow : Toml.Value → Bool
  | .array items => items.isEmpty
  | .table _ entries => entries.isEmpty
  | _ => false

/-
  The name that a value chooses: a text, or the only key of a
  table if nothing is under it.
-/
def chosenName? : Toml.Value → Option String
  | .text content => some content
  | .table _ [(name, value)] =>
      if isHollow value then some name else none
  | _ => none

/- The text of a value. -/
def textOf? : Toml.Value → Option String
  | .text content => some content
  | _ => none

/- The truth value of a value. -/
def boolOf? : Toml.Value → Option Bool
  | .bool value => some value
  | _ => none

/- Settings with one more entry of a file. -/
def withEntry?
    (settings : Settings)
    (entry : String × Toml.Value) : Option Settings :=
  let (key, value) := entry
  match key with
  | "language" =>
      ((chosenName? value).bind Language.ofName?).map
        (fun language => { settings with language := language })
  | "package" =>
      (textOf? value).map
        (fun package => { settings with package := package })
  | "kind" =>
      ((chosenName? value).bind Mode.ofName?).map
        (fun mode => { settings with mode := mode })
  | "template_dir" =>
      (textOf? value).map
        (fun path => { settings with templates := some ⟨path⟩ })
  | "output" =>
      (textOf? value).map
        (fun path => { settings with output := some ⟨path⟩ })
  | "format" =>
      (boolOf? value).map
        (fun format => { settings with format := format })
  | _ => none

/- The settings that a text writes; other keys are refused. -/
def ofToml? (text : String) : Option Settings :=
  (Toml.read? text).bind (fun entries => entries.foldlM withEntry? {})

end Settings

end RamlScaffold

------------------------------------------------------------
-- Lookup
------------------------------------------------------------

namespace RamlScaffold

/- The name of a settings file. -/
def settingsFileName : String := "ramlgen.toml"

/- The settings file next to a definition, if there is one. -/
def settingsBeside?
    (files : FileTree)
    (spec : Path) : Option Path :=
  spec.parent?.bind
    (fun directory =>
      let path := directory.child settingsFileName
      if files.hasEntry path then some path else none)

/- The settings file of a run: a given one is not looked up. -/
def settingsPathFor?
    (files : FileTree)
    (given : Option Path)
    (spec : Path) : Option Path :=
  match given with
  | some path => some path
  | none => settingsBeside? files spec

namespace Settings

/- Reads a settings file; there may be none. -/
def load (path : Path) : Action (Option Settings) := do
  if (← Action.files).hasEntry path then
    let text ← Action.readFile path (.settingsUnreadable path)
    match ofToml? text with
    | some settings => return some settings
    | none => throw (.settingsInvalid path)
  else return none

/- The settings of the file of a run, if it has one. -/
def ofFile
    (given : Option Path)
    (spec : Path) : Action Settings := do
  match settingsPathFor? (← Action.files) given spec with
  | none => return {}
  | some path =>
      match (← load path) with
      | some settings =>
          Action.report
            { level := .debug
              source := .commands
              message := "loaded generator config"
              fields := [("path", .text path.text)] }
          let base := path.parent?.getD ⟨"."⟩
          return settings.relativeTo base
      | none =>
          if given.isSome then throw (.settingsMissing path)
          else return {}

end Settings

end RamlScaffold
