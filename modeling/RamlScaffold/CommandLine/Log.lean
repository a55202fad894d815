import RamlScaffold.Generation.Event
import RamlScaffold.Json

/-
  Which events a run shows, and how.

  A filter is a list of rules.  A rule is for all events or
  for the sources whose target starts with its text; the rule
  with the longest text decides, and of equal ones the last.

  Key definitions include:
    * `LogFormat`, `LogFormat.ofName`
    * `Level.ofName`
    * `LogRule`, `LogRule.ofText?`
    * `LogFilter.ofText?`, `LogFilter.choose`
    * `LogFilter.shows`
    * `Event.toJson`, `Event.line`
-/

------------------------------------------------------------
-- Formats And Levels
------------------------------------------------------------

namespace RamlScaffold

/- How events are shown. -/
inductive LogFormat where
  | json
  | pretty
deriving DecidableEq, Repr

namespace LogFormat

/- The format of a name; any other name is for readers. -/
def ofName (name : String) : LogFormat :=
  if Alphabet.lowerText name = "json" then .json else .pretty

/- The name of a format. -/
def name : LogFormat → String
  | .json => "json"
  | .pretty => "pretty"

end LogFormat

/- The level of a name; any other name means `INFO`. -/
def Level.ofName (name : String) : Level :=
  match Alphabet.lowerText name with
  | "trace" => .trace
  | "debug" => .debug
  | "info" => .info
  | "warn" => .warn
  | "error" => .error
  | _ => .info

end RamlScaffold

------------------------------------------------------------
-- Rules
------------------------------------------------------------

namespace RamlScaffold

/-
  A rule of a filter.  Without a target it is for all events;
  without a least level it shows none.
-/
structure LogRule where
  target : Option String
  least : Option Level
deriving DecidableEq, Repr

namespace LogRule

/- The least level of a number, which counts verbosity. -/
def leastOfNumber? : Nat → Option (Option Level)
  | 0 => some none
  | 1 => some (some .error)
  | 2 => some (some .warn)
  | 3 => some (some .info)
  | 4 => some (some .debug)
  | 5 => some (some .trace)
  | _ => none

/- The number that a text writes, if it writes one. -/
def number? (text : List Char) : Option Nat :=
  let digits :=
    match text with
    | '+' :: rest => rest
    | _ => text
  if digits ≠ [] ∧ digits.all Char.isDigit then
    some
      (digits.foldl
        (fun value c => value * 10 + (c.toNat - '0'.toNat)) 0)
  else none

/- The least level that a text names, in any case. -/
def leastOfText? (text : String) : Option (Option Level) :=
  match number? text.toList with
  | some value => leastOfNumber? value
  | none =>
      match Text.lowerAscii text with
      | "off" => some none
      | "error" => some (some .error)
      | "warn" => some (some .warn)
      | "info" => some (some .info)
      | "debug" => some (some .debug)
      | "trace" => some (some .trace)
      | _ => none

/- Whether a rule may start with a character. -/
def isStart (c : Char) : Bool :=
  c == '-' || c == ':' || c == '_' || Alphabet.isAlphanumeric c

/- The rule of a target with its level, or of either. -/
def ofText? (text : String) : Option LogRule :=
  let target := text.toList.takeWhile (· != '=')
  let level := (text.toList.drop target.length).drop 1
  if target.head?.any isStart then
    if text.toList.contains '=' then
      let least? :=
        if level.isEmpty then some (some .trace)
        else leastOfText? (String.ofList level)
      least?.map (fun least => ⟨some (String.ofList target), least⟩)
    else
      match leastOfText? text with
      | some least => some ⟨none, least⟩
      | none => some ⟨some text, some .trace⟩
  else none

/- Whether a rule is for the events of a target. -/
def covers
    (rule : LogRule)
    (target : String) : Bool :=
  match rule.target with
  | none => true
  | some start => start.toList.isPrefixOf target.toList

/- How much of a target a rule names. -/
def weight (rule : LogRule) : Nat :=
  match rule.target with
  | none => 0
  | some start => start.toList.length

/- Whether a rule shows events of a level. -/
def admits
    (rule : LogRule)
    (level : Level) : Bool :=
  match rule.least with
  | none => false
  | some least => least.rank ≤ level.rank

end LogRule

end RamlScaffold

------------------------------------------------------------
-- Filters
------------------------------------------------------------

namespace RamlScaffold

/- The rules that decide which events are shown. -/
abbrev LogFilter : Type :=
  List LogRule

namespace LogFilter

/- The filter that shows all events from a level on. -/
def atLevel (level : Level) : LogFilter :=
  [⟨none, some level⟩]

/- The rules of a text; a text without any shows errors. -/
def ofText? (text : String) : Option LogFilter :=
  let pieces :=
    (Text.splitBy (· == ',') text.toList).filter
      (fun piece => !piece.isEmpty)
  if pieces.isEmpty then some (atLevel .error)
  else pieces.mapM (fun piece => LogRule.ofText? (String.ofList piece))

/-
  The filter of a run.  A text with rules wins over the level
  of the command line, unless it is malformed.
-/
def choose
    (rules : Option String)
    (levelName : String) : LogFilter :=
  (rules.bind ofText?).getD (atLevel (Level.ofName levelName))

/- The rule that decides about a target, if one does. -/
def ruleFor?
    (filter : LogFilter)
    (target : String) : Option LogRule :=
  filter.foldl
    (fun best rule =>
      if rule.covers target then
        match best with
        | none => some rule
        | some other =>
            if other.weight ≤ rule.weight then some rule
            else some other
      else best)
    none

/- Whether an event is shown. -/
def shows
    (filter : LogFilter)
    (event : Event) : Bool :=
  match filter.ruleFor? event.source.target with
  | none => false
  | some rule => rule.admits event.level

end LogFilter

end RamlScaffold

------------------------------------------------------------
-- Lines
------------------------------------------------------------

namespace RamlScaffold

namespace FieldValue

/- The value of a field as a JSON value. -/
def toJson : FieldValue → Json
  | .text content => .text content
  | .count value => .count value

/- The value of a field for readers. -/
def display : FieldValue → String
  | .text content => content
  | .count value => toString value

end FieldValue

namespace Event

/- An event as a JSON value. -/
def toJson (event : Event) : Json :=
  .record
    [("level", .text event.level.name),
      ("fields",
        .record
          (("message", .text event.message) ::
            event.fields.map
              (fun (name, value) => (name, value.toJson)))),
      ("target", .text event.source.target)]

/- An event for readers. -/
def display (event : Event) : String :=
  let fields :=
    event.fields.map
      (fun (name, value) => name ++ "=" ++ value.display)
  " ".intercalate (event.level.name :: event.message :: fields)

/- An event on one line. -/
def line
    (format : LogFormat)
    (event : Event) : String :=
  match format with
  | .json => event.toJson.line
  | .pretty => event.display

end Event

end RamlScaffold
