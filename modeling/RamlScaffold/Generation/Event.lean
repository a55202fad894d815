import RamlScaffold.Schema.Bodies

/-
  What a run reports while it is going on.

  Key definitions include:
    * `Level`
    * `EventSource`
    * `FieldValue`, `Event`
    * `Structure.events`, `Structure.declEvents`
    * `BodyStep.events`
-/

------------------------------------------------------------
-- Events
------------------------------------------------------------

namespace RamlScaffold

/- How important an event is. -/
inductive Level where
  | trace
  | debug
  | info
  | warn
  | error
deriving DecidableEq, Repr, Inhabited

namespace Level

/- The name of a level. -/
def name : Level → String
  | .trace => "TRACE"
  | .debug => "DEBUG"
  | .info => "INFO"
  | .warn => "WARN"
  | .error => "ERROR"

/- The rank of a level; more important levels are higher. -/
def rank : Level → Nat
  | .trace => 1
  | .debug => 2
  | .info => 3
  | .warn => 4
  | .error => 5

end Level

/- The part of the program that reports an event. -/
inductive EventSource where
  | structures
  | bodies
  | templates
  | resources
  | generation
  | formatting
  | commands
deriving DecidableEq, Repr

/- The name under which a filter knows a source. -/
def EventSource.target : EventSource → String
  | .structures => "ramlgen::generator::structure"
  | .bodies => "ramlgen::generator::body"
  | .templates => "ramlgen::generator::templates"
  | .resources => "ramlgen::generator::resource"
  | .generation => "ramlgen::generator::generate"
  | .formatting => "ramlgen::generator::format"
  | .commands => "ramlgen::cli::commands"

/- The value of a field of an event. -/
inductive FieldValue where
  | text (content : String)
  | count (value : Nat)
deriving DecidableEq, Repr

/- An event with its message and its fields. -/
structure Event where
  level : Level
  source : EventSource
  message : String
  fields : List (String × FieldValue) := []
deriving DecidableEq, Repr

end RamlScaffold

------------------------------------------------------------
-- Events of Synthesis
------------------------------------------------------------

namespace RamlScaffold

namespace Structure

/- What is reported when a structure is shaped. -/
def events (struct : Structure) : List Event :=
  let about := [("structure", FieldValue.text struct.name)]
  match struct.kind, struct.alias? with
  | .map, none =>
      [{ level := .warn
         source := .structures
         message :=
          "map type has neither additionalProperties nor a " ++
            "single property; no alias generated"
         fields := about }]
  | .enumeration, none =>
      [{ level := .debug
         source := .structures
         message :=
          "enum over a non-single type; no alias generated"
         fields := about }]
  | _, _ => []

/- What is reported when a catalog type is synthesized. -/
def declEvents
    (typeName : String)
    (struct : Structure) : List Event :=
  { level := .debug
    source := .structures
    message := "classified catalog type"
    fields :=
      [("structure", .text typeName),
        ("kind", .text struct.kind.title)] } ::
    struct.events

end Structure

/- What is reported at a step of the walk over bodies. -/
def BodyStep.events : BodyStep → List Event
  | .emit struct => struct.events
  | .skip methodName code =>
      [{ level := .debug
         source := .bodies
         message :=
          "additional JSON response maps to an existing " ++
            "structure name; skipped"
         fields :=
          [("structure", .text methodName),
            ("code", .text code)] }]

end RamlScaffold
