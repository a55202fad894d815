import RamlScaffold.Keyed
import RamlScaffold.Text.Words

/-
  The values that templates work on.

  A name without a value is undefined: it prints as nothing,
  counts as false and has no items.

  Key definitions include:
    * `Template.Value`
    * `Template.Value.isTrue`
    * `Template.Value.same`
    * `Template.Value.render`
-/

------------------------------------------------------------
-- Values
------------------------------------------------------------

namespace RamlScaffold.Template

/- A value in a template. -/
inductive Value where
  | undefined
  | none
  | bool (value : Bool)
  | integer (value : Int)
  | text (content : String)
  | list (items : List Value)
  | record (entries : List (String × Value))
deriving Repr, Inhabited

namespace Value

/- A list of texts. -/
def texts (contents : List String) : Value :=
  .list (contents.map text)

/- A text, or null where there is none. -/
def optional : Option String → Value
  | some content => .text content
  | .none => .none

/- Whether a condition with this value holds. -/
def isTrue : Value → Bool
  | .undefined => false
  | .none => false
  | .bool value => value
  | .integer value => value != 0
  | .text content => content != ""
  | .list items => !items.isEmpty
  | .record entries => !entries.isEmpty

end Value

end RamlScaffold.Template

------------------------------------------------------------
-- Comparison
------------------------------------------------------------

namespace RamlScaffold.Template

namespace Value

mutual

/- Equality of values. -/
def same : Value → Value → Bool
  | .undefined, other =>
      match other with
      | .undefined => true
      | _ => false
  | .none, other =>
      match other with
      | .none => true
      | _ => false
  | .bool a, other =>
      match other with
      | .bool b => a == b
      | _ => false
  | .integer a, other =>
      match other with
      | .integer b => a == b
      | _ => false
  | .text a, other =>
      match other with
      | .text b => a == b
      | _ => false
  | .list a, other =>
      match other with
      | .list b => sameItems a b
      | _ => false
  | .record a, other =>
      match other with
      | .record b => sameEntries a b
      | _ => false

/- Equality of items, in order. -/
def sameItems : List Value → List Value → Bool
  | [], others => others.isEmpty
  | item :: items, others =>
      match others with
      | [] => false
      | other :: others =>
          same item other && sameItems items others

/- Equality of entries, in order. -/
def sameEntries :
    List (String × Value) → List (String × Value) → Bool
  | [], others => others.isEmpty
  | (key, value) :: entries, others =>
      match others with
      | [] => false
      | other :: others =>
          key == other.1 && same value other.2 &&
            sameEntries entries others

end

/- Whether a value comes before another of its type. -/
def isBelow (a b : Value) : Bool :=
  match a, b with
  | .integer a, .integer b => a < b
  | .text a, .text b => a < b
  | _, _ => false

end Value

end RamlScaffold.Template

------------------------------------------------------------
-- Printing
------------------------------------------------------------

namespace RamlScaffold.Template

/- A text as it is shown inside of a list. -/
def quoted (content : String) : String :=
  let shown :=
    content.toList.flatMap
      (fun c =>
        match c with
        | '"' => ['\\', '"']
        | '\\' => ['\\', '\\']
        | '\n' => ['\\', 'n']
        | '\r' => ['\\', 'r']
        | '\t' => ['\\', 't']
        | c => [c])
  String.ofList ('"' :: (shown ++ ['"']))

namespace Value

mutual

/- A value as it is shown inside of another value. -/
def display : Value → String
  | .undefined => "Undefined"
  | .none => "None"
  | .bool value => if value then "True" else "False"
  | .integer value => toString value
  | .text content => quoted content
  | .list items => "[" ++ ", ".intercalate (showItems items) ++ "]"
  | .record entries =>
      "\x7b" ++ ", ".intercalate (showEntries entries) ++ "\x7d"

/- Items as they are shown. -/
def showItems : List Value → List String
  | [] => []
  | item :: items => display item :: showItems items

/- Entries as they are shown. -/
def showEntries : List (String × Value) → List String
  | [] => []
  | (key, value) :: entries =>
      (quoted key ++ ": " ++ display value) :: showEntries entries

end

/- A value as a template prints it. -/
def render : Value → String
  | .undefined => ""
  | .text content => content
  | value => value.display

end Value

end RamlScaffold.Template
