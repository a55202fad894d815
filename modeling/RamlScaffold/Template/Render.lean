import RamlScaffold.Naming
import RamlScaffold.Template.Expr

/-
  The text that a template makes of a context.

  Key definitions include:
    * `Template.Fault`
    * `Template.Scope`
    * `Template.applyFilter`
    * `Template.Expr.eval`
    * `Template.renderParts`
    * `Template.render`
-/

------------------------------------------------------------
-- Faults And Scopes
------------------------------------------------------------

namespace RamlScaffold.Template

/- Why a template cannot be rendered. -/
inductive Fault where
  | unknownFilter (name : String)
  | unknownTest (name : String)
  | wrongOperand (filter : String)
  | attributeOfUndefined (name : String)
  | notIterable
  | notUnpackable
deriving DecidableEq, Repr

/- Names with their values; inner names come first. -/
abbrev Scope : Type :=
  List (String × Value)

/- The value of a name. -/
def Scope.value
    (scope : Scope)
    (name : String) : Value :=
  (scope.lookup name).getD .undefined

end RamlScaffold.Template

------------------------------------------------------------
-- Operations
------------------------------------------------------------

namespace RamlScaffold.Template

/- The value of an attribute. -/
def attributeOf
    (base : Value)
    (name : String) : Except Fault Value :=
  match base with
  | .undefined => .error (.attributeOfUndefined name)
  | .record entries =>
      .ok ((Keyed.get? name entries).getD .undefined)
  | _ => .ok .undefined

/- The value at a key or position. -/
def itemOf (base key : Value) : Except Fault Value :=
  match base, key with
  | base, .text name => attributeOf base name
  | .undefined, _ => .error (.attributeOfUndefined key.render)
  | .list items, .integer (.ofNat n) =>
      .ok ((items[n]?).getD .undefined)
  | .list items, .integer (.negSucc n) =>
      .ok ((items.reverse[n]?).getD .undefined)
  | _, _ => .ok .undefined

/- The items that a loop visits. -/
def itemsOf : Value → Except Fault (List Value)
  | .undefined => .ok []
  | .none => .ok []
  | .list items => .ok items
  | .record entries =>
      .ok (entries.map (fun entry => .text entry.1))
  | _ => .error .notIterable

/- Whether a value is contained in another. -/
def isWithin (part whole : Value) : Bool :=
  match whole with
  | .list items => items.any (fun item => item.same part)
  | .record entries =>
      entries.any (fun entry => (Value.text entry.1).same part)
  | .text content =>
      let pattern := part.render.toList
      (List.range (content.length + 1)).any
        (fun start => pattern.isPrefixOf (content.toList.drop start))
  | _ => false

/- The outcome of a comparison. -/
def holds
    (comparison : Comparison)
    (left right : Value) : Bool :=
  match comparison with
  | .equal => left.same right
  | .unequal => !left.same right
  | .below => left.isBelow right
  | .atMost => left.isBelow right || left.same right
  | .above => right.isBelow left
  | .atLeast => right.isBelow left || left.same right
  | .within => isWithin left right

/- Items joined; no separator comes before the first text. -/
def joinTexts
    (separator : String)
    (items : List String) : String :=
  items.foldl
    (fun joined item =>
      if joined = "" then item else joined ++ separator ++ item)
    ""

/- The count of items or characters. -/
def lengthOf : Value → Except Fault Value
  | .text content => .ok (.integer content.length)
  | .list items => .ok (.integer items.length)
  | .record entries => .ok (.integer entries.length)
  | _ => .error (.wrongOperand "length")

/- The entries of a record as pairs. -/
def pairsOf : Value → Except Fault Value
  | .record entries =>
      .ok
        (.list
          (entries.map (fun (key, value) =>
            .list [.text key, value])))
  | _ => .error (.wrongOperand "items")

/- The text operations among the filters. -/
def textFilter? (name : String) : Option (String → String) :=
  match name with
  | "upper" => some Alphabet.upperText
  | "lower" => some Alphabet.lowerText
  | "trim" => some Text.trimmed
  | "snake_case" => some Naming.snakeCase
  | "lower_camel" => some Naming.lowerCamel
  | "go_path" => some Naming.placeholderPath
  | "rust_path" => some Naming.snakePath
  | _ => none

/- The texts that are joined: items, or single characters. -/
def joinedTexts : Value → Except Fault (List String)
  | .text content =>
      .ok (content.toList.map (fun c => String.ofList [c]))
  | value => (itemsOf value).map (List.map Value.render)

/- The value that a filter makes of its operand. -/
def applyFilter
    (name : String)
    (operand : Value)
    (args : List Value) : Except Fault Value :=
  match textFilter? name, args with
  | some change, [] => .ok (.text (change operand.render))
  | some _, _ => .error (.wrongOperand name)
  | none, args =>
      match name, args with
      | "length", [] | "count", [] => lengthOf operand
      | "items", [] => pairsOf operand
      | "join", [] => do
          let texts ← joinedTexts operand
          return .text (joinTexts "" texts)
      | "join", [separator] => do
          let texts ← joinedTexts operand
          return .text (joinTexts separator.render texts)
      | "default", [other] | "d", [other] =>
          match operand with
          | .undefined => .ok other
          | value => .ok value
      | "first", [] => do
          let items ← itemsOf operand
          return items.head?.getD .undefined
      | "last", [] => do
          let items ← itemsOf operand
          return items.getLast?.getD .undefined
      | name, _ => .error (.unknownFilter name)

/- The outcome of a test. -/
def applyTest
    (name : String)
    (operand : Value) : Except Fault Bool :=
  match name with
  | "defined" => .ok (!operand.same .undefined)
  | "undefined" => .ok (operand.same .undefined)
  | "none" => .ok (operand.same .none)
  | name => .error (.unknownTest name)

end RamlScaffold.Template

------------------------------------------------------------
-- Evaluation
------------------------------------------------------------

namespace RamlScaffold.Template

namespace Expr

mutual

/- The value of an expression. -/
def eval (scope : Scope) : Expr → Except Fault Value
  | .constant value => .ok value
  | .list items => do
      let values ← evalList scope items
      return .list values
  | .ref target => .ok (scope.value target)
  | .attribute base key => do
      let value ← eval scope base
      attributeOf value key
  | .item base key => do
      let value ← eval scope base
      let key ← eval scope key
      itemOf value key
  | .filter base name args => do
      let operand ← eval scope base
      let values ← evalList scope args
      applyFilter name operand values
  | .test base name => do
      let operand ← eval scope base
      let outcome ← applyTest name operand
      return .bool outcome
  | .negation operand => do
      let value ← eval scope operand
      return .bool (!value.isTrue)
  | .both left right => do
      let value ← eval scope left
      if value.isTrue then eval scope right else return value
  | .either left right => do
      let value ← eval scope left
      if value.isTrue then return value else eval scope right
  | .compare comparison left right => do
      let a ← eval scope left
      let b ← eval scope right
      return .bool (holds comparison a b)
  | .concat left right => do
      let a ← eval scope left
      let b ← eval scope right
      return .text (a.render ++ b.render)
  | .choice condition yes no => do
      let value ← eval scope condition
      if value.isTrue then eval scope yes else eval scope no

/- The values of expressions, in order. -/
def evalList
    (scope : Scope) : List Expr → Except Fault (List Value)
  | [] => .ok []
  | expr :: exprs => do
      let value ← eval scope expr
      let values ← evalList scope exprs
      return value :: values

end

end Expr

end RamlScaffold.Template

------------------------------------------------------------
-- Rendering
------------------------------------------------------------

namespace RamlScaffold.Template

/- What a loop knows about its current step. -/
def loopState (index count : Nat) : Value :=
  .record
    (Keyed.ofList
      [("index", .integer (index + 1)),
        ("index0", .integer index),
        ("revindex", .integer (count - index : Nat)),
        ("revindex0", .integer (count - index - 1 : Nat)),
        ("first", .bool (index == 0)),
        ("last", .bool (index + 1 == count)),
        ("length", .integer count)])

/- The names that a step of a loop adds to the scope. -/
def bindTargets
    (targets : List String)
    (item : Value) : Except Fault Scope :=
  match targets with
  | [target] => .ok [(target, item)]
  | targets =>
      match item with
      | .list values =>
          if values.length = targets.length then
            .ok (targets.zip values)
          else .error .notUnpackable
      | _ => .error .notUnpackable

/- The scope of a step of a loop. -/
def stepScope
    (scope : Scope)
    (targets : List String)
    (count index : Nat)
    (item : Value) : Except Fault Scope := do
  let bound ← bindTargets targets item
  return bound ++ ("loop", loopState index count) :: scope

mutual

/- The text of a part. -/
def renderPart
    (scope : Scope) : Part → Except Fault String
  | .text content => .ok content
  | .emit expr => do
      let value ← expr.eval scope
      return value.render
  | .branch condition yes no => do
      let value ← condition.eval scope
      if value.isTrue then renderParts scope yes
      else renderParts scope no
  | .each targets source body otherwise => do
      let value ← source.eval scope
      let items ← itemsOf value
      if items.isEmpty then renderParts scope otherwise
      else
        let texts ←
          items.zipIdx.mapM
            (fun (item, index) => do
              let inner ←
                stepScope scope targets items.length index item
              renderParts inner body)
        return String.join texts

/- The text of parts, one after the other. -/
def renderParts
    (scope : Scope) : List Part → Except Fault String
  | [] => .ok ""
  | part :: parts => do
      let start ← renderPart scope part
      let rest ← renderParts scope parts
      return start ++ rest

end

/- The names that a context gives values to. -/
def scopeOf : Value → Scope
  | .record entries => entries
  | _ => []

/- The text that a template makes of a context. -/
def render
    (template : Template)
    (context : Value) : Except Fault String :=
  renderParts (scopeOf context) template

end RamlScaffold.Template
