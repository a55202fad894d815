import RamlScaffold.Decimal

/-
  The value of a YAML document, with equality of keys and the
  views that other modules take of a value.

  A value may carry a local tag.  The views `asText?`,
  `asBool?` and `asMapping?` look through tags; whoever
  matches on a value directly sees the tag.

  Key definitions include:
    * `Yaml.Number`, `Yaml.Number.render`
    * `Yaml.Value`
    * `Yaml.Value.same`
    * `Yaml.Value.asText?`, `Yaml.Value.asBool?`
    * `Yaml.Value.asMapping?`
    * `Yaml.get?`
-/

------------------------------------------------------------
-- Numbers
------------------------------------------------------------

namespace RamlScaffold.Yaml

/- A number as documents hold it. -/
inductive Number where
  | integer (value : Int)
  | decimal (value : Decimal)
  | infinity (negative : Bool)
  | notANumber
deriving DecidableEq, Repr, Inhabited

namespace Number

/-
  Equality of numbers.  An integer never equals a decimal,
  both zeros are equal, and what is no number equals itself.
-/
def same : Number → Number → Bool
  | .decimal a, .decimal b =>
      (a.digits == 0 && b.digits == 0) || a == b
  | a, b => a == b

/- The written form of a number. -/
def render : Number → String
  | .integer value => toString value
  | .decimal value => value.render
  | .infinity negative => if negative then "-.inf" else ".inf"
  | .notANumber => ".nan"

end Number

end RamlScaffold.Yaml

------------------------------------------------------------
-- Values
------------------------------------------------------------

namespace RamlScaffold.Yaml

/- The value of a document or of a part of one. -/
inductive Value where
  | null
  | bool (value : Bool)
  | number (value : Number)
  | text (content : String)
  | sequence (items : List Value)
  | mapping (entries : List (Value × Value))
  | tagged (tag : String) (value : Value)
deriving Repr, Inhabited

namespace Value

mutual

/- Equality of values; entries may come in any order. -/
def same : Value → Value → Bool
  | .null, other =>
      match other with
      | .null => true
      | _ => false
  | .bool a, other =>
      match other with
      | .bool b => a == b
      | _ => false
  | .number a, other =>
      match other with
      | .number b => a.same b
      | _ => false
  | .text a, other =>
      match other with
      | .text b => a == b
      | _ => false
  | .sequence a, other =>
      match other with
      | .sequence b => sameItems a b
      | _ => false
  | .mapping a, other =>
      match other with
      | .mapping b => a.length == b.length && within a b
      | _ => false
  | .tagged tag a, other =>
      match other with
      | .tagged other b => tag == other && same a b
      | _ => false

/- Equality of items, in order. -/
def sameItems : List Value → List Value → Bool
  | [], others => others.isEmpty
  | item :: items, others =>
      match others with
      | [] => false
      | other :: others => same item other && sameItems items others

/- Whether all entries occur among others. -/
def within :
    List (Value × Value) → List (Value × Value) → Bool
  | [], _ => true
  | (key, value) :: entries, others =>
      others.any
        (fun other => same key other.1 && same value other.2) &&
        within entries others

end

end Value

end RamlScaffold.Yaml

------------------------------------------------------------
-- Views
------------------------------------------------------------

namespace RamlScaffold.Yaml

namespace Value

/- The value below its tags. -/
def untagged : Value → Value
  | .tagged _ value => untagged value
  | value => value

/- The text of a value, through tags. -/
def asText? (value : Value) : Option String :=
  match value.untagged with
  | .text content => some content
  | _ => none

/- The truth value of a value, through tags. -/
def asBool? (value : Value) : Option Bool :=
  match value.untagged with
  | .bool flag => some flag
  | _ => none

/- The entries of a value, through tags. -/
def asMapping? (value : Value) :
    Option (List (Value × Value)) :=
  match value.untagged with
  | .mapping entries => some entries
  | _ => none

/- Whether a value is the given text, without a tag. -/
def isText
    (content : String) : Value → Bool
  | .text other => content == other
  | _ => false

end Value

/- The value under a key that is a text. -/
def get?
    (key : String) :
    List (Value × Value) → Option Value
  | [] => none
  | (other, value) :: entries =>
      if other.isText key then some value
      else get? key entries

end RamlScaffold.Yaml
