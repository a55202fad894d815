import RamlScaffold.Language

/-
  The identifiers of structure members.

  Key definitions include:
    * `Language.exportedName`
    * `Language.memberName`
    * `Language.fieldName`
-/

------------------------------------------------------------
-- Field Names
------------------------------------------------------------

namespace RamlScaffold

namespace Language

/-
  A public Go member: the words of the wire name, which may
  hold underscores, title-cased and joined.  A leading digit
  is guarded by an `F`.
-/
def exportedName (wireName : String) : String :=
  let isWordChar (c : Char) : Bool :=
    Alphabet.isAlphanumeric c || c == '_'
  let joined :=
    (Text.words isWordChar wireName.toList).flatMap
      Naming.titleCase
  match joined with
  | [] => "Field"
  | c :: rest =>
      if c.isDigit then String.ofList ('F' :: c :: rest)
      else String.ofList (c :: rest)

/-
  A Rust member: the wire name in snake case, guarded against
  a leading digit and against the reserved words.
-/
def memberName (wireName : String) : String :=
  let snake := Naming.snakeChars wireName.toList
  let guarded :=
    match snake with
    | [] => ""
    | c :: rest =>
        if c.isDigit then String.ofList ('_' :: c :: rest)
        else String.ofList (c :: rest)
  if nonRawKeywords.contains guarded then guarded ++ "_"
  else if keywords.contains guarded then "r#" ++ guarded
  else guarded

/- The member identifier of a property's wire name. -/
def fieldName
    (language : Language)
    (wireName : String) : String :=
  match language with
  | .go => exportedName wireName
  | .rust => memberName wireName

end Language

end RamlScaffold
