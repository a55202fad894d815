import RamlScaffold.Text.Words

/-
  Identifiers and file stems made from resource paths, type
  names and property names.

  Key definitions include:
    * `Naming.titleCase`
    * `Naming.joinedWords`
    * `Naming.normalize`, `Naming.typeIdentifier`
    * `Naming.fileStem`
    * `Naming.snakeCase`
    * `Naming.lowerCamel`
    * `Naming.pathParams`
    * `Naming.placeholderPath`, `Naming.snakePath`
-/

------------------------------------------------------------
-- Identifiers
------------------------------------------------------------

namespace RamlScaffold.Naming

/- A word with its first character as a capital. -/
def titleCase : List Char → List Char
  | [] => []
  | c :: rest => Alphabet.upper c ++ rest

/- The title-cased words of a text, joined. -/
def joinedWords (text : List Char) : List Char :=
  (Text.words Alphabet.isAlphanumeric text).flatMap
    titleCase

/- The identifier of a text without any word. -/
def rootName : List Char :=
  ['R', 'o', 'o', 't']

/-
  The identifier of a path.  A path without words is the root
  and a leading digit is guarded by an `N`.
-/
def pathIdentifier (path : List Char) : List Char :=
  match joinedWords path with
  | [] => rootName
  | c :: rest =>
      if c.isDigit then 'N' :: c :: rest else c :: rest

/-
  The identifier of a path, followed by the words of a title
  such as the name of a verb.
-/
def normalize
    (path : String)
    (title : Option String) : String :=
  let tail :=
    match title with
    | none => []
    | some t => joinedWords t.toList
  String.ofList (pathIdentifier path.toList ++ tail)

/-
  The identifier of a catalog type.  Definitions and
  references use it alike, so a reference resolves.
-/
def typeIdentifier (name : String) : String :=
  normalize name none

/- The stem of the files of a resource, in small letters. -/
def fileStem (resourceName : String) : String :=
  Alphabet.lowerText resourceName

end RamlScaffold.Naming

------------------------------------------------------------
-- Snake Case
------------------------------------------------------------

namespace RamlScaffold.Naming

/- What stands before the next character to be written. -/
inductive Mark where
  | start
  | small
  | capital
  | gap
deriving DecidableEq, Repr

namespace Mark

/-
  Whether an underscore parts the next character from what
  stands before it: after a gap always, and between a small
  letter or digit and a capital.
-/
def parts
    (mark : Mark)
    (nextIsCapital : Bool) : Bool :=
  match mark with
  | .start => false
  | .small => nextIsCapital
  | .capital => false
  | .gap => true

/- The mark after a character that is not written. -/
def skip : Mark → Mark
  | .start => .start
  | _ => .gap

end Mark

/- The snake-case text that follows a mark. -/
def snakeFrom : Mark → List Char → List Char
  | _, [] => []
  | mark, c :: rest =>
      if Alphabet.isAlphanumeric c then
        let isCapital := Alphabet.isCapital c
        let part := if mark.parts isCapital then ['_'] else []
        if isCapital then
          part ++ Alphabet.lower c ++ snakeFrom .capital rest
        else
          part ++ c :: snakeFrom .small rest
      else snakeFrom mark.skip rest

/-
  Snake case of a character list.  A text without letters and
  numerals becomes a lone underscore.
-/
def snakeChars (text : List Char) : List Char :=
  match snakeFrom .start text with
  | [] => ['_']
  | snake => snake

/- `CamelCase` and `kebab-case` as `snake_case`. -/
def snakeCase (text : String) : String :=
  String.ofList (snakeChars text.toList)

end RamlScaffold.Naming

------------------------------------------------------------
-- Lower Camel Case
------------------------------------------------------------

namespace RamlScaffold.Naming

/-
  A parameter name: the joined words with a small first
  character, or `param` where there is no word.
-/
def lowerCamel (text : String) : String :=
  match joinedWords text.toList with
  | [] => "param"
  | c :: rest => String.ofList (Alphabet.lower c ++ rest)

end RamlScaffold.Naming

------------------------------------------------------------
-- Path Parameters
------------------------------------------------------------

namespace RamlScaffold.Naming

/-
  The nonempty names between braces.  `name` is the reversed
  text since the brace that is open, if one is; an opening
  brace inside a name belongs to the name.
-/
def paramsFrom :
    Option (List Char) → List Char → List (List Char)
  | _, [] => []
  | none, c :: rest =>
      if c == '\x7b' then paramsFrom (some []) rest
      else paramsFrom none rest
  | some name, c :: rest =>
      if c == '\x7d' then
        if name.isEmpty then paramsFrom none rest
        else name.reverse :: paramsFrom none rest
      else paramsFrom (some (c :: name)) rest

/- The parameters of a path, in order. -/
def pathParams (path : String) : List String :=
  (paramsFrom none path.toList).map String.ofList

/- A parameter as it stands in a path. -/
def braced (param : List Char) : List Char :=
  '\x7b' :: (param ++ ['\x7d'])

/-
  A path in which every parameter is replaced, one parameter
  after the other.
-/
def replaceParams
    (spell : List Char → List Char)
    (path : List Char) : List Char :=
  (paramsFrom none path).foldl
    (fun text param =>
      Text.replaceAll (braced param) (spell param) text)
    path

/- A path with the verb `%v` for every parameter. -/
def placeholderPath (path : String) : String :=
  String.ofList
    (replaceParams (fun _ => ['%', 'v']) path.toList)

/- A path with its parameters in snake case. -/
def snakePath (path : String) : String :=
  String.ofList
    (replaceParams
      (fun param => braced (snakeChars param))
      path.toList)

end RamlScaffold.Naming
