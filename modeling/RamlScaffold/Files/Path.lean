import RamlScaffold.Text.Words

/-
  Paths as they are written, and the places that they name.

  A place is a list of names below the working directory or
  below the root of all files; dots are resolved by name.

  Key definitions include:
    * `Path`, `Path.join`, `Path.parent?`
    * `Path.isAbsolute`
    * `Place`, `Path.place`
    * `stemOf`, `extensionOf?`
-/

------------------------------------------------------------
-- Paths
------------------------------------------------------------

namespace RamlScaffold

/- A path as it is written. -/
structure Path where
  text : String
deriving DecidableEq, Repr, Inhabited

namespace Path

/- Whether a path starts at the root of all files. -/
def isAbsolute (path : Path) : Bool :=
  path.text.toList.head? == some '/'

/- A path below another; an absolute path stands alone. -/
def join (base child : Path) : Path :=
  if child.isAbsolute then child
  else
    match base.text.toList.getLast? with
    | none => child
    | some '/' => ⟨base.text ++ child.text⟩
    | some _ => ⟨base.text ++ "/" ++ child.text⟩

/- A name below a path. -/
def child
    (base : Path)
    (name : String) : Path :=
  base.join ⟨name⟩

end Path

end RamlScaffold

------------------------------------------------------------
-- Parents
------------------------------------------------------------

namespace RamlScaffold

namespace Path

/-
  Reversed characters without slashes and lone dots in front.
  The slash of the root stays.
-/
def dropTail : List Char → List Char
  | ['/'] => ['/']
  | '/' :: rest => dropTail rest
  | ['.', '/'] => ['/']
  | '.' :: '/' :: rest => dropTail rest
  | reversed => reversed

/- The directory that holds a path, if one does. -/
def parent? (path : Path) : Option Path :=
  match dropTail path.text.toList.reverse with
  | [] => none
  | ['/'] => none
  | reversed =>
      let above := reversed.dropWhile (· != '/')
      some ⟨String.ofList (dropTail above).reverse⟩

end Path

end RamlScaffold

------------------------------------------------------------
-- Places
------------------------------------------------------------

namespace RamlScaffold

/- The names on the way to a file or directory. -/
abbrev Place : Type :=
  List String

namespace Path

/- One more name on the way to a place. -/
def step
    (place : Place)
    (name : String) : Place :=
  if name = "" || name = "." then place
  else if name = ".." then place.dropLast
  else place ++ [name]

/- The place that a path names. -/
def place (path : Path) : Place :=
  let names :=
    (Text.splitBy (· == '/') path.text.toList).map String.ofList
  let start := if path.isAbsolute then ["/"] else []
  names.foldl step start

/- Whether a path can only name a directory. -/
def asksDirectory (path : Path) : Bool :=
  match path.text.toList.reverse with
  | '/' :: _ => true
  | '.' :: '/' :: _ => true
  | ['.'] => true
  | '.' :: '.' :: '/' :: _ => true
  | ['.', '.'] => true
  | _ => false

end Path

end RamlScaffold

------------------------------------------------------------
-- File Names
------------------------------------------------------------

namespace RamlScaffold

/-
  The stem and the extension of a file name.  A dot at the
  start of a name opens no extension.
-/
def splitName (name : String) : String × Option String :=
  let reversed := name.toList.reverse
  let ending := reversed.takeWhile (· != '.')
  match reversed.drop ending.length with
  | [] => (name, none)
  | [_] => (name, none)
  | _ :: stem =>
      (String.ofList stem.reverse,
        some (String.ofList ending.reverse))

/- The stem of a file name. -/
def stemOf (name : String) : String :=
  (splitName name).1

/- The extension of a file name, if it has one. -/
def extensionOf? (name : String) : Option String :=
  (splitName name).2

end RamlScaffold
