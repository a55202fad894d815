import RamlScaffold.Files.Path

/-
  Files and directories, as a map from places.

  Key definitions include:
    * `Contents`, `FileEntry`, `FileTree`
    * `FileTree.entry?`
    * `FileTree.readText?`, `FileTree.names?`
    * `WriteAccess`, `FileTree.write?`
    * `FileTree.createAll?`
    * `FileTree.remove`
-/

------------------------------------------------------------
-- Trees
------------------------------------------------------------

namespace RamlScaffold

/- What a file holds: a text, or bytes that are no text. -/
inductive Contents where
  | text (content : String)
  | binary (bytes : List UInt8)
deriving DecidableEq, Repr

/- What bytes are: a text, if they are valid UTF-8. -/
def Contents.ofBytes (bytes : ByteArray) : Contents :=
  match String.fromUTF8? bytes with
  | some content => .text content
  | none => .binary bytes.toList

/- A file or a directory. -/
inductive FileEntry where
  | directory
  | file (contents : Contents) (isProgram : Bool)
deriving DecidableEq, Repr

/- Entries under their places, one per place. -/
abbrev FileTree : Type :=
  List (Place × FileEntry)

namespace FileTree

/- The entry at a place; the starting points always exist. -/
def at?
    (tree : FileTree)
    (place : Place) : Option FileEntry :=
  if place = [] ∨ place = ["/"] then some .directory
  else tree.lookup place

/- A tree with an entry put at a place. -/
def set
    (tree : FileTree)
    (place : Place)
    (entry : FileEntry) : FileTree :=
  match tree with
  | [] => [(place, entry)]
  | (other, current) :: rest =>
      if other = place then (place, entry) :: rest
      else (other, current) :: set rest place entry

end FileTree

end RamlScaffold

------------------------------------------------------------
-- Queries
------------------------------------------------------------

namespace RamlScaffold

namespace FileTree

/- The entry that a path names. -/
def entry?
    (tree : FileTree)
    (path : Path) : Option FileEntry :=
  if path.text = "" then none
  else
    match tree.at? path.place with
    | some (.file contents isProgram) =>
        if path.asksDirectory then none
        else some (.file contents isProgram)
    | other => other

/- Whether a path names a directory. -/
def isDirectory
    (tree : FileTree)
    (path : Path) : Bool :=
  tree.entry? path == some .directory

/- Whether a path names a file. -/
def isFile
    (tree : FileTree)
    (path : Path) : Bool :=
  match tree.entry? path with
  | some (.file _ _) => true
  | _ => false

/- Whether a path names anything. -/
def hasEntry
    (tree : FileTree)
    (path : Path) : Bool :=
  (tree.entry? path).isSome

/- The text of a file, if it holds one. -/
def readText?
    (tree : FileTree)
    (path : Path) : Option String :=
  match tree.entry? path with
  | some (.file (.text content) _) => some content
  | _ => none

/- The name of an entry that lies directly at a place. -/
def nameBelow? (place other : Place) : Option String :=
  match other.getLast? with
  | some name => if other.dropLast = place then some name else none
  | none => none

/- The names in a directory, in ascending order. -/
def names?
    (tree : FileTree)
    (path : Path) : Option (List String) :=
  if tree.isDirectory path then
    let names :=
      tree.filterMap (fun entry => nameBelow? path.place entry.1)
    some (names.mergeSort (fun a b => a ≤ b))
  else none

end FileTree

end RamlScaffold

------------------------------------------------------------
-- Changes
------------------------------------------------------------

namespace RamlScaffold

/-
  The places at which the system lets files be written.  A run
  does not change them, and no tree tells which they are.
-/
class WriteAccess where
  allows : Place → Bool

namespace FileTree

/- Whether a program is at a place. -/
def isProgramAt
    (tree : FileTree)
    (place : Place) : Bool :=
  match tree.at? place with
  | some (.file _ isProgram) => isProgram
  | _ => false

/-
  A tree with a file written.  Writing has to be allowed, the
  directory of the file has to exist, and the file may not be
  a directory.
-/
def write?
    [WriteAccess]
    (tree : FileTree)
    (path : Path)
    (contents : Contents) : Option FileTree :=
  let place := path.place
  if path.text = "" ∨ path.asksDirectory = true then none
  else if WriteAccess.allows place = false then none
  else if tree.at? place = some .directory then none
  else if tree.at? place.dropLast = some .directory then
    some
      (tree.set place (.file contents (tree.isProgramAt place)))
  else none

/- The places on the way to a place, the shortest first. -/
def placesTo (place : Place) : List Place :=
  (List.range place.length).map
    (fun n => place.take (n + 1))

/- A tree with a directory at a place without an entry. -/
def addDirectory
    (tree : FileTree)
    (place : Place) : FileTree :=
  match tree.at? place with
  | none => tree.set place .directory
  | some _ => tree

/-
  A tree with a directory and all directories around it.  No
  file may stand in the way.
-/
def createAll?
    (tree : FileTree)
    (path : Path) : Option FileTree :=
  let places := placesTo path.place
  let isFree (place : Place) : Bool :=
    match tree.at? place with
    | some (.file _ _) => false
    | _ => true
  if places.all isFree then
    some (places.foldl addDirectory tree)
  else none

/- A tree without what a path names and all below it. -/
def remove
    (tree : FileTree)
    (path : Path) : FileTree :=
  tree.filter
    (fun entry => !path.place.isPrefixOf entry.1)

end FileTree

end RamlScaffold
