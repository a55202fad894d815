/-
  The tokens of a YAML document and the place in a text from
  which the next token is read.

  Key definitions include:
    * `Yaml.Token`
    * `Yaml.Cursor`
    * `Yaml.Cursor.advance`, `Yaml.Cursor.breakLine`
    * `Yaml.isBreak`, `Yaml.isSpacing`, `Yaml.endsWord`
    * `Yaml.isAllowed`
-/

------------------------------------------------------------
-- Tokens
------------------------------------------------------------

namespace RamlScaffold.Yaml

/- A token of a document. -/
inductive Token where
  | version (major minor : Nat)
  | handle (name expansion : String)
  | documentStart
  | documentEnd
  | blockSequence
  | blockMapping
  | blockEnd
  | flowSequence
  | flowSequenceEnd
  | flowMapping
  | flowMappingEnd
  | blockEntry
  | flowEntry
  | key
  | value
  | alias (name : String)
  | anchor (name : String)
  | tag (handle suffix : String)
  | scalar (content : String) (isPlain : Bool)
deriving DecidableEq, Repr

end RamlScaffold.Yaml

------------------------------------------------------------
-- Characters
------------------------------------------------------------

namespace RamlScaffold.Yaml

/- A character that ends a line. -/
def isBreak (c : Char) : Bool :=
  c == '\n' || c == '\r' || c == '\u0085' ||
    c == '\u2028' || c == '\u2029'

/- A blank inside a line. -/
def isSpacing (c : Char) : Bool :=
  c == ' ' || c == '\t'

/- Whether a word ends before what comes next. -/
def endsWord : Option Char → Bool
  | none => true
  | some c => isSpacing c || isBreak c

/- A character that names and handles are made of. -/
def isNameChar (c : Char) : Bool :=
  c.isAlphanum || c == '_' || c == '-'

/- A character that may stand in a document at all. -/
def isAllowed (c : Char) : Bool :=
  let n := c.toNat
  n == 0x09 || n == 0x0A || n == 0x0D ||
    (0x20 ≤ n && n ≤ 0x7E) || n == 0x85 ||
    (0xA0 ≤ n && n ≤ 0xD7FF) ||
    (0xE000 ≤ n && n ≤ 0xFFFD) ||
    0x10000 ≤ n

end RamlScaffold.Yaml

------------------------------------------------------------
-- Places
------------------------------------------------------------

namespace RamlScaffold.Yaml

/- A place in a text: what is left of it and where it is. -/
structure Cursor where
  rest : List Char
  index : Nat := 0
  line : Nat := 0
  column : Nat := 0

namespace Cursor

/- The next character, if there is one. -/
def head? (cursor : Cursor) : Option Char :=
  cursor.rest.head?

/- The character some places ahead. -/
def ahead?
    (cursor : Cursor)
    (count : Nat) : Option Char :=
  (cursor.rest.drop count).head?

/- The place some characters later on the same line. -/
def advance
    (cursor : Cursor)
    (count : Nat) : Cursor :=
  { cursor with
    rest := cursor.rest.drop count
    index := cursor.index + count
    column := cursor.column + count }

/-
  The place after a line break.  A carriage return and a line
  feed after it are one break.
-/
def breakLine (cursor : Cursor) : Cursor :=
  let width :=
    match cursor.rest with
    | '\r' :: '\n' :: _ => 2
    | _ => 1
  { rest := cursor.rest.drop width
    index := cursor.index + width
    line := cursor.line + 1
    column := 0 }

/- Whether a line break comes next. -/
def atBreak (cursor : Cursor) : Bool :=
  cursor.head?.any isBreak

/- The text of the break that comes next. -/
def breakText (cursor : Cursor) : Char :=
  match cursor.head? with
  | some '\u2028' => '\u2028'
  | some '\u2029' => '\u2029'
  | _ => '\n'

/- Passes a byte order mark at the start of a line. -/
def skipByteOrderMark (cursor : Cursor) : Cursor :=
  if cursor.column == 0 && cursor.head? == some '\ufeff' then
    cursor.advance 1
  else cursor

/- Passes blanks inside a line. -/
def skipSpacing (cursor : Cursor) : Cursor :=
  cursor.advance (cursor.rest.takeWhile isSpacing).length

/- Passes what is left of a line. -/
def skipToBreak (cursor : Cursor) : Cursor :=
  cursor.advance
    (cursor.rest.takeWhile (fun c => !isBreak c)).length

/- Whether a text comes next, and then the end of a word. -/
def atWord
    (cursor : Cursor)
    (word : List Char) : Bool :=
  word.isPrefixOf cursor.rest &&
    endsWord (cursor.ahead? word.length)

/- Whether a line starts here that parts documents. -/
def atDocumentMark (cursor : Cursor) : Bool :=
  cursor.column == 0 &&
    (cursor.atWord ['-', '-', '-'] ||
      cursor.atWord ['.', '.', '.'])

end Cursor

end RamlScaffold.Yaml
