import RamlScaffold.Text.Words
import RamlScaffold.Pattern.Properties

/-
  Which texts are patterns of a regular-expression language
  without look-around and back-references.

  A pattern is read from the left in one pass.  The reader
  keeps the rest of the text, the group names used so far and
  the flags in force; its result is the size of what it read,
  in states of an unrolled automaton, because a pattern whose
  automaton grows too large is refused as well.

  Key definitions include:
    * `Pattern.Scan`, `Pattern.Reader`
    * `Pattern.readEscape`, `Pattern.readClass`
    * `Pattern.readTerms`
    * `Pattern.compiles`
-/

------------------------------------------------------------
-- Reader
------------------------------------------------------------

namespace RamlScaffold.Pattern

/- The state of a reader. -/
structure Scan where
  rest : List Char
  groupNames : List (List Char) := []
  ignoresBlanks : Bool := false
  unicode : Bool := true

/- A reader of a part of a pattern; it may refuse. -/
abbrev Reader : Type → Type :=
  StateT Scan Option

/- The next character, if there is one. -/
def peek : Reader (Option Char) := do
  return (← get).rest.head?

/- The character after the next one. -/
def peekSecond : Reader (Option Char) := do
  return (← get).rest.tail.head?

/- Passes a number of characters. -/
def drop (count : Nat) : Reader Unit :=
  modify fun scan => { scan with rest := scan.rest.drop count }

/- Reads a character; there has to be one. -/
def next : Reader Char := do
  match (← get).rest with
  | [] => failure
  | c :: _ =>
      drop 1
      return c

/- Reads a character that has to be the given one. -/
def expect (c : Char) : Reader Unit := do
  if (← next) == c then return () else failure

/- Passes a text if the rest starts with it. -/
def accept (text : List Char) : Reader Bool := do
  if text.isPrefixOf (← get).rest then
    drop text.length
    return true
  else return false

/- What is left after blanks and comments. -/
def afterBlanks : Nat → List Char → List Char
  | 0, rest => rest
  | fuel + 1, rest =>
      match rest.dropWhile Alphabet.isBlank with
      | '#' :: comment =>
          afterBlanks fuel (comment.dropWhile (· != '\n'))
      | other => other

/- Passes blanks and comments where the flags say so. -/
def skipBlanks : Reader Unit :=
  modify fun scan =>
    if scan.ignoresBlanks then
      { scan with
        rest := afterBlanks (scan.rest.length + 1) scan.rest }
    else scan

/- Refuses unless the condition holds. -/
def need (condition : Bool) : Reader Unit :=
  if condition then return () else failure

end RamlScaffold.Pattern

------------------------------------------------------------
-- Sizes
------------------------------------------------------------

namespace RamlScaffold.Pattern

/- The largest automaton that is accepted, in states. -/
def sizeLimit : Nat := 327680

/- The size of a character written as it is. -/
def charSize (c : Char) : Nat :=
  c.utf8Size

/- The size of a class with characters beyond ASCII. -/
def wideClassSize : Nat := 500

end RamlScaffold.Pattern

------------------------------------------------------------
-- Numbers
------------------------------------------------------------

namespace RamlScaffold.Pattern

/- The value of a hexadecimal digit. -/
def hexValue? (c : Char) : Option Nat :=
  if c.isDigit then some (c.toNat - '0'.toNat)
  else if 'a' ≤ c ∧ c ≤ 'f' then
    some (c.toNat - 'a'.toNat + 10)
  else if 'A' ≤ c ∧ c ≤ 'F' then
    some (c.toNat - 'A'.toNat + 10)
  else none

/- The value of hexadecimal digits, all of which are. -/
def hexNumber? (digits : List Char) : Option Nat :=
  digits.foldlM
    (fun value c => (hexValue? c).map (value * 16 + ·)) 0

/- The character of a code point, if there is one. -/
def charOfCode? (code : Nat) : Option Char :=
  if h : code.isValidChar then some (Char.ofNatAux code h)
  else none

/- Passes blanks, which may stand around a count anywhere. -/
def passBlanks : Reader Unit :=
  modify fun scan =>
    { scan with rest := scan.rest.dropWhile Alphabet.isBlank }

/- Reads a decimal count of at most 32 bits. -/
def readCount : Reader Nat := do
  skipBlanks
  passBlanks
  let digits := (← get).rest.takeWhile Char.isDigit
  need (!digits.isEmpty)
  drop digits.length
  passBlanks
  skipBlanks
  let count :=
    digits.foldl
      (fun value c => value * 10 + (c.toNat - '0'.toNat)) 0
  need (count < Nat.pow 2 32)
  return count

end RamlScaffold.Pattern

------------------------------------------------------------
-- Escapes
------------------------------------------------------------

namespace RamlScaffold.Pattern

/- What an escape stands for. -/
inductive Escape where
  | literal (c : Char)
  | byte (value : Nat)
  | charClass (size : Nat)
  | assertion
deriving DecidableEq

/- Reads the digits of a hexadecimal escape. -/
def readHex (kind : Char) : Reader Escape := do
  if (← accept ['\x7b']) then
    let digits := (← get).rest.takeWhile (· != '\x7d')
    drop digits.length
    expect '\x7d'
    need (!digits.isEmpty)
    let some code := hexNumber? digits | failure
    let some c := charOfCode? code | failure
    return .literal c
  else
    let width :=
      if kind == 'x' then 2 else if kind == 'u' then 4 else 8
    let digits := (← get).rest.take width
    need (digits.length == width)
    drop width
    let some code := hexNumber? digits | failure
    let some c := charOfCode? code | failure
    if kind == 'x' && 128 ≤ code && !(← get).unicode then
      return .byte code
    else return .literal c

/- A class name in the form in which names are compared. -/
def looseName (name : List Char) : String :=
  let kept :=
    (name.filter
      (fun c => !(c == ' ' || c == '_' || c == '-'))).map
      Char.toLower
  match kept with
  | 'i' :: 's' :: c :: rest => String.ofList (c :: rest)
  | _ => String.ofList kept

/- Whether a class may be asked for by a name alone. -/
def knowsName (name : String) : Bool :=
  binaryNames.contains name || categoryNames.contains name ||
    scriptNames.contains name

/- Whether a property has a value of a name. -/
def knowsValue
    (property value : String) : Bool :=
  match property with
  | "gc" | "generalcategory" => categoryNames.contains value
  | "sc" | "script" | "scx" | "scriptextensions" =>
      scriptNames.contains value
  | "age" => ageNames.contains value
  | "gcb" | "graphemeclusterbreak" =>
      graphemeBreakNames.contains value
  | "wb" | "wordbreak" => wordBreakNames.contains value
  | "sb" | "sentencebreak" =>
      sentenceBreakNames.contains value
  | _ => false

/- Whether the text between the braces names a class. -/
def knowsClass (name : List Char) : Bool :=
  let isSign (c : Char) : Bool := c == ':' || c == '='
  match name.dropWhile (fun c => !isSign c) with
  | [] => knowsName (looseName name)
  | _ :: value =>
      let property := name.takeWhile (fun c => !isSign c)
      let bare :=
        if ['!'].isSuffixOf property then property.dropLast
        else property
      knowsValue (looseName bare) (looseName value)

/- Reads the name of a class after `\p` or `\P`. -/
def readNamedClass : Reader Escape := do
  need (← get).unicode
  if (← accept ['\x7b']) then
    let name := (← get).rest.takeWhile (· != '\x7d')
    drop name.length
    expect '\x7d'
    need (knowsClass name)
  else
    let c ← next
    need (c != '\\' && knowsName (looseName [c]))
  return .charClass wideClassSize

/- The names a word boundary may be refined by. -/
def boundaryNames : List (List Char) :=
  ["start", "end", "start-half", "end-half"].map
    String.toList

/- Reads what may refine a word boundary. -/
def readBoundary : Reader Escape := do
  let rest := (← get).rest
  match rest with
  | '\x7b' :: inner =>
      let name := inner.takeWhile (· != '\x7d')
      let isName (c : Char) : Bool :=
        c.isAlpha || c == '-'
      match inner.head? with
      | some c =>
          if isName c then
            need (boundaryNames.contains name)
            drop (name.length + 1)
            expect '\x7d'
          else return .assertion
      | none => failure
  | _ => return .assertion
  return .assertion

/- Punctuation and other ASCII signs may be escaped. -/
def isEscapable (c : Char) : Bool :=
  Alphabet.isAscii c && !c.isAlphanum && c != '<' && c != '>'

/- Reads the part of an escape that follows the backslash. -/
def readEscape : Reader Escape := do
  let c ← next
  if c.isDigit then failure
  match c with
  | 'x' | 'u' | 'U' => readHex c
  | 'p' | 'P' => readNamedClass
  | 'd' | 's' | 'w' =>
      return .charClass
        (if (← get).unicode then wideClassSize else 1)
  | 'D' | 'S' | 'W' =>
      need (← get).unicode
      return .charClass wideClassSize
  | 'a' => return .literal '\x07'
  | 'f' => return .literal '\x0c'
  | 't' => return .literal '\t'
  | 'n' => return .literal '\n'
  | 'r' => return .literal '\r'
  | 'v' => return .literal '\x0b'
  | 'A' | 'z' | 'B' | '<' | '>' => return .assertion
  | 'b' => readBoundary
  | _ =>
      need (isEscapable c)
      return .literal c

end RamlScaffold.Pattern

------------------------------------------------------------
-- Bracketed Classes
------------------------------------------------------------

namespace RamlScaffold.Pattern

/- The classes with a name between colons. -/
def asciiClassNames : List (List Char) :=
  ["alnum", "alpha", "ascii", "blank", "cntrl", "digit",
    "graph", "lower", "print", "punct", "space", "upper",
    "word", "xdigit"].map String.toList

/- What is left after an ASCII class, if one is there. -/
def afterAsciiClass? (rest : List Char) : Option (List Char) :=
  match rest with
  | '[' :: ':' :: inner =>
      let bare := if inner.head? == some '^' then inner.tail
        else inner
      let name := bare.takeWhile (· != ':')
      match bare.dropWhile (· != ':') with
      | ':' :: ']' :: after =>
          if asciiClassNames.contains name then some after
          else none
      | _ => none
  | _ => none

/- Reads one item that may begin or end a range. -/
def readClassItem : Reader Escape := do
  if (← accept ['\\']) then
    match (← readEscape) with
    | .assertion => failure
    | item => return item
  else
    let c ← next
    need ((← get).unicode || Alphabet.isAscii c)
    return .literal c

/- Whether an item is a byte that is no character. -/
def Escape.isByte : Escape → Bool
  | .byte _ => true
  | _ => false

/- The character of an item, where the item is one. -/
def Escape.code? : Escape → Option Nat
  | .literal c => some c.toNat
  | .byte value => some value
  | _ => none

/- The size of an item of a class. -/
def Escape.size : Escape → Nat
  | .literal c => charSize c
  | .byte _ => 1
  | .charClass size => size
  | .assertion => 1

/- Reads an item of a class or a range between two. -/
def readClassRange : Reader Nat := do
  let first ← readClassItem
  need (!first.isByte)
  skipBlanks
  let second ← peek
  let third ← peekSecond
  need second.isSome
  if second != some '-' || third == some ']' ||
      third == some '-' then
    return first.size
  else
    drop 1
    skipBlanks
    let last ← readClassItem
    need (!last.isByte)
    let some low := first.code? | failure
    let some high := last.code? | failure
    need (low ≤ high)
    return if high < 128 then 1 else wideClassSize / 5

/- Reads the hyphens that may open a class. -/
def readLeadingHyphens : Nat → Reader Bool
  | 0 => return false
  | fuel + 1 => do
      skipBlanks
      need (← peek).isSome
      if (← accept ['-']) then
        let _ ← readLeadingHyphens fuel
        return true
      else return false

/- Reads what opens a class, after its bracket. -/
def readClassOpening : Reader Bool := do
  skipBlanks
  let negated ← accept ['^']
  let fuel := (← get).rest.length + 1
  let hyphens ← readLeadingHyphens fuel
  if !hyphens then
    if (← accept [']']) then
      skipBlanks
      need (← peek).isSome
  return negated

/-
  Reads a class up to the bracket that closes it.  `depth`
  counts the classes that are open around the reader.
-/
def readClassItems :
    Nat → Nat → Nat → Reader Nat
  | 0, _, _ => failure
  | fuel + 1, depth, size => do
      skipBlanks
      match (← peek) with
      | none => failure
      | some '[' =>
          match afterAsciiClass? (← get).rest with
          | some after =>
              modify fun scan => { scan with rest := after }
              readClassItems fuel depth (size + 1)
          | none =>
              drop 1
              let negated ← readClassOpening
              need (!negated || (← get).unicode)
              need (depth < 250)
              readClassItems fuel (depth + 1) size
      | some ']' =>
          drop 1
          match depth with
          | 0 => return size
          | outer + 1 => readClassItems fuel outer size
      | some _ =>
          let operator ←
            (do
              if (← accept ['&', '&']) then return true
              if (← accept ['-', '-']) then return true
              accept ['~', '~'])
          if operator then readClassItems fuel depth size
          else
            let item ← readClassRange
            readClassItems fuel depth (max size item)

/- Reads a class, after its opening bracket. -/
def readClass : Reader Nat := do
  let negated ← readClassOpening
  need (!negated || (← get).unicode)
  let size ←
    readClassItems ((← get).rest.length + 1) 0 1
  return if negated then max size wideClassSize else size

end RamlScaffold.Pattern

------------------------------------------------------------
-- Groups And Repetitions
------------------------------------------------------------

namespace RamlScaffold.Pattern

/- Flags as they are written between `(?` and `:` or `)`. -/
structure Flags where
  seen : List Char := []
  negated : Bool := false
  dangling : Bool := false
  ignoresBlanks : Option Bool := none
  unicode : Option Bool := none

/- Reads flags up to the character that ends them. -/
def readFlags : Nat → Flags → Reader (Flags × Char)
  | 0, _ => failure
  | fuel + 1, flags => do
      let c ← next
      match c with
      | ':' | ')' =>
          need (!flags.dangling)
          return (flags, c)
      | '-' =>
          need (!flags.negated)
          readFlags fuel
            { flags with negated := true, dangling := true }
      | _ =>
          need ("imsUuxR".toList.contains c)
          need (!flags.seen.contains c)
          let value := some (!flags.negated)
          readFlags fuel
            { flags with
              seen := c :: flags.seen
              dangling := false
              ignoresBlanks :=
                if c == 'x' then value else flags.ignoresBlanks
              unicode :=
                if c == 'u' then value else flags.unicode }

/- Puts flags in force. -/
def setFlags (flags : Flags) : Reader Unit :=
  modify fun scan =>
    { scan with
      ignoresBlanks := flags.ignoresBlanks.getD scan.ignoresBlanks
      unicode := flags.unicode.getD scan.unicode }

/- Reads the name of a group up to its closing bracket. -/
def readGroupName : Reader Unit := do
  let name := (← get).rest.takeWhile (· != '>')
  drop name.length
  expect '>'
  let isFirst (c : Char) : Bool :=
    c == '_' || Alphabet.isLetter c
  let isLater (c : Char) : Bool :=
    c == '_' || c == '.' || c == '[' || c == ']' ||
      Alphabet.isAlphanumeric c
  match name with
  | [] => failure
  | c :: rest =>
      need (isFirst c && rest.all isLater)
      need (!(← get).groupNames.contains name)
      modify fun scan =>
        { scan with groupNames := name :: scan.groupNames }

/- Passes the sign that makes a repetition prefer less. -/
def readLazySign : Reader Unit := do
  skipBlanks
  let _ ← accept ['?']
  return ()

/- Reads a counted repetition, after its opening brace. -/
def readCounted (size : Nat) : Reader Nat := do
  let low ← readCount
  let high ←
    (do
      if (← accept [',']) then
        skipBlanks
        if (← peek) == some '\x7d' then return low + 1
        else
          let high ← readCount
          need (low ≤ high)
          return high
      else return low)
  expect '\x7d'
  readLazySign
  let total := size * high + 1
  need (total ≤ sizeLimit)
  return total

/- What a group opening turned out to be. -/
inductive Opening where
  | group
  | flagsOnly

/- Reads what follows the parenthesis of a group. -/
def readGroupOpening : Reader Opening := do
  skipBlanks
  let lookAround :=
    [['?', '='], ['?', '!'], ['?', '<', '='],
      ['?', '<', '!']]
  let rest := (← get).rest
  need (!lookAround.any (fun sign => sign.isPrefixOf rest))
  if (← accept ['?', 'P', '<']) then
    readGroupName
    return .group
  if (← accept ['?', '<']) then
    readGroupName
    return .group
  if (← accept ['?']) then
    let (flags, last) ←
      readFlags ((← get).rest.length + 1) {}
    if last == ')' then
      need (!flags.seen.isEmpty || flags.negated)
      setFlags flags
      return .flagsOnly
    else
      setFlags flags
      return .group
  return .group

/-
  Reads terms up to the end or up to the parenthesis that
  closes the group around them.  `last` is the size of the
  term that a repetition would apply to, if there is one, and
  `depth` counts the groups around the reader.
-/
def readTerms :
    Nat → Nat → Nat → Option Nat → Reader Nat
  | 0, _, _, _ => failure
  | fuel + 1, depth, total, last => do
      skipBlanks
      let settled := total + last.getD 0
      need (settled ≤ sizeLimit)
      match (← peek) with
      | none => return settled
      | some c =>
          match c with
          | ')' => return settled
          | '|' =>
              drop 1
              readTerms fuel depth settled none
          | '(' =>
              drop 1
              let outer ← get
              match (← readGroupOpening) with
              | .flagsOnly =>
                  readTerms fuel depth settled none
              | .group =>
                  need (depth < 250)
                  let size ← readTerms fuel (depth + 1) 1 none
                  expect ')'
                  modify fun scan =>
                    { scan with
                      ignoresBlanks := outer.ignoresBlanks
                      unicode := outer.unicode }
                  readTerms fuel depth settled (some size)
          | '*' | '+' | '?' =>
              let some size := last | failure
              drop 1
              readLazySign
              readTerms fuel depth total (some (size + 1))
          | '\x7b' =>
              let some size := last | failure
              drop 1
              let repeated ← readCounted size
              readTerms fuel depth total (some repeated)
          | '[' =>
              drop 1
              let size ← readClass
              readTerms fuel depth settled (some size)
          | '\\' =>
              drop 1
              let escape ← readEscape
              need (!escape.isByte)
              readTerms fuel depth settled (some escape.size)
          | '.' =>
              drop 1
              need (← get).unicode
              readTerms fuel depth settled (some 4)
          | _ =>
              drop 1
              readTerms fuel depth settled (some (charSize c))

end RamlScaffold.Pattern

------------------------------------------------------------
-- Patterns
------------------------------------------------------------

namespace RamlScaffold.Pattern

/- Whether a text is a pattern that compiles. -/
def compiles (pattern : String) : Bool :=
  let text := pattern.toList
  match
    (readTerms (2 * text.length + 2) 0 0 none).run
      { rest := text } with
  | some (_, scan) => scan.rest.isEmpty
  | none => false

end RamlScaffold.Pattern
