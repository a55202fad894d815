import RamlScaffold.Yaml.ScalarText

/-
  The tokens of a text.

  Indentation opens and closes block collections.  A scalar,
  alias or flow that a colon follows on the same line was a
  key all along, so its key token is put in front of it when
  the colon is met.

  Key definitions include:
    * `Yaml.KeyCandidate`, `Yaml.Scan`
    * `Yaml.Scanner`
    * `Yaml.readToken`
    * `Yaml.tokens?`
-/

------------------------------------------------------------
-- State
------------------------------------------------------------

namespace RamlScaffold.Yaml

/- A place that may turn out to be the start of a key. -/
structure KeyCandidate where
  tokenNumber : Nat
  index : Nat
  line : Nat
  column : Nat
  isRequired : Bool

/-
  The state of a scanner.  `found` holds the tokens so far,
  the last one first; `outerKeys` holds the candidates of the
  flows around the current one.
-/
structure Scan where
  cursor : Cursor
  found : List Token := []
  indent : Option Nat := none
  outerIndents : List (Option Nat) := []
  key : Option KeyCandidate := none
  outerKeys : List (Option KeyCandidate) := []
  allowsKey : Bool := true

namespace Scan

/- Whether the scanner is inside a flow collection. -/
def inFlow (scan : Scan) : Bool :=
  !scan.outerKeys.isEmpty

/- The least column of what is nested in the current block. -/
def innerColumn (scan : Scan) : Nat :=
  match scan.indent with
  | none => 0
  | some column => column + 1

end Scan

/- A reader of tokens; it may refuse the text. -/
abbrev Scanner : Type → Type :=
  StateT Scan Option

end RamlScaffold.Yaml

------------------------------------------------------------
-- Steps
------------------------------------------------------------

namespace RamlScaffold.Yaml

/- Adds a token at the end. -/
def push (token : Token) : Scanner Unit :=
  modify fun scan => { scan with found := token :: scan.found }

/- Adds tokens in front of the token with a number. -/
def insertAt
    (number : Nat)
    (inserted : List Token) : Scanner Unit :=
  modify fun scan =>
    let later := scan.found.length - number
    { scan with
      found :=
        scan.found.take later ++ inserted.reverse ++
          scan.found.drop later }

/- Moves the scanner to another place. -/
def moveTo (cursor : Cursor) : Scanner Unit :=
  modify fun scan => { scan with cursor := cursor }

/- Passes characters of the current line. -/
def pass (count : Nat) : Scanner Unit :=
  modify fun scan =>
    { scan with cursor := scan.cursor.advance count }

/- Says whether a key may start at the next token. -/
def allowKey (allowed : Bool) : Scanner Unit :=
  modify fun scan => { scan with allowsKey := allowed }

/- Whether a candidate may still become a key. -/
def KeyCandidate.isFresh
    (candidate : KeyCandidate)
    (cursor : Cursor) : Bool :=
  candidate.line == cursor.line &&
    cursor.index ≤ candidate.index + 1024

/- Drops the candidate; one that is required is refused. -/
def dropKey : Scanner Unit := do
  match (← get).key with
  | some candidate =>
      if candidate.isRequired then failure
      else modify fun scan => { scan with key := none }
  | none => return ()

/- Notes the current place as the start of a possible key. -/
def noteKey : Scanner Unit := do
  let scan ← get
  if scan.allowsKey then
    dropKey
    let isRequired :=
      !scan.inFlow && scan.indent == some scan.cursor.column
    modify fun scan =>
      { scan with
        key := some
          { tokenNumber := scan.found.length
            index := scan.cursor.index
            line := scan.cursor.line
            column := scan.cursor.column
            isRequired := isRequired } }

/- Whether a column lies to the right of the current block. -/
def isDeeper
    (indent : Option Nat)
    (column : Nat) : Bool :=
  match indent with
  | none => true
  | some current => current < column

/- Opens a block at a column to the right of the current. -/
def openBlock
    (column : Nat)
    (opening : Token) : Scanner (List Token) := do
  let scan ← get
  if !scan.inFlow && isDeeper scan.indent column then
    set
      { scan with
        indent := some column
        outerIndents := scan.indent :: scan.outerIndents }
    return [opening]
  else return []

/- Closes one block after the other while the test holds. -/
def closeWhile
    (closes : Nat → Bool) :
    Option Nat → List (Option Nat) → Scanner Unit
  | none, _ => return ()
  | some _, [] => return ()
  | some column, outer :: rest =>
      if closes column then do
        push .blockEnd
        modify fun scan =>
          { scan with indent := outer, outerIndents := rest }
        closeWhile closes outer rest
      else return ()

/- Closes the blocks to the right of a column. -/
def closeBlocks (column : Nat) : Scanner Unit := do
  let scan ← get
  if scan.inFlow then return ()
  else
    closeWhile (fun indent => column < indent) scan.indent
      scan.outerIndents

/- Closes every block. -/
def closeAllBlocks : Scanner Unit := do
  let scan ← get
  if scan.inFlow then return ()
  else closeWhile (fun _ => true) scan.indent scan.outerIndents

/-
  Passes blanks, comments and breaks.  A tab is passed where
  no key could start, and a byte order mark at the start of a
  line, where it takes up a column.
-/
def skipToToken : Nat → Scanner Unit
  | 0 => failure
  | fuel + 1 => do
      let scan ← get
      let start := scan.cursor.skipByteOrderMark
      let passesTabs := scan.inFlow || !scan.allowsKey
      let blanks :=
        start.rest.takeWhile
          (fun c => c == ' ' || (passesTabs && c == '\t'))
      let cursor := start.advance blanks.length
      let cursor :=
        if cursor.head? == some '#' then cursor.skipToBreak
        else cursor
      if cursor.atBreak then
        set
          { scan with
            cursor := cursor.breakLine
            allowsKey := scan.allowsKey || !scan.inFlow }
        skipToToken fuel
      else moveTo cursor

end RamlScaffold.Yaml

------------------------------------------------------------
-- Directives
------------------------------------------------------------

namespace RamlScaffold.Yaml

/- Reads the longest run of characters of a kind. -/
def readRun (accepts : Char → Bool) : Scanner (List Char) := do
  let run := (← get).cursor.rest.takeWhile accepts
  pass run.length
  return run

/- Refuses unless a condition holds. -/
def require (condition : Bool) : Scanner Unit :=
  if condition then return () else failure

/- The next character, if there is one. -/
def nextChar? : Scanner (Option Char) := do
  return (← get).cursor.head?

/- Reads a part of a version number. -/
def readVersionPart : Scanner Nat := do
  let digits ← readRun Char.isDigit
  require (!digits.isEmpty && digits.length ≤ 9)
  return digits.foldl
    (fun value c => value * 10 + (c.toNat - '0'.toNat)) 0

/- A character of a tag. -/
def isTagChar (c : Char) : Bool :=
  isNameChar c || ";/?:@&=+$.!~*'()".toList.contains c

/- A character of a tag in full form. -/
def isFullTagChar (c : Char) : Bool :=
  isTagChar c || c == ',' || c == '[' || c == ']'

/- The bytes of a character that are escaped in a tag. -/
def readEscapedBytes? :
    Nat → List Char → Option (List Nat × List Char)
  | 0, rest => some ([], rest)
  | count + 1, '%' :: a :: b :: rest => do
      let high ← hexDigit? a
      let low ← hexDigit? b
      let (bytes, rest) ← readEscapedBytes? count rest
      return ((high * 16 + low) :: bytes, rest)
  | _, _ => none

/- How many bytes follow the first byte of a character. -/
def laterBytes? (first : Nat) : Option Nat :=
  if first < 0x80 then some 0
  else if first < 0xC0 then none
  else if first < 0xE0 then some 1
  else if first < 0xF0 then some 2
  else if first < 0xF8 then some 3
  else none

/- The character that escaped bytes stand for. -/
def charOfBytes? (bytes : List Nat) : Option Char :=
  match bytes with
  | [] => none
  | first :: later =>
      let start :=
        match later.length with
        | 0 => first
        | 1 => first - 0xC0
        | 2 => first - 0xE0
        | _ => first - 0xF0
      if later.all (fun byte => byte / 64 == 2) then
        let code :=
          later.foldl (fun code byte => code * 64 + byte % 64)
            start
        some (Char.ofNat code)
      else none

/- Reads the characters of a tag, some of them escaped. -/
def readTagChars
    (accepts : Char → Bool) :
    Nat → List Char → Scanner (List Char)
  | 0, _ => failure
  | fuel + 1, read => do
      match (← get).cursor.rest with
      | '%' :: a :: b :: rest =>
          let some high := hexDigit? a | failure
          let some low := hexDigit? b | failure
          let first := high * 16 + low
          let some count := laterBytes? first | failure
          let some (bytes, _) := readEscapedBytes? count rest
            | failure
          let some c := charOfBytes? (first :: bytes) | failure
          pass (3 * (count + 1))
          readTagChars accepts fuel (read ++ [c])
      | c :: _ =>
          if accepts c then do
            pass 1
            readTagChars accepts fuel (read ++ [c])
          else if c == '%' then failure
          else return read
      | [] => return read

/- Reads a part of a tag that may not be empty. -/
def readTagPart
    (accepts : Char → Bool)
    (before : List Char) : Scanner (List Char) := do
  let part ←
    readTagChars accepts ((← get).cursor.rest.length + 1) []
  require (!(before.isEmpty && part.isEmpty))
  return before.drop 1 ++ part

/- Reads the handle of a tag, with its exclamation marks. -/
def readTagHandle : Scanner (List Char) := do
  require ((← nextChar?) == some '!')
  pass 1
  let name ← readRun isNameChar
  if (← nextChar?) == some '!' then
    pass 1
    return '!' :: (name ++ ['!'])
  else return '!' :: name

/- Reads the values of a directive with a name. -/
def readDirectiveValue (name : String) : Scanner Token := do
  if name == "YAML" then
    let major ← readVersionPart
    require ((← nextChar?) == some '.')
    pass 1
    let minor ← readVersionPart
    return .version major minor
  else if name == "TAG" then
    let handle ← readTagHandle
    require
      (handle == ['!'] ||
        (2 ≤ handle.length && handle.getLast? == some '!'))
    require ((← nextChar?).any isSpacing)
    let _ ← readRun isSpacing
    let expansion ← readTagPart isFullTagChar []
    require (endsWord (← nextChar?))
    return .handle (String.ofList handle)
      (String.ofList expansion)
  else failure

/- Reads a directive with the rest of its line. -/
def readDirective : Scanner Unit := do
  pass 1
  let name ← readRun isNameChar
  require (!name.isEmpty && endsWord (← nextChar?))
  let _ ← readRun isSpacing
  let token ← readDirectiveValue (String.ofList name)
  let spaced := (← get).cursor.skipSpacing
  let ended :=
    if spaced.head? == some '#' then spaced.skipToBreak
    else spaced
  require (ended.rest.isEmpty || ended.atBreak)
  moveTo (if ended.atBreak then ended.breakLine else ended)
  push token

end RamlScaffold.Yaml

------------------------------------------------------------
-- Properties And Scalars
------------------------------------------------------------

namespace RamlScaffold.Yaml

/- Reads an anchor or alias, from its sign on. -/
def readAnchor (token : String → Token) : Scanner Unit := do
  noteKey
  allowKey false
  pass 1
  let name ← readRun isNameChar
  let next ← nextChar?
  require
    (!name.isEmpty &&
      (endsWord next ||
        next.any (fun c => "?:,]\x7d%@".toList.contains c ||
          c.toNat == 0x60)))
  push (token (String.ofList name))

/- Reads the handle and the suffix of a tag. -/
def readTagParts : Scanner (List Char × List Char) := do
  if (← get).cursor.ahead? 1 == some '<' then
    pass 2
    let name ← readTagPart isFullTagChar []
    require ((← nextChar?) == some '>')
    pass 1
    return ([], name)
  else
    let handle ← readTagHandle
    if 2 ≤ handle.length && handle.getLast? == some '!' then
      let suffix ← readTagPart isTagChar []
      return (handle, suffix)
    else
      let suffix ← readTagPart isTagChar handle
      if suffix.isEmpty then return ([], ['!'])
      else return (['!'], suffix)

/- Reads a tag. -/
def readTag : Scanner Unit := do
  noteKey
  allowKey false
  let (handle, suffix) ← readTagParts
  let next ← nextChar?
  let inFlow := (← get).inFlow
  require (endsWord next || (inFlow && next == some ','))
  push (.tag (String.ofList handle) (String.ofList suffix))

/- Reads a block scalar. -/
def readBlockScalar (isLiteral : Bool) : Scanner Unit := do
  dropKey
  allowKey true
  let scan ← get
  let some (content, cursor) :=
    readBlock? isLiteral scan.innerColumn scan.cursor | failure
  moveTo cursor
  push (.scalar (String.ofList content) false)

/- Reads a quoted scalar. -/
def readQuotedScalar (isSingle : IsSingle) : Scanner Unit := do
  noteKey
  allowKey false
  let some (content, cursor) :=
    readQuoted? isSingle (← get).cursor | failure
  moveTo cursor
  push (.scalar (String.ofList content) false)

/- Reads a plain scalar. -/
def readPlainScalar : Scanner Unit := do
  noteKey
  allowKey false
  let scan ← get
  let some plain :=
    readPlain? scan.inFlow scan.innerColumn scan.cursor
    | failure
  moveTo plain.cursor
  push (.scalar (String.ofList plain.content) true)
  if plain.endsLine then allowKey true

end RamlScaffold.Yaml

------------------------------------------------------------
-- Structure
------------------------------------------------------------

namespace RamlScaffold.Yaml

/- Ends what is open before a line that parts documents. -/
def closeDocument : Scanner Unit := do
  closeAllBlocks
  dropKey
  allowKey false

/- Opens a flow collection. -/
def openFlow (token : Token) : Scanner Unit := do
  noteKey
  modify fun scan =>
    { scan with
      key := none
      outerKeys := scan.key :: scan.outerKeys
      allowsKey := true }
  pass 1
  push token

/- Closes a flow collection. -/
def closeFlow (token : Token) : Scanner Unit := do
  dropKey
  modify fun scan =>
    match scan.outerKeys with
    | [] => { scan with allowsKey := false }
    | key :: keys =>
        { scan with
          key := key
          outerKeys := keys
          allowsKey := false }
  pass 1
  push token

/- Reads the comma of a flow collection. -/
def readFlowEntry : Scanner Unit := do
  dropKey
  allowKey true
  pass 1
  push .flowEntry

/- Opens a block at the current column. -/
def openBlockHere (opening : Token) : Scanner Unit := do
  let scan ← get
  if scan.inFlow then return ()
  else
    require scan.allowsKey
    (← openBlock scan.cursor.column opening).forM push

/- Reads the hyphen of a block sequence. -/
def readBlockEntry : Scanner Unit := do
  openBlockHere .blockSequence
  dropKey
  allowKey true
  pass 1
  push .blockEntry

/- Reads the sign of a key. -/
def readKey : Scanner Unit := do
  openBlockHere .blockMapping
  dropKey
  allowKey (!(← get).inFlow)
  pass 1
  push .key

/- Reads the colon before a value. -/
def readValue : Scanner Unit := do
  let scan ← get
  match scan.key with
  | some candidate =>
      if candidate.isFresh scan.cursor then
        let opened ← openBlock candidate.column .blockMapping
        insertAt candidate.tokenNumber (opened ++ [.key])
        modify fun scan => { scan with key := none }
        allowKey false
      else
        require (!candidate.isRequired)
        openBlockHere .blockMapping
        allowKey (!scan.inFlow)
  | none =>
      openBlockHere .blockMapping
      allowKey (!scan.inFlow)
  pass 1
  push .value

end RamlScaffold.Yaml

------------------------------------------------------------
-- Tokens
------------------------------------------------------------

namespace RamlScaffold.Yaml

/- Whether a plain scalar may start with what comes next. -/
def startsPlain
    (inFlow : Bool)
    (c : Char)
    (next : Option Char) : Bool :=
  let isSign :=
    "-?:,[]\x7b\x7d#&*!|>'\"%@".toList.contains c ||
      c.toNat == 0x60
  !(isSpacing c || isBreak c || isSign) ||
    (c == '-' && !next.any isSpacing) ||
    (!inFlow && (c == '?' || c == ':') && !endsWord next)

/- Reads the token that starts with a character. -/
def readTokenAt (c : Char) : Scanner Unit := do
  let scan ← get
  let next := scan.cursor.ahead? 1
  let standsAlone := scan.inFlow || endsWord next
  match c with
  | '[' => openFlow .flowSequence
  | '\x7b' => openFlow .flowMapping
  | ']' => closeFlow .flowSequenceEnd
  | '\x7d' => closeFlow .flowMappingEnd
  | ',' => readFlowEntry
  | '*' => readAnchor .alias
  | '&' => readAnchor .anchor
  | '!' => readTag
  | '\'' => readQuotedScalar true
  | '"' => readQuotedScalar false
  | _ =>
      if c == '-' && endsWord next then readBlockEntry
      else if c == '?' && standsAlone then readKey
      else if c == ':' && standsAlone then readValue
      else if c == '|' && !scan.inFlow then
        readBlockScalar true
      else if c == '>' && !scan.inFlow then
        readBlockScalar false
      else if startsPlain scan.inFlow c next then
        readPlainScalar
      else failure

/- Reads a token; the answer tells if there was one. -/
def readToken : Scanner Bool := do
  skipToToken ((← get).cursor.rest.length + 1)
  let cursor := (← get).cursor
  closeBlocks cursor.column
  match cursor.head? with
  | none =>
      closeDocument
      return false
  | some c =>
      if cursor.column == 0 && c == '%' then
        closeDocument
        readDirective
      else if cursor.atDocumentMark then
        closeDocument
        pass 3
        push (if c == '-' then .documentStart else .documentEnd)
      else readTokenAt c
      return true

/- Reads tokens up to the end of the text. -/
def readTokens : Nat → Scanner Unit
  | 0 => failure
  | fuel + 1 => do
      if (← readToken) then readTokens fuel else return ()

/- The tokens of a text, unless it is malformed. -/
def tokens? (text : List Char) : Option (List Token) :=
  ((readTokens (text.length + 2)).run
    { cursor := { rest := text } }).map
    (fun (_, scan) => scan.found.reverse)

end RamlScaffold.Yaml
