import RamlScaffold.Yaml.Token

/-
  The text of scalars: plain ones, quoted ones and blocks.

  Lines are folded: a single break between two words becomes a
  space, and further breaks stay.  Each reader starts at the
  first character of a scalar and ends after its last one.

  Key definitions include:
    * `Yaml.Gap`, `Yaml.readGap?`
    * `Yaml.readPlain?`
    * `Yaml.readQuoted?`
    * `Yaml.readBlock?`
-/

------------------------------------------------------------
-- Gaps Between Words
------------------------------------------------------------

namespace RamlScaffold.Yaml

/- What stands between two words of a scalar. -/
structure Gap where
  spacing : List Char := []
  breaks : List Char := []
  isBroken : Bool := false

namespace Gap

/- Folded breaks: a lone line feed becomes a space. -/
def fold : List Char → List Char
  | ['\n'] => [' ']
  | '\n' :: rest => rest
  | breaks => breaks

/- The text that a gap leaves between two words. -/
def text (gap : Gap) : List Char :=
  if gap.isBroken then fold gap.breaks else gap.spacing

end Gap

/-
  Reads the blanks and breaks that come next.  On a later line
  a tab to the left of `indent` is refused.
-/
def readGap?
    (indent : Nat) :
    Nat → Gap → Cursor → Option (Gap × Cursor)
  | 0, _, _ => none
  | fuel + 1, gap, cursor =>
      match cursor.head? with
      | none => some (gap, cursor)
      | some c =>
          if isSpacing c then
            if gap.isBroken && cursor.column < indent &&
                c == '\t' then none
            else
              let spacing :=
                if gap.isBroken then gap.spacing
                else gap.spacing ++ [c]
              readGap? indent fuel
                { gap with spacing := spacing }
                (cursor.advance 1)
          else if isBreak c then
            readGap? indent fuel
              { gap with
                breaks := gap.breaks ++ [cursor.breakText]
                isBroken := true }
              cursor.breakLine
          else some (gap, cursor)

end RamlScaffold.Yaml

------------------------------------------------------------
-- Plain Scalars
------------------------------------------------------------

namespace RamlScaffold.Yaml

/- A character that ends a plain scalar in a flow. -/
def endsFlowWord (c : Char) : Bool :=
  c == ',' || c == '[' || c == ']' ||
    c == '\x7b' || c == '\x7d'

/-
  The next word of a plain scalar.  In a flow a colon right
  before an indicator is refused.
-/
def plainWord?
    (inFlow : Bool) :
    List Char → Option (List Char)
  | [] => some []
  | c :: rest =>
      let next := rest.head?
      if isSpacing c || isBreak c then some []
      else if inFlow && c == ':' &&
          next.any (fun d => endsFlowWord d || d == '?') then
        none
      else if (c == ':' && endsWord next) ||
          (inFlow && endsFlowWord c) then some []
      else (plainWord? inFlow rest).map (c :: ·)

/- A plain scalar, where it ends, and if it ended a line. -/
structure PlainText where
  content : List Char
  cursor : Cursor
  endsLine : Bool

/- Reads the words of a plain scalar. -/
def readPlainFrom?
    (inFlow : Bool)
    (indent : Nat) :
    Nat → List Char → Gap → Cursor → Option PlainText
  | 0, _, _, _ => none
  | fuel + 1, content, gap, cursor =>
      if cursor.atDocumentMark || cursor.head? == some '#' then
        some ⟨content, cursor, gap.isBroken⟩
      else
        (plainWord? inFlow cursor.rest).bind
          (fun word =>
            if word.isEmpty then
              some ⟨content, cursor, gap.isBroken⟩
            else
              let content := content ++ gap.text ++ word
              let cursor := cursor.advance word.length
              (readGap? indent (cursor.rest.length + 1) {}
                cursor).bind
                (fun (gap, later) =>
                  if later.index == cursor.index then
                    some ⟨content, cursor, false⟩
                  else if !inFlow && later.column < indent then
                    some ⟨content, later, gap.isBroken⟩
                  else
                    readPlainFrom? inFlow indent fuel content
                      gap later))

/-
  Reads a plain scalar.  Outside of flows its later lines
  start at `indent` or to the right of it.
-/
def readPlain?
    (inFlow : Bool)
    (indent : Nat)
    (cursor : Cursor) : Option PlainText :=
  readPlainFrom? inFlow indent (cursor.rest.length + 1) [] {}
    cursor

end RamlScaffold.Yaml

------------------------------------------------------------
-- Quoted Scalars
------------------------------------------------------------

namespace RamlScaffold.Yaml

/- The value of a hexadecimal digit. -/
def hexDigit? (c : Char) : Option Nat :=
  if c.isDigit then some (c.toNat - '0'.toNat)
  else if 'a' ≤ c ∧ c ≤ 'f' then
    some (c.toNat - 'a'.toNat + 10)
  else if 'A' ≤ c ∧ c ≤ 'F' then
    some (c.toNat - 'A'.toNat + 10)
  else none

/- The character that a single letter stands for. -/
def shortEscape? (c : Char) : Option Char :=
  match c with
  | '0' => some '\x00'
  | 'a' => some '\x07'
  | 'b' => some '\x08'
  | 't' | '\t' => some '\t'
  | 'n' => some '\n'
  | 'v' => some '\x0b'
  | 'f' => some '\x0c'
  | 'r' => some '\r'
  | 'e' => some '\x1b'
  | ' ' => some ' '
  | '"' => some '"'
  | '/' => some '/'
  | '\\' => some '\\'
  | 'N' => some '\u0085'
  | '_' => some '\u00a0'
  | 'L' => some '\u2028'
  | 'P' => some '\u2029'
  | _ => none

/- The count of digits that a letter announces. -/
def escapeWidth? (c : Char) : Option Nat :=
  match c with
  | 'x' => some 2
  | 'u' => some 4
  | 'U' => some 8
  | _ => none

/-
  The character of an escape and the count of characters that
  the escape takes after its backslash.
-/
def readEscape? : List Char → Option (Char × Nat)
  | [] => none
  | c :: rest =>
      match escapeWidth? c with
      | none => (shortEscape? c).map (fun d => (d, 1))
      | some width =>
          let digits := rest.take width
          if digits.length == width then
            (digits.foldlM
              (fun code d =>
                (hexDigit? d).map (code * 16 + ·)) 0).bind
              (fun code =>
                if code.isValidChar then
                  some (Char.ofNat code, width + 1)
                else none)
          else none

/- Whether a scalar is in single quotes. -/
abbrev IsSingle : Type := Bool

/- The quote that closes a scalar. -/
def closingQuote (isSingle : IsSingle) : Char :=
  if isSingle then '\'' else '"'

/-
  Reads the characters of a quoted scalar up to a blank, a
  break or the closing quote.  The flag tells whether an
  escaped break ended the word.
-/
def quotedWord?
    (isSingle : IsSingle) :
    Nat → List Char → Cursor →
      Option (List Char × Bool × Cursor)
  | 0, _, _ => none
  | fuel + 1, word, cursor =>
      match cursor.head? with
      | none => some (word, false, cursor)
      | some c =>
          let next := cursor.ahead? 1
          if isSpacing c || isBreak c then
            some (word, false, cursor)
          else if isSingle && c == '\'' && next == some '\''
          then
            quotedWord? isSingle fuel (word ++ ['\''])
              (cursor.advance 2)
          else if c == closingQuote isSingle then
            some (word, false, cursor)
          else if !isSingle && c == '\\' then
            if next.any isBreak then
              some (word, true, (cursor.advance 1).breakLine)
            else
              match readEscape? (cursor.rest.drop 1) with
              | none => none
              | some (d, width) =>
                  quotedWord? isSingle fuel (word ++ [d])
                    (cursor.advance (width + 1))
          else
            quotedWord? isSingle fuel (word ++ [c])
              (cursor.advance 1)

/- Reads the words of a quoted scalar and its last quote. -/
def readQuotedFrom?
    (isSingle : IsSingle) :
    Nat → List Char → Cursor → Option (List Char × Cursor)
  | 0, _, _ => none
  | fuel + 1, content, cursor =>
      if cursor.atDocumentMark || cursor.rest.isEmpty then none
      else
        (quotedWord? isSingle (cursor.rest.length + 1) []
          cursor).bind
          (fun (word, isBroken, cursor) =>
            let content := content ++ word
            if cursor.head? == some (closingQuote isSingle) then
              some (content, cursor.advance 1)
            else
              (readGap? 0 (cursor.rest.length + 1)
                { isBroken := isBroken } cursor).bind
                (fun (gap, cursor) =>
                  let between :=
                    if isBroken then gap.breaks else gap.text
                  readQuotedFrom? isSingle fuel
                    (content ++ between) cursor))

/- Reads a quoted scalar, from its first quote on. -/
def readQuoted?
    (isSingle : IsSingle)
    (cursor : Cursor) : Option (List Char × Cursor) :=
  readQuotedFrom? isSingle (cursor.rest.length + 1) []
    (cursor.advance 1)

end RamlScaffold.Yaml

------------------------------------------------------------
-- Block Scalars
------------------------------------------------------------

namespace RamlScaffold.Yaml

/- What becomes of the breaks at the end of a block. -/
inductive Chomping where
  | strip
  | clip
  | keep
deriving DecidableEq

/- The header of a block scalar. -/
structure BlockHeader where
  chomping : Chomping := .clip
  increment : Nat := 0

/- The chomping that a sign asks for. -/
def chompingOf? : Option Char → Option Chomping
  | some '+' => some .keep
  | some '-' => some .strip
  | _ => none

/- Reads a digit other than zero, if a digit comes next. -/
def readIncrement?
    (cursor : Cursor) : Option (Nat × Cursor) :=
  match cursor.head? with
  | some c =>
      if c == '0' then none
      else if c.isDigit then
        some (c.toNat - '0'.toNat, cursor.advance 1)
      else some (0, cursor)
  | none => some (0, cursor)

/- Reads the signs of a block header, in either order. -/
def readBlockSigns?
    (cursor : Cursor) : Option (BlockHeader × Cursor) :=
  match chompingOf? cursor.head? with
  | some chomping =>
      (readIncrement? (cursor.advance 1)).map
        (fun (increment, later) => (⟨chomping, increment⟩, later))
  | none =>
      (readIncrement? cursor).map
        (fun (increment, later) =>
          match chompingOf? later.head? with
          | some chomping =>
              (⟨chomping, increment⟩, later.advance 1)
          | none => (⟨.clip, increment⟩, later))

/- Reads a block header with the rest of its line. -/
def readBlockHeader?
    (cursor : Cursor) : Option (BlockHeader × Cursor) :=
  (readBlockSigns? cursor).bind
    (fun (header, later) =>
      let spaced := later.skipSpacing
      let ended :=
        if spaced.head? == some '#' then spaced.skipToBreak
        else spaced
      if ended.rest.isEmpty then some (header, ended)
      else if ended.atBreak then some (header, ended.breakLine)
      else none)

/- Empty lines before a line of a block. -/
structure BlankLines where
  breaks : List Char := []
  deepest : Nat := 0

/-
  Passes indentation and empty lines.  While the indentation
  of the block is not known, `indent` is zero.
-/
def readBlankLines?
    (indent : Nat) :
    Nat → BlankLines → Cursor → Option (BlankLines × Cursor)
  | 0, _, _ => none
  | fuel + 1, lines, cursor =>
      let spaces := (cursor.rest.takeWhile (· == ' ')).length
      let width :=
        if indent == 0 then spaces
        else min spaces (indent - cursor.column)
      let cursor := cursor.advance width
      let lines :=
        { lines with
          deepest := max lines.deepest cursor.column }
      if (indent == 0 || cursor.column < indent) &&
          cursor.head? == some '\t' then none
      else if cursor.atBreak then
        readBlankLines? indent fuel
          { lines with
            breaks := lines.breaks ++ [cursor.breakText] }
          cursor.breakLine
      else some (lines, cursor)

/- What has been read of a block. -/
structure BlockText where
  content : List Char := []
  lastBreak : List Char := []
  blankLines : List Char := []
  startsBlank : Bool := false

/- Reads the lines of a block with a known indentation. -/
def readBlockLines?
    (isLiteral : Bool)
    (indent : Nat) :
    Nat → BlockText → Cursor → Option (BlockText × Cursor)
  | 0, _, _ => none
  | fuel + 1, block, cursor =>
      if cursor.column != indent || cursor.rest.isEmpty then
        some (block, cursor)
      else
        let isBlank := cursor.head?.any isSpacing
        let folds :=
          !isLiteral && block.lastBreak == ['\n'] &&
            !block.startsBlank && !isBlank
        let between :=
          if folds then
            if block.blankLines.isEmpty then [' ']
            else block.blankLines
          else block.lastBreak ++ block.blankLines
        let line :=
          cursor.rest.takeWhile (fun c => !isBreak c)
        let cursor := cursor.advance line.length
        let lastBreak :=
          if cursor.atBreak then [cursor.breakText] else []
        let cursor :=
          if cursor.atBreak then cursor.breakLine else cursor
        (readBlankLines? indent (cursor.rest.length + 1) {}
          cursor).bind
          (fun (lines, cursor) =>
            readBlockLines? isLiteral indent fuel
              { content := block.content ++ between ++ line
                lastBreak := lastBreak
                blankLines := lines.breaks
                startsBlank := isBlank }
              cursor)

/-
  Reads a block scalar, from its indicator on.  `outer` is the
  indentation around it, counted from one, so that zero is a
  document without any.
-/
def readBlock?
    (isLiteral : Bool)
    (outer : Nat)
    (cursor : Cursor) : Option (List Char × Cursor) := do
  let (header, cursor) ← readBlockHeader? (cursor.advance 1)
  let given :=
    if header.increment == 0 then 0
    else (outer - 1) + header.increment
  let (lines, cursor) ←
    readBlankLines? given (cursor.rest.length + 1) {} cursor
  let indent :=
    if given == 0 then max (max lines.deepest outer) 1
    else given
  let (block, cursor) ←
    readBlockLines? isLiteral indent (cursor.rest.length + 1)
      { blankLines := lines.breaks } cursor
  let ending :=
    match header.chomping with
    | .strip => []
    | .clip => block.lastBreak
    | .keep => block.lastBreak ++ block.blankLines
  return (block.content ++ ending, cursor)

end RamlScaffold.Yaml
