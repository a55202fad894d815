import RamlScaffold.Keyed

/-
  The tables of a settings file in TOML.

  Only texts, truth values, arrays and tables are read.  Any
  other value is refused at once, because no setting has a
  number or a date.

  Key definitions include:
    * `Toml.Value`
    * `Toml.Reader`
    * `Toml.readValue`
    * `Toml.read?`
-/

------------------------------------------------------------
-- Values
------------------------------------------------------------

namespace RamlScaffold.Toml

/- How a table came to be. -/
inductive TableForm where
  | implied
  | headed
  | dotted
  | inline
deriving DecidableEq, Repr

/- A value of a settings file. -/
inductive Value where
  | text (content : String)
  | bool (value : Bool)
  | array (items : List Value)
  | table (form : TableForm) (entries : List (String × Value))
deriving Repr, Inhabited

/- The entries of a table. -/
abbrev Entries : Type :=
  List (String × Value)

/- Entries with the value of a key replaced or added. -/
def setEntry
    (entries : Entries)
    (key : String)
    (value : Value) : Entries :=
  match entries with
  | [] => [(key, value)]
  | (other, current) :: rest =>
      if other = key then (key, value) :: rest
      else (other, current) :: setEntry rest key value

/- Adds a value under dotted keys; it may not exist yet. -/
def addValue? :
    List String → Value → Entries → Option Entries
  | [], _, _ => none
  | [key], value, entries =>
      match entries.lookup key with
      | some _ => none
      | none => some (setEntry entries key value)
  | key :: keys, value, entries =>
      match entries.lookup key with
      | none =>
          (addValue? keys value []).map
            (fun inner =>
              setEntry entries key (.table .dotted inner))
      | some (.table .dotted inner) =>
          (addValue? keys value inner).map
            (fun inner =>
              setEntry entries key (.table .dotted inner))
      | some _ => none

/-
  Changes the table under a path of headers.  Tables on the
  way are made where they are missing.
-/
def atTable? :
    List String → (Value → Option Value) → Entries →
      Option Entries
  | [], _, _ => none
  | [key], changed, entries =>
      (changed
        ((entries.lookup key).getD (.table .implied []))).map
        (setEntry entries key)
  | key :: keys, changed, entries =>
      match (entries.lookup key).getD (.table .implied []) with
      | .table .inline _ => none
      | .table form inner =>
          (atTable? keys changed inner).map
            (fun inner => setEntry entries key (.table form inner))
      | .array items =>
          match items.getLast? with
          | some (.table .headed inner) =>
              (atTable? keys changed inner).map
                (fun inner =>
                  setEntry entries key
                    (.array
                      (items.dropLast ++ [.table .headed inner])))
          | _ => none
      | _ => none

/- Opens a table under a header; each opens once. -/
def openTable? : Value → Option Value
  | .table .implied inner => some (.table .headed inner)
  | _ => none

/- Adds a table to an array of tables. -/
def appendTable? : Value → Option Value
  | .table .implied [] => some (.array [.table .headed []])
  | .array items =>
      match items.getLast? with
      | some (.table .headed _) =>
          some (.array (items ++ [.table .headed []]))
      | _ => none
  | _ => none

/- Adds a value to the table that was opened last. -/
def extendTable?
    (keys : List String)
    (value : Value) : Value → Option Value
  | .table .headed inner =>
      (addValue? keys value inner).map (Value.table .headed)
  | .array items =>
      match items.getLast? with
      | some (.table .headed inner) =>
          (addValue? keys value inner).map
            (fun inner =>
              .array (items.dropLast ++ [.table .headed inner]))
      | _ => none
  | _ => none

end RamlScaffold.Toml

------------------------------------------------------------
-- Characters
------------------------------------------------------------

namespace RamlScaffold.Toml

/- A reader of a settings file; it may refuse the text. -/
abbrev Reader : Type → Type :=
  StateT (List Char) Option

/- The next character, if there is one. -/
def peek : Reader (Option Char) := do
  return (← get).head?

/- Passes a text if the rest starts with it. -/
def accept (text : List Char) : Reader Bool := do
  let rest ← get
  if text.isPrefixOf rest then
    set (rest.drop text.length)
    return true
  else return false

/- Refuses unless the rest starts with a text. -/
def expect (text : List Char) : Reader Unit := do
  if (← accept text) then return () else failure

/- Passes blanks inside a line. -/
def skipBlanks : Reader Unit :=
  modify fun rest =>
    rest.dropWhile (fun c => c == ' ' || c == '\t')

/- A character that may stand in a comment or a text. -/
def isPrintable (c : Char) : Bool :=
  c == '\t' || (32 ≤ c.toNat && c.toNat != 127)

/- Passes a comment, if one comes next. -/
def skipComment : Reader Unit :=
  modify fun rest =>
    match rest with
    | '#' :: comment => comment.dropWhile isPrintable
    | rest => rest

/- Passes a line break, if one comes next. -/
def acceptBreak : Reader Bool := do
  if (← accept ['\n']) then return true
  else accept ['\r', '\n']

/- Passes blanks, comments and line breaks. -/
def skipLines : Nat → Reader Unit
  | 0 => return ()
  | fuel + 1 => do
      skipBlanks
      skipComment
      if (← acceptBreak) then skipLines fuel else return ()

/- Reads the end of a line or of the text. -/
def endLine : Reader Unit := do
  skipBlanks
  skipComment
  if (← get).isEmpty then return ()
  else if (← acceptBreak) then return ()
  else failure

end RamlScaffold.Toml

------------------------------------------------------------
-- Texts
------------------------------------------------------------

namespace RamlScaffold.Toml

/- The value of a hexadecimal digit. -/
def hexDigit? (c : Char) : Option Nat :=
  if c.isDigit then some (c.toNat - '0'.toNat)
  else if 'a' ≤ c ∧ c ≤ 'f' then
    some (c.toNat - 'a'.toNat + 10)
  else if 'A' ≤ c ∧ c ≤ 'F' then
    some (c.toNat - 'A'.toNat + 10)
  else none

/- Reads the digits of an escaped character. -/
def readCode (width : Nat) : Reader Char := do
  let rest ← get
  let digits := rest.take width
  if digits.length = width then
    let some code :=
      digits.foldlM
        (fun code d => (hexDigit? d).map (code * 16 + ·)) 0
      | failure
    if code.isValidChar then
      set (rest.drop width)
      return Char.ofNat code
    else failure
  else failure

/- Reads what follows a backslash. -/
def readEscape : Reader Char := do
  match (← get) with
  | [] => failure
  | c :: rest =>
      set rest
      match c with
      | 'b' => return '\x08'
      | 't' => return '\t'
      | 'n' => return '\n'
      | 'f' => return '\x0c'
      | 'r' => return '\r'
      | 'e' => return '\x1b'
      | '"' => return '"'
      | '\\' => return '\\'
      | 'x' => readCode 2
      | 'u' => readCode 4
      | 'U' => readCode 8
      | _ => failure

/- Reads a text on one line, after its first quote. -/
def readLine (quote : Char) : Nat → Reader (List Char)
  | 0 => failure
  | fuel + 1 => do
      match (← get) with
      | [] => failure
      | c :: rest =>
          set rest
          if c == quote then return []
          else if c == '\\' && quote == '"' then
            let d ← readEscape
            return d :: (← readLine quote fuel)
          else if isPrintable c then
            return c :: (← readLine quote fuel)
          else failure

/- Passes a line break after a backslash, with its indent. -/
def skipJoin : Reader Bool := do
  let rest ← get
  let isBlank (c : Char) : Bool :=
    c == ' ' || c == '\t' || c == '\n' || c == '\r'
  match rest with
  | '\\' :: after =>
      let blanks := after.takeWhile (fun c => c == ' ' || c == '\t')
      match (after.drop blanks.length) with
      | '\n' :: _ =>
          set (after.dropWhile isBlank)
          return true
      | '\r' :: '\n' :: _ =>
          set (after.dropWhile isBlank)
          return true
      | _ => return false
  | _ => return false

/- Reads a text over several lines, after its quotes. -/
def readLong (quote : Char) : Nat → Reader (List Char)
  | 0 => failure
  | fuel + 1 => do
      let run := (← get).takeWhile (· == quote)
      if 3 ≤ run.length then
        if 5 < run.length then failure
        else
          modify fun rest => rest.drop run.length
          return run.drop 3
      else
        if quote == '"' && (← skipJoin) then readLong quote fuel
        else if (← acceptBreak) then
          return '\n' :: (← readLong quote fuel)
        else
          match (← get) with
          | [] => failure
          | c :: rest =>
              set rest
              if c == '\\' && quote == '"' then
                let d ← readEscape
                return d :: (← readLong quote fuel)
              else if isPrintable c then
                return c :: (← readLong quote fuel)
              else failure

/- Reads a text, from its first quote on. -/
def readText (quote : Char) : Reader String := do
  let fuel := (← get).length + 1
  if (← accept (List.replicate 3 quote)) then
    let _ ← acceptBreak
    return String.ofList (← readLong quote fuel)
  else
    expect [quote]
    return String.ofList (← readLine quote fuel)

end RamlScaffold.Toml

------------------------------------------------------------
-- Keys And Values
------------------------------------------------------------

namespace RamlScaffold.Toml

/- A character of a key without quotes. -/
def isKeyChar (c : Char) : Bool :=
  c.isAlphanum || c == '_' || c == '-'

/- Reads one part of a key. -/
def readKeyPart : Reader String := do
  match (← get) with
  | '"' :: rest =>
      set rest
      return String.ofList (← readLine '"' (rest.length + 1))
  | '\'' :: rest =>
      set rest
      return String.ofList (← readLine '\'' (rest.length + 1))
  | rest =>
      let part := rest.takeWhile isKeyChar
      if part.isEmpty then failure
      else
        set (rest.drop part.length)
        return String.ofList part

/- Reads the parts of a key between dots. -/
def readKey : Nat → Reader (List String)
  | 0 => failure
  | fuel + 1 => do
      skipBlanks
      let part ← readKeyPart
      skipBlanks
      if (← accept ['.']) then
        return part :: (← readKey fuel)
      else return [part]

mutual

/- Reads a value. -/
def readValue : Nat → Reader Value
  | 0 => failure
  | fuel + 1 => do
      match (← peek) with
      | some '"' => return .text (← readText '"')
      | some '\'' => return .text (← readText '\'')
      | some '[' =>
          expect ['[']
          return .array (← readItems fuel)
      | some '\x7b' =>
          expect ['\x7b']
          skipBlanks
          if (← accept ['\x7d']) then return .table .inline []
          else return .table .inline (← readPairs fuel [])
      | _ =>
          if (← accept "true".toList) then return .bool true
          else
            expect "false".toList
            return .bool false

/- Reads the items of an array and its end. -/
def readItems : Nat → Reader (List Value)
  | 0 => failure
  | fuel + 1 => do
      skipLines ((← get).length + 1)
      if (← accept [']']) then return []
      else
        let item ← readValue fuel
        skipLines ((← get).length + 1)
        if (← accept [',']) then
          return item :: (← readItems fuel)
        else
          expect [']']
          return [item]

/- Reads the pairs of an inline table and its end. -/
def readPairs : Nat → Entries → Reader Entries
  | 0, _ => failure
  | fuel + 1, entries => do
      let key ← readKey ((← get).length + 1)
      expect ['=']
      skipBlanks
      let value ← readValue fuel
      let some entries := addValue? key value entries | failure
      skipBlanks
      if (← accept [',']) then readPairs fuel entries
      else
        expect ['\x7d']
        return entries

end

end RamlScaffold.Toml

------------------------------------------------------------
-- Files
------------------------------------------------------------

namespace RamlScaffold.Toml

/- The entries so far and the header that is open. -/
structure Progress where
  entries : Entries := []
  header : Option (List String) := none

/- Reads a header in brackets. -/
def readHeader (progress : Progress) : Reader Progress := do
  let isArray ← accept ['[', '[']
  if !isArray then expect ['[']
  let key ← readKey ((← get).length + 1)
  expect (if isArray then [']', ']'] else [']'])
  let changed := if isArray then appendTable? else openTable?
  let some entries := atTable? key changed progress.entries
    | failure
  return ⟨entries, some key⟩

/- Reads a key with its value. -/
def readPair (progress : Progress) : Reader Progress := do
  let key ← readKey ((← get).length + 1)
  expect ['=']
  skipBlanks
  let value ← readValue ((← get).length + 1)
  let added :=
    match progress.header with
    | none => addValue? key value progress.entries
    | some header =>
        atTable? header (extendTable? key value)
          progress.entries
  let some entries := added | failure
  return { progress with entries := entries }

/- Reads the lines of a file. -/
def readLines : Nat → Progress → Reader Entries
  | 0, _ => failure
  | fuel + 1, progress => do
      skipLines ((← get).length + 1)
      match (← peek) with
      | none => return progress.entries
      | some '[' =>
          let progress ← readHeader progress
          endLine
          readLines fuel progress
      | some _ =>
          let progress ← readPair progress
          endLine
          readLines fuel progress

/- The entries of a settings file, unless it is malformed. -/
def read? (text : String) : Option Entries :=
  let characters :=
    match text.toList with
    | c :: rest => if c == '\ufeff' then rest else c :: rest
    | [] => []
  ((readLines (characters.length + 2) {}).run characters).map
    Prod.fst

end RamlScaffold.Toml
