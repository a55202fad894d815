import RamlScaffold.Template.Expr

/-
  Reading a template from its source.

  The source is cut into texts, emissions and tags.  White
  space around a tag is dropped where a hyphen asks for it;
  blanks before a tag that starts a line and the line break
  after a tag are dropped unless a plus sign keeps them.

  Key definitions include:
    * `Template.Symbol`, `Template.Segment`
    * `Template.segments?`
    * `Template.readExpr`
    * `Template.readParts`
    * `Template.read?`
-/

------------------------------------------------------------
-- Symbols
------------------------------------------------------------

namespace RamlScaffold.Template

/- A symbol inside of an emission or a tag. -/
inductive Symbol where
  | name (content : String)
  | text (content : String)
  | integer (value : Nat)
  | sign (content : String)
deriving DecidableEq, Repr

/- A character that a name may start with. -/
def startsName (c : Char) : Bool :=
  c.isAlpha || c == '_'

/- A character of a name. -/
def isNameChar (c : Char) : Bool :=
  c.isAlphanum || c == '_'

/- Signs of two characters. -/
def longSigns : List (List Char) :=
  [['=', '='], ['!', '='], ['<', '='], ['>', '=']]

/- Signs of one character. -/
def shortSigns : List Char :=
  "()[].,:|~<>=+-*/%".toList

/- The text up to the quote that ends it. -/
def readString? (quote : Char) :
    List Char → Option (List Char × List Char)
  | [] => none
  | '\\' :: c :: rest =>
      let plain :=
        match c with
        | 'n' => '\n'
        | 'r' => '\r'
        | 't' => '\t'
        | c => c
      (readString? quote rest).map
        (fun (content, after) => (plain :: content, after))
  | c :: rest =>
      if c == quote then some ([], rest)
      else
        (readString? quote rest).map
          (fun (content, after) => (c :: content, after))

/- Reads the symbol that comes next. -/
def readSymbol? :
    List Char → Option (Symbol × List Char)
  | [] => none
  | c :: rest =>
      if startsName c then
        let name := (c :: rest).takeWhile isNameChar
        some (.name (String.ofList name), rest.dropWhile isNameChar)
      else if c.isDigit then
        let digits := (c :: rest).takeWhile Char.isDigit
        let value :=
          digits.foldl
            (fun value d => value * 10 + (d.toNat - '0'.toNat)) 0
        some (.integer value, rest.dropWhile Char.isDigit)
      else if c == '"' || c == '\'' then
        (readString? c rest).map
          (fun (content, after) =>
            (.text (String.ofList content), after))
      else
        match longSigns.find? (·.isPrefixOf (c :: rest)) with
        | some long =>
            some (.sign (String.ofList long), rest.drop 1)
        | none =>
            if shortSigns.contains c then
              some (.sign (String.ofList [c]), rest)
            else none

end RamlScaffold.Template

------------------------------------------------------------
-- Segments
------------------------------------------------------------

namespace RamlScaffold.Template

/- A segment of a source. -/
inductive Segment where
  | text (content : String)
  | emission (symbols : List Symbol)
  | tag (symbols : List Symbol)
deriving Repr

/- What a sign at the edge of a tag asks for. -/
inductive Edge where
  | usual
  | strip
  | keep
deriving DecidableEq

/- The edge that a sign stands for. -/
def edgeOf : Char → Edge
  | '-' => .strip
  | '+' => .keep
  | _ => .usual

/- Reads symbols up to the closing sign, with its edge. -/
def readSymbols?
    (closing : List Char) :
    Nat → List Char → Option (List Symbol × Edge × List Char)
  | 0, _ => none
  | fuel + 1, source =>
      let rest := source.dropWhile Char.isWhitespace
      if closing.isPrefixOf rest then
        some ([], .usual, rest.drop closing.length)
      else if ('-' :: closing).isPrefixOf rest then
        some ([], .strip, rest.drop (closing.length + 1))
      else if ('+' :: closing).isPrefixOf rest then
        some ([], .keep, rest.drop (closing.length + 1))
      else
        match readSymbol? rest with
        | none => none
        | some (symbol, after) =>
            (readSymbols? closing fuel after).map
              (fun (symbols, edge, left) =>
                (symbol :: symbols, edge, left))

/- What comes after a comment, with its edge. -/
def readComment? :
    Char → List Char → Option (Edge × List Char)
  | last, '#' :: '\x7d' :: rest => some (edgeOf last, rest)
  | _, c :: rest => readComment? c rest
  | _, [] => none

/- What follows a tag, without what its edge drops. -/
def afterEdge
    (dropsBreak : Bool)
    (edge : Edge)
    (rest : List Char) : List Char :=
  match edge with
  | .strip => Text.trimStart rest
  | .keep => rest
  | .usual =>
      if dropsBreak then
        match rest with
        | '\r' :: '\n' :: after => after
        | '\n' :: after => after
        | '\r' :: after => after
        | rest => rest
      else rest

/- Whether only blanks stand between a line start and here. -/
def startsLine (before : List Char) : Bool :=
  match before.dropWhile
      (fun c => Alphabet.isBlank c && c != '\n' && c != '\r') with
  | [] => true
  | c :: _ => c == '\n' || c == '\r'

/- A text without the blanks at its end. -/
def dropIndent (content : List Char) : List Char :=
  (content.reverse.dropWhile
    (fun c =>
      Alphabet.isBlank c && c != '\n' && c != '\r')).reverse

/- A text before an opening sign, without what is dropped. -/
def beforeEdge
    (dropsBlanks : Bool)
    (edge : Edge)
    (before content : List Char) : List Char :=
  match edge with
  | .strip => Text.trimEnd content
  | .keep => content
  | .usual =>
      if dropsBlanks && startsLine before then
        dropIndent content
      else content

/- The text up to the next opening sign. -/
def leadingText : List Char → List Char
  | [] => []
  | '\x7b' :: c :: rest =>
      if c == '\x7b' || c == '%' || c == '#' then []
      else '\x7b' :: leadingText (c :: rest)
  | c :: rest => c :: leadingText rest

/- A text as a segment, unless it is empty. -/
def textSegment (content : List Char) : List Segment :=
  if content.isEmpty then []
  else [.text (String.ofList content)]

/-
  The segments of a source.  `before` is what was read so far,
  the last character first.
-/
def segmentsFrom? :
    Nat → List Char → List Char → Option (List Segment)
  | 0, _, _ => none
  | fuel + 1, before, source =>
      let content := leadingText source
      let reached := content.reverse ++ before
      match source.drop content.length with
      | _ :: kind :: rest =>
          let edge := (rest.head?.map edgeOf).getD .usual
          let inner := if edge = .usual then rest else rest.drop 1
          let text :=
            textSegment
              (beforeEdge (kind != '\x7b') edge reached content)
          let proceed (closing : Edge) (left : List Char) :=
            let after := afterEdge (kind != '\x7b') closing left
            let consumed :=
              source.take (source.length - after.length)
            segmentsFrom? fuel (consumed.reverse ++ before) after
          if kind == '#' then
            (readComment? ' ' inner).bind
              (fun (closing, left) =>
                (proceed closing left).map (text ++ ·))
          else
            let sign :=
              if kind == '%' then ['%', '\x7d']
              else ['\x7d', '\x7d']
            (readSymbols? sign (inner.length + 1) inner).bind
              (fun (symbols, closing, left) =>
                let segment :=
                  if kind == '%' then Segment.tag symbols
                  else Segment.emission symbols
                (proceed closing left).map
                  (fun segments => text ++ segment :: segments))
      | _ => some (textSegment content)

/- The segments of a source. -/
def segments? (source : String) : Option (List Segment) :=
  segmentsFrom? (source.length + 1) [] source.toList

end RamlScaffold.Template

------------------------------------------------------------
-- Expressions
------------------------------------------------------------

namespace RamlScaffold.Template

/- A reader of expressions; it may refuse the symbols. -/
abbrev ExprReader : Type → Type :=
  StateT (List Symbol) Option

/- Passes a symbol if it is the one given. -/
def accept (symbol : Symbol) : ExprReader Bool := do
  match (← get) with
  | other :: rest =>
      if other = symbol then
        set rest
        return true
      else return false
  | [] => return false

/- Refuses unless the next symbol is the one given. -/
def expect (symbol : Symbol) : ExprReader Unit := do
  if (← accept symbol) then return () else failure

/- Reads a name. -/
def readName : ExprReader String := do
  match (← get) with
  | .name content :: rest =>
      set rest
      return content
  | _ => failure

/- The comparison that comes next, if one does. -/
def readComparison? : ExprReader (Option (Bool × Comparison)) := do
  match (← get) with
  | .sign sign :: rest =>
      let found : Option Comparison :=
        match sign with
        | "==" => some .equal
        | "!=" => some .unequal
        | "<" => some .below
        | "<=" => some .atMost
        | ">" => some .above
        | ">=" => some .atLeast
        | _ => none
      match found with
      | some comparison =>
          set rest
          return some (false, comparison)
      | none => return none
  | .name "in" :: rest =>
      set rest
      return some (false, .within)
  | .name "not" :: .name "in" :: rest =>
      set rest
      return some (true, .within)
  | _ => return none

/- The constant that a name stands for, if it does. -/
def constantOf? (name : String) : Option Value :=
  match name with
  | "true" | "True" => some (.bool true)
  | "false" | "False" => some (.bool false)
  | "none" | "None" => some .none
  | _ => none

/- Joins operands that an operator parts. -/
def readChain
    (operator : Symbol)
    (join : Expr → Expr → Expr)
    (readOperand : ExprReader Expr) :
    Nat → Expr → ExprReader Expr
  | 0, _ => failure
  | fuel + 1, left => do
      if (← accept operator) then
        let right ← readOperand
        readChain operator join readOperand fuel (join left right)
      else return left

mutual

/- Reads an expression. -/
def readExpr : Nat → ExprReader Expr
  | 0 => failure
  | fuel + 1 => do
      let value ← readEither fuel
      if (← accept (.name "if")) then
        let condition ← readEither fuel
        if (← accept (.name "else")) then
          let other ← readExpr fuel
          return .choice condition value other
        else
          return .choice condition value (.constant .undefined)
      else return value

/- Reads alternatives. -/
def readEither : Nat → ExprReader Expr
  | 0 => failure
  | fuel + 1 => do
      let left ← readBoth fuel
      readChain (.name "or") .either (readBoth fuel) fuel left

/- Reads a conjunction. -/
def readBoth : Nat → ExprReader Expr
  | 0 => failure
  | fuel + 1 => do
      let left ← readNegation fuel
      readChain (.name "and") .both (readNegation fuel) fuel left

/- Reads a negation or a comparison. -/
def readNegation : Nat → ExprReader Expr
  | 0 => failure
  | fuel + 1 => do
      if (← accept (.name "not")) then
        let operand ← readNegation fuel
        return .negation operand
      else
        let left ← readConcat fuel
        readCompared fuel left

/- Reads the comparisons that follow an operand. -/
def readCompared : Nat → Expr → ExprReader Expr
  | 0, _ => failure
  | fuel + 1, left => do
      match (← readComparison?) with
      | none => return left
      | some (isNegated, comparison) =>
          let right ← readConcat fuel
          let outcome := Expr.compare comparison left right
          readCompared fuel
            (if isNegated then .negation outcome else outcome)

/- Reads texts that are put together. -/
def readConcat : Nat → ExprReader Expr
  | 0 => failure
  | fuel + 1 => do
      let left ← readOperand fuel
      readChain (.sign "~") .concat (readOperand fuel) fuel left

/- Reads an operand with its filters and tests. -/
def readOperand : Nat → ExprReader Expr
  | 0 => failure
  | fuel + 1 => do
      let base ← readPrimary fuel
      let access ← readAccess fuel base
      readFilters fuel access

/- Reads a constant, a name, a list or a group. -/
def readPrimary : Nat → ExprReader Expr
  | 0 => failure
  | fuel + 1 => do
      match (← get) with
      | .name content :: rest =>
          set rest
          match constantOf? content with
          | some value => return .constant value
          | none => return .ref content
      | .text content :: rest =>
          set rest
          return .constant (.text content)
      | .integer value :: rest =>
          set rest
          return .constant (.integer value)
      | .sign "-" :: .integer value :: rest =>
          set rest
          return .constant (.integer (-(value : Int)))
      | .sign "(" :: rest =>
          set rest
          let inner ← readExpr fuel
          expect (.sign ")")
          return inner
      | .sign "[" :: rest =>
          set rest
          let items ← readList fuel (.sign "]") true
          return .list items
      | _ => failure

/- Reads the attributes and items that are asked for. -/
def readAccess : Nat → Expr → ExprReader Expr
  | 0, _ => failure
  | fuel + 1, base => do
      if (← accept (.sign ".")) then
        let name ← readName
        readAccess fuel (.attribute base name)
      else if (← accept (.sign "[")) then
        let key ← readExpr fuel
        expect (.sign "]")
        readAccess fuel (.item base key)
      else return base

/- Reads the filters and tests after an operand. -/
def readFilters : Nat → Expr → ExprReader Expr
  | 0, _ => failure
  | fuel + 1, base => do
      if (← accept (.sign "|")) then
        let name ← readName
        let args ←
          if (← accept (.sign "(")) then
            readList fuel (.sign ")") true
          else pure []
        readFilters fuel (.filter base name args)
      else if (← accept (.name "is")) then
        let isNegated ← accept (.name "not")
        let name ← readName
        let outcome := Expr.test base name
        readFilters fuel
          (if isNegated then .negation outcome else outcome)
      else return base

/- Reads expressions between commas and the sign after. -/
def readList : Nat → Symbol → Bool → ExprReader (List Expr)
  | 0, _, _ => failure
  | fuel + 1, closing, isFirst => do
      if (← accept closing) then return []
      else
        if !isFirst then expect (.sign ",")
        if !isFirst && (← accept closing) then return []
        else
          let item ← readExpr fuel
          return item :: (← readList fuel closing false)

end

/- What a reader makes of a row of symbols, all of it read. -/
def readWhole?
    (reader : Nat → ExprReader Expr)
    (symbols : List Symbol) : Option Expr :=
  match (reader (16 * (symbols.length + 1))).run symbols with
  | some (expr, []) => some expr
  | _ => none

/- The expression that a row of symbols is. -/
def exprOf? (symbols : List Symbol) : Option Expr :=
  readWhole? readExpr symbols

/-
  The source of a loop that a row of symbols is.  It is no
  choice, because the word `if` would belong to the loop.
-/
def sourceOf? (symbols : List Symbol) : Option Expr :=
  readWhole? readEither symbols

end RamlScaffold.Template

------------------------------------------------------------
-- Parts
------------------------------------------------------------

namespace RamlScaffold.Template

/- The names and the source of a loop. -/
structure LoopHead where
  targets : List String
  source : Expr

/- Reads the names before the word `in`. -/
def readTargets :
    Nat → List Symbol → Option (List String × List Symbol)
  | 0, _ => none
  | fuel + 1, symbols =>
      match symbols with
      | .name target :: .name "in" :: rest =>
          some ([target], rest)
      | .name target :: .sign "," :: rest =>
          (readTargets fuel rest).map
            (fun (targets, after) => (target :: targets, after))
      | _ => none

/- The head of a loop. -/
def loopHead? (symbols : List Symbol) : Option LoopHead :=
  (readTargets (symbols.length + 1) symbols).bind
    (fun (targets, rest) =>
      (sourceOf? rest).map (fun source => ⟨targets, source⟩))

/- The words of tags that end a row of parts. -/
def endsParts (word : String) : Bool :=
  ["elif", "else", "endif", "endfor"].contains word

/- A row of parts, the tag that ends it, and what follows. -/
structure PartsRead where
  parts : List Part
  ending : Option (String × List Symbol)
  rest : List Segment

mutual

/- Reads parts up to a tag that ends them. -/
def readParts : Nat → List Segment → Option PartsRead
  | 0, _ => none
  | _ + 1, [] => some ⟨[], none, []⟩
  | fuel + 1, .text content :: rest =>
      (readParts fuel rest).map
        (fun read =>
          { read with parts := .text content :: read.parts })
  | fuel + 1, .emission symbols :: rest => do
      let expr ← exprOf? symbols
      let read ← readParts fuel rest
      return { read with parts := .emit expr :: read.parts }
  | fuel + 1, .tag (.name word :: symbols) :: rest =>
      if endsParts word then
        some ⟨[], some (word, symbols), rest⟩
      else if word = "if" then do
        let condition ← exprOf? symbols
        let (part, rest) ← readBranch fuel condition rest
        let read ← readParts fuel rest
        return { read with parts := part :: read.parts }
      else if word = "for" then do
        let head ← loopHead? symbols
        let (part, rest) ← readLoop fuel head rest
        let read ← readParts fuel rest
        return { read with parts := part :: read.parts }
      else none
  | _ + 1, .tag _ :: _ => none

/- Reads a condition's parts up to the tag that ends it. -/
def readBranch :
    Nat → Expr → List Segment → Option (Part × List Segment)
  | 0, _, _ => none
  | fuel + 1, condition, segments => do
      let yes ← readParts fuel segments
      match yes.ending with
      | some ("endif", []) =>
          return (.branch condition yes.parts [], yes.rest)
      | some ("else", []) =>
          let no ← readParts fuel yes.rest
          match no.ending with
          | some ("endif", []) =>
              return (.branch condition yes.parts no.parts, no.rest)
          | _ => none
      | some ("elif", symbols) =>
          let other ← exprOf? symbols
          let (part, rest) ← readBranch fuel other yes.rest
          return (.branch condition yes.parts [part], rest)
      | _ => none

/- Reads the parts of a loop up to the tag that ends it. -/
def readLoop :
    Nat → LoopHead → List Segment → Option (Part × List Segment)
  | 0, _, _ => none
  | fuel + 1, head, segments => do
      let body ← readParts fuel segments
      match body.ending with
      | some ("endfor", []) =>
          let loop :=
            Part.each head.targets head.source body.parts []
          return (loop, body.rest)
      | some ("else", []) =>
          let otherwise ← readParts fuel body.rest
          match otherwise.ending with
          | some ("endfor", []) =>
              let loop :=
                Part.each head.targets head.source body.parts
                  otherwise.parts
              return (loop, otherwise.rest)
          | _ => none
      | _ => none

end

/- The template of a source, unless it is malformed. -/
def read? (source : String) : Option Template := do
  let segments ← segments? source
  let read ← readParts (2 * segments.length + 2) segments
  match read.ending with
  | none => some read.parts
  | some _ => none

end RamlScaffold.Template
