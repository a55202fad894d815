import RamlScaffold.Yaml.Tokens

/-
  The nodes of a document, as its tokens describe them.

  Each anchor gets a number: the count of the names that are
  known when it is met.  An alias asks for the node that got
  the number of its name last.

  Key definitions include:
    * `Yaml.Node`
    * `Yaml.Reading`, `Yaml.NodeReader`
    * `Yaml.readNode`
    * `Yaml.root?`
-/

------------------------------------------------------------
-- Nodes
------------------------------------------------------------

namespace RamlScaffold.Yaml

/- What may stand in front of a node. -/
structure Properties where
  anchor : Option Nat := none
  tag : Option String := none
deriving Repr, Inhabited

/- A node of a document. -/
inductive Node where
  | alias (number : Nat)
  | scalar
      (properties : Properties)
      (content : String)
      (isPlain : Bool)
  | sequence (properties : Properties) (items : List Node)
  | mapping
      (properties : Properties)
      (entries : List (Node × Node))
deriving Repr, Inhabited

/- A node without any text. -/
def Node.empty (properties : Properties) : Node :=
  .scalar properties "" true

end RamlScaffold.Yaml

------------------------------------------------------------
-- State
------------------------------------------------------------

namespace RamlScaffold.Yaml

/- The state of a reader of nodes. -/
structure Reading where
  tokens : List Token
  names : List (String × Nat) := []
  handles : List (String × String) := []

/- A reader of nodes; it may refuse the tokens. -/
abbrev NodeReader : Type → Type :=
  StateT Reading Option

/- The next token, if there is one. -/
def peekToken? : NodeReader (Option Token) := do
  return (← get).tokens.head?

/- Passes a token. -/
def dropToken : NodeReader Unit :=
  modify fun reading =>
    { reading with tokens := reading.tokens.tail }

/- Passes the next token if it is the given one. -/
def acceptToken (token : Token) : NodeReader Bool := do
  if (← peekToken?) == some token then
    dropToken
    return true
  else return false

/- Refuses unless the next token is the given one. -/
def expectToken (token : Token) : NodeReader Unit := do
  if (← acceptToken token) then return () else failure

/- Whether the next token is one of those given. -/
def meets (tokens : List Token) : NodeReader Bool := do
  return (← peekToken?).any tokens.contains

/- Gives a name its number. -/
def nameAnchor (name : String) : NodeReader Nat := do
  let names := (← get).names
  let number := names.length
  modify fun reading =>
    { reading with
      names :=
        (name, number) ::
          names.filter (fun entry => entry.1 != name) }
  return number

/- A tag with its handle expanded. -/
def expandTag
    (handle suffix : String) : NodeReader String := do
  if handle = "" then return suffix
  else
    let some expansion := (← get).handles.lookup handle
      | failure
    return expansion ++ suffix

/- Reads an anchor and a tag, in either order. -/
def readProperties : Nat → Properties → NodeReader Properties
  | 0, properties => return properties
  | fuel + 1, properties => do
      match (← peekToken?) with
      | some (.anchor name) =>
          if properties.anchor.isSome then return properties
          else
            dropToken
            let number ← nameAnchor name
            readProperties fuel
              { properties with anchor := some number }
      | some (.tag handle suffix) =>
          if properties.tag.isSome then return properties
          else
            dropToken
            let tag ← expandTag handle suffix
            readProperties fuel
              { properties with tag := some tag }
      | _ => return properties

/- Whether there are any properties. -/
def Properties.isGiven (properties : Properties) : Bool :=
  properties.anchor.isSome || properties.tag.isSome

end RamlScaffold.Yaml

------------------------------------------------------------
-- Reading
------------------------------------------------------------

namespace RamlScaffold.Yaml

/- The places in which a node may stand. -/
inductive Place where
  | block
  | blockOrEntries
  | flow
deriving DecidableEq

mutual

/- Reads a node. -/
def readNode : Nat → Place → NodeReader Node
  | 0, _ => failure
  | fuel + 1, place => do
      match (← peekToken?) with
      | some (.alias name) =>
          dropToken
          let some number := (← get).names.lookup name
            | failure
          return .alias number
      | _ =>
          let properties ← readProperties 2 {}
          match (← peekToken?) with
          | some (.scalar content isPlain) =>
              dropToken
              return .scalar properties content isPlain
          | some .flowSequence =>
              dropToken
              let items ← readFlowItems fuel true
              return .sequence properties items
          | some .flowMapping =>
              dropToken
              let entries ← readFlowEntries fuel true
              return .mapping properties entries
          | some .blockEntry =>
              if place == .blockOrEntries then
                let items ← readPlainItems fuel
                return .sequence properties items
              else if properties.isGiven then
                return .empty properties
              else failure
          | some .blockSequence =>
              if place != .flow then
                dropToken
                let items ← readBlockItems fuel
                return .sequence properties items
              else if properties.isGiven then
                return .empty properties
              else failure
          | some .blockMapping =>
              if place != .flow then
                dropToken
                let entries ← readBlockEntries fuel
                return .mapping properties entries
              else if properties.isGiven then
                return .empty properties
              else failure
          | _ =>
              if properties.isGiven then
                return .empty properties
              else failure

/- Reads a node unless one of the given tokens comes next. -/
def readNodeUnless :
    Nat → List Token → Place → NodeReader Node
  | 0, _, _ => failure
  | fuel + 1, ends, place => do
      if (← meets ends) then return .empty {}
      else readNode fuel place

/- Reads the items of a block sequence and its end. -/
def readBlockItems : Nat → NodeReader (List Node)
  | 0 => failure
  | fuel + 1 => do
      if (← acceptToken .blockEntry) then
        let item ←
          readNodeUnless fuel [.blockEntry, .blockEnd] .block
        return item :: (← readBlockItems fuel)
      else
        expectToken .blockEnd
        return []

/- Reads items that stand at the column of their key. -/
def readPlainItems : Nat → NodeReader (List Node)
  | 0 => failure
  | fuel + 1 => do
      if (← acceptToken .blockEntry) then
        let item ←
          readNodeUnless fuel
            [.blockEntry, .key, .value, .blockEnd] .block
        return item :: (← readPlainItems fuel)
      else return []

/- Reads the entries of a block mapping and its end. -/
def readBlockEntries : Nat → NodeReader (List (Node × Node))
  | 0 => failure
  | fuel + 1 => do
      let ends := [.key, .value, .blockEnd]
      if (← acceptToken .key) then
        let key ← readNodeUnless fuel ends .blockOrEntries
        let value ←
          if (← acceptToken .value) then
            readNodeUnless fuel ends .blockOrEntries
          else pure (.empty {})
        return (key, value) :: (← readBlockEntries fuel)
      else
        expectToken .blockEnd
        return []

/- Reads the items of a flow sequence and its end. -/
def readFlowItems : Nat → Bool → NodeReader (List Node)
  | 0, _ => failure
  | fuel + 1, isFirst => do
      if (← acceptToken .flowSequenceEnd) then return []
      else
        if !isFirst then expectToken .flowEntry
        if (← acceptToken .key) then
          let entry ← readFlowPair fuel
          let item := .mapping {} [entry]
          return item :: (← readFlowItems fuel false)
        else if (← acceptToken .flowSequenceEnd) then return []
        else
          let item ← readNode fuel .flow
          return item :: (← readFlowItems fuel false)

/-
  Reads the lone entry of a mapping without braces.  Where its
  key is missing, the token in place of the key is passed.
-/
def readFlowPair : Nat → NodeReader (Node × Node)
  | 0 => failure
  | fuel + 1 => do
      let key ←
        if (← meets [.value, .flowEntry, .flowSequenceEnd]) then
          dropToken
          pure (.empty {})
        else readNode fuel .flow
      let value ←
        if (← acceptToken .value) then
          readNodeUnless fuel [.flowEntry, .flowSequenceEnd]
            .flow
        else pure (.empty {})
      return (key, value)

/- Reads the entries of a flow mapping and its end. -/
def readFlowEntries :
    Nat → Bool → NodeReader (List (Node × Node))
  | 0, _ => failure
  | fuel + 1, isFirst => do
      if (← acceptToken .flowMappingEnd) then return []
      else
        if !isFirst then expectToken .flowEntry
        if (← acceptToken .key) then
          let key ←
            readNodeUnless fuel
              [.value, .flowEntry, .flowMappingEnd] .flow
          let value ←
            if (← acceptToken .value) then
              readNodeUnless fuel [.flowEntry, .flowMappingEnd]
                .flow
            else pure (.empty {})
          return (key, value) :: (← readFlowEntries fuel false)
        else if (← acceptToken .flowMappingEnd) then return []
        else
          let key ← readNode fuel .flow
          return (key, .empty {}) ::
            (← readFlowEntries fuel false)

end

end RamlScaffold.Yaml

------------------------------------------------------------
-- Documents
------------------------------------------------------------

namespace RamlScaffold.Yaml

/- The handles that need no directive. -/
def standardHandles : List (String × String) :=
  [("!", "!"), ("!!", "tag:yaml.org,2002:")]

/-
  Reads the directives in front of a document.  There may be
  one version, and one expansion for each handle.
-/
def readDirectives : Nat → Bool → NodeReader Unit
  | 0, _ => failure
  | fuel + 1, hasVersion => do
      match (← peekToken?) with
      | some (.version major minor) =>
          if hasVersion || major != 1 ||
              !(minor == 1 || minor == 2) then failure
          else
            dropToken
            readDirectives fuel true
      | some (.handle name expansion) =>
          if ((← get).handles.lookup name).isSome then failure
          else
            dropToken
            modify fun reading =>
              { reading with
                handles := (name, expansion) :: reading.handles }
            readDirectives fuel hasVersion
      | _ => return ()

/- Passes the marks that end a document. -/
def dropDocumentEnds : Nat → NodeReader Unit
  | 0 => return ()
  | fuel + 1 => do
      if (← acceptToken .documentEnd) then
        dropDocumentEnds fuel
      else return ()

/- Reads the content of a document after its opening mark. -/
def readContent (fuel : Nat) : NodeReader Node := do
  match (← peekToken?) with
  | none => return .empty {}
  | some (.version _ _) => return .empty {}
  | some (.handle _ _) => return .empty {}
  | some _ =>
      readNodeUnless fuel [.documentStart, .documentEnd] .block

/- Reads the only document, or none from no tokens. -/
def readRoot : NodeReader (Option Node) := do
  let tokens := (← get).tokens
  let fuel := 4 * tokens.length + 8
  if tokens.isEmpty then return none
  else
    readDirectives fuel false
    modify fun reading =>
      { reading with
        handles := reading.handles ++ standardHandles }
    let sawDirectives :=
      (← get).tokens.length < tokens.length
    let root ←
      if sawDirectives || (← meets [.documentStart]) then
        expectToken .documentStart
        readContent fuel
      else readNode fuel .block
    dropDocumentEnds fuel
    if (← get).tokens.isEmpty then return some root
    else failure

/- The root of the only document of a row of tokens. -/
def root? (tokens : List Token) : Option (Option Node) :=
  (readRoot.run { tokens := tokens }).map Prod.fst

end RamlScaffold.Yaml
