import RamlScaffold.Yaml.Node
import RamlScaffold.Yaml.Scalar

/-
  The value of a YAML document.

  Nodes are turned into values from the root on.  A mapping
  holds each key once, values nest at most 128 deep, and
  aliases may not multiply a document without end.

  Key definitions include:
    * `Yaml.Node.anchored`
    * `Yaml.Node.size`
    * `Yaml.valueOf?`
    * `Yaml.read?`
-/

------------------------------------------------------------
-- Anchored Nodes
------------------------------------------------------------

namespace RamlScaffold.Yaml

namespace Node

/- A node under its number, if it has one. -/
def numbered
    (properties : Properties)
    (node : Node) : List (Nat × Node) :=
  match properties.anchor with
  | some number => [(number, node)]
  | none => []

mutual

/- The anchored nodes of a tree, in document order. -/
def anchored : Node → List (Nat × Node)
  | .alias _ => []
  | .scalar properties content isPlain =>
      numbered properties (.scalar properties content isPlain)
  | .sequence properties items =>
      numbered properties (.sequence properties items) ++
        anchoredItems items
  | .mapping properties entries =>
      numbered properties (.mapping properties entries) ++
        anchoredEntries entries

/- The anchored nodes of items. -/
def anchoredItems : List Node → List (Nat × Node)
  | [] => []
  | item :: items => anchored item ++ anchoredItems items

/- The anchored nodes of entries. -/
def anchoredEntries :
    List (Node × Node) → List (Nat × Node)
  | [] => []
  | (key, value) :: entries =>
      anchored key ++ anchored value ++ anchoredEntries entries

end

mutual

/- The count of marks that a tree is written with. -/
def size : Node → Nat
  | .alias _ => 1
  | .scalar _ _ _ => 1
  | .sequence _ items => 2 + sizeOfItems items
  | .mapping _ entries => 2 + sizeOfEntries entries

/- The count of marks of items. -/
def sizeOfItems : List Node → Nat
  | [] => 0
  | item :: items => size item + sizeOfItems items

/- The count of marks of entries. -/
def sizeOfEntries : List (Node × Node) → Nat
  | [] => 0
  | (key, value) :: entries =>
      size key + size value + sizeOfEntries entries

end

end Node

end RamlScaffold.Yaml

------------------------------------------------------------
-- Values
------------------------------------------------------------

namespace RamlScaffold.Yaml

/- The state is the count of aliases that may be followed. -/
abbrev Composer : Type → Type :=
  StateT Nat Option

/- What a local tag names, if the tag is local. -/
def localTag? (tag : Option String) : Option String :=
  match tag.map String.toList with
  | some ('!' :: name) => some (String.ofList name)
  | _ => none

/- A value under the local tag of its node, if it has one. -/
def underTag
    (tag : Option String)
    (value : Value) : Option Value :=
  match localTag? tag with
  | none => some value
  | some name =>
      if name = "" then none else some (.tagged name value)

/- The value of a scalar. -/
def scalarValue?
    (tag : Option String)
    (content : String)
    (isPlain : Bool) : Option Value :=
  let untagged : Option Value :=
    if isPlain then ofPlain? content else some (.text content)
  match tag with
  | none => untagged
  | some name =>
      match localTag? tag with
      | some _ => untagged.bind (underTag tag)
      | none => ofTag? name content

/- The node that an alias stands for. -/
def follow
    (targets : List (Nat × Node))
    (node : Node) : Composer Node := do
  match node with
  | .alias number =>
      match (← get) with
      | 0 => failure
      | left + 1 =>
          set left
          let some target := targets.lookup number | failure
          return target
  | node => return node

/- Adds an entry; its key may not occur yet. -/
def addEntry
    (entries : List (Value × Value))
    (key value : Value) :
    Option (List (Value × Value)) :=
  if entries.any (fun entry => key.same entry.1) then none
  else some (entries ++ [(key, value)])

/-
  The value of a node.  The number is the depth that is left.
-/
def valueOf?
    (targets : List (Nat × Node)) :
    Nat → Node → Composer Value
  | depth, node => do
      match (← follow targets node) with
      | .alias _ => failure
      | .scalar properties content isPlain =>
          StateT.lift
            (scalarValue? properties.tag content isPlain)
      | .sequence properties items =>
          match depth with
          | 0 => failure
          | depth + 1 =>
              let values ← items.mapM (valueOf? targets depth)
              StateT.lift
                (underTag properties.tag (.sequence values))
      | .mapping properties entries =>
          match depth with
          | 0 => failure
          | depth + 1 =>
              let values ←
                entries.foldlM
                  (fun kept entry => do
                    let key ← valueOf? targets depth entry.1
                    let value ← valueOf? targets depth entry.2
                    StateT.lift (addEntry kept key value))
                  []
              StateT.lift
                (underTag properties.tag (.mapping values))

end RamlScaffold.Yaml

------------------------------------------------------------
-- Documents
------------------------------------------------------------

namespace RamlScaffold.Yaml

/- How deep values may nest. -/
def depthLimit : Nat := 128

/-
  The value of the only document of a text.  An empty text is
  null; a malformed one has no value.
-/
def read? (text : String) : Option Value :=
  let characters := text.toList
  if characters.all isAllowed then
    ((tokens? characters).bind root?).bind
      (fun root =>
        match root with
        | none => some .null
        | some root =>
            let targets := root.anchored.reverse
            ((valueOf? targets depthLimit root).run
              (100 * root.size)).map Prod.fst)
  else none

end RamlScaffold.Yaml
