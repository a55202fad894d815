import RamlScaffold.Proofs.Api.DocumentRoutes

/-
  The malformed places of a tree, and what is blamed there.

  A place of a tree is the row of positions that lead to it,
  from the root down.  A document is read in the order of its
  places: a node comes before what is below it, and one entry
  with all that is below it before the next.

  Main declarations:
    * `Yaml.Value.IsMisshapen`, `Yaml.Value.IsMalformed`
    * `AtOrBefore`, `AtOrBefore.antisymm`
    * `Blame`, `Blame.messages`
    * `Yaml.Value.Offends`, `Yaml.Value.OffendsFirst`
    * `Yaml.Value.OffendsAt`, `Yaml.Value.Offends.atEntry`
    * `Yaml.Value.OffendsFirst.unique`
    * `Yaml.Value.exists_offends_iff`
    * `Yaml.Value.OffendsFirstFrom`
-/

------------------------------------------------------------
-- Malformed Nodes
------------------------------------------------------------

namespace RamlScaffold

/- An item is among those from its position on. -/
theorem mem_drop_of_getElem?
    {α : Type}
    {items : List α}
    {position : Nat}
    {item : α}
    (hItem : items[position]? = some item) :
    item ∈ items.drop position := by
  refine List.mem_of_getElem? (i := 0) ?_
  rw [List.getElem?_drop]
  exact hItem

end RamlScaffold

namespace RamlScaffold.Yaml.Value

/- Whether a value is neither a mapping nor null. -/
def IsMisshapen (value : Value) : Prop :=
  (∀ entries, value ≠ .mapping entries) ∧ value ≠ .null

/- A node that is misshapen or has two keys of one verb. -/
inductive IsMalformed : Value → Prop where
  | shape
      (node : Value)
      (hShape : node.IsMisshapen) :
      IsMalformed node
  | verb
      (entries : List (Value × Value))
      (first second : Value × Value)
      (verb : Verb)
      (hTwo : [first, second].Sublist entries)
      (hFirst : first.1.verbKey? = some verb)
      (hSecond : second.1.verbKey? = some verb) :
      IsMalformed (.mapping entries)

/- No key is both an address and a verb. -/
theorem verbKey?_of_childKey?
    {key : Value}
    {name : String}
    (hChild : key.childKey? = some name) :
    key.verbKey? = none := by
  cases key.keyCase with
  | child _ _ hVerb => exact hVerb
  | verb _ _ hNone =>
      rw [hNone] at hChild
      cases hChild
  | other _ hVerb => exact hVerb

/- The verbs of entries are those that their keys are. -/
theorem mem_verbsOfEntries_iff
    {entries : List (Value × Value)}
    {verb : Verb} :
    verb ∈ verbsOfEntries entries ↔
      ∃ entry ∈ entries, entry.1.verbKey? = some verb :=
  List.mem_filterMap

end RamlScaffold.Yaml.Value

------------------------------------------------------------
-- The Order Of A Document
------------------------------------------------------------

namespace RamlScaffold

/- A place that a document comes to no later than another. -/
inductive AtOrBefore : List Nat → List Nat → Prop where
  | above (place : List Nat) : AtOrBefore [] place
  | earlier
      (first second : Nat)
      (rest other : List Nat)
      (hEarlier : first < second) :
      AtOrBefore (first :: rest) (second :: other)
  | under
      (position : Nat)
      (rest other : List Nat)
      (hBelow : AtOrBefore rest other) :
      AtOrBefore (position :: rest) (position :: other)

namespace AtOrBefore

/- Places at the same entry are in the order below it. -/
theorem of_cons
    {position : Nat}
    {rest other : List Nat}
    (hOrder :
      AtOrBefore (position :: rest) (position :: other)) :
    AtOrBefore rest other := by
  cases hOrder with
  | earlier _ _ _ _ hEarlier =>
      exact absurd hEarlier (Nat.lt_irrefl position)
  | under _ _ _ hBelow => exact hBelow

/- An entry is at or before what is below it or later. -/
theorem entry_iff
    {first second : Nat}
    {other : List Nat} :
    AtOrBefore [first] (second :: other) ↔ first ≤ second := by
  constructor
  · intro hOrder
    cases hOrder with
    | earlier _ _ _ _ hEarlier => exact Nat.le_of_lt hEarlier
    | under => exact Nat.le_refl first
  · intro hOrder
    rcases Nat.lt_or_eq_of_le hOrder with hEarlier | rfl
    · exact .earlier first second [] other hEarlier
    · exact .under first [] other (.above other)

/- Two places of which neither is later are one. -/
theorem antisymm
    {first second : List Nat}
    (hFirst : AtOrBefore first second)
    (hSecond : AtOrBefore second first) :
    first = second := by
  induction hFirst with
  | above place =>
      cases hSecond
      rfl
  | earlier first second rest other hEarlier =>
      cases hSecond with
      | earlier _ _ _ _ hLater => omega
      | under => exact absurd hEarlier (Nat.lt_irrefl _)
  | under position rest other _ ih => rw [ih hSecond.of_cons]

end AtOrBefore

end RamlScaffold

------------------------------------------------------------
-- Blames
------------------------------------------------------------

namespace RamlScaffold

/-
  What is blamed at a place of a tree: the positions of the
  entries that lead there, the addresses of the nodes around
  the one that is malformed, and the message of that one.
-/
structure Blame where
  place : List Nat
  around : List String
  message : String

namespace Blame

/- The blame of a node that is misshapen. -/
def misshapen (uri : String) : Blame where
  place := []
  around := []
  message := "resource " ++ uri ++ " must be a mapping"

/- The blame of an entry whose verb has been declared. -/
def verbTwice
    (position : Nat)
    (uri : String)
    (verb : Verb) : Blame where
  place := [position]
  around := []
  message :=
    "resource " ++ uri ++ " declares " ++ verb.wireName ++
      " twice"

/- A blame below an entry, as the node around sees it. -/
def below
    (position : Nat)
    (uri : String)
    (blame : Blame) : Blame where
  place := position :: blame.place
  around := uri :: blame.around
  message := blame.message

/- The messages of a blame, the outermost first. -/
def messages (blame : Blame) : List String :=
  blame.around.map (fun uri => "in resource " ++ uri) ++
    [blame.message]

end Blame

namespace Yaml.Value

/-
  The blames of a tree at an address.  A misshapen node is
  blamed as a whole, and a verb at each key but its first.
-/
inductive Offends : Value → String → Blame → Prop where
  | shape
      (node : Value)
      (uri : String)
      (hShape : node.IsMisshapen) :
      Offends node uri (.misshapen uri)
  | verb
      (entries : List (Value × Value))
      (uri : String)
      (position : Nat)
      (key payload : Value)
      (verb : Verb)
      (hEntry : entries[position]? = some (key, payload))
      (hVerb : key.verbKey? = some verb)
      (hTwice : verb ∈ verbsOfEntries (entries.take position)) :
      Offends (.mapping entries) uri
        (.verbTwice position uri verb)
  | under
      (entries : List (Value × Value))
      (uri : String)
      (position : Nat)
      (key child : Value)
      (name : String)
      (blame : Blame)
      (hEntry : entries[position]? = some (key, child))
      (hKey : key.childKey? = some name)
      (hChild : child.Offends name blame) :
      Offends (.mapping entries) uri (blame.below position uri)

/- The blame of the first malformed place of a tree. -/
def OffendsFirst
    (value : Value)
    (uri : String)
    (blame : Blame) : Prop :=
  value.Offends uri blame ∧
    ∀ other, value.Offends uri other →
      AtOrBefore blame.place other.place

/- All that can be blamed at an entry of a mapping. -/
inductive OffendsAt
    (entries : List (Value × Value))
    (uri : String)
    (position : Nat)
    (key payload : Value) : Blame → Prop where
  | verb
      (verb : Verb)
      (hVerb : key.verbKey? = some verb)
      (hTwice : verb ∈ verbsOfEntries (entries.take position)) :
      OffendsAt entries uri position key payload
        (.verbTwice position uri verb)
  | under
      (name : String)
      (blame : Blame)
      (hKey : key.childKey? = some name)
      (hVerb : key.verbKey? = none)
      (hChild : payload.Offends name blame) :
      OffendsAt entries uri position key payload
        (blame.below position uri)

section

variable {entries : List (Value × Value)} {uri : String}
variable {position : Nat} {key payload : Value}
variable {blame : Blame}

/- The place of a blame starts with the entry it is at. -/
theorem Offends.exists_position
    (hOffends : (Value.mapping entries).Offends uri blame) :
    ∃ position rest, blame.place = position :: rest := by
  cases hOffends with
  | shape _ _ hShape => exact absurd rfl (hShape.1 entries)
  | verb _ _ position => exact ⟨position, [], rfl⟩
  | under _ _ position _ _ _ inner =>
      exact ⟨position, inner.place, rfl⟩

theorem Offends.atEntry
    (hOffends : (Value.mapping entries).Offends uri blame)
    (hEntry : entries[position]? = some (key, payload))
    {rest : List Nat}
    (hPlace : blame.place = position :: rest) :
    OffendsAt entries uri position key payload blame := by
  cases hOffends with
  | shape _ _ hShape => exact absurd rfl (hShape.1 entries)
  | verb _ _ other _ _ verb hOther hVerb hTwice =>
      rcases List.cons.inj hPlace with ⟨rfl, -⟩
      rw [hEntry] at hOther
      cases hOther
      exact .verb verb hVerb hTwice
  | under _ _ other _ _ name inner hOther hKey hChild =>
      rcases List.cons.inj hPlace with ⟨rfl, -⟩
      rw [hEntry] at hOther
      cases hOther
      exact
        .under name inner hKey (verbKey?_of_childKey? hKey) hChild

end

/- A place is blamed in one way only. -/
theorem Offends.unique
    {value : Value}
    {uri : String}
    {first second : Blame}
    (hFirst : value.Offends uri first)
    (hSecond : value.Offends uri second)
    (hPlace : second.place = first.place) :
    first = second := by
  induction hFirst generalizing second with
  | shape node uri hShape =>
      cases hSecond with
      | shape => rfl
      | verb entries => exact absurd rfl (hShape.1 entries)
      | under entries => exact absurd rfl (hShape.1 entries)
  | verb entries uri position key payload verb hEntry hVerb =>
      cases hSecond.atEntry hEntry hPlace with
      | verb other hOther =>
          rw [hVerb] at hOther
          rw [Option.some.inj hOther]
      | under _ _ _ hNone =>
          rw [hVerb] at hNone
          cases hNone
  | under entries uri position key child name blame hEntry hKey
      hChild ih =>
      have hNone := verbKey?_of_childKey? hKey
      cases hSecond.atEntry hEntry hPlace with
      | verb _ hVerb =>
          rw [hNone] at hVerb
          cases hVerb
      | under other inner hOther _ hInner =>
          rw [hKey] at hOther
          rw [← Option.some.inj hOther] at hInner
          rw [ih hInner (List.cons.inj hPlace).2]

/- The first blame of a tree is the only first one. -/
theorem OffendsFirst.unique
    {value : Value}
    {uri : String}
    {first second : Blame}
    (hFirst : value.OffendsFirst uri first)
    (hSecond : value.OffendsFirst uri second) :
    first = second :=
  hFirst.1.unique hSecond.1
    ((hSecond.2 first hFirst.1).antisymm
      (hFirst.2 second hSecond.1))

/- A verb that is declared again is blamed at that key. -/
theorem exists_verbTwice
    {entries : List (Value × Value)}
    {first second : Value × Value}
    {verb : Verb}
    (hTwo : [first, second].Sublist entries)
    (hFirst : first.1.verbKey? = some verb)
    (hSecond : second.1.verbKey? = some verb)
    (uri : String) :
    ∃ blame, (Value.mapping entries).Offends uri blame := by
  rcases List.cons_sublist_iff.mp hTwo with
    ⟨front, back, rfl, hFront, hBack⟩
  rcases List.append_of_mem (List.singleton_sublist.mp hBack)
    with ⟨middle, rest, rfl⟩
  refine
    ⟨_, .verb _ uri (front ++ middle).length second.1 second.2
      verb ?_ hSecond ?_⟩
  · rw [← List.append_assoc, List.getElem?_append_right
      (Nat.le_refl _), Nat.sub_self]
    rfl
  · rw [← List.append_assoc, List.take_left]
    exact
      mem_verbsOfEntries_iff.mpr
        ⟨first, List.mem_append_left middle hFront, hFirst⟩

/- A node that is reached and malformed is blamed. -/
theorem exists_offends_of_reaches
    {value node : Value}
    {chain : List String}
    (hReaches : value.Reaches chain node)
    (hMalformed : node.IsMalformed)
    (uri : String) :
    ∃ blame, value.Offends uri blame := by
  induction hReaches generalizing uri with
  | here value =>
      cases hMalformed with
      | shape _ hShape => exact ⟨_, .shape _ uri hShape⟩
      | verb entries first second verb hTwo hFirst hSecond =>
          exact exists_verbTwice hTwo hFirst hSecond uri
  | under entries key child node name chain hEntry hKey _ ih =>
      rcases List.getElem?_of_mem hEntry with
        ⟨position, hPosition⟩
      rcases ih hMalformed name with ⟨blame, hChild⟩
      exact
        ⟨_, .under entries uri position key child name blame
          hPosition hKey hChild⟩

/- What is blamed is a node that is reached and malformed. -/
theorem Offends.exists_reaches
    {value : Value}
    {uri : String}
    {blame : Blame}
    (hOffends : value.Offends uri blame) :
    ∃ chain node,
      value.Reaches chain node ∧ node.IsMalformed := by
  induction hOffends with
  | shape node uri hShape =>
      exact ⟨[], node, .here node, .shape node hShape⟩
  | verb entries uri position key payload verb hEntry hVerb
      hTwice =>
      rcases mem_verbsOfEntries_iff.mp hTwice with
        ⟨first, hFirst, hOther⟩
      have hSecond := mem_drop_of_getElem? hEntry
      have hTwo : [first, (key, payload)].Sublist entries := by
        rw [← List.take_append_drop position entries]
        exact
          List.cons_sublist_iff.mpr
            ⟨_, _, rfl, hFirst, List.singleton_sublist.mpr hSecond⟩
      exact
        ⟨[], _, .here _, .verb entries first _ verb hTwo hOther
          hVerb⟩
  | under entries uri position key child name blame hEntry hKey _
      ih =>
      rcases ih with ⟨chain, node, hReaches, hMalformed⟩
      exact
        ⟨name :: chain, node,
          .under entries key child node name chain
            (List.mem_of_getElem? hEntry) hKey hReaches,
          hMalformed⟩

/- A tree is blamed if some node that it reaches is malformed. -/
theorem exists_offends_iff
    (value : Value)
    (uri : String) :
    (∃ blame, value.Offends uri blame) ↔
      ∃ chain node,
        value.Reaches chain node ∧ node.IsMalformed := by
  constructor
  · rintro ⟨blame, hOffends⟩
    exact hOffends.exists_reaches
  · rintro ⟨chain, node, hReaches, hMalformed⟩
    exact exists_offends_of_reaches hReaches hMalformed uri

end Yaml.Value

end RamlScaffold

------------------------------------------------------------
-- The First Malformed Place
------------------------------------------------------------

namespace RamlScaffold

namespace Yaml.Value

/- The first blame of a mapping at an entry or after it. -/
def OffendsFirstFrom
    (entries : List (Value × Value))
    (uri : String)
    (position : Nat)
    (blame : Blame) : Prop :=
  (Value.mapping entries).Offends uri blame ∧
    ∀ other, (Value.mapping entries).Offends uri other →
      AtOrBefore [position] other.place →
        AtOrBefore blame.place other.place

section

variable {entries : List (Value × Value)} {uri : String}
variable {position : Nat} {key payload : Value}
variable {blame : Blame}

/- An entry that is not blamed can be passed over. -/
theorem OffendsFirstFrom.skip
    (hFirst : OffendsFirstFrom entries uri (position + 1) blame)
    (hEntry : entries[position]? = some (key, payload))
    (hNone :
      ∀ other,
        ¬OffendsAt entries uri position key payload other) :
    OffendsFirstFrom entries uri position blame := by
  refine ⟨hFirst.1, ?_⟩
  intro other hOther hFrom
  rcases hOther.exists_position with ⟨start, rest, hPlace⟩
  refine hFirst.2 other hOther ?_
  rw [hPlace, AtOrBefore.entry_iff] at hFrom ⊢
  rcases Nat.lt_or_eq_of_le hFrom with hLater | rfl
  · exact hLater
  · exact absurd (hOther.atEntry hEntry hPlace) (hNone other)

/- All blames of a mapping are at its entries. -/
theorem OffendsFirstFrom.offendsFirst
    (hFirst : OffendsFirstFrom entries uri 0 blame) :
    (Value.mapping entries).OffendsFirst uri blame := by
  refine ⟨hFirst.1, ?_⟩
  intro other hOther
  rcases hOther.exists_position with ⟨start, rest, hPlace⟩
  refine hFirst.2 other hOther ?_
  rw [hPlace, AtOrBefore.entry_iff]
  exact Nat.zero_le start

/- Nothing at an entry is before a verb that is blamed there. -/
theorem offendsFirstFrom_verb
    {verb : Verb}
    (hEntry : entries[position]? = some (key, payload))
    (hVerb : key.verbKey? = some verb)
    (hTwice : verb ∈ verbsOfEntries (entries.take position)) :
    OffendsFirstFrom entries uri position
      (.verbTwice position uri verb) :=
  ⟨.verb entries uri position key payload verb hEntry hVerb
      hTwice,
    fun _ _ hFrom => hFrom⟩

/- The first blame of a child is the first one at its entry. -/
theorem offendsFirstFrom_child
    {name : String}
    (hEntry : entries[position]? = some (key, payload))
    (hKey : key.childKey? = some name)
    (hChild : payload.OffendsFirst name blame) :
    OffendsFirstFrom entries uri position
      (blame.below position uri) := by
  refine
    ⟨.under entries uri position key payload name blame hEntry
      hKey hChild.1, ?_⟩
  intro other hOther hFrom
  rcases hOther.exists_position with ⟨start, rest, hPlace⟩
  rw [hPlace, AtOrBefore.entry_iff] at hFrom
  rcases Nat.lt_or_eq_of_le hFrom with hLater | rfl
  · rw [hPlace]
    exact .earlier position start blame.place rest hLater
  · cases hOther.atEntry hEntry hPlace with
    | verb _ hVerb =>
        rw [verbKey?_of_childKey? hKey] at hVerb
        cases hVerb
    | under found inner hFound _ hInner =>
        rw [hKey] at hFound
        rw [← Option.some.inj hFound] at hInner
        exact
          .under position blame.place inner.place
            (hChild.2 inner hInner)

end

end Yaml.Value

end RamlScaffold
