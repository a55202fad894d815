import Mathlib.Data.List.Nodup
import RamlScaffold.Proofs.Api.MalformedTrees

/-
  What becomes of the values that stand under verbs.

  Whether a document is refused hangs on the shapes of its
  nodes and on their verbs, and never on what stands under a
  verb.  A method is read from a mapping alone; any other value
  leaves it with its verb and nothing else.

  Main declarations:
    * `Resource.Nests`, `Api.Has`
    * `Resource.Mirrors.nests_of_reaches`
    * `Resource.Mirrors.method?_of_entry`
    * `Method.ofValue_of_misshapen`
    * `Api.exists_fault_iff`, `Api.has_of_reaches`
    * `Api.ofValue_drops_payloads`
    * `textPayload_is_dropped`
-/

------------------------------------------------------------
-- Resources That Are Nested
------------------------------------------------------------

namespace RamlScaffold

/- A resource that is reached over a chain of addresses. -/
inductive Resource.Nests :
    Resource → List String → Resource → Prop where
  | here (resource : Resource) : Nests resource [] resource
  | under
      (resource child last : Resource)
      (chain : List String)
      (hChild : child ∈ resource.nested)
      (hLast : child.Nests chain last) :
      Nests resource (child.uri :: chain) last

/- A resource of a definition and the chain that reaches it. -/
inductive Api.Has
    (api : Api) : List String → Resource → Prop where
  | under
      (top last : Resource)
      (chain : List String)
      (hTop : top ∈ api.resources)
      (hLast : top.Nests chain last) :
      Has api (top.uri :: chain) last

/- What stands on the right of a pairing stands opposite. -/
theorem exists_of_forall₂
    {α β : Type}
    {R : α → β → Prop}
    {front : List α}
    {back : List β}
    (hPaired : List.Forall₂ R front back)
    {right : β}
    (hRight : right ∈ back) :
    ∃ left ∈ front, R left right := by
  induction hPaired with
  | nil => cases hRight
  | cons hPair hRest ih =>
      rcases List.mem_cons.mp hRight with rfl | hLater
      · exact ⟨_, List.mem_cons_self, hPair⟩
      · rcases ih hLater with ⟨left, hLeft, hPair⟩
        exact ⟨left, List.mem_cons_of_mem _ hLeft, hPair⟩

namespace Yaml.Value

theorem mem_childrenOfEntries
    {entries : List (Value × Value)}
    {key child : Value}
    {name : String}
    (hEntry : (key, child) ∈ entries)
    (hKey : key.childKey? = some name) :
    (name, child) ∈ childrenOfEntries entries := by
  refine List.mem_filterMap.mpr ⟨(key, child), hEntry, ?_⟩
  simp [hKey]

variable [PatternLanguage]

theorem mem_methodsOfEntries
    {entries : List (Value × Value)}
    {key payload : Value}
    {verb : Verb}
    (hEntry : (key, payload) ∈ entries)
    (hKey : key.verbKey? = some verb) :
    Method.ofValue verb payload ∈ methodsOfEntries entries := by
  refine List.mem_filterMap.mpr ⟨(key, payload), hEntry, ?_⟩
  simp [hKey]

end Yaml.Value

namespace Resource

open RamlScaffold.Yaml

/- Of methods with distinct verbs, each is found by its own. -/
theorem method?_of_mem
    {resource : Resource}
    {method : Method}
    (hOnce : (resource.methods.map Method.verb).Nodup)
    (hMethod : method ∈ resource.methods) :
    resource.method? method.verb = some method := by
  have hVerb :
      method.verb ∈ resource.methods.map Method.verb :=
    List.mem_map_of_mem hMethod
  rw [← isSome_method?_iff, Option.isSome_iff_exists] at hVerb
  rcases hVerb with ⟨found, hFound⟩
  have hBeq := List.find?_some hFound
  have hSame : found.verb = method.verb := eq_of_beq hBeq
  rw [hFound,
    List.inj_on_of_nodup_map hOnce
      (List.mem_of_find?_eq_some hFound) hMethod hSame]

variable [PatternLanguage]

/- A resource has one resource nested for each node below. -/
theorem Mirrors.exists_nested
    {resource : Resource}
    {uri name : String}
    {node child : Value}
    (hMirrors : resource.Mirrors uri node)
    (hChild : (name, child) ∈ node.children) :
    ∃ below ∈ resource.nested, below.Mirrors name child := by
  cases hMirrors with
  | node _ _ _ _ _ _ _ _ _ hNested =>
      exact exists_of_forall₂ hNested hChild

/- The address of a mirror is the address it was read at. -/
theorem Mirrors.uri_eq
    {resource : Resource}
    {uri : String}
    {node : Value}
    (hMirrors : resource.Mirrors uri node) :
    resource.uri = uri := by
  cases hMirrors with
  | node _ _ _ _ hUri => exact hUri

/- Every node that chains reach has its mirror. -/
theorem Mirrors.nests_of_reaches
    {value node : Value}
    {chain : List String}
    (hReaches : value.Reaches chain node)
    {uri : String}
    {resource : Resource}
    (hMirrors : resource.Mirrors uri value) :
    ∃ last name,
      resource.Nests chain last ∧ last.Mirrors name node := by
  induction hReaches generalizing uri resource with
  | here value => exact ⟨resource, uri, .here resource, hMirrors⟩
  | under entries key child node name chain hEntry hKey _ ih =>
      have hChild := Value.mem_childrenOfEntries hEntry hKey
      rcases hMirrors.exists_nested hChild with
        ⟨below, hBelow, hBelowMirrors⟩
      rcases ih hBelowMirrors with
        ⟨last, lastName, hNests, hLast⟩
      have hUnder :=
        Nests.under resource below last chain hBelow hNests
      rw [hBelowMirrors.uri_eq] at hUnder
      exact ⟨last, lastName, hUnder, hLast⟩

/- The method of a verb is read from what its key has. -/
theorem Mirrors.method?_of_entry
    {resource : Resource}
    {uri : String}
    {entries : List (Value × Value)}
    {key payload : Value}
    {verb : Verb}
    (hMirrors : resource.Mirrors uri (.mapping entries))
    (hEntry : (key, payload) ∈ entries)
    (hKey : key.verbKey? = some verb) :
    resource.method? verb = some (Method.ofValue verb payload) := by
  cases hMirrors with
  | node _ _ _ _ _ _ _ hMethods hOnce =>
      have hMethod := Value.mem_methodsOfEntries hEntry hKey
      rw [Value.methods] at hMethods
      rw [← hMethods] at hMethod
      have hFound := method?_of_mem hOnce hMethod
      rw [Method.verb_ofValue] at hFound
      exact hFound

end Resource

/- Nothing but a mapping gives a method more than its verb. -/
theorem Method.ofValue_of_misshapen
    [PatternLanguage]
    {payload : Yaml.Value}
    (hShape : payload.IsMisshapen)
    (verb : Verb) :
    Method.ofValue verb payload = { verb := verb } := by
  cases payload with
  | mapping entries => exact absurd rfl (hShape.1 entries)
  | null => rfl
  | bool value => rfl
  | number value => rfl
  | text content => rfl
  | sequence items => rfl
  | tagged tag value => rfl

end RamlScaffold

------------------------------------------------------------
-- Documents
------------------------------------------------------------

namespace RamlScaffold

namespace Resource

open RamlScaffold.Yaml

variable [PatternLanguage]

/- All that an entry of a document root adds to resources. -/
theorem listOfEntries_cons
    (key value : Value)
    (entries : List (Value × Value)) :
    listOfEntries ((key, value) :: entries) =
      match key.childKey? with
      | none => listOfEntries entries
      | some name =>
          match ofValue name value with
          | .error fault => .error fault
          | .ok resource =>
              (listOfEntries entries).map (resource :: ·) := by
  rw [listOfEntries]
  cases key.keyCase with
  | child name hChild hVerb hText hSlash =>
      rw [hText, hChild]
      dsimp only
      rw [if_pos hSlash]
      cases ofValue name value with
      | error fault => rfl
      | ok resource =>
          cases listOfEntries entries with
          | error fault => rfl
          | ok resources => rfl
  | verb name verb hChild hVerb hText hSlash hParse =>
      rw [hText, hChild]
      dsimp only
      rw [hSlash, if_neg Bool.false_ne_true]
  | other hChild hVerb hOther =>
      rw [hChild]
      cases hText : key.keyText? with
      | none => rfl
      | some name =>
          dsimp only
          rw [(hOther name hText).1, if_neg Bool.false_ne_true]

/- Some tree at an address of the root is refused, or none. -/
theorem exists_fault_listOfEntries_iff
    (entries : List (Value × Value)) :
    (∃ fault, listOfEntries entries = .error fault) ↔
      ∃ below ∈ Value.childrenOfEntries entries,
        ∃ fault, ofValue below.1 below.2 = .error fault := by
  induction entries with
  | nil => simp [listOfEntries, Value.childrenOfEntries]
  | cons entry entries ih =>
      rcases entry with ⟨key, value⟩
      rw [listOfEntries_cons]
      cases hKey : key.childKey? with
      | none =>
          rw [Value.childrenOfEntries_cons_none hKey]
          exact ih
      | some name =>
          rw [Value.childrenOfEntries_cons_some hKey,
            List.exists_mem_cons_iff, ← ih]
          cases hOf : ofValue name value with
          | error fault => simp [hOf]
          | ok resource =>
              cases listOfEntries entries with
              | error fault => simp [hOf, Except.map]
              | ok resources => simp [hOf, Except.map]

/- The resources of a document mirror the nodes of its root. -/
theorem mirrors_of_listOfEntries
    {entries : List (Value × Value)}
    {resources : List Resource}
    (hAll : listOfEntries entries = .ok resources) :
    List.Forall₂
      (fun resource below => Mirrors resource below.1 below.2)
      resources (Value.childrenOfEntries entries) := by
  induction entries generalizing resources with
  | nil =>
      rw [← Except.ok.inj hAll]
      exact .nil
  | cons entry entries ih =>
      rcases entry with ⟨key, value⟩
      rw [listOfEntries_cons] at hAll
      cases hKey : key.childKey? with
      | none =>
          rw [hKey] at hAll
          rw [Value.childrenOfEntries_cons_none hKey]
          exact ih hAll
      | some name =>
          rw [hKey] at hAll
          dsimp only at hAll
          rw [Value.childrenOfEntries_cons_some hKey]
          cases hOf : ofValue name value with
          | error fault =>
              rw [hOf] at hAll
              cases hAll
          | ok resource =>
              rw [hOf] at hAll
              dsimp only at hAll
              cases hRest : listOfEntries entries with
              | error fault =>
                  rw [hRest] at hAll
                  cases hAll
              | ok others =>
                  rw [hRest] at hAll
                  rw [← Except.ok.inj hAll]
                  exact
                    .cons (mirrors_of_ofValue value name resource hOf)
                      (ih hRest)

end Resource

namespace Yaml.Value

/- The nodes over an address are reached from its own node. -/
theorem reaches_cons_iff
    (entries : List (Value × Value))
    (name : String)
    (chain : List String)
    (node : Value) :
    (Value.mapping entries).Reaches (name :: chain) node ↔
      ∃ child,
        (name, child) ∈ childrenOfEntries entries ∧
          child.Reaches chain node := by
  constructor
  · intro hReaches
    cases hReaches with
    | under _ key child _ _ _ hEntry hKey hChild =>
        exact
          ⟨child, mem_childrenOfEntries hEntry hKey, hChild⟩
  · rintro ⟨child, hMem, hChild⟩
    rcases List.mem_filterMap.mp hMem with
      ⟨⟨key, value⟩, hEntry, hPair⟩
    rcases Option.map_eq_some_iff.mp hPair with
      ⟨found, hKey, hSame⟩
    rcases Prod.mk.inj hSame with ⟨rfl, rfl⟩
    exact
      .under entries key value node found chain hEntry hKey hChild

/- A value is a mapping if its part below all tags is one. -/
theorem asMapping?_eq_some_iff
    {value : Value}
    {entries : List (Value × Value)} :
    value.asMapping? = some entries ↔
      value.untagged = .mapping entries := by
  unfold asMapping?
  cases value.untagged with
  | mapping found => simp
  | null => simp
  | bool flag => simp
  | number number => simp
  | text content => simp
  | sequence items => simp
  | tagged tag inner => simp

end Yaml.Value

namespace Api

open RamlScaffold.Yaml

section

variable [PatternLanguage]

/-
  A document is refused if its root is no mapping or a node
  that its resources reach is malformed.
-/
theorem exists_fault_iff (root : Value) :
    (∃ fault, ofValue root = .error fault) ↔
      root.asMapping? = none ∨
        ∃ name chain node,
          root.untagged.Reaches (name :: chain) node ∧
            node.IsMalformed := by
  cases hRoot : root.asMapping? with
  | none => simp [ofValue, hRoot]
  | some entries =>
      have hMapping := Value.asMapping?_eq_some_iff.mp hRoot
      have hList := Resource.exists_fault_listOfEntries_iff entries
      have hOf :
          (∃ fault, ofValue root = .error fault) ↔
            ∃ fault,
              Resource.listOfEntries entries = .error fault := by
        unfold ofValue
        rw [hRoot]
        dsimp only
        cases Resource.listOfEntries entries with
        | error fault => simp
        | ok resources => simp
      rw [hOf, hList, hMapping]
      simp only [Resource.exists_fault_iff, Value.reaches_cons_iff]
      constructor
      · rintro ⟨⟨name, child⟩, hChild, chain, node, hReaches,
          hMalformed⟩
        exact
          Or.inr
            ⟨name, chain, node, ⟨child, hChild, hReaches⟩,
              hMalformed⟩
      · rintro (hNone | ⟨name, chain, node,
          ⟨child, hChild, hReaches⟩, hMalformed⟩)
        · cases hNone
        · exact
            ⟨(name, child), hChild, chain, node, hReaches,
              hMalformed⟩

/- Every node of a document that is accepted has its mirror. -/
theorem has_of_reaches
    {root node : Value}
    {api : Api}
    (hApi : ofValue root = .ok api)
    {name : String}
    {chain : List String}
    (hReaches : root.untagged.Reaches (name :: chain) node) :
    ∃ resource uri,
      api.Has (name :: chain) resource ∧
        resource.Mirrors uri node := by
  unfold ofValue at hApi
  cases hRoot : root.asMapping? with
  | none =>
      rw [hRoot] at hApi
      cases hApi
  | some entries =>
      rw [hRoot] at hApi
      rw [Value.asMapping?_eq_some_iff.mp hRoot,
        Value.reaches_cons_iff] at hReaches
      rcases hReaches with ⟨child, hChild, hReaches⟩
      dsimp only at hApi
      cases hList : Resource.listOfEntries entries with
      | error fault =>
          rw [hList] at hApi
          cases hApi
      | ok resources =>
          rw [hList] at hApi
          rcases exists_of_forall₂
              (Resource.mirrors_of_listOfEntries hList) hChild with
            ⟨top, hTop, hMirrors⟩
          rcases Resource.Mirrors.nests_of_reaches hReaches
              hMirrors with
            ⟨last, uri, hNests, hLast⟩
          rw [← Except.ok.inj hApi]
          have hUri : top.uri = name := hMirrors.uri_eq
          rw [← hUri]
          exact ⟨last, uri, .under top last chain hTop hNests, hLast⟩

/-
  No document is refused for what stands under a verb: it is
  refused for its root or for a malformed node.  In a document
  that is accepted every verb has a method, which is read from
  a mapping and has nothing but its verb where the value is
  neither a mapping nor null.
-/
theorem ofValue_drops_payloads (root : Value) :
    ((∃ fault, ofValue root = .error fault) ↔
        root.asMapping? = none ∨
          ∃ name chain node,
            root.untagged.Reaches (name :: chain) node ∧
              node.IsMalformed) ∧
      ∀ api, ofValue root = .ok api →
        ∀ name chain entries,
          root.untagged.Reaches (name :: chain)
              (.mapping entries) →
          ∃ resource,
            api.Has (name :: chain) resource ∧
              ∀ key payload verb,
                (key, payload) ∈ entries →
                key.verbKey? = some verb →
                resource.method? verb =
                    some (Method.ofValue verb payload) ∧
                  (payload.IsMisshapen →
                    resource.method? verb =
                      some { verb := verb }) := by
  refine ⟨exists_fault_iff root, ?_⟩
  intro api hApi name chain entries hReaches
  rcases has_of_reaches hApi hReaches with
    ⟨resource, uri, hHas, hMirrors⟩
  refine ⟨resource, hHas, ?_⟩
  intro key payload verb hEntry hKey
  have hMethod := hMirrors.method?_of_entry hEntry hKey
  refine ⟨hMethod, ?_⟩
  intro hShape
  rw [hMethod, Method.ofValue_of_misshapen hShape]

end

/- A document with a text where a method should be. -/
def textPayloadDocument : Value :=
  .mapping
    [(.text "title", .text "Users"),
      (.text "/users", .mapping [(.text "get", .text "anything")])]

/- The text under the verb is dropped, not refused. -/
theorem textPayload_is_dropped :
    textPayloadDocument.untagged.Reaches ["/users"]
        (.mapping [(.text "get", .text "anything")]) ∧
      (Value.text "get").verbKey? = some .get ∧
      (Value.text "anything").IsMisshapen ∧
      ofValue textPayloadDocument =
        .ok
          { title := "Users"
            resources :=
              [{ uri := "/users", methods := [{ verb := .get }] }] } := by
  refine ⟨?_, rfl, ⟨nofun, nofun⟩, rfl⟩
  exact
    .under _ (.text "/users") _ _ "/users" []
      (List.mem_cons_of_mem _ List.mem_cons_self) rfl (.here _)

end Api

end RamlScaffold
