import Mathlib.Data.List.Forall2
import RamlScaffold.Proofs.Api.Blames

/-
  Which trees of resources are refused, and for what.

  A tree is refused if it is malformed anywhere, and then for
  the first such place in the order of the document, with the
  addresses of the nodes around it.  A tree that is accepted
  becomes a resource that mirrors it, node by node.

  Main declarations:
    * `Resource.not_offends_of_ofValue`
    * `Resource.blame_of_ofValue`, `Resource.exists_fault_iff`
    * `Resource.Mirrors`, `Resource.mirrors_of_ofValue`
    * `Resource.ofValue_blames_first`
-/

------------------------------------------------------------
-- Refused Trees
------------------------------------------------------------

namespace RamlScaffold.Resource

open RamlScaffold.Yaml

variable [PatternLanguage]

/- A misshapen node is refused as a whole. -/
theorem ofValue_of_misshapen
    {value : Value}
    (hShape : value.IsMisshapen)
    (uri : String) :
    ofValue uri value = .error (.notMapping uri) := by
  cases value with
  | mapping entries => exact absurd rfl (hShape.1 entries)
  | null => exact absurd rfl hShape.2
  | bool value => rfl
  | number value => rfl
  | text content => rfl
  | sequence items => rfl
  | tagged tag value => rfl

/- A tree that is accepted is blamed nowhere. -/
theorem not_offends_of_ofValue
    {value : Value}
    {uri : String}
    {blame : Blame}
    (hOffends : value.Offends uri blame)
    (resource : Resource) :
    ofValue uri value ≠ .ok resource := by
  intro hResource
  induction hOffends generalizing resource with
  | shape node uri hShape =>
      rw [ofValue_of_misshapen hShape] at hResource
      cases hResource
  | verb entries uri position key payload verb hEntry hVerb
      hTwice =>
      -- The verbs of an accepted node are pairwise distinct.
      have hNodup := (verbs_of_ofValue hResource).2.2
      have hSplit := List.take_append_drop position entries
      have hLater :
          verb ∈ Value.verbsOfEntries (entries.drop position) :=
        Value.mem_verbsOfEntries_iff.mpr
          ⟨(key, payload), mem_drop_of_getElem? hEntry, hVerb⟩
      rw [Value.verbs, ← hSplit, Value.verbsOfEntries,
        List.filterMap_append] at hNodup
      exact
        (List.nodup_append.mp hNodup).2.2 verb hTwice verb hLater
          rfl
  | under entries uri position key child name blame hEntry hKey _
      ih =>
      rw [ofValue] at hResource
      rcases ofValue_of_mem hKey (List.mem_of_getElem? hEntry)
        hResource with ⟨inner, hInner⟩
      exact ih inner hInner

/- An entry that is taken is not blamed. -/
theorem Takes.not_offendsAt
    {resource middle : Resource}
    {entries : List (Value × Value)}
    {uri : String}
    {position : Nat}
    {key value : Value}
    {blame : Blame}
    (hTakes : resource.Takes (key, value) middle)
    (hVerbs :
      resource.methods.map Method.verb =
        Value.verbsOfEntries (entries.take position)) :
    ¬Value.OffendsAt entries uri position key value blame := by
  intro hOffends
  cases hOffends with
  | verb verb hVerb hTwice =>
      rw [← hVerbs] at hTwice
      cases hTakes with
      | child _ _ _ hNone =>
          rw [hVerb] at hNone
          cases hNone
      | method other _ hOther hFree =>
          rw [hVerb] at hOther
          rw [← Option.some.inj hOther] at hFree
          exact hFree hTwice
      | other _ hNone =>
          rw [hVerb] at hNone
          cases hNone
  | under name inner hKey hVerb hChild =>
      cases hTakes with
      | child other child hOther _ hOf =>
          rw [hKey] at hOther
          rw [← Option.some.inj hOther] at hOf
          exact not_offends_of_ofValue hChild child hOf
      | method _ hNone =>
          rw [hKey] at hNone
          cases hNone
      | other hNone =>
          rw [hKey] at hNone
          cases hNone

end RamlScaffold.Resource

------------------------------------------------------------
-- The Place That Is Blamed
------------------------------------------------------------

namespace RamlScaffold

/- The first entry that is left is at the next position. -/
theorem getElem?_of_drop_cons
    {α : Type}
    {items rest : List α}
    {position : Nat}
    {item : α}
    (hRest : items.drop position = item :: rest) :
    items[position]? = some item ∧
      items.drop (position + 1) = rest := by
  constructor
  · rw [← List.head?_drop, hRest, List.head?_cons]
  · rw [← List.tail_drop, hRest, List.tail_cons]

namespace Resource

open RamlScaffold.Yaml

variable [PatternLanguage]

/- The verbs of what an entry was taken into. -/
theorem Takes.verbs
    {resource middle : Resource}
    {entries : List (Value × Value)}
    {position : Nat}
    {key value : Value}
    (hTakes : resource.Takes (key, value) middle)
    (hEntry : entries[position]? = some (key, value))
    (hVerbs :
      resource.methods.map Method.verb =
        Value.verbsOfEntries (entries.take position)) :
    middle.methods.map Method.verb =
      Value.verbsOfEntries (entries.take (position + 1)) := by
  rw [List.take_add_one, hEntry, Value.verbsOfEntries,
    List.filterMap_append, ← Value.verbsOfEntries, ← hVerbs]
  cases hTakes with
  | child name child hChild hVerb => simp [hVerb]
  | method verb hChild hVerb =>
      simp [hVerb, Method.verb_ofValue]
  | other hChild hVerb => simp [hVerb]

theorem Takes.uri_eq
    {resource middle : Resource}
    {entry : Value × Value}
    (hTakes : resource.Takes entry middle) :
    middle.uri = resource.uri := by
  cases hTakes with
  | child => rfl
  | method => rfl
  | other => rfl

/- A misshapen node is blamed before all else. -/
theorem blame_of_misshapen
    {value : Value}
    {uri : String}
    {fault : ResourceFault}
    (hShape : value.IsMisshapen)
    (hFault : ofValue uri value = .error fault) :
    ∃ blame,
      value.OffendsFirst uri blame ∧
        fault.messages = blame.messages := by
  rw [ofValue_of_misshapen hShape] at hFault
  rw [← Except.error.inj hFault]
  exact
    ⟨.misshapen uri,
      ⟨.shape value uri hShape, fun _ _ => .above _⟩, rfl⟩

mutual

/- A tree that is refused is blamed for its first place. -/
theorem blame_of_ofValue :
    ∀ (value : Value) (uri : String) (fault : ResourceFault),
      ofValue uri value = .error fault →
      ∃ blame,
        value.OffendsFirst uri blame ∧
          fault.messages = blame.messages
  | .mapping entries, uri, fault, hFault => by
      have hEntries := blame_of_withEntries entries
      rw [ofValue] at hFault
      rcases hEntries entries 0 _ fault rfl rfl hFault with
        ⟨blame, hFirst, hMessages⟩
      exact ⟨blame, hFirst.offendsFirst, hMessages⟩
  | .null, _, _, hFault => by
      rw [ofValue] at hFault
      cases hFault
  | .bool value, uri, fault, hFault =>
      blame_of_misshapen ⟨nofun, nofun⟩ hFault
  | .number value, uri, fault, hFault =>
      blame_of_misshapen ⟨nofun, nofun⟩ hFault
  | .text content, uri, fault, hFault =>
      blame_of_misshapen ⟨nofun, nofun⟩ hFault
  | .sequence items, uri, fault, hFault =>
      blame_of_misshapen ⟨nofun, nofun⟩ hFault
  | .tagged tag value, uri, fault, hFault =>
      blame_of_misshapen ⟨nofun, nofun⟩ hFault

theorem blame_of_withEntries :
    ∀ (rest entries : List (Value × Value)) (position : Nat)
      (resource : Resource) (fault : ResourceFault),
      entries.drop position = rest →
      resource.methods.map Method.verb =
        Value.verbsOfEntries (entries.take position) →
      withEntries resource rest = .error fault →
      ∃ blame,
        Value.OffendsFirstFrom entries resource.uri position
            blame ∧
          fault.messages = blame.messages
  | [], _, _, _, _, _, _, hFault => by
      rw [withEntries] at hFault
      cases hFault
  | (key, value) :: rest, entries, position, resource, fault,
      hRest, hVerbs, hFault => by
      have hValue := blame_of_ofValue value
      have hLater := blame_of_withEntries rest
      rcases getElem?_of_drop_cons hRest with ⟨hEntry, hNext⟩
      rcases refuses_of_withEntries hFault with
        hRefuses | ⟨middle, hTakes, hFault⟩
      · cases hRefuses with
        | child name inner hChild hOf =>
            rcases hValue name inner hOf with
              ⟨blame, hFirst, hMessages⟩
            refine
              ⟨_,
                Value.offendsFirstFrom_child hEntry hChild hFirst,
                ?_⟩
            rw [ResourceFault.messages, hMessages]
            rfl
        | verb verb hVerb hTwice =>
            rw [hVerbs] at hTwice
            exact
              ⟨_,
                Value.offendsFirstFrom_verb hEntry hVerb hTwice,
                rfl⟩
      · rcases hLater entries (position + 1) middle fault hNext
            (hTakes.verbs hEntry hVerbs) hFault with
          ⟨blame, hFirst, hMessages⟩
        rw [hTakes.uri_eq] at hFirst
        refine ⟨blame, hFirst.skip hEntry ?_, hMessages⟩
        exact fun other => hTakes.not_offendsAt hVerbs

end

end Resource

end RamlScaffold

------------------------------------------------------------
-- Accepted Trees
------------------------------------------------------------

namespace RamlScaffold

namespace Yaml.Value

/- The nodes under the keys that are addresses, as declared. -/
def childrenOfEntries
    (entries : List (Value × Value)) : List (String × Value) :=
  entries.filterMap
    (fun (key, child) =>
      key.childKey?.map (fun name => (name, child)))

theorem childrenOfEntries_cons_none
    {key : Value}
    (hKey : key.childKey? = none)
    (value : Value)
    (entries : List (Value × Value)) :
    childrenOfEntries ((key, value) :: entries) =
      childrenOfEntries entries := by
  simp [childrenOfEntries, hKey]

theorem childrenOfEntries_cons_some
    {key : Value}
    {name : String}
    (hKey : key.childKey? = some name)
    (value : Value)
    (entries : List (Value × Value)) :
    childrenOfEntries ((key, value) :: entries) =
      (name, value) :: childrenOfEntries entries := by
  simp [childrenOfEntries, hKey]

/- The nodes right below a node, with their addresses. -/
def children : Value → List (String × Value)
  | .mapping entries => childrenOfEntries entries
  | _ => []

variable [PatternLanguage]

/- The methods under the keys that are verbs, as declared. -/
def methodsOfEntries
    (entries : List (Value × Value)) : List Method :=
  entries.filterMap
    (fun (key, payload) =>
      key.verbKey?.map
        (fun verb => Method.ofValue verb payload))

theorem methodsOfEntries_cons_none
    {key : Value}
    (hKey : key.verbKey? = none)
    (value : Value)
    (entries : List (Value × Value)) :
    methodsOfEntries ((key, value) :: entries) =
      methodsOfEntries entries := by
  simp [methodsOfEntries, hKey]

theorem methodsOfEntries_cons_some
    {key : Value}
    {verb : Verb}
    (hKey : key.verbKey? = some verb)
    (value : Value)
    (entries : List (Value × Value)) :
    methodsOfEntries ((key, value) :: entries) =
      Method.ofValue verb value :: methodsOfEntries entries := by
  simp [methodsOfEntries, hKey]

/- The methods that a node declares. -/
def methods : Value → List Method
  | .mapping entries => methodsOfEntries entries
  | _ => []

/- The text under a key of a node. -/
def textUnder? (key : String) : Value → Option String
  | .mapping entries => getText? key entries
  | _ => none

end Yaml.Value

namespace Resource

open RamlScaffold.Yaml

variable [PatternLanguage]

/-
  A resource that has what its node declares: the texts, the
  methods, each verb at most once, and a resource for each
  node below, in the order of their declaration.
-/
inductive Mirrors : Resource → String → Value → Prop where
  | node
      (resource : Resource)
      (uri : String)
      (node : Value)
      (hShape : ¬node.IsMisshapen)
      (hUri : resource.uri = uri)
      (hDisplayName :
        resource.displayName = node.textUnder? "displayName")
      (hDescription :
        resource.description = node.textUnder? "description")
      (hMethods : resource.methods = node.methods)
      (hOnce : (resource.methods.map Method.verb).Nodup)
      (hNested :
        List.Forall₂
          (fun child below => Mirrors child below.1 below.2)
          resource.nested node.children) :
      Mirrors resource uri node

mutual

/- A tree that is accepted becomes its mirror. -/
theorem mirrors_of_ofValue :
    ∀ (value : Value) (uri : String) (resource : Resource),
      ofValue uri value = .ok resource →
      resource.Mirrors uri value
  | .mapping entries, uri, resource, hResource => by
      have hEntries := mirrors_of_withEntries entries
      rcases verbs_of_ofValue hResource with ⟨-, hVerbs, hOnce⟩
      rw [← hVerbs] at hOnce
      rw [ofValue] at hResource
      rcases hEntries _ resource hResource with
        ⟨hUri, hDisplayName, hDescription, hMethods, nested,
          hNested, hMirrors⟩
      rw [List.nil_append] at hNested
      rw [← hNested] at hMirrors
      exact
        .node resource uri _ (fun hShape => hShape.1 entries rfl)
          hUri hDisplayName hDescription hMethods hOnce hMirrors
  | .null, uri, resource, hResource => by
      rw [ofValue] at hResource
      rw [← Except.ok.inj hResource]
      exact
        .node _ uri _ (fun hShape => hShape.2 rfl) rfl rfl rfl rfl
          List.nodup_nil .nil
  | .bool _, _, _, hResource => nomatch hResource
  | .number _, _, _, hResource => nomatch hResource
  | .text _, _, _, hResource => nomatch hResource
  | .sequence _, _, _, hResource => nomatch hResource
  | .tagged _ _, _, _, hResource => nomatch hResource

theorem mirrors_of_withEntries :
    ∀ (entries : List (Value × Value))
      (resource last : Resource),
      withEntries resource entries = .ok last →
      last.uri = resource.uri ∧
        last.displayName = resource.displayName ∧
        last.description = resource.description ∧
        last.methods =
          resource.methods ++ Value.methodsOfEntries entries ∧
        ∃ nested,
          last.nested = resource.nested ++ nested ∧
            List.Forall₂
              (fun child below => Mirrors child below.1 below.2)
              nested (Value.childrenOfEntries entries)
  | [], resource, last, hAll => by
      rw [withEntries] at hAll
      rw [← Except.ok.inj hAll]
      exact
        ⟨rfl, rfl, rfl, (List.append_nil _).symm, [],
          (List.append_nil _).symm, .nil⟩
  | (key, value) :: entries, resource, last, hAll => by
      have hValue := mirrors_of_ofValue value
      have hEntries := mirrors_of_withEntries entries
      rcases takes_of_withEntries hAll with
        ⟨middle, hTakes, hRest⟩
      rcases hEntries middle last hRest with
        ⟨hUri, hDisplayName, hDescription, hMethods, nested,
          hNested, hMirrors⟩
      cases hTakes with
      | child name child hChild hVerb hOf =>
          rw [Value.methodsOfEntries_cons_none hVerb,
            Value.childrenOfEntries_cons_some hChild]
          refine
            ⟨hUri, hDisplayName, hDescription, hMethods,
              child :: nested, ?_,
              .cons (hValue name child hOf) hMirrors⟩
          rw [hNested, List.append_assoc]
          rfl
      | method verb hChild hVerb hFree =>
          rw [Value.methodsOfEntries_cons_some hVerb,
            Value.childrenOfEntries_cons_none hChild]
          refine
            ⟨hUri, hDisplayName, hDescription, ?_, nested,
              hNested, hMirrors⟩
          rw [hMethods, List.append_assoc]
          rfl
      | other hChild hVerb =>
          rw [Value.methodsOfEntries_cons_none hVerb,
            Value.childrenOfEntries_cons_none hChild]
          exact
            ⟨hUri, hDisplayName, hDescription, hMethods, nested,
              hNested, hMirrors⟩

end

/- A tree that is blamed anywhere is refused. -/
theorem exists_fault_of_offends
    {value : Value}
    {uri : String}
    {blame : Blame}
    (hOffends : value.Offends uri blame) :
    ∃ fault, ofValue uri value = .error fault := by
  cases hResult : ofValue uri value with
  | error fault => exact ⟨fault, rfl⟩
  | ok resource =>
      exact
        absurd hResult (not_offends_of_ofValue hOffends resource)

/- A tree is refused if a node that it reaches is malformed. -/
theorem exists_fault_iff
    (uri : String)
    (value : Value) :
    (∃ fault, ofValue uri value = .error fault) ↔
      ∃ chain node,
        value.Reaches chain node ∧ node.IsMalformed := by
  rw [← Value.exists_offends_iff value uri]
  constructor
  · rintro ⟨fault, hFault⟩
    rcases blame_of_ofValue value uri fault hFault with
      ⟨blame, hFirst, -⟩
    exact ⟨blame, hFirst.1⟩
  · rintro ⟨blame, hOffends⟩
    exact exists_fault_of_offends hOffends

/-
  A tree of resources is refused exactly if a node that it
  reaches is malformed, with the messages of the first such
  place in the order of the document.  A tree that is accepted
  becomes its mirror.
-/
theorem ofValue_blames_first
    (uri : String)
    (value : Value) :
    ((∃ fault, ofValue uri value = .error fault) ↔
        ∃ chain node,
          value.Reaches chain node ∧ node.IsMalformed) ∧
      (∀ messages,
        (∃ fault,
          ofValue uri value = .error fault ∧
            fault.messages = messages) ↔
          ∃ blame,
            value.OffendsFirst uri blame ∧
              blame.messages = messages) ∧
      ∀ resource, ofValue uri value = .ok resource →
        resource.Mirrors uri value := by
  refine
    ⟨exists_fault_iff uri value, ?_, mirrors_of_ofValue value uri⟩
  intro messages
  constructor
  · rintro ⟨fault, hFault, rfl⟩
    rcases blame_of_ofValue value uri fault hFault with
      ⟨blame, hFirst, hMessages⟩
    exact ⟨blame, hFirst, hMessages.symm⟩
  · rintro ⟨blame, hFirst, rfl⟩
    rcases exists_fault_of_offends hFirst.1 with ⟨fault, hFault⟩
    rcases blame_of_ofValue value uri fault hFault with
      ⟨other, hOther, hMessages⟩
    rw [hOther.unique hFirst] at hMessages
    exact ⟨fault, hFault, hMessages⟩

/- A verb that stands twice is met before a misshapen node. -/
example :
    ofValue "/users"
        (.mapping
          [(.text "/all",
              .mapping [(.text "get", .null), (.text "GET", .null)]),
            (.text "/\x7bid\x7d", .text "later")]) =
      .error (.inside "/users" (.verbTwice "/all" .get)) := by
  rfl

end Resource

end RamlScaffold
