import RamlScaffold.Libraries
import RamlScaffold.Proofs.Api.Keys
import RamlScaffold.Proofs.Service.BodyRoutes

/-
  The routes of a service against the nodes of its document.

  The nodes of a document are those that chains of resource
  keys lead to.  Each of them has its verbs, which stand among
  its keys in any order and between keys of other kinds.

  Main declarations:
    * `Yaml.Value.Reaches`
    * `Yaml.Value.nodes`, `Yaml.Value.mem_nodes_iff`
    * `Yaml.Value.verbs`
    * `Resource.Takes`, `Resource.Refuses`
    * `Resource.step_of_withEntries`
    * `Resource.verbs_of_withEntries`
    * `Resource.endpoints_of_ofValue`
    * `Resource.routes_of_document`
-/

------------------------------------------------------------
-- Nodes Of A Document
------------------------------------------------------------

namespace RamlScaffold.Yaml.Value

/- A node that is reached over a chain of resource keys. -/
inductive Reaches : Value → List String → Value → Prop where
  | here (value : Value) : Reaches value [] value
  | under
      (entries : List (Value × Value))
      (key child node : Value)
      (name : String)
      (chain : List String)
      (hEntry : (key, child) ∈ entries)
      (hKey : key.childKey? = some name)
      (hChild : Reaches child chain node) :
      Reaches (.mapping entries) (name :: chain) node

/- A node that is reached over the key of an entry. -/
def ReachesOver
    (entry : Value × Value)
    (chain : List String)
    (node : Value) : Prop :=
  ∃ name rest,
    entry.1.childKey? = some name ∧
      chain = name :: rest ∧ entry.2.Reaches rest node

mutual

/-
  The nodes reached from a node, each with its chain of keys:
  a node before those below it, and these in the order of
  their declaration.
-/
def nodes : Value → List (List String × Value)
  | .mapping entries =>
      ([], .mapping entries) :: nodesOfEntries entries
  | .null => [([], .null)]
  | .bool value => [([], .bool value)]
  | .number value => [([], .number value)]
  | .text content => [([], .text content)]
  | .sequence items => [([], .sequence items)]
  | .tagged tag value => [([], .tagged tag value)]

/- The nodes reached over one of the keys of entries. -/
def nodesOfEntries :
    List (Value × Value) → List (List String × Value)
  | [] => []
  | (key, child) :: entries =>
      match key.childKey? with
      | some name =>
          (nodes child).map
              (fun (chain, node) => (name :: chain, node)) ++
            nodesOfEntries entries
      | none => nodesOfEntries entries

end

/- The verbs among the keys of entries, as declared. -/
def verbsOfEntries (entries : List (Value × Value)) : List Verb :=
  entries.filterMap (fun entry => entry.1.verbKey?)

theorem verbsOfEntries_cons_none
    {key : Value}
    (hVerb : key.verbKey? = none)
    (value : Value)
    (entries : List (Value × Value)) :
    verbsOfEntries ((key, value) :: entries) =
      verbsOfEntries entries :=
  List.filterMap_cons_none hVerb

theorem verbsOfEntries_cons_some
    {key : Value}
    {verb : Verb}
    (hVerb : key.verbKey? = some verb)
    (value : Value)
    (entries : List (Value × Value)) :
    verbsOfEntries ((key, value) :: entries) =
      verb :: verbsOfEntries entries :=
  List.filterMap_cons_some hVerb

/- The verbs among the keys of a node, as declared. -/
def verbs : Value → List Verb
  | .mapping entries => verbsOfEntries entries
  | _ => []

/- A node that is no mapping reaches itself alone. -/
theorem mem_leaf_iff
    {value : Value}
    (hLeaf : ∀ entries, value ≠ .mapping entries)
    (chain : List String)
    (node : Value) :
    (chain, node) ∈ [([], value)] ↔
      value.Reaches chain node := by
  rw [List.mem_singleton, Prod.mk.injEq]
  constructor
  · rintro ⟨rfl, rfl⟩
    exact .here _
  · intro hReaches
    cases hReaches with
    | here => exact ⟨rfl, rfl⟩
    | under entries => exact absurd rfl (hLeaf entries)

mutual

/- The nodes of a document are those that chains reach. -/
theorem mem_nodes_iff :
    ∀ (value : Value) (chain : List String) (node : Value),
      (chain, node) ∈ value.nodes ↔ value.Reaches chain node
  | .mapping entries, chain, node => by
      have hEntries := mem_nodesOfEntries_iff entries chain node
      rw [nodes, List.mem_cons, hEntries, Prod.mk.injEq]
      constructor
      · intro hMem
        rcases hMem with ⟨rfl, rfl⟩ | hUnder
        · exact .here _
        · rcases hUnder with
            ⟨⟨key, child⟩, hEntry, name, rest, hKey, rfl, hChild⟩
          exact
            .under entries key child node name rest hEntry hKey
              hChild
      · intro hReaches
        cases hReaches with
        | here => exact Or.inl ⟨rfl, rfl⟩
        | under _ key child _ name rest hEntry hKey hChild =>
            exact Or.inr
              ⟨(key, child), hEntry, name, rest, hKey, rfl,
                hChild⟩
  | .null, chain, node =>
      mem_leaf_iff (by simp) chain node
  | .bool value, chain, node =>
      mem_leaf_iff (by simp) chain node
  | .number value, chain, node =>
      mem_leaf_iff (by simp) chain node
  | .text content, chain, node =>
      mem_leaf_iff (by simp) chain node
  | .sequence items, chain, node =>
      mem_leaf_iff (by simp) chain node
  | .tagged tag value, chain, node =>
      mem_leaf_iff (by simp) chain node

theorem mem_nodesOfEntries_iff :
    ∀ (entries : List (Value × Value)) (chain : List String)
      (node : Value),
      (chain, node) ∈ nodesOfEntries entries ↔
        ∃ entry ∈ entries, ReachesOver entry chain node
  | [], chain, node => by simp [nodesOfEntries]
  | (key, child) :: entries, chain, node => by
      have hChild := mem_nodes_iff child
      have hRest := mem_nodesOfEntries_iff entries chain node
      simp only [nodesOfEntries, List.mem_cons,
        exists_eq_or_imp, ← hRest]
      cases hKey : key.childKey? with
      | none => simp [ReachesOver, hKey]
      | some name =>
          dsimp only
          rw [List.mem_append]
          apply or_congr_left
          simp only [List.mem_map, Prod.mk.injEq, Prod.exists,
            hChild, ReachesOver, hKey, Option.some.injEq]
          constructor
          · rintro ⟨rest, last, hReaches, rfl, rfl⟩
            exact ⟨name, rest, rfl, rfl, hReaches⟩
          · rintro ⟨other, rest, rfl, rfl, hReaches⟩
            exact ⟨rest, node, hReaches, rfl, rfl⟩

end

end RamlScaffold.Yaml.Value

------------------------------------------------------------
-- Entries That A Resource Takes
------------------------------------------------------------

namespace RamlScaffold

theorem Method.verb_ofValue
    [PatternLanguage]
    (verb : Verb)
    (value : Yaml.Value) :
    (Method.ofValue verb value).verb = verb := by
  cases value <;> rfl

namespace Resource

open RamlScaffold.Yaml

theorem isSome_method?_iff
    (resource : Resource)
    (verb : Verb) :
    (resource.method? verb).isSome = true ↔
      verb ∈ resource.methods.map Method.verb := by
  simp [method?, List.find?_isSome]

variable [PatternLanguage]

/- All that an entry of a node can make of its resource. -/
inductive Takes
    (resource : Resource)
    (entry : Value × Value) : Resource → Prop where
  | child
      (name : String)
      (child : Resource)
      (hChild : entry.1.childKey? = some name)
      (hVerb : entry.1.verbKey? = none)
      (hOf : ofValue name entry.2 = .ok child) :
      Takes resource entry
        { resource with nested := resource.nested ++ [child] }
  | method
      (verb : Verb)
      (hChild : entry.1.childKey? = none)
      (hVerb : entry.1.verbKey? = some verb)
      (hFree : verb ∉ resource.methods.map Method.verb) :
      Takes resource entry
        { resource with
          methods :=
            resource.methods ++ [Method.ofValue verb entry.2] }
  | other
      (hChild : entry.1.childKey? = none)
      (hVerb : entry.1.verbKey? = none) :
      Takes resource entry resource

/- All for which an entry of a node can be refused. -/
inductive Refuses
    (resource : Resource)
    (entry : Value × Value) : ResourceFault → Prop where
  | child
      (name : String)
      (fault : ResourceFault)
      (hChild : entry.1.childKey? = some name)
      (hOf : ofValue name entry.2 = .error fault) :
      Refuses resource entry (.inside resource.uri fault)
  | verb
      (verb : Verb)
      (hVerb : entry.1.verbKey? = some verb)
      (hTwice : verb ∈ resource.methods.map Method.verb) :
      Refuses resource entry (.verbTwice resource.uri verb)

/- An entry is refused, or taken and the next one follows. -/
theorem step_of_withEntries
    (resource : Resource)
    (key value : Value)
    (entries : List (Value × Value)) :
    (∃ fault,
      resource.Refuses (key, value) fault ∧
        withEntries resource ((key, value) :: entries) =
          .error fault) ∨
      ∃ middle,
        resource.Takes (key, value) middle ∧
          withEntries resource ((key, value) :: entries) =
            withEntries middle entries := by
  rw [withEntries]
  cases key.keyCase with
  | child name hChild hVerb hText hSlash =>
      rw [hText]
      dsimp only
      rw [if_pos hSlash]
      cases hOf : ofValue name value with
      | error fault =>
          exact Or.inl ⟨_, .child name fault hChild hOf, rfl⟩
      | ok child =>
          exact
            Or.inr ⟨_, .child name child hChild hVerb hOf, rfl⟩
  | verb name verb hChild hVerb hText hSlash hParse =>
      rw [hText]
      dsimp only
      rw [hSlash, if_neg Bool.false_ne_true, hParse]
      dsimp only
      split
      · next hTwice =>
          rw [isSome_method?_iff] at hTwice
          exact Or.inl ⟨_, .verb verb hVerb hTwice, rfl⟩
      · next hFree =>
          rw [isSome_method?_iff] at hFree
          exact Or.inr ⟨_, .method verb hChild hVerb hFree, rfl⟩
  | other hChild hVerb hOther =>
      refine Or.inr ⟨resource, .other hChild hVerb, ?_⟩
      cases hText : key.keyText? with
      | none => rfl
      | some name =>
          rcases hOther name hText with ⟨hSlash, hParse⟩
          dsimp only
          rw [hSlash, if_neg Bool.false_ne_true, hParse]

/- Entries that are all taken are taken one by one. -/
theorem takes_of_withEntries
    {resource last : Resource}
    {key value : Value}
    {entries : List (Value × Value)}
    (hAll :
      withEntries resource ((key, value) :: entries) =
        .ok last) :
    ∃ middle,
      resource.Takes (key, value) middle ∧
        withEntries middle entries = .ok last := by
  rcases step_of_withEntries resource key value entries with
    ⟨fault, -, hFault⟩ | ⟨middle, hTakes, hRest⟩
  · rw [hFault] at hAll
    cases hAll
  · rw [hRest] at hAll
    exact ⟨middle, hTakes, hAll⟩

/- Entries are refused for the first, or for one after it. -/
theorem refuses_of_withEntries
    {resource : Resource}
    {key value : Value}
    {entries : List (Value × Value)}
    {fault : ResourceFault}
    (hAll :
      withEntries resource ((key, value) :: entries) =
        .error fault) :
    resource.Refuses (key, value) fault ∨
      ∃ middle,
        resource.Takes (key, value) middle ∧
          withEntries middle entries = .error fault := by
  rcases step_of_withEntries resource key value entries with
    ⟨other, hRefuses, hFault⟩ | ⟨middle, hTakes, hRest⟩
  · rw [hFault] at hAll
    rw [← Except.error.inj hAll]
    exact Or.inl hRefuses
  · rw [hRest] at hAll
    exact Or.inr ⟨middle, hTakes, hAll⟩

/-
  The verbs of a resource are those of its entries, in their
  order, and none of them twice.
-/
theorem verbs_of_withEntries
    {resource last : Resource}
    {entries : List (Value × Value)}
    (hAll : withEntries resource entries = .ok last)
    (hNodup : (resource.methods.map Method.verb).Nodup) :
    last.uri = resource.uri ∧
      last.methods.map Method.verb =
        resource.methods.map Method.verb ++
          Value.verbsOfEntries entries ∧
      (last.methods.map Method.verb).Nodup := by
  induction entries generalizing resource with
  | nil =>
      rw [withEntries] at hAll
      rw [← Except.ok.inj hAll]
      exact ⟨rfl, (List.append_nil _).symm, hNodup⟩
  | cons entry entries ih =>
      rcases entry with ⟨key, value⟩
      rcases takes_of_withEntries hAll with
        ⟨middle, hTakes, hRest⟩
      cases hTakes with
      | child name child hChild hVerb hOf =>
          have hLast := ih hRest hNodup
          rw [Value.verbsOfEntries_cons_none hVerb]
          exact hLast
      | other hChild hVerb =>
          have hLast := ih hRest hNodup
          rw [Value.verbsOfEntries_cons_none hVerb]
          exact hLast
      | method verb hChild hVerb hFree =>
          have hVerbs :
              (resource.methods ++
                  [Method.ofValue verb value]).map
                Method.verb =
                resource.methods.map Method.verb ++ [verb] := by
            rw [List.map_append, List.map_singleton,
              Method.verb_ofValue]
          have hMore :
              (resource.methods.map Method.verb ++
                [verb]).Nodup := by
            refine
              List.nodup_append.mpr
                ⟨hNodup, List.pairwise_singleton _ verb, ?_⟩
            rintro other hOther _ hVerb rfl
            rw [List.mem_singleton.mp hVerb] at hOther
            exact hFree hOther
          rw [← hVerbs] at hMore
          rcases ih hRest hMore with
            ⟨hUri, hLast, hLastNodup⟩
          refine ⟨hUri, ?_, hLastNodup⟩
          rw [hLast, hVerbs, List.append_assoc,
            Value.verbsOfEntries_cons_some hVerb]
          rfl

/- The resource of a node has the verbs of the node. -/
theorem verbs_of_ofValue
    {uri : String}
    {value : Value}
    {resource : Resource}
    (hResource : ofValue uri value = .ok resource) :
    resource.uri = uri ∧
      resource.methods.map Method.verb = value.verbs ∧
      value.verbs.Nodup := by
  cases value with
  | mapping entries =>
      rw [ofValue] at hResource
      rcases verbs_of_withEntries hResource List.nodup_nil with
        ⟨hUri, hVerbs, hNodup⟩
      rw [hVerbs] at hNodup
      exact ⟨hUri, hVerbs, hNodup⟩
  | null =>
      rw [ofValue] at hResource
      rw [← Except.ok.inj hResource]
      exact ⟨rfl, rfl, List.nodup_nil⟩
  | bool value => cases hResource
  | number value => cases hResource
  | text content => cases hResource
  | sequence items => cases hResource
  | tagged tag value => cases hResource

end Resource

end RamlScaffold

------------------------------------------------------------
-- Routes Of A Document
------------------------------------------------------------

namespace RamlScaffold

/- The order of the visits has every verb once. -/
theorem Verb.nodup_walkOrder : walkOrder.Nodup := by
  decide

theorem Verb.mem_walkOrder (verb : Verb) :
    verb ∈ walkOrder := by
  cases verb <;> decide

/- The verbs of a node in the order of the visits. -/
def Yaml.Value.orderedVerbs (node : Value) : List Verb :=
  Verb.walkOrder.filter (fun verb => verb ∈ node.verbs)

/- Ordering the verbs of a node loses and repeats none. -/
theorem Yaml.Value.orderedVerbs_perm
    {node : Value}
    (hNodup : node.verbs.Nodup) :
    node.orderedVerbs.Perm node.verbs := by
  refine
    (List.perm_ext_iff_of_nodup
      (Verb.nodup_walkOrder.filter _) hNodup).mpr ?_
  intro verb
  simp [Verb.mem_walkOrder]

namespace Resource

open RamlScaffold.Yaml

/- The verbs of the methods in the order of the visits. -/
theorem verbs_orderedMethods (resource : Resource) :
    resource.orderedMethods.map Method.verb =
      Verb.walkOrder.filter
        (fun verb => verb ∈ resource.methods.map Method.verb) := by
  unfold orderedMethods
  induction Verb.walkOrder with
  | nil => rfl
  | cons verb verbs ih =>
      have hMem := resource.isSome_method?_iff verb
      cases hFind : resource.method? verb with
      | none =>
          rw [hFind] at hMem
          rw [List.filterMap_cons_none hFind, ih,
            List.filter_cons_of_neg]
          simpa using hMem
      | some method =>
          have hBeq := List.find?_some hFind
          have hVerb : method.verb = verb := eq_of_beq hBeq
          rw [hFind] at hMem
          rw [List.filterMap_cons_some hFind, List.map_cons, ih,
            hVerb, List.filter_cons_of_pos]
          simpa using hMem

theorem placedMethodsOfList_append
    (base : String)
    (front back : List Resource) :
    placedMethodsOfList base (front ++ back) =
      placedMethodsOfList base front ++
        placedMethodsOfList base back := by
  induction front with
  | nil => rfl
  | cons resource resources ih =>
      rw [List.cons_append, placedMethodsOfList,
        placedMethodsOfList, ih, List.append_assoc]

/- The endpoints and verbs of methods below a path. -/
def endpoints (placed : List (String × Method)) :
    List (String × Verb) :=
  placed.map (fun (path, method) => (path, method.verb))

/- The endpoints of the verbs of a node at a path. -/
def endpointsAt (path : String) (node : Value) :
    List (String × Verb) :=
  node.orderedVerbs.map (fun verb => (path, verb))

theorem endpoints_orderedMethods
    {resource : Resource}
    {node : Value}
    (hVerbs : resource.methods.map Method.verb = node.verbs)
    (path : String) :
    endpoints
        (resource.orderedMethods.map
          (fun method => (path, method))) =
      endpointsAt path node := by
  unfold endpoints endpointsAt Value.orderedVerbs
  rw [← hVerbs, ← verbs_orderedMethods, List.map_map,
    List.map_map]
  rfl

/- A resource has its own methods before those nested in it. -/
theorem placedMethods_eq
    (base : String)
    (resource : Resource) :
    resource.placedMethods base =
      resource.orderedMethods.map
          (fun method => (base ++ resource.uri, method)) ++
        placedMethodsOfList (base ++ resource.uri)
          resource.nested := by
  rcases resource with
    ⟨uri, displayName, description, methods, nested⟩
  rw [placedMethods]

theorem endpoints_append
    (front back : List (String × Method)) :
    endpoints (front ++ back) =
      endpoints front ++ endpoints back :=
  List.map_append

/- The endpoints of nodes, each below a path by its chain. -/
def endpointsOfNodes
    (path : String)
    (nodes : List (List String × Value)) :
    List (String × Verb) :=
  nodes.flatMap
    (fun (chain, node) =>
      endpointsAt (path ++ String.join chain) node)

theorem endpointsOfNodes_append
    (path : String)
    (front back : List (List String × Value)) :
    endpointsOfNodes path (front ++ back) =
      endpointsOfNodes path front ++
        endpointsOfNodes path back :=
  List.flatMap_append

/- A key in front of all chains belongs to the path as well. -/
theorem endpointsOfNodes_map_cons
    (path name : String)
    (nodes : List (List String × Value)) :
    endpointsOfNodes path
        (nodes.map
          (fun (chain, node) => (name :: chain, node))) =
      endpointsOfNodes (path ++ name) nodes := by
  unfold endpointsOfNodes
  rw [List.flatMap_map]
  simp only [String.join_cons, String.append_assoc]

section

variable [PatternLanguage]

mutual

/- The methods of a resource are the verbs of its nodes. -/
theorem endpoints_of_ofValue :
    ∀ (value : Value) (uri : String) (resource : Resource),
      ofValue uri value = .ok resource →
      ∀ base,
        endpoints (resource.placedMethods base) =
          endpointsOfNodes (base ++ uri) value.nodes
  | .mapping entries, uri, resource, hResource, base => by
      rcases verbs_of_ofValue hResource with ⟨hUri, hVerbs, -⟩
      rw [ofValue] at hResource
      have hEntries :=
        endpoints_of_withEntries entries _ _ hResource
          (base ++ uri)
      rw [placedMethods_eq, hUri, endpoints_append,
        endpoints_orderedMethods hVerbs, hEntries, Value.nodes]
      simp [endpointsOfNodes, placedMethodsOfList, endpoints]
  | .null, uri, resource, hResource, base => by
      rcases verbs_of_ofValue hResource with ⟨hUri, hVerbs, -⟩
      rw [ofValue] at hResource
      have hNested : resource.nested = [] := by
        rw [← Except.ok.inj hResource]
      rw [placedMethods_eq, hUri, endpoints_append,
        endpoints_orderedMethods hVerbs, hNested, Value.nodes]
      simp [endpointsOfNodes, placedMethodsOfList, endpoints]
  | .bool _, _, _, hResource, _ => nomatch hResource
  | .number _, _, _, hResource, _ => nomatch hResource
  | .text _, _, _, hResource, _ => nomatch hResource
  | .sequence _, _, _, hResource, _ => nomatch hResource
  | .tagged _ _, _, _, hResource, _ => nomatch hResource

theorem endpoints_of_withEntries :
    ∀ (entries : List (Value × Value))
      (resource last : Resource),
      withEntries resource entries = .ok last →
      ∀ base,
        endpoints (placedMethodsOfList base last.nested) =
          endpoints (placedMethodsOfList base resource.nested) ++
            endpointsOfNodes base (Value.nodesOfEntries entries)
  | [], resource, last, hAll, base => by
      rw [withEntries] at hAll
      rw [← Except.ok.inj hAll, Value.nodesOfEntries]
      exact (List.append_nil _).symm
  | (key, value) :: entries, resource, last, hAll, base => by
      have hValue := endpoints_of_ofValue value
      have hEntries := endpoints_of_withEntries entries
      rcases takes_of_withEntries hAll with
        ⟨middle, hTakes, hRest⟩
      rw [hEntries middle last hRest base, Value.nodesOfEntries]
      -- Only the key of a resource adds nodes and methods.
      cases hTakes with
      | child name child hChild hVerb hOf =>
          have hOwn :
              endpoints (placedMethodsOfList base [child]) =
                endpointsOfNodes base
                  (value.nodes.map
                    (fun (chain, node) =>
                      (name :: chain, node))) := by
            rw [endpointsOfNodes_map_cons,
              ← hValue name child hOf base,
              placedMethodsOfList, placedMethodsOfList,
              List.append_nil]
          rw [hChild, placedMethodsOfList_append,
            endpoints_append, List.append_assoc, hOwn]
          dsimp only
          rw [endpointsOfNodes_append]
      | method verb hChild hVerb hFree =>
          rw [hChild]
      | other hChild hVerb =>
          rw [hChild]

end

/- The entries of a node that has a resource all have theirs. -/
theorem ofValue_of_mem
    {key value : Value}
    {name : String}
    (hKey : key.childKey? = some name)
    {entries : List (Value × Value)}
    (hEntry : (key, value) ∈ entries)
    {resource last : Resource}
    (hAll : withEntries resource entries = .ok last) :
    ∃ child, ofValue name value = .ok child := by
  induction entries generalizing resource with
  | nil => cases hEntry
  | cons entry entries ih =>
      rcases entry with ⟨other, current⟩
      rcases takes_of_withEntries hAll with
        ⟨middle, hTakes, hRest⟩
      rcases List.mem_cons.mp hEntry with hFirst | hEntry
      · rcases Prod.mk.inj hFirst with ⟨rfl, rfl⟩
        cases hTakes with
        | child found child hChild hVerb hOf =>
            rw [hKey] at hChild
            rw [Option.some.inj hChild]
            exact ⟨child, hOf⟩
        | method verb hChild hVerb hFree =>
            rw [hKey] at hChild
            cases hChild
        | other hChild hVerb =>
            rw [hKey] at hChild
            cases hChild
      · exact ih hEntry hRest

/- Every node that chains reach has a resource. -/
theorem ofValue_of_reaches
    {value node : Value}
    {chain : List String}
    (hReaches : value.Reaches chain node)
    {uri : String}
    {resource : Resource}
    (hResource : ofValue uri value = .ok resource) :
    ∃ name reached, ofValue name node = .ok reached := by
  induction hReaches generalizing uri resource with
  | here value => exact ⟨uri, resource, hResource⟩
  | under entries key child node name chain hEntry hKey hChild
      ih =>
      rw [ofValue] at hResource
      rcases ofValue_of_mem hKey hEntry hResource with
        ⟨reached, hReached⟩
      exact ih hReached

/-
  The routes of a node that is accepted are the verbs of the
  nodes that chains of resource keys reach: node after node,
  the verbs of a node in the order of the visits, each as
  often as the node declares it, which is once.
-/
theorem routes_of_document
    {uri : String}
    {value : Value}
    {resource : Resource}
    (hResource : ofValue uri value = .ok resource)
    (package ancestor : String)
    (isServer : Bool) :
    (resource.describe package isServer ancestor).allRoutes.map
          (fun route => (route.endpoint, route.verb)) =
        value.nodes.flatMap
          (fun (chain, node) =>
            node.orderedVerbs.map
              (fun verb =>
                (ancestor ++ uri ++ String.join chain, verb))) ∧
      (∀ chain node,
        (chain, node) ∈ value.nodes ↔
          value.Reaches chain node) ∧
      ∀ chain node, value.Reaches chain node →
        node.verbs.Nodup ∧
          node.orderedVerbs.Perm node.verbs ∧
          node.orderedVerbs.Sublist Verb.walkOrder := by
  refine ⟨?_, value.mem_nodes_iff, ?_⟩
  · have hEndpoints :=
      endpoints_of_ofValue value uri resource hResource ancestor
    rw [allRoutes_describe, List.map_map]
    exact hEndpoints
  · intro chain node hReaches
    rcases ofValue_of_reaches hReaches hResource with
      ⟨name, reached, hReached⟩
    rcases verbs_of_ofValue hReached with ⟨-, -, hNodup⟩
    exact
      ⟨hNodup, Value.orderedVerbs_perm hNodup,
        List.filter_sublist⟩

end

/- A node with two verbs out of order and a node below it. -/
def nestedNode : Value :=
  .mapping
    [(.text "POST", .null),
      (.text "/all", .mapping [(.text "delete", .null)]),
      (.text "description", .text "Users"),
      (.text "get", .null)]

theorem routes_of_nestedNode :
    ∃ resource,
      ofValue "/users" nestedNode = .ok resource ∧
        (resource.describe "api" true "").allRoutes.map
            (fun route => (route.endpoint, route.verb)) =
          [("/users", .get), ("/users", .post),
            ("/users/all", .delete)] := by
  have hOk :
      (ofValue "/users" nestedNode).isOk = true := by
    decide +kernel
  cases hResource : ofValue "/users" nestedNode with
  | error fault =>
      rw [hResource] at hOk
      cases hOk
  | ok resource =>
      refine ⟨resource, rfl, ?_⟩
      rw [(routes_of_document hResource "api" "" true).1]
      decide +kernel

end Resource

end RamlScaffold
