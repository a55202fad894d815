import RamlScaffold.Proofs.Schema.Realization

/-
  The parent of a structure beside its own fields.

  Parents and properties share one row of fields, a parent
  under its name as a type and a property under its wire name.
  The parent is put in last, so it takes the place of a
  property that has its name, and of no other.

  Main declarations:
    * `Keyed.perm_insert`
    * `TypeDecl.parent_of_classify`
    * `Structure.Inherits`
    * `Structure.inherits_withParent`
    * `Structure.inherits_of_decl_and_payload`
    * `Structure.namesake_is_lost`
-/

------------------------------------------------------------
-- Entries Put In
------------------------------------------------------------

namespace RamlScaffold.Keyed

variable {α : Type}

/- An entry takes the place of the one that had its key. -/
theorem perm_insert
    {entries : Keyed α}
    (hEntries : entries.Ascending)
    (key : String)
    (value : α) :
    (entries.insert key value).Perm
      ((key, value) ::
        entries.filter (fun entry => entry.1 != key)) := by
  induction entries with
  | nil => exact .refl _
  | cons first rest ih =>
      rcases first with ⟨next, current⟩
      have hParts := List.pairwise_cons.mp hEntries
      have hBehind : ∀ entry ∈ rest, next < entry.1 :=
        fun entry hEntry =>
          hParts.1 entry.1 (List.mem_map_of_mem hEntry)
      -- A key that is not behind the first one is not in the
      -- rest, so nothing of the rest is dropped.
      have hRest (hKey : key ≤ next) :
          rest.filter (fun entry => entry.1 != key) = rest := by
        refine List.filter_eq_self.mpr ?_
        intro entry hEntry
        have hBefore : key < entry.1 :=
          Std.lt_of_le_of_lt hKey (hBehind entry hEntry)
        exact bne_iff_ne.mpr (Std.ne_of_lt hBefore).symm
      rw [insert]
      split
      · next hSame =>
          subst hSame
          rw [List.filter_cons_of_neg (by simp),
            hRest (Std.le_refl key)]
      · next hOther =>
          have hKept :
              List.filter (fun entry => entry.1 != key)
                  ((next, current) :: rest) =
                (next, current) ::
                  rest.filter (fun entry => entry.1 != key) :=
            List.filter_cons_of_pos
              (bne_iff_ne.mpr (Ne.symm hOther))
          rw [hKept]
          split
          · next hBefore => rw [hRest (Std.le_of_lt hBefore)]
          · exact ((ih hParts.2).cons _).trans (.swap _ _ _)

end RamlScaffold.Keyed

------------------------------------------------------------
-- Single Inheritance
------------------------------------------------------------

namespace RamlScaffold

/- A lone parent is the type facet as it is written. -/
theorem TypeDecl.parent_of_classify
    {decl : TypeDecl}
    (hKind : decl.classify.kind = .singleInheritance) :
    decl.classify = .singleInheritance decl.typeExpr.raw := by
  unfold classify at hKind ⊢
  split
  · next hExpr =>
      rw [hExpr] at hKind
      cases hKind
  · next hExpr =>
      split at hKind
      · next first second rest hSame =>
          exact absurd hSame (hExpr first second rest)
      · unfold classifySingle at hKind ⊢
        grind [Classification.kind]

/-
  A structure with the parent of a declaration and with fields
  of its own: one for each name of a property, except for the
  name of the parent.  None is lost exactly if no property is
  a namesake of the parent.
-/
structure Structure.Inherits
    (struct : Structure)
    (language : Language)
    (decl : TypeDecl) : Prop where
  embedded_eq :
    struct.embedded =
      [Field.ofParent language decl.typeExpr.raw]
  own_ascending :
    (struct.own.map Field.wireName).Pairwise
      (fun a b => a < b)
  mem_own_iff :
    ∀ name,
      name ∈ struct.own.map Field.wireName ↔
        name ≠ decl.typeExpr.raw ∧
          name ∈ decl.properties.map Property.name
  length_eq : struct.own.length + 1 = struct.fields.length
  keeps_iff :
    (∀ name ∈ decl.properties.map Property.name,
        name ∈ struct.own.map Field.wireName) ↔
      decl.typeExpr.raw ∉ decl.properties.map Property.name

namespace Structure

variable {language : Language} {properties : List Property}

/- The fields of properties under their wire names. -/
def propertyFields
    (language : Language)
    (properties : List Property) : Keyed Field :=
  Keyed.ofList
    (properties.map
      (fun property =>
        (property.name, Field.ofProperty language property)))

theorem of_mem_propertyFields
    {entry : String × Field}
    (hEntry : entry ∈ propertyFields language properties) :
    entry.2.wireName = entry.1 ∧ entry.2.isEmbedded = false := by
  rcases List.mem_map.mp (Keyed.mem_of_mem_ofList hEntry) with
    ⟨property, _, rfl⟩
  exact ⟨rfl, rfl⟩

theorem mem_keys_propertyFields (name : String) :
    name ∈ (propertyFields language properties).keys ↔
      name ∈ properties.map Property.name := by
  rw [propertyFields, Keyed.mem_keys_ofList, List.map_map]
  rfl

/- The fields of properties that are no namesake of a parent. -/
def keptFields
    (language : Language)
    (properties : List Property)
    (parent : String) : Keyed Field :=
  (propertyFields language properties).filter
    (fun entry => entry.1 != parent)

theorem mem_keys_keptFields (parent name : String) :
    name ∈ (keptFields language properties parent).keys ↔
      name ≠ parent ∧ name ∈ properties.map Property.name := by
  rw [← mem_keys_propertyFields]
  simp only [keptFields, Keyed.keys, List.mem_map,
    List.mem_filter, bne_iff_ne]
  constructor
  · rintro ⟨entry, ⟨hEntry, hOther⟩, rfl⟩
    exact ⟨hOther, entry, hEntry, rfl⟩
  · rintro ⟨hOther, entry, hEntry, rfl⟩
    exact ⟨entry, ⟨hEntry, hOther⟩, rfl⟩

/- Kept fields embed nothing. -/
theorem isEmbedded_of_mem_kept
    {parent : String}
    {field : Field}
    (hField :
      field ∈
        (keptFields language properties parent).map Prod.snd) :
    field.isEmbedded = false := by
  rcases List.mem_map.mp hField with ⟨entry, hEntry, rfl⟩
  exact (of_mem_propertyFields (List.mem_filter.mp hEntry).1).2

/- Kept fields have their keys as wire names. -/
theorem wireNames_keptFields (parent : String) :
    ((keptFields language properties parent).map
        Prod.snd).map Field.wireName =
      (keptFields language properties parent).keys := by
  rw [List.map_map]
  refine List.map_congr_left ?_
  intro entry hEntry
  exact (of_mem_propertyFields (List.mem_filter.mp hEntry).1).1

variable {struct : Structure} {parent : String}

/- The fields of a structure with one parent. -/
structure HasParent
    (struct : Structure)
    (language : Language)
    (properties : List Property)
    (parent : String) : Prop where
  ascending : struct.fields.Ascending
  perm :
    struct.fields.Perm
      ((parent, Field.ofParent language parent) ::
        keptFields language properties parent)

/- A parent is put in beside the fields of properties. -/
theorem hasParent_withParent
    (hStruct : struct.HasFieldsOf language properties)
    (parent : String) :
    (withParent language struct parent).HasParent language
      properties parent := by
  have hFields :
      (withParent language struct parent).fields =
        (propertyFields language properties).insert parent
          (Field.ofParent language parent) := by
    unfold withParent
    rw [hStruct.fields_eq]
    rfl
  have hAscending :
      (propertyFields language properties).Ascending :=
    Keyed.ascending_ofList _
  constructor
  · rw [hFields]
    exact hAscending.insert parent _
  · rw [hFields]
    exact Keyed.perm_insert hAscending parent _

namespace HasParent

variable (hStruct : struct.HasParent language properties parent)
include hStruct

/- Only the parent is embedded. -/
theorem embedded_eq :
    struct.embedded = [Field.ofParent language parent] := by
  have hNone :
      ((keptFields language properties parent).map
          Prod.snd).filter
        (·.isEmbedded) = [] := by
    refine List.filter_eq_nil_iff.mpr ?_
    intro field hField
    simp [isEmbedded_of_mem_kept hField]
  have hPerm := (hStruct.perm.map Prod.snd).filter (·.isEmbedded)
  rw [List.map_cons, List.filter_cons_of_pos rfl, hNone] at hPerm
  exact List.perm_singleton.mp hPerm

/- The other fields are the kept ones. -/
theorem perm_own :
    struct.own.Perm
      ((keptFields language properties parent).map
        Prod.snd) := by
  have hAll :
      ((keptFields language properties parent).map
          Prod.snd).filter
        (fun field => !field.isEmbedded) =
        (keptFields language properties parent).map
          Prod.snd := by
    refine List.filter_eq_self.mpr ?_
    intro field hField
    simp [isEmbedded_of_mem_kept hField]
  have hPerm :=
    (hStruct.perm.map Prod.snd).filter
      (fun field => !field.isEmbedded)
  rw [List.map_cons,
    List.filter_cons_of_neg (by simp [Field.ofParent]),
    hAll] at hPerm
  exact hPerm

/- Every field is kept under its wire name. -/
theorem wireName_eq
    {entry : String × Field}
    (hEntry : entry ∈ struct.fields) :
    entry.2.wireName = entry.1 := by
  rcases List.mem_cons.mp (hStruct.perm.mem_iff.mp hEntry) with
    rfl | hKept
  · rfl
  · exact
      (of_mem_propertyFields (List.mem_filter.mp hKept).1).1

/- Own fields are in the order of their wire names. -/
theorem own_ascending :
    (struct.own.map Field.wireName).Pairwise
      (fun a b => a < b) := by
  have hNames :
      (struct.fields.map Prod.snd).map Field.wireName =
        struct.fields.keys := by
    rw [List.map_map]
    exact List.map_congr_left
      (fun _ hEntry => hStruct.wireName_eq hEntry)
  have hSublist :
      (struct.own.map Field.wireName).Sublist
        struct.fields.keys := by
    rw [← hNames]
    exact List.filter_sublist.map Field.wireName
  exact hStruct.ascending.sublist hSublist

theorem mem_own_iff (name : String) :
    name ∈ struct.own.map Field.wireName ↔
      name ≠ parent ∧ name ∈ properties.map Property.name := by
  rw [(hStruct.perm_own.map Field.wireName).mem_iff,
    wireNames_keptFields, mem_keys_keptFields]

/- The parent is the only field beside the own ones. -/
theorem length_own :
    struct.own.length + 1 = struct.fields.length := by
  rw [hStruct.perm_own.length_eq, hStruct.perm.length_eq,
    List.length_map, List.length_cons]

/- No name is lost exactly if the parent has no namesake. -/
theorem keeps_iff :
    (∀ name ∈ properties.map Property.name,
        name ∈ struct.own.map Field.wireName) ↔
      parent ∉ properties.map Property.name := by
  constructor
  · intro hKeeps hParent
    exact
      ((hStruct.mem_own_iff parent).mp
        (hKeeps parent hParent)).1 rfl
  · intro hParent name hName
    refine (hStruct.mem_own_iff name).mpr ⟨?_, hName⟩
    rintro rfl
    exact hParent hName

end HasParent

/-
  A declaration or payload with a lone parent and properties
  makes a structure that inherits.
-/
theorem inherits_shape
    {decl : TypeDecl}
    (hStruct : struct.HasFieldsOf language decl.properties)
    (hKind : decl.classify.kind = .singleInheritance) :
    (shape language struct decl.classify).Inherits language
      decl := by
  rw [TypeDecl.parent_of_classify hKind]
  have hKept :
      { struct with kind := .singleInheritance }.HasFieldsOf
        language decl.properties :=
    ⟨hStruct.fields_eq, hStruct.alias?_eq⟩
  have hParent := hasParent_withParent hKept decl.typeExpr.raw
  exact
    ⟨hParent.embedded_eq, hParent.own_ascending,
      hParent.mem_own_iff, hParent.length_own,
      hParent.keeps_iff⟩

/-
  Single inheritance embeds the parent and keeps every field
  of its own except for a namesake of the parent, whose place
  the parent takes.
-/
theorem inherits_of_decl_and_payload
    (language : Language)
    (package : String) :
    (∀ name decl,
      decl.classify.kind = .singleInheritance →
        (ofDecl language name decl package).Inherits language
          decl) ∧
      ∀ methodName payload direction,
        payload.toTypeDecl.classify.kind = .singleInheritance →
          (ofPayload language methodName payload package
            direction).Inherits language payload.toTypeDecl :=
  ⟨fun _ _ hKind => inherits_shape ⟨rfl, rfl⟩ hKind,
    fun _ _ _ hKind => inherits_shape ⟨rfl, rfl⟩ hKind⟩

/- A name that is given twice, and the parent in capitals. -/
def petPayload : Payload where
  typeExpr := .single "pet"
  properties :=
    [⟨"name", some "string", true⟩, ⟨"Pet", none, false⟩,
      ⟨"name", some "integer", true⟩]

theorem petPayload_inherits :
    petPayload.toTypeDecl.classify.kind = .singleInheritance ∧
      (ofDecl .go "Cat" petPayload.toTypeDecl "api").Inherits
        .go petPayload.toTypeDecl ∧
      (ofPayload .rust "CatsGet" petPayload "api"
          .response).Inherits
        .rust petPayload.toTypeDecl ∧
      (ofDecl .go "Cat" petPayload.toTypeDecl "api").own.map
          Field.wireName =
        ["Pet", "name"] := by
  have hKind :
      petPayload.toTypeDecl.classify.kind =
        .singleInheritance := by
    decide +kernel
  refine ⟨hKind, ?_, ?_, by decide +kernel⟩
  · exact
      (inherits_of_decl_and_payload .go "api").1 "Cat" _ hKind
  · exact
      (inherits_of_decl_and_payload .rust "api").2 "CatsGet"
        petPayload .response hKind

/- A property with the name of the parent. -/
def namesakePayload : Payload where
  typeExpr := .single "person"
  properties := [⟨"person", some "string", true⟩]

/- The parent takes the place of the property. -/
theorem namesake_is_lost :
    namesakePayload.toTypeDecl.classify.kind =
        .singleInheritance ∧
      (ofDecl .go "Owner" namesakePayload.toTypeDecl "api").own =
        [] ∧
      (ofPayload .rust "OwnersGet" namesakePayload "api"
        .response).own = [] := by
  decide +kernel

end Structure

end RamlScaffold
