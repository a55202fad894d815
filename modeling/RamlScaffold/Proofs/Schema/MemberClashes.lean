import Mathlib.Data.List.Nodup
import RamlScaffold.Proofs.Language.SharedMembers
import RamlScaffold.Proofs.Schema.Inheritance
import RamlScaffold.Proofs.Template.StructureText

/-
  Whether the members of a structure have different names.

  Fields are kept under their wire names or the names of their
  parents, so each of these is there once.  The identifiers
  made of them may still be the same.

  Main declarations:
    * `Structure.named`
    * `TypeDecl.parentKeys`, `TypeDecl.ownKeys`
    * `Structure.mem_keys_members`
    * `Structure.members_differ_iff`
    * `Structure.accounts_clash`
-/

------------------------------------------------------------
-- Keys
------------------------------------------------------------

namespace RamlScaffold

/-
  The fields that are written with their names: all of them in
  Rust, and those that embed nothing in Go.
-/
def Structure.named
    (struct : Structure)
    (language : Language) : Keyed Field :=
  match language with
  | .go => struct.members false
  | .rust => struct.members true ++ struct.members false

namespace TypeDecl

/- The parents that a structure of the declaration embeds. -/
def parentKeys (decl : TypeDecl) : List String :=
  match decl.classify with
  | .multipleInheritance parents => parents
  | .singleInheritance parent => [parent]
  | _ => []

/-
  The properties that it has fields for.  A parent takes the
  place of a property with its name.
-/
def ownKeys (decl : TypeDecl) : List String :=
  let names := decl.properties.map Property.name
  match decl.classify with
  | .singleInheritance parent => names.filter (· != parent)
  | classification =>
      if classification.isPlain then names else []

/- The names behind the members that are written with names. -/
def memberKeys
    (decl : TypeDecl)
    (language : Language) : List String :=
  match language with
  | .go => decl.ownKeys
  | .rust => decl.parentKeys ++ decl.ownKeys

end TypeDecl

/- A classification calls for one of four forms. -/
theorem Classification.sort (classification : Classification) :
    classification.isAlias = true ∨
      classification.isPlain = true ∨
      classification.kind = .multipleInheritance ∨
      classification.kind = .singleInheritance := by
  cases classification with
  | map value =>
      cases value with
      | none => exact Or.inr (Or.inl rfl)
      | some element => exact Or.inl rfl
  | enumeration base =>
      cases base with
      | none => exact Or.inr (Or.inl rfl)
      | some name => exact Or.inl rfl
  | plainObject => exact Or.inr (Or.inl rfl)
  | multipleInheritance parents =>
      exact Or.inr (Or.inr (Or.inl rfl))
  | singleInheritance parent =>
      exact Or.inr (Or.inr (Or.inr rfl))
  | _ => exact Or.inl rfl

namespace TypeDecl

/- An alias has no members. -/
theorem keys_of_isAlias
    (decl : TypeDecl)
    (hAlias : decl.classify.isAlias = true) :
    decl.parentKeys = [] ∧ decl.ownKeys = [] := by
  unfold parentKeys ownKeys
  generalize decl.classify = classification at hAlias ⊢
  cases classification with
  | map value =>
      cases value with
      | none => cases hAlias
      | some element => exact ⟨rfl, rfl⟩
  | enumeration base =>
      cases base with
      | none => cases hAlias
      | some name => exact ⟨rfl, rfl⟩
  | plainObject => cases hAlias
  | multipleInheritance parents => cases hAlias
  | singleInheritance parent => cases hAlias
  | _ => exact ⟨rfl, rfl⟩

/- A plain structure has a member for each property. -/
theorem keys_of_isPlain
    (decl : TypeDecl)
    (hPlain : decl.classify.isPlain = true) :
    decl.parentKeys = [] ∧
      decl.ownKeys = decl.properties.map Property.name := by
  unfold parentKeys ownKeys
  generalize decl.classify = classification at hPlain ⊢
  cases classification with
  | plainObject => exact ⟨rfl, rfl⟩
  | map value => exact ⟨rfl, if_pos hPlain⟩
  | enumeration base => exact ⟨rfl, if_pos hPlain⟩
  | multipleInheritance parents => cases hPlain
  | singleInheritance parent => cases hPlain
  | _ => cases hPlain

end TypeDecl

end RamlScaffold

------------------------------------------------------------
-- Fields Under Their Keys
------------------------------------------------------------

namespace RamlScaffold.Structure

/- Whether each field is named for its key, and keys ascend. -/
structure NamesFields
    (language : Language)
    (fields : Keyed Field) : Prop where
  ascending : fields.Ascending
  name_eq :
    ∀ entry ∈ fields, entry.2.name = language.fieldName entry.1

theorem namesFields_nil (language : Language) :
    NamesFields language [] :=
  ⟨Keyed.ascending_nil,
    fun _ hEntry => absurd hEntry List.not_mem_nil⟩

theorem namesFields_ofList
    {language : Language}
    {entries : List (String × Field)}
    (hEntries :
      ∀ entry ∈ entries,
        entry.2.name = language.fieldName entry.1) :
    NamesFields language (Keyed.ofList entries) :=
  ⟨Keyed.ascending_ofList entries,
    fun entry hEntry =>
      hEntries entry (Keyed.mem_of_mem_ofList hEntry)⟩

theorem NamesFields.insert
    {language : Language}
    {fields : Keyed Field}
    (hFields : NamesFields language fields)
    (parent : String) :
    NamesFields language
      (fields.insert parent (Field.ofParent language parent)) := by
  refine ⟨hFields.ascending.insert parent _, ?_⟩
  intro entry hEntry
  rcases Keyed.mem_of_mem_insert hEntry with rfl | hOld
  · rfl
  · exact hFields.name_eq entry hOld

/- The fields of a structure stay named, whatever its shape. -/
theorem namesFields_shape
    {language : Language}
    {struct : Structure}
    (hStruct : NamesFields language struct.fields)
    (classification : Classification) :
    NamesFields language
      (shape language struct classification).fields := by
  cases classification with
  | multipleInheritance parents =>
      rw [shape_multipleInheritance]
      apply namesFields_ofList
      rw [List.forall_mem_map]
      exact fun parent _ => rfl
  | singleInheritance parent => exact hStruct.insert parent
  | plainObject => exact hStruct
  | map value =>
      cases value with
      | none => exact hStruct
      | some element => exact namesFields_nil language
  | enumeration base =>
      cases base with
      | none => exact hStruct
      | some name => exact namesFields_nil language
  | _ => exact namesFields_nil language

theorem HasFieldsOf.namesFields
    {language : Language}
    {struct : Structure}
    {properties : List Property}
    (hStruct : struct.HasFieldsOf language properties) :
    NamesFields language struct.fields := by
  rw [hStruct.fields_eq]
  apply namesFields_ofList
  rw [List.forall_mem_map]
  exact fun property _ => rfl

end RamlScaffold.Structure

------------------------------------------------------------
-- Keys Of Members
------------------------------------------------------------

namespace RamlScaffold.Structure

theorem mem_keys_members_iff
    (struct : Structure)
    (embedded : Bool)
    (key : String) :
    key ∈ (struct.members embedded).keys ↔
      ∃ entry ∈ struct.fields,
        entry.2.isEmbedded = embedded ∧ entry.1 = key := by
  simp [Keyed.keys, members, and_assoc]

/- Fields of one kind are all members of that kind. -/
theorem mem_keys_members_of_all
    {struct : Structure}
    {kind : Bool}
    (hAll : ∀ entry ∈ struct.fields, entry.2.isEmbedded = kind)
    (embedded : Bool)
    (key : String) :
    key ∈ (struct.members embedded).keys ↔
      kind = embedded ∧ key ∈ struct.fields.keys := by
  rw [mem_keys_members_iff, Keyed.keys, List.mem_map]
  constructor
  · rintro ⟨entry, hEntry, rfl, rfl⟩
    exact ⟨(hAll entry hEntry).symm, entry, hEntry, rfl⟩
  · rintro ⟨rfl, entry, hEntry, rfl⟩
    exact ⟨entry, hEntry, hAll entry hEntry, rfl⟩

/- A parent is a member beside the kept fields. -/
theorem HasParent.mem_keys_members
    {language : Language}
    {struct : Structure}
    {properties : List Property}
    {parent : String}
    (hStruct : struct.HasParent language properties parent)
    (embedded : Bool)
    (key : String) :
    key ∈ (struct.members embedded).keys ↔
      (embedded = true ∧ key = parent) ∨
        (embedded = false ∧ key ≠ parent ∧
          key ∈ properties.map Property.name) := by
  have hKept :
      key ∈ (keptFields language properties parent).keys ↔
        key ≠ parent ∧ key ∈ properties.map Property.name :=
    mem_keys_keptFields parent key
  rw [mem_keys_members_iff, ← hKept]
  simp only [hStruct.perm.mem_iff, List.mem_cons]
  constructor
  · rintro ⟨entry, rfl | hEntry, hKind, rfl⟩
    · exact Or.inl ⟨hKind.symm, rfl⟩
    · have hOwn :=
        isEmbedded_of_mem_kept (List.mem_map_of_mem hEntry)
      exact
        Or.inr
          ⟨hKind.symm.trans hOwn, List.mem_map_of_mem hEntry⟩
  · rintro (⟨rfl, rfl⟩ | ⟨rfl, hKey⟩)
    · exact ⟨_, Or.inl rfl, rfl, rfl⟩
    · rcases List.mem_map.mp hKey with ⟨entry, hEntry, rfl⟩
      have hOwn :=
        isEmbedded_of_mem_kept (List.mem_map_of_mem hEntry)
      exact ⟨entry, Or.inr hEntry, hOwn, rfl⟩

/- The members of each kind have the keys of the declaration. -/
theorem mem_keys_members_shape
    {language : Language}
    {struct : Structure}
    {decl : TypeDecl}
    (hStruct : struct.HasFieldsOf language decl.properties)
    (embedded : Bool)
    (key : String) :
    key ∈
        ((shape language struct decl.classify).members
          embedded).keys ↔
      (embedded = true ∧ key ∈ decl.parentKeys) ∨
        (embedded = false ∧ key ∈ decl.ownKeys) := by
  rcases decl.classify.sort with hAlias | hPlain | hMany | hOne
  · rcases shape_of_isAlias language struct hAlias with
      ⟨typeName, -, hShape⟩
    have hKeys := decl.keys_of_isAlias hAlias
    rw [hShape, hKeys.1, hKeys.2]
    simp [members, Keyed.keys]
  · have hOwn := own_of_shape hStruct hPlain
    have hKeys := decl.keys_of_isPlain hPlain
    rw [mem_keys_members_of_all hOwn.1, hOwn.2.2, hKeys.1,
      hKeys.2, List.mem_map, eq_comm (a := false)]
    simp
  · have hParents := parents_of_shape language struct hMany
    have hClass := TypeDecl.parents_of_classify hMany
    rw [mem_keys_members_of_all hParents.1, hParents.2.2,
      ← TypeExpr.mem_parents]
    simp [TypeDecl.parentKeys, TypeDecl.ownKeys, hClass,
      Classification.isPlain, eq_comm]
  · have hClass := TypeDecl.parent_of_classify hOne
    have hKept :
        { struct with kind := .singleInheritance }.HasFieldsOf
          language decl.properties :=
      ⟨hStruct.fields_eq, hStruct.alias?_eq⟩
    rw [hClass]
    refine
      ((hasParent_withParent hKept _).mem_keys_members embedded
        key).trans ?_
    simp [TypeDecl.parentKeys, TypeDecl.ownKeys, hClass,
      and_comm]

end RamlScaffold.Structure

------------------------------------------------------------
-- Clashes
------------------------------------------------------------

namespace RamlScaffold.Structure

/- Named fields are members of one kind or the other. -/
theorem mem_keys_named_iff
    (struct : Structure)
    (language : Language)
    (key : String) :
    key ∈ (struct.named language).keys ↔
      (language = .rust ∧ key ∈ (struct.members true).keys) ∨
        key ∈ (struct.members false).keys := by
  cases language with
  | go => simp [named]
  | rust => simp [named, Keyed.keys]

/- No key is there twice among the named fields. -/
theorem nodup_keys_named
    {struct : Structure}
    (hFields : struct.fields.Ascending)
    (language : Language) :
    (struct.named language).keys.Nodup := by
  have hKeys : struct.fields.keys.Nodup :=
    hFields.imp Std.ne_of_lt
  cases language with
  | go => exact (ascending_members hFields false).imp Std.ne_of_lt
  | rust =>
      exact
        (struct.perm_members.map Prod.fst).nodup_iff.mpr hKeys

/- Named fields are fields. -/
theorem mem_fields_of_mem_named
    {struct : Structure}
    {language : Language}
    {entry : String × Field}
    (hEntry : entry ∈ struct.named language) :
    entry ∈ struct.fields := by
  cases language with
  | go => exact (List.mem_filter.mp hEntry).1
  | rust => exact struct.perm_members.mem_iff.mp hEntry

section

variable {language : Language} {struct : Structure}
variable {decl : TypeDecl}
variable (hStruct : struct.HasFieldsOf language decl.properties)
include hStruct

/- The keys of named fields are those of the declaration. -/
theorem mem_keys_named_shape (key : String) :
    key ∈
        ((shape language struct decl.classify).named
          language).keys ↔
      key ∈ decl.memberKeys language := by
  rw [mem_keys_named_iff, mem_keys_members_shape hStruct,
    mem_keys_members_shape hStruct]
  cases language with
  | go => simp [TypeDecl.memberKeys]
  | rust => simp [TypeDecl.memberKeys]

/- Named fields have the names that their keys make. -/
theorem names_named_shape :
    let fields :=
      (shape language struct decl.classify).named language
    fields.map (fun entry => entry.2.name) =
      fields.keys.map language.fieldName := by
  intro fields
  have hNames := namesFields_shape hStruct.namesFields decl.classify
  rw [Keyed.keys, List.map_map]
  refine List.map_congr_left ?_
  intro entry hEntry
  exact hNames.name_eq entry (mem_fields_of_mem_named hEntry)

/- Their names differ if no two of the keys share a member. -/
theorem nodup_names_shape_iff :
    (((shape language struct decl.classify).named language).map
        (fun entry => entry.2.name)).Nodup ↔
      ∀ first ∈ decl.memberKeys language,
        ∀ second ∈ decl.memberKeys language,
          language.SharesMember first second →
            first = second := by
  have hNames := namesFields_shape hStruct.namesFields decl.classify
  have hNodup := nodup_keys_named hNames.ascending language
  rw [names_named_shape hStruct,
    List.nodup_map_iff_inj_on hNodup]
  simp only [mem_keys_named_shape hStruct,
    Language.fieldName_eq_iff]

end

/-
  The fields that are written by name have different keys: the
  parents and properties of the declaration.  Their names are
  made of these keys, and differ if and only if no two of the
  keys share a member.
-/
theorem members_differ_iff
    (language : Language)
    (name : String)
    (decl : TypeDecl)
    (package : String) :
    let struct := ofDecl language name decl package
    let fields := struct.named language
    fields.keys.Nodup ∧
      (∀ key, key ∈ fields.keys ↔ key ∈ decl.memberKeys language) ∧
      fields.map (fun entry => entry.2.name) =
        fields.keys.map language.fieldName ∧
      ((fields.map (fun entry => entry.2.name)).Nodup ↔
        ∀ first ∈ decl.memberKeys language,
          ∀ second ∈ decl.memberKeys language,
            language.SharesMember first second →
              first = second) := by
  let plain :=
    ofProperties language (Naming.typeIdentifier name) package
      decl.properties
  have hStruct :
      { plain with
          description :=
            (decl.description.map Text.lines).getD []
          enumValues := decl.enumValues }.HasFieldsOf
        language decl.properties :=
    ⟨rfl, rfl⟩
  have hNames := namesFields_shape hStruct.namesFields decl.classify
  exact
    ⟨nodup_keys_named hNames.ascending language,
      mem_keys_named_shape hStruct, names_named_shape hStruct,
      nodup_names_shape_iff hStruct⟩

/- Two properties that differ in how their words are parted. -/
def accountsDecl : TypeDecl where
  typeExpr := .single "object"
  properties :=
    [⟨"user-id", some "string", true⟩,
      ⟨"userId", some "string", true⟩]

/- Two parents that differ in one capital. -/
def petDecl : TypeDecl where
  typeExpr := .multiple ["animal", "Animal"]

theorem accounts_clash :
    ((ofDecl .go "Accounts" accountsDecl "api").named .go).map
        (fun entry => (entry.1, entry.2.name)) =
      [("user-id", "UserId"), ("userId", "UserId")] ∧
    ((ofDecl .rust "Pet" petDecl "api").named .rust).map
        (fun entry => (entry.1, entry.2.name)) =
      [("Animal", "animal"), ("animal", "animal")] ∧
    ¬(((ofDecl .go "Accounts" accountsDecl "api").named .go).map
        (fun entry => entry.2.name)).Nodup ∧
    ¬(((ofDecl .rust "Pet" petDecl "api").named .rust).map
        (fun entry => entry.2.name)).Nodup := by
  decide +kernel

end RamlScaffold.Structure
