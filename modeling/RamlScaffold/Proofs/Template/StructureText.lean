import RamlScaffold.Generation.Generator
import RamlScaffold.Libraries
import RamlScaffold.Proofs.Keyed.Order
import RamlScaffold.Proofs.Template.Rendering

/-
  The lines of a structure as the built-in templates write it.

  The templates go over the fields twice, once for those that
  embed a parent and once for the others.  Together the two
  passes write every field once, each in the order of keys.

  Main declarations:
    * `Template.joinTexts_eq`
    * `Structure.members`, `Structure.perm_members`
    * `Structure.goLines`, `Structure.rustLines`
    * `Template.Builtin.render_goStructure`
    * `Template.Builtin.render_rustStructure`
    * `Structure.text_has_members`
-/

------------------------------------------------------------
-- Joined Values
------------------------------------------------------------

namespace RamlScaffold.Template

/- Once a text is there, every item gets a separator. -/
theorem foldl_joined
    (separator : String)
    (items : List String)
    {start : String}
    (hStart : start ≠ "") :
    items.foldl
        (fun joined item =>
          if joined = "" then item
          else joined ++ separator ++ item)
        start =
      separator.intercalate (start :: items) := by
  induction items generalizing start with
  | nil => simp
  | cons item items ih =>
      have hLonger : start ++ separator ++ item ≠ "" := by
        intro hEmpty
        simp only [String.append_eq_empty_iff] at hEmpty
        exact hStart hEmpty.1.1
      rw [List.foldl_cons, if_neg hStart, ih hLonger]
      cases items with
      | nil => simp
      | cons other items => simp [String.append_assoc]

/-
  Items are joined by a separator, but empty items at the
  start leave nothing that one could stand behind.
-/
theorem joinTexts_eq
    (separator : String)
    (items : List String) :
    joinTexts separator items =
      separator.intercalate
        (items.dropWhile (· == "")) := by
  induction items with
  | nil => rfl
  | cons item items ih =>
      by_cases hItem : item = ""
      · rw [hItem, List.dropWhile_cons_of_pos rfl, ← ih]
        rfl
      · have hKept :
            (item :: items).dropWhile (· == "") =
              item :: items := by
          simp [hItem]
        rw [hKept]
        exact foldl_joined separator items hItem

open Builtin in
/- The items of a name are printed with separators. -/
theorem renderPart_putJoined
    {scope : Scope}
    {name : String}
    {items : List String}
    (hItems : scope.value name = .texts items)
    (separator : String) :
    renderPart scope (putJoined name separator) =
      .ok (joinTexts separator items) := by
  simp [renderPart, putJoined, Expr.eval, Expr.evalList, hItems,
    bind, Except.bind, pure, Except.pure, applyFilter,
    textFilter?, joinedTexts, Value.texts, itemsOf, Except.map,
    Function.comp_def]

end RamlScaffold.Template

------------------------------------------------------------
-- Members
------------------------------------------------------------

namespace RamlScaffold

namespace Structure

/- The fields that embed a parent, or those that do not. -/
def members
    (struct : Structure)
    (embedded : Bool) : Keyed Field :=
  struct.fields.filter
    (fun entry => entry.2.isEmbedded == embedded)

/- Every field is one of the two kinds, and only once. -/
theorem perm_members (struct : Structure) :
    (struct.members true ++ struct.members false).Perm
      struct.fields := by
  have hOther :
      struct.members false =
        struct.fields.filter
          (fun entry => !(entry.2.isEmbedded == true)) := by
    unfold members
    congr 1
    funext entry
    cases entry.2.isEmbedded <;> rfl
  rw [hOther]
  exact List.filter_append_perm _ struct.fields

/- The fields of one kind are in the order of their keys. -/
theorem ascending_members
    {struct : Structure}
    (hFields : struct.fields.Ascending)
    (embedded : Bool) :
    (struct.members embedded).Ascending := by
  have hKeys :
      (struct.members embedded).keys.Sublist
        struct.fields.keys :=
    List.filter_sublist.map Prod.fst
  exact List.Pairwise.sublist hKeys hFields

end Structure

/- The lines of fields that pass a test, joined. -/
theorem join_flatMap_filter
    {α : Type}
    (items : List α)
    (test : α → Bool)
    (lines : α → List String) :
    String.join ((items.filter test).flatMap lines) =
      String.join
        (items.map
          (fun item =>
            if test item then String.join (lines item)
            else "")) := by
  induction items with
  | nil => rfl
  | cons item items ih =>
      by_cases hItem : test item = true
      · rw [List.filter_cons_of_pos hItem, List.flatMap_cons,
          String.join_append, ih, List.map_cons,
          String.join_cons, if_pos hItem]
      · rw [List.filter_cons_of_neg hItem, ih, List.map_cons,
          String.join_cons, if_neg hItem, String.empty_append]

end RamlScaffold

------------------------------------------------------------
-- Lines
------------------------------------------------------------

namespace RamlScaffold

namespace Field

/- The member that embeds a parent in Go. -/
def goEmbedding (field : Field) : List String :=
  ["\t" ++ field.typeName ++ "\n"]

/- The member of a Go structure for a field with a wire name. -/
def goMember (field : Field) : List String :=
  ["\t" ++ field.name ++ " " ++ field.typeName ++ " `json:\"" ++
    field.wireName ++
    (if field.required then "" else ",omitempty") ++ "\"`\n"]

/- The member that embeds a parent in Rust. -/
def rustEmbedding (field : Field) : List String :=
  [
    "    #[serde(flatten)]\n",
    "    pub " ++ field.name ++ ": " ++ field.typeName ++ ",\n"]

/- The member of a Rust structure for a field that has to be there. -/
def rustRequired (field : Field) : List String :=
  [
    "    #[serde(rename = \"" ++ field.wireName ++ "\")]\n",
    "    pub " ++ field.name ++ ": " ++ field.typeName ++ ",\n"]

/- The member of a Rust structure for a field that may be missing. -/
def rustOptional (field : Field) : List String :=
  [
    "    #[serde(rename = \"" ++ field.wireName ++
      "\", default, skip_serializing_if = " ++
      "\"Option::is_none\")]\n",
    "    pub " ++ field.name ++ ": Option<" ++ field.typeName ++
      ">,\n"]

/- The member of a Rust structure for a field with a wire name. -/
def rustMember (field : Field) : List String :=
  if field.required then field.rustRequired
  else field.rustOptional

end Field

namespace Structure

/-
  The comments of a structure: a line for each line of its
  description, and one for its values if it lists any.
-/
def commentLines
    (struct : Structure)
    (mark : String) : List String :=
  struct.description.map (fun line => mark ++ line ++ "\n") ++
  onlyIf (!struct.enumValues.isEmpty)
    [mark ++ "Allowed values: " ++
      ", ".intercalate
        (struct.enumValues.dropWhile (· == "")) ++
      "\n"]

/- The members that embed a parent, then the other ones. -/
def memberLines
    (struct : Structure)
    (embedding member : Field → List String) : List String :=
  (struct.members true).flatMap (embedding ·.2) ++
    (struct.members false).flatMap (member ·.2)

/- The lines of a structure in Go. -/
def goLines (struct : Structure) : List String :=
  [
    "// Code generated by ramlgen. DO NOT EDIT.\n",
    "\n",
    "package " ++ struct.package ++ "\n",
    "\n"] ++
  struct.commentLines "// " ++
  match struct.alias? with
  | some typeName =>
      ["type " ++ struct.name ++ " " ++ typeName ++ "\n"]
  | none =>
      ["type " ++ struct.name ++ " struct \x7b\n"] ++
        struct.memberLines Field.goEmbedding Field.goMember ++
        ["\x7d\n"]

/- The lines of a structure in Rust. -/
def rustLines (struct : Structure) : List String :=
  [
    "// Code generated by ramlgen. DO NOT EDIT.\n",
    "#![allow(unused_imports)]\n",
    "\n",
    "use super::*;\n",
    "use serde::\x7bDeserialize, Serialize\x7d;\n",
    "\n"] ++
  struct.commentLines "/// " ++
  match struct.alias? with
  | some typeName =>
      ["pub type " ++ struct.name ++ " = " ++ typeName ++ ";\n"]
  | none =>
      ["#[derive(Debug, Clone, Default, PartialEq, " ++
          "Serialize, Deserialize)]\n",
        "pub struct " ++ struct.name ++ " \x7b\n"] ++
        struct.memberLines Field.rustEmbedding Field.rustMember ++
        ["\x7d\n"]

/- The lines of a structure. -/
def textLines
    (struct : Structure)
    (language : Language) : List String :=
  match language with
  | .go => struct.goLines
  | .rust => struct.rustLines

end Structure

end RamlScaffold

------------------------------------------------------------
-- What Templates See
------------------------------------------------------------

namespace RamlScaffold.Template

variable (field : Field) (struct : Structure)

@[simp] theorem attributeOf_isComposition :
    attributeOf field.context "is_composition" =
      .ok (.bool field.isEmbedded) :=
  rfl

@[simp] theorem attributeOf_name :
    attributeOf field.context "name" = .ok (.text field.name) :=
  rfl

@[simp] theorem attributeOf_originalName :
    attributeOf field.context "original_name" =
      .ok (.text field.wireName) :=
  rfl

@[simp] theorem attributeOf_required :
    attributeOf field.context "required" =
      .ok (.bool field.required) :=
  rfl

@[simp] theorem attributeOf_typeName :
    attributeOf field.context "type_name" =
      .ok (.text field.typeName) :=
  rfl

@[simp] theorem structValue_name :
    (scopeOf struct.context).value "name" = .text struct.name :=
  rfl

@[simp] theorem structValue_package :
    (scopeOf struct.context).value "package" =
      .text struct.package :=
  rfl

@[simp] theorem structValue_oneLine :
    (scopeOf struct.context).value "one_line_def" =
      .text struct.oneLine :=
  rfl

open Builtin

/- The lines of a description are comments. -/
theorem renderPart_description (mark : String) :
    renderPart (scopeOf struct.context)
        (.each ["line"] (.ref "description")
          [.text mark, put "line", .text "\n"] []) =
      .ok
        (String.join
          (struct.description.map
            (fun line => mark ++ line ++ "\n"))) :=
  renderPart_eachText rfl "line" mark "\n"

/- The values are listed if there are any. -/
theorem renderPart_enumValues (mark : String) :
    renderPart (scopeOf struct.context)
        (.branch (.ref "enum_values")
          [.text mark, putJoined "enum_values" ", ", .text "\n"]
          []) =
      .ok
        (if !struct.enumValues.isEmpty then
          mark ++
            (", ".intercalate
              (struct.enumValues.dropWhile (· == "")) ++ "\n")
        else "") := by
  have hValue :
      Expr.eval (scopeOf struct.context) (.ref "enum_values") =
        .ok (.texts struct.enumValues) :=
    rfl
  have hJoined :
      renderPart (scopeOf struct.context)
          (putJoined "enum_values" ", ") =
        .ok (joinTexts ", " struct.enumValues) :=
    renderPart_putJoined rfl ", "
  refine renderPart_ifElse hValue ?_ ?_ rfl
  · simp [Value.texts, Value.isTrue]
  · simp [renderParts_cons_of_ok hJoined, joinTexts_eq]

/-
  A pass over the fields writes those of one kind.  The text
  of a field is given by its lines.
-/
theorem renderPart_members
    {condition : Expr}
    {member : List Part}
    {lines : Field → List String}
    (embedded : Bool)
    (hCondition :
      ∀ (field : Field) scope,
        scope.value "field" = field.context →
          condition.eval scope =
            .ok (.bool (field.isEmbedded == embedded)))
    (hMember :
      ∀ (field : Field) scope,
        scope.value "field" = field.context →
          renderParts scope member =
            .ok (String.join (lines field))) :
    renderPart (scopeOf struct.context)
        (.each ["key", "field"] (.filter (.ref "fields") "items" [])
          [.branch condition member []] []) =
      .ok
        (String.join
          ((struct.members embedded).flatMap (lines ·.2))) := by
  rw [Structure.members, join_flatMap_filter]
  refine renderPart_eachEntry Field.context
    (fun field =>
      if field.isEmbedded == embedded then
        String.join (lines field)
      else "")
    rfl ?_
  intro key field state
  have hField :
      Scope.value
          (("key", .text key) :: ("field", field.context) ::
            ("loop", state) :: scopeOf struct.context)
          "field" =
        field.context := by
    simp
  have hBranch :=
    renderPart_ifElse (hCondition field _ hField) rfl
      (hMember field _ hField) (renderParts_nil _)
  rw [renderParts_cons_of_ok hBranch, renderParts_nil, map_ok,
    String.append_empty]
  rfl

/- A structure ends in an alias or in its members. -/
theorem renderParts_isOneLine (yes no : List Part) :
    renderParts (scopeOf struct.context)
        [.branch (.ref "is_one_line_def") yes no] =
      if struct.isOneLine then
        renderParts (scopeOf struct.context) yes
      else renderParts (scopeOf struct.context) no := by
  have hValue :
      Expr.eval (scopeOf struct.context)
          (.ref "is_one_line_def") =
        .ok (.bool struct.isOneLine) :=
    rfl
  rw [renderParts_singleton, renderPart_branch hValue]
  rfl

end RamlScaffold.Template

------------------------------------------------------------
-- Rendered Structures
------------------------------------------------------------

namespace RamlScaffold.Template.Builtin

variable (struct : Structure)

/- The first pass writes the fields that embed a parent. -/
theorem renderPart_embedded
    {member : List Part}
    {lines : Field → List String}
    (hMember :
      ∀ (field : Field) scope,
        scope.value "field" = field.context →
          renderParts scope member =
            .ok (String.join (lines field))) :
    renderPart (scopeOf struct.context)
        (.each ["key", "field"] (.filter (.ref "fields") "items" [])
          [.branch (of "field" "is_composition") member []] []) =
      .ok
        (String.join
          ((struct.members true).flatMap (lines ·.2))) := by
  refine renderPart_members struct true ?_ hMember
  intro field scope hField
  simp [of, Expr.eval, bind, Except.bind, hField]

/- The second pass writes the other fields. -/
theorem renderPart_own
    {member : List Part}
    {lines : Field → List String}
    (hMember :
      ∀ (field : Field) scope,
        scope.value "field" = field.context →
          renderParts scope member =
            .ok (String.join (lines field))) :
    renderPart (scopeOf struct.context)
        (.each ["key", "field"] (.filter (.ref "fields") "items" [])
          [.branch (.negation (of "field" "is_composition"))
            member []] []) =
      .ok
        (String.join
          ((struct.members false).flatMap (lines ·.2))) := by
  refine renderPart_members struct false ?_ hMember
  intro field scope hField
  simp [of, Expr.eval, bind, Except.bind, hField, pure,
    Except.pure, Value.isTrue]

/- Parents are embedded by their types in Go. -/
theorem renderPart_goEmbeddings :
    renderPart (scopeOf struct.context)
        (.each ["key", "field"] (.filter (.ref "fields") "items" [])
          [
            .branch (of "field" "is_composition")
              [.text "\t", putOf "field" "type_name", .text "\n"]
              []]
          []) =
      .ok
        (String.join
          ((struct.members true).flatMap
            (Field.goEmbedding ·.2))) := by
  apply renderPart_embedded
  intro field scope hField
  simp [hField, Field.goEmbedding, String.append_assoc]

/- The other fields have a name, a type and a tag in Go. -/
theorem renderPart_goMembers :
    renderPart (scopeOf struct.context)
        (.each ["key", "field"] (.filter (.ref "fields") "items" [])
          [
            .branch (.negation (of "field" "is_composition"))
              [
                .text "\t",
                putOf "field" "name",
                .text " ",
                putOf "field" "type_name",
                .text " `json:\"",
                putOf "field" "original_name",
                .branch (.negation (of "field" "required"))
                  [.text ",omitempty"]
                  [],
                .text "\"`\n"]
              []]
          []) =
      .ok
        (String.join
          ((struct.members false).flatMap
            (Field.goMember ·.2))) := by
  apply renderPart_own
  intro field scope hField
  have hValue :
      Expr.eval scope (.negation (of "field" "required")) =
        .ok (.bool !field.required) := by
    simp [of, Expr.eval, bind, Except.bind, hField, pure,
      Except.pure, Value.isTrue]
  have hTag :
      renderPart scope
          (.branch (.negation (of "field" "required"))
            [.text ",omitempty"] []) =
        .ok (if !field.required then ",omitempty" else "") :=
    renderPart_ifElse hValue rfl rfl rfl
  cases hRequired : field.required with
  | true =>
      simp [hField, renderParts_cons_of_ok hTag, hRequired,
        Field.goMember, String.append_assoc]
  | false =>
      simp [hField, renderParts_cons_of_ok hTag, hRequired,
        Field.goMember, String.append_assoc]

/- Parents are embedded by name and flattened in Rust. -/
theorem renderPart_rustEmbeddings :
    renderPart (scopeOf struct.context)
        (.each ["key", "field"] (.filter (.ref "fields") "items" [])
          [
            .branch (of "field" "is_composition")
              [
                .text "    #[serde(flatten)]\n",
                .text "    pub ",
                putOf "field" "name",
                .text ": ",
                putOf "field" "type_name",
                .text ",\n"]
              []]
          []) =
      .ok
        (String.join
          ((struct.members true).flatMap
            (Field.rustEmbedding ·.2))) := by
  apply renderPart_embedded
  intro field scope hField
  simp [hField, Field.rustEmbedding, String.append_assoc]

/- The other fields are renamed, and optional or not, in Rust. -/
theorem renderPart_rustMembers :
    renderPart (scopeOf struct.context)
        (.each ["key", "field"] (.filter (.ref "fields") "items" [])
          [
            .branch (.negation (of "field" "is_composition"))
              [
                .branch (of "field" "required")
                  [
                    .text "    #[serde(rename = \"",
                    putOf "field" "original_name",
                    .text "\")]\n",
                    .text "    pub ",
                    putOf "field" "name",
                    .text ": ",
                    putOf "field" "type_name",
                    .text ",\n"]
                  [
                    .text "    #[serde(rename = \"",
                    putOf "field" "original_name",
                    .text "\", default, skip_serializing_if = ",
                    .text "\"Option::is_none\")]\n",
                    .text "    pub ",
                    putOf "field" "name",
                    .text ": Option<",
                    putOf "field" "type_name",
                    .text ">,\n"]]
              []]
          []) =
      .ok
        (String.join
          ((struct.members false).flatMap
            (Field.rustMember ·.2))) := by
  apply renderPart_own
  intro field scope hField
  have hValue :
      Expr.eval scope (of "field" "required") =
        .ok (.bool field.required) := by
    simp [of, Expr.eval, bind, Except.bind, hField]
  rw [renderParts_singleton, renderPart_branch hValue]
  cases hRequired : field.required with
  | true =>
      simp [hField, hRequired, Value.isTrue, Field.rustMember,
        Field.rustRequired, String.append_assoc]
  | false =>
      simp [hField, hRequired, Value.isTrue, Field.rustMember,
        Field.rustOptional, String.append_assoc,
        -String.reduceAppend]

/- The structure in Go, line by line. -/
theorem render_goStructure :
    render goStructure struct.context =
      .ok (String.join struct.goLines) := by
  have hDescription := renderPart_description struct "// "
  have hValues :=
    renderPart_enumValues struct "// Allowed values: "
  have hEmbeddings := renderPart_goEmbeddings struct
  have hMembers := renderPart_goMembers struct
  unfold render goStructure
  simp only [renderParts_text, renderParts_put,
    structValue_name, structValue_package, structValue_oneLine,
    render_text, renderParts_nil,
    renderParts_cons_of_ok hDescription,
    renderParts_cons_of_ok hValues, renderParts_isOneLine,
    renderParts_cons_of_ok hEmbeddings,
    renderParts_cons_of_ok hMembers, map_ok]
  cases hAlias : struct.alias? with
  | none =>
      simp [Structure.isOneLine, Structure.goLines,
        Structure.commentLines, Structure.memberLines, hAlias,
        join_onlyIf, String.append_assoc]
  | some typeName =>
      simp [Structure.isOneLine, Structure.oneLine,
        Structure.goLines, Structure.commentLines, hAlias,
        join_onlyIf, String.append_assoc]

/- The structure in Rust, line by line. -/
theorem render_rustStructure :
    render rustStructure struct.context =
      .ok (String.join struct.rustLines) := by
  have hDescription := renderPart_description struct "/// "
  have hValues :=
    renderPart_enumValues struct "/// Allowed values: "
  have hEmbeddings := renderPart_rustEmbeddings struct
  have hMembers := renderPart_rustMembers struct
  have hMark : "/// " ++ "Allowed values: " = "/// Allowed values: " :=
    rfl
  unfold render rustStructure
  simp only [renderParts_text, renderParts_put,
    structValue_name, structValue_oneLine, render_text,
    renderParts_nil, renderParts_cons_of_ok hDescription,
    renderParts_cons_of_ok hValues, renderParts_isOneLine,
    renderParts_cons_of_ok hEmbeddings,
    renderParts_cons_of_ok hMembers, map_ok]
  cases hAlias : struct.alias? with
  | none =>
      simp [Structure.isOneLine, Structure.rustLines,
        Structure.commentLines, Structure.memberLines, hAlias,
        hMark, join_onlyIf, String.append_assoc,
        -String.reduceAppend]
  | some typeName =>
      simp [Structure.isOneLine, Structure.oneLine,
        Structure.rustLines, Structure.commentLines, hAlias,
        join_onlyIf, String.append_assoc]

end RamlScaffold.Template.Builtin

------------------------------------------------------------
-- Texts Of Structures
------------------------------------------------------------

namespace RamlScaffold

namespace Structure

/- The built-in template writes the lines of a structure. -/
theorem renderText_builtin
    [TemplateLanguage]
    (struct : Structure)
    (language : Language) :
    ∃ templates,
      (TemplateSet.builtin language).compile = .ok templates ∧
        templates.renderText Artefact.struct.templateName
            struct.context =
          .ok (String.join (struct.textLines language)) := by
  cases language with
  | go =>
      have hText := Template.Builtin.render_goStructure struct
      exact ⟨_, rfl, Templates.renderText_of_ok rfl hText⟩
  | rust =>
      have hText := Template.Builtin.render_rustStructure struct
      exact ⟨_, rfl, Templates.renderText_of_ok rfl hText⟩

/-
  The built-in template writes exactly the lines of a
  structure.  Its members are those that embed a parent and
  then the others, both in the order of their keys, and every
  field is among them once.
-/
theorem text_has_members
    [TemplateLanguage]
    {struct : Structure}
    (hFields : struct.fields.Ascending)
    (language : Language) :
    (∃ templates,
      (TemplateSet.builtin language).compile = .ok templates ∧
        templates.renderText Artefact.struct.templateName
            struct.context =
          .ok (String.join (struct.textLines language))) ∧
      (∀ embedded,
        (struct.members embedded).Ascending ∧
          ∀ entry ∈ struct.members embedded,
            entry.2.isEmbedded = embedded) ∧
      (struct.members true ++ struct.members false).Perm
        struct.fields := by
  refine
    ⟨struct.renderText_builtin language, ?_,
      struct.perm_members⟩
  intro embedded
  refine ⟨ascending_members hFields embedded, ?_⟩
  intro entry hEntry
  exact beq_iff_eq.mp (List.mem_filter.mp hEntry).2

/- A cat has a parent whose key comes last. -/
def cat : Structure where
  name := "Cat"
  package := "pets"
  fields :=
    [("age", Field.ofProperty .go ⟨"age", some "integer", false⟩),
      ("name", Field.ofProperty .go ⟨"name", none, true⟩),
      ("pet", Field.ofParent .go "pet")]
  description := ["A cat."]
  enumValues := ["", "tom", "felix"]

theorem cat_text :
    cat.fields.Ascending ∧
      ∃ templates,
        (TemplateSet.builtin .go).compile = .ok templates ∧
          templates.renderText Artefact.struct.templateName
              cat.context =
            .ok
              ("// Code generated by ramlgen. DO NOT EDIT.\n" ++
                "\npackage pets\n\n// A cat.\n" ++
                "// Allowed values: tom, felix\n" ++
                "type Cat struct \x7b\n\tPet\n" ++
                "\tAge int `json:\"age,omitempty\"`\n" ++
                "\tName interface\x7b\x7d `json:\"name\"`\n" ++
                "\x7d\n") := by
  have hFields : cat.fields.Ascending := by decide
  refine ⟨hFields, ?_⟩
  rcases (text_has_members hFields .go).1 with
    ⟨templates, hTemplates, hText⟩
  refine
    ⟨templates, hTemplates, hText.trans (congrArg Except.ok ?_)⟩
  decide +kernel

end Structure

end RamlScaffold
