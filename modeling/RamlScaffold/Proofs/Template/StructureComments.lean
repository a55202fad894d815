import RamlScaffold.Proofs.Schema.Shape
import RamlScaffold.Proofs.Template.StructureText
import RamlScaffold.Proofs.Text.Comments

/-
  The comments of a structure in its generated file.

  A description is taken apart into lines, and each of them
  gets a mark of its own.  The values of an enumeration share
  one mark, so a line break in a value ends the comment.

  Main declarations:
    * `Language.commentMark`
    * `Structure.headerLines`, `Structure.definitionLines`
    * `Structure.textLines_eq`
    * `Structure.fileLines_comments`
    * `Structure.comments_hold_iff`
-/

------------------------------------------------------------
-- Parts Of A File
------------------------------------------------------------

namespace RamlScaffold

/- The mark of the comments of a structure. -/
def Language.commentMark : Language → String
  | .go => "// "
  | .rust => "/// "

namespace Structure

/- The lines in front of the comments of a structure. -/
def headerLines
    (struct : Structure)
    (language : Language) : List String :=
  match language with
  | .go =>
      [
        "// Code generated by ramlgen. DO NOT EDIT.\n",
        "\n",
        "package " ++ struct.package ++ "\n",
        "\n"]
  | .rust =>
      [
        "// Code generated by ramlgen. DO NOT EDIT.\n",
        "#![allow(unused_imports)]\n",
        "\n",
        "use super::*;\n",
        "use serde::\x7bDeserialize, Serialize\x7d;\n",
        "\n"]

/- The lines that define the type of a structure. -/
def definitionLines
    (struct : Structure)
    (language : Language) : List String :=
  match language, struct.alias? with
  | .go, some typeName =>
      ["type " ++ struct.name ++ " " ++ typeName ++ "\n"]
  | .go, none =>
      ["type " ++ struct.name ++ " struct \x7b\n"] ++
        struct.memberLines Field.goEmbedding Field.goMember ++
        ["\x7d\n"]
  | .rust, some typeName =>
      ["pub type " ++ struct.name ++ " = " ++ typeName ++ ";\n"]
  | .rust, none =>
      ["#[derive(Debug, Clone, Default, PartialEq, " ++
          "Serialize, Deserialize)]\n",
        "pub struct " ++ struct.name ++ " \x7b\n"] ++
        struct.memberLines Field.rustEmbedding Field.rustMember ++
        ["\x7d\n"]

/- A file has a header, the comments and the definition. -/
theorem textLines_eq
    (struct : Structure)
    (language : Language) :
    struct.textLines language =
      struct.headerLines language ++
        struct.commentLines language.commentMark ++
        struct.definitionLines language := by
  cases language with
  | go =>
      unfold textLines goLines definitionLines
      cases struct.alias? <;> rfl
  | rust =>
      unfold textLines rustLines definitionLines
      cases struct.alias? <;> rfl

theorem endsLine_header
    (struct : Structure)
    (language : Language) :
    Text.EndsLine (String.join (struct.headerLines language)) := by
  apply Text.endsLine_join
  unfold headerLines
  cases language with
  | go =>
      simp only [List.forall_mem_cons]
      refine ⟨by decide, by decide, ?_, by decide, by simp⟩
      exact Text.endsLine_append_break _
  | rust =>
      dsimp only
      decide

end Structure

end RamlScaffold

------------------------------------------------------------
-- Comments
------------------------------------------------------------

namespace RamlScaffold.Structure

open RamlScaffold.Text

/- The mark of a language starts a comment on its line. -/
theorem oneLine_commentMark (language : Language) :
    OneLine language.commentMark := by
  cases language <;> decide

theorem isComment_commentMark (language : Language) :
    IsComment language.commentMark := by
  cases language <;> decide

/- The values of a structure, without blank ones in front. -/
def valueText (struct : Structure) : String :=
  "Allowed values: " ++
    ", ".intercalate (struct.enumValues.dropWhile (· == ""))

/- The comment on the values of a structure, if it has any. -/
def valueLines
    (struct : Structure)
    (mark : String) : List String :=
  onlyIf (!struct.enumValues.isEmpty)
    [mark ++ struct.valueText ++ "\n"]

theorem commentLines_eq
    (struct : Structure)
    (mark : String) :
    struct.commentLines mark =
      struct.description.map (fun line => mark ++ line ++ "\n") ++
        struct.valueLines mark := by
  unfold commentLines valueLines valueText
  simp [String.append_assoc]

theorem endsLine_valueLines
    (struct : Structure)
    (mark : String) :
    EndsLine (String.join (struct.valueLines mark)) := by
  apply endsLine_join
  intro line hLine
  rw [valueLines, mem_onlyIf, List.mem_singleton] at hLine
  rw [hLine.2]
  exact endsLine_append_break _

/- What holds of a blank text holds of those dropped. -/
theorem forall_mem_dropWhile_blank
    {P : String → Prop}
    (hBlank : P "")
    (texts : List String) :
    (∀ text ∈ texts.dropWhile (· == ""), P text) ↔
      ∀ text ∈ texts, P text := by
  induction texts with
  | nil => rfl
  | cons text texts ih =>
      by_cases hText : text = ""
      · rw [List.dropWhile_cons_of_pos (by simp [hText]), ih,
          List.forall_mem_cons, hText]
        exact (and_iff_right hBlank).symm
      · rw [List.dropWhile_cons_of_neg (by simp [hText])]

/- Only the breaks in values are breaks in what lists them. -/
theorem breaksIntoComments_valueText (struct : Structure) :
    BreaksIntoComments struct.valueText.toList ↔
      ∀ value ∈ struct.enumValues,
        BreaksIntoComments value.toList := by
  have hBlank : BreaksIntoComments "".toList :=
    breaksIntoComments_of_not_mem (by decide)
  unfold valueText
  rw [String.toList_append,
    breaksIntoComments_append_right (by decide),
    String.toList_intercalate]
  refine (breaksIntoComments_intercalate _).trans ?_
  rw [List.forall_mem_map]
  exact
    forall_mem_dropWhile_blank
      (P := fun value => BreaksIntoComments value.toList) hBlank
      struct.enumValues

/- The comment on the values is one if their breaks allow it. -/
theorem forall_isComment_valueLines_iff
    (struct : Structure)
    (language : Language) :
    (∀ line ∈
        fileLines
          (String.join
            (struct.valueLines language.commentMark)),
        IsComment line) ↔
      ∀ value ∈ struct.enumValues,
        BreaksIntoComments value.toList := by
  have hMark := oneLine_commentMark language
  have hComment := isComment_commentMark language
  by_cases hValues : struct.enumValues = []
  · have hNone : struct.valueLines language.commentMark = [] := by
      simp [valueLines, hValues, onlyIf]
    rw [hNone, hValues]
    exact iff_of_true (by decide) (by simp)
  · have hOne :
        struct.valueLines language.commentMark =
          [language.commentMark ++ struct.valueText ++ "\n"] := by
      simp [valueLines, hValues, onlyIf]
    rw [hOne, String.join_cons, String.join_nil,
      String.append_empty, forall_isComment_iff hMark hComment,
      breaksIntoComments_valueText]

theorem endsLine_commentLines
    (struct : Structure)
    (mark : String) :
    EndsLine (String.join (struct.commentLines mark)) := by
  have hValues := endsLine_valueLines struct mark
  rw [commentLines_eq, String.join_append]
  refine endsLine_append (endsLine_join ?_) hValues
  rw [List.forall_mem_map]
  exact fun line _ => endsLine_append_break _

/- The lines of the comments, as they stand in the file. -/
theorem fileLines_comments
    {struct : Structure}
    (language : Language)
    (hDescription : ∀ line ∈ struct.description, OneLine line) :
    fileLines
        (String.join
          (struct.commentLines language.commentMark)) =
      struct.description.map
          (fun line => language.commentMark ++ line ++ "\n") ++
        fileLines
          (String.join
            (struct.valueLines language.commentMark)) := by
  have hLines :
      AllLines
        (struct.description.map
          (fun line => language.commentMark ++ line ++ "\n")) :=
    allLines_around language.commentMark
      (oneLine_commentMark language) (by decide) hDescription
  have hEnds :
      EndsLine
        (String.join
          (struct.description.map
            (fun line =>
              language.commentMark ++ line ++ "\n"))) := by
    apply endsLine_join
    rw [List.forall_mem_map]
    exact fun line _ => endsLine_append_break _
  rw [commentLines_eq, String.join_append,
    fileLines_append hEnds, fileLines_join hLines]

end RamlScaffold.Structure

------------------------------------------------------------
-- Files
------------------------------------------------------------

namespace RamlScaffold.Structure

open RamlScaffold.Text

/-
  The file of a declared type has its comments between a fixed
  header and the definition.  Each line of the description is
  a comment line.  All lines of the comments are comments if
  and only if every line break in a value of the type is
  followed by two slashes.
-/
theorem comments_hold_iff
    [TemplateLanguage]
    (language : Language)
    (name : String)
    (decl : TypeDecl)
    (package : String) :
    let struct := ofDecl language name decl package
    let mark := language.commentMark
    let header := String.join (struct.headerLines language)
    let comments := String.join (struct.commentLines mark)
    let definition :=
      String.join (struct.definitionLines language)
    (∃ templates,
      (TemplateSet.builtin language).compile = .ok templates ∧
        templates.renderText Artefact.struct.templateName
            struct.context =
          .ok (header ++ comments ++ definition)) ∧
    fileLines (header ++ comments ++ definition) =
      fileLines header ++ fileLines comments ++
        fileLines definition ∧
    fileLines comments =
      ((decl.description.map Text.lines).getD []).map
          (fun line => mark ++ line ++ "\n") ++
        fileLines (String.join (struct.valueLines mark)) ∧
    ((∀ line ∈ fileLines comments, IsComment line) ↔
      ∀ value ∈ decl.enumValues,
        BreaksIntoComments value.toList) := by
  intro struct mark header comments definition
  have hName :
      struct.description =
        (decl.description.map Text.lines).getD [] :=
    ofDecl_description language name decl package
  have hValues : struct.enumValues = decl.enumValues :=
    ofDecl_enumValues language name decl package
  have hDescription :
      ∀ line ∈ struct.description, OneLine line := by
    rw [hName]
    exact fun line hLine => oneLine_of_mem_getD hLine
  have hHeader := endsLine_header struct language
  have hComments := endsLine_commentLines struct mark
  have hLines := fileLines_comments language hDescription
  refine ⟨?_, ?_, ?_, ?_⟩
  · rcases struct.renderText_builtin language with
      ⟨templates, hTemplates, hText⟩
    rw [textLines_eq, String.join_append, String.join_append]
      at hText
    exact ⟨templates, hTemplates, hText⟩
  · rw [fileLines_append (endsLine_append hHeader hComments),
      fileLines_append hHeader]
  · rw [← hName]
    exact hLines
  · have hMarked :
        ∀ line ∈
            struct.description.map
              (fun line => mark ++ line ++ "\n"),
          IsComment line := by
      rw [List.forall_mem_map]
      intro line hLine
      unfold IsComment
      rw [String.append_assoc, String.toList_append]
      exact
        (isComment_commentMark language).trans
          (List.prefix_append _ _)
    rw [hLines, List.forall_mem_append, ← hValues,
      forall_isComment_valueLines_iff]
    exact and_iff_right hMarked

/- A color with a line break in one of its values. -/
def brokenColor : TypeDecl where
  typeExpr := .single "string"
  enumValues := ["red", "blue\ntype Injected int"]

theorem brokenColor_declares_type :
    (∃ templates,
      (TemplateSet.builtin .go).compile = .ok templates ∧
        templates.renderText Artefact.struct.templateName
            (ofDecl .go "Color" brokenColor "api").context =
          .ok
            ("// Code generated by ramlgen. DO NOT EDIT.\n" ++
              "\npackage api\n\n" ++
              "// Allowed values: red, blue\n" ++
              "type Injected int\n" ++
              "type Color string\n")) ∧
    ¬∀ line ∈
        fileLines
          (String.join
            ((ofDecl .go "Color" brokenColor "api").commentLines
              Language.go.commentMark)),
      IsComment line := by
  constructor
  · rcases (ofDecl .go "Color" brokenColor
        "api").renderText_builtin .go with
      ⟨templates, hTemplates, hText⟩
    refine
      ⟨templates, hTemplates, hText.trans (congrArg Except.ok ?_)⟩
    decide +kernel
  · decide +kernel

end RamlScaffold.Structure
