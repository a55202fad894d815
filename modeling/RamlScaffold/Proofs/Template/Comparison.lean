import RamlScaffold.Proofs.Template.Rendering

/-
  When two templates are the same but for where their texts
  are cut.

  Texts side by side render like one text.  So templates are
  compared with their texts joined, by a comparison that can be
  run.

  Main declarations:
    * `Template.joined`, `Template.renderParts_joined`
    * `Template.sameParts`, `Template.eq_of_sameParts`
    * `Template.render_eq_of_sameParts`
-/

------------------------------------------------------------
-- Joined Texts
------------------------------------------------------------

namespace RamlScaffold.Template

/- A part in front of others; texts are joined. -/
def consPart : Part → List Part → List Part
  | .text content, .text next :: parts =>
      .text (content ++ next) :: parts
  | part, parts => part :: parts

mutual

/- A part with the texts in it joined. -/
def Part.joined : Part → Part
  | .text content => .text content
  | .emit expr => .emit expr
  | .branch condition yes no =>
      .branch condition (joined yes) (joined no)
  | .each targets source body otherwise =>
      .each targets source (joined body) (joined otherwise)

/- Parts with texts side by side joined. -/
def joined : List Part → List Part
  | [] => []
  | part :: parts => consPart part.joined (joined parts)

end

theorem renderParts_consPart
    (scope : Scope)
    (part : Part)
    (parts : List Part) :
    renderParts scope (consPart part parts) =
      renderParts scope (part :: parts) := by
  cases part with
  | text content =>
      cases parts with
      | nil => rfl
      | cons next parts =>
          cases next with
          | text other =>
              simp only [consPart, renderParts_text]
              cases renderParts scope parts with
              | error fault => rfl
              | ok rest =>
                  exact congrArg Except.ok String.append_assoc
          | emit expr => rfl
          | branch condition yes no => rfl
          | each targets source body otherwise => rfl
  | emit expr => rfl
  | branch condition yes no => rfl
  | each targets source body otherwise => rfl

mutual

/- Texts side by side are rendered as they are joined. -/
theorem renderPart_joined :
    ∀ (part : Part) (scope : Scope),
      renderPart scope part.joined = renderPart scope part
  | .text content, scope => rfl
  | .emit expr, scope => rfl
  | .branch condition yes no, scope => by
      have hYes := renderParts_joined yes scope
      have hNo := renderParts_joined no scope
      rw [Part.joined, renderPart, renderPart, hYes, hNo]
  | .each targets source body otherwise, scope => by
      have hBody := renderParts_joined body
      have hOtherwise := renderParts_joined otherwise scope
      rw [Part.joined, renderPart, renderPart, hOtherwise]
      simp only [hBody]

theorem renderParts_joined :
    ∀ (parts : List Part) (scope : Scope),
      renderParts scope (joined parts) = renderParts scope parts
  | [], scope => rfl
  | part :: parts, scope => by
      have hPart := renderPart_joined part scope
      have hRest := renderParts_joined parts scope
      rw [joined, renderParts_consPart, renderParts, renderParts,
        hPart, hRest]

end

end RamlScaffold.Template

------------------------------------------------------------
-- Comparison
------------------------------------------------------------

namespace RamlScaffold.Template

mutual

/-
  Whether expressions are found to be the same.  Those that no
  built-in template has are not looked into.
-/
def sameExpr : Expr → Expr → Bool
  | .constant (.text content), .constant (.text other) =>
      content == other
  | .ref target, .ref other => target == other
  | .attribute base name, .attribute other key =>
      sameExpr base other && name == key
  | .filter base name args, .filter other key values =>
      sameExpr base other && name == key && sameExprs args values
  | .negation operand, .negation other => sameExpr operand other
  | .either left right, .either first second =>
      sameExpr left first && sameExpr right second
  | _, _ => false

def sameExprs : List Expr → List Expr → Bool
  | [], [] => true
  | expr :: exprs, other :: others =>
      sameExpr expr other && sameExprs exprs others
  | _, _ => false

end

mutual

/- What is found to be the same is the same. -/
theorem eq_of_sameExpr :
    ∀ expr other : Expr,
      sameExpr expr other = true → expr = other
  | .constant (.text content), other, hSame => by
      cases other with
      | constant value => cases value <;> simp_all [sameExpr]
      | _ => simp [sameExpr] at hSame
  | .ref target, other, hSame => by
      cases other <;> simp [sameExpr] at hSame
      rw [hSame]
  | .attribute base name, other, hSame => by
      have hBase := eq_of_sameExpr base
      cases other <;> simp [sameExpr] at hSame
      rw [hBase _ hSame.1, hSame.2]
  | .filter base name args, other, hSame => by
      have hBase := eq_of_sameExpr base
      have hArgs := eq_of_sameExprs args
      cases other <;> simp [sameExpr] at hSame
      rw [hBase _ hSame.1.1, hSame.1.2, hArgs _ hSame.2]
  | .negation operand, other, hSame => by
      have hOperand := eq_of_sameExpr operand
      cases other <;> simp [sameExpr] at hSame
      rw [hOperand _ hSame]
  | .either left right, other, hSame => by
      have hLeft := eq_of_sameExpr left
      have hRight := eq_of_sameExpr right
      cases other <;> simp [sameExpr] at hSame
      rw [hLeft _ hSame.1, hRight _ hSame.2]
  | .constant .undefined, _, hSame
  | .constant .none, _, hSame
  | .constant (.bool _), _, hSame
  | .constant (.integer _), _, hSame
  | .constant (.list _), _, hSame
  | .constant (.record _), _, hSame
  | .list _, _, hSame
  | .item _ _, _, hSame
  | .test _ _, _, hSame
  | .both _ _, _, hSame
  | .compare _ _ _, _, hSame
  | .concat _ _, _, hSame
  | .choice _ _ _, _, hSame => by
      simp [sameExpr] at hSame

theorem eq_of_sameExprs :
    ∀ exprs others : List Expr,
      sameExprs exprs others = true → exprs = others
  | [], others, hSame => by
      cases others with
      | nil => rfl
      | cons other others => simp [sameExprs] at hSame
  | expr :: exprs, others, hSame => by
      have hExpr := eq_of_sameExpr expr
      have hExprs := eq_of_sameExprs exprs
      cases others <;> simp [sameExprs] at hSame
      rw [hExpr _ hSame.1, hExprs _ hSame.2]

end

mutual

/- Whether parts are found to be the same. -/
def samePart : Part → Part → Bool
  | .text content, .text other => content == other
  | .emit expr, .emit other => sameExpr expr other
  | .branch condition yes no, .branch other first second =>
      sameExpr condition other && sameParts yes first &&
        sameParts no second
  | .each targets source body otherwise,
      .each names other first second =>
      targets == names && sameExpr source other &&
        sameParts body first && sameParts otherwise second
  | _, _ => false

def sameParts : List Part → List Part → Bool
  | [], [] => true
  | part :: parts, other :: others =>
      samePart part other && sameParts parts others
  | _, _ => false

end

mutual

theorem eq_of_samePart :
    ∀ part other : Part,
      samePart part other = true → part = other
  | .text content, other, hSame => by
      cases other <;> simp [samePart] at hSame
      rw [hSame]
  | .emit expr, other, hSame => by
      cases other <;> simp [samePart] at hSame
      rw [eq_of_sameExpr _ _ hSame]
  | .branch condition yes no, other, hSame => by
      have hYes := eq_of_sameParts yes
      have hNo := eq_of_sameParts no
      cases other <;> simp [samePart] at hSame
      rw [eq_of_sameExpr _ _ hSame.1.1, hYes _ hSame.1.2,
        hNo _ hSame.2]
  | .each targets source body otherwise, other, hSame => by
      have hBody := eq_of_sameParts body
      have hOtherwise := eq_of_sameParts otherwise
      cases other <;> simp [samePart] at hSame
      rw [hSame.1.1.1, eq_of_sameExpr _ _ hSame.1.1.2,
        hBody _ hSame.1.2, hOtherwise _ hSame.2]

theorem eq_of_sameParts :
    ∀ parts others : List Part,
      sameParts parts others = true → parts = others
  | [], others, hSame => by
      cases others with
      | nil => rfl
      | cons other others => simp [sameParts] at hSame
  | part :: parts, others, hSame => by
      have hPart := eq_of_samePart part
      have hParts := eq_of_sameParts parts
      cases others <;> simp [sameParts] at hSame
      rw [hPart _ hSame.1, hParts _ hSame.2]

end

/- Templates that are the same with texts joined. -/
theorem render_eq_of_sameParts
    {template other : Template}
    (hSame : sameParts (joined template) (joined other) = true)
    (context : Value) :
    render template context = render other context := by
  have hJoined := eq_of_sameParts _ _ hSame
  have hTemplate := renderParts_joined template (scopeOf context)
  have hOther := renderParts_joined other (scopeOf context)
  rw [render, render, ← hTemplate, ← hOther, hJoined]

end RamlScaffold.Template
