import RamlScaffold.Generation.Generator
import RamlScaffold.Template.Builtin.Phrase

/-
  How templates are rendered part by part.

  The texts and values of a row of parts are put together by
  simplification; a condition or a loop in the row is looked
  at on its own, and then stands for its text.

  Main declarations:
    * `Template.renderParts_text`, `Template.renderParts_put`
    * `Template.renderParts_cons_of_ok`
    * `Template.renderParts_append_of_ok`
    * `Template.renderPart_branch`, `Template.renderPart_ifElse`
    * `Template.isTrue_optional`
    * `Template.renderPart_eachOf`, `Template.renderPart_each`
    * `Template.renderPart_eachEntry`, `Template.renderPart_eachText`
    * `onlyIf`, `join_flatMap`, `join_onlyIf`, `join_elim`
    * `Templates.renderText_of_ok`
-/

------------------------------------------------------------
-- Parts In A Row
------------------------------------------------------------

namespace RamlScaffold.Template

@[simp] theorem map_ok
    {α β : Type}
    (change : α → β)
    (value : α) :
    (Except.ok value : Except Fault α).map change =
      .ok (change value) :=
  rfl

@[simp] theorem renderParts_nil (scope : Scope) :
    renderParts scope [] = .ok "" :=
  rfl

/- A part that renders stands in front of the parts behind. -/
theorem renderParts_cons_of_ok
    {scope : Scope}
    {part : Part}
    {first : String}
    (hPart : renderPart scope part = .ok first)
    (parts : List Part) :
    renderParts scope (part :: parts) =
      (renderParts scope parts).map (first ++ ·) := by
  rw [renderParts, hPart]
  cases renderParts scope parts with
  | error fault => rfl
  | ok rest => rfl

theorem renderParts_singleton
    (scope : Scope)
    (part : Part) :
    renderParts scope [part] = renderPart scope part := by
  rw [renderParts]
  cases renderPart scope part with
  | error fault => rfl
  | ok text =>
      simp only [renderParts_nil, bind, Except.bind, pure,
        Except.pure, String.append_empty]

@[simp] theorem renderParts_text
    (scope : Scope)
    (content : String)
    (parts : List Part) :
    renderParts scope (.text content :: parts) =
      (renderParts scope parts).map (content ++ ·) :=
  renderParts_cons_of_ok rfl parts

/- Rows that render one after the other render as one row. -/
theorem renderParts_append_of_ok
    {scope : Scope}
    {front back : List Part}
    {first second : String}
    (hFront : renderParts scope front = .ok first)
    (hBack : renderParts scope back = .ok second) :
    renderParts scope (front ++ back) =
      .ok (first ++ second) := by
  induction front generalizing first with
  | nil =>
      rw [renderParts] at hFront
      rw [← Except.ok.inj hFront, String.empty_append]
      exact hBack
  | cons part parts ih =>
      rw [renderParts] at hFront
      cases hPart : renderPart scope part with
      | error fault =>
          rw [hPart] at hFront
          cases hFront
      | ok start =>
          rw [hPart] at hFront
          cases hParts : renderParts scope parts with
          | error fault =>
              rw [hParts] at hFront
              cases hFront
          | ok rest =>
              rw [hParts] at hFront
              rw [List.cons_append,
                renderParts_cons_of_ok hPart, ih hParts,
                ← Except.ok.inj hFront, String.append_assoc]
              rfl

end RamlScaffold.Template

------------------------------------------------------------
-- Printed Values
------------------------------------------------------------

namespace RamlScaffold.Template

open Builtin

@[simp] theorem value_cons_self
    (scope : Scope)
    (name : String)
    (value : Value) :
    Scope.value ((name, value) :: scope) name = value := by
  simp [Scope.value]

@[simp] theorem value_cons_of_ne
    {name other : String}
    (hOther : other ≠ name)
    (scope : Scope)
    (value : Value) :
    Scope.value ((name, value) :: scope) other =
      scope.value other := by
  have hBeq : (other == name) = false :=
    beq_eq_false_iff_ne.mpr hOther
  simp [Scope.value, List.lookup_cons, hBeq]

@[simp] theorem render_text (content : String) :
    (Value.text content).render = content :=
  rfl

/- A name prints its value. -/
@[simp] theorem renderParts_put
    (scope : Scope)
    (name : String)
    (parts : List Part) :
    renderParts scope (put name :: parts) =
      (renderParts scope parts).map
        ((scope.value name).render ++ ·) :=
  renderParts_cons_of_ok rfl parts

/- An attribute of a name prints its value. -/
@[simp] theorem renderParts_putOf
    {scope : Scope}
    {name key : String}
    {value : Value}
    (hValue : attributeOf (scope.value name) key = .ok value)
    (parts : List Part) :
    renderParts scope (putOf name key :: parts) =
      (renderParts scope parts).map (value.render ++ ·) := by
  apply renderParts_cons_of_ok
  simp only [renderPart, putOf, of, Expr.eval, bind, Except.bind,
    hValue, pure, Except.pure]

@[simp] theorem textFilter?_snakeCase :
    textFilter? "snake_case" = some Naming.snakeCase :=
  rfl

@[simp] theorem textFilter?_lowerCamel :
    textFilter? "lower_camel" = some Naming.lowerCamel :=
  rfl

@[simp] theorem textFilter?_goPath :
    textFilter? "go_path" = some Naming.placeholderPath :=
  rfl

@[simp] theorem textFilter?_rustPath :
    textFilter? "rust_path" = some Naming.snakePath :=
  rfl

/- A filter changes the text of a name before it is printed. -/
@[simp] theorem renderParts_putAs
    {filter : String}
    {change : String → String}
    (hFilter : textFilter? filter = some change)
    (scope : Scope)
    (name : String)
    (parts : List Part) :
    renderParts scope (putAs name filter :: parts) =
      (renderParts scope parts).map
        (change (scope.value name).render ++ ·) := by
  apply renderParts_cons_of_ok
  simp only [renderPart, putAs, Expr.eval, Expr.evalList, bind,
    Except.bind, applyFilter, hFilter, pure, Except.pure,
    render_text]

@[simp] theorem renderParts_putOfAs
    {filter : String}
    {change : String → String}
    (hFilter : textFilter? filter = some change)
    {scope : Scope}
    {name key : String}
    {value : Value}
    (hValue : attributeOf (scope.value name) key = .ok value)
    (parts : List Part) :
    renderParts scope (putOfAs name key filter :: parts) =
      (renderParts scope parts).map
        (change value.render ++ ·) := by
  apply renderParts_cons_of_ok
  simp only [renderPart, putOfAs, of, Expr.eval, Expr.evalList,
    bind, Except.bind, hValue, applyFilter, hFilter, pure,
    Except.pure, render_text]

end RamlScaffold.Template

------------------------------------------------------------
-- Conditions
------------------------------------------------------------

namespace RamlScaffold.Template

/- A condition decides which parts are rendered. -/
theorem renderPart_branch
    {scope : Scope}
    {condition : Expr}
    {value : Value}
    (hCondition : condition.eval scope = .ok value)
    (yes no : List Part) :
    renderPart scope (.branch condition yes no) =
      if value.isTrue then renderParts scope yes
      else renderParts scope no := by
  rw [renderPart, hCondition]
  rfl

/- A condition decides between two texts. -/
theorem renderPart_ifElse
    {scope : Scope}
    {condition : Expr}
    {yes no : List Part}
    {present absent : String}
    {value : Value}
    {holds : Bool}
    (hCondition : condition.eval scope = .ok value)
    (hHolds : value.isTrue = holds)
    (hYes : renderParts scope yes = .ok present)
    (hNo : renderParts scope no = .ok absent) :
    renderPart scope (.branch condition yes no) =
      .ok (if holds then present else absent) := by
  rw [renderPart_branch hCondition, hHolds, hYes, hNo]
  cases holds with
  | true => rfl
  | false => rfl

/- A text that may be missing counts as true if it is there. -/
theorem isTrue_optional
    {content : Option String}
    (hContent : content ≠ some "") :
    (Value.optional content).isTrue = content.isSome := by
  cases content with
  | none => rfl
  | some text =>
      have hText : text ≠ "" :=
        fun hEmpty => hContent (congrArg some hEmpty)
      simp [Value.optional, Value.isTrue, hText]

end RamlScaffold.Template

------------------------------------------------------------
-- Loops
------------------------------------------------------------

namespace RamlScaffold.Template

/-
  A loop whose body renders for every item renders, and its
  text is that of the steps in a row.  Each item gives values
  to the names that the loop binds.
-/
theorem renderPart_eachOf
    {α : Type}
    {scope : Scope}
    {targets : List String}
    {source : Expr}
    {body : List Part}
    {items : List α}
    {value : α → Value}
    {bound : α → Scope}
    {text : α → String}
    (hSource :
      source.eval scope = .ok (.list (items.map value)))
    (hBound :
      ∀ item, bindTargets targets (value item) =
        .ok (bound item))
    (hBody :
      ∀ item ∈ items, ∀ state,
        renderParts (bound item ++ ("loop", state) :: scope)
            body =
          .ok (text item)) :
    renderPart scope (.each targets source body []) =
      .ok (String.join (items.map text)) := by
  have hSteps (start count : Nat) :
      ((items.map value).zipIdx start).mapM
          (fun step => do
            let inner ←
              stepScope scope targets count step.2 step.1
            renderParts inner body) =
        .ok (items.map text) := by
    clear hSource
    induction items generalizing start with
    | nil => rfl
    | cons item items ih =>
        have hFirst := hBody item List.mem_cons_self
          (loopState start count)
        have hRest := ih
          (fun other hOther =>
            hBody other (List.mem_cons_of_mem item hOther))
          (start + 1)
        rw [List.map_cons, List.zipIdx_cons, List.mapM_cons,
          hRest]
        simp only [stepScope, hBound, bind, Except.bind, pure,
          Except.pure, hFirst, List.map_cons]
  rw [renderPart, hSource]
  cases hItems : items.map value with
  | nil =>
      rw [List.map_eq_nil_iff.mp hItems]
      rfl
  | cons first rest =>
      have hAll := hSteps 0 (items.map value).length
      rw [hItems] at hAll
      exact
        congrArg
          (fun texts : Except Fault (List String) => do
            let texts ← texts
            return String.join texts)
          hAll

/- A loop that binds each item to one name. -/
theorem renderPart_each
    {α : Type}
    {scope : Scope}
    {target : String}
    {source : Expr}
    {body : List Part}
    {items : List α}
    {value : α → Value}
    {text : α → String}
    (hSource :
      source.eval scope = .ok (.list (items.map value)))
    (hBody :
      ∀ item ∈ items, ∀ state,
        renderParts
            ((target, value item) :: ("loop", state) :: scope)
            body =
          .ok (text item)) :
    renderPart scope (.each [target] source body []) =
      .ok (String.join (items.map text)) :=
  renderPart_eachOf hSource (fun _ => rfl) hBody

/- A loop over a record that binds the key and the value. -/
theorem renderPart_eachEntry
    {α : Type}
    {scope : Scope}
    {key target : String}
    {source : Expr}
    {body : List Part}
    {entries : List (String × α)}
    (value : α → Value)
    (text : α → String)
    (hSource :
      source.eval scope =
        .ok
          (.record
            (entries.map
              (fun entry => (entry.1, value entry.2)))))
    (hBody :
      ∀ name item state,
        renderParts
            ((key, .text name) :: (target, value item) ::
              ("loop", state) :: scope)
            body =
          .ok (text item)) :
    renderPart scope
        (.each [key, target] (.filter source "items" []) body
          []) =
      .ok
        (String.join
          (entries.map (fun entry => text entry.2))) := by
  have hPairs :
      Expr.eval scope (.filter source "items" []) =
        .ok
          (.list
            (entries.map
              (fun entry =>
                .list [.text entry.1, value entry.2]))) := by
    rw [Expr.eval, hSource]
    simp [bind, Except.bind, Expr.evalList, applyFilter,
      textFilter?, pairsOf, Function.comp_def]
  exact
    renderPart_eachOf hPairs (fun _ => rfl)
      (fun entry _ state => hBody entry.1 entry.2 state)

open Builtin in
/- A loop over texts that puts each between two others. -/
theorem renderPart_eachText
    {scope : Scope}
    {source : Expr}
    {items : List String}
    (hSource : source.eval scope = .ok (.texts items))
    (target start stop : String) :
    renderPart scope
        (.each [target] source
          [.text start, put target, .text stop] []) =
      .ok
        (String.join
          (items.map (fun item => start ++ item ++ stop))) := by
  apply renderPart_each hSource
  intro item _ state
  simp [String.append_assoc]

end RamlScaffold.Template

------------------------------------------------------------
-- Lines In Groups
------------------------------------------------------------

namespace RamlScaffold

/- Lines that come in groups, joined. -/
theorem join_flatMap
    {α : Type}
    (items : List α)
    (lines : α → List String) :
    String.join (items.flatMap lines) =
      String.join
        (items.map (fun item => String.join (lines item))) := by
  induction items with
  | nil => rfl
  | cons item items ih =>
      rw [List.flatMap_cons, List.map_cons, String.join_append,
        String.join_cons, ih]

/- A line that may be missing. -/
theorem join_toList_map
    {α : Type}
    (content : Option α)
    (line : α → String) :
    String.join (content.toList.map line) =
      content.elim "" line := by
  cases content with
  | none => rfl
  | some value => simp

/- The lines that are taken for an optional text, joined. -/
theorem join_elim
    {α : Type}
    (content : Option α)
    (absent : List String)
    (present : α → List String) :
    String.join (content.elim absent present) =
      content.elim (String.join absent)
        (fun value => String.join (present value)) := by
  cases content with
  | none => rfl
  | some value => rfl

/- Lines that stand there under a condition only. -/
def onlyIf (condition : Bool) (lines : List String) : List String :=
  if condition then lines else []

theorem join_onlyIf
    (condition : Bool)
    (lines : List String) :
    String.join (onlyIf condition lines) =
      if condition then String.join lines else "" := by
  cases condition with
  | true => rfl
  | false => rfl

@[simp] theorem onlyIf_nil (condition : Bool) :
    onlyIf condition [] = [] := by
  cases condition with
  | true => rfl
  | false => rfl

@[simp] theorem mem_onlyIf
    (line : String)
    (condition : Bool)
    (lines : List String) :
    line ∈ onlyIf condition lines ↔
      condition = true ∧ line ∈ lines := by
  cases condition with
  | true => simp [onlyIf]
  | false => simp [onlyIf]

@[simp] theorem filterMap_onlyIf
    (condition : Bool)
    (lines : List String)
    (read : String → Option String) :
    (onlyIf condition lines).filterMap read =
      onlyIf condition (lines.filterMap read) := by
  cases condition with
  | true => rfl
  | false => rfl

end RamlScaffold

------------------------------------------------------------
-- Templates By Their Names
------------------------------------------------------------

namespace RamlScaffold

/- A template that is there and renders gives its text. -/
theorem Templates.renderText_of_ok
    {templates : Templates}
    {name : String}
    {template : Template}
    {context : Template.Value}
    {text : String}
    (hTemplate :
      Keyed.get? name templates =
        some (Rendering.builtin template))
    (hText : Template.render template context = .ok text) :
    templates.renderText name context = .ok text := by
  unfold renderText
  rw [hTemplate]
  dsimp only [Rendering.builtin]
  rw [hText]
  rfl

end RamlScaffold
