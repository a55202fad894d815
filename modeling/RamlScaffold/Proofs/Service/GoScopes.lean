import Mathlib.Data.List.Basic
import RamlScaffold.Proofs.Text.Affixes
import RamlScaffold.Proofs.Text.Pieces

/-
  Where in a Go source a name stands for a package.

  A parameter has its name to itself in the body of its
  function, so there the name of a package stands for the
  parameter.  The header of a function is not yet part of
  that: the types in it are looked up in the file.

  Main declarations:
    * `Go.Declares`, `Go.declares_append_iff`
    * `Go.IsPiece`, `Go.declares_parameter_iff`
    * `Go.visible`, `Go.visible_of_undeclared`
    * `Go.functions`, `Go.visible_functions`
-/

------------------------------------------------------------
-- Headers
------------------------------------------------------------

namespace RamlScaffold.Go

open Text

/- Whether a character parts the declarations of a header. -/
def isBreak (c : Char) : Bool :=
  ['(', ')', ','].contains c

/-
  Whether a header declares a name: between parentheses and
  commas the name stands first, with a blank and a type behind
  it.
-/
def Declares (name header : String) : Prop :=
  ∃ piece ∈ splitBy isBreak header.toList,
    (name ++ " ").toList <+: piece.dropWhile (· == ' ')

instance (name header : String) :
    Decidable (Declares name header) :=
  inferInstanceAs
    (Decidable
      (∃ piece ∈ splitBy isBreak header.toList,
        (name ++ " ").toList <+: piece.dropWhile (· == ' ')))

/- Whether no character of a text parts declarations. -/
def IsPiece (text : String) : Prop :=
  ∀ c ∈ text.toList, isBreak c = false

/- Whether a text is a piece is found by looking through. -/
theorem all_notBreak_iff (text : List Char) :
    text.all (fun c => !isBreak c) = true ↔
      ∀ c ∈ text, isBreak c = false := by
  simp

instance (text : String) : Decidable (IsPiece text) :=
  decidable_of_iff _ (all_notBreak_iff text.toList)

@[simp] theorem isPiece_append (first second : String) :
    IsPiece (first ++ second) ↔
      IsPiece first ∧ IsPiece second := by
  simp [IsPiece, or_imp, forall_and]

theorem isPiece_ofList (text : List Char) :
    IsPiece (String.ofList text) ↔
      text.all (fun c => !isBreak c) = true := by
  rw [IsPiece, String.toList_ofList, all_notBreak_iff]

theorem isPiece_eq_true
    {text : String}
    (hText : IsPiece text) :
    IsPiece text = True :=
  eq_true hText

variable {name : String}

/- What stands on either side of a break is told apart. -/
theorem declares_append_iff
    {c : Char}
    (hBreak : isBreak c = true)
    (first second : String) :
    Declares name (first ++ (String.ofList [c] ++ second)) ↔
      Declares name first ∨ Declares name second := by
  have hText :
      (first ++ (String.ofList [c] ++ second)).toList =
        first.toList ++ c :: second.toList := by
    simp
  unfold Declares
  rw [hText, splitBy_append hBreak]
  simp only [List.mem_append, or_and_right, exists_or]

@[simp] theorem declares_open_iff (first second : String) :
    Declares name (first ++ ("(" ++ second)) ↔
      Declares name first ∨ Declares name second :=
  declares_append_iff rfl first second

@[simp] theorem declares_close_iff (first second : String) :
    Declares name (first ++ (")" ++ second)) ↔
      Declares name first ∨ Declares name second :=
  declares_append_iff rfl first second

@[simp] theorem declares_comma_iff (first second : String) :
    Declares name (first ++ ("," ++ second)) ↔
      Declares name first ∨ Declares name second :=
  declares_append_iff rfl first second

/- A blank at the start does not matter. -/
@[simp] theorem declares_blank_iff (text : String) :
    Declares name (" " ++ text) ↔ Declares name text := by
  have hText : (" " ++ text).toList = ' ' :: text.toList := by
    simp
  unfold Declares
  rw [hText, splitBy, if_neg (by decide)]
  cases hPieces : splitBy isBreak text.toList with
  | nil => exact absurd hPieces (splitBy_ne_nil _)
  | cons piece pieces => simp

theorem declares_iff_of_isPiece
    {text : String}
    (hPiece : IsPiece text) :
    Declares name text ↔
      (name ++ " ").toList <+:
        text.toList.dropWhile (· == ' ') := by
  unfold Declares
  rw [splitBy_of_forall hPiece]
  simp

/- Without a blank there is no type behind a name. -/
theorem not_declares_of_noBlank
    {text : String}
    (hPiece : IsPiece text)
    (hBlank : ' ' ∉ text.toList) :
    ¬ Declares name text := by
  rw [declares_iff_of_isPiece hPiece]
  intro hPrefix
  have hMem : ' ' ∈ text.toList.dropWhile (· == ' ') :=
    hPrefix.subset (by simp)
  exact hBlank ((List.dropWhile_sublist _).subset hMem)

/- A piece that starts with another word declares that. -/
theorem not_declares_of_startsDiffer
    {front rest : String}
    (hPiece : IsPiece (front ++ rest))
    (hFront : front.toList.head?.any (· != ' ') = true)
    (hStarts : StartsDiffer (name ++ " ") front) :
    ¬ Declares name (front ++ rest) := by
  have hKept :
      (front ++ rest).toList.dropWhile (· == ' ') =
        (front ++ rest).toList := by
    rw [String.toList_append]
    cases hChars : front.toList with
    | nil =>
        rw [hChars] at hFront
        cases hFront
    | cons c chars =>
        rw [hChars] at hFront
        have hFirst : (c == ' ') = false := by
          simpa using hFront
        simp [hFirst]
  rw [declares_iff_of_isPiece hPiece, hKept]
  exact hStarts.not_starts_append rest

/- Words that end in front of a mark they lack are the same. -/
theorem concat_prefix_append_cons_iff
    {c : Char}
    {first second : List Char}
    (hFirst : c ∉ first)
    (hSecond : c ∉ second)
    (rest : List Char) :
    first ++ [c] <+: second ++ c :: rest ↔ second = first := by
  induction first generalizing second with
  | nil =>
      cases second with
      | nil => simp
      | cons d second =>
          have hOther : c ≠ d :=
            fun hSame => hSecond (hSame ▸ List.mem_cons_self)
          simp [hOther]
  | cons d first ih =>
      have hOther : d ≠ c :=
        fun hSame => hFirst (hSame ▸ List.mem_cons_self)
      have hRest : c ∉ first :=
        fun hMem => hFirst (List.mem_cons_of_mem d hMem)
      cases second with
      | nil => simp [hOther]
      | cons e second =>
          have hOwn : c ∉ second :=
            fun hMem => hSecond (List.mem_cons_of_mem e hMem)
          simp [ih hRest hOwn, List.cons_prefix_cons, eq_comm]

/- A parameter with a type declares its name. -/
theorem declares_parameter_iff
    {param kind : String}
    (hPiece : IsPiece (param ++ (" " ++ kind)))
    (hParam : ' ' ∉ param.toList)
    (hKind : ' ' ∉ kind.toList)
    (hName : name ≠ "")
    (hBlank : ' ' ∉ name.toList) :
    Declares name (param ++ (" " ++ kind)) ↔ param = name := by
  by_cases hEmpty : param = ""
  · -- A type alone declares nothing.
    rw [hEmpty] at hPiece ⊢
    simp only [String.empty_append, declares_blank_iff,
      isPiece_append] at hPiece ⊢
    exact
      iff_of_false (not_declares_of_noBlank hPiece.2 hKind)
        hName.symm
  · have hKept :
        (param ++ (" " ++ kind)).toList.dropWhile (· == ' ') =
          param.toList ++ ' ' :: kind.toList := by
      cases hChars : param.toList with
      | nil => exact absurd (String.toList_eq_nil_iff.mp hChars) hEmpty
      | cons c chars =>
          rw [hChars] at hParam
          have hFirst : c ≠ ' ' :=
            fun hSame => hParam (hSame ▸ List.mem_cons_self)
          simp [hChars, hFirst]
    have hStart : (name ++ " ").toList = name.toList ++ [' '] := by
      simp
    rw [declares_iff_of_isPiece hPiece, hKept, hStart,
      concat_prefix_append_cons_iff hBlank hParam,
      String.toList_inj]

end RamlScaffold.Go

------------------------------------------------------------
-- Scopes
------------------------------------------------------------

namespace RamlScaffold.Go

open Text

/-
  The lines in which a name stands for what the file makes of
  it, where `hidden` tells whether it does not here.
-/
def visibleFrom (name : String) : Bool → List String → List String
  | _, [] => []
  | hidden, line :: lines =>
      if Starts "func " line then
        line :: visibleFrom name (decide (Declares name line)) lines
      else if line = "\x7d\n" then
        line :: visibleFrom name false lines
      else if hidden then visibleFrom name hidden lines
      else line :: visibleFrom name hidden lines

/- The lines of a source outside of functions that hide a name. -/
def visible (name : String) (lines : List String) : List String :=
  visibleFrom name false lines

variable {name : String}

/- Lines without a header that declares a name are left. -/
theorem visible_append
    {front : List String}
    (hFront :
      ∀ line ∈ front, Starts "func " line → ¬ Declares name line)
    (rest : List String) :
    visible name (front ++ rest) = front ++ visible name rest := by
  unfold visible
  induction front with
  | nil => rfl
  | cons line front ih =>
      have hRest := ih
        (fun other hMem =>
          hFront other (List.mem_cons_of_mem line hMem))
      rw [List.cons_append, visibleFrom, List.cons_append]
      split
      · next hStarts =>
          have hNot := hFront line List.mem_cons_self hStarts
          rw [decide_eq_false hNot, hRest]
      · simp [hRest]

theorem visible_of_undeclared
    {lines : List String}
    (hLines :
      ∀ line ∈ lines, Starts "func " line → ¬ Declares name line) :
    visible name lines = lines := by
  have hAll := visible_append hLines []
  have hNone : visible name [] = [] := by
    simp [visible, visibleFrom]
  rwa [hNone, List.append_nil] at hAll

/- A line in the body of a function. -/
structure IsInner (line : String) : Prop where
  noHeader : ¬ Starts "func " line
  noEnd : line ≠ "\x7d\n"

theorem isInner_append_of_startsDiffer
    {front : String}
    (hHeader : StartsDiffer "func " front)
    (hEnd : StartsDiffer "\x7d\n" front)
    (rest : String) :
    IsInner (front ++ rest) :=
  ⟨hHeader.not_starts_append rest, hEnd.append_ne rest⟩

theorem isInner_of_startsDiffer
    {line : String}
    (hHeader : StartsDiffer "func " line)
    (hEnd : StartsDiffer "\x7d\n" line) :
    IsInner line := by
  have hInner := isInner_append_of_startsDiffer hHeader hEnd ""
  rwa [String.append_empty] at hInner

theorem visibleFrom_body
    {body : List String}
    (hBody : ∀ line ∈ body, IsInner line)
    (hidden : Bool)
    (rest : List String) :
    visibleFrom name hidden (body ++ "\x7d\n" :: rest) =
      (if hidden then [] else body) ++
        "\x7d\n" :: visible name rest := by
  induction body with
  | nil =>
      have hEnd : ¬ Starts "func " "\x7d\n" := by
        decide
      rw [List.nil_append, visibleFrom, if_neg hEnd, if_pos rfl,
        visible, ite_self, List.nil_append]
  | cons line body ih =>
      have hInner := hBody line List.mem_cons_self
      have hRest := ih
        (fun other hMem => hBody other (List.mem_cons_of_mem line hMem))
      rw [List.cons_append, visibleFrom, if_neg hInner.noHeader,
        if_neg hInner.noEnd, hRest]
      cases hidden <;> simp

section

variable {α : Type}
variable {comment header : α → String} {body : α → List String}

/- A comment and a function for each of some items. -/
def functions
    (comment header : α → String)
    (body : α → List String)
    (items : List α) : List String :=
  items.flatMap
    (fun item =>
      [comment item, header item] ++ body item ++
        ["\x7d\n", "\n"])

theorem functions_cons
    (comment header : α → String)
    (body : α → List String)
    (item : α)
    (items : List α) :
    functions comment header body (item :: items) =
      [comment item] ++
        header item ::
          (body item ++
            "\x7d\n" ::
              (["\n"] ++ functions comment header body items)) := by
  simp [functions]

theorem functions_congr
    {comment header : α → String}
    {body other : α → List String}
    {items : List α}
    (hBody : ∀ item ∈ items, body item = other item) :
    functions comment header body items =
      functions comment header other items := by
  unfold functions
  apply List.flatMap_congr
  intro item hItem
  rw [hBody item hItem]

/- Functions that declare a name keep their bodies from it. -/
theorem visible_functions
    (hComment : ∀ item, ¬ Starts "func " (comment item))
    (hHeader : ∀ item, Starts "func " (header item))
    (hBody : ∀ item, ∀ line ∈ body item, IsInner line)
    (items : List α) :
    visible name (functions comment header body items) =
      functions comment header
        (fun item =>
          if Declares name (header item) then [] else body item)
        items := by
  have hPlain
      {line : String}
      (hLine : ¬ Starts "func " line) :
      ∀ other ∈ [line],
        Starts "func " other → ¬ Declares name other := by
    intro other hMem hStarts
    rw [List.mem_singleton.mp hMem] at hStarts
    exact absurd hStarts hLine
  induction items with
  | nil => simp [functions, visible, visibleFrom]
  | cons item items ih =>
      rw [functions_cons, functions_cons,
        visible_append (hPlain (hComment item)), visible,
        visibleFrom, if_pos (hHeader item),
        visibleFrom_body (hBody item),
        visible_append (hPlain (by decide)), ih]
      simp

end

end RamlScaffold.Go
