import RamlScaffold.Proofs.Text.Lines

/-
  Texts whose lines are all comments.

  A text that stands behind the mark of a comment stays in it
  as long as it has no line break.  Where it has one, the line
  behind it is a comment only if it starts like one.

  Main declarations:
    * `Text.IsComment`, `Text.BreaksIntoComments`
    * `Text.breaksIntoComments_append`
    * `Text.breaksIntoComments_intercalate`
    * `Text.EndsLine`, `Text.fileLines_append`
    * `Text.forall_isComment_iff`
-/

------------------------------------------------------------
-- Breaks
------------------------------------------------------------

namespace RamlScaffold.Text

/- A line that starts with the mark of a comment. -/
def IsComment (line : String) : Prop :=
  ['/', '/'] <+: line.toList

instance (line : String) : Decidable (IsComment line) :=
  inferInstanceAs (Decidable (['/', '/'] <+: line.toList))

/- Whether each line break of a text starts a comment. -/
def BreaksIntoComments (text : List Char) : Prop :=
  ∀ before after,
    text = before ++ '\n' :: after → ['/', '/'] <+: after

/- A text without line breaks has none to look at. -/
theorem breaksIntoComments_of_not_mem
    {text : List Char}
    (hText : '\n' ∉ text) :
    BreaksIntoComments text := by
  rintro before after rfl
  exact absurd (by simp) hText

/- The first character is a line break, or a later one is. -/
theorem breaksIntoComments_cons
    (c : Char)
    (rest : List Char) :
    BreaksIntoComments (c :: rest) ↔
      (c = '\n' → ['/', '/'] <+: rest) ∧
        BreaksIntoComments rest := by
  constructor
  · intro hAll
    refine ⟨?_, ?_⟩
    · rintro rfl
      exact hAll [] rest rfl
    · rintro before after rfl
      exact hAll (c :: before) after rfl
  · rintro ⟨hFirst, hRest⟩ before after hBreak
    cases before with
    | nil =>
        rcases List.cons.inj hBreak with ⟨hChar, rfl⟩
        exact hFirst hChar
    | cons d before =>
        exact hRest before after (List.cons.inj hBreak).2

/- Two slashes do not stand across the end of a text. -/
theorem slashes_prefix_append
    {second : List Char}
    (hSecond : second.head? ≠ some '/')
    (first : List Char) :
    ['/', '/'] <+: first ++ second ↔ ['/', '/'] <+: first := by
  match first, second with
  | [], [] => simp
  | [], c :: second =>
      have hc : c ≠ '/' := by simpa using hSecond
      simp [hc.symm]
  | [_], [] => simp
  | [_], c :: second =>
      have hc : c ≠ '/' := by simpa using hSecond
      simp [hc.symm]
  | _ :: _ :: _, second => simp

/- What stands in front of a text without line breaks. -/
theorem breaksIntoComments_append_right
    {front : List Char}
    (hFront : '\n' ∉ front)
    (text : List Char) :
    BreaksIntoComments (front ++ text) ↔
      BreaksIntoComments text := by
  induction front with
  | nil => rfl
  | cons c front ih =>
      have hParts := not_or.mp (mt List.mem_cons.mpr hFront)
      rw [List.cons_append, breaksIntoComments_cons,
        ih hParts.2]
      simp [Ne.symm hParts.1]

/-
  Two texts in a row, the second of which adds no slash to the
  last line of the first.
-/
theorem breaksIntoComments_append
    {second : List Char}
    (hSecond : second.head? ≠ some '/')
    (first : List Char) :
    BreaksIntoComments (first ++ second) ↔
      BreaksIntoComments first ∧ BreaksIntoComments second := by
  induction first with
  | nil =>
      have hEmpty : BreaksIntoComments [] :=
        breaksIntoComments_of_not_mem List.not_mem_nil
      simp [hEmpty]
  | cons c rest ih =>
      rw [List.cons_append, breaksIntoComments_cons,
        breaksIntoComments_cons, ih,
        slashes_prefix_append hSecond, and_assoc]

/- Texts with a comma and a blank between them. -/
theorem breaksIntoComments_intercalate
    (texts : List (List Char)) :
    BreaksIntoComments ([',', ' '].intercalate texts) ↔
      ∀ text ∈ texts, BreaksIntoComments text := by
  induction texts with
  | nil =>
      simp [breaksIntoComments_of_not_mem]
  | cons text texts ih =>
      cases texts with
      | nil => simp
      | cons other texts =>
          rw [List.forall_mem_cons, ← ih,
            List.intercalate_cons_cons, List.append_assoc,
            breaksIntoComments_append (by simp)]
          simp [breaksIntoComments_cons]

end RamlScaffold.Text

------------------------------------------------------------
-- Lines
------------------------------------------------------------

namespace RamlScaffold.Text

/- The text in front of the first break tells what it starts. -/
theorem slashes_prefix_takeWhile (text : List Char) :
    ['/', '/'] <+: text.takeWhile (· != '\n') ↔
      ['/', '/'] <+: text := by
  have hRest :
      (text.dropWhile (· != '\n')).head? ≠ some '/' := by
    intro hSlash
    have hBreak := List.head?_dropWhile_not (· != '\n') text
    rw [hSlash] at hBreak
    cases hBreak
  rw [← slashes_prefix_append hRest,
    List.takeWhile_append_dropWhile]

/- The pieces of a text are what stands around its breaks. -/
theorem splitBy_eq_cons (text : List Char) :
    ∃ pieces,
      splitBy (· == '\n') text =
          text.takeWhile (· != '\n') :: pieces ∧
        ((∀ piece ∈ pieces, ['/', '/'] <+: piece) ↔
          BreaksIntoComments text) := by
  induction text with
  | nil =>
      have hEmpty : BreaksIntoComments [] :=
        breaksIntoComments_of_not_mem List.not_mem_nil
      exact ⟨[], rfl, iff_of_true (by simp) hEmpty⟩
  | cons c rest ih =>
      rcases ih with ⟨pieces, hSplit, hPieces⟩
      by_cases hc : c = '\n'
      · refine ⟨splitBy (· == '\n') rest, ?_, ?_⟩
        · simp [splitBy, hc]
        · rw [hSplit, List.forall_mem_cons, hPieces,
            slashes_prefix_takeWhile, breaksIntoComments_cons]
          simp [hc]
      · refine ⟨pieces, ?_, ?_⟩
        · simp [splitBy, hc, hSplit]
        · rw [hPieces, breaksIntoComments_cons]
          simp [hc]

/- The lines of a text that is ended by a line break. -/
theorem fileLines_append_break (text : String) :
    fileLines (text ++ "\n") =
      (splitBy (· == '\n') text.toList).map
        (fun piece => String.ofList (piece ++ ['\n'])) := by
  have hSplit :
      splitBy (· == '\n') (text.toList ++ ['\n']) =
        splitBy (· == '\n') text.toList ++ [[]] :=
    splitBy_append rfl text.toList []
  unfold fileLines
  rw [String.toList_append]
  change List.map _ (splitBy _ (text.toList ++ ['\n'])).dropLast = _
  rw [hSplit, List.dropLast_concat]

/- Whether a text is empty or ends with a line break. -/
def EndsLine (text : String) : Prop :=
  text.toList.getLast?.getD '\n' = '\n'

instance (text : String) : Decidable (EndsLine text) :=
  inferInstanceAs (Decidable (_ = _))

theorem endsLine_append_break (front : String) :
    EndsLine (front ++ "\n") := by
  simp [EndsLine]

theorem endsLine_append
    {first second : String}
    (hFirst : EndsLine first)
    (hSecond : EndsLine second) :
    EndsLine (first ++ second) := by
  unfold EndsLine at hFirst hSecond ⊢
  rw [String.toList_append, List.getLast?_append]
  cases hLast : second.toList.getLast? with
  | none => exact hFirst
  | some c =>
      rw [hLast] at hSecond
      exact hSecond

theorem endsLine_join
    {texts : List String}
    (hTexts : ∀ text ∈ texts, EndsLine text) :
    EndsLine (String.join texts) := by
  induction texts with
  | nil => rfl
  | cons text texts ih =>
      rcases List.forall_mem_cons.mp hTexts with
        ⟨hText, hRest⟩
      rw [String.join_cons]
      exact endsLine_append hText (ih hRest)

theorem EndsLine.eq_empty_or_break
    {text : String}
    (hText : EndsLine text) :
    text = "" ∨ ∃ front, text = front ++ "\n" := by
  unfold EndsLine at hText
  cases hLast : text.toList.getLast? with
  | none =>
      have hNil := List.getLast?_eq_none_iff.mp hLast
      exact Or.inl (String.toList_eq_nil_iff.mp hNil)
  | some c =>
      rw [hLast] at hText
      rcases List.getLast?_eq_some_iff.mp hLast with
        ⟨front, hFront⟩
      have hBreak : c = '\n' := hText
      refine Or.inr ⟨String.ofList front, ?_⟩
      apply String.toList_inj.mp
      rw [hFront, hBreak, String.toList_append,
        String.toList_ofList]
      rfl

/- The lines of two texts are told apart by a line break. -/
theorem fileLines_append
    {first : String}
    (hFirst : EndsLine first)
    (second : String) :
    fileLines (first ++ second) =
      fileLines first ++ fileLines second := by
  rcases hFirst.eq_empty_or_break with rfl | ⟨front, rfl⟩
  · rw [String.empty_append]
    rfl
  · have hSplit :
        splitBy (· == '\n') (front ++ "\n" ++ second).toList =
          splitBy (· == '\n') front.toList ++
            splitBy (· == '\n') second.toList := by
      rw [String.toList_append, String.toList_append,
        List.append_assoc]
      exact splitBy_append rfl front.toList second.toList
    rw [fileLines_append_break]
    unfold fileLines
    rw [hSplit, List.dropLast_append_of_ne_nil (splitBy_ne_nil _),
      List.map_append]

/-
  The lines of a text behind the mark of a comment are all
  comments if and only if its line breaks start comments.
-/
theorem forall_isComment_iff
    {mark : String}
    (hMark : OneLine mark)
    (hComment : IsComment mark)
    (text : String) :
    (∀ line ∈ fileLines (mark ++ text ++ "\n"),
        IsComment line) ↔
      BreaksIntoComments text.toList := by
  rcases splitBy_eq_cons (mark ++ text).toList with
    ⟨pieces, hSplit, hPieces⟩
  have hFirst :
      ['/', '/'] <+:
        (mark ++ text).toList.takeWhile (· != '\n') := by
    rw [slashes_prefix_takeWhile, String.toList_append]
    exact hComment.trans (List.prefix_append _ _)
  have hEnd (piece : List Char) :
      IsComment (String.ofList (piece ++ ['\n'])) ↔
        ['/', '/'] <+: piece := by
    unfold IsComment
    rw [String.toList_ofList]
    exact slashes_prefix_append (by decide) piece
  rw [String.toList_append,
    breaksIntoComments_append_right hMark] at hPieces
  rw [fileLines_append_break, hSplit, List.forall_mem_map]
  simp only [hEnd]
  rw [List.forall_mem_cons, hPieces]
  exact and_iff_right hFirst

end RamlScaffold.Text
