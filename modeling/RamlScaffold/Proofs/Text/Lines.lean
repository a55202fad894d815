import RamlScaffold.Proofs.Text.Pieces

/-
  Texts that are put together line by line.

  A line holds one line break, at its end.  Lines that are
  joined can be told apart again.

  Main declarations:
    * `Text.OneLine`, `Text.IsLine`, `Text.AllLines`
    * `Text.fileLines`, `Text.fileLines_join`
    * `Text.mem_fileLines_join`
    * `Text.oneLine_of_mem_lines`
-/

------------------------------------------------------------
-- Lines
------------------------------------------------------------

namespace RamlScaffold.Text

/- A text without line breaks. -/
def OneLine (text : String) : Prop :=
  '\n' ∉ text.toList

instance (text : String) : Decidable (OneLine text) :=
  inferInstanceAs (Decidable ('\n' ∉ text.toList))

@[simp] theorem oneLine_append (first second : String) :
    OneLine (first ++ second) ↔
      OneLine first ∧ OneLine second := by
  simp [OneLine]

/- A character that no text holds is not in all of them. -/
theorem not_mem_join
    {c : Char}
    {texts : List String}
    (hTexts : ∀ text ∈ texts, c ∉ text.toList) :
    c ∉ (String.join texts).toList := by
  rw [String.toList_join, List.mem_flatMap]
  rintro ⟨text, hText, hMem⟩
  exact hTexts text hText hMem

theorem oneLine_ofList (text : List Char) :
    OneLine (String.ofList text) ↔ '\n' ∉ text := by
  simp [OneLine]

/- A text found to hold no line break. -/
theorem oneLine_eq_true
    {text : String}
    (hText : OneLine text) :
    OneLine text = True :=
  eq_true hText

/- A text with one line break, at its end. -/
def IsLine (line : String) : Prop :=
  line.toList.getLast? = some '\n' ∧
    '\n' ∉ line.toList.dropLast

instance (line : String) : Decidable (IsLine line) :=
  inferInstanceAs
    (Decidable
      (line.toList.getLast? = some '\n' ∧
        '\n' ∉ line.toList.dropLast))

theorem isLine_iff (line : String) :
    IsLine line ↔
      ∃ front, '\n' ∉ front ∧ line.toList = front ++ ['\n'] := by
  constructor
  · rintro ⟨hLast, hFront⟩
    rcases List.getLast?_eq_some_iff.mp hLast with
      ⟨front, hLine⟩
    rw [hLine, List.dropLast_concat] at hFront
    exact ⟨front, hFront, hLine⟩
  · rintro ⟨front, hFront, hLine⟩
    unfold IsLine
    rw [hLine, List.dropLast_concat]
    exact ⟨List.getLast?_concat, hFront⟩

theorem isLine_ofList (line : List Char) :
    IsLine (String.ofList line) ↔
      line.getLast? = some '\n' ∧ '\n' ∉ line.dropLast := by
  simp [IsLine]

/- A text found to be a line. -/
theorem isLine_eq_true
    {line : String}
    (hLine : IsLine line) :
    IsLine line = True :=
  eq_true hLine

/- What stands in front of a line belongs to the line. -/
theorem isLine_append_iff
    {stop : String}
    (hStop : IsLine stop)
    (front : String) :
    IsLine (front ++ stop) ↔ OneLine front := by
  rcases (isLine_iff stop).mp hStop with ⟨last, hLast, hLine⟩
  unfold IsLine OneLine
  rw [String.toList_append, hLine, ← List.append_assoc,
    List.getLast?_concat, List.dropLast_concat]
  simp [hLast]

end RamlScaffold.Text

------------------------------------------------------------
-- Texts That Are Lines
------------------------------------------------------------

namespace RamlScaffold.Text

/- Whether all of some texts are lines. -/
def AllLines (texts : List String) : Prop :=
  ∀ text ∈ texts, IsLine text

@[simp] theorem allLines_nil : AllLines [] := by
  simp [AllLines]

@[simp] theorem allLines_cons
    (text : String)
    (texts : List String) :
    AllLines (text :: texts) ↔ IsLine text ∧ AllLines texts := by
  simp [AllLines]

@[simp] theorem allLines_append (first second : List String) :
    AllLines (first ++ second) ↔
      AllLines first ∧ AllLines second := by
  simp [AllLines, or_imp, forall_and]

variable {α : Type} {items : List α}

theorem allLines_map
    {line : α → String}
    (hLine : ∀ item ∈ items, IsLine (line item)) :
    AllLines (items.map line) :=
  List.forall_mem_map.mpr hLine

theorem allLines_flatMap
    {group : α → List String}
    (hGroup : ∀ item ∈ items, AllLines (group item)) :
    AllLines (items.flatMap group) :=
  List.forall_mem_flatMap.mpr hGroup

/- Lines of one kind, each with a text of its own. -/
theorem allLines_around
    (start : String)
    (hStart : OneLine start)
    {stop : String}
    (hStop : IsLine stop)
    {texts : List String}
    (hTexts : ∀ text ∈ texts, OneLine text) :
    AllLines (texts.map (fun text => start ++ text ++ stop)) := by
  apply allLines_map
  intro text hText
  simp [isLine_append_iff hStop, hStart, hTexts text hText]

end RamlScaffold.Text

------------------------------------------------------------
-- Lines Of A File
------------------------------------------------------------

namespace RamlScaffold.Text

/-
  The lines of a text with their line breaks.  What stands
  behind the last line break is none of them.
-/
def fileLines (text : String) : List String :=
  (splitBy (· == '\n') text.toList).dropLast.map
    (fun piece => String.ofList (piece ++ ['\n']))

/- Lines that are joined are the lines of what they make. -/
theorem fileLines_join
    {lines : List String}
    (hLines : AllLines lines) :
    fileLines (String.join lines) = lines := by
  induction lines with
  | nil => rfl
  | cons line lines ih =>
      rw [allLines_cons] at hLines
      rcases (isLine_iff line).mp hLines.1 with
        ⟨front, hFront, hLine⟩
      have hRest := ih hLines.2
      have hText :
          (String.join (line :: lines)).toList =
            front ++ '\n' :: (String.join lines).toList := by
        rw [String.join_cons, String.toList_append, hLine,
          List.append_assoc]
        rfl
      have hWhole :
          splitBy (· == '\n') front = [front] := by
        apply splitBy_of_forall
        intro c hc
        rw [beq_eq_false_iff_ne]
        rintro rfl
        exact hFront hc
      have hSplit :
          splitBy (· == '\n')
              (front ++ '\n' :: (String.join lines).toList) =
            [front] ++
              splitBy (· == '\n') (String.join lines).toList := by
        rw [← hWhole]
        exact splitBy_append rfl front _
      have hString : String.ofList (front ++ ['\n']) = line := by
        rw [← hLine, String.ofList_toList]
      unfold fileLines at hRest ⊢
      rw [hText, hSplit,
        List.dropLast_append_of_ne_nil (splitBy_ne_nil _),
        List.map_append, hRest, List.map_singleton, hString]
      rfl

/- A line behind a line break is a line of the whole. -/
theorem mem_fileLines_join
    {texts : List String}
    {front line : String}
    (hText : front ++ line ∈ texts)
    (hFront : front.toList.getLast? = some '\n')
    (hLine : IsLine line) :
    line ∈ fileLines (String.join texts) := by
  rcases List.append_of_mem hText with ⟨before, after, rfl⟩
  rcases List.getLast?_eq_some_iff.mp hFront with
    ⟨start, hStart⟩
  rcases (isLine_iff line).mp hLine with
    ⟨content, hContent, hBreak⟩
  have hWhole :
      (String.join (before ++ (front ++ line) :: after)).toList =
        ((String.join before).toList ++ start) ++
          '\n' :: (content ++ '\n' :: (String.join after).toList) := by
    rw [String.join_append, String.join_cons]
    simp [hStart, hBreak]
  have hPiece :
      splitBy (· == '\n') content = [content] := by
    apply splitBy_of_forall
    intro c hc
    rw [beq_eq_false_iff_ne]
    rintro rfl
    exact hContent hc
  have hString : line = String.ofList (content ++ ['\n']) := by
    rw [← hBreak, String.ofList_toList]
  unfold fileLines
  rw [hWhole, splitBy_append rfl, splitBy_append rfl, hPiece,
    List.dropLast_append_of_ne_nil (by simp),
    List.dropLast_append_of_ne_nil (splitBy_ne_nil _)]
  simp [hString]

/- The lines of a description hold no line break. -/
theorem oneLine_of_mem_lines
    {text line : String}
    (hLine : line ∈ lines text) :
    OneLine line := by
  rcases List.mem_map.mp hLine with ⟨piece, hPiece, rfl⟩
  have hMem : piece ∈ splitBy (· == '\n') text.toList := by
    split at hPiece
    · exact List.dropLast_subset _ hPiece
    · exact hPiece
  unfold OneLine trimEnd
  rw [String.toList_ofList, List.mem_reverse]
  intro hBreak
  have hKept := isSeparator_eq_false_of_mem_splitBy hMem
    (List.mem_reverse.mp
      ((List.dropWhile_sublist _).subset hBreak))
  simp at hKept

/- The lines of a description that may be missing. -/
theorem oneLine_of_mem_getD
    {text : Option String}
    {line : String}
    (hLine : line ∈ (text.map lines).getD []) :
    OneLine line := by
  cases text with
  | none => cases hLine
  | some text => exact oneLine_of_mem_lines hLine

end RamlScaffold.Text
