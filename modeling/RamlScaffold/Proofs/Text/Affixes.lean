import RamlScaffold.Text.Words

/-
  Reading a text by how it starts and how it ends.

  A text that starts otherwise than asked for is found to by
  the first place where the starts differ.  For starts that
  are written out this is a matter of their characters, which
  the lemmas that end in `ofList` leave over.

  Main declarations:
    * `Text.Starts`, `Text.StartsDiffer`
    * `Text.before?`, `Text.EndsDiffer`
    * `Text.readAfter`
    * `Text.filterMap_flatMap_of_one`
    * `Text.filterMap_map_of_some`
-/

------------------------------------------------------------
-- Starts
------------------------------------------------------------

namespace RamlScaffold.Text

/- Whether a text begins with a start. -/
def Starts (start text : String) : Prop :=
  start.toList <+: text.toList

instance (start text : String) : Decidable (Starts start text) :=
  inferInstanceAs (Decidable (start.toList <+: text.toList))

theorem starts_ofList (start text : List Char) :
    Starts (String.ofList start) (String.ofList text) ↔
      start <+: text := by
  simp [Starts]

@[simp] theorem starts_append_self (start rest : String) :
    Starts start (start ++ rest) := by
  simp [Starts]

theorem starts_append
    {start front : String}
    (hStart : Starts start front)
    (rest : String) :
    Starts start (front ++ rest) := by
  unfold Starts
  rw [String.toList_append]
  exact List.IsPrefix.trans hStart (List.prefix_append _ _)

/- Texts that differ before either of them ends. -/
def StartsDiffer (first second : String) : Prop :=
  ¬ Starts first second ∧ ¬ Starts second first

instance (first second : String) :
    Decidable (StartsDiffer first second) :=
  inferInstanceAs
    (Decidable (¬ Starts first second ∧ ¬ Starts second first))

theorem startsDiffer_ofList (first second : List Char) :
    StartsDiffer (String.ofList first) (String.ofList second) ↔
      ¬ first <+: second ∧ ¬ second <+: first := by
  simp [StartsDiffer, starts_ofList]

theorem StartsDiffer.not_starts_append
    {start front : String}
    (hStarts : StartsDiffer start front)
    (rest : String) :
    ¬ Starts start (front ++ rest) := by
  intro hStart
  have hFront := starts_append_self front rest
  rcases List.prefix_or_prefix_of_prefix hStart hFront with
    hShort | hLong
  · exact hStarts.1 hShort
  · exact hStarts.2 hLong

theorem StartsDiffer.append_ne
    {text front : String}
    (hStarts : StartsDiffer text front)
    (rest : String) :
    front ++ rest ≠ text := by
  intro hSame
  apply hStarts.not_starts_append rest
  rw [hSame]
  exact List.prefix_refl text.toList

end RamlScaffold.Text

------------------------------------------------------------
-- Ends
------------------------------------------------------------

namespace RamlScaffold.Text

/- What stands in front of an end, if the text has it. -/
def before? (stop text : String) : Option String :=
  (stripEnd? stop.toList text.toList).map String.ofList

@[simp] theorem before?_append (stop rest : String) :
    before? stop (rest ++ stop) = some rest := by
  simp [before?, stripEnd?]

/- Texts that differ behind the start of either of them. -/
def EndsDiffer (first second : String) : Prop :=
  ¬ first.toList <:+ second.toList ∧
    ¬ second.toList <:+ first.toList

theorem endsDiffer_ofList (first second : List Char) :
    EndsDiffer (String.ofList first) (String.ofList second) ↔
      ¬ first <:+ second ∧ ¬ second <:+ first := by
  simp [EndsDiffer]

theorem before?_eq_none
    {stop text : String}
    (hStop : ¬ stop.toList <:+ text.toList) :
    before? stop text = none := by
  simpa [before?, stripEnd?] using hStop

theorem EndsDiffer.not_suffix_append
    {stop back : String}
    (hEnds : EndsDiffer stop back)
    (rest : String) :
    ¬ stop.toList <:+ (rest ++ back).toList := by
  intro hStop
  have hBack : back.toList <:+ (rest ++ back).toList := by
    rw [String.toList_append]
    exact List.suffix_append rest.toList back.toList
  rcases List.suffix_or_suffix_of_suffix hStop hBack with
    hShort | hLong
  · exact hEnds.1 hShort
  · exact hEnds.2 hLong

theorem before?_append_of_endsDiffer
    {stop back : String}
    (hEnds : EndsDiffer stop back)
    (rest : String) :
    before? stop (rest ++ back) = none :=
  before?_eq_none (hEnds.not_suffix_append rest)

end RamlScaffold.Text

------------------------------------------------------------
-- Reading Behind A Start
------------------------------------------------------------

namespace RamlScaffold.Text

/- What is read behind a start, if the text has it. -/
def readAfter
    (start : String)
    (read : String → Option String)
    (text : String) : Option String :=
  if Starts start text then
    read (String.ofList (text.toList.drop start.toList.length))
  else none

variable {start : String} {read : String → Option String}

@[simp] theorem readAfter_append (rest : String) :
    readAfter start read (start ++ rest) = read rest := by
  simp [readAfter]

theorem readAfter_of_startsDiffer
    {text : String}
    (hStarts : StartsDiffer start text) :
    readAfter start read text = none :=
  if_neg hStarts.1

theorem readAfter_append_of_startsDiffer
    {front : String}
    (hStarts : StartsDiffer start front)
    (rest : String) :
    readAfter start read (front ++ rest) = none :=
  if_neg (hStarts.not_starts_append rest)

/- A text with another end is not read to that end. -/
theorem readAfter_before?_of_not_suffix
    {stop text : String}
    (hStop : ¬ stop.toList <:+ text.toList) :
    readAfter start (before? stop) text = none := by
  unfold readAfter
  split
  · apply before?_eq_none
    rw [String.toList_ofList]
    intro hRest
    exact hStop (hRest.trans (List.drop_suffix _ _))
  · rfl

theorem readAfter_append_of_endsDiffer
    {stop back : String}
    (hEnds : EndsDiffer stop back)
    (rest : String) :
    readAfter start (before? stop) (rest ++ back) = none :=
  readAfter_before?_of_not_suffix (hEnds.not_suffix_append rest)

end RamlScaffold.Text

------------------------------------------------------------
-- Reading Groups Of Lines
------------------------------------------------------------

namespace RamlScaffold.Text

variable {α : Type} {read : String → Option String}
variable {group : α → List String} {line name : α → String}

/- What is read off groups of which each tells one thing. -/
theorem filterMap_flatMap_of_one
    {items : List α}
    (hGroup :
      ∀ item ∈ items,
        (group item).filterMap read = [name item]) :
    (items.flatMap group).filterMap read = items.map name := by
  rw [List.filterMap_flatMap, List.map_eq_flatMap,
    List.flatMap_def, List.flatMap_def,
    List.map_congr_left hGroup]

theorem filterMap_flatMap_of_none
    (hGroup : ∀ item, (group item).filterMap read = [])
    (items : List α) :
    (items.flatMap group).filterMap read = [] := by
  simp [List.filterMap_flatMap, hGroup, List.flatMap_eq_nil_iff]

/- What is read off lines of which each tells one thing. -/
theorem filterMap_map_of_some
    (hLine : ∀ item, read (line item) = some (name item))
    (items : List α) :
    (items.map line).filterMap read = items.map name := by
  induction items with
  | nil => rfl
  | cons item items ih =>
      rw [List.map_cons, List.filterMap_cons_some (hLine item),
        ih, List.map_cons]

theorem filterMap_map_of_none
    (hLine : ∀ item, read (line item) = none)
    (items : List α) :
    (items.map line).filterMap read = [] := by
  simp [hLine]

end RamlScaffold.Text
