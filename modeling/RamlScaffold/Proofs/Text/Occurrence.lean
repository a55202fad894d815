import RamlScaffold.Text.Words

/-
  Words that occur somewhere in a text.

  A word that occurs in two texts in a row occurs in one of
  them, unless its letters stand on both sides of the place
  where the texts meet.

  Main declarations:
    * `Text.Occurs`
    * `Text.EndsOutside`, `Text.StartsOutside`
    * `Text.occurs_append_iff_of_ends`
    * `Text.occurs_append_iff_of_starts`
    * `Text.infix_of_infix_replaceAll`
-/

------------------------------------------------------------
-- Occurrences
------------------------------------------------------------

namespace RamlScaffold.Text

/- Whether a word occurs in a text. -/
def Occurs (word text : String) : Prop :=
  word.toList <:+: text.toList

/- A word with a character that a text lacks is not in it. -/
theorem not_occurs_of_not_mem
    {word text : String}
    {c : Char}
    (hWord : c ∈ word.toList)
    (hText : c ∉ text.toList) :
    ¬ Occurs word text :=
  fun hOccurs => hText (hOccurs.subset hWord)

end RamlScaffold.Text

------------------------------------------------------------
-- Texts In A Row
------------------------------------------------------------

namespace RamlScaffold.Text

/- Whether a text ends in none of some characters. -/
def EndsOutside (letters : List Char) (text : String) : Prop :=
  ∃ c ∈ text.toList.getLast?, c ∉ letters

/- Whether a text starts with none of some characters. -/
def StartsOutside (letters : List Char) (text : String) : Prop :=
  ∃ c ∈ text.toList.head?, c ∉ letters

theorem endsOutside_ofList (letters text : List Char) :
    EndsOutside letters (String.ofList text) ↔
      text.getLast?.any (fun c => c ∉ letters) = true := by
  simp [EndsOutside, Option.any_eq_true]

theorem startsOutside_ofList (letters text : List Char) :
    StartsOutside letters (String.ofList text) ↔
      text.head?.any (fun c => c ∉ letters) = true := by
  simp [StartsOutside, Option.any_eq_true]

theorem startsOutside_append
    {letters : List Char}
    {front : String}
    (hFront : StartsOutside letters front)
    (back : String) :
    StartsOutside letters (front ++ back) := by
  rcases hFront with ⟨c, hHead, hOutside⟩
  refine ⟨c, ?_, hOutside⟩
  rw [String.toList_append, List.head?_append, hHead]
  rfl

/-
  A word that is cut at the end of a text has a letter there
  that is not its last.
-/
theorem infix_append_iff_of_not_mem_dropLast
    {word : List Char}
    {c : Char}
    (hLetter : c ∉ word.dropLast)
    (front rest : List Char) :
    word <:+: front ++ [c] ++ rest ↔
      word <:+: front ++ [c] ∨ word <:+: rest := by
  rw [List.infix_append_iff]
  constructor
  · rintro (hWord | hWord | ⟨start, stop, rfl, hStart, hStop⟩)
    · exact Or.inl hWord
    · exact Or.inr hWord
    · rcases List.suffix_concat_iff.mp hStart with
        rfl | ⟨before, rfl, -⟩
      · exact Or.inr hStop.isInfix
      · cases stop with
        | nil =>
            rw [List.append_nil]
            exact Or.inl hStart.isInfix
        | cons d after =>
            apply absurd _ hLetter
            rw [List.dropLast_append_of_ne_nil
              (List.cons_ne_nil d after)]
            simp
  · rintro (hWord | hWord)
    · exact Or.inl hWord
    · exact Or.inr (Or.inl hWord)

/- Likewise a letter that is not its first. -/
theorem infix_append_cons_iff_of_not_mem_tail
    {word : List Char}
    {c : Char}
    (hLetter : c ∉ word.tail)
    (front rest : List Char) :
    word <:+: front ++ c :: rest ↔
      word <:+: front ∨ word <:+: c :: rest := by
  rw [List.infix_append_iff]
  constructor
  · rintro (hWord | hWord | ⟨start, stop, rfl, hStart, hStop⟩)
    · exact Or.inl hWord
    · exact Or.inr hWord
    · rcases List.prefix_cons_iff.mp hStop with
        rfl | ⟨after, rfl, -⟩
      · rw [List.append_nil]
        exact Or.inl hStart.isInfix
      · cases start with
        | nil => exact Or.inr hStop.isInfix
        | cons d before =>
            apply absurd _ hLetter
            simp
  · rintro (hWord | hWord)
    · exact Or.inl hWord
    · exact Or.inr (Or.inl hWord)

variable {letters : List Char} {word : String}

theorem occurs_append_iff_of_ends
    (hLetters : ∀ c ∈ word.toList.dropLast, c ∈ letters)
    {first : String}
    (hFirst : EndsOutside letters first)
    (second : String) :
    Occurs word (first ++ second) ↔
      Occurs word first ∨ Occurs word second := by
  rcases hFirst with ⟨c, hLast, hOutside⟩
  rcases List.getLast?_eq_some_iff.mp hLast with ⟨front, hText⟩
  unfold Occurs
  rw [String.toList_append, hText]
  exact infix_append_iff_of_not_mem_dropLast
    (fun hMem => hOutside (hLetters c hMem)) front _

theorem occurs_append_iff_of_starts
    (hLetters : ∀ c ∈ word.toList.tail, c ∈ letters)
    (first : String)
    {second : String}
    (hSecond : StartsOutside letters second) :
    Occurs word (first ++ second) ↔
      Occurs word first ∨ Occurs word second := by
  rcases hSecond with ⟨c, hHead, hOutside⟩
  rcases List.head?_eq_some_iff.mp hHead with ⟨rest, hText⟩
  unfold Occurs
  rw [String.toList_append, hText]
  exact infix_append_cons_iff_of_not_mem_tail
    (fun hMem => hOutside (hLetters c hMem)) _ rest

end RamlScaffold.Text

------------------------------------------------------------
-- Replacement
------------------------------------------------------------

namespace RamlScaffold.Text

variable {pattern replacement word : List Char}

/- A word apart from a text in front does not begin in it. -/
theorem infix_of_infix_append
    {front rest : List Char}
    (hApart : ∀ c ∈ front, c ∉ word)
    (hWord : word <:+: front ++ rest) :
    word <:+: rest := by
  induction front with
  | nil => exact hWord
  | cons c front ih =>
      have hRest := ih
        (fun d hd => hApart d (List.mem_cons_of_mem c hd))
      rcases List.infix_cons_iff.mp hWord with hStart | hLater
      · rcases List.prefix_cons_iff.mp hStart with
          rfl | ⟨after, rfl, -⟩
        · exact List.nil_infix
        · exact absurd List.mem_cons_self
            (hApart c List.mem_cons_self)
      · exact hRest hLater

variable (hApart : ∀ c ∈ replacement, c ∉ word)
variable (hNonempty : replacement ≠ [])
include hApart hNonempty

/- A word apart from the replacement is kept at the start. -/
theorem prefix_of_prefix_replaceFrom
    {text : List Char}
    (hWord : word <+: replaceFrom pattern replacement 0 text) :
    word <+: text := by
  induction text generalizing word with
  | nil => exact hWord
  | cons c rest ih =>
      rw [replaceFrom] at hWord
      split at hWord
      · rcases List.exists_cons_of_ne_nil hNonempty with
          ⟨first, others, rfl⟩
        rcases List.prefix_cons_iff.mp hWord with
          rfl | ⟨after, rfl, -⟩
        · exact List.nil_prefix
        · exact absurd List.mem_cons_self
            (hApart first List.mem_cons_self)
      · rcases List.prefix_cons_iff.mp hWord with
          rfl | ⟨after, rfl, hAfter⟩
        · exact List.nil_prefix
        · have hRest := ih
            (fun d hd hMem =>
              hApart d hd (List.mem_cons_of_mem c hMem))
            hAfter
          exact (List.prefix_cons_inj c).mpr hRest

theorem infix_of_infix_replaceFrom
    {skip : Nat}
    {text : List Char}
    (hWord :
      word <:+: replaceFrom pattern replacement skip text) :
    word <:+: text := by
  induction text generalizing skip with
  | nil => cases skip <;> exact hWord
  | cons c rest ih =>
      cases skip with
      | succ skip => exact List.infix_cons (ih hWord)
      | zero =>
          rw [replaceFrom] at hWord
          split at hWord
          · have hRest := infix_of_infix_append hApart hWord
            exact List.infix_cons (ih hRest)
          · next hOther =>
              rcases List.infix_cons_iff.mp hWord with
                hStart | hLater
              · have hKept :
                    word <+:
                      replaceFrom pattern replacement 0
                        (c :: rest) := by
                  rw [replaceFrom, if_neg hOther]
                  exact hStart
                exact
                  (prefix_of_prefix_replaceFrom hApart hNonempty
                    hKept).isInfix
              · exact List.infix_cons (ih hLater)

/- Replacing brings no occurrence of such a word. -/
theorem infix_of_infix_replaceAll
    {text : List Char}
    (hWord : word <:+: replaceAll pattern replacement text) :
    word <:+: text :=
  infix_of_infix_replaceFrom hApart hNonempty hWord

end RamlScaffold.Text
