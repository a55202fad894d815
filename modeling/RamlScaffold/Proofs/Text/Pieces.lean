import RamlScaffold.Text.Words

/-
  The pieces and the words of a text.

  Main declarations:
    * `Text.splitBy_append`, `Text.splitBy_of_forall`
    * `Text.isWordChar_of_mem_words`, `Text.mem_of_mem_words`
    * `Text.words_of_forall`, `Text.words_append_cons`
    * `Text.words_separators_append`
    * `Text.words_append_separators`
    * `Text.words_eq_nil_iff`, `Text.find?_of_words`
-/

------------------------------------------------------------
-- Pieces
------------------------------------------------------------

namespace RamlScaffold.Text

variable {isSeparator : Char → Bool}

theorem splitBy_ne_nil (text : List Char) :
    splitBy isSeparator text ≠ [] := by
  cases text with
  | nil => simp [splitBy]
  | cons c rest =>
      rw [splitBy]
      split
      · simp
      · split
        · simp
        · simp

/- A text without separators is one piece. -/
theorem splitBy_of_forall
    {text : List Char}
    (hText : ∀ c ∈ text, isSeparator c = false) :
    splitBy isSeparator text = [text] := by
  induction text with
  | nil => rfl
  | cons c rest ih =>
      have hRest := ih
        (fun d hd => hText d (List.mem_cons_of_mem c hd))
      simp [splitBy, hRest, hText c List.mem_cons_self]

/- A separator parts the pieces before it from those after. -/
theorem splitBy_append
    {separator : Char}
    (hSeparator : isSeparator separator = true)
    (before after : List Char) :
    splitBy isSeparator (before ++ separator :: after) =
      splitBy isSeparator before ++
        splitBy isSeparator after := by
  induction before with
  | nil => simp [splitBy, hSeparator]
  | cons c rest ih =>
      rw [List.cons_append, splitBy, splitBy, ih]
      by_cases hc : isSeparator c = true
      · simp [hc]
      · cases hRest : splitBy isSeparator rest with
        | nil => exact absurd hRest (splitBy_ne_nil rest)
        | cons piece pieces => simp [hc]

theorem isSeparator_eq_false_of_mem_splitBy
    {text piece : List Char}
    (hPiece : piece ∈ splitBy isSeparator text)
    {c : Char}
    (hMem : c ∈ piece) :
    isSeparator c = false := by
  induction text generalizing piece with
  | nil =>
      rw [splitBy, List.mem_singleton] at hPiece
      rw [hPiece] at hMem
      cases hMem
  | cons first rest ih =>
      rw [splitBy] at hPiece
      by_cases hFirst : isSeparator first = true
      · rw [if_pos hFirst, List.mem_cons] at hPiece
        rcases hPiece with rfl | hPiece
        · cases hMem
        · exact ih hPiece hMem
      · rw [if_neg hFirst] at hPiece
        cases hRest : splitBy isSeparator rest with
        | nil => exact absurd hRest (splitBy_ne_nil rest)
        | cons head pieces =>
            simp only [hRest, List.mem_cons] at hPiece
            rw [hRest] at ih
            rcases hPiece with rfl | hPiece
            · rcases List.mem_cons.mp hMem with rfl | hMem
              · simpa using hFirst
              · exact ih List.mem_cons_self hMem
            · exact ih (List.mem_cons_of_mem head hPiece) hMem

/- The pieces of a text hold its characters. -/
theorem mem_of_mem_splitBy
    {text piece : List Char}
    (hPiece : piece ∈ splitBy isSeparator text)
    {c : Char}
    (hMem : c ∈ piece) :
    c ∈ text := by
  induction text generalizing piece with
  | nil =>
      rw [splitBy, List.mem_singleton] at hPiece
      rw [hPiece] at hMem
      exact hMem
  | cons first rest ih =>
      rw [splitBy] at hPiece
      split at hPiece
      · rcases List.mem_cons.mp hPiece with rfl | hPiece
        · cases hMem
        · exact List.mem_cons_of_mem first (ih hPiece hMem)
      · split at hPiece
        · rw [List.mem_singleton.mp hPiece] at hMem
          rw [List.mem_singleton.mp hMem]
          exact List.mem_cons_self
        · next head pieces hRest =>
            rw [hRest] at ih
            rcases List.mem_cons.mp hPiece with rfl | hPiece
            · rcases List.mem_cons.mp hMem with rfl | hMem
              · exact List.mem_cons_self
              · exact List.mem_cons_of_mem first
                  (ih List.mem_cons_self hMem)
            · exact List.mem_cons_of_mem first
                (ih (List.mem_cons_of_mem head hPiece) hMem)

end RamlScaffold.Text

------------------------------------------------------------
-- Words
------------------------------------------------------------

namespace RamlScaffold.Text

theorem isWordChar_of_mem_words
    {isWordChar : Char → Bool}
    {text word : List Char}
    (hWord : word ∈ words isWordChar text)
    {c : Char}
    (hMem : c ∈ word) :
    isWordChar c = true := by
  have hPiece := (List.mem_filter.mp hWord).1
  have hKept := isSeparator_eq_false_of_mem_splitBy hPiece hMem
  simpa using hKept

/- The words of a text hold its characters. -/
theorem mem_of_mem_words
    {isWordChar : Char → Bool}
    {text word : List Char}
    (hWord : word ∈ words isWordChar text)
    {c : Char}
    (hMem : c ∈ word) :
    c ∈ text :=
  mem_of_mem_splitBy (List.mem_filter.mp hWord).1 hMem

theorem ne_nil_of_mem_words
    {isWordChar : Char → Bool}
    {text word : List Char}
    (hWord : word ∈ words isWordChar text) :
    word ≠ [] := by
  have hKept := (List.mem_filter.mp hWord).2
  simpa using hKept

/- A separator parts the words before it from those after. -/
theorem words_append_cons
    {isWordChar : Char → Bool}
    {separator : Char}
    (hSeparator : isWordChar separator = false)
    (before after : List Char) :
    words isWordChar (before ++ separator :: after) =
      words isWordChar before ++ words isWordChar after := by
  unfold words
  rw [splitBy_append (by simp [hSeparator]), List.filter_append]

/- A text of word characters is one word. -/
theorem words_of_forall
    {isWordChar : Char → Bool}
    {text : List Char}
    (hSome : text ≠ [])
    (hText : ∀ c ∈ text, isWordChar c = true) :
    words isWordChar text = [text] := by
  have hPieces :
      splitBy (fun c => !isWordChar c) text = [text] := by
    apply splitBy_of_forall
    intro c hMem
    rw [hText c hMem]
    rfl
  rw [words, hPieces, List.filter_cons_of_pos]
  · rfl
  · simpa using hSome

/- Separators in front of a text add no word. -/
theorem words_separators_append
    {isWordChar : Char → Bool}
    {before : List Char}
    (hBefore : ∀ c ∈ before, isWordChar c = false)
    (text : List Char) :
    words isWordChar (before ++ text) = words isWordChar text := by
  induction before with
  | nil => rfl
  | cons c before ih =>
      have hRest := ih
        (fun d hd => hBefore d (List.mem_cons_of_mem c hd))
      rw [← hRest]
      simp [words, splitBy, hBefore c List.mem_cons_self]

theorem words_of_separators
    {isWordChar : Char → Bool}
    {text : List Char}
    (hText : ∀ c ∈ text, isWordChar c = false) :
    words isWordChar text = [] := by
  have hWords := words_separators_append hText []
  rw [List.append_nil] at hWords
  rw [hWords]
  rfl

/- Separators at the end of a text add no word. -/
theorem words_append_separators
    {isWordChar : Char → Bool}
    (text : List Char)
    {after : List Char}
    (hAfter : ∀ c ∈ after, isWordChar c = false) :
    words isWordChar (text ++ after) = words isWordChar text := by
  cases after with
  | nil => rw [List.append_nil]
  | cons c after =>
      rw [words_append_cons (hAfter c List.mem_cons_self),
        words_of_separators
          (fun d hd => hAfter d (List.mem_cons_of_mem c hd)),
        List.append_nil]

/- A character that a word may hold starts one. -/
theorem words_cons
    {isWordChar : Char → Bool}
    {c : Char}
    (hWord : isWordChar c = true)
    (rest : List Char) :
    ∃ letters others,
      words isWordChar (c :: rest) =
        (c :: letters) :: others := by
  unfold words
  rw [splitBy, if_neg (by simp [hWord])]
  split
  · exact ⟨[], [], rfl⟩
  · next piece pieces _ =>
      exact
        ⟨piece, pieces.filter (fun word => !word.isEmpty), rfl⟩

theorem words_cons_of_separator
    {isWordChar : Char → Bool}
    {c : Char}
    (hSeparator : isWordChar c = false)
    (rest : List Char) :
    words isWordChar (c :: rest) = words isWordChar rest :=
  words_append_cons hSeparator [] rest

/- There are no words only where no character belongs to one. -/
theorem words_eq_nil_iff
    (isWordChar : Char → Bool)
    (text : List Char) :
    words isWordChar text = [] ↔
      text.find? isWordChar = none := by
  induction text with
  | nil => exact ⟨fun _ => rfl, fun _ => rfl⟩
  | cons c rest ih =>
      cases hc : isWordChar c with
      | true =>
          rcases words_cons hc rest with ⟨letters, others, hWords⟩
          rw [hWords, List.find?_cons_of_pos hc]
          simp
      | false =>
          rw [words_cons_of_separator hc,
            List.find?_cons_of_neg (by simp [hc]), ih]

/- The first word starts with the first such character. -/
theorem find?_of_words
    {isWordChar : Char → Bool}
    {text letters : List Char}
    {c : Char}
    {others : List (List Char)}
    (hWords :
      words isWordChar text = (c :: letters) :: others) :
    text.find? isWordChar = some c := by
  induction text with
  | nil => cases hWords
  | cons d rest ih =>
      cases hd : isWordChar d with
      | true =>
          rcases words_cons hd rest with ⟨letters, others, hFirst⟩
          rw [hFirst] at hWords
          rw [List.find?_cons_of_pos hd,
            (List.cons.inj (List.cons.inj hWords).1).1]
      | false =>
          rw [words_cons_of_separator hd] at hWords
          rw [List.find?_cons_of_neg (by simp [hd]), ih hWords]

end RamlScaffold.Text
