import RamlScaffold.Proofs.Text.Pieces

/-
  White space around a text, and what trimming leaves of it.

  A text with anything but white space in it is cut at its
  last such character; most facts about trimmed texts are
  derived from that.

  Main declarations:
    * `Text.IsBlank`
    * `Text.trim_append_cons`
    * `Text.exists_last_of_not_isBlank`
    * `Text.trim_blanks_append`, `Text.trim_append_blanks`
    * `Text.exists_blanks_around_trim`
    * `Text.trim_of_forall`
    * `Text.mem_trim_iff`
    * `Text.words_trim`
-/

------------------------------------------------------------
-- White Space In Front
------------------------------------------------------------

namespace RamlScaffold.Text

/- A text of white space only. -/
def IsBlank (text : List Char) : Prop :=
  ∀ c ∈ text, Alphabet.isBlank c = true

instance (text : List Char) : Decidable (IsBlank text) :=
  decidable_of_iff (text.all Alphabet.isBlank = true)
    List.all_eq_true

theorem IsBlank.append
    {first second : List Char}
    (hFirst : IsBlank first)
    (hSecond : IsBlank second) :
    IsBlank (first ++ second) := by
  intro c hc
  rcases List.mem_append.mp hc with hc | hc
  · exact hFirst c hc
  · exact hSecond c hc

theorem trimStart_blanks_append
    {before : List Char}
    (hBefore : IsBlank before)
    (text : List Char) :
    trimStart (before ++ text) = trimStart text :=
  List.dropWhile_append_of_pos hBefore

/- No white space is dropped behind another character. -/
theorem trimStart_append_cons
    {c : Char}
    (hc : Alphabet.isBlank c = false)
    (front rest : List Char) :
    trimStart (front ++ c :: rest) =
      trimStart front ++ c :: rest := by
  unfold trimStart
  rw [List.dropWhile_append]
  split
  · next hEmpty =>
      rw [List.isEmpty_iff.mp hEmpty, List.dropWhile_cons]
      simp [hc]
  · rfl

/- What is dropped in front is white space. -/
theorem exists_blanks_append_trimStart (text : List Char) :
    ∃ before, IsBlank before ∧ text = before ++ trimStart text :=
  ⟨text.takeWhile Alphabet.isBlank,
    List.all_eq_true.mp List.all_takeWhile,
    List.takeWhile_append_dropWhile.symm⟩

theorem trimStart_trimStart (text : List Char) :
    trimStart (trimStart text) = trimStart text := by
  rcases exists_blanks_append_trimStart text with
    ⟨before, hBefore, hSplit⟩
  calc
    trimStart (trimStart text) =
        trimStart (before ++ trimStart text) :=
      (trimStart_blanks_append hBefore _).symm
    _ = trimStart text := by rw [← hSplit]

end RamlScaffold.Text

------------------------------------------------------------
-- Trimmed Texts
------------------------------------------------------------

namespace RamlScaffold.Text

/-
  Trimming cuts a text behind its last character that is no
  white space.
-/
theorem trim_append_cons
    {c : Char}
    (hc : Alphabet.isBlank c = false)
    (front : List Char)
    {after : List Char}
    (hAfter : IsBlank after) :
    trim (front ++ c :: after) = trimStart front ++ [c] := by
  have hReverse : IsBlank after.reverse :=
    fun d hd => hAfter d (List.mem_reverse.mp hd)
  unfold trim trimEnd
  rw [trimStart_append_cons hc, List.reverse_append,
    List.reverse_cons, List.append_assoc,
    List.dropWhile_append_of_pos hReverse]
  simp [hc]

theorem trim_of_isBlank
    {text : List Char}
    (hText : IsBlank text) :
    trim text = [] := by
  have hStart := trimStart_blanks_append hText []
  rw [List.append_nil] at hStart
  unfold trim
  rw [hStart]
  rfl

/- A text that is not blank has a last character that counts. -/
theorem exists_last_of_not_isBlank
    {text : List Char}
    (hText : ¬ IsBlank text) :
    ∃ front c after,
      text = front ++ c :: after ∧
        Alphabet.isBlank c = false ∧ IsBlank after := by
  induction text with
  | nil => exact absurd (fun _ hc => by cases hc) hText
  | cons first rest ih =>
      by_cases hRest : IsBlank rest
      · refine ⟨[], first, rest, rfl, ?_, hRest⟩
        rw [Bool.eq_false_iff]
        intro hFirst
        apply hText
        intro c hc
        rcases List.mem_cons.mp hc with rfl | hc
        · exact hFirst
        · exact hRest c hc
      · rcases ih hRest with ⟨front, c, after, rfl, hc, hAfter⟩
        exact ⟨first :: front, c, after, rfl, hc, hAfter⟩

/- A text that is not blank has a first one, too. -/
theorem exists_first_of_not_isBlank
    {text : List Char}
    (hText : ¬ IsBlank text) :
    ∃ c rest, trimStart text = c :: rest ∧ c ∈ text := by
  cases hStart : trimStart text with
  | nil =>
      rcases exists_blanks_append_trimStart text with
        ⟨before, hBefore, hSplit⟩
      rw [hStart, List.append_nil] at hSplit
      exact absurd (hSplit ▸ hBefore) hText
  | cons c rest =>
      refine ⟨c, rest, rfl, ?_⟩
      apply (List.dropWhile_sublist Alphabet.isBlank).subset
      unfold trimStart at hStart
      rw [hStart]
      exact List.mem_cons_self

theorem trim_blanks_append
    {before : List Char}
    (hBefore : IsBlank before)
    (text : List Char) :
    trim (before ++ text) = trim text := by
  unfold trim
  rw [trimStart_blanks_append hBefore]

theorem trim_append_blanks
    (text : List Char)
    {after : List Char}
    (hAfter : IsBlank after) :
    trim (text ++ after) = trim text := by
  by_cases hText : IsBlank text
  · rw [trim_of_isBlank hText,
      trim_of_isBlank (hText.append hAfter)]
  · rcases exists_last_of_not_isBlank hText with
      ⟨front, c, blanks, rfl, hc, hBlanks⟩
    rw [List.append_assoc, List.cons_append,
      trim_append_cons hc front (hBlanks.append hAfter),
      trim_append_cons hc front hBlanks]

theorem trim_trimStart (text : List Char) :
    trim (trimStart text) = trim text := by
  unfold trim
  rw [trimStart_trimStart]

/- What trimming takes away on both sides is white space. -/
theorem exists_blanks_around_trim (text : List Char) :
    ∃ before after,
      IsBlank before ∧ IsBlank after ∧
        text = before ++ trim text ++ after := by
  by_cases hText : IsBlank text
  · exact ⟨text, [], hText, by decide,
      by rw [trim_of_isBlank hText]; simp⟩
  · rcases exists_last_of_not_isBlank hText with
      ⟨front, c, after, rfl, hc, hAfter⟩
    rcases exists_blanks_append_trimStart front with
      ⟨before, hBefore, hFront⟩
    refine ⟨before, after, hBefore, hAfter, ?_⟩
    rw [trim_append_cons hc front hAfter]
    conv => lhs; rw [hFront]
    simp

theorem trim_trim (text : List Char) :
    trim (trim text) = trim text := by
  rcases exists_blanks_around_trim text with
    ⟨before, after, hBefore, hAfter, hSplit⟩
  conv => rhs; rw [hSplit]
  rw [trim_append_blanks _ hAfter, trim_blanks_append hBefore]

/- Without white space there is nothing to trim. -/
theorem trim_of_forall
    {text : List Char}
    (hText : ∀ c ∈ text, Alphabet.isBlank c = false) :
    trim text = text := by
  have hNone {blanks : List Char}
      (hBlanks : IsBlank blanks)
      (hPart : ∀ c ∈ blanks, c ∈ text) :
      blanks = [] := by
    rw [List.eq_nil_iff_forall_not_mem]
    intro c hMem
    have hBlank := hText c (hPart c hMem)
    rw [hBlanks c hMem] at hBlank
    cases hBlank
  rcases exists_blanks_around_trim text with
    ⟨before, after, hBefore, hAfter, hSplit⟩
  have hFront : before = [] := by
    refine hNone hBefore ?_
    intro c hMem
    rw [hSplit]
    simp [hMem]
  have hBack : after = [] := by
    refine hNone hAfter ?_
    intro c hMem
    rw [hSplit]
    simp [hMem]
  rw [hFront, hBack, List.nil_append, List.append_nil] at hSplit
  exact hSplit.symm

/- Trimming keeps every character that is no white space. -/
theorem mem_trim_iff
    {c : Char}
    (hc : Alphabet.isBlank c = false)
    (text : List Char) :
    c ∈ trim text ↔ c ∈ text := by
  have hFree {blanks : List Char} (hBlanks : IsBlank blanks) :
      c ∉ blanks := by
    intro hMem
    rw [hBlanks c hMem] at hc
    cases hc
  rcases exists_blanks_around_trim text with
    ⟨before, after, hBefore, hAfter, hSplit⟩
  conv => rhs; rw [hSplit]
  simp [hFree hBefore, hFree hAfter]

/- A trimmed text does not end in white space. -/
theorem isBlank_eq_false_of_getLast?_trim
    {text : List Char}
    {c : Char}
    (hLast : (trim text).getLast? = some c) :
    Alphabet.isBlank c = false := by
  by_cases hText : IsBlank text
  · rw [trim_of_isBlank hText] at hLast
    cases hLast
  · rcases exists_last_of_not_isBlank hText with
      ⟨front, d, after, rfl, hd, hAfter⟩
    rw [trim_append_cons hd front hAfter,
      List.getLast?_concat] at hLast
    cases hLast
    exact hd

/- Neither does it start with white space. -/
theorem isBlank_eq_false_of_head?_trim
    {text : List Char}
    {c : Char}
    (hFirst : (trim text).head? = some c) :
    Alphabet.isBlank c = false := by
  by_cases hText : IsBlank text
  · rw [trim_of_isBlank hText] at hFirst
    cases hFirst
  · rcases exists_last_of_not_isBlank hText with
      ⟨front, d, after, rfl, hd, hAfter⟩
    have hStart := List.head?_dropWhile_not Alphabet.isBlank front
    rw [trim_append_cons hd front hAfter, List.head?_append]
      at hFirst
    unfold trimStart at hFirst
    cases hHead : (front.dropWhile Alphabet.isBlank).head? with
    | none =>
        rw [hHead] at hFirst
        cases hFirst
        exact hd
    | some first =>
        rw [hHead] at hFirst hStart
        cases hFirst
        exact hStart

end RamlScaffold.Text

------------------------------------------------------------
-- White Space And Words
------------------------------------------------------------

namespace RamlScaffold.Alphabet

/- The code points of white space. -/
def blankCodes : List Nat :=
  [0x09, 0x0A, 0x0B, 0x0C, 0x0D, 0x20, 0x85, 0xA0, 0x1680,
    0x2000, 0x2001, 0x2002, 0x2003, 0x2004, 0x2005, 0x2006,
    0x2007, 0x2008, 0x2009, 0x200A, 0x2028, 0x2029, 0x202F,
    0x205F, 0x3000]

theorem toNat_mem_blankCodes
    {c : Char}
    (hBlank : isBlank c = true) :
    c.toNat ∈ blankCodes := by
  simp only [isBlank, Bool.or_eq_true, Bool.and_eq_true,
    decide_eq_true_eq, beq_iff_eq] at hBlank
  simp only [blankCodes, List.mem_cons, List.not_mem_nil,
    or_false]
  omega

theorem blankCodes_not_isAlphanumeric :
    ∀ n ∈ blankCodes, isAlphanumeric (Char.ofNat n) = false := by
  decide +kernel

/- White space is no part of a word. -/
theorem isAlphanumeric_eq_false_of_isBlank
    {c : Char}
    (hBlank : isBlank c = true) :
    isAlphanumeric c = false := by
  have hTried :=
    blankCodes_not_isAlphanumeric _ (toNat_mem_blankCodes hBlank)
  rw [Char.ofNat_toNat] at hTried
  exact hTried

end RamlScaffold.Alphabet

namespace RamlScaffold.Text

/- A text has the same words without white space around it. -/
theorem words_trim (text : List Char) :
    words Alphabet.isAlphanumeric (trim text) =
      words Alphabet.isAlphanumeric text := by
  have hParts {blanks : List Char} (hBlanks : IsBlank blanks) :
      ∀ c ∈ blanks, Alphabet.isAlphanumeric c = false :=
    fun c hc =>
      Alphabet.isAlphanumeric_eq_false_of_isBlank (hBlanks c hc)
  rcases exists_blanks_around_trim text with
    ⟨before, after, hBefore, hAfter, hSplit⟩
  conv => rhs; rw [hSplit]
  rw [words_append_separators _ (hParts hAfter),
    words_separators_append (hParts hBefore)]

end RamlScaffold.Text
