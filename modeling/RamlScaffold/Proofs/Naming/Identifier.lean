import RamlScaffold.Api.Verb
import RamlScaffold.Naming
import RamlScaffold.Proofs.Text.Pieces
import RamlScaffold.Proofs.Text.Signs

/-
  Which characters identifiers and file stems are made of, and
  how the name of a verb ends an identifier.

  Main declarations:
    * `Naming.typeIdentifier_ne_empty`
    * `Naming.HasWord`
    * `Naming.normalize_title`
    * `Naming.MarkFree`, `Naming.markFree_normalize`
    * `Naming.SignFree`
    * `Naming.signFree_normalize`, `Naming.signFree_fileStem`
    * `Naming.not_mem_snakeCase`
    * `Naming.getLast?_snakeCase`
-/

------------------------------------------------------------
-- Empty Identifiers
------------------------------------------------------------

namespace RamlScaffold.Naming

/- A path without words still has the identifier of the root. -/
theorem pathIdentifier_ne_nil (path : List Char) :
    pathIdentifier path ≠ [] := by
  unfold pathIdentifier
  split
  · exact List.cons_ne_nil _ _
  · split
    · exact List.cons_ne_nil _ _
    · exact List.cons_ne_nil _ _

theorem typeIdentifier_ne_empty (name : String) :
    typeIdentifier name ≠ "" := by
  intro hEmpty
  unfold typeIdentifier normalize at hEmpty
  simp only [List.append_nil, String.ofList_eq_empty_iff]
    at hEmpty
  exact pathIdentifier_ne_nil name.toList hEmpty

end RamlScaffold.Naming

------------------------------------------------------------
-- Texts With Words
------------------------------------------------------------

namespace RamlScaffold.Naming

/- Whether a text has a letter or a numeral. -/
def HasWord (text : String) : Prop :=
  ∃ c ∈ text.toList, Alphabet.isAlphanumeric c = true

instance (text : String) : Decidable (HasWord text) :=
  decidable_of_iff
    (text.toList.any Alphabet.isAlphanumeric = true)
    List.any_eq_true

theorem not_hasWord_iff (text : String) :
    ¬HasWord text ↔
      ∀ c ∈ text.toList, Alphabet.isAlphanumeric c = false := by
  simp [HasWord]

end RamlScaffold.Naming

------------------------------------------------------------
-- Verbs In Identifiers
------------------------------------------------------------

namespace RamlScaffold.Naming

/- The name of a verb is a word in title form. -/
theorem joinedWords_title (verb : Verb) :
    joinedWords verb.title.toList = verb.title.toList := by
  cases verb <;> rfl

/- A verb is put at the end of the identifier of its path. -/
theorem normalize_title
    (path : String)
    (verb : Verb) :
    normalize path (some verb.title) =
      normalize path none ++ verb.title := by
  unfold normalize
  simp only [joinedWords_title, List.append_nil,
    String.ofList_append, String.ofList_toList]

end RamlScaffold.Naming

------------------------------------------------------------
-- Identifiers Without Marks
------------------------------------------------------------

namespace RamlScaffold.Naming

open RamlScaffold.Alphabet

section

variable {mark : Char} (hMark : mark ∈ marks)
include hMark

theorem not_mem_titleCase
    {word : List Char}
    (hWord : ∀ c ∈ word, isAlphanumeric c = true) :
    mark ∉ titleCase word := by
  intro hMem
  cases word with
  | nil => cases hMem
  | cons first rest =>
      rw [titleCase, List.mem_append] at hMem
      rcases hMem with hUpper | hRest
      · have hFirst := hWord first List.mem_cons_self
        exact ne_of_mem_upper hMark
          (ne_of_isAlphanumeric hMark hFirst) hUpper rfl
      · have hLetter :=
          hWord mark (List.mem_cons_of_mem first hRest)
        exact ne_of_isAlphanumeric hMark hLetter rfl

theorem not_mem_joinedWords (text : List Char) :
    mark ∉ joinedWords text := by
  intro hMem
  rcases List.mem_flatMap.mp hMem with ⟨word, hWord, hTitle⟩
  exact not_mem_titleCase hMark
    (fun c hc => Text.isWordChar_of_mem_words hWord hc) hTitle

theorem not_mem_pathIdentifier (path : List Char) :
    mark ∉ pathIdentifier path := by
  have hOwn :
      ∀ other ∈ marks, other ∉ rootName ∧ other ≠ 'N' :=
    forall_mem_of_all (by decide)
  have hJoined := not_mem_joinedWords hMark path
  unfold pathIdentifier
  split
  · exact (hOwn mark hMark).1
  · next first rest hWords =>
      rw [hWords] at hJoined
      split
      · rw [List.mem_cons, not_or]
        exact ⟨(hOwn mark hMark).2, hJoined⟩
      · exact hJoined

/- Identifiers hold no mark, whatever path they are made of. -/
theorem not_mem_normalize
    (path : String)
    (title : Option String) :
    mark ∉ (normalize path title).toList := by
  unfold normalize
  rw [String.toList_ofList, List.mem_append, not_or]
  refine ⟨not_mem_pathIdentifier hMark path.toList, ?_⟩
  cases title with
  | none => exact List.not_mem_nil
  | some title => exact not_mem_joinedWords hMark title.toList

/- Neither do the names of parameters. -/
theorem not_mem_lowerCamel (text : String) :
    mark ∉ (lowerCamel text).toList := by
  have hOwn : ∀ other ∈ marks, other ∉ "param".toList :=
    forall_mem_of_all (by decide)
  have hJoined := not_mem_joinedWords hMark text.toList
  unfold lowerCamel
  split
  · exact hOwn mark hMark
  · next first rest hWords =>
      rw [hWords, List.mem_cons, not_or] at hJoined
      rw [String.toList_ofList, List.mem_append, not_or]
      refine ⟨?_, hJoined.2⟩
      intro hMem
      exact ne_of_mem_lower hMark (Ne.symm hJoined.1) hMem rfl

end

end RamlScaffold.Naming

------------------------------------------------------------
-- Texts Without Marks
------------------------------------------------------------

namespace RamlScaffold.Naming

/- A text without any of the characters looked for. -/
def MarkFree (text : String) : Prop :=
  ∀ mark ∈ Alphabet.marks, mark ∉ text.toList

instance (text : String) : Decidable (MarkFree text) :=
  decidable_of_iff
    (Alphabet.marks.all (fun mark => mark ∉ text.toList) = true)
    (by simp [MarkFree])

theorem MarkFree.append
    {first second : String}
    (hFirst : MarkFree first)
    (hSecond : MarkFree second) :
    MarkFree (first ++ second) := by
  intro mark hMark
  rw [String.toList_append, List.mem_append, not_or]
  exact ⟨hFirst mark hMark, hSecond mark hMark⟩

theorem markFree_normalize
    (path : String)
    (title : Option String) :
    MarkFree (normalize path title) :=
  fun _ hMark => not_mem_normalize hMark path title

theorem markFree_lowerCamel (text : String) :
    MarkFree (lowerCamel text) :=
  fun _ hMark => not_mem_lowerCamel hMark text

end RamlScaffold.Naming

------------------------------------------------------------
-- Texts Without Signs
------------------------------------------------------------

namespace RamlScaffold.Naming

/- A text with no slash, no underscore and no dot. -/
def SignFree (text : String) : Prop :=
  ∀ c ∈ text.toList, Alphabet.isSign c = false

/- Whether a text holds a sign is found by looking through. -/
theorem all_notSign_iff (text : String) :
    text.toList.all (fun c => !Alphabet.isSign c) = true ↔
      SignFree text := by
  simp [SignFree]

instance (text : String) : Decidable (SignFree text) :=
  decidable_of_iff _ (all_notSign_iff text)

/- A text without marks is one without signs. -/
theorem MarkFree.signFree
    {text : String}
    (hText : MarkFree text) :
    SignFree text := by
  intro c hc
  rw [Bool.eq_false_iff]
  intro hSign
  exact hText c (Alphabet.mem_marks_of_isSign hSign) hc

theorem SignFree.append
    {first second : String}
    (hFirst : SignFree first)
    (hSecond : SignFree second) :
    SignFree (first ++ second) := by
  intro c hc
  rw [String.toList_append, List.mem_append] at hc
  rcases hc with hc | hc
  · exact hFirst c hc
  · exact hSecond c hc

theorem signFree_title (verb : Verb) :
    SignFree verb.title := by
  cases verb <;> decide

theorem signFree_normalize
    (path : String)
    (title : Option String) :
    SignFree (normalize path title) :=
  (markFree_normalize path title).signFree

/- Small letters bring no sign into the stem of a file. -/
theorem signFree_fileStem
    {name : String}
    (hName : SignFree name) :
    SignFree (fileStem name) := by
  intro c hc
  rw [Bool.eq_false_iff]
  intro hSign
  unfold fileStem Alphabet.lowerText at hc
  rw [String.toList_ofList] at hc
  refine
    Alphabet.not_mem_lowerFrom
      (Alphabet.mem_marks_of_isSign hSign) ?_ [] hc
  intro hMem
  rw [hName c hMem] at hSign
  cases hSign

end RamlScaffold.Naming

------------------------------------------------------------
-- Snake Case
------------------------------------------------------------

namespace RamlScaffold.Naming

/- The underscore that a mark puts before a character. -/
def Mark.separator
    (mark : Mark)
    (nextIsCapital : Bool) : List Char :=
  if mark.parts nextIsCapital then ['_'] else []

theorem Mark.eq_of_mem_separator
    {mark : Mark}
    {nextIsCapital : Bool}
    {c : Char}
    (hMem : c ∈ mark.separator nextIsCapital) :
    c = '_' := by
  unfold separator at hMem
  split at hMem
  · exact List.mem_singleton.mp hMem
  · cases hMem

theorem snakeFrom_cons_capital
    {c : Char}
    (hWord : Alphabet.isAlphanumeric c = true)
    (hCapital : Alphabet.isCapital c = true)
    (mark : Mark)
    (rest : List Char) :
    snakeFrom mark (c :: rest) =
      mark.separator true ++
        (Alphabet.lower c ++ snakeFrom .capital rest) := by
  simp [snakeFrom, hWord, hCapital, Mark.separator]

theorem snakeFrom_cons_small
    {c : Char}
    (hWord : Alphabet.isAlphanumeric c = true)
    (hSmall : Alphabet.isCapital c = false)
    (mark : Mark)
    (rest : List Char) :
    snakeFrom mark (c :: rest) =
      mark.separator false ++ c :: snakeFrom .small rest := by
  simp [snakeFrom, hWord, hSmall, Mark.separator]

theorem snakeFrom_cons_gap
    {c : Char}
    (hGap : Alphabet.isAlphanumeric c = false)
    (mark : Mark)
    (rest : List Char) :
    snakeFrom mark (c :: rest) = snakeFrom mark.skip rest := by
  simp [snakeFrom, hGap]

/-
  Snake case brings no character into a text but underscores,
  if words hold it as little as small letters do.
-/
theorem not_mem_snakeFrom_of_lower
    {sign : Char}
    (hWords :
      ∀ c, Alphabet.isAlphanumeric c = true → c ≠ sign)
    (hLower : ∀ c, c ≠ sign → sign ∉ Alphabet.lower c)
    (hOther : sign ≠ '_')
    (mark : Mark)
    (text : List Char) :
    sign ∉ snakeFrom mark text := by
  induction text generalizing mark with
  | nil => exact List.not_mem_nil
  | cons c rest ih =>
      by_cases hWord : Alphabet.isAlphanumeric c = true
      · have hPlain := hWords c hWord
        have hPart (capital : Bool) :
            sign ∉ mark.separator capital :=
          fun hMem => hOther (Mark.eq_of_mem_separator hMem)
        by_cases hCapital : Alphabet.isCapital c = true
        · rw [snakeFrom_cons_capital hWord hCapital,
            List.mem_append, List.mem_append, not_or, not_or]
          exact ⟨hPart true, hLower c hPlain, ih .capital⟩
        · rw [Bool.not_eq_true] at hCapital
          rw [snakeFrom_cons_small hWord hCapital,
            List.mem_append, List.mem_cons, not_or, not_or]
          exact ⟨hPart false, Ne.symm hPlain, ih .small⟩
      · rw [Bool.not_eq_true] at hWord
        rw [snakeFrom_cons_gap hWord]
        exact ih mark.skip

/- It brings no mark into a text but underscores. -/
theorem not_mem_snakeFrom
    {sign : Char}
    (hMark : sign ∈ Alphabet.marks)
    (hOther : sign ≠ '_')
    (mark : Mark)
    (text : List Char) :
    sign ∉ snakeFrom mark text :=
  not_mem_snakeFrom_of_lower
    (fun _ hWord => Alphabet.ne_of_isAlphanumeric hMark hWord)
    (fun _ hPlain hMem =>
      Alphabet.ne_of_mem_lower hMark hPlain hMem rfl)
    hOther mark text

theorem not_mem_snakeCase
    {sign : Char}
    (hMark : sign ∈ Alphabet.marks)
    (hOther : sign ≠ '_')
    (text : String) :
    sign ∉ (snakeCase text).toList := by
  unfold snakeCase snakeChars
  rw [String.toList_ofList]
  split
  · rw [List.mem_singleton]
    exact hOther
  · exact not_mem_snakeFrom hMark hOther .start text.toList

/- A small letter at the end stays at the end. -/
theorem getLast?_snakeFrom
    {c : Char}
    (hWord : Alphabet.isAlphanumeric c = true)
    (hSmall : Alphabet.isCapital c = false)
    (mark : Mark)
    (text : List Char) :
    (snakeFrom mark (text ++ [c])).getLast? = some c := by
  induction text generalizing mark with
  | nil =>
      rw [List.nil_append, snakeFrom_cons_small hWord hSmall]
      simp [snakeFrom]
  | cons first rest ih =>
      have hLast (front : List Char) (next : Mark) :
          (front ++ snakeFrom next (rest ++ [c])).getLast? =
            some c := by
        rw [List.getLast?_append, ih next]
        rfl
      rw [List.cons_append]
      by_cases hFirst : Alphabet.isAlphanumeric first = true
      · by_cases hCapital : Alphabet.isCapital first = true
        · rw [snakeFrom_cons_capital hFirst hCapital,
            ← List.append_assoc]
          exact hLast _ _
        · rw [Bool.not_eq_true] at hCapital
          rw [snakeFrom_cons_small hFirst hCapital,
            List.append_cons]
          exact hLast _ _
      · rw [Bool.not_eq_true] at hFirst
        rw [snakeFrom_cons_gap hFirst]
        exact ih mark.skip

theorem getLast?_snakeCase
    {c : Char}
    (hWord : Alphabet.isAlphanumeric c = true)
    (hSmall : Alphabet.isCapital c = false)
    {text : String}
    (hText : text.toList.getLast? = some c) :
    (snakeCase text).toList.getLast? = some c := by
  rcases List.getLast?_eq_some_iff.mp hText with
    ⟨front, hFront⟩
  unfold snakeCase snakeChars
  rw [String.toList_ofList, hFront]
  have hLast := getLast?_snakeFrom hWord hSmall .start front
  split
  · next hNone =>
      rw [hNone] at hLast
      cases hLast
  · exact hLast

end RamlScaffold.Naming
