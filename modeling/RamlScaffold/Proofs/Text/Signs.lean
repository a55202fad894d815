import RamlScaffold.Text.Alphabet

/-
  Characters with a meaning of their own in generated code or
  in the names of files, and why words and case mappings keep
  clear of them.

  The case mappings beyond ASCII are tables, so the tables are
  looked through once for each of these characters; the lemmas
  about single characters rest on that.

  Main declarations:
    * `Alphabet.forall_mem_of_all`
    * `Alphabet.marks`
    * `Alphabet.ne_of_mem_upper`, `Alphabet.ne_of_mem_lower`
    * `Alphabet.not_mem_lowerFrom`
    * `Alphabet.hash_not_mem_lower`
    * `Alphabet.isSign`
    * `Alphabet.isSign_eq_false_of_isAlphanumeric`
    * `Alphabet.isSign_eq_false_of_mem_lower`
-/

------------------------------------------------------------
-- Marks
------------------------------------------------------------

namespace RamlScaffold.Alphabet

/-
  What holds of some characters is found by trying them. (To
  decide it as it stands would try all characters there are.)
-/
theorem forall_mem_of_all
    {p : Char → Prop}
    [DecidablePred p]
    {letters : List Char}
    (hTried : letters.all (fun c => decide (p c)) = true) :
    ∀ c ∈ letters, p c := by
  simpa using hTried

/-
  The characters that are looked for: up to the blank they
  part what is read off generated code, and the others part
  the names of files.
-/
def marks : List Char :=
  ['\n', '"', '(', ')', ',', ' ', '.', '/', '_']

/- No mark is part of a word. -/
theorem isAlphanumeric_of_mem_marks :
    ∀ mark ∈ marks, isAlphanumeric mark = false :=
  forall_mem_of_all (by decide)

theorem ne_of_isAlphanumeric
    {mark c : Char}
    (hMark : mark ∈ marks)
    (hWord : isAlphanumeric c = true) :
    c ≠ mark := by
  rintro rfl
  rw [isAlphanumeric_of_mem_marks c hMark] at hWord
  cases hWord

end RamlScaffold.Alphabet

------------------------------------------------------------
-- The Case Tables
------------------------------------------------------------

namespace RamlScaffold.Alphabet

/- Whether no letter on a run is shifted onto a mark. -/
def Shift.misses (mark : Char) (shift : Shift) : Bool :=
  decide ((mark.toNat : Int) < shift.first + shift.distance) ||
    decide (shift.last + shift.distance < mark.toNat)

/- Whether no letter is expanded to a text with a mark. -/
def expansionsMiss
    (mark : Char)
    (expansions : List (Nat × List Nat)) : Bool :=
  expansions.all
    (fun entry =>
      entry.2.all (fun code => Char.ofNat code != mark))

theorem upperShifts_miss :
    ∀ mark ∈ marks, upperShifts.all (Shift.misses mark) = true :=
  forall_mem_of_all (by decide +kernel)

theorem lowerShifts_miss :
    ∀ mark ∈ marks, lowerShifts.all (Shift.misses mark) = true :=
  forall_mem_of_all (by decide +kernel)

theorem upperExpansions_miss :
    ∀ mark ∈ marks, expansionsMiss mark upperExpansions = true :=
  forall_mem_of_all (by decide +kernel)

theorem lowerExpansions_miss :
    ∀ mark ∈ marks, expansionsMiss mark lowerExpansions = true :=
  forall_mem_of_all (by decide +kernel)

theorem toNat_pos_of_mem_marks :
    ∀ mark ∈ marks, 0 < mark.toNat :=
  forall_mem_of_all (by decide)

/- A code point that is shifted does not land on a mark. -/
theorem ne_of_holds
    {mark : Char}
    (hPositive : 0 < mark.toNat)
    {shift : Shift}
    (hMisses : shift.misses mark = true)
    {n : Nat}
    (hHolds : shift.toRun.holds n = true) :
    Char.ofNat (n + shift.distance).toNat ≠ mark := by
  intro hSame
  have hBounds : shift.first ≤ n ∧ n ≤ shift.last := by
    simp only [Run.holds, Bool.and_eq_true,
      decide_eq_true_eq] at hHolds
    exact hHolds.1
  -- A code point that is no character becomes the null
  -- character, which is no mark either.
  have hValue :
      mark.toNat = (n + shift.distance).toNat ∨
        mark.toNat = 0 := by
    rw [← hSame]
    by_cases hValid : (n + shift.distance).toNat.isValidChar
    · apply Or.inl
      rw [Char.ofNat, dif_pos hValid]
      rfl
    · apply Or.inr
      rw [Char.ofNat, dif_neg hValid]
      rfl
  simp only [Shift.misses, Bool.or_eq_true, decide_eq_true_eq]
    at hMisses
  omega

/- The other case of a character that is not the mark. -/
theorem ne_of_mem_recase
    {mark : Char}
    (hPositive : 0 < mark.toNat)
    {expansions : List (Nat × List Nat)}
    {shifts : List Shift}
    (hExpansions : expansionsMiss mark expansions = true)
    (hShifts : shifts.all (Shift.misses mark) = true)
    {c d : Char}
    (hPlain : c ≠ mark)
    (hMem : d ∈ recase expansions shifts c) :
    d ≠ mark := by
  unfold recase at hMem
  split at hMem
  · next codes hLookup =>
      rcases List.mem_map.mp hMem with ⟨code, hCode, rfl⟩
      rcases List.lookup_eq_some_iff.mp hLookup with
        ⟨before, after, hSplit, -⟩
      have hEntry : (c.toNat, codes) ∈ expansions := by
        simp [hSplit]
      have hCodes := List.all_eq_true.mp hExpansions _ hEntry
      simpa using List.all_eq_true.mp hCodes code hCode
  · split at hMem
    · next shift hFind =>
        rw [List.mem_singleton] at hMem
        subst hMem
        have hHolds : shift.toRun.holds c.toNat = true := by
          simpa using List.find?_some hFind
        exact ne_of_holds hPositive
          (List.all_eq_true.mp hShifts shift
            (List.mem_of_find?_eq_some hFind))
          hHolds
    · rw [List.mem_singleton] at hMem
      rw [hMem]
      exact hPlain

end RamlScaffold.Alphabet

------------------------------------------------------------
-- Case Mappings
------------------------------------------------------------

namespace RamlScaffold.Alphabet

/- ASCII has few characters, so its mappings are tried out. -/
theorem ne_ascii :
    ∀ mark ∈ marks, ∀ n : Fin 128, Char.ofNat n ≠ mark →
      (Char.ofNat n).toUpper ≠ mark ∧
        (Char.ofNat n).toLower ≠ mark :=
  forall_mem_of_all (by decide)

theorem ne_of_isAscii
    {mark : Char}
    (hMark : mark ∈ marks)
    {c : Char}
    (hAscii : isAscii c = true)
    (hPlain : c ≠ mark) :
    c.toUpper ≠ mark ∧ c.toLower ≠ mark := by
  have hCode : c.toNat < 128 := by
    simpa [isAscii] using hAscii
  have hTried := ne_ascii mark hMark ⟨c.toNat, hCode⟩
  simp only [Char.ofNat_toNat] at hTried
  exact hTried hPlain

theorem ne_of_mem_upper
    {mark : Char}
    (hMark : mark ∈ marks)
    {c d : Char}
    (hPlain : c ≠ mark)
    (hMem : d ∈ upper c) :
    d ≠ mark := by
  unfold upper at hMem
  split at hMem
  · next hAscii =>
      rw [List.mem_singleton] at hMem
      rw [hMem]
      exact (ne_of_isAscii hMark hAscii hPlain).1
  · exact ne_of_mem_recase (toNat_pos_of_mem_marks mark hMark)
      (upperExpansions_miss mark hMark)
      (upperShifts_miss mark hMark) hPlain hMem

theorem ne_of_mem_lower
    {mark : Char}
    (hMark : mark ∈ marks)
    {c d : Char}
    (hPlain : c ≠ mark)
    (hMem : d ∈ lower c) :
    d ≠ mark := by
  unfold lower at hMem
  split at hMem
  · next hAscii =>
      rw [List.mem_singleton] at hMem
      rw [hMem]
      exact (ne_of_isAscii hMark hAscii hPlain).2
  · exact ne_of_mem_recase (toNat_pos_of_mem_marks mark hMark)
      (lowerExpansions_miss mark hMark)
      (lowerShifts_miss mark hMark) hPlain hMem

theorem not_sigma_of_mem_marks :
    ∀ mark ∈ marks, mark ∉ ['ς'] ∧ mark ∉ ['σ'] :=
  forall_mem_of_all (by decide)

/- Small letters bring no mark into a text. -/
theorem not_mem_lowerFrom
    {mark : Char}
    (hMark : mark ∈ marks)
    {text : List Char}
    (hPlain : mark ∉ text)
    (before : List Char) :
    mark ∉ lowerFrom before text := by
  induction text generalizing before with
  | nil => exact List.not_mem_nil
  | cons c rest ih =>
      rw [List.mem_cons, not_or] at hPlain
      have hSigma := not_sigma_of_mem_marks mark hMark
      rw [lowerFrom, List.mem_append, not_or]
      refine ⟨?_, ih hPlain.2 (c :: before)⟩
      split
      · split
        · exact hSigma.1
        · exact hSigma.2
      · intro hMem
        exact ne_of_mem_lower hMark (Ne.symm hPlain.1) hMem rfl

/- Capital letters bring no mark into a text. -/
theorem not_mem_upperText
    {mark : Char}
    (hMark : mark ∈ marks)
    {text : String}
    (hPlain : mark ∉ text.toList) :
    mark ∉ (upperText text).toList := by
  unfold upperText
  rw [String.toList_ofList, List.mem_flatMap]
  rintro ⟨c, hc, hMem⟩
  refine ne_of_mem_upper hMark ?_ hMem rfl
  rintro rfl
  exact hPlain hc

end RamlScaffold.Alphabet

------------------------------------------------------------
-- The Number Sign
------------------------------------------------------------

namespace RamlScaffold.Alphabet

theorem toLower_ne_hash :
    ∀ n : Fin 128, Char.ofNat n ≠ '#' →
      (Char.ofNat n).toLower ≠ '#' := by
  decide

/-
  The sign of raw identifiers is no mark: it parts neither
  lines nor names.  Small letters bring none of it either.
-/
theorem hash_not_mem_lower
    {c : Char}
    (hPlain : c ≠ '#') :
    '#' ∉ lower c := by
  intro hMem
  unfold lower at hMem
  split at hMem
  · next hAscii =>
      have hCode : c.toNat < 128 := by
        simpa [isAscii] using hAscii
      have hTried := toLower_ne_hash ⟨c.toNat, hCode⟩
      simp only [Char.ofNat_toNat] at hTried
      exact hTried hPlain (List.mem_singleton.mp hMem).symm
  · exact
      ne_of_mem_recase (by decide) (by decide +kernel)
        (by decide +kernel) hPlain hMem rfl

theorem ne_hash_of_isAlphanumeric
    {c : Char}
    (hWord : isAlphanumeric c = true) :
    c ≠ '#' := by
  rintro rfl
  revert hWord
  decide

end RamlScaffold.Alphabet

------------------------------------------------------------
-- Signs
------------------------------------------------------------

namespace RamlScaffold.Alphabet

/-
  Whether a character has a meaning of its own in the name of
  a file, where it parts places, words or the extension.
-/
def isSign (c : Char) : Bool :=
  c == '/' || c == '_' || c == '.'

theorem isSign_iff (c : Char) :
    isSign c = true ↔ c = '/' ∨ c = '_' ∨ c = '.' := by
  simp [isSign, or_assoc]

theorem mem_marks_of_isSign
    {c : Char}
    (hSign : isSign c = true) :
    c ∈ marks := by
  rcases (isSign_iff c).mp hSign with rfl | rfl | rfl
  · decide
  · decide
  · decide

/- A sign is no part of a word. -/
theorem isSign_eq_false_of_isAlphanumeric
    {c : Char}
    (hWord : isAlphanumeric c = true) :
    isSign c = false := by
  rw [Bool.eq_false_iff]
  intro hSign
  exact ne_of_isAlphanumeric (mem_marks_of_isSign hSign) hWord rfl

theorem isSign_eq_false_of_mem_lower
    {c d : Char}
    (hPlain : isSign c = false)
    (hMem : d ∈ lower c) :
    isSign d = false := by
  rw [Bool.eq_false_iff]
  intro hSign
  refine ne_of_mem_lower (mem_marks_of_isSign hSign) ?_ hMem rfl
  rintro rfl
  rw [hPlain] at hSign
  cases hSign

end RamlScaffold.Alphabet
