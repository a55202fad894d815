import RamlScaffold.Text.Words

/-
  Texts that are equal up to the case of ASCII letters.

  Main declarations:
    * `Alphabet.isAlpha_of_toLower`
    * `isAlpha_of_sameAscii`
-/

------------------------------------------------------------
-- Letters
------------------------------------------------------------

namespace RamlScaffold

/- A character whose small form is a letter is one itself. -/
theorem Alphabet.isAlpha_of_toLower
    {c : Char}
    (hLower : c.toLower.isAlpha = true) :
    c.isAlpha = true := by
  by_cases hCapital : c.isUpper = true
  · exact Bool.or_eq_true_iff.mpr (Or.inl hCapital)
  · have hSame : c.toLower = c :=
      dif_neg
        (fun hBounds => hCapital (decide_eq_true hBounds))
    rw [hSame] at hLower
    exact hLower

/- A text that is a word of letters in any case is one, too. -/
theorem isAlpha_of_sameAscii
    {text word : String}
    (hWord :
      ∀ c ∈ (Text.lowerAscii word).toList, c.isAlpha = true)
    (hSame : Text.sameAscii text word = true)
    {c : Char}
    (hMem : c ∈ text.toList) :
    c.isAlpha = true := by
  have hLower : Text.lowerAscii text = Text.lowerAscii word :=
    beq_iff_eq.mp hSame
  have hLetter : c.toLower ∈ (Text.lowerAscii word).toList := by
    rw [← hLower, Text.lowerAscii, String.toList_ofList]
    exact List.mem_map_of_mem hMem
  exact Alphabet.isAlpha_of_toLower (hWord _ hLetter)

end RamlScaffold
