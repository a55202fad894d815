import RamlScaffold.Proofs.Naming.Identifier

/-
  How snake-case texts start and end.

  An underscore is written between two characters only, so a
  snake-case text neither starts nor ends with one, unless it
  is nothing else.

  Main declarations:
    * `Alphabet.lower_ne_nil`
    * `Naming.getLast?_snakeFrom_ne`
    * `Naming.head?_snakeFrom_ne`
    * `Naming.snakeCase_of_underscore_end`
-/

------------------------------------------------------------
-- Small Letters
------------------------------------------------------------

namespace RamlScaffold.Alphabet

/- No character is expanded to nothing. -/
theorem lowerExpansions_nonempty :
    lowerExpansions.all (fun entry => !entry.2.isEmpty) =
      true := by
  decide +kernel

/- A character has another case, be it itself. -/
theorem recase_ne_nil
    {expansions : List (Nat × List Nat)}
    (hNonempty :
      expansions.all (fun entry => !entry.2.isEmpty) = true)
    (shifts : List Shift)
    (c : Char) :
    recase expansions shifts c ≠ [] := by
  unfold recase
  split
  · next codes hLookup =>
      rcases List.lookup_eq_some_iff.mp hLookup with
        ⟨before, after, hSplit, -⟩
      have hEntry : (c.toNat, codes) ∈ expansions := by
        simp [hSplit]
      have hCodes := List.all_eq_true.mp hNonempty _ hEntry
      intro hNone
      rw [List.map_eq_nil_iff.mp hNone] at hCodes
      cases hCodes
  · split
    · exact List.cons_ne_nil _ _
    · exact List.cons_ne_nil _ _

/- Every character has a small form. -/
theorem lower_ne_nil (c : Char) : lower c ≠ [] := by
  unfold lower
  split
  · exact List.cons_ne_nil _ _
  · exact recase_ne_nil lowerExpansions_nonempty lowerShifts c

end RamlScaffold.Alphabet

------------------------------------------------------------
-- Ends
------------------------------------------------------------

namespace RamlScaffold.Naming

/- What is written last is no underscore. -/
theorem getLast?_snakeFrom_ne
    (mark : Mark)
    (text : List Char) :
    (snakeFrom mark text).getLast? ≠ some '_' := by
  induction text generalizing mark with
  | nil => simp [snakeFrom]
  | cons c rest ih =>
      by_cases hWord : Alphabet.isAlphanumeric c = true
      · have hPlain :=
          Alphabet.isSign_eq_false_of_isAlphanumeric hWord
        -- Behind a written character the rest decides, if there
        -- is any, and else the character itself.
        have hLast
            {written : List Char}
            (hNonempty : written ≠ [])
            (hSigns :
              ∀ d ∈ written, Alphabet.isSign d = false)
            (front : List Char)
            (next : Mark) :
            (front ++ (written ++ snakeFrom next rest)).getLast? ≠
              some '_' := by
          intro hEnd
          rw [List.getLast?_append, List.getLast?_append] at hEnd
          cases hRest : (snakeFrom next rest).getLast? with
          | some d =>
              rw [hRest] at hEnd
              exact ih next (hRest.trans hEnd)
          | none =>
              rw [hRest, List.getLast?_eq_some_getLast hNonempty]
                at hEnd
              have hSign := hSigns _ (List.getLast_mem hNonempty)
              rw [Option.some.inj hEnd] at hSign
              cases hSign
        by_cases hCapital : Alphabet.isCapital c = true
        · rw [snakeFrom_cons_capital hWord hCapital]
          exact hLast (Alphabet.lower_ne_nil c)
            (fun d hd =>
              Alphabet.isSign_eq_false_of_mem_lower hPlain hd)
            _ _
        · rw [Bool.not_eq_true] at hCapital
          rw [snakeFrom_cons_small hWord hCapital]
          exact hLast (List.cons_ne_nil c [])
            (fun d hd => List.mem_singleton.mp hd ▸ hPlain) _ _
      · rw [Bool.not_eq_true] at hWord
        rw [snakeFrom_cons_gap hWord]
        exact ih mark.skip

/- What is written first is no underscore. -/
theorem head?_snakeFrom_ne (text : List Char) :
    (snakeFrom .start text).head? ≠ some '_' := by
  induction text with
  | nil => simp [snakeFrom]
  | cons c rest ih =>
      by_cases hWord : Alphabet.isAlphanumeric c = true
      · have hPlain :=
          Alphabet.isSign_eq_false_of_isAlphanumeric hWord
        by_cases hCapital : Alphabet.isCapital c = true
        · rw [snakeFrom_cons_capital hWord hCapital]
          cases hLower : Alphabet.lower c with
          | nil => exact absurd hLower (Alphabet.lower_ne_nil c)
          | cons d small =>
              have hMem : d ∈ Alphabet.lower c := by
                rw [hLower]
                exact List.mem_cons_self
              have hSmall :=
                Alphabet.isSign_eq_false_of_mem_lower hPlain hMem
              rintro ⟨⟩
              cases hSmall
        · rw [Bool.not_eq_true] at hCapital
          rw [snakeFrom_cons_small hWord hCapital]
          rintro ⟨⟩
          cases hPlain
      · rw [Bool.not_eq_true] at hWord
        rw [snakeFrom_cons_gap hWord]
        exact ih

/- A snake-case text that ends in an underscore is just that. -/
theorem snakeCase_of_underscore_end
    {text : String}
    (hLast : (snakeCase text).toList.getLast? = some '_') :
    snakeCase text = "_" := by
  unfold snakeCase snakeChars at hLast ⊢
  rw [String.toList_ofList] at hLast
  split at hLast
  · rfl
  · exact absurd hLast (getLast?_snakeFrom_ne .start text.toList)

end RamlScaffold.Naming
