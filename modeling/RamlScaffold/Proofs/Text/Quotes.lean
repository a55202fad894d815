import RamlScaffold.Proofs.Text.Pieces

/-
  Texts between quotes in a line of code.

  A text stands for itself between quotes if it holds nothing
  that ends or escapes there.  What quotes part is told apart
  again by the quotes alone.

  Main declarations:
    * `Text.IsPlain`
    * `Text.quoteParts`, `Text.quoteParts_append`
    * `Text.quoteParts_of_not_mem`
-/

------------------------------------------------------------
-- Quotes
------------------------------------------------------------

namespace RamlScaffold.Text

/- A text without quotes, backslashes and line breaks. -/
def IsPlain (text : String) : Prop :=
  ∀ c ∈ ['"', '\\', '\n'], c ∉ text.toList

instance (text : String) : Decidable (IsPlain text) :=
  decidable_of_iff
    (['"', '\\', '\n'].all (fun c => c ∉ text.toList) = true)
    (by simp [IsPlain])

/- The parts of a text between its quotes. -/
def quoteParts (text : String) : List String :=
  (splitBy (· == '"') text.toList).map String.ofList

theorem quoteParts_append (before after : String) :
    quoteParts (before ++ ("\"" ++ after)) =
      quoteParts before ++ quoteParts after := by
  have hText :
      (before ++ ("\"" ++ after)).toList =
        before.toList ++ '"' :: after.toList := by
    simp
  unfold quoteParts
  rw [hText, splitBy_append rfl, List.map_append]

theorem quoteParts_of_not_mem
    {text : String}
    (hText : '"' ∉ text.toList) :
    quoteParts text = [text] := by
  have hWhole : splitBy (· == '"') text.toList = [text.toList] := by
    apply splitBy_of_forall
    intro c hc
    rw [beq_eq_false_iff_ne]
    rintro rfl
    exact hText hc
  rw [quoteParts, hWhole, List.map_singleton, String.ofList_toList]

end RamlScaffold.Text
