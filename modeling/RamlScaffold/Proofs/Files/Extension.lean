import RamlScaffold.Files.Path

/-
  Stems and extensions of file names.

  A name with an extension is its stem, a dot and the
  extension, so names with one extension are told apart by
  their stems.

  Main declarations:
    * `splitName_append`
    * `name_of_extensionOf?`
-/

------------------------------------------------------------
-- Stems And Extensions
------------------------------------------------------------

namespace RamlScaffold

/- A name is split at its last dot. -/
theorem splitName_append
    {stem extension : String}
    (hStem : stem ≠ "")
    (hExtension : '.' ∉ extension.toList) :
    splitName (stem ++ "." ++ extension) =
      (stem, some extension) := by
  have hReversed :
      (stem ++ "." ++ extension).toList.reverse =
        extension.toList.reverse ++ '.' :: stem.toList.reverse := by
    simp [String.toList_append]
  have hEnding :
      (extension.toList.reverse ++
            '.' :: stem.toList.reverse).takeWhile (· != '.') =
        extension.toList.reverse := by
    rw [List.takeWhile_append_of_pos]
    · simp
    · intro c hc
      rw [bne_iff_ne]
      rintro rfl
      exact hExtension (List.mem_reverse.mp hc)
  have hFront : stem.toList.reverse ≠ [] := by
    intro hNil
    rw [List.reverse_eq_nil_iff, String.toList_eq_nil_iff] at hNil
    exact hStem hNil
  unfold splitName
  simp only [hReversed, hEnding, List.drop_left]
  simp

/- A name with an extension is made of its two parts. -/
theorem name_of_extensionOf?
    {name extension : String}
    (hName : extensionOf? name = some extension) :
    name = stemOf name ++ "." ++ extension := by
  have hDrop (text : List Char) :
      text.drop (text.takeWhile (· != '.')).length =
        text.dropWhile (· != '.') := by
    have hLeft :
        (text.takeWhile (· != '.') ++
              text.dropWhile (· != '.')).drop
            (text.takeWhile (· != '.')).length =
          text.dropWhile (· != '.') :=
      List.drop_left
    rwa [List.takeWhile_append_dropWhile] at hLeft
  have hWhole :
      name.toList.reverse.takeWhile (· != '.') ++
          name.toList.reverse.dropWhile (· != '.') =
        name.toList.reverse :=
    List.takeWhile_append_dropWhile
  have hHead :=
    List.head?_dropWhile_not (· != '.') name.toList.reverse
  unfold stemOf
  unfold extensionOf? at hName
  unfold splitName at hName ⊢
  dsimp only at hName ⊢
  rw [hDrop] at hName ⊢
  generalize name.toList.reverse.takeWhile (· != '.') = ending
    at *
  generalize name.toList.reverse.dropWhile (· != '.') = behind
    at *
  have hText : name = String.ofList (ending ++ behind).reverse := by
    rw [hWhole, List.reverse_reverse, String.ofList_toList]
  cases behind with
  | nil => cases hName
  | cons c rest =>
      have hDot : c = '.' := by simpa using hHead
      cases rest with
      | nil => cases hName
      | cons d front =>
          rw [← Option.some.inj hName]
          apply String.toList_inj.mp
          rw [hText, hDot]
          simp

end RamlScaffold
