import Mathlib.Data.List.Infix
import RamlScaffold.Text.Words

/-
  Replacement along a text.

  A pattern is looked for from the left, so a text in front
  that lacks its first character is passed over, and so is any
  text that lacks one of its characters.

  Main declarations:
    * `Text.replaceAll_cons_of_miss`
    * `Text.replaceAll_append_of_not_mem`
    * `Text.replaceAll_pattern_append`
    * `Text.replaceAll_of_not_mem`
    * `Text.occurrences`
-/

------------------------------------------------------------
-- Replacement
------------------------------------------------------------

namespace RamlScaffold.Text

variable {first : Char} {pattern replacement : List Char}

theorem replaceAll_cons_of_miss
    {c : Char}
    {rest : List Char}
    (hOther : ¬ pattern <+: c :: rest) :
    replaceAll pattern replacement (c :: rest) =
      c :: replaceAll pattern replacement rest := by
  have hTest : ¬ pattern.isPrefixOf (c :: rest) = true :=
    fun hTest => hOther (List.isPrefixOf_iff_prefix.mp hTest)
  rw [replaceAll, replaceFrom, if_neg hTest]
  rfl

/- No occurrence starts where the first character is missing. -/
theorem replaceAll_append_of_not_mem
    {front : List Char}
    (hFront : first ∉ front)
    (rest : List Char) :
    replaceAll (first :: pattern) replacement (front ++ rest) =
      front ++
        replaceAll (first :: pattern) replacement rest := by
  induction front with
  | nil => rfl
  | cons c front ih =>
      rw [List.mem_cons, not_or] at hFront
      rw [List.cons_append, replaceAll_cons_of_miss,
        ih hFront.2, List.cons_append]
      intro hPrefix
      exact hFront.1 (List.cons_prefix_cons.mp hPrefix).1

/- The characters of an occurrence are passed over. -/
theorem replaceFrom_length_append
    (front rest : List Char) :
    replaceFrom pattern replacement front.length (front ++ rest) =
      replaceAll pattern replacement rest := by
  induction front with
  | nil => rfl
  | cons c front ih => exact ih

/- An occurrence in front is replaced. -/
theorem replaceAll_pattern_append (rest : List Char) :
    replaceAll (first :: pattern) replacement
        (first :: pattern ++ rest) =
      replacement ++
        replaceAll (first :: pattern) replacement rest := by
  have hTest :
      (first :: pattern).isPrefixOf (first :: (pattern ++ rest)) =
        true :=
    List.isPrefixOf_iff_prefix.mpr (List.prefix_append _ rest)
  rw [List.cons_append, replaceAll, replaceFrom, if_pos hTest,
    List.length_cons, Nat.add_sub_cancel,
    replaceFrom_length_append]

/- A text that lacks a character of the pattern stays. -/
theorem replaceAll_of_not_mem
    {c : Char}
    (hPattern : c ∈ pattern)
    {text : List Char}
    (hText : c ∉ text) :
    replaceAll pattern replacement text = text := by
  induction text with
  | nil => rfl
  | cons d rest ih =>
      have hRest : c ∉ rest :=
        fun hMem => hText (List.mem_cons_of_mem d hMem)
      rw [replaceAll_cons_of_miss, ih hRest]
      intro hPrefix
      exact hText (hPrefix.subset hPattern)

end RamlScaffold.Text

------------------------------------------------------------
-- Counting
------------------------------------------------------------

namespace RamlScaffold.Text

/- How often a word occurs in a text. -/
def occurrences (word text : List Char) : Nat :=
  text.tails.countP word.isPrefixOf

theorem occurrences_cons
    (word : List Char)
    (c : Char)
    (rest : List Char) :
    occurrences word (c :: rest) =
      occurrences word rest +
        if word.isPrefixOf (c :: rest) then 1 else 0 := by
  rw [occurrences, List.tails_cons, List.countP_cons]
  rfl

end RamlScaffold.Text
