import RamlScaffold.Proofs.Language.ExportedNames
import RamlScaffold.Proofs.Language.MemberNames
import RamlScaffold.Proofs.Naming.SnakeCase

/-
  Which wire names have the same member.

  In Go a member forgets where the words of its name end, and
  a guard may make a member of words that are another name's
  own.  In Rust a member forgets what snake case forgets, and
  the guards against digits and reserved words keep members
  apart.

  Main declarations:
    * `Language.guarded`
    * `Language.fieldName_go_eq_iff`
    * `Language.unreserved_inj`, `Language.guardDigit_inj`
    * `Language.fieldName_rust_eq_iff`
    * `Language.SharesMember`
    * `Language.fieldName_eq_iff`
-/

------------------------------------------------------------
-- Members Of Go
------------------------------------------------------------

namespace RamlScaffold.Language

/- Words in title form behind the guard of a member. -/
def guarded : List Char → List Char
  | [] => ['F', 'i', 'e', 'l', 'd']
  | c :: rest => if c.isDigit then 'F' :: c :: rest else c :: rest

theorem fieldName_eq_guarded (wireName : String) :
    go.fieldName wireName =
      String.ofList (guarded (titles wireName.toList)) := by
  rw [fieldName_go_eq]
  cases titles wireName.toList with
  | nil => rfl
  | cons c rest =>
      rw [guarded, apply_ite String.ofList]

/- Nothing is guarded twice. -/
theorem guarded_guarded (text : List Char) :
    guarded (guarded text) = guarded text := by
  cases text with
  | nil => rfl
  | cons c rest =>
      by_cases hDigit : c.isDigit = true
      · rw [guarded, if_pos hDigit]
        rfl
      · rw [guarded, if_neg hDigit, guarded, if_neg hDigit]

/- What has no digit in front and is not empty is no guard. -/
theorem guarded_cases (text : List Char) :
    text = [] ∨
      (∃ c rest, text = c :: rest ∧ c.isDigit = true) ∨
      guarded text = text := by
  cases text with
  | nil => exact Or.inl rfl
  | cons c rest =>
      by_cases hDigit : c.isDigit = true
      · exact Or.inr (Or.inl ⟨c, rest, rfl, hDigit⟩)
      · exact Or.inr (Or.inr (if_neg hDigit))

/- Guards are shared by the same texts, or with a guard. -/
theorem guarded_eq_iff (first second : List Char) :
    guarded first = guarded second ↔
      first = second ∨ first = guarded second ∨
        second = guarded first := by
  constructor
  · intro hSame
    rcases guarded_cases first with
      rfl | ⟨c, rest, rfl, hFirst⟩ | hFirst
    · rcases guarded_cases second with
        rfl | ⟨d, others, rfl, hSecond⟩ | hSecond
      · exact Or.inl rfl
      · rw [guarded, guarded, if_pos hSecond] at hSame
        rcases List.cons.inj hSame with ⟨-, hRest⟩
        rw [← (List.cons.inj hRest).1] at hSecond
        cases hSecond
      · exact Or.inr (Or.inr (hSame.trans hSecond).symm)
    · rcases guarded_cases second with
        rfl | ⟨d, others, rfl, hSecond⟩ | hSecond
      · rw [guarded, guarded, if_pos hFirst] at hSame
        rcases List.cons.inj hSame with ⟨-, hRest⟩
        rw [(List.cons.inj hRest).1] at hFirst
        cases hFirst
      · rw [guarded, guarded, if_pos hFirst, if_pos hSecond]
          at hSame
        exact Or.inl (List.cons.inj hSame).2
      · exact Or.inr (Or.inr (hSame.trans hSecond).symm)
    · exact Or.inr (Or.inl (hFirst.symm.trans hSame))
  · rintro (rfl | hFirst | hSecond)
    · rfl
    · rw [hFirst, guarded_guarded]
    · rw [hSecond, guarded_guarded]

/-
  Two names share a member of Go if their words in title form
  make the same text, or if those of one make the guard of the
  other.
-/
theorem fieldName_go_eq_iff (first second : String) :
    go.fieldName first = go.fieldName second ↔
      titles first.toList = titles second.toList ∨
        titles first.toList = guarded (titles second.toList) ∨
        titles second.toList =
          guarded (titles first.toList) := by
  rw [fieldName_eq_guarded, fieldName_eq_guarded,
    String.ofList_inj]
  exact guarded_eq_iff _ _

end RamlScaffold.Language

------------------------------------------------------------
-- Reserved Words
------------------------------------------------------------

namespace RamlScaffold.Language

/-
  A word that does not look like a reserved word in one of its
  other forms.
-/
structure IsUnmarked (word : String) : Prop where
  noHash : '#' ∉ word.toList
  noEnding : ∀ reserved ∈ nonRawKeywords, word ≠ reserved ++ "_"

theorem unreserved_cases (word : String) :
    (word ∈ nonRawKeywords ∧ unreserved word = word ++ "_") ∨
      unreserved word = "r#" ++ word ∨
      unreserved word = word := by
  unfold unreserved
  split
  · next hRaw =>
      exact Or.inl ⟨List.contains_iff_mem.mp hRaw, rfl⟩
  · split
    · exact Or.inr (Or.inl rfl)
    · exact Or.inr (Or.inr rfl)

theorem raw_ne_of_noHash
    {text : String}
    (hText : '#' ∉ text.toList)
    (word : String) :
    "r#" ++ word ≠ text := by
  rintro rfl
  simp at hText

/- Words that are not reserved keep words apart. -/
theorem unreserved_inj
    {first second : String}
    (hFirst : IsUnmarked first)
    (hSecond : IsUnmarked second)
    (hSame : unreserved first = unreserved second) :
    first = second := by
  have hEnding {word : String} (hWord : IsUnmarked word) :
      '#' ∉ (word ++ "_").toList := by
    simp [hWord.noHash]
  rcases unreserved_cases first with
    ⟨hReserved, hForm⟩ | hForm | hForm
  · rw [hForm] at hSame
    rcases unreserved_cases second with
      ⟨-, hOther⟩ | hOther | hOther
    · exact (String.append_left_inj "_").mp (hSame.trans hOther)
    · exact absurd (hSame.trans hOther).symm
        (raw_ne_of_noHash (hEnding hFirst) second)
    · exact absurd (hSame.trans hOther).symm
        (hSecond.noEnding first hReserved)
  · rw [hForm] at hSame
    rcases unreserved_cases second with
      ⟨-, hOther⟩ | hOther | hOther
    · exact absurd (hSame.trans hOther)
        (raw_ne_of_noHash (hEnding hSecond) first)
    · exact (String.append_right_inj "r#").mp
        (hSame.trans hOther)
    · exact absurd (hSame.trans hOther)
        (raw_ne_of_noHash hSecond.noHash first)
  · rw [hForm] at hSame
    rcases unreserved_cases second with
      ⟨hReserved, hOther⟩ | hOther | hOther
    · exact absurd (hSame.trans hOther)
        (hFirst.noEnding second hReserved)
    · exact absurd (hSame.trans hOther).symm
        (raw_ne_of_noHash hFirst.noHash second)
    · exact hSame.trans hOther

end RamlScaffold.Language

------------------------------------------------------------
-- Members Of Rust
------------------------------------------------------------

namespace RamlScaffold.Language

open Naming

theorem hash_not_mem_snakeChars (text : List Char) :
    '#' ∉ snakeChars text := by
  unfold snakeChars
  split
  · decide
  · exact
      not_mem_snakeFrom_of_lower
        (fun _ => Alphabet.ne_hash_of_isAlphanumeric)
        (fun _ => Alphabet.hash_not_mem_lower) (by decide) _ _

/- A text in snake case is nothing but the underscore in front. -/
theorem snakeChars_of_underscore_front
    {text rest : List Char}
    (hFront : snakeChars text = '_' :: rest) :
    snakeChars text = ['_'] := by
  unfold snakeChars at hFront ⊢
  split at hFront
  · rfl
  · refine absurd ?_ (head?_snakeFrom_ne text)
    rw [hFront]
    rfl

/- A guard against digits stands in front of digits alone. -/
theorem guardDigit_inj
    {first second : List Char}
    (hSame :
      guardDigit (snakeChars first) =
        guardDigit (snakeChars second)) :
    snakeChars first = snakeChars second := by
  have hNoGuard
      {text other : List Char}
      (hGuard : snakeChars text = '_' :: snakeChars other) :
      False := by
    have hAlone := snakeChars_of_underscore_front hGuard
    rw [hAlone] at hGuard
    exact snakeChars_ne_nil other (List.cons.inj hGuard).2.symm
  have hLists := congrArg String.toList hSame
  cases hFirst : snakeChars first with
  | nil => exact absurd hFirst (snakeChars_ne_nil first)
  | cons c rest =>
      cases hSecond : snakeChars second with
      | nil => exact absurd hSecond (snakeChars_ne_nil second)
      | cons d others =>
          rw [hFirst, hSecond, toList_guardDigit,
            toList_guardDigit] at hLists
          split at hLists
          · split at hLists
            · exact (List.cons.inj hLists).2
            · rw [← hFirst, ← hSecond] at hLists
              exact absurd hLists.symm hNoGuard
          · split at hLists
            · rw [← hFirst, ← hSecond] at hLists
              exact absurd hLists hNoGuard
            · exact hLists

theorem isUnmarked_guardDigit (text : String) :
    IsUnmarked (guardDigit (snakeChars text.toList)) := by
  have hHash := hash_not_mem_snakeChars text.toList
  have hLast := @snakeCase_of_underscore_end text
  unfold snakeCase at hLast
  rw [String.toList_ofList] at hLast
  cases hSnake : snakeChars text.toList with
  | nil => exact absurd hSnake (snakeChars_ne_nil _)
  | cons c rest =>
      rw [hSnake] at hHash hLast
      have hText := toList_guardDigit c rest
      constructor
      · rw [hText]
        split
        · simp [hHash]
        · exact hHash
      · intro reserved hReserved hSame
        have hEnd :
            lastOf? (guardDigit (c :: rest)) = some '_' := by
          rw [hSame]
          exact lastOf?_append reserved "_" rfl
        have hSnakeEnd : (c :: rest).getLast? = some '_' := by
          unfold lastOf? at hEnd
          rw [hText] at hEnd
          split at hEnd
          · exact hEnd
          · exact hEnd
        have hAlone : c :: rest = ['_'] :=
          String.ofList_inj.mp (hLast hSnakeEnd)
        rw [hAlone] at hSame
        have hEmpty : "" = reserved :=
          (String.append_left_inj "_").mp hSame
        exact
          (noUnderscore_of_reserved reserved
            (List.mem_append_right _ hReserved)).2 hEmpty.symm

/- Two names share a member of Rust if they do in snake case. -/
theorem fieldName_rust_eq_iff (first second : String) :
    rust.fieldName first = rust.fieldName second ↔
      snakeCase first = snakeCase second := by
  rw [fieldName_rust_eq, fieldName_rust_eq, snakeCase,
    snakeCase, String.ofList_inj]
  constructor
  · intro hSame
    exact
      guardDigit_inj
        (unreserved_inj (isUnmarked_guardDigit first)
          (isUnmarked_guardDigit second) hSame)
  · intro hSame
    rw [hSame]

end RamlScaffold.Language

------------------------------------------------------------
-- Shared Members
------------------------------------------------------------

namespace RamlScaffold.Language

/-
  Whether two wire names are told apart by nothing that their
  language keeps.
-/
def SharesMember
    (language : Language)
    (first second : String) : Prop :=
  match language with
  | .go =>
      titles first.toList = titles second.toList ∨
        titles first.toList = guarded (titles second.toList) ∨
        titles second.toList = guarded (titles first.toList)
  | .rust => Naming.snakeCase first = Naming.snakeCase second

/- Names have the same member exactly if they share it. -/
theorem fieldName_eq_iff
    (language : Language)
    (first second : String) :
    language.fieldName first = language.fieldName second ↔
      language.SharesMember first second := by
  cases language with
  | go => exact fieldName_go_eq_iff first second
  | rust => exact fieldName_rust_eq_iff first second

end RamlScaffold.Language
