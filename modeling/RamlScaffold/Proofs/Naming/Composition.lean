import RamlScaffold.Api.Document
import RamlScaffold.Proofs.Naming.ParameterNames

/-
  Identifiers and parameters of a path that goes on.

  A slash ends a word, so the words of a longer path are those
  of its beginning and those of its continuation.  The guard
  in front looks at the first word alone, and once there is
  one a continuation cannot change it.

  The parameters of a longer path depend on its beginning by
  no more than the name that is still open at the joint, and
  none is open exactly where every opening brace is closed.

  Main declarations:
    * `Alphabet.eq_of_mem_upper_of_isDigit`
    * `Naming.titled`, `Naming.titled_append`
    * `Naming.digitGuard`, `Naming.digitGuard_append`
    * `Naming.normalize_eq_guarded`, `Naming.normalize_append`
    * `Naming.openName`, `Naming.paramsFrom_append`
    * `Naming.BracesClose`, `Naming.openName_eq_none_iff`
    * `Naming.pathParams_append`
-/

------------------------------------------------------------
-- Digits And Capitals
------------------------------------------------------------

namespace RamlScaffold.Alphabet

/- The digits that a guard is put before. -/
def digits : List Char :=
  ['0', '1', '2', '3', '4', '5', '6', '7', '8', '9']

theorem mem_digits_of_isDigit
    {c : Char}
    (hDigit : c.isDigit = true) :
    c ∈ digits :=
  of_isAscii (p := fun d => d.isDigit = true → d ∈ digits)
    (by decide) (isAscii_of_cases (Or.inr hDigit)) hDigit

/- No capital form beyond ASCII is a digit. -/
theorem upper_tables_miss_digits :
    ∀ digit ∈ digits,
      expansionsMiss digit upperExpansions = true ∧
        upperShifts.all (Shift.misses digit) = true :=
  forall_mem_of_all (by decide +kernel)

theorem toNat_pos_of_mem_digits :
    ∀ digit ∈ digits, 0 < digit.toNat :=
  forall_mem_of_all (by decide)

/- A digit is the capital form of no character but itself. -/
theorem eq_of_mem_upper_of_isDigit
    {c d : Char}
    (hMem : d ∈ upper c)
    (hDigit : d.isDigit = true) :
    c = d := by
  unfold upper at hMem
  split at hMem
  · next hAscii =>
      rw [List.mem_singleton] at hMem
      subst hMem
      have hSame : c.toUpper.isDigit = true → c = c.toUpper :=
        of_isAscii
          (p := fun e =>
            e.toUpper.isDigit = true → e = e.toUpper)
          (by decide) hAscii
      exact hSame hDigit
  · have hDigits := mem_digits_of_isDigit hDigit
    rcases upper_tables_miss_digits d hDigits with
      ⟨hExpansions, hShifts⟩
    by_cases hSame : c = d
    · exact hSame
    · exact
        absurd rfl
          (ne_of_mem_recase (toNat_pos_of_mem_digits d hDigits)
            hExpansions hShifts hSame hMem)

/- A digit is its own capital form. -/
theorem upper_of_isDigit
    {c : Char}
    (hDigit : c.isDigit = true) :
    upper c = [c] := by
  have hAscii := isAscii_of_cases (Or.inr hDigit)
  have hSame : c.isDigit = true → c.toUpper = c :=
    of_isAscii (p := fun d => d.isDigit = true → d.toUpper = d)
      (by decide) hAscii
  rw [upper_of_isAscii hAscii, hSame hDigit]

/- No character is expanded to nothing. -/
theorem upperExpansions_nonempty :
    upperExpansions.all (fun entry => !entry.2.isEmpty) =
      true := by
  decide +kernel

/- Every character has a capital form. -/
theorem upper_ne_nil (c : Char) : upper c ≠ [] := by
  unfold upper
  split
  · exact List.cons_ne_nil _ _
  · exact recase_ne_nil upperExpansions_nonempty upperShifts c

/- The capital form of a character starts with a digit only
  where the character is one. -/
theorem isDigit_of_upper_eq_cons
    {c d : Char}
    {more : List Char}
    (hUpper : upper c = d :: more) :
    d.isDigit = c.isDigit := by
  rw [Bool.eq_iff_iff]
  constructor
  · intro hDigit
    have hMem : d ∈ upper c := by
      rw [hUpper]
      exact List.mem_cons_self
    rw [eq_of_mem_upper_of_isDigit hMem hDigit]
    exact hDigit
  · intro hDigit
    rw [upper_of_isDigit hDigit] at hUpper
    rw [← (List.cons.inj hUpper).1]
    exact hDigit

end RamlScaffold.Alphabet

------------------------------------------------------------
-- Identifiers
------------------------------------------------------------

namespace RamlScaffold.Naming

open RamlScaffold.Alphabet

/- The words of a text in title form, joined. -/
def titled (text : String) : String :=
  String.ofList (joinedWords text.toList)

/- What is put before an identifier for the sake of a digit. -/
def digitGuard (text : String) : String :=
  if StartsWithDigit text then "N" else ""

/- A word starts with the first letter or numeral of a text. -/
theorem HasWord.exists_words
    {text : String}
    (hText : HasWord text) :
    ∃ c letters others,
      Text.words isAlphanumeric text.toList =
          (c :: letters) :: others ∧
        text.toList.find? isAlphanumeric = some c := by
  rcases hText with ⟨c, hMem, hWord⟩
  cases hWords : Text.words isAlphanumeric text.toList with
  | nil =>
      rw [Text.words_eq_nil_iff, List.find?_eq_none] at hWords
      exact absurd hWord (hWords c hMem)
  | cons word others =>
      cases word with
      | nil =>
          have hEmpty :
              [] ∈ Text.words isAlphanumeric text.toList := by
            rw [hWords]
            exact List.mem_cons_self
          exact absurd rfl (Text.ne_nil_of_mem_words hEmpty)
      | cons first letters =>
          exact
            ⟨first, letters, others, rfl,
              Text.find?_of_words hWords⟩

/-
  The identifier of a text with a word is its words, behind a
  guard if the text starts with a digit.
-/
theorem normalize_eq_guarded
    {text : String}
    (hText : HasWord text) :
    normalize text none = digitGuard text ++ titled text := by
  rcases hText.exists_words with
    ⟨c, letters, others, hWords, hFirst⟩
  cases hUpper : upper c with
  | nil => exact absurd hUpper (upper_ne_nil c)
  | cons d more =>
      have hJoined :
          joinedWords text.toList =
            d :: (more ++ letters ++ others.flatMap titleCase) := by
        rw [joinedWords, hWords, List.flatMap_cons, titleCase,
          hUpper]
        simp
      have hStarts : StartsWithDigit text ↔ d.isDigit = true := by
        rw [StartsWithDigit, hFirst, Option.any_some,
          isDigit_of_upper_eq_cons hUpper]
      rw [normalize, pathIdentifier, titled, hJoined, digitGuard]
      simp only [hStarts, List.append_nil]
      split
      · rw [← List.singleton_append, String.ofList_append]
      · rw [String.empty_append]

/- The first word of a text stays the first of a longer one. -/
theorem digitGuard_append
    {front : String}
    (hFront : HasWord front)
    (back : String) :
    digitGuard (front ++ back) = digitGuard front := by
  rcases hFront.exists_words with ⟨c, -, -, -, hFirst⟩
  have hSame :
      StartsWithDigit (front ++ back) ↔ StartsWithDigit front := by
    rw [StartsWithDigit, StartsWithDigit, String.toList_append,
      List.find?_append, hFirst, Option.some_or]
  unfold digitGuard
  simp only [hSame]

theorem HasWord.append
    {front : String}
    (hFront : HasWord front)
    (back : String) :
    HasWord (front ++ back) := by
  rcases hFront with ⟨c, hMem, hWord⟩
  refine ⟨c, ?_, hWord⟩
  rw [String.toList_append]
  exact List.mem_append_left back.toList hMem

/- The words before a slash are apart from those behind it. -/
theorem titled_append
    (front : String)
    {back : String}
    (hBack : isResourceKey back = true) :
    titled (front ++ back) = titled front ++ titled back := by
  have hHead : back.toList.head? = some '/' := eq_of_beq hBack
  rcases List.head?_eq_some_iff.mp hHead with ⟨rest, hRest⟩
  have hSlash : isAlphanumeric '/' = false := by decide
  have hWords :
      joinedWords (front.toList ++ back.toList) =
        joinedWords front.toList ++ joinedWords back.toList := by
    rw [hRest, joinedWords, joinedWords, joinedWords,
      Text.words_append_cons hSlash,
      Text.words_cons_of_separator hSlash, List.flatMap_append]
  rw [titled, String.toList_append, hWords, String.ofList_append]
  rfl

/- A path that goes on behind a word goes on with its words. -/
theorem normalize_append
    {front : String}
    (hFront : HasWord front)
    {back : String}
    (hBack : isResourceKey back = true) :
    normalize (front ++ back) none =
      normalize front none ++ titled back := by
  calc
    normalize (front ++ back) none =
        digitGuard (front ++ back) ++ titled (front ++ back) :=
      normalize_eq_guarded (hFront.append back)
    _ = digitGuard front ++ (titled front ++ titled back) := by
      rw [digitGuard_append hFront, titled_append front hBack]
    _ = normalize front none ++ titled back := by
      rw [normalize_eq_guarded hFront, String.append_assoc]

end RamlScaffold.Naming

------------------------------------------------------------
-- Parameters
------------------------------------------------------------

namespace RamlScaffold.Naming

/-
  The reversed text since the brace that is still open behind
  a text, if one is.
-/
def openName :
    Option (List Char) → List Char → Option (List Char)
  | name?, [] => name?
  | none, c :: rest =>
      if c == '\x7b' then openName (some []) rest
      else openName none rest
  | some name, c :: rest =>
      if c == '\x7d' then openName none rest
      else openName (some (c :: name)) rest

/- The parameters of a text that goes on. -/
theorem paramsFrom_append
    (name? : Option (List Char))
    (front back : List Char) :
    paramsFrom name? (front ++ back) =
      paramsFrom name? front ++
        paramsFrom (openName name? front) back := by
  induction front generalizing name? with
  | nil => cases name? <;> rfl
  | cons c front ih =>
      rw [List.cons_append]
      cases name? with
      | none =>
          simp only [paramsFrom, openName]
          split
          · exact ih (some [])
          · exact ih none
      | some name =>
          simp only [paramsFrom, openName]
          split
          · split
            · exact ih none
            · rw [ih none, List.cons_append]
          · exact ih (some (c :: name))

/- Whether a closing brace follows every opening one. -/
def BracesClose (text : List Char) : Prop :=
  ∀ before after,
    text = before ++ '\x7b' :: after → '\x7d' ∈ after

theorem bracesClose_nil : BracesClose [] := by
  intro before after hSplit
  cases before <;> cases hSplit

theorem bracesClose_cons_iff
    (c : Char)
    (rest : List Char) :
    BracesClose (c :: rest) ↔
      (c = '\x7b' → '\x7d' ∈ rest) ∧ BracesClose rest := by
  constructor
  · intro hClose
    refine ⟨?_, ?_⟩
    · rintro rfl
      exact hClose [] rest rfl
    · intro before after hSplit
      refine hClose (c :: before) after ?_
      rw [hSplit, List.cons_append]
  · rintro ⟨hFirst, hRest⟩ before after hSplit
    cases before with
    | nil =>
        rcases List.cons.inj hSplit with ⟨hBrace, rfl⟩
        exact hFirst hBrace
    | cons d before =>
        exact hRest before after (List.cons.inj hSplit).2

instance decidableBracesClose :
    (text : List Char) → Decidable (BracesClose text)
  | [] => isTrue bracesClose_nil
  | c :: rest =>
      let _ := decidableBracesClose rest
      decidable_of_iff _ (bracesClose_cons_iff c rest).symm

/-
  No name is open behind a text exactly if all braces close,
  where the brace that is open before it has to close, too.
-/
theorem openName_eq_none_iff
    (name? : Option (List Char))
    (text : List Char) :
    openName name? text = none ↔
      (name?.isSome = true → '\x7d' ∈ text) ∧
        BracesClose text := by
  induction text generalizing name? with
  | nil => cases name? <;> simp [openName, bracesClose_nil]
  | cons c rest ih =>
      rw [bracesClose_cons_iff]
      cases name? with
      | none =>
          by_cases hOpen : c = '\x7b'
          · simp [openName, hOpen, ih]
          · simp [openName, hOpen, ih]
      | some name =>
          by_cases hClose : c = '\x7d'
          · simp [openName, hClose, ih]
          · have hMem : '\x7d' ∈ c :: rest ↔ '\x7d' ∈ rest := by
              simp [Ne.symm hClose]
            have hOther : ¬(c == '\x7d') = true := by
              simpa using hClose
            rw [hMem, openName, if_neg hOther, ih]
            constructor
            · rintro ⟨hLater, hRest⟩
              exact ⟨hLater, fun _ => hLater rfl, hRest⟩
            · rintro ⟨hLater, -, hRest⟩
              exact ⟨hLater, hRest⟩

/- A path whose braces close goes on with its own parameters. -/
theorem pathParams_append
    {front : String}
    (hFront : BracesClose front.toList)
    (back : String) :
    pathParams (front ++ back) =
      pathParams front ++ pathParams back := by
  have hNone : openName none front.toList = none := by
    rw [openName_eq_none_iff]
    exact ⟨nofun, hFront⟩
  rw [pathParams, String.toList_append, paramsFrom_append, hNone,
    List.map_append]
  rfl

end RamlScaffold.Naming
