import Mathlib.Data.List.DropRight
import RamlScaffold.Api.Document
import RamlScaffold.Proofs.Language.ListedNames

/-
  The names that a written type lists.

  Commas part the names, and empty names do not count.  Put
  together again, the names are read as the text is without
  the commas and the white space at its edges.

  Main declarations:
    * `Text.pare`, `Text.pared`, `Text.IsPared`
    * `TypeExpr.namesOf`, `TypeExpr.comma_induction`
    * `TypeExpr.listedNames`, `TypeExpr.IsName`
    * `TypeExpr.words_eq_flatMap_namesOf`
    * `TypeExpr.Core`, `TypeExpr.core_pare`
    * `TypeExpr.convert_parse`
-/

------------------------------------------------------------
-- Pared Texts
------------------------------------------------------------

namespace RamlScaffold.Text

/- A text without the commas and the white space around it. -/
def pare (text : List Char) : List Char :=
  (text.dropWhile isGap).rdropWhile isGap

/- A string without them. -/
def pared (text : String) : String :=
  String.ofList (pare text.toList)

/- A text that no gap stands around. -/
structure IsPared (text : List Char) : Prop where
  first : ∀ c, text.head? = some c → isGap c = false
  last : ∀ c, text.getLast? = some c → isGap c = false

theorem IsPared.reverse
    {text : List Char}
    (hText : IsPared text) :
    IsPared text.reverse := by
  constructor
  · intro c hc
    rw [List.head?_reverse] at hc
    exact hText.last c hc
  · intro c hc
    rw [List.getLast?_reverse] at hc
    exact hText.first c hc

/- Two such texts with anything between them are one, too. -/
theorem IsPared.around
    {first second : List Char}
    (hFirst : IsPared first)
    (hFirstSome : first ≠ [])
    (hSecond : IsPared second)
    (hSecondSome : second ≠ [])
    (between : List Char) :
    IsPared (first ++ between ++ second) := by
  constructor
  · intro c hc
    rw [List.append_assoc,
      List.head?_append_of_ne_nil _ hFirstSome] at hc
    exact hFirst.first c hc
  · intro c hc
    rw [List.getLast?_append_of_ne_nil _ hSecondSome] at hc
    exact hSecond.last c hc

theorem IsPared.dropWhile_append
    {text : List Char}
    (hText : IsPared text)
    (hSome : text ≠ [])
    (after : List Char) :
    (text ++ after).dropWhile isGap = text ++ after := by
  cases text with
  | nil => exact absurd rfl hSome
  | cons c rest =>
      rw [List.cons_append, List.dropWhile_cons_of_neg]
      simp [hText.first c rfl]

/- Gaps around a pared text are what is stripped from it. -/
theorem pare_around
    {before core after : List Char}
    (hBefore : IsGap before)
    (hCore : IsPared core)
    (hAfter : IsGap after) :
    pare (before ++ core ++ after) = core := by
  unfold pare
  by_cases hNone : core = []
  · have hGap : IsGap (before ++ core ++ after) := by
      rw [hNone, List.append_nil]
      exact hBefore.append hAfter
    rw [List.dropWhile_eq_nil_iff.mpr hGap, hNone,
      List.rdropWhile_nil]
  · have hReverse : IsGap after.reverse :=
      fun c hc => hAfter c (List.mem_reverse.mp hc)
    have hKept :=
      hCore.reverse.dropWhile_append
        (List.reverse_ne_nil_iff.mpr hNone) []
    rw [List.append_nil] at hKept
    rw [List.append_assoc, List.dropWhile_append_of_pos hBefore,
      hCore.dropWhile_append hNone, List.rdropWhile,
      List.reverse_append, List.dropWhile_append_of_pos hReverse,
      hKept, List.reverse_reverse]

/- Trimming a text without commas leaves a pared one. -/
theorem isPared_trim
    {text : List Char}
    (hText : ',' ∉ text) :
    IsPared (trim text) := by
  have hGap {c : Char} (hMem : c ∈ trim text)
      (hc : Alphabet.isBlank c = false) :
      isGap c = false := by
    rw [Bool.eq_false_iff]
    intro hGap
    apply hText
    rw [← mem_trim_iff (by decide), ← eq_comma_of_isGap hGap hc]
    exact hMem
  exact
    ⟨fun c hc =>
        hGap (List.mem_of_head? hc)
          (isBlank_eq_false_of_head?_trim hc),
      fun c hc =>
        hGap (List.mem_of_getLast? hc)
          (isBlank_eq_false_of_getLast?_trim hc)⟩

end RamlScaffold.Text

------------------------------------------------------------
-- Names Between Commas
------------------------------------------------------------

namespace RamlScaffold.TypeExpr

open RamlScaffold.Text

/- The names that commas part in a text. -/
def namesOf (text : List Char) : List (List Char) :=
  ((splitBy (· == ',') text).map trim).filter
    (fun name => !name.isEmpty)

/- The names that a written type lists. -/
def listedNames (text : String) : List String :=
  (namesOf text.toList).map String.ofList

theorem parse_eq (text : String) :
    parse text = ofNames (listedNames text) :=
  rfl

/- A name as commas part it from others. -/
structure IsName (name : String) : Prop where
  nonempty : name ≠ ""
  trimmed : trimmed name = name
  noComma : ',' ∉ name.toList

theorem isName_of_mem_listedNames
    {text name : String}
    (hName : name ∈ listedNames text) :
    IsName name := by
  rcases List.mem_map.mp hName with ⟨letters, hMem, rfl⟩
  rcases List.mem_filter.mp hMem with ⟨hPiece, hSome⟩
  rcases List.mem_map.mp hPiece with ⟨piece, hSplit, rfl⟩
  refine ⟨?_, ?_, ?_⟩
  · intro hEmpty
    rw [String.ofList_eq_empty_iff.mp hEmpty] at hSome
    cases hSome
  · rw [trimmed, String.toList_ofList, trim_trim]
  · rw [String.toList_ofList, mem_trim_iff (by decide)]
    intro hComma
    exact
      absurd (isSeparator_eq_false_of_mem_splitBy hSplit hComma)
        (by decide)

/- The names in their written form. -/
def joined (names : List (List Char)) : List Char :=
  [',', ' '].intercalate names

theorem namesOf_of_no_comma
    {text : List Char}
    (hText : ',' ∉ text) :
    namesOf text = if trim text = [] then [] else [trim text] := by
  have hPiece : splitBy (· == ',') text = [text] := by
    refine splitBy_of_forall ?_
    intro c hc
    rw [beq_eq_false_iff_ne]
    rintro rfl
    exact hText hc
  unfold namesOf
  rw [hPiece]
  split
  · next hBlank => simp [hBlank]
  · next hName => simp [hName]

theorem namesOf_append
    (first second : List Char) :
    namesOf (first ++ ',' :: second) =
      namesOf first ++ namesOf second := by
  unfold namesOf
  rw [splitBy_append (by decide), List.map_append,
    List.filter_append]

theorem joined_cons
    (first : List Char)
    {names : List (List Char)}
    (hNames : names ≠ []) :
    joined (first :: names) = first ++ ',' :: ' ' :: joined names := by
  cases names with
  | nil => exact absurd rfl hNames
  | cons second rest =>
      unfold joined
      rw [List.intercalate_cons_cons]
      simp

/- What holds of a text is shown one comma after the other. -/
theorem comma_induction
    {motive : List Char → Prop}
    (plain : ∀ text, ',' ∉ text → motive text)
    (cons :
      ∀ first rest,
        ',' ∉ first → motive rest →
          motive (first ++ ',' :: rest))
    (text : List Char) :
    motive text := by
  by_cases hComma : ',' ∈ text
  · rcases List.eq_append_cons_of_mem hComma with
      ⟨first, rest, rfl, hFirst⟩
    exact cons first rest hFirst
      (comma_induction plain cons rest)
  · exact plain text hComma
termination_by text.length
decreasing_by
  simp_all
  omega

/- A name holds everything but the white space around it. -/
theorem isGap_or_mem_name
    {text : List Char}
    (hText : ',' ∉ text)
    {c : Char}
    (hMem : c ∈ text) :
    isGap c = true ∨ ∃ name ∈ namesOf text, c ∈ name := by
  cases hc : Alphabet.isBlank c with
  | true => exact Or.inl (by simp [isGap, hc])
  | false =>
      have hTrim := (mem_trim_iff hc text).mpr hMem
      refine Or.inr ⟨trim text, ?_, hTrim⟩
      rw [namesOf_of_no_comma hText,
        if_neg (List.ne_nil_of_mem hTrim)]
      exact List.mem_singleton_self _

/- Names hold everything but what parts them. -/
theorem isGap_or_mem_namesOf
    {text : List Char}
    {c : Char}
    (hMem : c ∈ text) :
    isGap c = true ∨ ∃ name ∈ namesOf text, c ∈ name := by
  induction text using comma_induction with
  | plain text hText => exact isGap_or_mem_name hText hMem
  | cons first rest hFirst ih =>
      rw [namesOf_append]
      rcases List.mem_append.mp hMem with hMem | hMem
      · rcases isGap_or_mem_name hFirst hMem with
          hGap | ⟨name, hName, hc⟩
        · exact Or.inl hGap
        · exact Or.inr ⟨name, List.mem_append_left _ hName, hc⟩
      · rcases List.mem_cons.mp hMem with rfl | hMem
        · exact Or.inl (by decide)
        · rcases ih hMem with hGap | ⟨name, hName, hc⟩
          · exact Or.inl hGap
          · exact Or.inr
              ⟨name, List.mem_append_right _ hName, hc⟩

/- A name has the words of the text around it. -/
theorem words_namesOf
    {text : List Char}
    (hText : ',' ∉ text) :
    words Alphabet.isAlphanumeric text =
      (namesOf text).flatMap
        (words Alphabet.isAlphanumeric) := by
  rw [namesOf_of_no_comma hText, ← words_trim text]
  split
  · next hBlank => rw [hBlank]; rfl
  · rw [List.flatMap_singleton]

/- The words of a text are those of its names. -/
theorem words_eq_flatMap_namesOf (text : List Char) :
    words Alphabet.isAlphanumeric text =
      (namesOf text).flatMap
        (words Alphabet.isAlphanumeric) := by
  induction text using comma_induction with
  | plain text hText => exact words_namesOf hText
  | cons first rest hFirst ih =>
      rw [words_append_cons isAlphanumeric_comma,
        namesOf_append, List.flatMap_append, ← ih,
        words_namesOf hFirst]

/-
  What stands between the first and the last name of a text is
  read as the names are in their written form, whatever stands
  in front.
-/
structure Core (text core : List Char) : Prop where
  around :
    ∃ before after,
      IsGap before ∧ IsGap after ∧
        text = before ++ core ++ after
  isPared : IsPared core
  eq_nil_iff : core = [] ↔ namesOf text = []
  read_eq :
    ∀ front,
      TypeShape.read (front ++ core) =
        TypeShape.read (front ++ joined (namesOf text))

/- Without a comma there is at most one name. -/
theorem core_of_no_comma
    {text : List Char}
    (hText : ',' ∉ text) :
    Core text (trim text) := by
  rcases exists_blanks_around_trim text with
    ⟨before, after, hBefore, hAfter, hSplit⟩
  have hJoined : joined (namesOf text) = trim text := by
    rw [namesOf_of_no_comma hText]
    split
    · next hBlank => rw [hBlank]; rfl
    · exact List.intercalate_singleton
  exact
    { around :=
        ⟨before, after, hBefore.isGap, hAfter.isGap, hSplit⟩
      isPared := isPared_trim hText
      eq_nil_iff := by
        rw [namesOf_of_no_comma hText]
        split
        · next hBlank => simp [hBlank]
        · next hName => simp [hName]
      read_eq := fun front => by rw [hJoined] }

namespace Core

variable
  {first text core : List Char}
  (hFirst : ',' ∉ first)
  (hCore : Core text core)
include hFirst hCore

/- White space and a comma in front add no name. -/
theorem blank_cons
    (hName : trim first = []) :
    Core (first ++ ',' :: text) core := by
  rcases (core_of_no_comma hFirst).around with
    ⟨indent, rest, hIndent, hRest, hFirstSplit⟩
  rcases hCore.around with
    ⟨before, after, hBefore, hAfter, hSplit⟩
  have hNames :
      namesOf (first ++ ',' :: text) = namesOf text := by
    rw [namesOf_append, namesOf_of_no_comma hFirst, if_pos hName,
      List.nil_append]
  have hGap : IsGap (first ++ [',']) := by
    rw [hFirstSplit, hName, List.append_nil]
    exact (hIndent.append hRest).append (by decide)
  refine ⟨?_, hCore.isPared, ?_, ?_⟩
  · refine ⟨first ++ [','] ++ before, after,
      hGap.append hBefore, hAfter, ?_⟩
    conv => lhs; rw [hSplit]
    simp
  · rw [hNames]
    exact hCore.eq_nil_iff
  · rw [hNames]
    exact hCore.read_eq

/- A name in front of a text without any is the only one. -/
theorem cons_of_none
    (hName : trim first ≠ [])
    (hNone : core = []) :
    Core (first ++ ',' :: text) (trim first) := by
  rcases core_of_no_comma hFirst with
    ⟨⟨indent, rest, hIndent, hRest, hFirstSplit⟩, hPared, _, _⟩
  rcases hCore.around with
    ⟨before, after, hBefore, hAfter, hSplit⟩
  have hNames :
      namesOf (first ++ ',' :: text) = [trim first] := by
    rw [namesOf_append, namesOf_of_no_comma hFirst, if_neg hName,
      hCore.eq_nil_iff.mp hNone]
    rfl
  have hGap : IsGap (',' :: text) := by
    rw [hSplit, hNone, List.append_nil]
    exact (hBefore.append hAfter).comma_cons
  refine ⟨?_, hPared, ?_, ?_⟩
  · refine ⟨indent, rest ++ ',' :: text, hIndent,
      hRest.append hGap, ?_⟩
    conv => lhs; rw [hFirstSplit]
    simp
  · rw [hNames]
    simp [hName]
  · intro front
    rw [hNames, joined, List.intercalate_singleton]

/- A name in front of others is parted from them by a comma. -/
theorem cons_of_some
    (hName : trim first ≠ [])
    (hSome : core ≠ []) :
    ∃ whole, Core (first ++ ',' :: text) whole := by
  rcases core_of_no_comma hFirst with
    ⟨⟨indent, rest, hIndent, hRest, hFirstSplit⟩, hPared, _, _⟩
  rcases hCore.around with
    ⟨before, after, hBefore, hAfter, hSplit⟩
  have hNames :
      namesOf (first ++ ',' :: text) =
        trim first :: namesOf text := by
    rw [namesOf_append, namesOf_of_no_comma hFirst, if_neg hName]
    rfl
  have hOthers : namesOf text ≠ [] :=
    fun hNone => hSome (hCore.eq_nil_iff.mpr hNone)
  refine ⟨trim first ++ (rest ++ ',' :: before) ++ core,
    ⟨?_, hPared.around hName hCore.isPared hSome _, ?_, ?_⟩⟩
  · refine ⟨indent, after, hIndent, hAfter, ?_⟩
    conv => lhs; rw [hFirstSplit, hSplit]
    simp
  · rw [hNames]
    simp [hName]
  · intro front
    have hNoGap : IsGap [] := by decide
    have hOneBlank : IsGap [' '] := by decide
    calc
      TypeShape.read
            (front ++
              (trim first ++ (rest ++ ',' :: before) ++ core)) =
          TypeShape.read
            (front ++ trim first ++ rest ++
              ',' :: (before ++ core)) := by simp
      _ = TypeShape.read
            (front ++ trim first ++ [','] ++ core) := by
        rw [TypeShape.read_gap hRest hBefore, List.append_cons]
      _ = TypeShape.read
            (front ++ trim first ++ [','] ++
              joined (namesOf text)) :=
        hCore.read_eq _
      _ = TypeShape.read
            (front ++ trim first ++
              ',' :: joined (namesOf text)) := by
        rw [← List.append_cons]
      _ = TypeShape.read
            (front ++ trim first ++ [] ++
              ',' :: ([' '] ++ joined (namesOf text))) :=
        (TypeShape.read_gap hNoGap hOneBlank _ _).symm
      _ = TypeShape.read
            (front ++
              joined (namesOf (first ++ ',' :: text))) := by
        rw [hNames, joined_cons _ hOthers]
        simp

theorem cons : ∃ whole, Core (first ++ ',' :: text) whole := by
  by_cases hName : trim first = []
  · exact ⟨core, blank_cons hFirst hCore hName⟩
  · by_cases hNone : core = []
    · exact ⟨trim first, cons_of_none hFirst hCore hName hNone⟩
    · exact cons_of_some hFirst hCore hName hNone

end Core

theorem exists_core (text : List Char) :
    ∃ core, Core text core := by
  induction text using comma_induction with
  | plain text hText => exact ⟨_, core_of_no_comma hText⟩
  | cons first rest hFirst ih =>
      rcases ih with ⟨core, hCore⟩
      exact Core.cons hFirst hCore

/- Paring is what leaves the names and what parts them. -/
theorem core_pare (text : List Char) : Core text (pare text) := by
  rcases exists_core text with ⟨core, hCore⟩
  rcases hCore.around with ⟨before, after, hBefore, hAfter, hSplit⟩
  have hPared : pare text = core := by
    rw [hSplit]
    exact pare_around hBefore hCore.isPared hAfter
  rw [hPared]
  exact hCore

/- Commas around a text are no part of its words. -/
theorem words_pare (text : List Char) :
    words Alphabet.isAlphanumeric (pare text) =
      words Alphabet.isAlphanumeric text := by
  rcases (core_pare text).around with
    ⟨before, after, hBefore, hAfter, hSplit⟩
  conv => rhs; rw [hSplit]
  rw [words_append_separators _ hAfter.not_alphanumeric,
    words_separators_append hBefore.not_alphanumeric]

/- A written type and its names are read alike. -/
theorem read_parse (text : String) :
    TypeShape.read ((parse text).rawOr "any").toList =
      TypeShape.read (pare text.toList) := by
  have hNames := (core_pare text.toList).read_eq []
  rw [List.nil_append, List.nil_append] at hNames
  rw [hNames, parse_eq, listedNames]
  rcases namesOf text.toList with _ | ⟨first, _ | ⟨second, rest⟩⟩
  · rw [TypeShape.read_word (by decide),
      TypeShape.read_word (by decide)]
    decide +kernel
  · simp [ofNames, rawOr, isAbsent, raw, joined]
  · have hRaw :
        ((ofNames
              ((first :: second :: rest).map
                String.ofList)).rawOr "any").toList =
          joined (first :: second :: rest) := by
      simp [ofNames, rawOr, isAbsent, raw, joined,
        String.toList_intercalate, Function.comp_def]
    rw [hRaw]

/-
  The names of a written type are converted as the text is
  without the commas at its edges.  A text without any name
  stands for any value.
-/
theorem convert_parse
    (language : Language)
    (text : String) :
    language.convert ((parse text).rawOr "any") =
      language.convert (pared text) := by
  rw [Language.convert, read_parse, Language.convert, pared,
    String.toList_ofList]

end RamlScaffold.TypeExpr
