import RamlScaffold.Proofs.Api.TypeNames
import RamlScaffold.Proofs.Schema.Realization

/-
  Type expressions printed and read again.

  Reading keeps the names between commas, and printing puts a
  comma and a blank between names.  Whatever white space
  stands behind the commas, a joined text lists what its parts
  list, and a name lists itself.  Both ways of writing several
  parents, a text with commas and a sequence, rest on this.

  Main declarations:
    * `TypeExpr.listedNames_intercalate`
    * `TypeExpr.IsWritten`, `TypeExpr.parse_raw_of_isWritten`
    * `TypeDecl.classify_printed`
    * `TypeExpr.ofValue_sequence_eq_iff`
    * `TypeExpr.written_types_survive_printing`
-/

------------------------------------------------------------
-- Joined Texts
------------------------------------------------------------

namespace RamlScaffold.TypeExpr

open RamlScaffold.Text

/- White space in front of a text is no part of its names. -/
theorem namesOf_blanks_append
    {before : List Char}
    (hBefore : IsBlank before)
    (text : List Char) :
    namesOf (before ++ text) = namesOf text := by
  have hPlain {part : List Char} (hPart : ',' ∉ part) :
      namesOf (before ++ part) = namesOf part := by
    have hNone : ',' ∉ before ++ part := by
      intro hMem
      rcases List.mem_append.mp hMem with hMem | hMem
      · exact absurd (hBefore ',' hMem) (by decide)
      · exact hPart hMem
    rw [namesOf_of_no_comma hNone, namesOf_of_no_comma hPart,
      trim_blanks_append hBefore]
  -- The white space belongs to what stands before a comma.
  by_cases hComma : ',' ∈ text
  · rcases List.eq_append_cons_of_mem hComma with
      ⟨first, rest, rfl, hFirst⟩
    rw [← List.append_assoc, namesOf_append, hPlain hFirst,
      namesOf_append]
  · exact hPlain hComma

/- Parts with commas between them list what each of them does. -/
theorem namesOf_intercalate
    {after : List Char}
    (hAfter : IsBlank after)
    (parts : List (List Char)) :
    namesOf ((',' :: after).intercalate parts) =
      parts.flatMap namesOf := by
  induction parts with
  | nil => rfl
  | cons first rest ih =>
      cases rest with
      | nil =>
          rw [List.intercalate_singleton, List.flatMap_singleton]
      | cons second others =>
          rw [List.intercalate_cons_cons, List.append_assoc,
            List.cons_append, namesOf_append,
            namesOf_blanks_append hAfter, ih]
          rfl

end RamlScaffold.TypeExpr

------------------------------------------------------------
-- Listed Names
------------------------------------------------------------

namespace RamlScaffold.TypeExpr

open RamlScaffold.Text

theorem listedNames_intercalate
    {after : String}
    (hAfter : IsBlank after.toList)
    (texts : List String) :
    listedNames (("," ++ after).intercalate texts) =
      texts.flatMap listedNames := by
  have hText :
      (("," ++ after).intercalate texts).toList =
        (',' :: after.toList).intercalate
          (texts.map String.toList) := by
    rw [String.toList_intercalate, String.toList_append]
    rfl
  unfold listedNames
  rw [hText, namesOf_intercalate hAfter, List.flatMap_map,
    List.map_flatMap]

/- Without commas a text lists itself, unless it is blank. -/
theorem listedNames_of_no_comma
    {text : String}
    (hText : ',' ∉ text.toList) :
    listedNames text = [trimmed text].filter (· != "") := by
  unfold listedNames
  rw [namesOf_of_no_comma hText]
  by_cases hBlank : trim text.toList = []
  · simp [trimmed, hBlank]
  · simp [trimmed, hBlank]

theorem listedNames_of_isName
    {name : String}
    (hName : IsName name) :
    listedNames name = [name] := by
  rw [listedNames_of_no_comma hName.noComma, hName.trimmed]
  simp [hName.nonempty]

/- Names are read back from a text that lists them. -/
theorem listedNames_of_names
    {after : String}
    (hAfter : IsBlank after.toList)
    {names : List String}
    (hNames : ∀ name ∈ names, IsName name) :
    listedNames (("," ++ after).intercalate names) = names := by
  calc
    listedNames (("," ++ after).intercalate names) =
        names.flatMap listedNames :=
      listedNames_intercalate hAfter names
    _ = names.flatMap (fun name => [name]) :=
      List.flatMap_congr
        (fun name hMem => listedNames_of_isName (hNames name hMem))
    _ = names := List.flatMap_singleton' names

end RamlScaffold.TypeExpr

------------------------------------------------------------
-- Written Expressions
------------------------------------------------------------

namespace RamlScaffold.TypeExpr

/- An expression as a text can write it. -/
inductive IsWritten : TypeExpr → Prop where
  | absent : IsWritten .absent
  | single
      {name : String}
      (hName : IsName name) :
      IsWritten (.single name)
  | multiple
      {names : List String}
      (hNames : ∀ name ∈ names, IsName name)
      (hSeveral : 2 ≤ names.length) :
      IsWritten (.multiple names)

/- Several names make an expression of several. -/
theorem ofNames_of_several
    {names : List String}
    (hSeveral : 2 ≤ names.length) :
    ofNames names = .multiple names := by
  rcases names with _ | ⟨first, _ | ⟨second, rest⟩⟩
  · cases hSeveral
  · simp at hSeveral
  · rfl

theorem isWritten_ofNames
    {names : List String}
    (hNames : ∀ name ∈ names, IsName name) :
    IsWritten (ofNames names) := by
  rcases names with _ | ⟨first, _ | ⟨second, rest⟩⟩
  · exact .absent
  · exact .single (hNames first List.mem_cons_self)
  · exact .multiple hNames (by simp)

theorem isWritten_parse (text : String) :
    IsWritten (parse text) :=
  isWritten_ofNames
    (fun _ hName => isName_of_mem_listedNames hName)

/-
  What is printed of a written expression is read as it was.
  A missing facet is printed as the object it stands for.
-/
theorem parse_raw_of_isWritten
    {expr : TypeExpr}
    (hWritten : IsWritten expr) :
    parse expr.raw =
      if expr = .absent then .single "object" else expr := by
  cases hWritten with
  | absent => decide
  | @single name hName =>
      have hListed : listedNames name = [name] :=
        listedNames_of_isName hName
      rw [raw, parse_eq, hListed, if_neg (by simp)]
      rfl
  | @multiple names hNames hSeveral =>
      have hListed :=
        listedNames_of_names
          (by decide : Text.IsBlank " ".toList) hNames
      have hSeparator : "," ++ " " = ", " := by decide
      rw [hSeparator] at hListed
      rw [raw, parse_eq, hListed, ofNames_of_several hSeveral,
        if_neg (by simp)]

end RamlScaffold.TypeExpr

------------------------------------------------------------
-- Classification
------------------------------------------------------------

namespace RamlScaffold.TypeDecl

/-
  A missing facet counts as an object.  The two differ in the
  name that an enum has, but an object is never an enum.
-/
theorem classify_absent (decl : TypeDecl) :
    { decl with typeExpr := .absent }.classify =
      { decl with typeExpr := .single "object" }.classify := by
  have hObject : Text.sameAscii "object" "object" = true := by
    decide
  simp only [classify, classifySingle, TypeExpr.raw, hObject,
    if_true]
  rfl

/- Printing a type leaves the classification as it is. -/
theorem classify_printed
    {expr : TypeExpr}
    (hWritten : expr.IsWritten)
    (decl : TypeDecl) :
    { decl with typeExpr := .parse expr.raw }.classify =
      { decl with typeExpr := expr }.classify := by
  rw [TypeExpr.parse_raw_of_isWritten hWritten]
  split
  · next hAbsent =>
      rw [hAbsent]
      exact (classify_absent decl).symm
  · rfl

end RamlScaffold.TypeDecl

------------------------------------------------------------
-- Sequences
------------------------------------------------------------

namespace RamlScaffold.TypeExpr

open RamlScaffold.Text
open Yaml

/- No names are lost in an expression. -/
theorem names_ofNames (names : List String) :
    (ofNames names).names = names := by
  rcases names with _ | ⟨first, _ | ⟨second, rest⟩⟩
  · rfl
  · rfl
  · rfl

/- The names that the texts of a sequence stand for. -/
def itemNames (texts : List String) : List String :=
  (texts.map trimmed).filter (· != "")

theorem ofValue_texts (texts : List String) :
    ofValue (some (.sequence (texts.map .text))) =
      ofNames (itemNames texts) := by
  have hTexts :
      (texts.map Value.text).filterMap Value.asText? = texts := by
    rw [List.filterMap_map]
    exact List.filterMap_some
  rw [ofValue, hTexts]
  rfl

/- Texts without commas stand for what they list. -/
theorem itemNames_of_no_comma
    {texts : List String}
    (hTexts : ∀ text ∈ texts, ',' ∉ text.toList) :
    itemNames texts = texts.flatMap listedNames := by
  induction texts with
  | nil => rfl
  | cons text rest ih =>
      rw [List.forall_mem_cons] at hTexts
      rw [List.flatMap_cons, listedNames_of_no_comma hTexts.1,
        ← ih hTexts.2, itemNames, List.map_cons,
        ← List.singleton_append, List.filter_append]
      rfl

/- A text with a comma stands for a name with that comma. -/
theorem trimmed_mem_itemNames
    {texts : List String}
    {text : String}
    (hText : text ∈ texts)
    (hComma : ',' ∈ text.toList) :
    trimmed text ∈ itemNames texts ∧
      ',' ∈ (trimmed text).toList := by
  have hKept : ',' ∈ (trimmed text).toList := by
    rw [trimmed, String.toList_ofList, mem_trim_iff (by decide)]
    exact hComma
  refine ⟨?_, hKept⟩
  refine List.mem_filter.mpr ⟨List.mem_map_of_mem hText, ?_⟩
  rw [bne_iff_ne]
  intro hEmpty
  rw [hEmpty] at hKept
  cases hKept

/-
  A sequence of texts is read as the text is that joins them
  with commas, just if no text has a comma of its own.
-/
theorem ofValue_sequence_eq_iff
    {after : String}
    (hAfter : IsBlank after.toList)
    (texts : List String) :
    ofValue (some (.sequence (texts.map .text))) =
        parse (("," ++ after).intercalate texts) ↔
      ∀ text ∈ texts, ',' ∉ text.toList := by
  rw [ofValue_texts, parse_eq, listedNames_intercalate hAfter]
  constructor
  · intro hSame text hText hComma
    have hNames := congrArg names hSame
    rw [names_ofNames, names_ofNames] at hNames
    rcases trimmed_mem_itemNames hText hComma with ⟨hMem, hKept⟩
    -- The joined text would list a name with a comma in it.
    rw [hNames] at hMem
    rcases List.mem_flatMap.mp hMem with ⟨other, -, hListed⟩
    exact (isName_of_mem_listedNames hListed).noComma hKept
  · intro hTexts
    rw [itemNames_of_no_comma hTexts]

/-
  Written types survive printing.

  Whatever a text says, the expression it is read as is read
  again from its printed form, and a missing one becomes the
  object it stands for.  The printed form never changes what a
  declaration compiles to.  A sequence of texts is the same
  expression as the text that joins them with commas if and
  only if none of the texts has a comma.
-/
theorem written_types_survive_printing :
    (∀ text : String,
      parse (parse text).raw =
        if parse text = .absent then .single "object"
        else parse text) ∧
      (∀ (text : String) (decl : TypeDecl),
        { decl with
            typeExpr := parse (parse text).raw }.classify =
          { decl with typeExpr := parse text }.classify) ∧
      ∀ texts : List String,
        ofValue (some (.sequence (texts.map .text))) =
            parse (",".intercalate texts) ↔
          ∀ text ∈ texts, ',' ∉ text.toList := by
  refine ⟨?_, ?_, ?_⟩
  · intro text
    exact parse_raw_of_isWritten (isWritten_parse text)
  · intro text decl
    exact TypeDecl.classify_printed (isWritten_parse text) decl
  · intro texts
    have hIff :=
      ofValue_sequence_eq_iff
        (by decide : IsBlank "".toList) texts
    rw [String.append_empty] at hIff
    exact hIff

/- Only the names are left of a text that is printed again. -/
example :
    (parse " Cat ,, Dog\t,").raw = "Cat, Dog" ∧
      parse "Cat, Dog" = .multiple ["Cat", "Dog"] := by
  decide

end RamlScaffold.TypeExpr
