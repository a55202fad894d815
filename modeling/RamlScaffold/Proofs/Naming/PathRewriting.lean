import RamlScaffold.Proofs.Naming.PathPieces
import RamlScaffold.Proofs.Naming.SnakeWords
import RamlScaffold.Proofs.Text.Replacement

/-
  Paths whose parameters are replaced one after the other.

  Every replacement goes through the whole path and may meet
  what an earlier one has written.  It still amounts to one
  pass that spells each parameter once, because an occurrence
  of a braced name is always a parameter and a spelling is
  kept when it is met again.

  Main declarations:
    * `Naming.IsSettled`
    * `Naming.replaceAll_writtenWith`
    * `Naming.replaceParams_eq`
    * `Naming.occurrences_placeholders`
    * `Naming.rewritten_path_matches_params`
-/

------------------------------------------------------------
-- One Replacement
------------------------------------------------------------

namespace RamlScaffold.Naming

open RamlScaffold.Text

/- A spelling that holds no braced name but as a whole. -/
def IsPlain (spelling : List Char) : Prop :=
  '\x7b' ∉ spelling ∨
    ∃ name, BraceFree name ∧ spelling = braced name

/- Names in braces differ where texts start with them. -/
theorem eq_of_braced_starts
    {first second rest : List Char}
    (hFirst : '\x7d' ∉ first)
    (hSecond : '\x7d' ∉ second)
    (hPrefix : braced first <+: braced second ++ rest) :
    first = second := by
  rcases hPrefix with ⟨after, hSame⟩
  have hTaken
      {name : List Char}
      (hName : '\x7d' ∉ name)
      (behind : List Char) :
      (name ++ '\x7d' :: behind).takeWhile (· != '\x7d') =
        name := by
    have hPassed : ∀ c ∈ name, (c != '\x7d') = true := by
      intro c hc
      rw [bne_iff_ne]
      rintro rfl
      exact hName hc
    rw [List.takeWhile_append_of_pos hPassed]
    simp
  have hText :
      first ++ '\x7d' :: after = second ++ '\x7d' :: rest := by
    simpa [braced] using hSame
  calc
    first =
        (first ++ '\x7d' :: after).takeWhile (· != '\x7d') :=
      (hTaken hFirst after).symm
    _ = second := by rw [hText, hTaken hSecond]

/- Another braced name is passed over. -/
theorem replaceAll_braced_append
    {name other : List Char}
    (hName : BraceFree name)
    (hOther : BraceFree other)
    (hDiffers : name ≠ other)
    (spelling rest : List Char) :
    replaceAll (braced name) spelling (braced other ++ rest) =
      braced other ++ replaceAll (braced name) spelling rest := by
  have hClosed : '\x7b' ∉ other ++ ['\x7d'] := by
    simp [hOther.1]
  have hMiss : ¬ braced name <+: braced other ++ rest :=
    fun hPrefix =>
      hDiffers (eq_of_braced_starts hName.2 hOther.2 hPrefix)
  have hText :
      braced other ++ rest =
        '\x7b' :: ((other ++ ['\x7d']) ++ rest) :=
    rfl
  rw [hText] at hMiss ⊢
  rw [replaceAll_cons_of_miss hMiss, braced,
    replaceAll_append_of_not_mem hClosed]
  rfl

section Replacement

variable
  {name : List Char}
  (hName : BraceFree name)
  (spelling : List Char)
include hName

/- A spelling is replaced as a whole or passed over. -/
theorem replaceAll_spelling_append
    {text : List Char}
    (hText : IsPlain text)
    (rest : List Char) :
    replaceAll (braced name) spelling (text ++ rest) =
      (if text = braced name then spelling else text) ++
        replaceAll (braced name) spelling rest := by
  rcases hText with hPlain | ⟨known, hKnown, rfl⟩
  · have hDiffers : text ≠ braced name := by
      rintro rfl
      exact hPlain List.mem_cons_self
    rw [if_neg hDiffers]
    exact replaceAll_append_of_not_mem hPlain rest
  · by_cases hSame : name = known
    · rw [hSame, if_pos rfl]
      exact replaceAll_pattern_append rest
    · have hDiffers : braced known ≠ braced name := by
        intro hBraced
        apply hSame
        apply eq_of_braced_starts hName.2 hKnown.2
        rw [hBraced]
        exact List.prefix_append (braced name) []
      rw [if_neg hDiffers]
      exact replaceAll_braced_append hName hKnown hSame _ rest

/- Between empty braces no name fits. -/
theorem replaceAll_empty_append
    (hSome : name ≠ [])
    (rest : List Char) :
    replaceAll (braced name) spelling
        ('\x7b' :: '\x7d' :: rest) =
      '\x7b' :: '\x7d' ::
        replaceAll (braced name) spelling rest := by
  have hClosed : '\x7b' ∉ ['\x7d'] := by decide
  have hMiss :
      ¬ braced name <+: '\x7b' :: (['\x7d'] ++ rest) := by
    intro hPrefix
    rcases List.exists_cons_of_ne_nil hSome with
      ⟨c, letters, rfl⟩
    have hTail := (List.cons_prefix_cons.mp hPrefix).2
    have hFirst : c = '\x7d' :=
      (List.cons_prefix_cons.mp hTail).1
    apply hName.2
    rw [hFirst]
    exact List.mem_cons_self
  rw [← List.singleton_append (l := rest),
    replaceAll_cons_of_miss hMiss, braced,
    replaceAll_append_of_not_mem hClosed]
  rfl

/-
  Replacing a braced name replaces the parameters that are
  spelled like it and nothing else.
-/
theorem replaceAll_writtenWith
    (hSome : name ≠ [])
    {row : List Piece}
    (hRow : IsParted row)
    {spell : List Char → List Char}
    (hSpell : ∀ param ∈ paramsOf row, IsPlain (spell param)) :
    replaceAll (braced name) spelling (writtenWith spell row) =
      writtenWith
        (fun param =>
          if spell param = braced name then spelling
          else spell param)
        row := by
  induction hRow with
  | nil => rfl
  | @sign c row hSign _ ih =>
      have hPlain : '\x7b' ∉ [c] := by
        simpa using Ne.symm hSign
      have hPasses :
          replaceAll (braced name) spelling
              ([c] ++ writtenWith spell row) =
            [c] ++
              replaceAll (braced name) spelling
                (writtenWith spell row) :=
        replaceAll_append_of_not_mem hPlain _
      rw [writtenWith_sign, writtenWith_sign, ← ih hSpell]
      exact hPasses
  | @param other row _ _ _ ih =>
      have hNames := List.forall_mem_cons.mp hSpell
      rw [writtenWith_param, writtenWith_param, ← ih hNames.2]
      exact
        replaceAll_spelling_append hName spelling hNames.1 _
  | @empty row _ ih =>
      rw [writtenWith_sign, writtenWith_sign, writtenWith_sign,
        writtenWith_sign, ← ih hSpell]
      exact replaceAll_empty_append hName spelling hSome _
  | @unclosed signs hSigns =>
      rw [writtenWith_sign, writtenWith_signs, writtenWith_sign,
        writtenWith_signs]
      apply replaceAll_of_not_mem (c := '\x7d')
      · simp [braced]
      · simp [hSigns]

end Replacement

end RamlScaffold.Naming

------------------------------------------------------------
-- One Replacement After The Other
------------------------------------------------------------

namespace RamlScaffold.Naming

open RamlScaffold.Text

variable {spell : List Char → List Char}

/- What becomes of a spelling when a name is replaced. -/
def respell
    (spell : List Char → List Char)
    (spelling name : List Char) : List Char :=
  if spelling = braced name then spell name else spelling

/-
  A spelling that is kept when it is met again: a name in
  braces that it may be is spelled alike.
-/
def IsSettled
    (spell : List Char → List Char)
    (name : List Char) : Prop :=
  ∀ other, spell name = braced other → spell other = spell name

theorem foldl_respell_of_settled
    {name : List Char}
    (hSettled : IsSettled spell name)
    (names : List (List Char)) :
    names.foldl (respell spell) (spell name) = spell name := by
  induction names with
  | nil => rfl
  | cons other names ih =>
      have hKept : respell spell (spell name) other = spell name := by
        unfold respell
        split
        · next hSame => exact hSettled other hSame
        · rfl
      rw [List.foldl_cons, hKept, ih]

/- A parameter is spelled when its own turn comes. -/
theorem foldl_respell_braced
    {name : List Char}
    (hSettled : IsSettled spell name)
    {names : List (List Char)}
    (hMem : name ∈ names) :
    names.foldl (respell spell) (braced name) = spell name := by
  induction names with
  | nil => cases hMem
  | cons other names ih =>
      rw [List.foldl_cons]
      by_cases hSame : name = other
      · rw [respell, hSame, if_pos rfl]
        exact foldl_respell_of_settled (hSame ▸ hSettled) names
      · have hDiffers : braced name ≠ braced other := by
          intro hBraced
          exact hSame (by simpa [braced] using hBraced)
        rw [respell, if_neg hDiffers]
        exact ih ((List.mem_cons.mp hMem).resolve_left hSame)

theorem writtenWith_congr
    {first second : List Char → List Char}
    {row : List Piece}
    (hSame : ∀ name ∈ paramsOf row, first name = second name) :
    writtenWith first row = writtenWith second row := by
  induction row with
  | nil => rfl
  | cons piece row ih =>
      cases piece with
      | sign c => exact congrArg (c :: ·) (ih hSame)
      | param name =>
          have hNames := List.forall_mem_cons.mp hSame
          rw [writtenWith_param, writtenWith_param, hNames.1,
            ih hNames.2]

/- Replacing names in turn respells each parameter in turn. -/
theorem foldl_replaceAll_writtenWith
    {row : List Piece}
    (hRow : IsParted row)
    {names : List (List Char)}
    (hNames : ∀ name ∈ names, name ≠ [] ∧ BraceFree name)
    (hSpell : ∀ name ∈ names, IsPlain (spell name))
    {current : List Char → List Char}
    (hCurrent : ∀ name ∈ paramsOf row, IsPlain (current name)) :
    names.foldl
        (fun text name =>
          replaceAll (braced name) (spell name) text)
        (writtenWith current row) =
      writtenWith
        (fun param => names.foldl (respell spell) (current param))
        row := by
  induction names generalizing current with
  | nil => rfl
  | cons name names ih =>
      rw [List.forall_mem_cons] at hNames hSpell
      have hNext :
          ∀ param ∈ paramsOf row,
            IsPlain (respell spell (current param) name) := by
        intro param hParam
        unfold respell
        split
        · exact hSpell.1
        · exact hCurrent param hParam
      rw [List.foldl_cons,
        replaceAll_writtenWith hNames.1.2 (spell name)
          hNames.1.1 hRow hCurrent]
      exact ih hNames.2 hSpell.2 hNext

/-
  Replacing the parameters one after the other is one pass
  along the path that spells each of them.
-/
theorem replaceParams_eq
    {path : List Char}
    (hParams : ∀ name ∈ paramsFrom none path, '\x7b' ∉ name)
    (hSpell :
      ∀ name ∈ paramsFrom none path, IsPlain (spell name))
    (hSettled :
      ∀ name ∈ paramsFrom none path, IsSettled spell name) :
    replaceParams spell path = writtenWith spell (pieces path) := by
  have hRow := isParted_pieces hParams
  rw [← paramsOf_pieces] at hSpell hSettled
  have hBraced :
      ∀ name ∈ paramsOf (pieces path), IsPlain (braced name) :=
    fun name hName =>
      Or.inr ⟨name, (hRow.param_of_mem hName).2, rfl⟩
  have hTurns :=
    foldl_replaceAll_writtenWith hRow
      (fun _ hName => hRow.param_of_mem hName) hSpell hBraced
  have hText : writtenWith braced (pieces path) = path :=
    written_pieces path
  rw [hText, paramsOf_pieces] at hTurns
  unfold replaceParams
  rw [hTurns]
  apply writtenWith_congr
  intro name hName
  rw [← paramsOf_pieces]
  exact foldl_respell_braced (hSettled name hName) hName

end RamlScaffold.Naming

------------------------------------------------------------
-- Placeholders
------------------------------------------------------------

namespace RamlScaffold.Naming

open RamlScaffold.Text

/- What stands in a path for a parameter in Go. -/
def placeholder : List Char :=
  ['%', 'v']

theorem occurrences_placeholder_cons
    {c : Char}
    (hOther : c ≠ '%')
    (rest : List Char) :
    occurrences placeholder (c :: rest) =
      occurrences placeholder rest := by
  have hMiss : ¬ placeholder.isPrefixOf (c :: rest) = true := by
    rw [List.isPrefixOf_iff_prefix]
    intro hPrefix
    exact hOther (List.cons_prefix_cons.mp hPrefix).1.symm
  rw [occurrences_cons, if_neg hMiss, Nat.add_zero]

theorem occurrences_placeholder_append (rest : List Char) :
    occurrences placeholder (placeholder ++ rest) =
      occurrences placeholder rest + 1 := by
  have hText : placeholder ++ rest = '%' :: 'v' :: rest := rfl
  have hStarts :
      placeholder.isPrefixOf ('%' :: 'v' :: rest) = true :=
    rfl
  have hOther : 'v' ≠ '%' := by decide
  rw [hText, occurrences_cons, if_pos hStarts,
    occurrences_placeholder_cons hOther]

/- A row has one placeholder for each parameter. -/
theorem occurrences_placeholders
    {row : List Piece}
    (hRow : '%' ∉ writtenWith (fun _ => []) row) :
    occurrences placeholder (writtenWith (fun _ => placeholder) row) =
      (paramsOf row).length := by
  induction row with
  | nil => rfl
  | cons piece row ih =>
      cases piece with
      | sign c =>
          rw [writtenWith_sign, List.mem_cons, not_or] at hRow
          rw [writtenWith_sign,
            occurrences_placeholder_cons (Ne.symm hRow.1),
            ih hRow.2]
          rfl
      | param name =>
          rw [writtenWith_param, occurrences_placeholder_append,
            ih hRow]
          rfl

/- The signs of a path are among its characters. -/
theorem mem_of_mem_signs
    {c : Char}
    {row : List Piece}
    (hMem : c ∈ writtenWith (fun _ => []) row) :
    c ∈ written row := by
  rcases List.mem_flatMap.mp hMem with ⟨piece, hPiece, hSpelled⟩
  cases piece with
  | sign d => exact List.mem_flatMap.mpr ⟨_, hPiece, hSpelled⟩
  | param name => cases hSpelled

end RamlScaffold.Naming

------------------------------------------------------------
-- Both Spellings
------------------------------------------------------------

namespace RamlScaffold.Naming

open RamlScaffold.Alphabet RamlScaffold.Text

theorem isAscii_of_mem_params
    {path : List Char}
    (hPath : ∀ c ∈ path, isAscii c = true)
    {name : List Char}
    (hName : name ∈ paramsFrom none path)
    {c : Char}
    (hMem : c ∈ name) :
    isAscii c = true := by
  apply hPath
  rw [← paramsOf_pieces] at hName
  rcases List.mem_filterMap.mp hName with ⟨piece, hPiece, hParam⟩
  rw [← written_pieces path]
  refine List.mem_flatMap.mpr ⟨piece, hPiece, ?_⟩
  cases piece with
  | sign d => cases hParam
  | param other =>
      rw [← Option.some.inj hParam] at hMem
      simp [Piece.spelled, braced, hMem]

/- Snake case brings no braces into an ASCII name. -/
theorem braceFree_snakeChars
    {name : List Char}
    (hName : ∀ c ∈ name, isAscii c = true) :
    BraceFree (snakeChars name) := by
  constructor
  · intro hMem
    have hPlain := isModuleChar_of_mem_snakeChars hName hMem
    revert hPlain
    decide
  · intro hMem
    have hPlain := isModuleChar_of_mem_snakeChars hName hMem
    revert hPlain
    decide

/- In snake case every parameter is spelled in place. -/
theorem replaceParams_snakeChars
    {path : List Char}
    (hPath : ∀ c ∈ path, isAscii c = true)
    (hParams : ∀ name ∈ paramsFrom none path, '\x7b' ∉ name) :
    replaceParams (fun name => braced (snakeChars name)) path =
      written ((pieces path).map (Piece.rename snakeChars)) := by
  have hAscii {name : List Char}
      (hName : name ∈ paramsFrom none path) :
      ∀ c ∈ name, isAscii c = true :=
    fun _ hc => isAscii_of_mem_params hPath hName hc
  rw [written_rename]
  apply replaceParams_eq hParams
  · intro name hName
    exact
      Or.inr
        ⟨snakeChars name, braceFree_snakeChars (hAscii hName), rfl⟩
  · intro name hName other hSame
    have hOther : snakeChars name = other := by
      simpa [braced] using hSame
    have hAgain := snakeChars_snakeChars (hAscii hName)
    rw [← hOther]
    exact congrArg braced hAgain

theorem replaceParams_placeholder
    {path : List Char}
    (hParams : ∀ name ∈ paramsFrom none path, '\x7b' ∉ name) :
    replaceParams (fun _ => placeholder) path =
      writtenWith (fun _ => placeholder) (pieces path) :=
  replaceParams_eq hParams (fun _ _ => Or.inl (by decide))
    (fun _ _ _ _ => rfl)

section Paths

variable
  {path : String}
  (hParams : ∀ name ∈ pathParams path, '\x7b' ∉ name.toList)
include hParams

theorem not_mem_params :
    ∀ name ∈ paramsFrom none path.toList, '\x7b' ∉ name := by
  intro name hName
  have hTest :=
    hParams (String.ofList name) (List.mem_map_of_mem hName)
  rw [String.toList_ofList] at hTest
  exact hTest

/- In snake case a path has its parameters renamed in place. -/
theorem pieces_snakePath
    (hPath : IsAsciiText path) :
    pieces (snakePath path).toList =
      (pieces path.toList).map (Piece.rename snakeChars) := by
  have hNames := not_mem_params hParams
  rw [snakePath, String.toList_ofList,
    replaceParams_snakeChars hPath hNames]
  apply pieces_written
  apply (isParted_pieces hNames).rename
  intro name hName
  rw [paramsOf_pieces] at hName
  exact
    ⟨snakeChars_ne_nil name,
      braceFree_snakeChars
        (fun _ hc => isAscii_of_mem_params hPath hName hc)⟩

/- Its parameters are the ones in snake case. -/
theorem pathParams_snakePath
    (hPath : IsAsciiText path) :
    pathParams (snakePath path) =
      (pathParams path).map snakeCase := by
  rw [pathParams, ← paramsOf_pieces,
    pieces_snakePath hParams hPath, paramsOf_rename,
    paramsOf_pieces, pathParams, List.map_map, List.map_map]
  refine List.map_congr_left ?_
  intro name _
  simp [snakeCase]

/- In Go a path has placeholders for its parameters. -/
theorem toList_placeholderPath :
    (placeholderPath path).toList =
      writtenWith (fun _ => placeholder)
        (pieces path.toList) := by
  rw [placeholderPath, String.toList_ofList]
  exact replaceParams_placeholder (not_mem_params hParams)

/- No other placeholder is found without a percent sign. -/
theorem occurrences_placeholderPath
    (hPercent : '%' ∉ path.toList) :
    occurrences placeholder (placeholderPath path).toList =
      (pathParams path).length := by
  have hSigns :
      '%' ∉ writtenWith (fun _ => []) (pieces path.toList) := by
    intro hMem
    apply hPercent
    rw [← written_pieces path.toList]
    exact mem_of_mem_signs hMem
  rw [toList_placeholderPath hParams,
    occurrences_placeholders hSigns, paramsOf_pieces, pathParams,
    List.length_map]

end Paths

/-
  The paths of a client match its parameters.  A path is a row
  of signs and of the parameters that are listed.  In snake
  case it has the same signs and, in the same places, the
  parameters in snake case, so these are the parameters that
  are listed.  With placeholders it has one of them in the
  place of every parameter, and no other.
-/
theorem rewritten_path_matches_params
    {path : String}
    (hPath : IsAsciiText path)
    (hParams :
      ∀ name ∈ pathParams path, '\x7b' ∉ name.toList) :
    written (pieces path.toList) = path.toList ∧
      (paramsOf (pieces path.toList)).map String.ofList =
        pathParams path ∧
      pieces (snakePath path).toList =
        (pieces path.toList).map (Piece.rename snakeChars) ∧
      pathParams (snakePath path) =
        (pathParams path).map snakeCase ∧
      (placeholderPath path).toList =
        writtenWith (fun _ => placeholder)
          (pieces path.toList) ∧
      ('%' ∉ path.toList →
        occurrences placeholder (placeholderPath path).toList =
          (pathParams path).length) := by
  refine
    ⟨written_pieces path.toList, ?_,
      pieces_snakePath hParams hPath,
      pathParams_snakePath hParams hPath,
      toList_placeholderPath hParams,
      occurrences_placeholderPath hParams⟩
  rw [paramsOf_pieces, pathParams]

/-
  A path with a parameter that comes twice and another one
  that is like it in snake case, with empty braces, and with a
  brace that is never closed.
-/
def tangledPath : String :=
  "/users/\x7buserId\x7d/\x7b\x7d/\x7buser_id\x7d" ++
    "/\x7buserId\x7d/\x7bpart"

theorem tangledPath_matches_params :
    IsAsciiText tangledPath ∧
      (∀ name ∈ pathParams tangledPath, '\x7b' ∉ name.toList) ∧
      pathParams (snakePath tangledPath) =
        (pathParams tangledPath).map snakeCase ∧
      pathParams (snakePath tangledPath) =
        ["user_id", "user_id", "user_id"] ∧
      occurrences placeholder
          (placeholderPath tangledPath).toList =
        (pathParams tangledPath).length := by
  have hPath : IsAsciiText tangledPath := by decide +kernel
  have hParams :
      ∀ name ∈ pathParams tangledPath,
        '\x7b' ∉ name.toList := by
    decide +kernel
  rcases rewritten_path_matches_params hPath hParams with
    ⟨-, -, -, hSnake, -, hCount⟩
  exact
    ⟨hPath, hParams, hSnake, by decide +kernel,
      hCount (by decide +kernel)⟩

end RamlScaffold.Naming
