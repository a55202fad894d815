import RamlScaffold.Naming

/-
  A path as a row of signs and parameters.

  Braces with nothing between them and an opening brace that
  is never closed are signs like any other.  As long as no
  parameter holds an opening brace, every opening brace of the
  path is accounted for, and the row is read back from any
  spelling that keeps the braces.

  Main declarations:
    * `Naming.Piece`, `Naming.pieces`
    * `Naming.written`, `Naming.written_pieces`
    * `Naming.paramsOf_pieces`
    * `Naming.IsParted`, `Naming.isParted_pieces`
    * `Naming.pieces_written`
-/

------------------------------------------------------------
-- Pieces
------------------------------------------------------------

namespace RamlScaffold.Naming

/- A sign of a path, or a parameter. -/
inductive Piece where
  | sign (c : Char)
  | param (name : List Char)
deriving DecidableEq, Repr

namespace Piece

/- A piece in a spelling of parameters. -/
def spelled (spell : List Char → List Char) : Piece → List Char
  | .sign c => [c]
  | .param name => spell name

/- The name of a parameter. -/
def name? : Piece → Option (List Char)
  | .sign _ => none
  | .param name => some name

/- A piece whose name, if it has one, is changed. -/
def rename (change : List Char → List Char) : Piece → Piece
  | .sign c => .sign c
  | .param name => .param (change name)

end Piece

/-
  The pieces of a text.  `name` is the reversed text since the
  brace that is open, if one is.
-/
def piecesFrom :
    Option (List Char) → List Char → List Piece
  | none, [] => []
  | some name, [] => .sign '\x7b' :: name.reverse.map .sign
  | none, c :: rest =>
      if c == '\x7b' then piecesFrom (some []) rest
      else .sign c :: piecesFrom none rest
  | some name, c :: rest =>
      if c == '\x7d' then
        if name.isEmpty then
          .sign '\x7b' :: .sign '\x7d' :: piecesFrom none rest
        else .param name.reverse :: piecesFrom none rest
      else piecesFrom (some (c :: name)) rest

/- The signs and the parameters of a path, in order. -/
def pieces (path : List Char) : List Piece :=
  piecesFrom none path

/- A row of pieces with its parameters spelled. -/
def writtenWith
    (spell : List Char → List Char)
    (row : List Piece) : List Char :=
  row.flatMap (Piece.spelled spell)

/- A row of pieces with its parameters between braces. -/
def written (row : List Piece) : List Char :=
  writtenWith braced row

/- The names of the parameters of a row. -/
def paramsOf (row : List Piece) : List (List Char) :=
  row.filterMap Piece.name?

section Spelling

variable
  (spell : List Char → List Char)
  (row : List Piece)

@[simp]
theorem writtenWith_sign (c : Char) :
    writtenWith spell (.sign c :: row) =
      c :: writtenWith spell row :=
  rfl

@[simp]
theorem writtenWith_param (name : List Char) :
    writtenWith spell (.param name :: row) =
      spell name ++ writtenWith spell row :=
  rfl

@[simp]
theorem writtenWith_signs (signs : List Char) :
    writtenWith spell (signs.map .sign) = signs := by
  induction signs with
  | nil => rfl
  | cons c signs ih => exact congrArg (c :: ·) ih

end Spelling

@[simp]
theorem written_sign
    (c : Char)
    (row : List Piece) :
    written (.sign c :: row) = c :: written row :=
  rfl

@[simp]
theorem written_param
    (name : List Char)
    (row : List Piece) :
    written (.param name :: row) = braced name ++ written row :=
  rfl

@[simp]
theorem written_signs (signs : List Char) :
    written (signs.map .sign) = signs :=
  writtenWith_signs braced signs

@[simp]
theorem paramsOf_signs (signs : List Char) :
    paramsOf (signs.map .sign) = [] := by
  induction signs with
  | nil => rfl
  | cons c signs ih => exact ih

/- New names between braces are a spelling, too. -/
theorem written_rename
    (change : List Char → List Char)
    (row : List Piece) :
    written (row.map (Piece.rename change)) =
      writtenWith (fun name => braced (change name)) row := by
  induction row with
  | nil => rfl
  | cons piece row ih =>
      cases piece with
      | sign c => exact congrArg (c :: ·) ih
      | param name => exact congrArg (braced (change name) ++ ·) ih

theorem paramsOf_rename
    (change : List Char → List Char)
    (row : List Piece) :
    paramsOf (row.map (Piece.rename change)) =
      (paramsOf row).map change := by
  induction row with
  | nil => rfl
  | cons piece row ih =>
      cases piece with
      | sign c => exact ih
      | param name => exact congrArg (change name :: ·) ih

end RamlScaffold.Naming

------------------------------------------------------------
-- Pieces Of A Path
------------------------------------------------------------

namespace RamlScaffold.Naming

/- The text that has been read since a brace was opened. -/
def opened : Option (List Char) → List Char
  | none => []
  | some name => '\x7b' :: name.reverse

theorem written_piecesFrom
    (name? : Option (List Char))
    (text : List Char) :
    written (piecesFrom name? text) = opened name? ++ text := by
  induction text generalizing name? with
  | nil =>
      cases name? with
      | none => rfl
      | some name =>
          rw [piecesFrom, written_sign, written_signs,
            List.append_nil]
          rfl
  | cons c rest ih =>
      cases name? with
      | none =>
          rw [piecesFrom]
          split
          · next hOpen =>
              rw [ih, beq_iff_eq.mp hOpen]
              rfl
          · exact congrArg (c :: ·) (ih none)
      | some name =>
          rw [piecesFrom]
          split
          · next hClose =>
              rw [beq_iff_eq.mp hClose]
              split
              · next hEmpty =>
                  rw [List.isEmpty_iff.mp hEmpty, written_sign,
                    written_sign, ih]
                  rfl
              · rw [written_param, ih]
                simp [braced, opened]
          · rw [ih]
            simp [opened]

/- Nothing of a path is lost. -/
theorem written_pieces (path : List Char) :
    written (pieces path) = path :=
  written_piecesFrom none path

theorem paramsOf_piecesFrom
    (name? : Option (List Char))
    (text : List Char) :
    paramsOf (piecesFrom name? text) = paramsFrom name? text := by
  induction text generalizing name? with
  | nil =>
      cases name? with
      | none => rfl
      | some name => exact paramsOf_signs name.reverse
  | cons c rest ih =>
      cases name? with
      | none =>
          rw [piecesFrom, paramsFrom]
          split
          · exact ih (some [])
          · exact ih none
      | some name =>
          rw [piecesFrom, paramsFrom]
          split
          · split
            · exact ih none
            · exact congrArg (name.reverse :: ·) (ih none)
          · exact ih (some (c :: name))

/- Its parameters are the ones that are listed. -/
theorem paramsOf_pieces (path : List Char) :
    paramsOf (pieces path) = paramsFrom none path :=
  paramsOf_piecesFrom none path

end RamlScaffold.Naming

------------------------------------------------------------
-- Rows With Braces Around Parameters Only
------------------------------------------------------------

namespace RamlScaffold.Naming

/- A name without braces. -/
def BraceFree (name : List Char) : Prop :=
  '\x7b' ∉ name ∧ '\x7d' ∉ name

/-
  A row in which an opening brace is a sign only right before
  a closing one, or where none closes any more.
-/
inductive IsParted : List Piece → Prop where
  | nil : IsParted []
  | sign
      {c : Char}
      {row : List Piece}
      (hSign : c ≠ '\x7b')
      (hRow : IsParted row) :
      IsParted (.sign c :: row)
  | param
      {name : List Char}
      {row : List Piece}
      (hSome : name ≠ [])
      (hName : BraceFree name)
      (hRow : IsParted row) :
      IsParted (.param name :: row)
  | empty
      {row : List Piece}
      (hRow : IsParted row) :
      IsParted (.sign '\x7b' :: .sign '\x7d' :: row)
  | unclosed
      {signs : List Char}
      (hSigns : '\x7d' ∉ signs) :
      IsParted (.sign '\x7b' :: signs.map .sign)

theorem isParted_piecesFrom
    {name? : Option (List Char)}
    (hOpened : ∀ name ∈ name?, '\x7d' ∉ name)
    {text : List Char}
    (hParams : ∀ name ∈ paramsFrom name? text, '\x7b' ∉ name) :
    IsParted (piecesFrom name? text) := by
  induction text generalizing name? with
  | nil =>
      cases name? with
      | none => exact .nil
      | some name =>
          refine .unclosed ?_
          rw [List.mem_reverse]
          exact hOpened name rfl
  | cons c rest ih =>
      have hNone : ∀ name ∈ (none : Option (List Char)),
          '\x7d' ∉ name := by
        simp
      cases name? with
      | none =>
          rw [paramsFrom] at hParams
          rw [piecesFrom]
          split at hParams
          · next hOpen =>
              rw [if_pos hOpen]
              exact ih (by simp) hParams
          · next hOther =>
              rw [if_neg hOther]
              refine .sign ?_ (ih hNone hParams)
              simpa using hOther
      | some name =>
          have hName := hOpened name rfl
          rw [paramsFrom] at hParams
          rw [piecesFrom]
          split at hParams
          · next hClose =>
              rw [if_pos hClose]
              split at hParams
              · next hEmpty =>
                  rw [if_pos hEmpty]
                  exact .empty (ih hNone hParams)
              · next hSome =>
                  rw [if_neg hSome]
                  rw [List.forall_mem_cons] at hParams
                  refine
                    .param ?_ ⟨hParams.1, ?_⟩
                      (ih hNone hParams.2)
                  · simpa using hSome
                  · rw [List.mem_reverse]
                    exact hName
          · next hOther =>
              rw [if_neg hOther]
              refine ih ?_ hParams
              intro longer hLonger
              cases hLonger
              rw [List.mem_cons, not_or]
              exact
                ⟨fun hSame => hOther (beq_iff_eq.mpr hSame.symm),
                  hName⟩

/-
  The pieces of a path are parted like that if no parameter
  holds an opening brace.
-/
theorem isParted_pieces
    {path : List Char}
    (hParams : ∀ name ∈ paramsFrom none path, '\x7b' ∉ name) :
    IsParted (pieces path) :=
  isParted_piecesFrom (by simp) hParams

/- Its parameters have names, and names without braces. -/
theorem IsParted.param_of_mem
    {row : List Piece}
    (hRow : IsParted row)
    {name : List Char}
    (hName : name ∈ paramsOf row) :
    name ≠ [] ∧ BraceFree name := by
  induction hRow with
  | nil => cases hName
  | sign _ _ ih => exact ih hName
  | param hSome hFree _ ih =>
      rcases List.mem_cons.mp hName with rfl | hName
      · exact ⟨hSome, hFree⟩
      · exact ih hName
  | empty _ ih => exact ih hName
  | @unclosed signs _ =>
      have hNone : name ∈ paramsOf (signs.map .sign) := hName
      simp at hNone

/- New names without braces leave a row parted. -/
theorem IsParted.rename
    {row : List Piece}
    (hRow : IsParted row)
    {change : List Char → List Char}
    (hChange :
      ∀ name ∈ paramsOf row,
        change name ≠ [] ∧ BraceFree (change name)) :
    IsParted (row.map (Piece.rename change)) := by
  induction hRow with
  | nil => exact .nil
  | sign hSign _ ih => exact .sign hSign (ih hChange)
  | @param name row _ _ _ ih =>
      have hNames := List.forall_mem_cons.mp hChange
      exact .param hNames.1.1 hNames.1.2 (ih hNames.2)
  | empty _ ih => exact .empty (ih hChange)
  | @unclosed signs hSigns =>
      have hSame :
          (signs.map Piece.sign).map (Piece.rename change) =
            signs.map .sign := by
        rw [List.map_map]
        rfl
      rw [List.map_cons, hSame]
      exact .unclosed hSigns

end RamlScaffold.Naming

------------------------------------------------------------
-- Reading Back
------------------------------------------------------------

namespace RamlScaffold.Naming

/- A name is read up to the brace behind it. -/
theorem piecesFrom_append
    {text : List Char}
    (hText : '\x7d' ∉ text)
    (name rest : List Char) :
    piecesFrom (some name) (text ++ rest) =
      piecesFrom (some (text.reverse ++ name)) rest := by
  induction text generalizing name with
  | nil => rfl
  | cons c text ih =>
      rw [List.mem_cons, not_or] at hText
      have hOther : ¬ (c == '\x7d') = true :=
        fun hSame => hText.1 (beq_iff_eq.mp hSame).symm
      rw [List.cons_append, piecesFrom, if_neg hOther,
        ih hText.2, List.reverse_cons, List.append_assoc]
      rfl

theorem pieces_braced_append
    {name : List Char}
    (hSome : name ≠ [])
    (hName : BraceFree name)
    (rest : List Char) :
    pieces (braced name ++ rest) = .param name :: pieces rest := by
  have hText :
      braced name ++ rest =
        '\x7b' :: (name ++ '\x7d' :: rest) := by
    simp [braced]
  have hReverse : name.reverse ++ [] ≠ [] := by
    simpa using hSome
  rw [hText, pieces, piecesFrom, if_pos (beq_self_eq_true _),
    piecesFrom_append hName.2, piecesFrom,
    if_pos (beq_self_eq_true _),
    if_neg (by simpa using hReverse), List.append_nil,
    List.reverse_reverse]
  rfl

/- A parted row is read back from its text. -/
theorem pieces_written
    {row : List Piece}
    (hRow : IsParted row) :
    pieces (written row) = row := by
  induction hRow with
  | nil => rfl
  | @sign c row hSign _ ih =>
      have hOther : ¬ (c == '\x7b') = true := by
        simpa using hSign
      rw [written_sign, pieces, piecesFrom, if_neg hOther]
      exact congrArg (Piece.sign c :: ·) ih
  | @param name row hSome hName _ ih =>
      rw [written_param, pieces_braced_append hSome hName, ih]
  | empty _ ih =>
      exact
        congrArg (Piece.sign '\x7b' :: Piece.sign '\x7d' :: ·) ih
  | @unclosed signs hSigns =>
      rw [written_sign, written_signs, pieces, piecesFrom,
        if_pos (beq_self_eq_true _),
        ← List.append_nil signs, piecesFrom_append hSigns,
        piecesFrom]
      simp

end RamlScaffold.Naming
