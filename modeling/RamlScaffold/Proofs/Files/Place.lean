import RamlScaffold.Files.Path
import RamlScaffold.Proofs.Text.Pieces

/-
  The place of a file in a directory is the place of the
  directory with the name of the file put at its end.

  Main declarations:
    * `IsFileName`
    * `Path.place_child`
    * `Path.NamesFile`, `Path.namesFile_child`
-/

------------------------------------------------------------
-- File Names
------------------------------------------------------------

namespace RamlScaffold

/-
  A name that can only name a file of the directory in which
  it stands: it neither leads elsewhere nor ends in a dot.
-/
structure IsFileName (name : String) : Prop where
  noSlash : '/' ∉ name.toList
  nonempty : name ≠ ""
  noDotAtEnd : name.toList.getLast? ≠ some '.'

namespace IsFileName

variable {name : String}

theorem ne_dot (hName : IsFileName name) : name ≠ "." := by
  rintro rfl
  exact hName.noDotAtEnd rfl

theorem ne_dots (hName : IsFileName name) : name ≠ ".." := by
  rintro rfl
  exact hName.noDotAtEnd rfl

theorem toList_ne_nil (hName : IsFileName name) :
    name.toList ≠ [] := by
  intro hNil
  exact hName.nonempty (String.toList_eq_nil_iff.mp hNil)

/- A file name is one step on the way to a place. -/
theorem step_eq
    (hName : IsFileName name)
    (place : Place) :
    Path.step place name = place ++ [name] := by
  simp [Path.step, hName.nonempty, hName.ne_dot, hName.ne_dots]

theorem splitBy_eq (hName : IsFileName name) :
    Text.splitBy (· == '/') name.toList = [name.toList] := by
  apply Text.splitBy_of_forall
  intro c hc
  rw [beq_eq_false_iff_ne]
  rintro rfl
  exact hName.noSlash hc

theorem isAbsolute_eq (hName : IsFileName name) :
    (Path.mk name).isAbsolute = false := by
  cases hList : name.toList with
  | nil => exact absurd hList hName.toList_ne_nil
  | cons c rest =>
      have hc : c ≠ '/' := by
        rintro rfl
        exact hName.noSlash (by simp [hList])
      simp [Path.isAbsolute, hList, hc]

end IsFileName

end RamlScaffold

------------------------------------------------------------
-- Files In A Directory
------------------------------------------------------------

namespace RamlScaffold

namespace Path

/- A path that is written the way a file is named. -/
structure NamesFile (path : Path) : Prop where
  nonempty : path.text ≠ ""
  noDirectory : path.asksDirectory = false

/-
  The text of a file below a directory: nothing, or the
  directory up to a slash, and then the name.
-/
theorem child_cases
    {name : String}
    (hName : IsFileName name)
    (base : Path) :
    base.text = "" ∧ base.child name = ⟨name⟩ ∨
      ∃ front : List Char,
        (base.child name).text.toList =
            front ++ '/' :: name.toList ∧
          (base.text.toList = front ∧ front ≠ [] ∨
            base.text.toList = front ++ ['/']) := by
  unfold child join
  rw [hName.isAbsolute_eq]
  cases hLast : base.text.toList.getLast? with
  | none =>
      rw [List.getLast?_eq_none_iff] at hLast
      exact Or.inl ⟨String.toList_eq_nil_iff.mp hLast, rfl⟩
  | some c =>
      apply Or.inr
      rcases List.getLast?_eq_some_iff.mp hLast with
        ⟨front, hFront⟩
      by_cases hSlash : c = '/'
      · subst hSlash
        refine ⟨front, ?_, Or.inr hFront⟩
        simp [hFront]
      · refine ⟨base.text.toList, ?_, Or.inl ⟨rfl, ?_⟩⟩
        · simp
        · simp [hFront]

/- The names on the way to a place, one step each. -/
def namesOf (text : List Char) : List String :=
  (Text.splitBy (· == '/') text).map String.ofList

theorem namesOf_append_slash (before after : List Char) :
    namesOf (before ++ '/' :: after) =
      namesOf before ++ namesOf after := by
  unfold namesOf
  rw [Text.splitBy_append rfl, List.map_append]

theorem place_eq (path : Path) :
    path.place =
      (namesOf path.text.toList).foldl step
        (if path.isAbsolute then ["/"] else []) :=
  rfl

theorem namesOf_name
    {name : String}
    (hName : IsFileName name) :
    namesOf name.toList = [name] := by
  simp [namesOf, hName.splitBy_eq]

/- A file lies directly at the place of its directory. -/
theorem place_child
    {name : String}
    (hName : IsFileName name)
    (base : Path) :
    (base.child name).place = base.place ++ [name] := by
  rcases child_cases hName base with
    ⟨hEmpty, hChild⟩ | ⟨front, hText, hBase⟩
  · have hBasePlace : base.place = [] := by
      rw [place_eq, isAbsolute, hEmpty]
      rfl
    rw [hChild, hBasePlace, place_eq, hName.isAbsolute_eq,
      namesOf_name hName]
    exact hName.step_eq []
  · have hAbsolute :
        (base.child name).isAbsolute = base.isAbsolute := by
      unfold isAbsolute
      rcases hBase with ⟨hFront, hNonempty⟩ | hFront
      · cases front with
        | nil => exact absurd rfl hNonempty
        | cons c rest => simp [hText, hFront]
      · cases front with
        | nil => simp [hText, hFront]
        | cons c rest => simp [hText, hFront]
    have hBasePlace :
        base.place =
          (namesOf front).foldl step
            (if base.isAbsolute then ["/"] else []) := by
      rw [place_eq]
      rcases hBase with ⟨hFront, -⟩ | hFront
      · rw [hFront]
      · rw [hFront, namesOf_append_slash, List.foldl_append]
        rfl
    rw [place_eq, hAbsolute, hText, namesOf_append_slash,
      namesOf_name hName, List.foldl_append, ← hBasePlace]
    exact hName.step_eq base.place

theorem text_child_ne_empty
    {name : String}
    (hName : IsFileName name)
    (base : Path) :
    (base.child name).text ≠ "" := by
  rcases child_cases hName base with
    ⟨-, hChild⟩ | ⟨front, hText, -⟩
  · rw [hChild]
    exact hName.nonempty
  · intro hEmpty
    rw [hEmpty] at hText
    simp at hText

/- What names a file does not ask for a directory. -/
theorem asksDirectory_child
    {name : String}
    (hName : IsFileName name)
    (base : Path) :
    (base.child name).asksDirectory = false := by
  have hLast :
      ∃ c rest,
        (base.child name).text.toList.reverse = c :: rest ∧
          c ≠ '/' ∧ c ≠ '.' := by
    cases hReverse : name.toList.reverse with
    | nil =>
        exact absurd (List.reverse_eq_nil_iff.mp hReverse)
          hName.toList_ne_nil
    | cons c rest =>
        have hc : c ∈ name.toList := by
          rw [← List.mem_reverse, hReverse]
          exact List.mem_cons_self
        have hSlash : c ≠ '/' := by
          rintro rfl
          exact hName.noSlash hc
        have hDot : c ≠ '.' := by
          rintro rfl
          apply hName.noDotAtEnd
          rw [List.getLast?_eq_head?_reverse, hReverse]
          rfl
        rcases child_cases hName base with
          ⟨-, hChild⟩ | ⟨front, hText, -⟩
        · exact ⟨c, rest, by rw [hChild, hReverse], hSlash,
            hDot⟩
        · refine
            ⟨c, rest ++ '/' :: front.reverse, ?_, hSlash,
              hDot⟩
          rw [hText]
          simp [hReverse]
  rcases hLast with ⟨c, rest, hText, hSlash, hDot⟩
  unfold asksDirectory
  rw [hText]
  split
  · next hCons => exact absurd (List.cons.inj hCons).1 hSlash
  · next hCons => exact absurd (List.cons.inj hCons).1 hDot
  · next hCons => exact absurd (List.cons.inj hCons).1 hDot
  · next hCons => exact absurd (List.cons.inj hCons).1 hDot
  · next hCons => exact absurd (List.cons.inj hCons).1 hDot
  · rfl

theorem namesFile_child
    {name : String}
    (hName : IsFileName name)
    (base : Path) :
    (base.child name).NamesFile :=
  ⟨text_child_ne_empty hName base, asksDirectory_child hName base⟩

end Path

end RamlScaffold
