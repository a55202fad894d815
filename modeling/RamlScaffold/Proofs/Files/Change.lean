import RamlScaffold.Files.Tree
import RamlScaffold.Proofs.Files.Place

/-
  What the changes of a file tree do to the entry at each
  place.

  A change never removes an entry: directories stay what they
  are, and a file gets other contents only where it is
  written.

  Main declarations:
    * `FileTree.IsStart`, `FileTree.at?_set`
    * `FileTree.Admits`, `FileTree.at?_written`
    * `FileTree.IsReady`
    * `FileTree.createAll?_of_isReady`
    * `FileTree.isReady_of_createAll?`
    * `FileTree.at?_createAll?`
    * `FileTree.Follows`
-/

------------------------------------------------------------
-- Entries Put In Place
------------------------------------------------------------

namespace RamlScaffold.FileTree

/- The places that exist in every tree. -/
def IsStart (place : Place) : Prop :=
  place = [] ∨ place = ["/"]

instance (place : Place) : Decidable (IsStart place) := by
  unfold IsStart
  infer_instance

theorem at?_of_isStart
    {place : Place}
    (hStart : IsStart place)
    (tree : FileTree) :
    tree.at? place = some .directory := by
  unfold at?
  exact if_pos hStart

theorem at?_of_not_isStart
    {place : Place}
    (hStart : ¬ IsStart place)
    (tree : FileTree) :
    tree.at? place = tree.lookup place := by
  unfold at?
  exact if_neg hStart

theorem lookup_set
    (tree : FileTree)
    (place other : Place)
    (entry : FileEntry) :
    (tree.set place entry).lookup other =
      if other = place then some entry
      else tree.lookup other := by
  induction tree with
  | nil =>
      by_cases hOther : other = place
      · simp [set, hOther]
      · have hBeq : (other == place) = false :=
          beq_eq_false_iff_ne.mpr hOther
        simp [set, List.lookup_cons, hOther, hBeq]
  | cons first rest ih =>
      rcases first with ⟨key, current⟩
      rw [set]
      by_cases hKey : key = place
      · rw [if_pos hKey]
        subst hKey
        by_cases hOther : other = key
        · simp [hOther]
        · have hBeq : (other == key) = false :=
            beq_eq_false_iff_ne.mpr hOther
          simp [List.lookup_cons, hOther, hBeq]
      · rw [if_neg hKey, List.lookup_cons, List.lookup_cons]
        by_cases hOther : other = key
        · subst hOther
          simp [hKey]
        · simp only [beq_eq_false_iff_ne.mpr hOther]
          exact ih

/- An entry that is put in place is the only change. -/
theorem at?_set
    {place : Place}
    (hStart : ¬ IsStart place)
    (tree : FileTree)
    (entry : FileEntry)
    (other : Place) :
    (tree.set place entry).at? other =
      if other = place then some entry else tree.at? other := by
  by_cases hOther : IsStart other
  · rw [at?_of_isStart hOther, at?_of_isStart hOther]
    split
    · next hEq => exact absurd (hEq ▸ hOther) hStart
    · rfl
  · rw [at?_of_not_isStart hOther, at?_of_not_isStart hOther]
    exact lookup_set tree place other entry

/- An entry is put at the end, unless its place is known. -/
theorem map_fst_set
    (tree : FileTree)
    (place : Place)
    (entry : FileEntry) :
    (tree.set place entry).map Prod.fst =
      if place ∈ tree.map Prod.fst then tree.map Prod.fst
      else tree.map Prod.fst ++ [place] := by
  induction tree with
  | nil => rfl
  | cons first rest ih =>
      rcases first with ⟨key, current⟩
      rw [set]
      by_cases hKey : key = place
      · simp [hKey]
      · have hPlace : place ≠ key := Ne.symm hKey
        rw [if_neg hKey, List.map_cons, ih]
        by_cases hRest : place ∈ rest.map Prod.fst
        · simp [hRest]
        · simp [hRest, hPlace]

theorem mem_map_fst_of_at?
    {tree : FileTree}
    {place : Place}
    (hStart : ¬ IsStart place)
    {entry : FileEntry}
    (hEntry : tree.at? place = some entry) :
    place ∈ tree.map Prod.fst := by
  rw [at?_of_not_isStart hStart] at hEntry
  rcases List.lookup_eq_some_iff.mp hEntry with
    ⟨before, after, hSplit, -⟩
  simp [hSplit]

end RamlScaffold.FileTree

------------------------------------------------------------
-- Files In Place
------------------------------------------------------------

namespace RamlScaffold.FileTree

/- What names a file exists if its place has an entry. -/
theorem hasEntry_iff
    {path : Path}
    (hPath : path.NamesFile)
    (tree : FileTree) :
    tree.hasEntry path = true ↔ tree.at? path.place ≠ none := by
  unfold hasEntry entry?
  rw [if_neg hPath.nonempty]
  cases tree.at? path.place with
  | none => simp
  | some entry =>
      cases entry with
      | directory => simp
      | file contents isProgram => simp [hPath.noDirectory]

theorem hasEntry_eq_false_iff
    {path : Path}
    (hPath : path.NamesFile)
    (tree : FileTree) :
    tree.hasEntry path = false ↔ tree.at? path.place = none := by
  rw [← Bool.not_eq_true, hasEntry_iff hPath, ne_eq,
    Classical.not_not]

/- A file that holds a text can be read. -/
theorem readText?_of_file
    {tree : FileTree}
    {path : Path}
    (hPath : path.NamesFile)
    {text : String}
    {isProgram : Bool}
    (hFile :
      tree.at? path.place = some (.file (.text text) isProgram)) :
    tree.readText? path = some text := by
  unfold readText? entry?
  simp [hPath.nonempty, hPath.noDirectory, hFile]

theorem isDirectory_iff
    (tree : FileTree)
    (path : Path) :
    tree.isDirectory path = true ↔
      path.text ≠ "" ∧ tree.at? path.place = some .directory := by
  unfold isDirectory entry?
  rw [beq_iff_eq]
  by_cases hText : path.text = ""
  · simp [hText]
  · rw [if_neg hText]
    cases hPlace : tree.at? path.place with
    | none => simp
    | some entry =>
        cases entry with
        | directory => simp [hText]
        | file contents isProgram =>
            cases path.asksDirectory with
            | true => simp
            | false => simp

end RamlScaffold.FileTree

------------------------------------------------------------
-- Written Files
------------------------------------------------------------

namespace RamlScaffold.FileTree

variable [WriteAccess]

/-
  What is needed for a file to be written: the path names a
  file, its place may be written at, no directory stands
  there, and the directory around it exists.
-/
structure Admits (tree : FileTree) (path : Path) : Prop where
  namesFile : path.NamesFile
  allowed : WriteAccess.allows path.place = true
  noDirectory : tree.at? path.place ≠ some .directory
  parent : tree.at? path.place.dropLast = some .directory

/- A tree after a file has been written. -/
def written
    (tree : FileTree)
    (path : Path)
    (contents : Contents) : FileTree :=
  tree.set path.place
    (.file contents (tree.isProgramAt path.place))

theorem write?_of_admits
    {tree : FileTree}
    {path : Path}
    (hAdmits : tree.Admits path)
    (contents : Contents) :
    tree.write? path contents =
      some (tree.written path contents) := by
  unfold write? written
  simp [hAdmits.namesFile.nonempty,
    hAdmits.namesFile.noDirectory, hAdmits.allowed,
    hAdmits.noDirectory, hAdmits.parent]

theorem write?_of_not_admits
    {tree : FileTree}
    {path : Path}
    (hAdmits : ¬ tree.Admits path)
    (contents : Contents) :
    tree.write? path contents = none := by
  unfold write?
  by_cases hPath : path.text = "" ∨ path.asksDirectory = true
  · simp only [hPath, if_true]
  · rw [not_or, Bool.not_eq_true] at hPath
    cases hAllowed : WriteAccess.allows path.place with
    | false => simp [hPath, hAllowed]
    | true =>
        by_cases hPlace : tree.at? path.place = some .directory
        · simp [hPath, hAllowed, hPlace]
        · by_cases hParent :
              tree.at? path.place.dropLast = some .directory
          · exact
              absurd
                ⟨⟨hPath.1, hPath.2⟩, hAllowed, hPlace, hParent⟩
                hAdmits
          · simp [hPath, hAllowed, hPlace, hParent]

/- A file is written exactly where the tree admits it. -/
theorem write?_eq_some_iff
    {tree after : FileTree}
    {path : Path}
    {contents : Contents} :
    tree.write? path contents = some after ↔
      tree.Admits path ∧ after = tree.written path contents := by
  by_cases hAdmits : tree.Admits path
  · rw [write?_of_admits hAdmits, Option.some.injEq]
    constructor
    · intro hAfter
      exact ⟨hAdmits, hAfter.symm⟩
    · intro hAfter
      exact hAfter.2.symm
  · rw [write?_of_not_admits hAdmits]
    constructor
    · intro hAfter
      cases hAfter
    · intro hAfter
      exact absurd hAfter.1 hAdmits

/- Of what a tree holds, only directories matter for that. -/
theorem Admits.of_directories
    {first second : FileTree}
    {path : Path}
    (hAdmits : first.Admits path)
    (hSame :
      ∀ place,
        second.at? place = some .directory ↔
          first.at? place = some .directory) :
    second.Admits path := by
  refine ⟨hAdmits.namesFile, hAdmits.allowed, ?_, ?_⟩
  · rw [ne_eq, hSame]
    exact hAdmits.noDirectory
  · rw [hSame]
    exact hAdmits.parent

theorem Admits.not_isStart
    {tree : FileTree}
    {path : Path}
    (hAdmits : tree.Admits path) :
    ¬ IsStart path.place := by
  intro hStart
  exact hAdmits.noDirectory (at?_of_isStart hStart tree)

/- A written file is the only entry that changes. -/
theorem at?_written
    {tree : FileTree}
    {path : Path}
    (hAdmits : tree.Admits path)
    (contents : Contents)
    (place : Place) :
    (tree.written path contents).at? place =
      if place = path.place then
        some (.file contents (tree.isProgramAt path.place))
      else tree.at? place :=
  at?_set hAdmits.not_isStart tree _ place

/- Writing a file makes no program and unmakes none. -/
theorem isProgramAt_written
    {tree : FileTree}
    {path : Path}
    (hAdmits : tree.Admits path)
    (contents : Contents)
    (place : Place) :
    (tree.written path contents).isProgramAt place =
      tree.isProgramAt place := by
  rw [isProgramAt, at?_written hAdmits]
  by_cases hPlace : place = path.place
  · simp [hPlace]
  · simp only [hPlace, if_false]
    rfl

/- Writing a file makes no directory and unmakes none. -/
theorem isDirectoryAt_written
    {tree : FileTree}
    {path : Path}
    (hAdmits : tree.Admits path)
    (contents : Contents)
    (place : Place) :
    (tree.written path contents).at? place = some .directory ↔
      tree.at? place = some .directory := by
  rw [at?_written hAdmits]
  by_cases hPlace : place = path.place
  · subst hPlace
    simp [hAdmits.noDirectory]
  · simp [hPlace]

end RamlScaffold.FileTree

------------------------------------------------------------
-- Created Directories
------------------------------------------------------------

namespace RamlScaffold.FileTree

/- Whether a path and all places on its way are directories. -/
def IsReady (tree : FileTree) (path : Path) : Prop :=
  ∀ place ∈ placesTo path.place,
    tree.at? place = some .directory

theorem addDirectory_of_directory
    {tree : FileTree}
    {place : Place}
    (hDirectory : tree.at? place = some .directory) :
    tree.addDirectory place = tree := by
  simp [addDirectory, hDirectory]

/- A place where no file stands in the way of a directory. -/
def IsFree (tree : FileTree) (place : Place) : Prop :=
  ∀ contents isProgram,
    tree.at? place ≠ some (.file contents isProgram)

/- Directories are created where no file is in the way. -/
theorem createAll?_eq_some_iff
    {tree after : FileTree}
    {path : Path} :
    tree.createAll? path = some after ↔
      (∀ place ∈ placesTo path.place, tree.IsFree place) ∧
        after =
          (placesTo path.place).foldl addDirectory tree := by
  unfold createAll?
  simp only [List.all_eq_true]
  split
  · next hAll =>
      have hPlaces :
          ∀ place ∈ placesTo path.place, tree.IsFree place := by
        intro place hPlace contents isProgram hFile
        have hFree := hAll place hPlace
        rw [hFile] at hFree
        cases hFree
      rw [Option.some.injEq]
      exact ⟨fun hAfter => ⟨hPlaces, hAfter.symm⟩,
        fun hAfter => hAfter.2.symm⟩
  · next hAll =>
      constructor
      · intro hAfter
        cases hAfter
      · intro hAfter
        apply absurd _ hAll
        intro place hPlace
        have hFree := hAfter.1 place hPlace
        cases hEntry : tree.at? place with
        | none => rfl
        | some entry =>
            cases entry with
            | directory => rfl
            | file contents isProgram =>
                exact absurd hEntry (hFree contents isProgram)

/- Nothing is left to create where all is ready. -/
theorem createAll?_of_isReady
    {tree : FileTree}
    {path : Path}
    (hReady : tree.IsReady path) :
    tree.createAll? path = some tree := by
  have hFold :
      ∀ places : List Place,
        (∀ place ∈ places, tree.at? place = some .directory) →
          places.foldl addDirectory tree = tree := by
    intro places hPlaces
    induction places with
    | nil => rfl
    | cons place places ih =>
        rw [List.foldl_cons,
          addDirectory_of_directory
            (hPlaces place List.mem_cons_self)]
        exact ih
          (fun other hOther =>
            hPlaces other (List.mem_cons_of_mem place hOther))
  rw [createAll?_eq_some_iff]
  refine ⟨?_, (hFold _ hReady).symm⟩
  intro place hPlace contents isProgram
  rw [hReady place hPlace]
  simp

/- An added directory is the only change, if it is one. -/
theorem at?_addDirectory
    (tree : FileTree)
    (place other : Place) :
    (tree.addDirectory place).at? other =
      if other = place then
        some ((tree.at? place).getD .directory)
      else tree.at? other := by
  unfold addDirectory
  cases hPlace : tree.at? place with
  | none =>
      have hStart : ¬ IsStart place := by
        intro hStart
        rw [at?_of_isStart hStart] at hPlace
        cases hPlace
      exact at?_set hStart tree .directory other
  | some entry =>
      by_cases hOther : other = place
      · simp [hOther, hPlace]
      · simp [hOther]

theorem at?_foldl_addDirectory
    (places : List Place)
    (tree : FileTree)
    (other : Place) :
    (places.foldl addDirectory tree).at? other =
      if other ∈ places then
        some ((tree.at? other).getD .directory)
      else tree.at? other := by
  induction places generalizing tree with
  | nil => simp
  | cons place places ih =>
      rw [List.foldl_cons, ih, at?_addDirectory]
      by_cases hPlace : other = place
      · subst hPlace
        simp
      · simp [hPlace]

/- Creating directories changes no entry that exists. -/
theorem at?_createAll?
    {tree after : FileTree}
    {path : Path}
    (hAfter : tree.createAll? path = some after)
    {place : Place}
    {entry : FileEntry}
    (hEntry : tree.at? place = some entry) :
    after.at? place = some entry := by
  rw [(createAll?_eq_some_iff.mp hAfter).2,
    at?_foldl_addDirectory, hEntry]
  simp

/- Creating directories makes no file and unmakes none. -/
theorem file_createAll?_iff
    {tree after : FileTree}
    {path : Path}
    (hAfter : tree.createAll? path = some after)
    {place : Place}
    {contents : Contents}
    {isProgram : Bool} :
    after.at? place = some (.file contents isProgram) ↔
      tree.at? place = some (.file contents isProgram) := by
  constructor
  · intro hFile
    rw [(createAll?_eq_some_iff.mp hAfter).2,
      at?_foldl_addDirectory] at hFile
    cases hEntry : tree.at? place with
    | none =>
        rw [hEntry] at hFile
        split at hFile
        · cases hFile
        · cases hFile
    | some entry =>
        rw [hEntry] at hFile
        simpa using hFile
  · exact at?_createAll? hAfter

/- What has been created is ready. -/
theorem isReady_of_createAll?
    {tree after : FileTree}
    {path : Path}
    (hAfter : tree.createAll? path = some after) :
    after.IsReady path := by
  rcases createAll?_eq_some_iff.mp hAfter with
    ⟨hFree, rfl⟩
  intro place hPlace
  rw [at?_foldl_addDirectory, if_pos hPlace]
  have hPlaceFree := hFree place hPlace
  cases hEntry : tree.at? place with
  | none => rfl
  | some entry =>
      cases entry with
      | directory => rfl
      | file contents isProgram =>
          exact absurd hEntry (hPlaceFree contents isProgram)

end RamlScaffold.FileTree

------------------------------------------------------------
-- Trees After Writing
------------------------------------------------------------

namespace RamlScaffold.FileTree

/-
  A tree after files have been written.  No directory and no
  program is made or unmade, nothing is removed, and what is
  added stands at the end.
-/
structure Follows (first last : FileTree) : Prop where
  directory :
    ∀ place,
      last.at? place = some .directory ↔
        first.at? place = some .directory
  program :
    ∀ place, last.isProgramAt place = first.isProgramAt place
  entry :
    ∀ place, first.at? place ≠ none → last.at? place ≠ none
  keys : first.map Prod.fst <+: last.map Prod.fst

namespace Follows

variable {first second third : FileTree}

theorem refl (tree : FileTree) : Follows tree tree :=
  ⟨fun _ => Iff.rfl, fun _ => rfl, fun _ hPlace => hPlace,
    List.prefix_rfl⟩

theorem trans
    (hFirst : Follows first second)
    (hSecond : Follows second third) :
    Follows first third := by
  refine ⟨?_, ?_, ?_, hFirst.keys.trans hSecond.keys⟩
  · exact fun place =>
      (hSecond.directory place).trans (hFirst.directory place)
  · exact fun place =>
      (hSecond.program place).trans (hFirst.program place)
  · exact fun place hPlace =>
      hSecond.entry place (hFirst.entry place hPlace)

theorem written
    [WriteAccess]
    {path : Path}
    (hAdmits : first.Admits path)
    (contents : Contents) :
    Follows first (first.written path contents) := by
  refine ⟨?_, ?_, ?_, ?_⟩
  · exact isDirectoryAt_written hAdmits contents
  · exact isProgramAt_written hAdmits contents
  · intro place hPlace
    rw [at?_written hAdmits]
    split
    · simp
    · exact hPlace
  · rw [FileTree.written, map_fst_set]
    split
    · exact List.prefix_rfl
    · exact List.prefix_append _ _

theorem isReady
    (hFollows : Follows first second)
    {path : Path}
    (hReady : first.IsReady path) :
    second.IsReady path := by
  intro place hPlace
  rw [hFollows.directory]
  exact hReady place hPlace

theorem isDirectory_eq
    (hFollows : Follows first second)
    (path : Path) :
    second.isDirectory path = first.isDirectory path := by
  rw [Bool.eq_iff_iff, isDirectory_iff, isDirectory_iff,
    hFollows.directory]

/- Keys that end as they began were the same all the time. -/
theorem keys_eq
    (hFirst : Follows first second)
    (hSecond : Follows second third)
    (hSame : third.map Prod.fst = first.map Prod.fst) :
    second.map Prod.fst = first.map Prod.fst := by
  have hLast := hSecond.keys
  rw [hSame] at hLast
  exact hLast.eq_of_length
    (Nat.le_antisymm hLast.length_le hFirst.keys.length_le)

end Follows

end RamlScaffold.FileTree
