import RamlScaffold.Proofs.Generation.Places

/-
  The modules that the index of a directory declares, and the
  index as a job.

  The modules depend on the names in the directory and on
  nothing else, neither on their order nor on the index.

  Main declarations:
    * `sorted_eq_of_perm`
    * `FileTree.namesIn`, `FileTree.names?_eq`
    * `modulesOf_sorted`, `modulesOf_set_index`
    * `Generator.indexJobs`, `Generator.indexEffect_eq_ok`
    * `Generator.modulesOf_runJobs_indexJobs`
-/

------------------------------------------------------------
-- Sorted Names
------------------------------------------------------------

namespace RamlScaffold

/- Names in ascending order. -/
def sorted (names : List String) : List String :=
  names.mergeSort (fun a b => a ≤ b)

theorem sorted_perm (names : List String) :
    (sorted names).Perm names :=
  List.mergeSort_perm names _

theorem pairwise_sorted (names : List String) :
    (sorted names).Pairwise (fun a b => a ≤ b) := by
  have hPairwise :
      (sorted names).Pairwise
        (fun a b => decide (a ≤ b) = true) := by
    apply List.pairwise_mergeSort
    · intro a b c hFirst hSecond
      rw [decide_eq_true_eq] at hFirst hSecond ⊢
      exact String.le_trans hFirst hSecond
    · intro a b
      rw [Bool.or_eq_true, decide_eq_true_eq, decide_eq_true_eq]
      exact String.le_total a b
  simpa only [decide_eq_true_eq] using hPairwise

/- Sorting forgets the order in which names were given. -/
theorem sorted_eq_of_perm
    {first second : List String}
    (hPerm : first.Perm second) :
    sorted first = sorted second := by
  have hSorted : (sorted first).Perm (sorted second) :=
    (sorted_perm first).trans
      (hPerm.trans (sorted_perm second).symm)
  refine List.Perm.eq_of_pairwise ?_ (pairwise_sorted first)
    (pairwise_sorted second) hSorted
  intro a b _ _ hFirst hSecond
  exact String.le_antisymm hFirst hSecond

end RamlScaffold

------------------------------------------------------------
-- Names In A Directory
------------------------------------------------------------

namespace RamlScaffold

namespace FileTree

/- The names below a place, in the order of the tree. -/
def namesIn
    (tree : FileTree)
    (place : Place) : List String :=
  (tree.map Prod.fst).filterMap (nameBelow? place)

theorem names?_eq
    (tree : FileTree)
    (path : Path) :
    tree.names? path =
      if tree.isDirectory path then
        some (sorted (tree.namesIn path.place))
      else none := by
  unfold names? namesIn sorted
  rw [List.filterMap_map]
  rfl

theorem nameBelow?_append
    (place : Place)
    (name : String) :
    nameBelow? place (place ++ [name]) = some name := by
  simp [nameBelow?]

/- An entry below a place adds at most its own name. -/
theorem namesIn_set
    (tree : FileTree)
    (place : Place)
    (name : String)
    (entry : FileEntry) :
    (tree.set (place ++ [name]) entry).namesIn place =
        tree.namesIn place ∨
      (tree.set (place ++ [name]) entry).namesIn place =
        tree.namesIn place ++ [name] := by
  unfold namesIn
  rw [map_fst_set]
  split
  · exact Or.inl rfl
  · apply Or.inr
    rw [List.filterMap_append, List.filterMap_cons_some
      (nameBelow?_append place name), List.filterMap_nil]

end FileTree

/- The modules of a directory, by the names below its place. -/
theorem modulesOf_sorted (names : List String) :
    modulesOf (sorted names) =
      sorted (names.filterMap moduleOf?) :=
  sorted_eq_of_perm ((sorted_perm names).filterMap moduleOf?)

theorem moduleOf?_indexName : moduleOf? indexName = none := by
  decide

/- A directory declares the same modules with its index. -/
theorem modulesOf_append_index (names : List String) :
    modulesOf (sorted (names ++ [indexName])) =
      modulesOf (sorted names) := by
  rw [modulesOf_sorted, modulesOf_sorted, List.filterMap_append]
  simp [moduleOf?_indexName]

/- Writing the index leaves the modules that it declares. -/
theorem modulesOf_set_index
    (tree : FileTree)
    (place : Place)
    (entry : FileEntry) :
    modulesOf
        (sorted
          ((tree.set (place ++ [indexName]) entry).namesIn
            place)) =
      modulesOf (sorted (tree.namesIn place)) := by
  rcases tree.namesIn_set place indexName entry with
    hSame | hMore
  · rw [hSame]
  · rw [hMore, modulesOf_append_index]

end RamlScaffold

------------------------------------------------------------
-- The Index As A Job
------------------------------------------------------------

namespace RamlScaffold.Generator

/- The jobs of the index, by the names in the directory. -/
def indexJobs
    (generator : Generator)
    (output : Path)
    (files : FileTree) : List Job :=
  match generator.language with
  | .go => []
  | .rust =>
      [indexJob output (sorted (files.namesIn output.place))]

/- What is reported of the index. -/
def indexPaths
    (generator : Generator)
    (output : Path) : List Path :=
  match generator.language with
  | .go => []
  | .rust => [output.child indexName]

/- Whether the directory can be listed, where it has to be. -/
def CanList
    (generator : Generator)
    (output : Path)
    (files : FileTree) : Prop :=
  generator.language = .rust → files.isDirectory output = true

/- The jobs of the index depend on the modules alone. -/
theorem indexJobs_eq
    (generator : Generator)
    {output : Path}
    {first second : FileTree}
    (hModules :
      modulesOf (sorted (first.namesIn output.place)) =
        modulesOf (sorted (second.namesIn output.place))) :
    generator.indexJobs output first =
      generator.indexJobs output second := by
  unfold indexJobs indexJob
  rw [hModules]

variable [WriteAccess]

theorem indexEffect_eq_ok
    {generator : Generator}
    {output : Path}
    {files last : FileTree}
    {index : List Path}
    (hIndex :
      generator.indexEffect output files = (.ok index, last)) :
    generator.CanList output files ∧
      index = generator.indexPaths output ∧
      ∃ outcomes,
        runJobs generator.templates
            (generator.indexJobs output files) files =
          (.ok outcomes, last) := by
  unfold indexEffect at hIndex
  unfold CanList indexPaths indexJobs
  cases hLanguage : generator.language with
  | go =>
      rw [hLanguage] at hIndex
      have hPaths : [] = index :=
        Except.ok.inj (congrArg Prod.fst hIndex)
      have hFiles : files = last := congrArg Prod.snd hIndex
      refine ⟨?_, hPaths.symm, [], ?_⟩
      · intro hRust
        cases hRust
      · rw [← hFiles]
        rfl
  | rust =>
      rw [hLanguage, FileTree.names?_eq] at hIndex
      by_cases hDirectory : files.isDirectory output = true
      · rw [if_pos hDirectory] at hIndex
        rcases Effect.andThen_eq_ok hIndex with
          ⟨outcome, after, hJob, hRest⟩
        have hPaths : [output.child indexName] = index :=
          Except.ok.inj (congrArg Prod.fst hRest)
        have hFiles : after = last := congrArg Prod.snd hRest
        refine ⟨fun _ => hDirectory, hPaths.symm, [outcome], ?_⟩
        simp only [runJobs, Effect.all, hJob, Effect.andThen_ok,
          hFiles]
      · rw [if_neg hDirectory] at hIndex
        cases hIndex

theorem indexEffect_of_ok
    {generator : Generator}
    {output : Path}
    {files last : FileTree}
    (hList : generator.CanList output files)
    {outcomes : List WriteOutcome}
    (hJobs :
      runJobs generator.templates
          (generator.indexJobs output files) files =
        (.ok outcomes, last)) :
    generator.indexEffect output files =
      (.ok (generator.indexPaths output), last) := by
  unfold CanList at hList
  unfold indexJobs at hJobs
  unfold indexEffect indexPaths
  cases hLanguage : generator.language with
  | go =>
      rw [hLanguage] at hJobs
      have hFiles : files = last := congrArg Prod.snd hJobs
      rw [hFiles]
  | rust =>
      rw [hLanguage] at hJobs
      rcases runJobs_cons_eq_ok hJobs with
        ⟨outcome, after, others, hJob, hRest⟩
      have hFiles : after = last := congrArg Prod.snd hRest
      dsimp only
      rw [FileTree.names?_eq, if_pos (hList hLanguage)]
      dsimp only
      rw [hJob, Effect.andThen_ok, hFiles]

/- The jobs of the index leave the modules that they list. -/
theorem modulesOf_runJobs_indexJobs
    (generator : Generator)
    {output : Path}
    {files last : FileTree}
    {outcomes : List WriteOutcome}
    (hJobs :
      runJobs generator.templates
          (generator.indexJobs output files) files =
        (.ok outcomes, last)) :
    modulesOf (sorted (last.namesIn output.place)) =
      modulesOf (sorted (files.namesIn output.place)) := by
  unfold indexJobs at hJobs
  cases hLanguage : generator.language with
  | go =>
      rw [hLanguage] at hJobs
      have hFiles : files = last := congrArg Prod.snd hJobs
      rw [hFiles]
  | rust =>
      rw [hLanguage] at hJobs
      rcases runJobs_cons_eq_ok hJobs with
        ⟨outcome, after, others, hJob, hRest⟩
      have hFiles : after = last := congrArg Prod.snd hRest
      rw [hFiles] at hJob
      cases Job.step_of_perform hJob with
      | skipped hKeeps hEntry => rfl
      | written text hText hAdmits hFree =>
          have hPlace :
              (indexJob output
                  (sorted (files.namesIn
                    output.place))).path.place =
                output.place ++ [indexName] :=
            Path.place_child isFileName_indexName output
          rw [FileTree.written, hPlace]
          exact modulesOf_set_index files output.place _

end RamlScaffold.Generator
