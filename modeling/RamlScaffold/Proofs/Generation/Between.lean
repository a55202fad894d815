import RamlScaffold.Proofs.Generation.Job

/-
  Jobs that are done again on the files that they left.

  On the way every place has what it had before the jobs or
  what it has after them, so what a job writes is the same,
  and a file that was not there before is skipped.

  Main declarations:
    * `FileTree.Between`
    * `Job.perform_between`
    * `runJobs_between`
-/

------------------------------------------------------------
-- Jobs Done Again
------------------------------------------------------------

namespace RamlScaffold

/-
  A tree on the way from a first to a last tree, when the work
  between them is done again on the last: every place has its
  entry of the first or of the last, and none is missing that
  the last has.
-/
structure FileTree.Between
    (first last tree : FileTree) : Prop where
  entry :
    ∀ place,
      tree.at? place = first.at? place ∨
        tree.at? place = last.at? place
  present :
    ∀ place, last.at? place ≠ none → tree.at? place ≠ none

/- Jobs that are named the way files are. -/
def NameFiles (jobs : List Job) : Prop :=
  ∀ job ∈ jobs, job.path.NamesFile

namespace FileTree.Between

variable {first middle last tree : FileTree}

theorem isProgramAt_eq
    (hBetween : Between first last tree)
    (hFollows : first.Follows last)
    (place : Place) :
    tree.isProgramAt place = first.isProgramAt place := by
  rcases hBetween.entry place with hFirst | hLast
  · unfold isProgramAt
    rw [hFirst]
  · rw [← hFollows.program]
    unfold isProgramAt
    rw [hLast]

variable [WriteAccess]

/-
  A file that the jobs wrote is written again, with the same
  contents.
-/
theorem admits
    (hBetween : Between first last tree)
    (hFollows : first.Follows last)
    {path : Path}
    (hAdmits : first.Admits path) :
    tree.Admits path := by
  refine hAdmits.of_directories ?_
  intro place
  rcases hBetween.entry place with hFirst | hLast
  · rw [hFirst]
  · rw [hLast, hFollows.directory]

theorem written
    (hBetween : Between first last tree)
    {path : Path}
    (hFirst : first.Admits path)
    (hTree : tree.Admits path)
    (hPrograms :
      tree.isProgramAt path.place =
        first.isProgramAt path.place)
    (contents : Contents) :
    Between (first.written path contents) last
      (tree.written path contents) := by
  constructor
  · intro place
    rw [at?_written hFirst, at?_written hTree, hPrograms]
    split
    · exact Or.inl rfl
    · exact hBetween.entry place
  · intro place hLast
    rw [at?_written hTree]
    split
    · simp
    · exact hBetween.present place hLast

/- A stub that the last tree has is not written again. -/
theorem skipped
    (hBetween : Between first last tree)
    {path : Path}
    (hFirst : first.Admits path)
    (hFree : first.at? path.place = none)
    {contents : Contents}
    (hLast : last.at? path.place ≠ none) :
    Between (first.written path contents) last tree := by
  refine ⟨?_, hBetween.present⟩
  intro place
  rw [at?_written hFirst]
  by_cases hPlace : place = path.place
  · subst hPlace
    rcases hBetween.entry path.place with hEntry | hEntry
    · rw [hFree] at hEntry
      exact absurd hEntry (hBetween.present path.place hLast)
    · exact Or.inr hEntry
  · rw [if_neg hPlace]
    exact hBetween.entry place

end FileTree.Between

variable [WriteAccess]

/-
  A job that succeeded succeeds again on the way to the last
  tree.  A file that it replaces is written as before; a stub
  that it wrote is found and skipped.
-/
theorem Job.perform_between
    {templates : Templates}
    {job : Job}
    (hName : job.path.NamesFile)
    {first middle last tree : FileTree}
    {outcome : WriteOutcome}
    (hJob :
      job.perform templates first = (.ok outcome, middle))
    (hFollows : middle.Follows last)
    (hBetween : FileTree.Between first last tree) :
    ∃ again next,
      job.perform templates tree = (.ok again, next) ∧
        FileTree.Between middle last next ∧
        next.map Prod.fst = tree.map Prod.fst := by
  have hStep := Job.step_of_perform hJob
  have hAll := hStep.follows.trans hFollows
  cases hStep with
  | skipped hKeeps hEntry =>
      have hTree : tree.hasEntry job.path = true := by
        rw [FileTree.hasEntry_iff hName] at hEntry ⊢
        exact hBetween.present _ (hFollows.entry _ hEntry)
      exact
        ⟨_, tree, job.perform_of_hasEntry hKeeps hTree templates,
          hBetween, rfl⟩
  | written text hText hAdmits hFree =>
      have hPlace : tree.at? job.path.place ≠ none := by
        apply hBetween.present
        apply hFollows.entry
        rw [FileTree.at?_written hAdmits, if_pos rfl]
        simp
      cases hReplaces : job.replaces with
      | true =>
          have hTree := hBetween.admits hAll hAdmits
          refine
            ⟨_, _, perform_of_admits hReplaces hText hTree,
              hBetween.written hAdmits hTree
                (hBetween.isProgramAt_eq hAll _) _, ?_⟩
          rcases Option.ne_none_iff_exists'.mp hPlace with
            ⟨entry, hEntry⟩
          rw [FileTree.written, FileTree.map_fst_set,
            if_pos
              (FileTree.mem_map_fst_of_at? hAdmits.not_isStart
                hEntry)]
      | false =>
          have hTree : tree.hasEntry job.path = true :=
            (FileTree.hasEntry_iff hName tree).mpr hPlace
          have hNone :=
            (FileTree.hasEntry_eq_false_iff hName first).mp
              (hFree hReplaces)
          refine
            ⟨_, tree,
              job.perform_of_hasEntry hReplaces hTree templates,
              hBetween.skipped hAdmits hNone ?_, rfl⟩
          apply hFollows.entry
          rw [FileTree.at?_written hAdmits, if_pos rfl]
          simp

/-
  Jobs that succeeded succeed again on the files that they
  left, or on the way to them, and leave the same files.
-/
theorem runJobs_between
    {templates : Templates}
    {jobs : List Job}
    (hNames : NameFiles jobs)
    {first last tree : FileTree}
    {outcomes : List WriteOutcome}
    (hRun : runJobs templates jobs first = (.ok outcomes, last))
    (hBetween : FileTree.Between first last tree) :
    ∃ again after,
      runJobs templates jobs tree = (.ok again, after) ∧
        (∀ place, after.at? place = last.at? place) ∧
        after.map Prod.fst = tree.map Prod.fst := by
  induction jobs generalizing first tree outcomes with
  | nil =>
      have hLast : first = last := congrArg Prod.snd hRun
      refine ⟨[], tree, rfl, ?_, rfl⟩
      intro place
      rcases hBetween.entry place with hEntry | hEntry
      · rw [hEntry, hLast]
      · exact hEntry
  | cons job jobs ih =>
      have hRestNames : NameFiles jobs := fun other hOther =>
        hNames other (List.mem_cons_of_mem job hOther)
      rcases runJobs_cons_eq_ok hRun with
        ⟨outcome, middle, others, hJob, hJobs⟩
      rcases job.perform_between (hNames job List.mem_cons_self)
          hJob (follows_of_runJobs hJobs) hBetween with
        ⟨outcomeAgain, next, hPerform, hNext, hKeys⟩
      rcases ih hRestNames hJobs hNext with
        ⟨again, after, hAfter, hPlaces, hAfterKeys⟩
      refine
        ⟨outcomeAgain :: again, after, ?_, hPlaces,
          hAfterKeys.trans hKeys⟩
      unfold runJobs at hAfter ⊢
      rw [Effect.all, hPerform, Effect.andThen_ok, hAfter]
      rfl

end RamlScaffold
