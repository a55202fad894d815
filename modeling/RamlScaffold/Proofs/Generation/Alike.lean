import RamlScaffold.Proofs.Generation.Job

/-
  Jobs on trees that differ at certain places only.

  The trees have the same directories and programs, and their
  places come in the same order if the certain ones are left
  out.  A job whose file lies elsewhere does the same on both,
  and leaves trees that differ at these places only.

  Main declarations:
    * `FileTree.SameOff`
    * `FileTree.SameOff.written`, `FileTree.SameOff.at?_written`
    * `Job.perform_sameOff`, `runJobs_sameOff`
    * `Job.perform_meets`
-/

------------------------------------------------------------
-- Trees That Differ At Certain Places
------------------------------------------------------------

namespace RamlScaffold

namespace FileTree

/- The places of a tree, in their order, certain ones left out. -/
def placesOff
    (places : List Place)
    (tree : FileTree) : List Place :=
  (tree.map Prod.fst).filter (fun place => place ∉ places)

/-
  Trees with the same entries except at certain places.  Even
  there they have the same directories and programs.
-/
structure SameOff
    (places : List Place)
    (first second : FileTree) : Prop where
  entry :
    ∀ place, place ∉ places →
      second.at? place = first.at? place
  directory :
    ∀ place,
      second.at? place = some .directory ↔
        first.at? place = some .directory
  program :
    ∀ place, second.isProgramAt place = first.isProgramAt place
  order : second.placesOff places = first.placesOff places

/- An entry at one of the places does not count. -/
theorem placesOff_set_of_mem
    {places : List Place}
    {place : Place}
    (hPlace : place ∈ places)
    (tree : FileTree)
    (entry : FileEntry) :
    (tree.set place entry).placesOff places =
      tree.placesOff places := by
  unfold placesOff
  rw [map_fst_set]
  split
  · rfl
  · rw [List.filter_append]
    simp [hPlace]

/- Any other entry is put at the end, unless it is known. -/
theorem placesOff_set_of_not_mem
    {places : List Place}
    {place : Place}
    (hPlace : place ∉ places)
    (tree : FileTree)
    (entry : FileEntry) :
    (tree.set place entry).placesOff places =
      if place ∈ tree.placesOff places then
        tree.placesOff places
      else tree.placesOff places ++ [place] := by
  have hKnown :
      place ∈ tree.placesOff places ↔
        place ∈ tree.map Prod.fst := by
    unfold placesOff
    rw [List.mem_filter]
    simp [hPlace]
  by_cases hMem : place ∈ tree.map Prod.fst
  · rw [if_pos (hKnown.mpr hMem), placesOff, map_fst_set,
      if_pos hMem]
    rfl
  · rw [if_neg (fun hOff => hMem (hKnown.mp hOff)), placesOff,
      map_fst_set, if_neg hMem, List.filter_append]
    simp [placesOff, hPlace]

namespace SameOff

variable {places : List Place}
variable {first second third : FileTree}
variable {path : Path}

theorem refl (tree : FileTree) : SameOff places tree tree :=
  ⟨fun _ _ => rfl, fun _ => Iff.rfl, fun _ => rfl, rfl⟩

theorem trans
    (hFirst : SameOff places first second)
    (hSecond : SameOff places second third) :
    SameOff places first third := by
  refine ⟨?_, ?_, ?_, hSecond.order.trans hFirst.order⟩
  · exact fun place hPlace =>
      (hSecond.entry place hPlace).trans
        (hFirst.entry place hPlace)
  · exact fun place =>
      (hSecond.directory place).trans (hFirst.directory place)
  · exact fun place =>
      (hSecond.program place).trans (hFirst.program place)

theorem isReady
    (hSame : SameOff places first second)
    (hReady : first.IsReady path) :
    second.IsReady path := by
  intro place hPlace
  rw [hSame.directory]
  exact hReady place hPlace

theorem hasEntry_eq
    (hSame : SameOff places first second)
    (hName : path.NamesFile)
    (hPlace : path.place ∉ places) :
    second.hasEntry path = first.hasEntry path := by
  rw [Bool.eq_iff_iff, hasEntry_iff hName, hasEntry_iff hName,
    hSame.entry _ hPlace]

variable [WriteAccess]

theorem admits
    (hSame : SameOff places first second)
    (hAdmits : first.Admits path) :
    second.Admits path :=
  hAdmits.of_directories hSame.directory

/-
  The same file, written in both trees, is the same
  afterwards, even if it is the one that they differ at.
-/
theorem at?_written
    (hSame : SameOff places first second)
    (hAdmits : first.Admits path)
    (contents : Contents)
    {place : Place}
    (hPlace : place ∈ places → place = path.place) :
    (second.written path contents).at? place =
      (first.written path contents).at? place := by
  rw [FileTree.at?_written hAdmits,
    FileTree.at?_written (hSame.admits hAdmits), hSame.program]
  split
  · rfl
  · next hOther =>
      exact hSame.entry place (fun hMem => hOther (hPlace hMem))

/- Trees that are alike stay so if the same file is written. -/
theorem written
    (hSame : SameOff places first second)
    (hAdmits : first.Admits path)
    (hPath : path.place ∉ places)
    (contents : Contents) :
    SameOff places (first.written path contents)
      (second.written path contents) := by
  have hSecond := hSame.admits hAdmits
  refine ⟨?_, ?_, ?_, ?_⟩
  · exact fun place hPlace =>
      hSame.at?_written hAdmits contents
        (fun hMem => absurd hMem hPlace)
  · intro place
    rw [isDirectoryAt_written hAdmits,
      isDirectoryAt_written hSecond]
    exact hSame.directory place
  · intro place
    rw [isProgramAt_written hAdmits, isProgramAt_written hSecond]
    exact hSame.program place
  · rw [FileTree.written, FileTree.written,
      placesOff_set_of_not_mem hPath,
      placesOff_set_of_not_mem hPath, hSame.order]

/- A file at one of the places may be written on one side. -/
theorem of_written
    {tree : FileTree}
    (hAdmits : tree.Admits path)
    (hPath : path.place ∈ places)
    (contents : Contents) :
    SameOff places tree (tree.written path contents) := by
  refine ⟨?_, ?_, ?_, ?_⟩
  · intro place hPlace
    have hOther : place ≠ path.place := by
      rintro rfl
      exact hPlace hPath
    rw [FileTree.at?_written hAdmits, if_neg hOther]
  · exact isDirectoryAt_written hAdmits contents
  · exact isProgramAt_written hAdmits contents
  · exact placesOff_set_of_mem hPath tree _

end SameOff

end FileTree

end RamlScaffold

------------------------------------------------------------
-- Jobs That Do The Same
------------------------------------------------------------

namespace RamlScaffold

variable [WriteAccess]

variable {places : List Place}

/- A step that succeeds is what the job does. -/
theorem Job.perform_of_step
    {templates : Templates}
    {job : Job}
    {tree after : FileTree}
    {outcome : WriteOutcome}
    (hStep : job.Step templates tree (.ok outcome, after)) :
    job.perform templates tree = (.ok outcome, after) := by
  cases hStep with
  | skipped hKeeps hEntry =>
      exact job.perform_of_hasEntry hKeeps hEntry templates
  | written text hText hAdmits hFree =>
      cases hReplaces : job.replaces with
      | true => exact perform_of_admits hReplaces hText hAdmits
      | false =>
          simp [perform, hFree hReplaces, hText,
            FileTree.write?_of_admits hAdmits]

/- A job whose file lies elsewhere does the same on both. -/
theorem Job.perform_sameOff
    {templates : Templates}
    {job : Job}
    (hName : job.path.NamesFile)
    (hPlace : job.path.place ∉ places)
    {first second after : FileTree}
    {outcome : WriteOutcome}
    (hSame : FileTree.SameOff places first second)
    (hJob : job.perform templates first = (.ok outcome, after)) :
    ∃ next,
      job.perform templates second = (.ok outcome, next) ∧
        FileTree.SameOff places after next := by
  have hEntryEq := hSame.hasEntry_eq hName hPlace
  cases Job.step_of_perform hJob with
  | skipped hKeeps hEntry =>
      rw [← hEntryEq] at hEntry
      exact
        ⟨second, perform_of_step (.skipped hKeeps hEntry), hSame⟩
  | written text hText hAdmits hFree =>
      rw [← hEntryEq] at hFree
      exact
        ⟨_,
          perform_of_step
            (.written text hText (hSame.admits hAdmits) hFree),
          hSame.written hAdmits hPlace _⟩

/-
  A job that replaces the only file that they differ at makes
  two trees the same.
-/
theorem Job.perform_meets
    {templates : Templates}
    {job : Job}
    (hReplaces : job.replaces = true)
    (hOnly : ∀ place ∈ places, place = job.path.place)
    {first second last final : FileTree}
    {outcome other : WriteOutcome}
    (hSame : FileTree.SameOff places first second)
    (hFirst : job.perform templates first = (.ok outcome, last))
    (hSecond :
      job.perform templates second = (.ok other, final))
    (place : Place) :
    final.at? place = last.at? place := by
  cases Job.step_of_perform hFirst with
  | skipped hKeeps hEntry =>
      rw [hReplaces] at hKeeps
      cases hKeeps
  | written text hText hAdmits hFree =>
      rw [perform_of_admits hReplaces hText
        (hSame.admits hAdmits)] at hSecond
      rw [← (Prod.mk.inj hSecond).2]
      exact hSame.at?_written hAdmits _ (hOnly place)

/- Jobs that are named the way files are and lie elsewhere. -/
def FilesOff
    (places : List Place)
    (jobs : List Job) : Prop :=
  ∀ job ∈ jobs, job.path.NamesFile ∧ job.path.place ∉ places

theorem runJobs_sameOff
    {templates : Templates}
    {jobs : List Job}
    (hJobs : FilesOff places jobs)
    {first second last : FileTree}
    {outcomes : List WriteOutcome}
    (hSame : FileTree.SameOff places first second)
    (hRun : runJobs templates jobs first = (.ok outcomes, last)) :
    ∃ final,
      runJobs templates jobs second = (.ok outcomes, final) ∧
        FileTree.SameOff places last final := by
  refine Effect.all_simulated ?_ hSame hRun
  intro job hJob _ _ _ _ hTrees hPerform
  rcases hJobs job hJob with ⟨hName, hPlace⟩
  exact Job.perform_sameOff hName hPlace hTrees hPerform

end RamlScaffold
