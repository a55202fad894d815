import RamlScaffold.Generation.Generator
import RamlScaffold.Proofs.Files.Change
import RamlScaffold.Proofs.Generation.Effect

/-
  Jobs: single files that a run is to make from templates.

  A job fails, is skipped, or writes its file; `Job.Step` says
  all that it can do, and what a row of jobs keeps is derived
  from it.

  Main declarations:
    * `Job`, `Job.perform`, `Job.Step`
    * `runJobs`, `files_runJobs`, `follows_runJobs`
    * `file_runJobs`, `file_runJobs_replaced`
    * `entry_of_mem_runJobs`
    * `forget_all_runJobs`
-/

------------------------------------------------------------
-- Jobs
------------------------------------------------------------

namespace RamlScaffold

variable [WriteAccess]

/- A file to be made, replacing what is there or not. -/
structure Job where
  template : String
  context : Template.Value
  path : Path
  replaces : Bool

namespace Job

/- What a job does to files. -/
def perform
    (templates : Templates)
    (job : Job)
    (tree : FileTree) : Effect WriteOutcome :=
  if !job.replaces && tree.hasEntry job.path then
    (.ok .skippedExisting, tree)
  else
    match templates.renderText job.template job.context with
    | .error failure => (.error failure, tree)
    | .ok text =>
        match tree.write? job.path (.text text) with
        | none => (.error (.fileUnwritable job.path), tree)
        | some after => (.ok .written, after)

/- Rendering a file takes the job of the file. -/
theorem yields_perform
    (templates : Templates)
    (job : Job)
    (tree : FileTree) :
    (templates.renderFile job.template job.context job.path
      job.replaces).Yields tree (job.perform templates tree) := by
  unfold Templates.renderFile perform
  refine (Action.yields_files tree).pass ?_
  split
  · exact (Action.yields_report _ tree).pass
      (Action.yields_pure _ tree)
  · cases hText :
        templates.renderText job.template job.context with
    | error failure =>
        exact (Action.yields_liftExcept _ tree).fail _
    | ok text =>
        refine (Action.yields_liftExcept _ tree).pass ?_
        dsimp only
        cases hAfter : tree.write? job.path (.text text) with
        | none =>
            exact (Action.yields_writeFile_none hAfter).fail _
        | some after =>
            exact (Action.yields_writeFile_some hAfter).pass
              ((Action.yields_report _ after).pass
                (Action.yields_pure _ after))

end Job

end RamlScaffold

------------------------------------------------------------
-- Steps
------------------------------------------------------------

namespace RamlScaffold

variable [WriteAccess]

namespace Job

/-
  All that a job can do.  A file that exists is kept unless
  the job replaces it, and a failure leaves the files alone.
-/
inductive Step
    (templates : Templates)
    (job : Job)
    (tree : FileTree) : Effect WriteOutcome → Prop where
  | failed (failure : Failure) :
      Step templates job tree (.error failure, tree)
  | skipped
      (hKeeps : job.replaces = false)
      (hEntry : tree.hasEntry job.path = true) :
      Step templates job tree (.ok .skippedExisting, tree)
  | written
      (text : String)
      (hText :
        templates.renderText job.template job.context = .ok text)
      (hAdmits : tree.Admits job.path)
      (hFree :
        job.replaces = false → tree.hasEntry job.path = false) :
      Step templates job tree
        (.ok .written, tree.written job.path (.text text))

theorem step_perform
    (templates : Templates)
    (job : Job)
    (tree : FileTree) :
    job.Step templates tree (job.perform templates tree) := by
  unfold perform
  split
  · next hSkip =>
      rw [Bool.and_eq_true, Bool.not_eq_true'] at hSkip
      exact Step.skipped hSkip.1 hSkip.2
  · next hSkip =>
      cases hText :
          templates.renderText job.template job.context with
      | error failure => exact Step.failed failure
      | ok text =>
          dsimp only
          cases hAfter : tree.write? job.path (.text text) with
          | none => exact Step.failed _
          | some after =>
              rcases FileTree.write?_eq_some_iff.mp hAfter with
                ⟨hAdmits, rfl⟩
              refine Step.written text hText hAdmits ?_
              intro hKeeps
              simpa [hKeeps] using hSkip

theorem step_of_perform
    {templates : Templates}
    {job : Job}
    {tree : FileTree}
    {effect : Effect WriteOutcome}
    (hJob : job.perform templates tree = effect) :
    job.Step templates tree effect := by
  rw [← hJob]
  exact job.step_perform templates tree

/- A job that may write its file writes it. -/
theorem perform_of_admits
    {templates : Templates}
    {job : Job}
    {tree : FileTree}
    {text : String}
    (hReplaces : job.replaces = true)
    (hText :
      templates.renderText job.template job.context = .ok text)
    (hAdmits : tree.Admits job.path) :
    job.perform templates tree =
      (.ok .written, tree.written job.path (.text text)) := by
  simp [perform, hReplaces, hText,
    FileTree.write?_of_admits hAdmits]

/- A job that replaces nothing keeps a file that exists. -/
theorem perform_of_hasEntry
    {job : Job}
    {tree : FileTree}
    (hKeeps : job.replaces = false)
    (hEntry : tree.hasEntry job.path = true)
    (templates : Templates) :
    job.perform templates tree =
      (.ok .skippedExisting, tree) := by
  simp [perform, hKeeps, hEntry]

namespace Step

variable {templates : Templates}
variable {job : Job} {tree : FileTree}
variable {effect : Effect WriteOutcome}

theorem follows
    (hStep : job.Step templates tree effect) :
    tree.Follows effect.2 := by
  cases hStep with
  | failed failure => exact FileTree.Follows.refl tree
  | skipped hKeeps hEntry => exact FileTree.Follows.refl tree
  | written text hText hAdmits hFree =>
      exact FileTree.Follows.written hAdmits _

/-
  A job changes no file, unless it replaces files and the
  file is its own.
-/
theorem file
    (hStep : job.Step templates tree effect)
    {place : Place}
    (hOther : job.replaces = true → job.path.place ≠ place)
    {contents : Contents}
    {isProgram : Bool}
    (hFile : tree.at? place = some (.file contents isProgram)) :
    effect.2.at? place = some (.file contents isProgram) := by
  cases hStep with
  | failed failure => exact hFile
  | skipped hKeeps hEntry => exact hFile
  | written text hText hAdmits hFree =>
      have hPlace : place ≠ job.path.place := by
        rintro rfl
        cases hReplaces : job.replaces with
        | true => exact hOther hReplaces rfl
        | false =>
            have hNone :=
              (FileTree.hasEntry_eq_false_iff
                hAdmits.namesFile tree).mp (hFree hReplaces)
            rw [hFile] at hNone
            cases hNone
      dsimp only
      rw [FileTree.at?_written hAdmits, if_neg hPlace]
      exact hFile

end Step

end Job

end RamlScaffold

------------------------------------------------------------
-- Jobs In A Row
------------------------------------------------------------

namespace RamlScaffold

variable [WriteAccess]

/- What jobs do one after the other, up to a failure. -/
def runJobs
    (templates : Templates)
    (jobs : List Job) : FileTree → Effect (List WriteOutcome) :=
  Effect.all (Job.perform templates) jobs

/-
  What every step of a job keeps, jobs in a row keep, whether
  they succeed or fail.
-/
theorem files_runJobs
    {templates : Templates}
    {jobs : List Job}
    {R : FileTree → FileTree → Prop}
    (hRefl : ∀ files, R files files)
    (hTrans :
      ∀ {first second third},
        R first second → R second third → R first third)
    (hStep :
      ∀ job ∈ jobs, ∀ tree effect,
        job.Step templates tree effect → R tree effect.2)
    (tree : FileTree) :
    R tree (runJobs templates jobs tree).2 :=
  Effect.files_all hRefl hTrans
    (fun job hJob files =>
      hStep job hJob files _ (job.step_perform templates files))
    tree

theorem follows_runJobs
    (templates : Templates)
    (jobs : List Job)
    (tree : FileTree) :
    tree.Follows (runJobs templates jobs tree).2 :=
  files_runJobs FileTree.Follows.refl FileTree.Follows.trans
    (fun _ _ _ _ hStep => hStep.follows) tree

theorem follows_of_runJobs
    {templates : Templates}
    {jobs : List Job}
    {tree last : FileTree}
    {result : Except Failure (List WriteOutcome)}
    (hRun : runJobs templates jobs tree = (result, last)) :
    tree.Follows last := by
  have hFollows := follows_runJobs templates jobs tree
  rw [hRun] at hFollows
  exact hFollows

/-
  Jobs change no file, except where a job that replaces files
  is at its place.
-/
theorem file_runJobs
    (templates : Templates)
    {jobs : List Job}
    {place : Place}
    (hOther :
      ∀ job ∈ jobs, job.replaces = true →
        job.path.place ≠ place)
    {tree : FileTree}
    {contents : Contents}
    {isProgram : Bool}
    (hFile : tree.at? place = some (.file contents isProgram)) :
    (runJobs templates jobs tree).2.at? place =
      some (.file contents isProgram) := by
  refine
    files_runJobs
      (R := fun first last =>
        first.at? place = some (.file contents isProgram) →
          last.at? place = some (.file contents isProgram))
      ?_ ?_ ?_ tree hFile
  · exact fun files hPlace => hPlace
  · exact fun hFirst hSecond hPlace => hSecond (hFirst hPlace)
  · exact fun job hJob tree effect hStep hPlace =>
      hStep.file (hOther job hJob) hPlace

theorem runJobs_append
    (templates : Templates)
    (front back : List Job)
    (tree : FileTree) :
    runJobs templates (front ++ back) tree =
      (runJobs templates front tree).andThen
        (fun outcomes middle =>
          (runJobs templates back middle).andThen
            (fun others after =>
              (.ok (outcomes ++ others), after))) :=
  Effect.all_append (Job.perform templates) front back tree

/- Jobs that all succeed succeed one by one. -/
theorem runJobs_cons_eq_ok
    {templates : Templates}
    {job : Job}
    {jobs : List Job}
    {tree last : FileTree}
    {outcomes : List WriteOutcome}
    (hRun :
      runJobs templates (job :: jobs) tree =
        (.ok outcomes, last)) :
    ∃ outcome middle others,
      job.perform templates tree = (.ok outcome, middle) ∧
        runJobs templates jobs middle = (.ok others, last) := by
  rcases Effect.all_cons_eq_ok hRun with
    ⟨outcome, middle, others, hJob, hJobs, -⟩
  exact ⟨outcome, middle, others, hJob, hJobs⟩

theorem runJobs_append_eq_ok
    {templates : Templates}
    {front back : List Job}
    {tree last : FileTree}
    {outcomes : List WriteOutcome}
    (hRun :
      runJobs templates (front ++ back) tree =
        (.ok outcomes, last)) :
    ∃ earlier middle others,
      runJobs templates front tree = (.ok earlier, middle) ∧
        runJobs templates back middle = (.ok others, last) := by
  rw [runJobs_append] at hRun
  rcases Effect.andThen_eq_ok hRun with
    ⟨earlier, middle, hFront, hRest⟩
  rcases Effect.andThen_eq_ok hRest with
    ⟨others, final, hBack, hFinal⟩
  have hLast : final = last := congrArg Prod.snd hFinal
  rw [hLast] at hBack
  exact ⟨earlier, middle, others, hFront, hBack⟩

theorem runJobs_append_of_ok
    {templates : Templates}
    {front back : List Job}
    {tree middle last : FileTree}
    {outcomes others : List WriteOutcome}
    (hFront : runJobs templates front tree = (.ok outcomes, middle))
    (hBack : runJobs templates back middle = (.ok others, last)) :
    runJobs templates (front ++ back) tree =
      (.ok (outcomes ++ others), last) := by
  rw [runJobs_append, hFront, Effect.andThen_ok, hBack,
    Effect.andThen_ok]

theorem runJobs_singleton
    {templates : Templates}
    {job : Job}
    {tree after : FileTree}
    {outcome : WriteOutcome}
    (hJob : job.perform templates tree = (.ok outcome, after)) :
    runJobs templates [job] tree = (.ok [outcome], after) := by
  simp only [runJobs, Effect.all, hJob, Effect.andThen_ok]

/- A job that succeeds has a file afterwards. -/
theorem Job.entry_of_perform
    {templates : Templates}
    {job : Job}
    (hName : job.path.NamesFile)
    {tree after : FileTree}
    {outcome : WriteOutcome}
    (hJob : job.perform templates tree = (.ok outcome, after)) :
    after.at? job.path.place ≠ none := by
  cases Job.step_of_perform hJob with
  | skipped hKeeps hEntry =>
      exact (FileTree.hasEntry_iff hName tree).mp hEntry
  | written text hText hAdmits hFree =>
      rw [FileTree.at?_written hAdmits, if_pos rfl]
      simp

/- Every job of a row that succeeds has a file afterwards. -/
theorem entry_of_mem_runJobs
    {templates : Templates}
    {jobs : List Job}
    {job : Job}
    (hJob : job ∈ jobs)
    (hName : job.path.NamesFile)
    {tree last : FileTree}
    {outcomes : List WriteOutcome}
    (hRun : runJobs templates jobs tree = (.ok outcomes, last)) :
    last.at? job.path.place ≠ none := by
  rcases List.append_of_mem hJob with ⟨before, later, hJobs⟩
  rw [hJobs] at hRun
  rcases runJobs_append_eq_ok hRun with
    ⟨earlier, first, others, -, hRest⟩
  rcases runJobs_cons_eq_ok hRest with
    ⟨outcome, middle, values, hPerform, hLater⟩
  exact (follows_of_runJobs hLater).entry _
    (Job.entry_of_perform hName hPerform)

/- A job that replaces its file and succeeds has written it. -/
theorem Job.text_of_replaces
    {templates : Templates}
    {job : Job}
    (hReplaces : job.replaces = true)
    {tree after : FileTree}
    {outcome : WriteOutcome}
    (hJob : job.perform templates tree = (.ok outcome, after)) :
    ∃ text,
      templates.renderText job.template job.context = .ok text ∧
        after.at? job.path.place =
          some
            (.file (.text text)
              (tree.isProgramAt job.path.place)) := by
  cases Job.step_of_perform hJob with
  | skipped hKeeps hEntry =>
      rw [hKeeps] at hReplaces
      cases hReplaces
  | written text hText hAdmits hFree =>
      refine ⟨text, hText, ?_⟩
      rw [FileTree.at?_written hAdmits, if_pos rfl]

/-
  The last job that replaces the file of a place decides what
  the file holds.
-/
theorem file_runJobs_replaced
    {templates : Templates}
    {before later : List Job}
    {job : Job}
    (hReplaces : job.replaces = true)
    (hOther :
      ∀ other ∈ later, other.replaces = true →
        other.path.place ≠ job.path.place)
    {tree last : FileTree}
    {outcomes : List WriteOutcome}
    (hRun :
      runJobs templates (before ++ job :: later) tree =
        (.ok outcomes, last)) :
    ∃ text,
      templates.renderText job.template job.context = .ok text ∧
        last.at? job.path.place =
          some
            (.file (.text text)
              (tree.isProgramAt job.path.place)) := by
  rcases runJobs_append_eq_ok hRun with
    ⟨earlier, first, others, hBefore, hRest⟩
  rcases runJobs_cons_eq_ok hRest with
    ⟨outcome, middle, values, hJob, hLater⟩
  rcases Job.text_of_replaces hReplaces hJob with
    ⟨text, hText, hPlace⟩
  rw [(follows_of_runJobs hBefore).program] at hPlace
  have hKept := file_runJobs templates hOther hPlace
  rw [hLater] at hKept
  exact ⟨text, hText, hKept⟩

/- What follows on a row of jobs follows on its last job. -/
theorem runJobs_cons_andThen
    (templates : Templates)
    (job : Job)
    (jobs : List Job)
    (tree : FileTree)
    {α : Type}
    (next : FileTree → Effect α) :
    (runJobs templates (job :: jobs) tree).andThen
        (fun _ after => next after) =
      (job.perform templates tree).andThen
        (fun _ middle =>
          (runJobs templates jobs middle).andThen
            (fun _ after => next after)) := by
  rw [runJobs, Effect.all, Effect.andThen_assoc]
  simp only [Effect.andThen_assoc, Effect.andThen_ok]
  rfl

/- The jobs of items, item after item, are jobs in a row. -/
theorem forget_all_runJobs
    {α β : Type}
    (templates : Templates)
    (jobsOf : β → List Job)
    (value : β → List WriteOutcome → α)
    (items : List β)
    (tree : FileTree) :
    (Effect.all
        (fun item files =>
          (runJobs templates (jobsOf item) files).andThen
            (fun outcomes after =>
              (.ok (value item outcomes), after)))
        items tree).forget =
      (runJobs templates (items.flatMap jobsOf) tree).forget := by
  induction items generalizing tree with
  | nil => rfl
  | cons item items ih =>
      rw [List.flatMap_cons, runJobs_append, Effect.all,
        Effect.forget_andThen, Effect.forget_andThen,
        Effect.andThen_assoc]
      simp only [Effect.andThen_ok, Effect.forget_andThen_value,
        ih]

end RamlScaffold
