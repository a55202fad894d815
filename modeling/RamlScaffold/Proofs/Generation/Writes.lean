import RamlScaffold.Proofs.Generation.Job

/-
  What jobs have written.

  Of jobs that were done, some wrote their files and the
  others found theirs.  A place has the text of the last job
  that wrote there, and what it had before if none did.

  Main declarations:
    * `writers`
    * `Job.outcome_of_replaces`, `Job.written_iff_absent`
    * `FileTree.HoldsAfter`
    * `holdsAfter_runJobs`, `at?_of_no_writer`
    * `text_of_writer`
    * `runJobs_eq_error`
-/

------------------------------------------------------------
-- What Became Of A Job
------------------------------------------------------------

namespace RamlScaffold

namespace Job

variable [WriteAccess]
variable {templates : Templates} {job : Job}
variable {tree after : FileTree} {outcome : WriteOutcome}

/- A job that replaces its file never skips it. -/
theorem outcome_of_replaces
    (hReplaces : job.replaces = true)
    (hJob : job.perform templates tree = (.ok outcome, after)) :
    outcome = .written := by
  cases step_of_perform hJob with
  | skipped hKeeps hEntry =>
      rw [hKeeps] at hReplaces
      cases hReplaces
  | written text hText hAdmits hFree => rfl

/-
  A job that replaces nothing writes its file exactly if the
  file is absent, and otherwise leaves all as it is.
-/
theorem written_iff_absent
    (hKeeps : job.replaces = false)
    (hJob : job.perform templates tree = (.ok outcome, after)) :
    outcome = .written ↔ tree.hasEntry job.path = false := by
  cases step_of_perform hJob with
  | skipped _ hEntry => simp [hEntry]
  | written text hText hAdmits hFree => simp [hFree hKeeps]

/- A job that fails leaves the files as they were. -/
theorem files_of_error
    {failure : Failure}
    (hJob :
      job.perform templates tree = (.error failure, after)) :
    after = tree := by
  cases step_of_perform hJob with
  | failed failure => rfl

end Job

/- The jobs that wrote their files, by what became of each. -/
def writers : List Job → List WriteOutcome → List Job
  | job :: jobs, .written :: outcomes =>
      job :: writers jobs outcomes
  | _ :: jobs, .skippedExisting :: outcomes =>
      writers jobs outcomes
  | _, _ => []

theorem writers_append
    {front : List Job}
    {outcomes : List WriteOutcome}
    (hLength : front.length = outcomes.length)
    (back : List Job)
    (others : List WriteOutcome) :
    writers (front ++ back) (outcomes ++ others) =
      writers front outcomes ++ writers back others := by
  induction front generalizing outcomes with
  | nil =>
      rw [List.length_nil] at hLength
      rw [List.length_eq_zero_iff.mp hLength.symm]
      rfl
  | cons job front ih =>
      cases outcomes with
      | nil => cases hLength
      | cons outcome outcomes =>
          have hRest := ih (Nat.succ.inj hLength)
          cases outcome with
          | written => exact congrArg (List.cons job) hRest
          | skippedExisting => exact hRest

theorem writers_sublist
    (jobs : List Job)
    (outcomes : List WriteOutcome) :
    (writers jobs outcomes).Sublist jobs := by
  induction jobs generalizing outcomes with
  | nil => exact List.Sublist.refl []
  | cons job jobs ih =>
      cases outcomes with
      | nil => exact List.nil_sublist _
      | cons outcome outcomes =>
          cases outcome with
          | written => exact (ih outcomes).cons_cons job
          | skippedExisting => exact (ih outcomes).cons job

/- A row of jobs that all replace their files writes all. -/
theorem writers_of_replaces
    [WriteAccess]
    {templates : Templates}
    {jobs : List Job}
    (hReplaces : ∀ job ∈ jobs, job.replaces = true)
    {tree last : FileTree}
    {outcomes : List WriteOutcome}
    (hRun : runJobs templates jobs tree = (.ok outcomes, last)) :
    writers jobs outcomes = jobs := by
  induction jobs generalizing tree outcomes with
  | nil =>
      have hOutcomes : [] = outcomes :=
        Except.ok.inj (congrArg Prod.fst hRun)
      rw [← hOutcomes]
      rfl
  | cons job jobs ih =>
      rcases Effect.all_cons_eq_ok hRun with
        ⟨outcome, middle, others, hJob, hJobs, rfl⟩
      have hOutcome :=
        Job.outcome_of_replaces
          (hReplaces job List.mem_cons_self) hJob
      rw [hOutcome, writers,
        ih
          (fun other hOther =>
            hReplaces other (List.mem_cons_of_mem job hOther))
          hJobs]

end RamlScaffold

------------------------------------------------------------
-- What A Place Has Afterwards
------------------------------------------------------------

namespace RamlScaffold

variable [WriteAccess]

/-
  What a place has after jobs have written their files, one
  after the other, on a first tree.
-/
inductive FileTree.HoldsAfter
    (templates : Templates)
    (first : FileTree)
    (jobs : List Job)
    (place : Place) : Option FileEntry → Prop where
  | kept
      (hNone : ∀ job ∈ jobs, job.path.place ≠ place) :
      HoldsAfter templates first jobs place (first.at? place)
  | written
      (before : List Job)
      (job : Job)
      (later : List Job)
      (text : String)
      (hJobs : jobs = before ++ job :: later)
      (hPlace : job.path.place = place)
      (hLast : ∀ other ∈ later, other.path.place ≠ place)
      (hText :
        templates.renderText job.template job.context =
          .ok text) :
      HoldsAfter templates first jobs place
        (some
          (.file (.text text) (first.isProgramAt place)))

namespace FileTree.HoldsAfter

variable {templates : Templates} {first : FileTree}
variable {jobs : List Job} {place : Place}
variable {entry : Option FileEntry}

/- A write in front decides where none of the others does. -/
theorem cons_written
    {job : Job}
    {text : String}
    (hText :
      templates.renderText job.template job.context = .ok text)
    (hAdmits : first.Admits job.path)
    (hRest :
      HoldsAfter templates
        (first.written job.path (.text text)) jobs place
        entry) :
    HoldsAfter templates first (job :: jobs) place entry := by
  cases hRest with
  | kept hNone =>
      rw [at?_written hAdmits]
      by_cases hPlace : place = job.path.place
      · rw [if_pos hPlace, ← hPlace]
        exact written [] job jobs text rfl hPlace.symm hNone
          hText
      · rw [if_neg hPlace]
        refine kept ?_
        intro other hOther
        rcases List.mem_cons.mp hOther with rfl | hOther
        · exact Ne.symm hPlace
        · exact hNone other hOther
  | written before last later other hJobs hPlace hLast hOther =>
      rw [isProgramAt_written hAdmits]
      refine
        written (job :: before) last later other ?_ hPlace hLast
          hOther
      rw [hJobs]
      rfl

end FileTree.HoldsAfter

/-
  After jobs that all succeeded, every place has the text of
  the last job that wrote there, or what it had before.
-/
theorem holdsAfter_runJobs
    {templates : Templates}
    {jobs : List Job}
    {tree last : FileTree}
    {outcomes : List WriteOutcome}
    (hRun : runJobs templates jobs tree = (.ok outcomes, last))
    (place : Place) :
    tree.HoldsAfter templates (writers jobs outcomes) place
      (last.at? place) := by
  induction jobs generalizing tree outcomes with
  | nil =>
      have hOutcomes : [] = outcomes :=
        Except.ok.inj (congrArg Prod.fst hRun)
      have hLast : tree = last := congrArg Prod.snd hRun
      rw [← hOutcomes, ← hLast]
      exact .kept (fun job hJob => nomatch hJob)
  | cons job jobs ih =>
      rcases Effect.all_cons_eq_ok hRun with
        ⟨outcome, middle, others, hJob, hJobs, rfl⟩
      -- The job in front decides where none of the others wrote.
      have hRest := ih hJobs
      cases Job.step_of_perform hJob with
      | skipped hKeeps hEntry => exact hRest
      | written text hText hAdmits hFree =>
          exact hRest.cons_written hText hAdmits

/- Where no job wrote, all is as it was. -/
theorem at?_of_no_writer
    {templates : Templates}
    {jobs : List Job}
    {tree last : FileTree}
    {outcomes : List WriteOutcome}
    (hRun : runJobs templates jobs tree = (.ok outcomes, last))
    {place : Place}
    (hNone :
      ∀ job ∈ writers jobs outcomes, job.path.place ≠ place) :
    last.at? place = tree.at? place := by
  have hHolds := holdsAfter_runJobs hRun place
  generalize last.at? place = entry at hHolds ⊢
  cases hHolds with
  | kept => rfl
  | written before job later text hJobs hPlace hLast hText =>
      refine absurd hPlace (hNone job ?_)
      rw [hJobs]
      exact List.mem_append_right before List.mem_cons_self

/- Where a job wrote, the last such job has left its text. -/
theorem text_of_writer
    {templates : Templates}
    {jobs : List Job}
    {tree last : FileTree}
    {outcomes : List WriteOutcome}
    (hRun : runJobs templates jobs tree = (.ok outcomes, last))
    {job : Job}
    (hJob : job ∈ writers jobs outcomes) :
    ∃ before other later text isProgram,
      writers jobs outcomes = before ++ other :: later ∧
        other.path.place = job.path.place ∧
        (∀ follower ∈ later,
          follower.path.place ≠ job.path.place) ∧
        templates.renderText other.template other.context =
          .ok text ∧
        last.at? job.path.place =
          some (.file (.text text) isProgram) := by
  have hHolds := holdsAfter_runJobs hRun job.path.place
  generalize last.at? job.path.place = entry at hHolds ⊢
  cases hHolds with
  | kept hNone => exact absurd rfl (hNone job hJob)
  | written before other later text hJobs hPlace hLast hText =>
      exact ⟨before, other, later, text, _, hJobs, hPlace, hLast,
        hText, rfl⟩

end RamlScaffold

------------------------------------------------------------
-- Rows That Fail
------------------------------------------------------------

namespace RamlScaffold

variable [WriteAccess]

/-
  A row of jobs that fails has done the jobs in front of the
  first that fails, and nothing else.
-/
theorem runJobs_eq_error
    {templates : Templates}
    {jobs : List Job}
    {tree last : FileTree}
    {failure : Failure}
    (hRun : runJobs templates jobs tree = (.error failure, last)) :
    ∃ front job later outcomes,
      jobs = front ++ job :: later ∧
        runJobs templates front tree = (.ok outcomes, last) ∧
        job.perform templates last = (.error failure, last) := by
  induction jobs generalizing tree with
  | nil => cases hRun
  | cons job jobs ih =>
      rcases Effect.andThen_eq_error hRun with hJob | hRest
      · have hTree := Job.files_of_error hJob
        rw [← hTree] at hJob ⊢
        exact ⟨[], job, jobs, [], rfl, rfl, hJob⟩
      · rcases hRest with ⟨outcome, middle, hJob, hJobs⟩
        rcases ih (Effect.andThen_value_eq_error hJobs) with
          ⟨front, failing, later, outcomes, hSplit, hFront,
            hFailing⟩
        refine
          ⟨job :: front, failing, later, outcome :: outcomes, ?_,
            ?_, hFailing⟩
        · rw [hSplit, List.cons_append]
        · exact
            runJobs_append_of_ok (runJobs_singleton hJob) hFront

end RamlScaffold
