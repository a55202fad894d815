import RamlScaffold.Generation.Action

/-
  What actions do to files, with their events left out.

  An effect is a result together with the files after it.  An
  action yields an effect if it ends so whatever was reported
  before it; the lemmas follow the ways in which actions are
  put together.

  Main declarations:
    * `Effect`, `Effect.andThen`, `Effect.all`
    * `Effect.all_simulated`
    * `Action.Yields`
    * `Action.Yields.bind`, `Action.Yields.pass`
    * `Action.Yields.fail`
    * `Action.yields_mapM`
-/

------------------------------------------------------------
-- Effects
------------------------------------------------------------

namespace RamlScaffold

/- A result, and the files after it. -/
abbrev Effect (α : Type) : Type :=
  Except Failure α × FileTree

namespace Effect

variable {α β γ : Type}

/- An effect and, unless it failed, what follows on it. -/
def andThen
    (effect : Effect α)
    (next : α → FileTree → Effect β) : Effect β :=
  match effect with
  | (.ok value, files) => next value files
  | (.error failure, files) => (.error failure, files)

@[simp] theorem andThen_ok
    (value : α)
    (files : FileTree)
    (next : α → FileTree → Effect β) :
    andThen (.ok value, files) next = next value files :=
  rfl

@[simp] theorem andThen_error
    (failure : Failure)
    (files : FileTree)
    (next : α → FileTree → Effect β) :
    andThen (.error failure, files) next =
      (.error failure, files) :=
  rfl

theorem andThen_assoc
    (effect : Effect α)
    (next : α → FileTree → Effect β)
    (last : β → FileTree → Effect γ) :
    (effect.andThen next).andThen last =
      effect.andThen
        (fun value files => (next value files).andThen last) := by
  rcases effect with ⟨_ | value, files⟩
  · rfl
  · rfl

/- An effect that succeeds has first steps that succeed. -/
theorem andThen_eq_ok
    {effect : Effect α}
    {next : α → FileTree → Effect β}
    {value : β}
    {after : FileTree}
    (hOk : effect.andThen next = (.ok value, after)) :
    ∃ first middle,
      effect = (.ok first, middle) ∧
        next first middle = (.ok value, after) := by
  rcases effect with ⟨failure | first, middle⟩
  · cases hOk
  · exact ⟨first, middle, rfl, hOk⟩

/- An effect that fails does so at first or in what follows. -/
theorem andThen_eq_error
    {effect : Effect α}
    {next : α → FileTree → Effect β}
    {failure : Failure}
    {after : FileTree}
    (hError : effect.andThen next = (.error failure, after)) :
    effect = (.error failure, after) ∨
      ∃ first middle,
        effect = (.ok first, middle) ∧
          next first middle = (.error failure, after) := by
  rcases effect with ⟨stop | first, middle⟩
  · rcases Prod.mk.inj hError with ⟨hStop, rfl⟩
    rw [Except.error.inj hStop]
    exact Or.inl rfl
  · exact Or.inr ⟨first, middle, rfl, hError⟩

/- What is made of a value does not fail. -/
theorem andThen_value_eq_error
    {effect : Effect α}
    {value : α → β}
    {failure : Failure}
    {after : FileTree}
    (hError :
      effect.andThen
          (fun first last => (.ok (value first), last)) =
        (.error failure, after)) :
    effect = (.error failure, after) := by
  rcases andThen_eq_error hError with hFirst | hValue
  · exact hFirst
  · rcases hValue with ⟨first, middle, -, hOk⟩
    cases hOk

/- An effect with its value left out. -/
def forget (effect : Effect α) : Effect Unit :=
  effect.andThen (fun _ files => (.ok (), files))

theorem forget_eq_ok_iff
    {effect : Effect α}
    {after : FileTree} :
    effect.forget = (.ok (), after) ↔
      ∃ value, effect = (.ok value, after) := by
  rcases effect with ⟨failure | value, files⟩
  · simp [forget]
  · simp [forget]

theorem forget_eq_error_iff
    {effect : Effect α}
    {failure : Failure}
    {after : FileTree} :
    effect.forget = (.error failure, after) ↔
      effect = (.error failure, after) := by
  rcases effect with ⟨stop | value, files⟩
  · simp [forget]
  · simp [forget]

theorem files_forget (effect : Effect α) :
    effect.forget.2 = effect.2 := by
  rcases effect with ⟨_ | value, files⟩
  · rfl
  · rfl

/- What both parts of an effect keep, the effect keeps. -/
theorem files_andThen
    {R : FileTree → FileTree → Prop}
    (hTrans :
      ∀ {first second third},
        R first second → R second third → R first third)
    {files : FileTree}
    {effect : Effect α}
    {next : α → FileTree → Effect β}
    (hEffect : R files effect.2)
    (hNext :
      ∀ value after, effect = (.ok value, after) →
        R after (next value after).2) :
    R files (effect.andThen next).2 := by
  rcases effect with ⟨failure | value, after⟩
  · exact hEffect
  · exact hTrans hEffect (hNext value after rfl)

theorem forget_andThen
    (effect : Effect α)
    (next : α → FileTree → Effect β) :
    (effect.andThen next).forget =
      effect.andThen
        (fun value files => (next value files).forget) :=
  andThen_assoc effect next _

@[simp] theorem andThen_self (effect : Effect α) :
    effect.andThen (fun value files => (.ok value, files)) =
      effect := by
  rcases effect with ⟨failure | value, files⟩
  · rfl
  · rfl

theorem files_andThen_value
    (effect : Effect α)
    (value : α → β) :
    (effect.andThen
        (fun first after => (.ok (value first), after))).2 =
      effect.2 := by
  rcases effect with ⟨failure | first, files⟩
  · rfl
  · rfl

/- What is made of a value is forgotten with the value. -/
theorem forget_andThen_value
    (effect : Effect α)
    (value : α → β) :
    (effect.andThen
        (fun first after => (.ok (value first), after))).forget =
      effect.forget :=
  andThen_assoc effect _ _

end Effect

end RamlScaffold

------------------------------------------------------------
-- Effects In A Row
------------------------------------------------------------

namespace RamlScaffold

namespace Effect

variable {α β γ δ : Type}

/- The effects of a list of items, up to the first failure. -/
def all
    (step : β → FileTree → Effect α) :
    List β → FileTree → Effect (List α)
  | [], files => (.ok [], files)
  | item :: items, files =>
      (step item files).andThen
        (fun value middle =>
          (all step items middle).andThen
            (fun values after => (.ok (value :: values), after)))

theorem all_append
    (step : β → FileTree → Effect α)
    (front back : List β)
    (files : FileTree) :
    all step (front ++ back) files =
      (all step front files).andThen
        (fun values middle =>
          (all step back middle).andThen
            (fun others after =>
              (.ok (values ++ others), after))) := by
  induction front generalizing files with
  | nil =>
      rw [List.nil_append]
      rcases hBack : all step back files with
        ⟨_ | values, after⟩
      · simp [all, hBack]
      · simp [all, hBack]
  | cons item items ih =>
      rw [List.cons_append, all, all]
      rcases step item files with ⟨_ | value, middle⟩
      · rfl
      · rw [andThen_ok, andThen_ok, ih, andThen_assoc,
          andThen_assoc]
        simp only [andThen_ok, List.cons_append,
          andThen_assoc]

/-
  What each step of a row keeps, the row keeps, whether it
  succeeds or fails.
-/
theorem files_all
    {step : β → FileTree → Effect α}
    {R : FileTree → FileTree → Prop}
    (hRefl : ∀ files, R files files)
    (hTrans :
      ∀ {first second third},
        R first second → R second third → R first third)
    {items : List β}
    (hStep :
      ∀ item ∈ items, ∀ files, R files (step item files).2)
    (files : FileTree) :
    R files (all step items files).2 := by
  induction items generalizing files with
  | nil => exact hRefl files
  | cons item items ih =>
      have hRest :=
        ih
          (fun other hOther =>
            hStep other (List.mem_cons_of_mem item hOther))
      rw [all]
      refine
        files_andThen (R := R) hTrans
          (hStep item List.mem_cons_self files) ?_
      intro value middle _
      refine files_andThen (R := R) hTrans (hRest middle) ?_
      intro values after _
      exact hRefl after

theorem all_nil_eq_ok
    {step : β → FileTree → Effect α}
    {files after : FileTree}
    {values : List α}
    (hAll : all step [] files = (.ok values, after)) :
    values = [] ∧ after = files := by
  rcases Prod.mk.inj hAll with ⟨hValues, hFiles⟩
  exact ⟨(Except.ok.inj hValues).symm, hFiles.symm⟩

/- Effects that all succeed succeed one by one. -/
theorem all_cons_eq_ok
    {step : β → FileTree → Effect α}
    {item : β}
    {items : List β}
    {files after : FileTree}
    {values : List α}
    (hAll : all step (item :: items) files = (.ok values, after)) :
    ∃ value middle others,
      step item files = (.ok value, middle) ∧
        all step items middle = (.ok others, after) ∧
        values = value :: others := by
  rcases andThen_eq_ok hAll with ⟨value, middle, hFirst, hRest⟩
  rcases andThen_eq_ok hRest with
    ⟨others, final, hOthers, hFinal⟩
  rcases Prod.mk.inj hFinal with ⟨hValues, rfl⟩
  exact ⟨value, middle, others, hFirst, hOthers,
    (Except.ok.inj hValues).symm⟩

/- A row that succeeds succeeds in front and in back. -/
theorem all_append_eq_ok
    {step : β → FileTree → Effect α}
    {front back : List β}
    {files after : FileTree}
    {values : List α}
    (hAll : all step (front ++ back) files = (.ok values, after)) :
    ∃ earlier middle others,
      all step front files = (.ok earlier, middle) ∧
        all step back middle = (.ok others, after) ∧
        values = earlier ++ others := by
  rw [all_append] at hAll
  rcases andThen_eq_ok hAll with ⟨earlier, middle, hFront, hRest⟩
  rcases andThen_eq_ok hRest with ⟨others, final, hBack, hFinal⟩
  rcases Prod.mk.inj hFinal with ⟨hValues, rfl⟩
  exact ⟨earlier, middle, others, hFront, hBack,
    (Except.ok.inj hValues).symm⟩

/- A row that succeeds has a value for each item. -/
theorem length_of_all_eq_ok
    {step : β → FileTree → Effect α}
    {items : List β}
    {files after : FileTree}
    {values : List α}
    (hAll : all step items files = (.ok values, after)) :
    values.length = items.length := by
  induction items generalizing files after values with
  | nil =>
      rw [(all_nil_eq_ok hAll).1]
      rfl
  | cons item items ih =>
      rcases all_cons_eq_ok hAll with
        ⟨value, middle, others, -, hOthers, rfl⟩
      rw [List.length_cons, List.length_cons, ih hOthers]

/- Values that tell their items tell them in order. -/
theorem map_of_all_eq_ok
    {step : β → FileTree → Effect α}
    {item? : α → β}
    (hItem :
      ∀ item files value after,
        step item files = (.ok value, after) →
          item? value = item)
    {items : List β}
    {files after : FileTree}
    {values : List α}
    (hAll : all step items files = (.ok values, after)) :
    values.map item? = items := by
  induction items generalizing files after values with
  | nil =>
      rw [(all_nil_eq_ok hAll).1]
      rfl
  | cons item items ih =>
      rcases all_cons_eq_ok hAll with
        ⟨value, middle, others, hFirst, hOthers, hValues⟩
      rw [hValues, List.map_cons, hItem item files value middle
        hFirst, ih hOthers]

/-
  If every step has the same value from related files, and
  leaves related files, then so does a row of them.
-/
theorem all_simulated
    {step : β → FileTree → Effect α}
    {R : FileTree → FileTree → Prop}
    {items : List β}
    (hStep :
      ∀ item ∈ items, ∀ first second value after,
        R first second →
          step item first = (.ok value, after) →
            ∃ next,
              step item second = (.ok value, next) ∧
                R after next)
    {first second last : FileTree}
    {values : List α}
    (hRelated : R first second)
    (hAll : all step items first = (.ok values, last)) :
    ∃ final,
      all step items second = (.ok values, final) ∧
        R last final := by
  induction items generalizing first second values with
  | nil =>
      rcases all_nil_eq_ok hAll with ⟨rfl, rfl⟩
      exact ⟨second, rfl, hRelated⟩
  | cons item items ih =>
      rcases all_cons_eq_ok hAll with
        ⟨value, middle, others, hItem, hItems, rfl⟩
      rcases hStep item List.mem_cons_self first second value
          middle hRelated hItem with
        ⟨next, hNext, hMiddle⟩
      rcases ih
          (fun other hOther =>
            hStep other (List.mem_cons_of_mem item hOther))
          hMiddle hItems with
        ⟨final, hFinal, hLast⟩
      refine ⟨final, ?_, hLast⟩
      rw [all, hNext, andThen_ok, hFinal, andThen_ok]

/- Values that depend on the items alone are known before. -/
theorem all_andThen_value
    (step : γ → FileTree → Effect α)
    (key : β → γ)
    (value : β → δ)
    (items : List β)
    (files : FileTree) :
    all
        (fun item tree =>
          (step (key item) tree).andThen
            (fun _ after => (.ok (value item), after)))
        items files =
      (all step (items.map key) files).andThen
        (fun _ after => (.ok (items.map value), after)) := by
  induction items generalizing files with
  | nil => rfl
  | cons item items ih =>
      rw [List.map_cons, List.map_cons, all, all,
        andThen_assoc, andThen_assoc]
      simp only [ih, andThen_ok, andThen_assoc]

end Effect

end RamlScaffold

------------------------------------------------------------
-- Actions
------------------------------------------------------------

namespace RamlScaffold

namespace Action

variable {α β : Type}

/- An action ends with an effect, whatever was reported. -/
def Yields
    (action : Action α)
    (files : FileTree)
    (effect : Effect α) : Prop :=
  ∀ events, ∃ reported,
    action.run.run ⟨files, events⟩ =
      (effect.1, ⟨effect.2, reported⟩)

theorem run_bind
    (action : Action α)
    (next : α → Action β)
    (workspace : Workspace) :
    (action >>= next).run.run workspace =
      match action.run.run workspace with
      | (.ok value, after) => (next value).run.run after
      | (.error failure, after) => (.error failure, after) := by
  rw [ExceptT.run_bind, StateT.run_bind]
  rcases action.run.run workspace with ⟨_ | value, after⟩
  · rfl
  · rfl

theorem yields_pure
    (value : α)
    (files : FileTree) :
    Yields (pure value) files (.ok value, files) :=
  fun events => ⟨events, rfl⟩

theorem yields_throw
    (failure : Failure)
    (files : FileTree) :
    Yields (throw failure : Action α) files
      (.error failure, files) :=
  fun events => ⟨events, rfl⟩

/- Actions in a row have their effects in a row. -/
theorem Yields.bind
    {action : Action α}
    {next : α → Action β}
    {files : FileTree}
    {effect : Effect α}
    {rest : α → FileTree → Effect β}
    (hAction : action.Yields files effect)
    (hNext :
      ∀ value after, effect = (.ok value, after) →
        (next value).Yields after (rest value after)) :
    (action >>= next).Yields files (effect.andThen rest) := by
  intro events
  rcases hAction events with ⟨reported, hRun⟩
  rw [run_bind, hRun]
  rcases effect with ⟨failure | value, after⟩
  · exact ⟨reported, rfl⟩
  · exact hNext value after rfl reported

/- An action that succeeds is passed over. -/
theorem Yields.pass
    {action : Action α}
    {next : α → Action β}
    {files after : FileTree}
    {value : α}
    {effect : Effect β}
    (hAction : action.Yields files (.ok value, after))
    (hNext : (next value).Yields after effect) :
    (action >>= next).Yields files effect := by
  intro events
  rcases hAction events with ⟨reported, hRun⟩
  rw [run_bind, hRun]
  exact hNext reported

/- Nothing follows on an action that fails. -/
theorem Yields.fail
    {action : Action α}
    {files after : FileTree}
    {failure : Failure}
    (hAction : action.Yields files (.error failure, after))
    (next : α → Action β) :
    (action >>= next).Yields files (.error failure, after) := by
  intro events
  rcases hAction events with ⟨reported, hRun⟩
  rw [run_bind, hRun]
  exact ⟨reported, rfl⟩

/- An action whose value is made into another value. -/
theorem Yields.andPure
    {action : Action α}
    {files : FileTree}
    {effect : Effect α}
    (hAction : action.Yields files effect)
    (value : α → β) :
    (action >>= fun first => pure (value first)).Yields files
      (effect.andThen
        (fun first after => (.ok (value first), after))) :=
  hAction.bind
    (fun first after _ => yields_pure (value first) after)

/- An action whose value was known before. -/
theorem Yields.bindValue
    {γ : Type}
    {action : Action α}
    {next : α → Action β}
    {files : FileTree}
    {effect : Effect γ}
    {value : α}
    {rest : FileTree → Effect β}
    (hAction :
      action.Yields files
        (effect.andThen (fun _ after => (.ok value, after))))
    (hNext :
      (next value).Yields effect.2 (rest effect.2)) :
    (action >>= next).Yields files
      (effect.andThen (fun _ after => rest after)) := by
  rcases effect with ⟨failure | first, after⟩
  · exact hAction.fail next
  · exact hAction.pass hNext

/-
  What follows on either of two actions follows on the one
  that is taken.
-/
theorem Yields.ofChoice
    {taken : Bool}
    {first second : Action α}
    {next : α → Action β}
    {files : FileTree}
    {effect : Effect β}
    (hBind :
      Yields ((if taken then first else second) >>= next) files
        effect) :
    Yields (if taken then first >>= next else second >>= next)
      files effect := by
  cases taken with
  | true => exact hBind
  | false => exact hBind

theorem yields_files (files : FileTree) :
    Yields Action.files files (.ok files, files) :=
  fun events => ⟨events, rfl⟩

theorem yields_report
    (event : Event)
    (files : FileTree) :
    Yields (report event) files (.ok (), files) :=
  fun events => ⟨event :: events, rfl⟩

theorem yields_reportAll
    (events : List Event)
    (files : FileTree) :
    Yields (reportAll events) files (.ok (), files) := by
  unfold reportAll
  induction events with
  | nil => exact yields_pure () files
  | cons event events ih =>
      rw [List.forM_eq_forM, List.forM_cons]
      exact (yields_report event files).pass ih

theorem yields_liftExcept
    (result : Except Failure α)
    (files : FileTree) :
    Yields (liftExcept result) files (result, files) := by
  cases result with
  | ok value => exact yields_pure value files
  | error failure => exact yields_throw failure files

/- A change that can be made is made. -/
theorem yields_change_some
    {changed : FileTree → Option FileTree}
    {files after : FileTree}
    (hChanged : changed files = some after)
    (failure : Failure) :
    Yields (change changed failure) files (.ok (), after) := by
  unfold change
  refine (yields_files files).pass ?_
  rw [hChanged]
  exact fun events => ⟨events, rfl⟩

/- A change that cannot be made fails. -/
theorem yields_change_none
    {changed : FileTree → Option FileTree}
    {files : FileTree}
    (hChanged : changed files = none)
    (failure : Failure) :
    Yields (change changed failure) files
      (.error failure, files) := by
  unfold change
  refine (yields_files files).pass ?_
  rw [hChanged]
  exact yields_throw failure files

theorem yields_createDirectory_some
    {path : Path}
    {files after : FileTree}
    (hAfter : files.createAll? path = some after) :
    Yields (createDirectory path) files (.ok (), after) := by
  apply yields_change_some
  exact hAfter

theorem yields_createDirectory_none
    {path : Path}
    {files : FileTree}
    (hAfter : files.createAll? path = none) :
    Yields (createDirectory path) files
      (.error (.directoryUncreatable path), files) := by
  apply yields_change_none
  exact hAfter

theorem yields_writeFile_some
    [WriteAccess]
    {path : Path}
    {content : String}
    {files after : FileTree}
    (hAfter : files.write? path (.text content) = some after) :
    Yields (writeFile path content) files (.ok (), after) := by
  apply yields_change_some
  exact hAfter

theorem yields_writeFile_none
    [WriteAccess]
    {path : Path}
    {content : String}
    {files : FileTree}
    (hAfter : files.write? path (.text content) = none) :
    Yields (writeFile path content) files
      (.error (.fileUnwritable path), files) := by
  apply yields_change_none
  exact hAfter

theorem yields_listDirectory_some
    {path : Path}
    {files : FileTree}
    {names : List String}
    (hNames : files.names? path = some names) :
    Yields (listDirectory path) files (.ok names, files) := by
  unfold listDirectory
  refine (yields_files files).pass ?_
  rw [hNames]
  exact yields_pure names files

theorem yields_listDirectory_none
    {path : Path}
    {files : FileTree}
    (hNames : files.names? path = none) :
    Yields (listDirectory path) files
      (.error (.directoryUnlistable path), files) := by
  unfold listDirectory
  refine (yields_files files).pass ?_
  rw [hNames]
  exact yields_throw _ files

/-
  Actions on a list of items yield their effects in a row, if
  each yields its own wherever the invariant holds and every
  success keeps the invariant.
-/
theorem yields_mapM
    {action : β → Action α}
    {step : β → FileTree → Effect α}
    {I : FileTree → Prop}
    {items : List β}
    (hStep :
      ∀ item ∈ items, ∀ files, I files →
        (action item).Yields files (step item files))
    (hKeeps :
      ∀ item ∈ items, ∀ files, I files →
        I (step item files).2)
    {files : FileTree}
    (hFiles : I files) :
    Yields (items.mapM action) files
      (Effect.all step items files) := by
  induction items generalizing files with
  | nil => exact yields_pure [] files
  | cons item items ih =>
      rw [List.mapM_cons]
      refine
        (hStep item List.mem_cons_self files hFiles).bind ?_
      intro value after hItem
      have hAfter := hKeeps item List.mem_cons_self files hFiles
      rw [hItem] at hAfter
      have hItems :=
        ih
          (fun other hOther =>
            hStep other (List.mem_cons_of_mem item hOther))
          (fun other hOther =>
            hKeeps other (List.mem_cons_of_mem item hOther))
          hAfter
      exact hItems.andPure (fun values => value :: values)

end Action

end RamlScaffold
