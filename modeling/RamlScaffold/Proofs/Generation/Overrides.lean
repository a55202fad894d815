import RamlScaffold.Generation.Run
import RamlScaffold.Proofs.Generation.Effect
import RamlScaffold.Proofs.Keyed.Order

/-
  The templates of a run, where files replace built-in ones.

  Looking for them changes no file.  The built-in templates
  are well-formed, so a generator is built exactly when every
  file that replaces one can be read and is well-formed too.

  Main declarations:
    * `Action.yields_foldlM_of_looks`
    * `TemplateSet.overridePath`, `TemplateSet.asked`
    * `TemplateSet.yields_ofOptions`
    * `FileTree.OffersTemplate`, `TemplateSet.Compiles`
    * `TemplateSet.exists_ok_build_iff`
    * `TemplateSet.exists_build_iff`
-/

------------------------------------------------------------
-- Actions That Only Look
------------------------------------------------------------

namespace RamlScaffold.Action

variable {α β : Type}

/- What is read of a file depends on the files alone. -/
theorem yields_readFile
    (path : Path)
    (failure : Failure)
    (files : FileTree) :
    Yields (readFile path failure) files
      (match files.readText? path with
        | some content => .ok content
        | none => .error failure,
        files) := by
  unfold readFile
  refine (yields_files files).pass ?_
  cases files.readText? path with
  | none => exact yields_throw failure files
  | some content => exact yields_pure content files

/-
  An action that looks at the files and at a value, followed by
  another one, looks at the files as they were.
-/
theorem yields_bind_of_looks
    {action : Action α}
    {next : α → Action β}
    {files : FileTree}
    {result : Except Failure α}
    {rest : α → Except Failure β}
    (hAction : action.Yields files (result, files))
    (hNext :
      ∀ value, (next value).Yields files (rest value, files)) :
    (action >>= next).Yields files (result >>= rest, files) := by
  cases result with
  | error failure => exact hAction.fail next
  | ok value => exact hAction.pass (hNext value)

/- Items that are looked at one after the other. -/
theorem yields_foldlM_of_looks
    {step : β → α → Action β}
    {result : β → α → Except Failure β}
    {files : FileTree}
    (hStep :
      ∀ state item,
        (step state item).Yields files (result state item, files))
    (items : List α)
    (state : β) :
    Yields (items.foldlM step state) files
      (items.foldlM result state, files) := by
  induction items generalizing state with
  | nil => exact yields_pure state files
  | cons item items ih =>
      rw [List.foldlM_cons, List.foldlM_cons]
      exact yields_bind_of_looks (hStep state item) ih

end RamlScaffold.Action

------------------------------------------------------------
-- Templates That Replace Others
------------------------------------------------------------

namespace RamlScaffold.TemplateSet

open RamlScaffold.Action

/- Where the template of an artefact is looked for. -/
def overridePath
    (directory : Path)
    (language : Language)
    (artefact : Artefact) : Path :=
  directory.child (fileName language artefact.templateName)

/- A set with the file of an artefact in place, if it is. -/
def overridden
    (files : FileTree)
    (directory : Path)
    (set : TemplateSet)
    (artefact : Artefact) : Except Failure TemplateSet :=
  let path := overridePath directory set.language artefact
  if files.isFile path then
    match files.readText? path with
    | some source => .ok (set.replace artefact.templateName source)
    | none => .error (.templateUnreadable path)
  else .ok set

theorem yields_withFile
    (files : FileTree)
    (directory : Path)
    (set : TemplateSet)
    (artefact : Artefact) :
    Yields (withFile directory set artefact) files
      (overridden files directory set artefact, files) := by
  unfold withFile overridden overridePath
  refine (yields_files files).pass ?_
  dsimp only
  split
  · have hRead :=
      yields_readFile
        (directory.child
          (fileName set.language artefact.templateName))
        (.templateUnreadable
          (directory.child
            (fileName set.language artefact.templateName)))
        files
    cases hText :
        files.readText?
          (directory.child
            (fileName set.language artefact.templateName)) with
    | none =>
        rw [hText] at hRead
        exact hRead.fail _
    | some source =>
        rw [hText] at hRead
        refine hRead.pass ?_
        exact (yields_report _ files).pass (yields_pure _ files)
  · exact yields_pure set files

/- The templates that options ask for, where they can be read. -/
def asked
    (files : FileTree)
    (options : Options) : Except Failure TemplateSet :=
  let builtin := TemplateSet.builtin options.language
  match options.templates with
  | none => .ok builtin
  | some directory =>
      if files.isDirectory directory then
        Artefact.all.foldlM (overridden files directory) builtin
      else .error (.templatesMissing directory)

theorem yields_ofOptions
    [TemplateLanguage]
    (options : Options)
    (files : FileTree) :
    Yields (Generator.ofOptions options) files
      (asked files options >>=
          Generator.build options.language options.package,
        files) := by
  unfold Generator.ofOptions asked
  have hBuild (set : TemplateSet) :=
    yields_liftExcept
      (Generator.build options.language options.package set) files
  cases options.templates with
  | none => exact (yields_pure _ files).pass (hBuild _)
  | some directory =>
      refine yields_bind_of_looks ?_ hBuild
      unfold withDirectory
      refine (yields_files files).pass ?_
      dsimp only
      split
      · exact
          yields_foldlM_of_looks
            (yields_withFile files directory) _ _
      · exact yields_throw _ files

end RamlScaffold.TemplateSet

------------------------------------------------------------
-- Templates That Compile
------------------------------------------------------------

namespace RamlScaffold

theorem Artefact.mem_all (artefact : Artefact) :
    artefact ∈ Artefact.all := by
  cases artefact <;> decide

theorem Artefact.nodup_all : Artefact.all.Nodup := by
  decide

theorem Artefact.templateName_inj
    {first second : Artefact}
    (hName : first.templateName = second.templateName) :
    first = second := by
  revert hName
  cases first <;> cases second <;> decide

namespace FileTree

/- Whether a file can be read and holds a template. -/
def OffersTemplate
    [TemplateLanguage]
    (files : FileTree)
    (path : Path) : Prop :=
  ∃ text,
    files.readText? path = some text ∧
      TemplateLanguage.compiles text = true

end FileTree

namespace TemplateSet

variable [TemplateLanguage]

/- Whether every template of a set is well-formed. -/
def Compiles (set : TemplateSet) : Prop :=
  ∀ entry ∈ set.sources, entry.2.compiles = true

theorem exists_compile_iff (set : TemplateSet) :
    (∃ templates, set.compile = .ok templates) ↔
      set.Compiles := by
  unfold TemplateSet.compile Compiles
  split
  · next name source hFirst =>
      have hBad := List.find?_some hFirst
      have hMem := List.mem_of_find?_eq_some hFirst
      refine iff_of_false (by simp) ?_
      intro hAll
      rw [hAll _ hMem] at hBad
      cases hBad
  · next hNone =>
      refine iff_of_true ⟨_, rfl⟩ ?_
      intro entry hEntry
      simpa using List.find?_eq_none.mp hNone entry hEntry

/- A generator is built of all templates or of none. -/
theorem exists_ok_build_iff
    (language : Language)
    (package : String)
    (set : TemplateSet) :
    (∃ generator,
        Generator.build language package set = .ok generator) ↔
      set.language = language ∧ set.Compiles := by
  unfold Generator.build
  rw [← exists_compile_iff set]
  split
  · next hLanguage =>
      cases set.compile with
      | error name => simp
      | ok templates => simp [hLanguage]
  · next hLanguage => simp [hLanguage]

theorem compiles_builtin (language : Language) :
    (builtin language).Compiles := by
  intro entry hEntry
  have hGiven := Keyed.mem_of_mem_ofList hEntry
  rcases List.mem_filterMap.mp hGiven with
    ⟨artefact, -, hArtefact⟩
  rcases Option.map_eq_some_iff.mp hArtefact with
    ⟨template, -, rfl⟩
  rfl

end TemplateSet

end RamlScaffold

------------------------------------------------------------
-- Sets With Templates Replaced
------------------------------------------------------------

namespace RamlScaffold.TemplateSet

section

variable {files : FileTree} {directory : Path}
variable {set last : TemplateSet} {artefact : Artefact}

/- The language stays, and so do templates of other names. -/
theorem overridden_keeps
    {next : TemplateSet}
    (hNext : overridden files directory set artefact = .ok next) :
    next.language = set.language ∧
      ∀ entry ∈ set.sources,
        entry.1 ≠ artefact.templateName →
          entry ∈ next.sources := by
  unfold overridden at hNext
  dsimp only at hNext
  split at hNext
  · split at hNext
    · rw [← Except.ok.inj hNext]
      refine ⟨rfl, ?_⟩
      intro entry hEntry hName
      exact Keyed.mem_insert_of_mem hEntry hName _
    · cases hNext
  · rw [← Except.ok.inj hNext]
    exact ⟨rfl, fun entry hEntry _ => hEntry⟩

theorem foldlM_overridden_keeps
    {artefacts : List Artefact}
    (hLast :
      artefacts.foldlM (overridden files directory) set =
        .ok last)
    {entry : String × TemplateSource}
    (hEntry : entry ∈ set.sources)
    (hNames :
      ∀ artefact ∈ artefacts, entry.1 ≠ artefact.templateName) :
    entry ∈ last.sources := by
  induction artefacts generalizing set with
  | nil =>
      rw [← Except.ok.inj hLast]
      exact hEntry
  | cons artefact artefacts ih =>
      rcases List.forall_mem_cons.mp hNames with
        ⟨hFirst, hRest⟩
      rw [List.foldlM_cons] at hLast
      cases hNext : overridden files directory set artefact with
      | error failure =>
          rw [hNext] at hLast
          cases hLast
      | ok next =>
          rw [hNext] at hLast
          have hKept := (overridden_keeps hNext).2 entry hEntry
          exact ih hLast (hKept hFirst) hRest

variable [TemplateLanguage]

/- What becomes of a set where the template is offered. -/
theorem overridden_eq_ok_of_offers
    (hOffers :
      let path := overridePath directory set.language artefact
      files.isFile path → files.OffersTemplate path)
    (hSet : set.Compiles) :
    ∃ next,
      overridden files directory set artefact = .ok next ∧
        next.language = set.language ∧ next.Compiles := by
  unfold overridden
  dsimp only at hOffers ⊢
  split
  · next hFile =>
      rcases hOffers hFile with ⟨text, hText, hTemplate⟩
      rw [hText]
      refine ⟨_, rfl, rfl, ?_⟩
      intro entry hEntry
      rcases Keyed.mem_of_mem_insert hEntry with rfl | hOld
      · exact hTemplate
      · exact hSet entry hOld
  · exact ⟨set, rfl, rfl, hSet⟩

theorem foldlM_overridden_of_offers
    {language : Language}
    (artefacts : List Artefact)
    (hOffers :
      ∀ artefact ∈ artefacts,
        files.isFile (overridePath directory language artefact) →
          files.OffersTemplate
            (overridePath directory language artefact))
    (hLanguage : set.language = language)
    (hSet : set.Compiles) :
    ∃ last,
      artefacts.foldlM (overridden files directory) set =
          .ok last ∧
        last.language = language ∧ last.Compiles := by
  induction artefacts generalizing set with
  | nil => exact ⟨set, rfl, hLanguage, hSet⟩
  | cons artefact artefacts ih =>
      rcases List.forall_mem_cons.mp hOffers with
        ⟨hFirst, hRest⟩
      rw [← hLanguage] at hFirst
      rcases overridden_eq_ok_of_offers hFirst hSet with
        ⟨next, hNext, hSame, hCompiles⟩
      rw [List.foldlM_cons, hNext]
      exact ih hRest (hSame.trans hLanguage) hCompiles

/- A file that offers no template is refused or kept. -/
theorem overridden_of_not_offers
    {next : TemplateSet}
    (hFile :
      files.isFile (overridePath directory set.language artefact))
    (hOffers :
      ¬files.OffersTemplate
        (overridePath directory set.language artefact))
    (hNext : overridden files directory set artefact = .ok next) :
    ∃ source,
      (artefact.templateName, source) ∈ next.sources ∧
        source.compiles = false := by
  unfold overridden at hNext
  dsimp only at hNext
  rw [if_pos hFile] at hNext
  split at hNext
  · next text hText =>
      rw [← Except.ok.inj hNext]
      refine ⟨.written text, Keyed.mem_insert_self _ _ _, ?_⟩
      refine Bool.eq_false_iff.mpr ?_
      intro hTemplate
      exact hOffers ⟨text, hText, hTemplate⟩
  · cases hNext

theorem not_compiles_of_not_offers
    {language : Language}
    {artefacts : List Artefact}
    (hNodup : artefacts.Nodup)
    (hMem : artefact ∈ artefacts)
    (hLanguage : set.language = language)
    (hFile :
      files.isFile (overridePath directory language artefact))
    (hOffers :
      ¬files.OffersTemplate
        (overridePath directory language artefact))
    (hLast :
      artefacts.foldlM (overridden files directory) set =
        .ok last) :
    ¬last.Compiles := by
  induction artefacts generalizing set with
  | nil => cases hMem
  | cons first rest ih =>
      rcases List.nodup_cons.mp hNodup with ⟨hFirst, hRest⟩
      rw [List.foldlM_cons] at hLast
      cases hNext : overridden files directory set first with
      | error failure =>
          rw [hNext] at hLast
          cases hLast
      | ok next =>
          rw [hNext] at hLast
          rcases List.mem_cons.mp hMem with rfl | hLater
          · subst hLanguage
            rcases overridden_of_not_offers hFile hOffers hNext
              with ⟨source, hSource, hBad⟩
            -- No later artefact has a template of this name.
            have hKept :=
              foldlM_overridden_keeps hLast hSource
                (fun other hOther hName =>
                  hFirst
                    (Artefact.templateName_inj hName ▸ hOther))
            intro hCompiles
            exact Bool.false_ne_true
              (hBad.symm.trans (hCompiles _ hKept))
          · have hSame := (overridden_keeps hNext).1
            exact ih hRest hLater (hSame.trans hLanguage) hLast

end

/-
  The options have a generator exactly when their directory of
  templates, if they name one, is there, and every file in it
  that replaces a template offers one.
-/
theorem exists_build_iff
    [TemplateLanguage]
    (files : FileTree)
    (options : Options) :
    (∃ generator,
        (asked files options >>=
            Generator.build options.language options.package) =
          .ok generator) ↔
      ∀ directory, options.templates = some directory →
        files.isDirectory directory ∧
          ∀ artefact,
            files.isFile
                (overridePath directory options.language
                  artefact) →
              files.OffersTemplate
                (overridePath directory options.language
                  artefact) := by
  have hBuilt (set : TemplateSet) :=
    exists_ok_build_iff options.language options.package set
  have hBuiltin := compiles_builtin options.language
  have hSame :
      (builtin options.language).language = options.language :=
    rfl
  unfold asked
  cases options.templates with
  | none =>
      refine iff_of_true ?_ (by simp)
      exact (hBuilt _).mpr ⟨hSame, hBuiltin⟩
  | some directory =>
      simp only [Option.some.injEq, forall_eq']
      split
      · next hDirectory =>
          constructor
          · rintro ⟨generator, hGenerator⟩
            refine ⟨hDirectory, ?_⟩
            intro artefact hFile
            refine Classical.byContradiction fun hOffers => ?_
            cases hSet :
                Artefact.all.foldlM (overridden files directory)
                  (builtin options.language) with
            | error failure =>
                rw [hSet] at hGenerator
                cases hGenerator
            | ok set =>
                rw [hSet] at hGenerator
                have hBad :=
                  not_compiles_of_not_offers Artefact.nodup_all
                    artefact.mem_all hSame hFile hOffers hSet
                have hSetBuilt := (hBuilt set).mp ⟨_, hGenerator⟩
                exact hBad hSetBuilt.2
          · rintro ⟨-, hOffers⟩
            rcases foldlM_overridden_of_offers Artefact.all
                (fun artefact _ => hOffers artefact) hSame
                hBuiltin
              with ⟨set, hSet, hLanguage, hCompiles⟩
            rw [hSet]
            exact (hBuilt set).mpr ⟨hLanguage, hCompiles⟩
      · next hDirectory =>
          refine iff_of_false ?_ (fun hAll => hDirectory hAll.1)
          rintro ⟨generator, hGenerator⟩
          cases hGenerator

end RamlScaffold.TemplateSet
