import RamlScaffold.Proofs.Language.FileNames
import RamlScaffold.Proofs.Naming.SnakeCase

/-
  Which artefacts have files of the same name.

  A file name forgets the case of letters, as far as its
  language does: the names of structures are kept in Go and
  become snake case in Rust, and the names of services become
  small letters or snake case.  Nothing else is forgotten.

  Main declarations:
    * `Language.structureStem`
    * `Language.structureFileName_eq_iff`
    * `Language.resourceFileName_eq_iff`
    * `Language.resourceFileName_ne_of_ending`
    * `Language.structureFileName_eq_resourceFileName_iff`
-/

------------------------------------------------------------
-- Names Of Modules
------------------------------------------------------------

namespace RamlScaffold.Language

/-
  The underscore of a reserved word makes no other module of
  it, as no snake-case text ends in one.
-/
theorem snakeCase_ne_reserved
    {word : String}
    (hWord : word ∈ keywords ++ nonRawKeywords)
    (text : String) :
    Naming.snakeCase text ≠ word ++ "_" := by
  intro hSame
  have hLast : lastOf? (Naming.snakeCase text) = some '_' := by
    rw [hSame]
    exact lastOf?_append word "_" rfl
  rw [Naming.snakeCase_of_underscore_end hLast] at hSame
  have hEmpty : "" = word :=
    String.append_left_inj "_" |>.mp hSame
  exact (noUnderscore_of_reserved word hWord).2 hEmpty.symm

/- Different snake-case texts are different modules. -/
theorem moduleName_snakeCase_eq_iff (first second : String) :
    moduleName (Naming.snakeCase first) =
        moduleName (Naming.snakeCase second) ↔
      Naming.snakeCase first = Naming.snakeCase second := by
  constructor
  · intro hSame
    unfold moduleName at hSame
    split at hSame
    · next hFirst =>
        split at hSame
        · exact String.append_left_inj "_" |>.mp hSame
        · exact absurd hSame.symm
            (snakeCase_ne_reserved
              ((mem_reserved_iff _).mp hFirst) second)
    · split at hSame
      · next hSecond =>
          exact absurd hSame
            (snakeCase_ne_reserved
              ((mem_reserved_iff _).mp hSecond) first)
      · exact hSame
  · intro hSame
    rw [hSame]

end RamlScaffold.Language

------------------------------------------------------------
-- Names Of Files
------------------------------------------------------------

namespace RamlScaffold.Language

/- What the file of a structure tells about its name. -/
def structureStem
    (language : Language)
    (name : String) : String :=
  match language with
  | .go => name
  | .rust => Naming.snakeCase name

/- Structures share a file exactly if they share their stem. -/
theorem structureFileName_eq_iff
    (language : Language)
    (first second : String) :
    language.structureFileName first =
        language.structureFileName second ↔
      language.structureStem first =
        language.structureStem second := by
  cases language with
  | go => exact String.append_left_inj ".go"
  | rust =>
      exact (String.append_left_inj ".rs").trans
        (moduleName_snakeCase_eq_iff first second)

/- Services share a file exactly if they share their stem. -/
theorem resourceFileName_eq_iff
    (language : Language)
    (first second artefact : String) :
    language.resourceFileName first artefact =
        language.resourceFileName second artefact ↔
      language.resourceStem first =
        language.resourceStem second := by
  rw [resourceFileName_eq, resourceFileName_eq,
    String.append_left_inj, String.append_left_inj,
    String.append_left_inj]

/- Artefacts that end differently share no file. -/
theorem resourceFileName_ne_of_ending
    (language : Language)
    {first second : String}
    {c d : Char}
    (hFirst : lastOf? first = some c)
    (hSecond : lastOf? second = some d)
    (hDiffer : c ≠ d)
    (name other : String) :
    language.resourceFileName name first ≠
      language.resourceFileName other second := by
  rw [resourceFileName_eq, resourceFileName_eq]
  exact append_ne_append (lastOf?_append _ first hFirst)
    (lastOf?_append _ second hSecond) hDiffer _

/-
  A structure has the file of an artefact of a service exactly
  if its stem is that of the service with the artefact.  In Go
  that cannot be, as names of structures hold no underscore.
-/
theorem structureFileName_eq_resourceFileName_iff
    (language : Language)
    {artefact : String}
    {c : Char}
    (hLast : lastOf? artefact = some c)
    (hOther : c ≠ '_')
    (name other : String) :
    language.structureFileName name =
        language.resourceFileName other artefact ↔
      language.structureStem name =
        language.resourceStem other ++ "_" ++ artefact := by
  rw [resourceFileName_eq]
  cases language with
  | go => exact String.append_left_inj ".go"
  | rust =>
      have hInside :
          '_' ∈
            (rust.resourceStem other ++ "_" ++
              artefact).toList := by
        simp
      exact (String.append_left_inj ".rs").trans
        (moduleName_eq_iff hInside
          (lastOf?_append _ artefact hLast) hOther _)

end RamlScaffold.Language
