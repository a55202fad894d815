import RamlScaffold.Language
import RamlScaffold.Proofs.Files.Place
import RamlScaffold.Proofs.Naming.Identifier

/-
  Which of the generated files can have the same name.

  Two names with the same extension differ if the characters
  in front of the extension do, and mostly the last of these
  decides.  Only in Rust can the file of a structure be the
  stub of a service, and only for a structure whose name ends
  in the word of stubs.

  Main declarations:
    * `Language.moduleName_eq_iff`
    * `Language.moduleName_not_reserved`
    * `Language.isFileName_structureFileName`
    * `Language.isFileName_resourceFileName`
    * `Language.resourceFileName_ne_stub`
    * `Language.structureFileName_go_ne_stub`
    * `Language.structureFileName_rust_eq_stub_iff`
-/

------------------------------------------------------------
-- Last Characters
------------------------------------------------------------

namespace RamlScaffold

/- The last character of a text. -/
def lastOf? (text : String) : Option Char :=
  text.toList.getLast?

theorem lastOf?_append
    (front back : String)
    {c : Char}
    (hBack : lastOf? back = some c) :
    lastOf? (front ++ back) = some c := by
  unfold lastOf? at *
  rw [String.toList_append, List.getLast?_append, hBack]
  rfl

/-
  Texts with the same end differ if the characters in front of
  it do.
-/
theorem append_ne_append
    {first second : String}
    {c d : Char}
    (hFirst : lastOf? first = some c)
    (hSecond : lastOf? second = some d)
    (hDiffer : c ≠ d)
    (ending : String) :
    first ++ ending ≠ second ++ ending := by
  intro hSame
  have hEq : first = second :=
    String.append_left_inj ending |>.mp hSame
  rw [hEq, hSecond] at hFirst
  exact hDiffer (Option.some.inj hFirst).symm

end RamlScaffold

------------------------------------------------------------
-- Reserved Words
------------------------------------------------------------

namespace RamlScaffold.Language

/- A module name is a stem or a keyword with an underscore. -/
theorem moduleName_cases (stem : String) :
    moduleName stem = stem ∨ moduleName stem = stem ++ "_" := by
  unfold moduleName
  split
  · exact Or.inr rfl
  · exact Or.inl rfl

/- No reserved word has an underscore in it. -/
theorem noUnderscore_of_reserved :
    ∀ word ∈ keywords ++ nonRawKeywords,
      '_' ∉ word.toList ∧ word ≠ "" := by
  decide

theorem mem_reserved_iff (stem : String) :
    (keywords.contains stem || nonRawKeywords.contains stem) =
        true ↔
      stem ∈ keywords ++ nonRawKeywords := by
  rw [Bool.or_eq_true, List.contains_iff_mem,
    List.contains_iff_mem, List.mem_append]

/- A module with an underscore inside is no reserved word. -/
theorem moduleName_eq_iff
    {name : String}
    {c : Char}
    (hInside : '_' ∈ name.toList)
    (hLast : lastOf? name = some c)
    (hOther : c ≠ '_')
    (stem : String) :
    moduleName stem = name ↔ stem = name := by
  unfold moduleName
  split
  · next hReserved =>
      rw [mem_reserved_iff] at hReserved
      constructor
      · intro hSame
        have hEnd := lastOf?_append stem "_" rfl
        rw [hSame, hLast] at hEnd
        exact absurd (Option.some.inj hEnd) hOther
      · rintro rfl
        exact absurd hInside
          (noUnderscore_of_reserved _ hReserved).1
  · exact Iff.rfl

/- An underscore takes every reserved word out of the list. -/
theorem moduleName_not_reserved (stem : String) :
    moduleName stem ∉ keywords ++ nonRawKeywords := by
  unfold moduleName
  split
  · intro hReserved
    apply (noUnderscore_of_reserved _ hReserved).1
    rw [String.toList_append, List.mem_append]
    exact Or.inr List.mem_cons_self
  · next hPlain =>
      rw [mem_reserved_iff] at hPlain
      exact hPlain

end RamlScaffold.Language

------------------------------------------------------------
-- Names Of Files
------------------------------------------------------------

namespace RamlScaffold

/- A name without slashes that ends in a letter. -/
theorem isFileName_of_ending
    {stem ending : String}
    (hStem : '/' ∉ stem.toList)
    (hEnding : '/' ∉ ending.toList)
    {c : Char}
    (hLast : lastOf? ending = some c)
    (hDot : c ≠ '.') :
    IsFileName (stem ++ ending) := by
  have hAll := lastOf?_append stem ending hLast
  refine ⟨?_, ?_, ?_⟩
  · rw [String.toList_append, List.mem_append, not_or]
    exact ⟨hStem, hEnding⟩
  · intro hEmpty
    rw [hEmpty] at hAll
    cases hAll
  · unfold lastOf? at hAll
    rw [hAll]
    exact fun hSame => hDot (Option.some.inj hSame)

namespace Naming

theorem SignFree.noSlash
    {text : String}
    (hText : SignFree text) :
    '/' ∉ text.toList := by
  intro hSlash
  exact absurd (hText '/' hSlash) (by decide)

theorem noSlash_snakeCase (text : String) :
    '/' ∉ (snakeCase text).toList :=
  not_mem_snakeCase (by decide) (by decide) text

end Naming

namespace Language

theorem noSlash_moduleName
    {stem : String}
    (hStem : '/' ∉ stem.toList) :
    '/' ∉ (moduleName stem).toList := by
  rcases moduleName_cases stem with hName | hName
  · rw [hName]
    exact hStem
  · rw [hName, String.toList_append, List.mem_append, not_or]
    exact ⟨hStem, by decide⟩

/- What the files of a resource start with. -/
def resourceStem
    (language : Language)
    (name : String) : String :=
  match language with
  | .go => Naming.fileStem name
  | .rust => Naming.snakeCase name

theorem resourceFileName_eq
    (language : Language)
    (name artefact : String) :
    language.resourceFileName name artefact =
      language.resourceStem name ++ "_" ++ artefact ++
        ("." ++ language.fileExtension) := by
  rw [← String.append_assoc]
  rfl

theorem noSlash_resourceStem
    (language : Language)
    {name : String}
    (hName : Naming.SignFree name) :
    '/' ∉ (language.resourceStem name).toList := by
  cases language with
  | go => exact (Naming.signFree_fileStem hName).noSlash
  | rust => exact Naming.noSlash_snakeCase name

/- The files of structures are named the way files are. -/
theorem isFileName_structureFileName
    (language : Language)
    {name : String}
    (hName : Naming.SignFree name) :
    IsFileName (language.structureFileName name) := by
  cases language with
  | go =>
      exact isFileName_of_ending hName.noSlash (by decide)
        (c := 'o') rfl (by decide)
  | rust =>
      exact isFileName_of_ending
        (noSlash_moduleName (Naming.noSlash_snakeCase name))
        (by decide) (c := 's') rfl (by decide)

/- The files of resources are named the way files are. -/
theorem isFileName_resourceFileName
    (language : Language)
    {name artefact : String}
    (hName : Naming.SignFree name)
    (hArtefact : Naming.SignFree artefact) :
    IsFileName (language.resourceFileName name artefact) := by
  rw [resourceFileName_eq]
  have hFront :
      '/' ∉
        (language.resourceStem name ++ "_" ++
          artefact).toList := by
    simp only [String.toList_append, List.mem_append, not_or]
    exact ⟨⟨noSlash_resourceStem language hName, by decide⟩,
      hArtefact.noSlash⟩
  cases language with
  | go =>
      exact isFileName_of_ending hFront (by decide)
        (c := 'o') rfl (by decide)
  | rust =>
      exact isFileName_of_ending hFront (by decide)
        (c := 's') rfl (by decide)

end Language

end RamlScaffold

------------------------------------------------------------
-- Stubs
------------------------------------------------------------

namespace RamlScaffold.Language

/- How the names of stubs end. -/
def stubEnding (language : Language) : String :=
  "_api" ++ ("." ++ language.fileExtension)

theorem append_stubEnding
    (language : Language)
    (stem : String) :
    stem ++ language.stubEnding =
      stem ++ "_api" ++ ("." ++ language.fileExtension) :=
  String.append_assoc.symm

/- The stub of a service ends the way stubs do. -/
theorem resourceFileName_api
    (language : Language)
    (name : String) :
    language.resourceFileName name "api" =
      language.resourceStem name ++ language.stubEnding := by
  rw [resourceFileName_eq, append_stubEnding]
  exact congrArg (· ++ _) String.append_assoc

/- A name that does not end like a stub in front is none. -/
theorem ne_stub
    (front : String)
    {c : Char}
    (hLast : lastOf? front = some c)
    (hOther : c ≠ 'i')
    (language : Language)
    (stem : String) :
    front ++ ("." ++ language.fileExtension) ≠
      stem ++ language.stubEnding := by
  rw [append_stubEnding]
  exact append_ne_append hLast
    (lastOf?_append stem "_api" rfl) hOther _

/- No other artefact has the file of a stub. -/
theorem resourceFileName_ne_stub
    (language : Language)
    {artefact : String}
    {c : Char}
    (hLast : lastOf? artefact = some c)
    (hOther : c ≠ 'i')
    (name stem : String) :
    language.resourceFileName name artefact ≠
      stem ++ language.stubEnding := by
  rw [resourceFileName_eq]
  exact ne_stub _ (lastOf?_append _ artefact hLast) hOther
    language stem

/- In Go no structure has the file of a stub. -/
theorem structureFileName_go_ne_stub
    {name : String}
    (hName : Naming.SignFree name)
    (stem : String) :
    go.structureFileName name ≠ stem ++ go.stubEnding := by
  intro hSame
  have hFront : name = stem ++ "_api" := by
    rw [append_stubEnding] at hSame
    exact String.append_left_inj ".go" |>.mp hSame
  have hMem : '_' ∈ name.toList := by
    rw [hFront, String.toList_append, List.mem_append]
    exact Or.inr (by decide)
  exact absurd (hName '_' hMem) (by decide)

end RamlScaffold.Language

------------------------------------------------------------
-- Stubs In Rust
------------------------------------------------------------

namespace RamlScaffold.Language

/-
  In Rust the file of a structure is a stub exactly if its
  name in snake case ends in the word of stubs.
-/
theorem structureFileName_rust_eq_stub_iff
    (name stem : String) :
    rust.structureFileName name = stem ++ rust.stubEnding ↔
      Naming.snakeCase name = stem ++ "_api" := by
  have hInside : '_' ∈ (stem ++ "_api").toList := by
    simp
  have hLast := lastOf?_append stem "_api" rfl
  rw [append_stubEnding,
    ← moduleName_eq_iff hInside hLast (by decide)]
  exact String.append_left_inj ".rs"

/-
  A structure whose name ends in another small letter has no
  file of a stub.
-/
theorem structureFileName_rust_ne_stub
    {name : String}
    {c : Char}
    (hWord : Alphabet.isAlphanumeric c = true)
    (hSmall : Alphabet.isCapital c = false)
    (hLast : lastOf? name = some c)
    (hOther : c ≠ 'i')
    (stem : String) :
    rust.structureFileName name ≠ stem ++ rust.stubEnding := by
  rw [ne_eq, structureFileName_rust_eq_stub_iff]
  intro hSame
  have hSnake : lastOf? (Naming.snakeCase name) = some c :=
    Naming.getLast?_snakeCase hWord hSmall hLast
  rw [hSame, lastOf?_append stem "_api" rfl] at hSnake
  exact hOther (Option.some.inj hSnake).symm

end RamlScaffold.Language
