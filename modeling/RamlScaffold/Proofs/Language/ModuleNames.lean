import RamlScaffold.Proofs.Files.Extension
import RamlScaffold.Proofs.Language.SharedNames
import RamlScaffold.Proofs.Naming.Ascii

/-
  Which modules the generated Rust files stand for.

  The stem of a file is the module that the index declares for
  it.  No reserved word becomes one, and from an exported
  identifier it is a plain word.

  Main declarations:
    * `Language.isModuleWord_moduleName`
    * `Language.splitName_structureFileName`
    * `Language.splitName_resourceFileName`
-/

------------------------------------------------------------
-- Words For Modules
------------------------------------------------------------

namespace RamlScaffold.Language

/- A word for a module is one with an underscore behind it. -/
theorem isModuleWord_moduleName
    {stem : String}
    (hStem : Naming.IsModuleWord stem) :
    Naming.IsModuleWord (moduleName stem) := by
  rcases moduleName_cases stem with hName | hName
  · rw [hName]
    exact hStem
  · rw [hName]
    exact hStem.append (Alphabet.forall_mem_of_all (by decide))

end RamlScaffold.Language

------------------------------------------------------------
-- Stems Of Files
------------------------------------------------------------

namespace RamlScaffold.Naming

/- Snake case leaves something of every text. -/
theorem snakeCase_ne_empty (text : String) :
    snakeCase text ≠ "" := by
  intro hEmpty
  unfold snakeCase snakeChars at hEmpty
  rw [String.ofList_eq_empty_iff] at hEmpty
  split at hEmpty
  · cases hEmpty
  · next hSome =>
      exact hSome hEmpty

end RamlScaffold.Naming

namespace RamlScaffold.Language

/- The file of a structure stands for the module of its name. -/
theorem splitName_structureFileName (name : String) :
    splitName (rust.structureFileName name) =
      (moduleName (Naming.snakeCase name), some "rs") := by
  have hStem : moduleName (Naming.snakeCase name) ≠ "" := by
    have hSnake := Naming.snakeCase_ne_empty name
    rcases moduleName_cases (Naming.snakeCase name) with
      hName | hName
    · rw [hName]
      exact hSnake
    · rw [hName]
      simp
  have hFile :
      rust.structureFileName name =
        moduleName (Naming.snakeCase name) ++ "." ++ "rs" := by
    rw [String.append_assoc]
    rfl
  rw [hFile]
  exact splitName_append hStem (by decide)

/- The file of an artefact is a module of two parts. -/
theorem splitName_resourceFileName
    (name artefact : String) :
    splitName (rust.resourceFileName name artefact) =
      (rust.resourceStem name ++ "_" ++ artefact,
        some "rs") := by
  apply splitName_append
  · simp
  · decide

end RamlScaffold.Language
