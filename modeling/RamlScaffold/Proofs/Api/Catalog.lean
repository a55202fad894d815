import RamlScaffold.Api.Document
import RamlScaffold.Proofs.Keyed.Order

/-
  The order of the type catalog.

  The keys of a catalog are strictly ascending, in whatever
  order and how often the sections of a document declare them.

  Main declarations:
    * `Api.ascending_types`
-/

------------------------------------------------------------
-- Catalogs
------------------------------------------------------------

namespace RamlScaffold.Api

variable [PatternLanguage]

theorem ascending_addTypes
    {types : Keyed TypeDecl}
    (hTypes : types.Ascending)
    (catalog : Option Yaml.Value) :
    (addTypes types catalog).Ascending := by
  unfold addTypes
  split
  · next entries =>
      induction entries generalizing types with
      | nil => exact hTypes
      | cons entry entries ih =>
          rw [List.foldl_cons]
          apply ih
          rcases entry with ⟨key, value⟩
          dsimp only
          cases key.keyText? with
          | none => exact hTypes
          | some name => exact hTypes.insert name _
  · exact hTypes

/- The catalog of a definition is in the order of its keys. -/
theorem ascending_types
    {root : Yaml.Value}
    {api : Api}
    (hApi : ofValue root = .ok api) :
    api.types.Ascending := by
  have hCatalog (entries : List (Yaml.Value × Yaml.Value)) :
      (catalogOf entries).Ascending :=
    ascending_addTypes (ascending_addTypes Keyed.ascending_nil _)
      _
  unfold ofValue at hApi
  split at hApi
  · cases hApi
  · split at hApi
    · cases hApi
    · rw [← Except.ok.inj hApi]
      exact hCatalog _

end RamlScaffold.Api
