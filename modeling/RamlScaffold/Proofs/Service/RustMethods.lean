import Mathlib.Data.List.Basic
import RamlScaffold.Proofs.Service.Described
import RamlScaffold.Proofs.Template.RustService
import RamlScaffold.Proofs.Text.Affixes

/-
  The methods that the built-in Rust trait declares, those
  that the stub defines, and the table of routes.

  They are read off the lines of the sources, without looking
  at the service again.

  Main declarations:
    * `Rust.signature?`, `Rust.methodName`
    * `Rust.tableRow?`, `Rust.entry?`
    * `Service.signatures_rustTraitLines`
    * `Service.signatures_rustStubLines`
    * `Service.tableRows_rustTraitLines`
    * `Service.entries_rustTraitLines`
    * `Service.IsDescribed.fileLines_rustTrait`
    * `Service.IsDescribed.fileLines_rustStub`
-/

------------------------------------------------------------
-- Reading Sources
------------------------------------------------------------

namespace RamlScaffold.Rust

open Text

/- The signature that a line declares or begins to define. -/
def signature? (line : String) : Option String :=
  readAfter "    fn "
    (fun rest =>
      (before? ";\n" rest).or (before? " \x7b\n" rest))
    line

/- The name at the start of a signature. -/
def methodName (signature : String) : String :=
  String.ofList (signature.toList.takeWhile (· != '('))

/- What a line adds to a table of routes. -/
def tableRow? (line : String) : Option String :=
  readAfter "    (\"" (before? "\"),\n") line

/- Verb, path and handler in a table of routes. -/
def tableRow (verb path handler : String) : String :=
  verb ++ "\", \"" ++ path ++ "\", \"" ++ handler

/-
  Verb, path and handler of what is in the table, if the path
  stands for itself.
-/
def entryOf? (row : String) : Option (String × String × String) :=
  match quoteParts row with
  | [verb, ", ", path, ", ", handler] =>
      if IsPlain path then some (verb, path, handler) else none
  | _ => none

/- What a line adds to a table of routes, part by part. -/
def entry? (line : String) : Option (String × String × String) :=
  (tableRow? line).bind entryOf?

end RamlScaffold.Rust

------------------------------------------------------------
-- Methods
------------------------------------------------------------

namespace RamlScaffold

open Rust Text

namespace Route

/- A signature begins with the handler in snake case. -/
theorem methodName_rustSignature (route : Route) :
    methodName route.rustSignature =
      Naming.snakeCase route.handlerName := by
  have hName :
      ∀ c ∈ (Naming.snakeCase route.handlerName).toList,
        (c != '(') = true := by
    intro c hc
    rw [bne_iff_ne]
    rintro rfl
    exact Naming.not_mem_snakeCase (by decide) (by decide) _ hc
  apply String.toList_inj.mp
  unfold methodName rustSignature
  rw [String.toList_ofList]
  simp only [String.append_assoc, String.toList_append]
  rw [List.takeWhile_append_of_pos hName]
  simp

theorem signatures_rustTraitLines (route : Route) :
    route.rustTraitLines.filterMap signature? =
      [route.rustSignature] := by
  unfold rustTraitLines rustHeading
  simp (disch := rw [startsDiffer_ofList]; decide) [signature?,
    List.filterMap_cons, readAfter_append_of_startsDiffer,
    String.append_assoc]

theorem signatures_rustStubLines (route : Route) :
    route.rustStubLines.filterMap signature? =
      [route.rustSignature] := by
  have hEnd :
      before? ";\n" (route.rustSignature ++ " \x7b\n") =
        none := by
    apply before?_append_of_endsDiffer
    rw [endsDiffer_ofList]
    decide
  unfold rustStubLines rustHeading
  cases route.responseBody with
  | none =>
      simp (disch := rw [startsDiffer_ofList]; decide)
        [hEnd, signature?, List.filterMap_cons,
          readAfter_of_startsDiffer,
          readAfter_append_of_startsDiffer, String.append_assoc]
  | some body =>
      simp (disch := rw [startsDiffer_ofList]; decide)
        [hEnd, signature?, List.filterMap_cons,
          readAfter_of_startsDiffer,
          readAfter_append_of_startsDiffer, String.append_assoc]

end Route

theorem signatures_rustDocLines (line : String) :
    (rustDocLines line).filterMap signature? = [] := by
  unfold rustDocLines
  simp (disch := rw [startsDiffer_ofList]; decide) [signature?,
    readAfter_of_startsDiffer, readAfter_append_of_startsDiffer,
    String.append_assoc]

namespace Service

/- A trait declares one method for every route. -/
theorem signatures_rustTraitLines (service : Service) :
    service.rustTraitLines.filterMap signature? =
      service.allRoutes.map Route.rustSignature := by
  have hDescription :=
    filterMap_flatMap_of_none signatures_rustDocLines
      service.description
  have hMembers :=
    filterMap_flatMap_of_one
      (fun route (_ : route ∈ service.allRoutes) =>
        route.signatures_rustTraitLines)
  have hEntry (route : Route) :
      signature? route.rustEntry = none := by
    unfold Route.rustEntry
    simp (disch := rw [startsDiffer_ofList]; decide) only
      [signature?, readAfter_append_of_startsDiffer,
        String.append_assoc]
  have hEntries :=
    filterMap_map_of_none hEntry service.allRoutes
  unfold rustTraitLines
  simp (disch := rw [startsDiffer_ofList]; decide)
    [hDescription, hMembers, hEntries, signature?,
      List.filterMap_cons, readAfter_of_startsDiffer,
      readAfter_append_of_startsDiffer, String.append_assoc]

/- A stub defines one method for every route. -/
theorem signatures_rustStubLines (service : Service) :
    service.rustStubLines.filterMap signature? =
      service.allRoutes.map Route.rustSignature := by
  have hMembers :=
    filterMap_flatMap_of_one
      (fun route (_ : route ∈ service.allRoutes) =>
        route.signatures_rustStubLines)
  unfold rustStubLines
  simp (disch := rw [startsDiffer_ofList]; decide)
    [hMembers, signature?, List.filterMap_cons,
      readAfter_of_startsDiffer,
      readAfter_append_of_startsDiffer, String.append_assoc]

end Service

end RamlScaffold

------------------------------------------------------------
-- The Table Of Routes
------------------------------------------------------------

namespace RamlScaffold

open Rust Text

namespace Route

theorem tableRows_rustTraitLines (route : Route) :
    route.rustTraitLines.filterMap tableRow? = [] := by
  unfold rustTraitLines rustHeading
  simp (disch := rw [startsDiffer_ofList]; decide) [tableRow?,
    List.filterMap_cons, readAfter_append_of_startsDiffer,
    String.append_assoc]

theorem tableRow?_rustEntry (route : Route) :
    tableRow? route.rustEntry =
      some
        (tableRow route.verb.wireName route.endpoint
          (Naming.snakeCase route.handlerName)) := by
  have hEntry :
      route.rustEntry =
        "    (\"" ++
          (tableRow route.verb.wireName route.endpoint
              (Naming.snakeCase route.handlerName) ++
            "\"),\n") := by
    simp [rustEntry, tableRow, String.append_assoc]
  rw [hEntry, tableRow?, readAfter_append, before?_append]

end Route

theorem tableRows_rustDocLines (line : String) :
    (rustDocLines line).filterMap tableRow? = [] := by
  unfold rustDocLines
  simp (disch := rw [startsDiffer_ofList]; decide) [tableRow?,
    readAfter_of_startsDiffer, readAfter_append_of_startsDiffer,
    String.append_assoc]

/- The table has one entry for every method of a trait. -/
theorem Service.tableRows_rustTraitLines (service : Service) :
    service.rustTraitLines.filterMap tableRow? =
      service.allRoutes.map
        (fun route =>
          tableRow route.verb.wireName route.endpoint
            (methodName route.rustSignature)) := by
  have hDescription :=
    filterMap_flatMap_of_none tableRows_rustDocLines
      service.description
  have hMembers :=
    filterMap_flatMap_of_none Route.tableRows_rustTraitLines
      service.allRoutes
  have hEntries :=
    filterMap_map_of_some Route.tableRow?_rustEntry
      service.allRoutes
  simp only [Route.methodName_rustSignature]
  unfold rustTraitLines
  simp (disch := rw [startsDiffer_ofList]; decide)
    [hDescription, hMembers, hEntries, tableRow?,
      List.filterMap_cons, readAfter_of_startsDiffer,
      readAfter_append_of_startsDiffer, String.append_assoc]

end RamlScaffold

namespace RamlScaffold

open Rust Text

/- The quotes around a path that holds none are told apart. -/
theorem Rust.entryOf?_tableRow
    {verb path handler : String}
    (hVerb : '"' ∉ verb.toList)
    (hPath : IsPlain path)
    (hHandler : '"' ∉ handler.toList) :
    entryOf? (tableRow verb path handler) =
      some (verb, path, handler) := by
  have hText :
      tableRow verb path handler =
        verb ++
          ("\"" ++
            (", " ++
              ("\"" ++
                (path ++
                  ("\"" ++ (", " ++ ("\"" ++ handler))))))) := by
    apply String.toList_inj.mp
    simp [tableRow]
  have hBetween : quoteParts ", " = [", "] :=
    quoteParts_of_not_mem (by decide)
  unfold entryOf?
  rw [hText, quoteParts_append, quoteParts_append,
    quoteParts_append, quoteParts_append, hBetween,
    quoteParts_of_not_mem hVerb,
    quoteParts_of_not_mem (hPath '"' (by decide)),
    quoteParts_of_not_mem hHandler]
  simp [hPath]

theorem Rust.isPlain_of_entry?
    {line verb path handler : String}
    (hEntry : entry? line = some (verb, path, handler)) :
    IsPlain path := by
  rcases Option.bind_eq_some_iff.mp hEntry with ⟨row, -, hRow⟩
  unfold entryOf? at hRow
  split at hRow
  · split at hRow
    · next hPlain =>
        rw [← (Prod.mk.inj (Prod.mk.inj (Option.some.inj hRow)).2).1]
        exact hPlain
    · cases hRow
  · cases hRow

/- Routes with plain paths are in the table part by part. -/
theorem Service.entries_rustTraitLines
    {service : Service}
    (hPlain : service.HasPlainPaths) :
    service.rustTraitLines.filterMap entry? =
      service.allRoutes.map
        (fun route =>
          (route.verb.wireName, route.endpoint,
            methodName route.rustSignature)) := by
  have hRead :
      service.rustTraitLines.filterMap entry? =
        (service.rustTraitLines.filterMap
          tableRow?).filterMap entryOf? := by
    rw [List.filterMap_filterMap]
    rfl
  rw [hRead, service.tableRows_rustTraitLines,
    List.filterMap_map]
  refine List.filterMap_eq_map_iff_forall_eq_some.mpr ?_
  intro route hRoute
  have hHandler : '"' ∉ (methodName route.rustSignature).toList := by
    rw [route.methodName_rustSignature]
    exact Naming.not_mem_snakeCase (by decide) (by decide) _
  exact
    entryOf?_tableRow route.verb.quote_not_mem_wireName
      (hPlain route hRoute) hHandler

end RamlScaffold

------------------------------------------------------------
-- Sources In Lines
------------------------------------------------------------

namespace RamlScaffold

open Text

namespace Route

variable {route : Route}

theorem IsDescribed.oneLine_rustSignature
    (hRoute : route.IsDescribed) :
    OneLine route.rustSignature := by
  have hSnake (text : String) :
      OneLine (Naming.snakeCase text) :=
    Naming.not_mem_snakeCase (by decide) (by decide) text
  have hParameters :
      OneLine
        (String.join (route.pathParams.map rustParameter)) := by
    apply not_mem_join
    intro text hText
    rcases List.mem_map.mp hText with ⟨param, -, rfl⟩
    have hParameter : OneLine (rustParameter param) := by
      unfold rustParameter
      simp +decide [hSnake]
    exact hParameter
  have hRequest :
      OneLine (route.requestBody.elim "" (", body: " ++ ·)) := by
    cases hBody : route.requestBody with
    | none => decide
    | some body =>
        simp +decide [(hRoute.markFree_request hBody).oneLine]
  have hResponse :
      OneLine (route.responseBody.elim "" (" -> " ++ ·)) := by
    cases hBody : route.responseBody with
    | none => decide
    | some body =>
        simp +decide [(hRoute.markFree_response hBody).oneLine]
  unfold rustSignature
  simp +decide [hSnake, hParameters, hRequest, hResponse]

theorem isLine_rustHeading
    (hEndpoint : OneLine route.endpoint) :
    IsLine route.rustHeading := by
  unfold rustHeading
  simp +decide [isLine_append_iff, Verb.oneLine_wireName,
    hEndpoint]

theorem IsDescribed.allLines_rustTraitLines
    (hRoute : route.IsDescribed)
    (hEndpoint : OneLine route.endpoint) :
    AllLines route.rustTraitLines := by
  have hDescription :=
    allLines_around "    /// " (by decide)
      (by decide : IsLine "\n") hRoute.description
  unfold rustTraitLines
  simp +decide [hDescription, isLine_append_iff,
    isLine_rustHeading hEndpoint, hRoute.oneLine_rustSignature]

theorem IsDescribed.allLines_rustStubLines
    (hRoute : route.IsDescribed)
    (hEndpoint : OneLine route.endpoint) :
    AllLines route.rustStubLines := by
  have hSignature := hRoute.oneLine_rustSignature
  unfold rustStubLines
  cases hBody : route.responseBody with
  | none =>
      simp +decide [isLine_append_iff, hSignature,
        isLine_rustHeading hEndpoint]
  | some body =>
      have hName := (hRoute.markFree_response hBody).oneLine
      simp +decide [isLine_append_iff, hSignature, hName,
        isLine_rustHeading hEndpoint]

theorem isLine_rustEntry
    (hEndpoint : OneLine route.endpoint) :
    IsLine route.rustEntry := by
  have hSnake :
      OneLine (Naming.snakeCase route.handlerName) :=
    Naming.not_mem_snakeCase (by decide) (by decide) _
  unfold rustEntry
  simp +decide [isLine_append_iff, Verb.oneLine_wireName,
    hEndpoint, hSnake]

end Route

theorem allLines_rustDocLines
    {line : String}
    (hLine : OneLine line) :
    AllLines (rustDocLines line) := by
  unfold rustDocLines
  simp +decide [isLine_append_iff, hLine]

namespace Service

variable {service : Service}
variable (hService : service.IsDescribed)
variable (hLines : service.IsOneLine)
include hService hLines

/- The lines of a trait are those of its text. -/
theorem IsDescribed.fileLines_rustTrait :
    fileLines (String.join service.rustTraitLines) =
      service.rustTraitLines := by
  have hName := hService.name.oneLine
  have hTable :
      OneLine
        (Alphabet.upperText (Naming.snakeCase service.name)) :=
    Alphabet.not_mem_upperText (by decide)
      (Naming.not_mem_snakeCase (by decide) (by decide) _)
  have hDescription :=
    allLines_flatMap
      (fun line hLine =>
        allLines_rustDocLines (hService.description line hLine))
  have hMembers :=
    allLines_flatMap
      (fun route hRoute =>
        (hService.routes route hRoute).allLines_rustTraitLines
          (hLines.routes route hRoute))
  have hEntries :=
    allLines_map
      (fun route hRoute =>
        Route.isLine_rustEntry (hLines.routes route hRoute))
  apply fileLines_join
  unfold rustTraitLines
  simp (disch :=
      (first | rw [isLine_ofList] | rw [oneLine_ofList]); decide)
    [hDescription, hMembers, hEntries, hName, hTable,
      hLines.endpoint, isLine_append_iff, isLine_eq_true,
      oneLine_eq_true]

/- The lines of a stub are those of its text. -/
theorem IsDescribed.fileLines_rustStub :
    fileLines (String.join service.rustStubLines) =
      service.rustStubLines := by
  have hName := hService.name.oneLine
  have hMembers :=
    allLines_flatMap
      (fun route hRoute =>
        (hService.routes route hRoute).allLines_rustStubLines
          (hLines.routes route hRoute))
  apply fileLines_join
  unfold rustStubLines
  simp (disch :=
      (first | rw [isLine_ofList] | rw [oneLine_ofList]); decide)
    [hMembers, hName, hLines.endpoint, isLine_append_iff,
      isLine_eq_true, oneLine_eq_true]

end Service

end RamlScaffold
