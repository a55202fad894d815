import RamlScaffold.Proofs.Service.GoMethods
import RamlScaffold.Proofs.Service.GoReach

/-
  The imports of Go sources follow what the sources use, but
  for parameters that hide a package.

  Main declarations:
    * `Service.IsDescribed.fileLines_goClient`
    * `Resource.go_imports_follow_usage`
    * `formatsResource_imports_hidden`
-/

------------------------------------------------------------
-- Lines Of A Client
------------------------------------------------------------

namespace RamlScaffold

open Text

namespace Route

variable {route : Route}

theorem allLines_goFailureLines (route : Route) :
    AllLines route.goFailureLines := by
  unfold goFailureLines
  cases route.responseBody <;> simp +decide

theorem allLines_goRequestLines (route : Route) :
    AllLines route.goRequestLines := by
  unfold goRequestLines
  cases route.requestBody <;>
    simp (disch :=
        (first | rw [isLine_ofList] | rw [oneLine_ofList]);
          decide)
      [route.allLines_goFailureLines, Verb.oneLine_wireName,
        isLine_append_iff, isLine_eq_true, oneLine_eq_true]

theorem allLines_goSendLines (route : Route) :
    AllLines route.goSendLines := by
  unfold goSendLines
  simp (disch := rw [isLine_ofList]; decide)
    [route.allLines_goFailureLines, isLine_eq_true]

theorem allLines_goReturnLines (route : Route) :
    AllLines route.goReturnLines := by
  unfold goReturnLines
  cases route.responseBody <;>
    simp (disch := rw [isLine_ofList]; decide) [isLine_eq_true]

theorem isLine_goUrlLine
    (hEndpoint : OneLine route.endpoint) :
    IsLine route.goUrlLine := by
  have hPath := oneLine_placeholderPath hEndpoint
  have hArguments := route.isInline_goArguments.oneLine
  unfold goUrlLine
  simp (disch :=
      (first | rw [isLine_ofList] | rw [oneLine_ofList]); decide)
    [hPath, hArguments, isLine_append_iff, oneLine_eq_true]

theorem IsDescribed.allLines_goCallLines
    (hRoute : route.IsDescribed)
    (hEndpoint : OneLine route.endpoint)
    {name : String}
    (hName : OneLine name) :
    AllLines (route.goCallLines name) := by
  have hHandler := hRoute.handler.oneLine
  have hParameters := hRoute.isInline_goParameters.oneLine
  have hResult := hRoute.isInline_goResult.oneLine
  have hVariable :
      AllLines
        (route.responseBody.toList.map
          (fun body => "\tvar respBody " ++ body ++ "\n")) := by
    apply allLines_around "\tvar respBody " (by decide)
      (by decide : IsLine "\n")
    intro body hBody
    exact
      (hRoute.markFree_response
        (Option.mem_toList.mp hBody)).oneLine
  unfold goCallLines goCallComment goCallSignature goCallBody
  simp (disch :=
      (first | rw [isLine_ofList] | rw [oneLine_ofList]); decide)
    [hHandler, hName, hEndpoint, hParameters, hResult, hVariable,
      Verb.oneLine_wireName, isLine_goUrlLine hEndpoint,
      allLines_goRequestLines, allLines_goSendLines,
      allLines_goReturnLines, isLine_append_iff, isLine_eq_true,
      oneLine_eq_true]

end Route

namespace Service

variable {service : Service}
variable (hService : service.IsDescribed)
include hService

/- The lines of a client are those of its text. -/
theorem IsDescribed.fileLines_goClient
    (hPackage : OneLine service.package)
    (hLines : service.IsOneLine) :
    fileLines (String.join service.goClientLines) =
      service.goClientLines := by
  have hName := hService.name.oneLine
  have hImports : AllLines service.goClientImports := by
    unfold goClientImports goClientBlock
    simp +decide [allLines_onlyIf]
  have hMembers :=
    allLines_flatMap
      (fun route hRoute =>
        (hService.routes route hRoute).allLines_goCallLines
          (hLines.routes route hRoute) hName)
  apply fileLines_join
  unfold goClientLines goClientBody goClientOpening
  simp (disch :=
      (first | rw [isLine_ofList] | rw [oneLine_ofList]); decide)
    [allLines_goHeader hPackage, hImports, hMembers, hName,
      hLines.endpoint, isLine_append_iff, isLine_eq_true,
      oneLine_eq_true]

end Service

end RamlScaffold

------------------------------------------------------------
-- Printed Sources
------------------------------------------------------------

namespace RamlScaffold

open Go Template.Builtin

/-
  Where the texts of a resource mention no package, and its
  package and paths hold no line break, interface, stub and
  client import each standard package exactly if it occurs in
  them.  What occurs in interface and stub is used there.  In
  a client all of it is used if and only if no package is
  needed only where a parameter hides it.
-/
theorem Resource.go_imports_follow_usage
    (package : String)
    (isServer : Bool)
    (ancestor : String)
    (resource : Resource)
    (hTexts :
      (resource.describe package isServer ancestor).NamesNoPackage)
    (hPackage : Text.OneLine package)
    (hLines :
      (resource.describe package isServer ancestor).IsOneLine) :
    let service := resource.describe package isServer ancestor
    ∃ interface stub client,
      service.Prints goInterface interface ∧
        service.Prints goStub stub ∧
        service.Prints goClient client ∧
        (∀ lines ∈ [interface, stub, client],
          ImportsFollowMentions lines) ∧
        ImportsFollowUsage interface ∧
        ImportsFollowUsage stub ∧
        (ImportsFollowUsage client ↔ service.ReachesPackages) := by
  intro service
  have hService : service.IsDescribed :=
    resource.isDescribed_describe package isServer ancestor
  have hOwn : service.package = package := by
    cases resource
    rfl
  rw [← hOwn] at hPackage
  have hInterface := hService.importsUsed_goInterface hTexts
  have hStub := hService.importsUsed_goStub hTexts
  have hClient := hService.importsUsed_goClient hTexts
  refine
    ⟨service.goInterfaceLines, service.goStubLines,
      service.goClientLines, ?_, ?_, ?_, ?_, ?_, ?_, ?_⟩
  · exact
      ⟨_, render_goInterface service,
        hService.fileLines_goInterface hPackage hLines⟩
  · exact
      ⟨_, render_goStub hService.namesBodies,
        hService.fileLines_goStub hPackage hLines⟩
  · exact
      ⟨_, render_goClient hService.namesBodies,
        hService.fileLines_goClient hPackage hLines⟩
  · simp [hInterface.followMentions, hStub.followMentions,
      hClient.followMentions]
  · exact hInterface.followUsage hService.allKeep_goInterface
  · exact hStub.followUsage hService.allKeep_goStub
  · exact hService.importsFollowUsage_goClient_iff hTexts

/- Orders that can be listed and deleted. -/
def ordersResource : Resource where
  uri := "/orders"
  description := some "What was ordered so far"
  methods :=
    [
      { verb := .get
        responses := [⟨"200", { json := some {} }⟩] },
      { verb := .delete, description := some "Forgets all" }]

/- No request has a body, so only responses are encoded. -/
theorem ordersResource_imports :
    let service := ordersResource.describe "shop" false ""
    service.NamesNoPackage ∧
      service.IsOneLine ∧
      service.ReachesPackages ∧
      ∃ client,
        service.Prints goClient client ∧
          ImportsFollowUsage client := by
  have hTexts :
      (ordersResource.describe "shop" false
        "").NamesNoPackage :=
    Service.namesNoPackage_of_dotFree (by decide +kernel)
  have hLines :
      (ordersResource.describe "shop" false "").IsOneLine :=
    ⟨by decide +kernel, by decide +kernel⟩
  have hReach :
      (ordersResource.describe "shop" false
        "").ReachesPackages := by
    decide +kernel
  rcases
    Resource.go_imports_follow_usage "shop" false ""
      ordersResource hTexts (by decide) hLines
    with
    ⟨-, -, client, -, -, hClient, -, -, -, hFollow⟩
  exact
    ⟨hTexts, hLines, hReach, client, hClient, hFollow.mpr hReach⟩

/- Files that can be had in a format. -/
def formatsResource : Resource where
  uri := "/files/\x7bfmt\x7d"
  methods := [{ verb := .get }]

/-
  The one method of this client has a parameter named like the
  package that it needs, which is imported and not used.
-/
theorem formatsResource_imports_hidden :
    let service := formatsResource.describe "shop" false ""
    service.NamesNoPackage ∧
      service.IsOneLine ∧
      ∃ client,
        service.Prints goClient client ∧
          StdPackage.fmt.path ∈ imports client ∧
          ¬ StdPackage.fmt.IsUsed client := by
  intro service
  have hService : service.IsDescribed :=
    formatsResource.isDescribed_describe "shop" false ""
  have hTexts : service.NamesNoPackage :=
    Service.namesNoPackage_of_dotFree (by decide +kernel)
  have hLines : service.IsOneLine :=
    ⟨by decide +kernel, by decide +kernel⟩
  have hPrinted :
      service.Prints goClient service.goClientLines :=
    ⟨_, render_goClient hService.namesBodies,
      hService.fileLines_goClient (by decide) hLines⟩
  have hUnused :
      ¬ StdPackage.fmt.IsUsed service.goClientLines := by
    rw [hService.isUsed_goClient_iff hTexts]
    decide +kernel
  exact
    ⟨hTexts, hLines, service.goClientLines, hPrinted,
      by decide +kernel, hUnused⟩

end RamlScaffold
