import RamlScaffold.Proofs.Service.GoPackages
import RamlScaffold.Proofs.Template.GoClient

/-
  The imports of the built-in Go sources of a service follow
  what the sources use.

  What the lines of a route use is told route by route, and
  the conditions on the imports are compared with that.

  Interface and stub declare no parameter that is named like
  a package, so a package means the same everywhere in them.

  Main declarations:
    * `Service.NamesNoPackage`, `Service.namesNoPackage_of_dotFree`
    * `Service.IsDescribed.importsUsed_goInterface`
    * `Service.IsDescribed.importsUsed_goStub`
    * `Service.IsDescribed.allKeep_goInterface`
    * `Service.IsDescribed.allKeep_goStub`
-/

------------------------------------------------------------
-- Texts Of A Service
------------------------------------------------------------

namespace RamlScaffold

open Go Text

/-
  A service whose own texts, which are printed as they are,
  hold no qualifier of a standard package.
-/
structure Service.NamesNoPackage (service : Service) : Prop where
  package : MentionsNone service.package
  endpoint : MentionsNone service.endpoint
  description : ∀ line ∈ service.description, MentionsNone line
  endpoints :
    ∀ route ∈ service.allRoutes, MentionsNone route.endpoint
  descriptions :
    ∀ route ∈ service.allRoutes,
      ∀ line ∈ route.description, MentionsNone line

/- The texts of a service that sources print as they are. -/
def Service.texts (service : Service) : List String :=
  [service.package, service.endpoint] ++ service.description ++
    service.allRoutes.flatMap
      (fun route => route.endpoint :: route.description)

theorem Service.namesNoPackage_of_dotFree
    {service : Service}
    (hTexts : ∀ text ∈ service.texts, '.' ∉ text.toList) :
    service.NamesNoPackage := by
  have hNone (text : String) (hText : text ∈ service.texts) :
      MentionsNone text :=
    mentionsNone_of_not_mem (hTexts text hText)
  have hRoutes :
      ∀ route ∈ service.allRoutes,
        ∀ text ∈ route.endpoint :: route.description,
          MentionsNone text := by
    intro route hRoute text hText
    apply hNone
    apply List.mem_append_right
    exact List.mem_flatMap.mpr ⟨route, hRoute, hText⟩
  refine
    ⟨hNone _ (by simp [texts]), hNone _ (by simp [texts]),
      ?_, ?_, ?_⟩
  · intro line hLine
    exact hNone line (by simp [texts, hLine])
  · intro route hRoute
    exact hRoutes route hRoute _ List.mem_cons_self
  · intro route hRoute line hLine
    exact
      hRoutes route hRoute line (List.mem_cons_of_mem _ hLine)

theorem Naming.MarkFree.mentionsNone
    {text : String}
    (hText : Naming.MarkFree text) :
    MentionsNone text :=
  mentionsNone_of_not_mem (hText '.' (by decide))

theorem Verb.mentionsNone_wireName (verb : Verb) :
    MentionsNone verb.wireName := by
  apply mentionsNone_of_not_mem
  cases verb <;> decide

/- A comment mentions what the text in it mentions. -/
theorem Go.allMention_comments
    (start : String)
    (hStart : MentionsNone start)
    (hEnds : EndsOutside letters start)
    {texts : List String}
    (hTexts : ∀ text ∈ texts, MentionsNone text)
    (packages : List StdPackage) :
    AllMention packages
      (texts.map (fun text => start ++ (text ++ "\n"))) := by
  intro line hLine
  rcases List.mem_map.mp hLine with ⟨text, hText, rfl⟩
  have hStop : StartsOutside laterLetters "\n" := by
    rw [startsOutside_ofList]
    decide
  have hBreak : MentionsNone "\n" :=
    mentionsNone_of_not_mem (by decide)
  have hInner := hTexts text hText
  simp [hEnds, hStop, hStart.mentionsOnly, hBreak.mentionsOnly,
    hInner.mentionsOnly]

end RamlScaffold

------------------------------------------------------------
-- Interfaces And Stubs
------------------------------------------------------------

namespace RamlScaffold

open Go Text

namespace Route

variable {route : Route}
variable (hRoute : route.IsDescribed)
variable (hEndpoint : MentionsNone route.endpoint)
include hRoute hEndpoint

theorem uses_goMethodLines
    (hDescription :
      ∀ line ∈ route.description, MentionsNone line) :
    Uses route.goMethodLines [.http] := by
  have hHandler := hRoute.handler.mentionsNone.mentionsOnly
  have hVerb := route.verb.mentionsNone_wireName.mentionsOnly
  have hComments :=
    allMention_comments "\t// "
      (mentionsNone_of_not_mem (by decide))
      (by rw [endsOutside_ofList]; decide) hDescription
  constructor
  · have hUse :
        StdPackage.http.IsUsedIn
          "(http.ResponseWriter, *http.Request)\n" :=
      StdPackage.isUsedIn_ofList '(' 'R' (by decide)
    have hMethod : route.goMethod ∈ route.goMethodLines := by
      simp [goMethodLines]
    simpa using ⟨route.goMethod, hMethod, hUse.append_left _⟩
  · unfold goMethodLines goMethod
    simp (disch := first
        | rw [mentionsOnly_ofList]; decide +kernel
        | rw [endsOutside_ofList]; decide
        | rw [startsOutside_ofList]; decide)
      [hHandler, hEndpoint.mentionsOnly, hVerb, hComments,
        mentionsOnly_eq_true, String.append_assoc]

theorem mentionsOnly_goRegistration :
    MentionsOnly [] route.goRegistration := by
  have hHandler := hRoute.handler.mentionsNone.mentionsOnly
  have hVerb := route.verb.mentionsNone_wireName.mentionsOnly
  unfold goRegistration
  simp (disch := first
      | rw [mentionsOnly_ofList]; decide +kernel
      | rw [endsOutside_ofList]; decide
      | rw [startsOutside_ofList]; decide)
    [hHandler, hEndpoint.mentionsOnly, hVerb,
      mentionsOnly_eq_true, String.append_assoc]

end Route

theorem Go.allMention_closing : AllMention [] [")\n"] := by
  rw [allMention_cons, mentionsOnly_ofList]
  exact ⟨by decide, allMention_nil []⟩

namespace Service

theorem hasRoutes_iff (service : Service) :
    service.hasRoutes = true ↔
      ∃ route, route ∈ service.allRoutes := by
  rw [hasRoutes, Bool.not_eq_true',
    List.isEmpty_eq_false_iff_exists_mem]

theorem hasBodies_iff (service : Service) :
    service.hasRequests = true ∨ service.hasResponses = true ↔
      ∃ route ∈ service.allRoutes,
        route.requestBody.isSome = true ∨
          route.responseBody.isSome = true := by
  simp [hasRequests, hasResponses, and_or_left, exists_or]

/- No imports are opened in front of the import block. -/
theorem ne_opening_of_mem_goHeader (service : Service) :
    ∀ line ∈ service.goHeader, line ≠ "import (\n" := by
  unfold goHeader
  simp (disch := rw [startsDiffer_ofList]; decide)
    [StartsDiffer.append_ne, String.append_assoc]

variable {service : Service}
variable (hService : service.IsDescribed)
variable (hTexts : service.NamesNoPackage)
include hTexts

theorem NamesNoPackage.allMention_goHeader :
    AllMention [] service.goHeader := by
  unfold goHeader
  simp (disch := first
      | rw [mentionsOnly_ofList]; decide +kernel
      | rw [endsOutside_ofList]; decide
      | rw [startsOutside_ofList]; decide)
    [hTexts.package.mentionsOnly, mentionsOnly_eq_true,
      String.append_assoc]

include hService

theorem IsDescribed.uses_goInterfaceBody :
    Uses service.goInterfaceBody
      (service.allRoutes.flatMap (fun _ => [.http])) := by
  have hName := hService.name.mentionsNone.mentionsOnly
  have hEndpoint := hTexts.endpoint.mentionsOnly
  have hComments :=
    allMention_comments "// "
      (mentionsNone_of_not_mem (by decide))
      (by rw [endsOutside_ofList]; decide) hTexts.description []
  have hMembers :=
    Uses.flatMap
      (fun route hRoute =>
        Route.uses_goMethodLines (hService.routes route hRoute)
          (hTexts.endpoints route hRoute)
          (hTexts.descriptions route hRoute))
  have hEntries :
      AllMention []
        (service.allRoutes.map Route.goRegistration) := by
    apply allMention_map
    intro route hRoute
    exact Route.mentionsOnly_goRegistration
      (hService.routes route hRoute)
      (hTexts.endpoints route hRoute)
  refine
    (((Uses.plain_append ?_ hMembers).append_plain ?_)
      |>.append_plain hEntries).append_plain ?_
  all_goals
    simp (disch := first
        | rw [mentionsOnly_ofList]; decide +kernel
        | rw [endsOutside_ofList]; decide
        | rw [startsOutside_ofList]; decide)
      [hName, hEndpoint, hComments, mentionsOnly_eq_true,
        String.append_assoc]

/- An interface imports for its routes, if it has any. -/
theorem IsDescribed.importsUsed_goInterface :
    ImportsUsed service.goInterfaceLines
      (service.allRoutes.flatMap (fun _ => [.http])) := by
  have hLines :
      service.goInterfaceLines =
        service.goHeader ++
          ("import (\n" ::
              (onlyIf service.hasRoutes
                  ["\t\"net/http\"\n", "\n"] ++
                ["\t\"github.com/gorilla/mux\"\n"]) ++
            ")\n" :: service.goInterfaceBody) := by
    simp [goInterfaceLines, goInterfaceImports]
  have hBody := hService.uses_goInterfaceBody hTexts
  rw [hLines]
  apply importsUsed_of_block service.ne_opening_of_mem_goHeader
  · simp +decide [or_imp, forall_and]
  · exact Uses.plain_append hTexts.allMention_goHeader
      (Uses.plain_append allMention_closing hBody)
  · intro pkg
    cases pkg <;>
      simp +decide [StdPackage.path, hasRoutes_iff]

end Service

end RamlScaffold

------------------------------------------------------------
-- Stubs
------------------------------------------------------------

namespace RamlScaffold

open Go Text

namespace Route

/- What a stub needs to read the request of a route. -/
def goReadPackages (route : Route) : List StdPackage :=
  route.requestBody.elim [] (fun _ => [.json, .http])

/- What a stub needs to answer on a route. -/
def goWritePackages (route : Route) : List StdPackage :=
  route.responseBody.elim [.http] (fun _ => [.json])

/- What a stub needs for a route. -/
def goFunctionPackages (route : Route) : List StdPackage :=
  [.http] ++ route.goReadPackages ++ route.goWritePackages

end Route

theorem Route.mem_goFunctionPackages_iff
    (route : Route)
    (pkg : StdPackage) :
    pkg ∈ route.goFunctionPackages ↔
      pkg = .http ∨
        pkg = .json ∧
          (route.requestBody.isSome = true ∨
            route.responseBody.isSome = true) := by
  unfold goFunctionPackages goReadPackages goWritePackages
  cases route.requestBody <;> cases route.responseBody <;>
    cases pkg <;> simp

theorem uses_goReadLines
    {body : String}
    (hBody : MentionsNone body) :
    Uses (goReadLines body) [.json, .http] := by
  constructor
  · have hJson :
        StdPackage.json.IsUsedIn
          "\tif err := json.NewDecoder(r.Body).Decode(&reqBody); " :=
      StdPackage.isUsedIn_ofList ' ' 'N' (by decide)
    have hHttp :
        StdPackage.http.IsUsedIn
          "\t\tw.WriteHeader(http.StatusBadRequest)\n" :=
      StdPackage.isUsedIn_ofList '(' 'S' (by decide)
    intro pkg hPkg
    cases hPkg with
    | head =>
        exact
          ⟨_, .tail _ (.tail _ (.head _)),
            hJson.append_right "err != nil \x7b\n"⟩
    | tail _ hPkg =>
        rw [List.mem_singleton.mp hPkg]
        exact
          ⟨_, .tail _ (.tail _ (.tail _ (.head _))), hHttp⟩
  · unfold goReadLines
    simp (disch := first
        | rw [mentionsOnly_ofList]; decide +kernel
        | rw [endsOutside_ofList]; decide
        | rw [startsOutside_ofList]; decide)
      [hBody.mentionsOnly, mentionsOnly_eq_true,
        String.append_assoc]

theorem uses_goWriteLines
    {body : String}
    (hBody : MentionsNone body) :
    Uses (goWriteLines body) [.json] := by
  constructor
  · have hJson :
        StdPackage.json.IsUsedIn
          "\tjson.NewEncoder(w).Encode(&respBody)\n" :=
      StdPackage.isUsedIn_ofList '\t' 'N' (by decide)
    unfold goWriteLines
    simp [hJson]
  · unfold goWriteLines
    simp (disch := first
        | rw [mentionsOnly_ofList]; decide +kernel
        | rw [endsOutside_ofList]; decide
        | rw [startsOutside_ofList]; decide)
      [hBody.mentionsOnly, mentionsOnly_eq_true,
        String.append_assoc]

namespace Route

variable {route : Route}
variable (hRoute : route.IsDescribed)
include hRoute

theorem IsDescribed.uses_goRead :
    Uses (route.requestBody.elim [] goReadLines)
      route.goReadPackages := by
  unfold goReadPackages
  cases hBody : route.requestBody with
  | none => exact Uses.of_allMention_nil (allMention_nil [])
  | some body =>
      exact uses_goReadLines
        (hRoute.markFree_request hBody).mentionsNone

theorem IsDescribed.uses_goWrite :
    Uses
      (route.responseBody.elim
        ["\tw.WriteHeader(http.StatusNoContent)\n"]
        goWriteLines)
      route.goWritePackages := by
  unfold goWritePackages
  cases hBody : route.responseBody with
  | none =>
      have hHttp :
          StdPackage.http.IsUsedIn
            "\tw.WriteHeader(http.StatusNoContent)\n" :=
        StdPackage.isUsedIn_ofList '(' 'S' (by decide)
      apply Uses.of_line
      · simpa using hHttp
      · rw [mentionsOnly_ofList]
        decide
  | some body =>
      exact uses_goWriteLines
        (hRoute.markFree_response hBody).mentionsNone

theorem IsDescribed.uses_goFunctionLines
    (hEndpoint : MentionsNone route.endpoint)
    {name : String}
    (hName : MentionsNone name) :
    Uses (route.goFunctionLines name)
      route.goFunctionPackages := by
  have hHandler := hRoute.handler.mentionsNone.mentionsOnly
  have hVerb := route.verb.mentionsNone_wireName.mentionsOnly
  have hHttp :
      StdPackage.http.IsUsedIn
        "(w http.ResponseWriter, r *http.Request) \x7b\n" :=
    StdPackage.isUsedIn_ofList ' ' 'R' (by decide)
  have hOpening :
      Uses
        ["// " ++ route.handlerName ++
            " is the handler for " ++ route.verb.wireName ++
            " " ++ route.endpoint ++ "\n",
          route.goFunction name]
        [.http] := by
    constructor
    · intro pkg hPkg
      rw [List.mem_singleton.mp hPkg]
      exact ⟨_, .tail _ (.head _), hHttp.append_left _⟩
    · unfold goFunction
      simp (disch := first
          | rw [mentionsOnly_ofList]; decide +kernel
          | rw [endsOutside_ofList]; decide
          | rw [startsOutside_ofList]; decide)
        [hHandler, hVerb, hEndpoint.mentionsOnly,
          hName.mentionsOnly, mentionsOnly_eq_true,
          String.append_assoc]
  have hClosing : AllMention [] ["\x7d\n", "\n"] := by
    simp (disch := rw [mentionsOnly_ofList]; decide)
      [mentionsOnly_eq_true]
  exact
    ((hOpening.append hRoute.uses_goRead).append
      hRoute.uses_goWrite).append_plain hClosing

end Route

namespace Service

variable {service : Service}
variable (hService : service.IsDescribed)
variable (hTexts : service.NamesNoPackage)
include hService hTexts

theorem IsDescribed.uses_goStubBody :
    Uses service.goStubBody
      (service.allRoutes.flatMap Route.goFunctionPackages) := by
  have hName := hService.name.mentionsNone
  have hMembers :=
    Uses.flatMap
      (fun route hRoute =>
        (hService.routes route hRoute).uses_goFunctionLines
          (hTexts.endpoints route hRoute) hName)
  refine Uses.plain_append ?_ hMembers
  simp (disch := first
      | rw [mentionsOnly_ofList]; decide +kernel
      | rw [endsOutside_ofList]; decide
      | rw [startsOutside_ofList]; decide)
    [hName.mentionsOnly, hTexts.endpoint.mentionsOnly,
      mentionsOnly_eq_true, String.append_assoc]

/- A stub imports exactly what its routes need. -/
theorem IsDescribed.importsUsed_goStub :
    ImportsUsed service.goStubLines
      (service.allRoutes.flatMap Route.goFunctionPackages) := by
  have hBody := hService.uses_goStubBody hTexts
  have hPackage :
      AllMention []
        ["package " ++ service.package ++ "\n", "\n"] := by
    simp (disch := first
        | rw [mentionsOnly_ofList]; decide +kernel
        | rw [endsOutside_ofList]; decide
        | rw [startsOutside_ofList]; decide)
      [hTexts.package.mentionsOnly, mentionsOnly_eq_true,
        String.append_assoc]
  cases hRoutes : service.hasRoutes with
  | false =>
    have hNone : service.allRoutes = [] := by
      simpa [hasRoutes] using hRoutes
    have hOpening :
        ∀ line ∈ service.goStubLines, line ≠ "import (\n" := by
      unfold goStubLines goStubImports goStubBody
      simp (disch := rw [startsDiffer_ofList]; decide)
        [hRoutes, hNone, onlyIf, StartsDiffer.append_ne,
          String.append_assoc]
    have hLines : Uses service.goStubLines [] := by
      rw [hNone] at hBody
      have hUses := Uses.plain_append hPackage hBody
      simpa [goStubLines, goStubImports, hRoutes, onlyIf]
        using hUses
    rw [hNone, List.flatMap_nil]
    constructor
    · rw [rest_of_no_block hOpening]
      exact hLines
    · rw [imports_of_no_block hOpening]
      simp
  | true =>
    have hLines :
      service.goStubLines =
        ["package " ++ service.package ++ "\n", "\n"] ++
          ("import (\n" ::
              (onlyIf (service.hasRequests || service.hasResponses)
                  ["\t\"encoding/json\"\n"] ++
                ["\t\"net/http\"\n"]) ++
            ")\n" :: service.goStubBody) := by
      simp [goStubLines, goStubImports, hRoutes, onlyIf]
    rw [hLines]
    apply importsUsed_of_block
    · simp (disch := rw [startsDiffer_ofList]; decide)
        [StartsDiffer.append_ne, String.append_assoc]
    · simp +decide [or_imp, forall_and]
    · exact Uses.plain_append hPackage
        (Uses.plain_append allMention_closing hBody)
    · intro pkg
      have hSome := service.hasRoutes_iff.mp hRoutes
      cases pkg <;>
        simp +decide [StdPackage.path, hSome, hasBodies_iff,
          Route.mem_goFunctionPackages_iff]

end Service

end RamlScaffold

------------------------------------------------------------
-- Headers
------------------------------------------------------------

namespace RamlScaffold

open Go Text

namespace Service

variable {service : Service} (hService : service.IsDescribed)
include hService

/- Routes are registered with a router and an interface. -/
theorem IsDescribed.keepsPackages_registration :
    KeepsPackages
      ("func " ++ service.name ++
        "InterfaceRoutes(r *mux.Router, i " ++ service.name ++
        "Interface) \x7b\n") := by
  intro pkg _
  have hHeader :
      "func " ++ service.name ++
          "InterfaceRoutes(r *mux.Router, i " ++ service.name ++
          "Interface) \x7b\n" =
        ("func " ++ (service.name ++ "InterfaceRoutes")) ++
          ("(" ++
            (("r " ++ "*mux.Router") ++
              ("," ++
                (" " ++
                  (("i " ++ (service.name ++ "Interface")) ++
                    (")" ++ (" " ++ ("\x7b" ++ "\n")))))))) := by
    apply String.toList_inj.mp
    simp
  have hName := hService.name.isPiece
  rw [hHeader, declares_open_iff, declares_comma_iff,
    declares_blank_iff, declares_close_iff, declares_blank_iff]
  simp only [not_or]
  refine ⟨?_, ?_, ?_, ?_⟩
  all_goals
    refine
      pkg.not_declares_append ?_ (by decide) (by decide +kernel)
    simp (disch := rw [isPiece_ofList]; decide) only
      [isPiece_append, isPiece_eq_true, hName, and_self]

/- An interface has one function, which registers its routes. -/
theorem IsDescribed.allKeep_goInterface :
    AllKeep service.goInterfaceLines := by
  have hRegistration := hService.keepsPackages_registration
  have hImports : AllKeep service.goInterfaceImports := by
    unfold goInterfaceImports onlyIf
    cases service.hasRoutes <;>
      simp (disch := rw [startsDiffer_ofList]; decide)
        [keepsPackages_of_startsDiffer]
  have hDescription :
      AllKeep
        (service.description.map
          (fun line => "// " ++ (line ++ "\n"))) := by
    refine List.forall_mem_map.mpr (fun line _ => ?_)
    exact
      keepsPackages_append_of_startsDiffer
        (by rw [startsDiffer_ofList]; decide) _
  have hMethods (route : Route) : AllKeep route.goMethodLines := by
    unfold Route.goMethodLines Route.goMethod AllKeep
    simp (disch := rw [startsDiffer_ofList]; decide)
      [or_imp, forall_and, String.append_assoc,
        keepsPackages_append_of_startsDiffer]
  have hMembers :
      AllKeep (service.allRoutes.flatMap Route.goMethodLines) :=
    List.forall_mem_flatMap.mpr (fun route _ => hMethods route)
  have hEntries :
      AllKeep (service.allRoutes.map Route.goRegistration) := by
    refine List.forall_mem_map.mpr (fun route _ => ?_)
    unfold Route.goRegistration
    simp (disch := rw [startsDiffer_ofList]; decide) only
      [String.append_assoc, keepsPackages_append_of_startsDiffer]
  rw [String.append_assoc, String.append_assoc,
    String.append_assoc] at hRegistration
  unfold goInterfaceLines goHeader goInterfaceBody
  simp (disch := rw [startsDiffer_ofList]; decide)
    [hRegistration, hImports, hDescription, hMembers, hEntries,
      keepsPackages_of_startsDiffer,
      keepsPackages_append_of_startsDiffer, String.append_assoc]

end Service

/- The function of a stub has a receiver and two parameters. -/
theorem Route.IsDescribed.keepsPackages_goFunction
    {route : Route}
    (hRoute : route.IsDescribed)
    {name : String}
    (hName : IsPiece name) :
    KeepsPackages (route.goFunction name) := by
  intro pkg _
  have hHeader :
      route.goFunction name =
        "func " ++
          ("(" ++
            (("api " ++ (name ++ "API")) ++
              (")" ++
                (" " ++
                  (route.handlerName ++
                    ("(" ++
                      (("w " ++ "http.ResponseWriter") ++
                        ("," ++
                          (" " ++
                            (("r " ++ "*http.Request") ++
                              (")" ++
                                (" " ++ ("\x7b" ++ "\n"))))))))))))) := by
    apply String.toList_inj.mp
    simp [goFunction]
  have hHandler := hRoute.handler.isPiece
  have hBlank := hRoute.handler ' ' (by decide)
  rw [hHeader, declares_open_iff, declares_close_iff,
    declares_blank_iff, declares_open_iff, declares_comma_iff,
    declares_blank_iff, declares_close_iff, declares_blank_iff]
  simp only [not_or]
  refine
    ⟨?_, ?_, not_declares_of_noBlank hHandler hBlank, ?_, ?_, ?_⟩
  · cases pkg <;> decide +kernel
  all_goals
    refine
      pkg.not_declares_append ?_ (by decide) (by decide +kernel)
    simp (disch := rw [isPiece_ofList]; decide) only
      [isPiece_append, isPiece_eq_true, hName, and_self]

/- A stub has a function for each route and no others. -/
theorem Service.IsDescribed.allKeep_goStub
    {service : Service}
    (hService : service.IsDescribed) :
    AllKeep service.goStubLines := by
  have hImports : AllKeep service.goStubImports := by
    unfold goStubImports onlyIf
    cases service.hasRoutes <;>
      cases service.hasRequests || service.hasResponses <;>
        simp (disch := rw [startsDiffer_ofList]; decide)
          [keepsPackages_of_startsDiffer]
  have hFunctions :
      ∀ route ∈ service.allRoutes,
        AllKeep (route.goFunctionLines service.name) := by
    intro route hRoute
    have hFunction :=
      (hService.routes route hRoute).keepsPackages_goFunction
        hService.name.isPiece
    unfold Route.goFunctionLines
    cases route.requestBody <;> cases route.responseBody <;>
      simp (disch := rw [startsDiffer_ofList]; decide)
        [hFunction, goReadLines, goWriteLines,
          keepsPackages_of_startsDiffer,
          keepsPackages_append_of_startsDiffer,
          String.append_assoc]
  have hMembers :
      AllKeep
        (service.allRoutes.flatMap
          (Route.goFunctionLines service.name)) :=
    List.forall_mem_flatMap.mpr hFunctions
  unfold goStubLines goStubBody
  simp (disch := rw [startsDiffer_ofList]; decide)
    [hImports, hMembers, keepsPackages_of_startsDiffer,
      keepsPackages_append_of_startsDiffer, String.append_assoc]

end RamlScaffold
