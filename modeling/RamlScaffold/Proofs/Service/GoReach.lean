import RamlScaffold.Proofs.Service.GoClientImports

/-
  Which packages the methods of a Go client can reach.

  A method has a parameter for each parameter of its path.  A
  parameter with the name of a package hides the package in
  the body of the method, but not in its header.

  Main declarations:
    * `Route.Hides`
    * `Route.IsDescribed.declares_goCallSignature_iff`
    * `Service.ReachesPackages`
    * `Service.IsDescribed.isUsed_goClient_iff`
    * `Service.IsDescribed.importsFollowUsage_goClient_iff`
-/

------------------------------------------------------------
-- Headers
------------------------------------------------------------

namespace RamlScaffold

open Go Text

theorem Go.StdPackage.name_ne_empty (pkg : StdPackage) :
    pkg.name ≠ "" := by
  cases pkg <;> decide

theorem Go.StdPackage.blank_not_mem_name (pkg : StdPackage) :
    ' ' ∉ pkg.name.toList := by
  cases pkg <;> decide

namespace Route

/- A route with a path parameter named like a package. -/
def Hides (route : Route) (pkg : StdPackage) : Prop :=
  ∃ param ∈ route.pathParams, Naming.lowerCamel param = pkg.name

instance (route : Route) (pkg : StdPackage) :
    Decidable (route.Hides pkg) :=
  inferInstanceAs
    (Decidable
      (∃ param ∈ route.pathParams,
        Naming.lowerCamel param = pkg.name))

/- Each parameter of a path is declared with its type. -/
theorem declares_pathParameters_iff
    (pkg : StdPackage)
    (params : List String)
    (rest : String) :
    Declares pkg.name
        (String.join
            (params.map
              (fun param =>
                Naming.lowerCamel param ++ " string, ")) ++
          rest) ↔
      (∃ param ∈ params, Naming.lowerCamel param = pkg.name) ∨
        Declares pkg.name rest := by
  induction params with
  | nil => simp
  | cons param params ih =>
      have hHeader :
          String.join
                ((param :: params).map
                  (fun param =>
                    Naming.lowerCamel param ++ " string, ")) ++
              rest =
            (Naming.lowerCamel param ++ (" " ++ "string")) ++
              ("," ++
                (" " ++
                  (String.join
                      (params.map
                        (fun param =>
                          Naming.lowerCamel param ++
                            " string, ")) ++
                    rest))) := by
        apply String.toList_inj.mp
        simp
      have hName := Naming.markFree_lowerCamel param
      have hParam :
          Declares pkg.name
              (Naming.lowerCamel param ++ (" " ++ "string")) ↔
            Naming.lowerCamel param = pkg.name := by
        apply
          declares_parameter_iff _ (hName ' ' (by decide))
            (by decide) pkg.name_ne_empty pkg.blank_not_mem_name
        simp (disch := rw [isPiece_ofList]; decide) only
          [isPiece_append, isPiece_eq_true, hName.isPiece,
            and_self]
      rw [hHeader, declares_comma_iff, declares_blank_iff, ih,
        hParam]
      simp [or_assoc]

variable {route : Route} (hRoute : route.IsDescribed)
include hRoute

/- The parameter for the body has a name of its own. -/
theorem IsDescribed.declares_bodyParameter_iff
    (pkg : StdPackage)
    (rest : String) :
    Declares pkg.name
        (route.requestBody.elim ""
            (fun body => "body " ++ body ++ ", ") ++
          rest) ↔
      Declares pkg.name rest := by
  cases hRequest : route.requestBody with
  | none => simp
  | some body =>
      have hName := hRoute.markFree_request hRequest
      have hHeader :
          "body " ++ body ++ ", " ++ rest =
            ("body " ++ body) ++ ("," ++ (" " ++ rest)) := by
        apply String.toList_inj.mp
        simp
      have hPiece : IsPiece ("body " ++ body) := by
        simp (disch := rw [isPiece_ofList]; decide) only
          [isPiece_append, isPiece_eq_true, hName.isPiece,
            and_self]
      have hBody : ¬ Declares pkg.name ("body " ++ body) :=
        pkg.not_declares_append hPiece (by decide)
          (by decide +kernel)
      rw [Option.elim_some, hHeader, declares_comma_iff,
        declares_blank_iff]
      exact or_iff_right hBody

/- Results have types and no names. -/
theorem IsDescribed.declares_result_iff
    (pkg : StdPackage)
    (rest : String) :
    Declares pkg.name
        (route.responseBody.elim "" (· ++ ", ") ++ rest) ↔
      Declares pkg.name rest := by
  cases hResponse : route.responseBody with
  | none => simp
  | some body =>
      have hName := hRoute.markFree_response hResponse
      have hHeader :
          body ++ ", " ++ rest =
            body ++ ("," ++ (" " ++ rest)) := by
        apply String.toList_inj.mp
        simp
      have hBody : ¬ Declares pkg.name body :=
        not_declares_of_noBlank hName.isPiece
          (hName ' ' (by decide))
      rw [Option.elim_some, hHeader, declares_comma_iff,
        declares_blank_iff]
      exact or_iff_right hBody

/-
  The method of a client declares the name of a package if
  and only if a parameter of its path has that name.
-/
theorem IsDescribed.declares_goCallSignature_iff
    {name : String}
    (hName : IsPiece name)
    (pkg : StdPackage) :
    Declares pkg.name (route.goCallSignature name) ↔
      route.Hides pkg := by
  have hHeader :
      route.goCallSignature name =
        "func " ++
          ("(" ++
            (("s " ++ ("*" ++ (name ++ "Service"))) ++
              (")" ++
                (" " ++
                  (route.handlerName ++
                    ("(" ++
                      (String.join
                          (route.pathParams.map
                            (fun param =>
                              Naming.lowerCamel param ++
                                " string, ")) ++
                        (route.requestBody.elim ""
                            (fun body => "body " ++ body ++ ", ") ++
                          (("headers " ++ "map[string]string") ++
                            (")" ++
                              (" " ++
                                ("(" ++
                                  (route.responseBody.elim ""
                                      (· ++ ", ") ++
                                    ("*http.Response" ++
                                      ("," ++
                                        (" " ++
                                          ("error" ++
                                            (")" ++
                                              (" " ++
                                                ("\x7b" ++
                                                  "\n")))))))))))))))))))) := by
    unfold goCallSignature goParameters
    apply String.toList_inj.mp
    simp only [String.toList_append, List.append_assoc]
    rfl
  have hHandler := hRoute.handler.isPiece
  have hBlank := hRoute.handler ' ' (by decide)
  have hMethod : ¬ Declares pkg.name route.handlerName :=
    not_declares_of_noBlank hHandler hBlank
  have hPiece : IsPiece ("s " ++ ("*" ++ (name ++ "Service"))) := by
    simp (disch := rw [isPiece_ofList]; decide) only
      [isPiece_append, isPiece_eq_true, hName, and_self]
  have hReceiver :
      ¬ Declares pkg.name
          ("s " ++ ("*" ++ (name ++ "Service"))) :=
    pkg.not_declares_append hPiece (by decide) (by decide +kernel)
  have hTexts :
      ∀ text ∈
        ["func ", "headers " ++ "map[string]string", " ",
          "*http.Response", "error", "\x7b" ++ "\n"],
        ¬ Declares pkg.name text := by
    cases pkg <;> decide +kernel
  simp only [List.forall_mem_cons] at hTexts
  rcases hTexts with
    ⟨hWord, hHeaders, hGap, hPointer, hError, hEnd, -⟩
  rw [hHeader, declares_open_iff, declares_close_iff,
    declares_blank_iff, declares_open_iff,
    declares_pathParameters_iff, hRoute.declares_bodyParameter_iff,
    declares_close_iff, declares_open_iff,
    hRoute.declares_result_iff, declares_comma_iff,
    declares_blank_iff, declares_close_iff, declares_blank_iff]
  simp only [hWord, hReceiver, hMethod, hHeaders, hGap, hPointer,
    hError, hEnd, false_or, or_false]
  exact Iff.rfl

end Route

end RamlScaffold

------------------------------------------------------------
-- Bodies
------------------------------------------------------------

namespace RamlScaffold

open Go Text

namespace Route

/- The lines inside of a method are set in. -/
theorem isInner_goCallBody (route : Route) :
    ∀ line ∈ route.goCallBody, IsInner line := by
  have hFailure :
      ∀ line ∈ route.goFailureLines, IsInner line := by
    unfold goFailureLines
    simp (disch := rw [startsDiffer_ofList]; decide)
      [isInner_of_startsDiffer,
        isInner_append_of_startsDiffer, String.append_assoc]
  have hVariable :
      ∀ line ∈
        route.responseBody.toList.map
          (fun body => "\tvar respBody " ++ body ++ "\n"),
        IsInner line := by
    simp (disch := rw [startsDiffer_ofList]; decide)
      [isInner_append_of_startsDiffer, String.append_assoc]
  have hUrl : IsInner route.goUrlLine := by
    unfold goUrlLine
    simp (disch := rw [startsDiffer_ofList]; decide)
      [isInner_append_of_startsDiffer, String.append_assoc]
  have hRequest :
      ∀ line ∈ route.goRequestLines, IsInner line := by
    unfold goRequestLines
    cases route.requestBody with
    | none =>
        simp (disch := rw [startsDiffer_ofList]; decide)
          [isInner_append_of_startsDiffer, String.append_assoc]
    | some body =>
        simpa (disch := rw [startsDiffer_ofList]; decide)
          [or_imp, forall_and, isInner_of_startsDiffer,
            isInner_append_of_startsDiffer, String.append_assoc]
          using hFailure
  have hSend : ∀ line ∈ route.goSendLines, IsInner line := by
    unfold goSendLines
    simpa (disch := rw [startsDiffer_ofList]; decide)
      [or_imp, forall_and, isInner_of_startsDiffer]
      using hFailure
  have hReturn : ∀ line ∈ route.goReturnLines, IsInner line := by
    unfold goReturnLines
    cases route.responseBody <;>
      simp (disch := rw [startsDiffer_ofList]; decide)
        [isInner_of_startsDiffer]
  intro line hLine
  simp only [goCallBody, List.mem_append, List.mem_singleton]
    at hLine
  rcases hLine with
    (((hLine | rfl) | hLine) | hLine) | hLine
  · exact hVariable line hLine
  · exact hUrl
  · exact hRequest line hLine
  · exact hSend line hLine
  · exact hReturn line hLine

end Route

end RamlScaffold

------------------------------------------------------------
-- Packages In Reach
------------------------------------------------------------

namespace RamlScaffold

open Go Text

namespace Service

/-
  A service of which every package that some method needs is
  needed by a method that has no parameter of its name.  The
  package of requests is needed outside of methods as well.
-/
def ReachesPackages (service : Service) : Prop :=
  ∀ route ∈ service.allRoutes,
    ∀ pkg ∈ route.goBodyPackages,
      pkg = .http ∨
        ∃ other ∈ service.allRoutes,
          pkg ∈ other.goBodyPackages ∧ ¬ other.Hides pkg

instance (service : Service) :
    Decidable service.ReachesPackages :=
  inferInstanceAs
    (Decidable
      (∀ route ∈ service.allRoutes,
        ∀ pkg ∈ route.goBodyPackages,
          pkg = .http ∨
            ∃ other ∈ service.allRoutes,
              pkg ∈ other.goBodyPackages ∧ ¬ other.Hides pkg))

variable {service : Service}
variable (hService : service.IsDescribed)
include hService

/- A client is made of another client and a base path. -/
theorem IsDescribed.keepsPackages_constructor :
    KeepsPackages
      ("func New" ++ service.name ++
        "Service(client *http.Client, baseURI string) *" ++
        service.name ++ "Service \x7b\n") := by
  intro pkg _
  have hHeader :
      "func New" ++ service.name ++
          "Service(client *http.Client, baseURI string) *" ++
          service.name ++ "Service \x7b\n" =
        ("func " ++ ("New" ++ (service.name ++ "Service"))) ++
          ("(" ++
            (("client " ++ "*http.Client") ++
              ("," ++
                (" " ++
                  (("baseURI " ++ "string") ++
                    (")" ++
                      (" " ++
                        ("*" ++
                          (service.name ++
                            "Service \x7b\n"))))))))) := by
    apply String.toList_inj.mp
    simp
  have hName := hService.name.isPiece
  rw [hHeader, declares_open_iff, declares_comma_iff,
    declares_blank_iff, declares_close_iff, declares_blank_iff]
  simp only [not_or]
  refine ⟨?_, ?_, ?_, ?_⟩
  all_goals
    refine
      pkg.not_declares_append ?_ (by decide) (by decide +kernel)
    simp (disch := rw [isPiece_ofList]; decide) only
      [isPiece_append, isPiece_eq_true, hName, and_self]

/- No function in front of the methods hides a package. -/
theorem IsDescribed.allKeep_goClientOpening :
    AllKeep
      (service.goHeader ++ ")\n" :: service.goClientOpening) := by
  have hConstructor := hService.keepsPackages_constructor
  rw [String.append_assoc, String.append_assoc,
    String.append_assoc] at hConstructor
  unfold goHeader goClientOpening
  simp (disch := rw [startsDiffer_ofList]; decide)
    [hConstructor, keepsPackages_of_startsDiffer,
      keepsPackages_append_of_startsDiffer, String.append_assoc]

/- Where a package is seen, methods that hide it are empty. -/
theorem IsDescribed.visible_goClient (pkg : StdPackage) :
    visible pkg.name (rest service.goClientLines) =
      (service.goHeader ++ ")\n" :: service.goClientOpening) ++
        functions Route.goCallComment
          (Route.goCallSignature service.name)
          (fun route =>
            if decide (route.Hides pkg) then []
            else route.goCallBody)
          service.allRoutes := by
  have hComment (route : Route) :
      ¬ Starts "func " route.goCallComment := by
    unfold Route.goCallComment
    simp (disch := rw [startsDiffer_ofList]; decide) only
      [String.append_assoc, StartsDiffer.not_starts_append,
        not_false_eq_true]
  have hHeader (route : Route) :
      Starts "func " (route.goCallSignature service.name) := by
    have hWord : Starts "func " "func (s *" := by decide
    unfold Route.goCallSignature
    simp only [String.append_assoc]
    exact starts_append hWord _
  have hOpening := hService.allKeep_goClientOpening
  rw [rest_goClientLines,
    visible_append (fun line hLine => hOpening line hLine pkg),
    visible_functions hComment hHeader
      Route.isInner_goCallBody]
  refine congrArg _ (functions_congr ?_)
  intro route hRoute
  have hHidden :=
    (hService.routes route hRoute).declares_goCallSignature_iff
      hService.name.isPiece pkg
  simp only [hHidden, decide_eq_true_eq]

variable (hTexts : service.NamesNoPackage)
include hTexts

/- A client uses a package where a method needs and sees it. -/
theorem IsDescribed.isUsed_goClient_iff (pkg : StdPackage) :
    pkg.IsUsed service.goClientLines ↔
      pkg = .http ∨
        ∃ route ∈ service.allRoutes,
          ¬ route.Hides pkg ∧ pkg ∈ route.goBodyPackages := by
  have hSeen :=
    hService.uses_goClientRest hTexts
      (fun route => decide (route.Hides pkg))
  rw [StdPackage.IsUsed, hService.visible_goClient]
  refine (hSeen.used_iff pkg).trans ?_
  rw [mem_goSeenPackages_iff]
  simp only [decide_eq_false_iff_not]

/-
  A client imports what it uses if and only if no package is
  needed only where it is hidden.
-/
theorem IsDescribed.importsFollowUsage_goClient_iff :
    ImportsFollowUsage service.goClientLines ↔
      service.ReachesPackages := by
  have hImported := hService.importsUsed_goClient hTexts
  unfold ImportsFollowUsage
  simp only [hImported.imported, hService.isUsed_goClient_iff hTexts,
    mem_goSeenPackages_iff, true_and]
  constructor
  · intro hFollow route hRoute pkg hNeeded
    rcases (hFollow pkg).mp (.inr ⟨route, hRoute, hNeeded⟩) with
      hHttp | ⟨other, hOther, hSeen, hBoth⟩
    · exact .inl hHttp
    · exact .inr ⟨other, hOther, hBoth, hSeen⟩
  · intro hReach pkg
    constructor
    · rintro (hHttp | ⟨route, hRoute, hNeeded⟩)
      · exact .inl hHttp
      · rcases hReach route hRoute pkg hNeeded with
          hHttp | ⟨other, hOther, hBoth, hSeen⟩
        · exact .inl hHttp
        · exact .inr ⟨other, hOther, hSeen, hBoth⟩
    · rintro (hHttp | ⟨route, hRoute, -, hNeeded⟩)
      · exact .inl hHttp
      · exact .inr ⟨route, hRoute, hNeeded⟩

end Service

end RamlScaffold
