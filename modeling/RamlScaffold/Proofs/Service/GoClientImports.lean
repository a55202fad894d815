import RamlScaffold.Proofs.Service.GoServerImports
import RamlScaffold.Proofs.Template.GoClient

/-
  The imports of the built-in Go client of a service follow
  what its lines mention.

  The methods of a client are told apart from what stands in
  front of them, so some of them can be left empty.

  Main declarations:
    * `Route.goBodyPackages`, `Route.IsDescribed.uses_goCallBody`
    * `Service.rest_goClientLines`, `Service.goSeenPackages`
    * `Service.IsDescribed.uses_goClientRest`
    * `Service.IsDescribed.importsUsed_goClient`
-/

------------------------------------------------------------
-- Paths With Placeholders
------------------------------------------------------------

namespace RamlScaffold

open Go Text

/- Placeholders bring no such word into a path. -/
theorem Go.infix_of_infix_placeholders
    {word : List Char}
    (hWord : ∀ c ∈ ['%', 'v'], c ∉ word)
    (params : List (List Char))
    {path : List Char}
    (hInfix :
      word <:+:
        params.foldl
          (fun text param =>
            replaceAll (Naming.braced param) ['%', 'v'] text)
          path) :
    word <:+: path := by
  induction params generalizing path with
  | nil => exact hInfix
  | cons param params ih =>
      exact infix_of_infix_replaceAll hWord
        (List.cons_ne_nil '%' ['v']) (ih hInfix)

/- So a path mentions no package that it did not before. -/
theorem Go.mentionsNone_placeholderPath
    {path : String}
    (hPath : MentionsNone path) :
    MentionsNone (Naming.placeholderPath path) := by
  intro pkg hOccurs
  have hApart :
      ∀ c ∈ ['%', 'v'], c ∉ pkg.qualifier.toList := by
    apply Alphabet.forall_mem_of_all
    cases pkg <;> decide
  apply hPath pkg
  apply infix_of_infix_placeholders hApart
    (Naming.paramsFrom none path.toList)
  unfold StdPackage.OccursIn Occurs Naming.placeholderPath
    at hOccurs
  rw [String.toList_ofList] at hOccurs
  exact hOccurs

/- Nor do placeholders bring a line break into a path. -/
theorem Text.oneLine_placeholderPath
    {path : String}
    (hPath : OneLine path) :
    OneLine (Naming.placeholderPath path) := by
  intro hBreak
  unfold Naming.placeholderPath at hBreak
  rw [String.toList_ofList] at hBreak
  rcases List.append_of_mem hBreak with ⟨before, after, hCut⟩
  have hInfix :
      ['\n'] <:+:
        Naming.replaceParams (fun _ => ['%', 'v'])
          path.toList := by
    rw [hCut]
    exact ⟨before, after, by simp⟩
  have hPathBreak :=
    infix_of_infix_placeholders
      (Alphabet.forall_mem_of_all (by decide))
      (Naming.paramsFrom none path.toList) hInfix
  exact hPath (hPathBreak.subset List.mem_cons_self)

end RamlScaffold

------------------------------------------------------------
-- Parameters
------------------------------------------------------------

namespace RamlScaffold

open Go Text

/- A text that ends neither a line nor a qualifier. -/
def Go.IsInline (text : String) : Prop :=
  '\n' ∉ text.toList ∧ '.' ∉ text.toList

instance (text : String) : Decidable (IsInline text) :=
  inferInstanceAs
    (Decidable ('\n' ∉ text.toList ∧ '.' ∉ text.toList))

theorem Go.IsInline.oneLine
    {text : String}
    (hText : IsInline text) :
    OneLine text :=
  hText.1

theorem Go.IsInline.mentionsNone
    {text : String}
    (hText : IsInline text) :
    MentionsNone text :=
  mentionsNone_of_not_mem hText.2

theorem Go.IsInline.append
    {first second : String}
    (hFirst : IsInline first)
    (hSecond : IsInline second) :
    IsInline (first ++ second) := by
  simp [IsInline, hFirst.1, hFirst.2, hSecond.1, hSecond.2]

theorem Go.isInline_join
    {texts : List String}
    (hTexts : ∀ text ∈ texts, IsInline text) :
    IsInline (String.join texts) :=
  ⟨not_mem_join (fun text hText => (hTexts text hText).1),
    not_mem_join (fun text hText => (hTexts text hText).2)⟩

theorem Naming.MarkFree.isInline
    {text : String}
    (hText : Naming.MarkFree text) :
    IsInline text :=
  ⟨hText '\n' (by decide), hText '.' (by decide)⟩

namespace Route

/- What is put into a path is made of names. -/
theorem isInline_goArguments (route : Route) :
    IsInline route.goArguments := by
  have hComma : IsInline ", " := by decide
  apply isInline_join
  intro text hText
  rcases List.mem_map.mp hText with ⟨param, -, rfl⟩
  exact hComma.append (Naming.markFree_lowerCamel param).isInline

variable {route : Route} (hRoute : route.IsDescribed)
include hRoute

theorem IsDescribed.isInline_goParameters :
    IsInline route.goParameters := by
  have hString : IsInline " string, " := by decide
  have hBody : IsInline "body " := by decide
  have hComma : IsInline ", " := by decide
  apply IsInline.append
  · apply isInline_join
    intro text hText
    rcases List.mem_map.mp hText with ⟨param, -, rfl⟩
    exact
      (Naming.markFree_lowerCamel param).isInline.append hString
  · cases hRequest : route.requestBody with
    | none => decide
    | some body =>
        have hName := (hRoute.markFree_request hRequest).isInline
        exact (hBody.append hName).append hComma

theorem IsDescribed.isInline_goResult :
    IsInline (route.responseBody.elim "" (· ++ ", ")) := by
  have hComma : IsInline ", " := by decide
  cases hResponse : route.responseBody with
  | none => decide
  | some body =>
      exact
        (hRoute.markFree_response hResponse).isInline.append hComma

end Route

end RamlScaffold

------------------------------------------------------------
-- Methods
------------------------------------------------------------

namespace RamlScaffold

open Go Text

namespace Route

/- What a client needs to make the request of a route. -/
def goRequestPackages (route : Route) : List StdPackage :=
  route.requestBody.elim [.http]
    (fun _ => [.json] ++ [.http, .bytes])

/- What a client needs to read the response of a route. -/
def goReturnPackages (route : Route) : List StdPackage :=
  route.responseBody.elim [] (fun _ => [.json])

/- What a client needs inside of its method for a route. -/
def goBodyPackages (route : Route) : List StdPackage :=
  [.fmt] ++ route.goRequestPackages ++ route.goReturnPackages

theorem mem_goBodyPackages_iff
    (route : Route)
    (pkg : StdPackage) :
    pkg ∈ route.goBodyPackages ↔
      pkg = .http ∨ pkg = .fmt ∨
        pkg = .bytes ∧ route.requestBody.isSome = true ∨
        pkg = .json ∧
          (route.requestBody.isSome = true ∨
            route.responseBody.isSome = true) := by
  unfold goBodyPackages goRequestPackages goReturnPackages
  cases route.requestBody <;> cases route.responseBody <;>
    cases pkg <;> simp

theorem allMention_goFailureLines (route : Route) :
    AllMention [] route.goFailureLines := by
  unfold goFailureLines
  cases route.responseBody <;>
    simp (disch := first
        | rw [mentionsOnly_ofList]; decide +kernel
        | rw [endsOutside_ofList]; decide
        | rw [startsOutside_ofList]; decide)
      [mentionsOnly_eq_true]

theorem allMention_goSendLines (route : Route) :
    AllMention [] route.goSendLines := by
  unfold goSendLines
  simp (disch := rw [mentionsOnly_ofList]; decide)
    [route.allMention_goFailureLines, mentionsOnly_eq_true]

theorem uses_goRequestLines (route : Route) :
    Uses route.goRequestLines route.goRequestPackages := by
  have hHttp :
      StdPackage.http.IsUsedIn
        "\treq, err := http.NewRequest(\"" :=
    StdPackage.isUsedIn_ofList ' ' 'N' (by decide)
  have hVerb := route.verb.mentionsNone_wireName.mentionsOnly
  unfold goRequestLines goRequestPackages
  cases route.requestBody with
  | none =>
      apply Uses.of_line
      · simpa using (hHttp.append_right _).append_right _
      · simp (disch := first
            | rw [mentionsOnly_ofList]; decide +kernel
            | rw [endsOutside_ofList]; decide
            | rw [startsOutside_ofList]; decide)
          [hVerb, mentionsOnly_eq_true, String.append_assoc]
  | some body =>
      have hJson :
          StdPackage.json.IsUsedIn
            "\tpayload, err := json.Marshal(&body)\n" :=
        StdPackage.isUsedIn_ofList ' ' 'M' (by decide)
      have hBytes :
          StdPackage.bytes.IsUsedIn
            "\", url, bytes.NewReader(payload))\n" :=
        StdPackage.isUsedIn_ofList ' ' 'N' (by decide)
      have hPayload :
          Uses ["\tpayload, err := json.Marshal(&body)\n"]
            [.json] := by
        apply Uses.of_line
        · simpa using hJson
        · rw [mentionsOnly_ofList]
          decide
      have hRequest :
          Uses
            ["\treq, err := http.NewRequest(\"" ++
              route.verb.wireName ++
              "\", url, bytes.NewReader(payload))\n"]
            [.http, .bytes] := by
        apply Uses.of_line
        · have hFirst :=
            (hHttp.append_right route.verb.wireName).append_right
              "\", url, bytes.NewReader(payload))\n"
          have hLast :=
            hBytes.append_left
              ("\treq, err := http.NewRequest(\"" ++
                route.verb.wireName)
          simp [hFirst, hLast]
        · simp (disch := first
              | rw [mentionsOnly_ofList]; decide +kernel
              | rw [endsOutside_ofList]; decide
              | rw [startsOutside_ofList]; decide)
            [hVerb, mentionsOnly_eq_true, String.append_assoc]
      exact
        (hPayload.append_plain
          route.allMention_goFailureLines).append hRequest

theorem uses_goReturnLines (route : Route) :
    Uses route.goReturnLines route.goReturnPackages := by
  unfold goReturnLines goReturnPackages
  cases route.responseBody with
  | none =>
      apply Uses.of_allMention_nil
      simp (disch := rw [mentionsOnly_ofList]; decide)
        [mentionsOnly_eq_true]
  | some body =>
      have hJson :
          StdPackage.json.IsUsedIn
            "\terr = json.NewDecoder(resp.Body).Decode(&respBody)\n" :=
        StdPackage.isUsedIn_ofList ' ' 'N' (by decide)
      constructor
      · simp [hJson]
      · simp (disch := rw [mentionsOnly_ofList]; decide)
          [mentionsOnly_eq_true]

variable {route : Route}
variable (hRoute : route.IsDescribed)
include hRoute

/- A comment and a header use what requests are made with. -/
theorem IsDescribed.uses_goCallHeader
    (hEndpoint : MentionsNone route.endpoint)
    {name : String}
    (hName : MentionsNone name) :
    Uses [route.goCallComment, route.goCallSignature name]
      [.http] := by
  have hHandler := hRoute.handler.mentionsNone.mentionsOnly
  have hVerb := route.verb.mentionsNone_wireName.mentionsOnly
  have hParameters := hRoute.isInline_goParameters.mentionsNone
  have hResult := hRoute.isInline_goResult.mentionsNone
  have hHttp :
      StdPackage.http.IsUsedIn
        "*http.Response, error) \x7b\n" :=
    StdPackage.isUsedIn_ofList '*' 'R' (by decide)
  constructor
  · intro pkg hPkg
    rw [List.mem_singleton.mp hPkg]
    exact ⟨_, .tail _ (.head _), hHttp.append_left _⟩
  · unfold goCallComment goCallSignature
    simp (disch := first
        | rw [mentionsOnly_ofList]; decide +kernel
        | rw [endsOutside_ofList]; decide
        | rw [startsOutside_ofList]; decide)
      [hHandler, hVerb, hEndpoint.mentionsOnly,
        hName.mentionsOnly, hParameters.mentionsOnly,
        hResult.mentionsOnly, mentionsOnly_eq_true,
        String.append_assoc]

theorem IsDescribed.uses_goCallBody
    (hEndpoint : MentionsNone route.endpoint) :
    Uses route.goCallBody route.goBodyPackages := by
  have hVariable :
      AllMention []
        (route.responseBody.toList.map
          (fun body => "\tvar respBody " ++ body ++ "\n")) := by
    apply allMention_map
    intro body hBody
    have hBody :=
      (hRoute.markFree_response
        (Option.mem_toList.mp hBody)).mentionsNone
    simp (disch := first
        | rw [mentionsOnly_ofList]; decide +kernel
        | rw [endsOutside_ofList]; decide
        | rw [startsOutside_ofList]; decide)
      [hBody.mentionsOnly, mentionsOnly_eq_true,
        String.append_assoc]
  have hUrl : Uses [route.goUrlLine] [.fmt] := by
    have hFmt :
        StdPackage.fmt.IsUsedIn
          "\turl := s.baseURI + fmt.Sprintf(\"" :=
      StdPackage.isUsedIn_ofList ' ' 'S' (by decide)
    have hPath := mentionsNone_placeholderPath hEndpoint
    have hArguments := route.isInline_goArguments.mentionsNone
    constructor
    · intro pkg hPkg
      rw [List.mem_singleton.mp hPkg]
      exact
        ⟨_, .head _,
          (((hFmt.append_right _).append_right _).append_right
            _).append_right _⟩
    · unfold goUrlLine
      simp (disch := first
          | rw [mentionsOnly_ofList]; decide +kernel
          | rw [endsOutside_ofList]; decide
          | rw [startsOutside_ofList]; decide)
        [hPath.mentionsOnly, hArguments.mentionsOnly,
          mentionsOnly_eq_true, String.append_assoc]
  exact
    (((Uses.plain_append hVariable hUrl).append
      route.uses_goRequestLines).append_plain
        route.allMention_goSendLines).append
          route.uses_goReturnLines

end Route

end RamlScaffold

------------------------------------------------------------
-- Clients
------------------------------------------------------------

namespace RamlScaffold

open Go Text

namespace Service

variable {service : Service}

/- The methods of a client are functions with bodies. -/
theorem goClientBody_eq (service : Service) :
    service.goClientBody =
      service.goClientOpening ++
        functions Route.goCallComment
          (Route.goCallSignature service.name) Route.goCallBody
          service.allRoutes :=
  rfl

/- The block of imports is closed behind what it lists. -/
theorem goClientLines_eq (service : Service) :
    service.goClientLines =
      service.goHeader ++
        ("import (\n" :: service.goClientBlock ++
          ")\n" :: service.goClientBody) := by
  simp [goClientLines, goClientImports]

theorem ne_closing_of_mem_goClientBlock (service : Service) :
    ∀ line ∈ service.goClientBlock, line ≠ ")\n" := by
  simp +decide [goClientBlock, or_imp, forall_and]

theorem rest_goClientLines (service : Service) :
    rest service.goClientLines =
      (service.goHeader ++ ")\n" :: service.goClientOpening) ++
        functions Route.goCallComment
          (Route.goCallSignature service.name) Route.goCallBody
          service.allRoutes := by
  rw [goClientLines_eq,
    rest_append service.ne_opening_of_mem_goHeader
      service.ne_closing_of_mem_goClientBlock,
    goClientBody_eq, ← List.cons_append, ← List.append_assoc]

/-
  What a client needs whose methods do not see the packages
  that their parameters hide.
-/
def goSeenPackages
    (hides : Route → Bool)
    (service : Service) : List StdPackage :=
  [.http] ++
    service.allRoutes.flatMap
      (fun route =>
        [.http] ++
          if hides route then [] else route.goBodyPackages)

theorem mem_goSeenPackages_iff
    (hides : Route → Bool)
    (service : Service)
    (pkg : StdPackage) :
    pkg ∈ service.goSeenPackages hides ↔
      pkg = .http ∨
        ∃ route ∈ service.allRoutes,
          hides route = false ∧ pkg ∈ route.goBodyPackages := by
  have hRoute (route : Route) :
      (pkg ∈ [.http] ++
          if hides route then [] else route.goBodyPackages) ↔
        pkg = .http ∨
          hides route = false ∧ pkg ∈ route.goBodyPackages := by
    cases hides route <;> simp
  unfold goSeenPackages
  simp only [List.mem_append, List.mem_flatMap, hRoute,
    List.mem_singleton]
  constructor
  · rintro (hHttp | ⟨route, hMem, hHttp | hNeeded⟩)
    · exact .inl hHttp
    · exact .inl hHttp
    · exact .inr ⟨route, hMem, hNeeded⟩
  · rintro (hHttp | ⟨route, hMem, hNeeded⟩)
    · exact .inl hHttp
    · exact .inr ⟨route, hMem, .inr hNeeded⟩

variable (hService : service.IsDescribed)
variable (hTexts : service.NamesNoPackage)
include hService hTexts

/- A client names the package of requests without a route. -/
theorem IsDescribed.uses_goClientRest (hides : Route → Bool) :
    Uses
      ((service.goHeader ++ ")\n" :: service.goClientOpening) ++
        functions Route.goCallComment
          (Route.goCallSignature service.name)
          (fun route =>
            if hides route then [] else route.goCallBody)
          service.allRoutes)
      (service.goSeenPackages hides) := by
  have hName := hService.name.mentionsNone
  have hMembers :
      Uses
        (functions Route.goCallComment
          (Route.goCallSignature service.name)
          (fun route =>
            if hides route then [] else route.goCallBody)
          service.allRoutes)
        (service.allRoutes.flatMap
          (fun route =>
            [.http] ++
              if hides route then [] else route.goBodyPackages)) := by
    apply Uses.flatMap
    intro route hRoute
    have hDescribed := hService.routes route hRoute
    have hEndpoint := hTexts.endpoints route hRoute
    have hHeader := hDescribed.uses_goCallHeader hEndpoint hName
    have hClosing : AllMention [] ["\x7d\n", "\n"] := by
      simp (disch := rw [mentionsOnly_ofList]; decide)
        [mentionsOnly_eq_true]
    have hBody :
        Uses (if hides route then [] else route.goCallBody)
          (if hides route then [] else route.goBodyPackages) := by
      cases hides route with
      | true => exact Uses.of_allMention_nil (allMention_nil [])
      | false => exact hDescribed.uses_goCallBody hEndpoint
    exact (hHeader.append hBody).append_plain hClosing
  have hHttp :
      StdPackage.http.IsUsedIn "\tclient  *http.Client\n" :=
    StdPackage.isUsedIn_ofList '*' 'C' (by decide)
  have hOpening : Uses service.goClientOpening [.http] := by
    constructor
    · intro pkg hPkg
      rw [List.mem_singleton.mp hPkg]
      exact ⟨_, .tail _ (.tail _ (.tail _ (.head _))), hHttp⟩
    · unfold goClientOpening
      simp (disch := first
          | rw [mentionsOnly_ofList]; decide +kernel
          | rw [endsOutside_ofList]; decide
          | rw [startsOutside_ofList]; decide)
        [hName.mentionsOnly, hTexts.endpoint.mentionsOnly,
          mentionsOnly_eq_true, String.append_assoc]
  exact
    (Uses.plain_append hTexts.allMention_goHeader
      (Uses.plain_append allMention_closing hOpening)).append
        hMembers

/- A client imports exactly what it and its methods need. -/
theorem IsDescribed.importsUsed_goClient :
    ImportsUsed service.goClientLines
      (service.goSeenPackages (fun _ => false)) := by
  have hUses :=
    hService.uses_goClientRest hTexts (fun _ => false)
  rw [goClientLines_eq]
  apply importsUsed_of_block service.ne_opening_of_mem_goHeader
    service.ne_closing_of_mem_goClientBlock
  · rw [goClientBody_eq, ← List.cons_append, ← List.append_assoc]
    exact hUses
  · intro pkg
    rw [mem_goSeenPackages_iff]
    cases pkg with
    | bytes =>
        simp +decide [goClientBlock, StdPackage.path, hasRequests,
          Route.mem_goBodyPackages_iff]
    | json =>
        simp +decide [goClientBlock, StdPackage.path,
          hasBodies_iff, Route.mem_goBodyPackages_iff]
    | fmt =>
        simp +decide [goClientBlock, StdPackage.path,
          hasRoutes_iff, Route.mem_goBodyPackages_iff]
    | http => simp +decide [goClientBlock, StdPackage.path]

end Service

end RamlScaffold
