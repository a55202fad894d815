import RamlScaffold.Proofs.Template.GoService

/-
  The lines of the built-in Go client of a service.

  It can be rendered for every service whose bodies have
  names.  What a method does with its bodies is taken group by
  group.

  Main declarations:
    * `Route.goCallBody`, `Route.goCallLines`
    * `Service.goClientImports`, `Service.goClientLines`
    * `Template.Builtin.render_goClient`
-/

------------------------------------------------------------
-- Lines Of A Method
------------------------------------------------------------

namespace RamlScaffold

namespace Route

/- The parameters of a method that are those of its route. -/
def goParameters (route : Route) : String :=
  String.join
      (route.pathParams.map
        (fun param => Naming.lowerCamel param ++ " string, ")) ++
    route.requestBody.elim ""
      (fun body => "body " ++ body ++ ", ")

/- The method of a client for a route. -/
def goCallSignature (name : String) (route : Route) : String :=
  "func (s *" ++ name ++ "Service) " ++ route.handlerName ++
    "(" ++ route.goParameters ++
    "headers map[string]string) (" ++
    route.responseBody.elim "" (· ++ ", ") ++
    "*http.Response, error) \x7b\n"

/- What is put into a path. -/
def goArguments (route : Route) : String :=
  String.join
    (route.pathParams.map
      (fun param => ", " ++ Naming.lowerCamel param))

/- The line that puts parameters into a path. -/
def goUrlLine (route : Route) : String :=
  "\turl := s.baseURI + fmt.Sprintf(\"" ++
    Naming.placeholderPath route.endpoint ++ "\"" ++
    route.goArguments ++ ")\n"

/- The lines that end a method early. -/
def goFailureLines (route : Route) : List String :=
  [
    "\tif err != nil \x7b\n",
    "\t\treturn " ++
      route.responseBody.elim "" (fun _ => "respBody, ") ++
      "nil, err\n",
    "\t\x7d\n"]

/- The lines that make a request, with a body or without. -/
def goRequestLines (route : Route) : List String :=
  route.requestBody.elim
    [
      "\treq, err := http.NewRequest(\"" ++
        route.verb.wireName ++ "\", url, nil)\n"]
    (fun _ =>
      ["\tpayload, err := json.Marshal(&body)\n"] ++
      route.goFailureLines ++
      [
        "\treq, err := http.NewRequest(\"" ++
          route.verb.wireName ++
          "\", url, bytes.NewReader(payload))\n"])

/- The lines that send a request. -/
def goSendLines (route : Route) : List String :=
  route.goFailureLines ++
  [
    "\tfor k, v := range headers \x7b\n",
    "\t\treq.Header.Set(k, v)\n",
    "\t\x7d\n",
    "\tresp, err := s.client.Do(req)\n"] ++
  route.goFailureLines ++
  ["\tdefer resp.Body.Close()\n"]

/- The lines that return what was received. -/
def goReturnLines (route : Route) : List String :=
  route.responseBody.elim
    ["\treturn resp, nil\n"]
    (fun _ =>
      [
        "\terr = json.NewDecoder(resp.Body).Decode(&respBody)\n",
        "\treturn respBody, resp, err\n"])

/- The lines inside of a method for a route. -/
def goCallBody (route : Route) : List String :=
  route.responseBody.toList.map
    (fun body => "\tvar respBody " ++ body ++ "\n") ++
  [route.goUrlLine] ++
  route.goRequestLines ++
  route.goSendLines ++
  route.goReturnLines

/- The comment on the method for a route. -/
def goCallComment (route : Route) : String :=
  "// " ++ route.handlerName ++ " calls " ++
    route.verb.wireName ++ " " ++ route.endpoint ++ "\n"

/- The lines of a client for a route. -/
def goCallLines (name : String) (route : Route) : List String :=
  [route.goCallComment, route.goCallSignature name] ++
  route.goCallBody ++
  ["\x7d\n", "\n"]

end Route

end RamlScaffold

------------------------------------------------------------
-- Lines Of A Client
------------------------------------------------------------

namespace RamlScaffold.Service

/- The packages that a client imports. -/
def goClientBlock (service : Service) : List String :=
  onlyIf service.hasRequests ["\t\"bytes\"\n"] ++
  onlyIf (service.hasRequests || service.hasResponses)
    ["\t\"encoding/json\"\n"] ++
  onlyIf service.hasRoutes ["\t\"fmt\"\n"] ++
  ["\t\"net/http\"\n"]

/- The imports of a client. -/
def goClientImports (service : Service) : List String :=
  ["import (\n"] ++ service.goClientBlock ++ [")\n"]

/- What stands between the imports of a client and its methods. -/
def goClientOpening (service : Service) : List String :=
  [
    "\n",
    "// " ++ service.name ++ "Service is the client of the " ++
      service.endpoint ++ " root endpoint\n",
    "type " ++ service.name ++ "Service struct \x7b\n",
    "\tclient  *http.Client\n",
    "\tbaseURI string\n",
    "\x7d\n",
    "\n",
    "// New" ++ service.name ++
      "Service creates a client for the " ++
      service.endpoint ++ " root endpoint\n",
    "func New" ++ service.name ++
      "Service(client *http.Client, baseURI string) *" ++
      service.name ++ "Service \x7b\n",
    "\treturn &" ++ service.name ++
      "Service\x7bclient: client, baseURI: baseURI\x7d\n",
    "\x7d\n",
    "\n"]

/- What stands behind the imports of a client. -/
def goClientBody (service : Service) : List String :=
  service.goClientOpening ++
  service.allRoutes.flatMap (Route.goCallLines service.name)

/- The lines of the client of a service. -/
def goClientLines (service : Service) : List String :=
  service.goHeader ++ service.goClientImports ++
    service.goClientBody

end RamlScaffold.Service

------------------------------------------------------------
-- Rendering A Method
------------------------------------------------------------

namespace RamlScaffold.Template.Builtin

section

variable {route : Route} (hBodies : route.NamesBodies)
variable (scope : Scope)
include hBodies

/- The early return names the response body if there is one. -/
theorem renderPart_goFailure :
    renderPart (("m", route.context) :: scope)
        (.branch (of "m" "resp_body")
          [.text "respBody, "] []) =
      .ok
        (route.responseBody.elim "" (fun _ => "respBody, ")) := by
  apply renderPart_response hBodies rfl
  · intro body hBody
    rfl
  · rfl

theorem renderPart_goRequest :
    renderPart (("m", route.context) :: scope)
        (.branch (of "m" "req_body")
          [
            .text "\tpayload, err := json.Marshal(&body)\n",
            .text "\tif err != nil \x7b\n",
            .text "\t\treturn ",
            .branch (of "m" "resp_body")
              [.text "respBody, "]
              [],
            .text "nil, err\n",
            .text "\t\x7d\n",
            .text "\treq, err := http.NewRequest(\"",
            putOf "m" "verb",
            .text "\", url, bytes.NewReader(payload))\n"]
          [
            .text "\treq, err := http.NewRequest(\"",
            putOf "m" "verb",
            .text "\", url, nil)\n"]) =
      .ok (String.join route.goRequestLines) := by
  have hFailure := renderPart_goFailure hBodies scope
  rw [Route.goRequestLines, join_elim]
  apply renderPart_request hBodies rfl
  · intro body hBody
    simp [renderParts_cons_of_ok hFailure, Route.goFailureLines,
      String.append_assoc]
  · simp [String.append_assoc]

theorem renderPart_goReturn :
    renderPart (("m", route.context) :: scope)
        (.branch (of "m" "resp_body")
          [
            .text "\terr = ",
            .text "json.NewDecoder(resp.Body).Decode(&respB",
            .text "ody)\n",
            .text "\treturn respBody, resp, err\n"]
          [.text "\treturn resp, nil\n"]) =
      .ok (String.join route.goReturnLines) := by
  rw [Route.goReturnLines, join_elim]
  apply renderPart_response hBodies rfl
  · intro body hBody
    simp
  · simp

end

end RamlScaffold.Template.Builtin

------------------------------------------------------------
-- Rendering A Client
------------------------------------------------------------

namespace RamlScaffold.Template.Builtin

/- The client of a service, line by line. -/
theorem render_goClient
    {service : Service}
    (hBodies : ∀ route ∈ service.allRoutes, route.NamesBodies) :
    render goClient service.context =
      .ok (String.join service.goClientLines) := by
  have hBytes :
      renderPart (scopeOf service.context)
          (.branch (.ref "uses_req_json")
            [.text "\t\"bytes\"\n"]
            []) =
        .ok
          (if service.hasRequests then "\t\"bytes\"\n"
          else "") :=
    renderPart_requests rfl rfl
  have hCodec :
      renderPart (scopeOf service.context)
          (.branch
            (.either (.ref "uses_req_json")
              (.ref "uses_resp_json"))
            [.text "\t\"encoding/json\"\n"]
            []) =
        .ok
          (if service.hasRequests || service.hasResponses then
            "\t\"encoding/json\"\n"
          else "") :=
    renderPart_bodies rfl rfl
  have hFormat :
      renderPart (scopeOf service.context)
          (.branch (.ref "routes") [.text "\t\"fmt\"\n"] []) =
        .ok
          (if service.hasRoutes then "\t\"fmt\"\n" else "") :=
    renderPart_routes rfl rfl
  unfold render goClient
  simp only [renderParts_text, renderParts_put, value_package,
    value_name, value_endpoint, render_text,
    renderParts_cons_of_ok hBytes,
    renderParts_cons_of_ok hCodec,
    renderParts_cons_of_ok hFormat]
  rw [renderParts_eachRoute
    (fun route => String.join (route.goCallLines service.name))]
  · simp [Service.goClientLines, Service.goHeader,
      Service.goClientImports, Service.goClientBlock,
      Service.goClientBody, Service.goClientOpening,
      join_onlyIf, join_flatMap, String.append_assoc]
  · intro route hRoute state
    have hNames := hBodies route hRoute
    have hParameters :
        renderPart
            (("m", route.context) :: ("loop", state) ::
              scopeOf service.context)
            (.each ["p"] (of "m" "path_params")
              [putAs "p" "lower_camel", .text " string, "]
              []) =
          .ok
            (String.join
              (route.pathParams.map
                (fun param =>
                  Naming.lowerCamel param ++ " string, "))) := by
      apply renderPart_each rfl
      intro param _ inner
      simp
    have hArguments :
        renderPart
            (("m", route.context) :: ("loop", state) ::
              scopeOf service.context)
            (.each ["p"] (of "m" "path_params")
              [.text ", ", putAs "p" "lower_camel"]
              []) =
          .ok
            (String.join
              (route.pathParams.map
                (fun param =>
                  ", " ++ Naming.lowerCamel param))) := by
      apply renderPart_each rfl
      intro param _ inner
      simp
    have hBody :
        renderPart
            (("m", route.context) :: ("loop", state) ::
              scopeOf service.context)
            (.branch (of "m" "req_body")
              [.text "body ", putOf "m" "req_body", .text ", "]
              []) =
          .ok
            (route.requestBody.elim ""
              (fun body => "body " ++ body ++ ", ")) := by
      apply renderPart_request hNames rfl
      · intro body hBody
        simp [hBody, Value.optional, String.append_assoc]
      · rfl
    have hResult :
        renderPart
            (("m", route.context) :: ("loop", state) ::
              scopeOf service.context)
            (.branch (of "m" "resp_body")
              [putOf "m" "resp_body", .text ", "]
              []) =
          .ok (route.responseBody.elim "" (· ++ ", ")) := by
      apply renderPart_response hNames rfl
      · intro body hBody
        simp [hBody, Value.optional]
      · rfl
    have hVariable :
        renderPart
            (("m", route.context) :: ("loop", state) ::
              scopeOf service.context)
            (.branch (of "m" "resp_body")
              [
                .text "\tvar respBody ",
                putOf "m" "resp_body",
                .text "\n"]
              []) =
          .ok
            (route.responseBody.elim ""
              (fun body => "\tvar respBody " ++ body ++ "\n")) := by
      apply renderPart_response hNames rfl
      · intro body hBody
        simp [hBody, Value.optional, String.append_assoc]
      · rfl
    have hFailure := renderPart_goFailure hNames
      (("loop", state) :: scopeOf service.context)
    have hRequest := renderPart_goRequest hNames
      (("loop", state) :: scopeOf service.context)
    have hReturn := renderPart_goReturn hNames
      (("loop", state) :: scopeOf service.context)
    unfold Route.goCallLines Route.goCallComment
      Route.goCallSignature Route.goParameters Route.goCallBody
      Route.goUrlLine Route.goArguments
    simp [renderParts_cons_of_ok hParameters,
      renderParts_cons_of_ok hArguments,
      renderParts_cons_of_ok hBody,
      renderParts_cons_of_ok hResult,
      renderParts_cons_of_ok hVariable,
      renderParts_cons_of_ok hFailure,
      renderParts_cons_of_ok hRequest,
      renderParts_cons_of_ok hReturn, Route.goSendLines,
      Route.goFailureLines, join_toList_map,
      String.append_assoc]

end RamlScaffold.Template.Builtin
