import RamlScaffold.Proofs.Template.ServiceContext
import RamlScaffold.Template.Library

/-
  The lines of the built-in Go interface and stub of a
  service.

  Both can be rendered for every service whose bodies have
  names.  The imports stand in a block of their own.

  Main declarations:
    * `Route.goMethod`, `Route.goRegistration`
    * `Service.goInterfaceLines`
    * `Service.goStubLines`
    * `Template.Builtin.render_goInterface`
    * `Template.Builtin.render_goStub`
-/

------------------------------------------------------------
-- Conditions On Services
------------------------------------------------------------

namespace RamlScaffold

namespace Service

/- Whether a service has a route at all. -/
def hasRoutes (service : Service) : Bool :=
  !service.allRoutes.isEmpty

/- Whether a route of a service has a request body. -/
def hasRequests (service : Service) : Bool :=
  service.allRoutes.any (·.requestBody.isSome)

/- Whether a route of a service has a response body. -/
def hasResponses (service : Service) : Bool :=
  service.allRoutes.any (·.responseBody.isSome)

end Service

namespace Template

variable {service : Service} {yes no : List Part}
variable {present absent : String}

variable
  (hYes : renderParts (scopeOf service.context) yes = .ok present)
  (hNo : renderParts (scopeOf service.context) no = .ok absent)
include hYes hNo

/- A condition on there being routes. -/
theorem renderPart_routes :
    renderPart (scopeOf service.context)
        (.branch (.ref "routes") yes no) =
      .ok (if service.hasRoutes then present else absent) := by
  have hValue :
      Expr.eval (scopeOf service.context) (.ref "routes") =
        .ok (.list (service.allRoutes.map Route.context)) :=
    rfl
  apply renderPart_ifElse hValue _ hYes hNo
  simp [Value.isTrue, Service.hasRoutes]

/- A condition on there being request bodies. -/
theorem renderPart_requests :
    renderPart (scopeOf service.context)
        (.branch (.ref "uses_req_json") yes no) =
      .ok (if service.hasRequests then present else absent) := by
  have hValue :
      Expr.eval (scopeOf service.context)
          (.ref "uses_req_json") =
        .ok (.bool service.hasRequests) :=
    rfl
  exact renderPart_ifElse hValue rfl hYes hNo

/- A condition on there being bodies of either kind. -/
theorem renderPart_bodies :
    renderPart (scopeOf service.context)
        (.branch
          (.either (.ref "uses_req_json")
            (.ref "uses_resp_json"))
          yes no) =
      .ok
        (if service.hasRequests || service.hasResponses then
          present
        else absent) := by
  have hEither :
      Expr.eval (scopeOf service.context)
          (.either (.ref "uses_req_json")
            (.ref "uses_resp_json")) =
        if service.hasRequests then
          .ok (.bool service.hasRequests)
        else .ok (.bool service.hasResponses) :=
    rfl
  have hValue :
      Expr.eval (scopeOf service.context)
          (.either (.ref "uses_req_json")
            (.ref "uses_resp_json")) =
        .ok
          (.bool
            (service.hasRequests || service.hasResponses)) := by
    rw [hEither]
    cases service.hasRequests with
    | true => rfl
    | false => rfl
  exact renderPart_ifElse hValue rfl hYes hNo

end Template

end RamlScaffold

------------------------------------------------------------
-- Interfaces
------------------------------------------------------------

namespace RamlScaffold

/- The method of an interface for a route. -/
def Route.goMethod (route : Route) : String :=
  "\t" ++ route.handlerName ++
    "(http.ResponseWriter, *http.Request)\n"

/- The lines of an interface for a route. -/
def Route.goMethodLines (route : Route) : List String :=
  ["\t// " ++ route.handlerName ++ " is the handler for " ++
    route.verb.wireName ++ " " ++ route.endpoint ++ "\n"] ++
  route.description.map (fun line => "\t// " ++ line ++ "\n") ++
  [route.goMethod]

/- The line that registers the handler of a route. -/
def Route.goRegistration (route : Route) : String :=
  "\tr.HandleFunc(\"" ++ route.endpoint ++ "\", i." ++
    route.handlerName ++ ").Methods(\"" ++
    route.verb.wireName ++ "\")\n"

namespace Service

/- What stands in front of the imports of generated code. -/
def goHeader (service : Service) : List String :=
  [
    "// Code generated by ramlgen. DO NOT EDIT.\n",
    "\n",
    "package " ++ service.package ++ "\n",
    "\n"]

/- The imports of an interface. -/
def goInterfaceImports (service : Service) : List String :=
  ["import (\n"] ++
  onlyIf service.hasRoutes ["\t\"net/http\"\n", "\n"] ++
  ["\t\"github.com/gorilla/mux\"\n", ")\n"]

/- What stands behind the imports of an interface. -/
def goInterfaceBody (service : Service) : List String :=
  [
    "\n",
    "// " ++ service.name ++ "Interface is the interface of the " ++
      service.endpoint ++ " root endpoint\n"] ++
  service.description.map (fun line => "// " ++ line ++ "\n") ++
  ["type " ++ service.name ++ "Interface interface \x7b\n"] ++
  service.allRoutes.flatMap Route.goMethodLines ++
  [
    "\x7d\n",
    "\n",
    "// " ++ service.name ++
      "InterfaceRoutes registers the routes of the " ++
      service.endpoint ++ " root endpoint\n",
    "func " ++ service.name ++
      "InterfaceRoutes(r *mux.Router, i " ++ service.name ++
      "Interface) \x7b\n"] ++
  service.allRoutes.map Route.goRegistration ++
  ["\x7d\n"]

/- The lines of the interface of a service. -/
def goInterfaceLines (service : Service) : List String :=
  service.goHeader ++ service.goInterfaceImports ++
    service.goInterfaceBody

end Service

namespace Template.Builtin

/- The interface of a service, line by line. -/
theorem render_goInterface (service : Service) :
    render goInterface service.context =
      .ok (String.join service.goInterfaceLines) := by
  have hImports :
      renderPart (scopeOf service.context)
          (.branch (.ref "routes")
            [.text "\t\"net/http\"\n", .text "\n"]
            []) =
        .ok
          (if service.hasRoutes then "\t\"net/http\"\n" ++ "\n"
          else "") :=
    renderPart_routes rfl rfl
  have hDescription :
      renderPart (scopeOf service.context)
          (.each ["line"] (.ref "description")
            [.text "// ", put "line", .text "\n"] []) =
        .ok
          (String.join
            (service.description.map
              (fun line => "// " ++ line ++ "\n"))) :=
    renderPart_eachText rfl _ _ _
  unfold render goInterface
  simp only [renderParts_text, renderParts_put, value_package,
    value_name, value_endpoint, render_text,
    renderParts_cons_of_ok hImports,
    renderParts_cons_of_ok hDescription]
  rw [renderParts_eachRoute
    (fun route => String.join route.goMethodLines)]
  · simp only [renderParts_text, renderParts_put, value_name,
      value_endpoint, render_text]
    rw [renderParts_eachRoute Route.goRegistration]
    · simp [Service.goInterfaceLines, Service.goHeader,
        Service.goInterfaceImports, Service.goInterfaceBody,
        join_flatMap, join_onlyIf, String.append_assoc]
    · intro route _ state
      unfold Route.goRegistration
      simp [String.append_assoc]
  · intro route _ state
    have hLines :
        renderPart
            (("m", route.context) :: ("loop", state) ::
              scopeOf service.context)
            (.each ["line"] (of "m" "description")
              [.text "\t// ", put "line", .text "\n"] []) =
          .ok
            (String.join
              (route.description.map
                (fun line => "\t// " ++ line ++ "\n"))) :=
      renderPart_eachText rfl _ _ _
    unfold Route.goMethodLines Route.goMethod
    simp [renderParts_cons_of_ok hLines, String.append_assoc]

end Template.Builtin

end RamlScaffold

------------------------------------------------------------
-- Stubs
------------------------------------------------------------

namespace RamlScaffold

/- How the method of a stub for a handler begins. -/
def Route.goFunction (name : String) (route : Route) : String :=
  "func (api " ++ name ++ "API) " ++ route.handlerName ++
    "(w http.ResponseWriter, r *http.Request) \x7b\n"

/- The lines of a stub that read a request body. -/
def goReadLines (body : String) : List String :=
  [
    "\tvar reqBody " ++ body ++ "\n",
    "\n",
    "\tif err := json.NewDecoder(r.Body).Decode(&reqBody); " ++
      "err != nil \x7b\n",
    "\t\tw.WriteHeader(http.StatusBadRequest)\n",
    "\t\treturn\n",
    "\t\x7d\n"]

/- The lines of a stub that write a response body. -/
def goWriteLines (body : String) : List String :=
  [
    "\tvar respBody " ++ body ++ "\n",
    "\tw.Header().Set(\"Content-Type\", \"application/json\")\n",
    "\tjson.NewEncoder(w).Encode(&respBody)\n"]

/- The lines of a stub for a route. -/
def Route.goFunctionLines
    (name : String)
    (route : Route) : List String :=
  ["// " ++ route.handlerName ++ " is the handler for " ++
    route.verb.wireName ++ " " ++ route.endpoint ++ "\n",
    route.goFunction name] ++
  route.requestBody.elim [] goReadLines ++
  route.responseBody.elim
    ["\tw.WriteHeader(http.StatusNoContent)\n"]
    goWriteLines ++
  ["\x7d\n", "\n"]

namespace Service

/- The imports of a stub. -/
def goStubImports (service : Service) : List String :=
  onlyIf service.hasRoutes
    (["import (\n"] ++
      onlyIf (service.hasRequests || service.hasResponses)
        ["\t\"encoding/json\"\n"] ++
      ["\t\"net/http\"\n", ")\n"])

/- What stands behind the imports of a stub. -/
def goStubBody (service : Service) : List String :=
  [
    "\n",
    "// " ++ service.name ++ "API implements " ++
      service.name ++ "Interface for the " ++
      service.endpoint ++ " root endpoint\n",
    "type " ++ service.name ++ "API struct \x7b\n",
    "\x7d\n",
    "\n"] ++
  service.allRoutes.flatMap
    (Route.goFunctionLines service.name)

/- The lines of the stub of a service. -/
def goStubLines (service : Service) : List String :=
  ["package " ++ service.package ++ "\n", "\n"] ++
    service.goStubImports ++ service.goStubBody

end Service

namespace Template.Builtin

/- A stub reads a request body where there is one. -/
theorem renderPart_goRead
    {route : Route}
    (hBodies : route.NamesBodies)
    (scope : Scope) :
    renderPart (("m", route.context) :: scope)
        (.branch (of "m" "req_body")
          [
            .text "\tvar reqBody ",
            putOf "m" "req_body",
            .text "\n",
            .text "\n",
            .text "\tif err := ",
            .text "json.NewDecoder(r.Body).Decode(&reqBody); ",
            .text "err != nil \x7b\n",
            .text "\t\tw.WriteHeader(http.StatusBadRequest)\n",
            .text "\t\treturn\n",
            .text "\t\x7d\n"]
          []) =
      .ok
        (route.requestBody.elim ""
          (fun body => String.join (goReadLines body))) := by
  apply renderPart_request hBodies rfl
  · intro body hBody
    simp [hBody, Value.optional, goReadLines,
      String.append_assoc]
  · rfl

/- A stub writes a response body, or tells that it has none. -/
theorem renderPart_goWrite
    {route : Route}
    (hBodies : route.NamesBodies)
    (scope : Scope) :
    renderPart (("m", route.context) :: scope)
        (.branch (of "m" "resp_body")
          [
            .text "\tvar respBody ",
            putOf "m" "resp_body",
            .text "\n",
            .text "\tw.Header().Set(\"Content-Type\", ",
            .text "\"application/json\")\n",
            .text "\tjson.NewEncoder(w).Encode(&respBody)\n"]
          [.text "\tw.WriteHeader(http.StatusNoContent)\n"]) =
      .ok
        (route.responseBody.elim
          "\tw.WriteHeader(http.StatusNoContent)\n"
          (fun body => String.join (goWriteLines body))) := by
  apply renderPart_response hBodies rfl
  · intro body hBody
    simp [hBody, Value.optional, goWriteLines,
      String.append_assoc]
  · rfl

/- The stub of a service, line by line. -/
theorem render_goStub
    {service : Service}
    (hBodies : ∀ route ∈ service.allRoutes, route.NamesBodies) :
    render goStub service.context =
      .ok (String.join service.goStubLines) := by
  have hCodec :
      renderPart (scopeOf service.context)
          (.branch
            (.either (.ref "uses_req_json")
              (.ref "uses_resp_json"))
            [.text "\t\"encoding/json\"\n"]
            []) =
        .ok
          (if service.hasRequests || service.hasResponses then
            "\t\"encoding/json\"\n"
          else "") :=
    renderPart_bodies rfl rfl
  have hImports :
      renderPart (scopeOf service.context)
          (.branch (.ref "routes")
            [
              .text "import (\n",
              .branch
                (.either (.ref "uses_req_json")
                  (.ref "uses_resp_json"))
                [.text "\t\"encoding/json\"\n"]
                [],
              .text "\t\"net/http\"\n",
              .text ")\n"]
            []) =
        .ok (String.join service.goStubImports) := by
    rw [Service.goStubImports, join_onlyIf]
    refine renderPart_routes ?_ rfl
    simp [renderParts_cons_of_ok hCodec, join_onlyIf]
  unfold render goStub
  simp only [renderParts_text, renderParts_put, value_package,
    value_name, value_endpoint, render_text,
    renderParts_cons_of_ok hImports]
  rw [renderParts_eachRoute
    (fun route =>
      String.join (route.goFunctionLines service.name))]
  · simp [Service.goStubLines, Service.goStubBody,
      join_flatMap, String.append_assoc]
  · intro route hRoute state
    have hRead := renderPart_goRead (hBodies route hRoute)
      (("loop", state) :: scopeOf service.context)
    have hWrite := renderPart_goWrite (hBodies route hRoute)
      (("loop", state) :: scopeOf service.context)
    unfold Route.goFunctionLines Route.goFunction
    simp [renderParts_cons_of_ok hRead,
      renderParts_cons_of_ok hWrite, join_elim,
      String.append_assoc]

end Template.Builtin

end RamlScaffold
