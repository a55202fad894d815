import RamlScaffold.Proofs.Template.RustService

/-
  The lines of the built-in Rust client of a service.

  It can be rendered for every service whose bodies have
  names.  A client brings a trait for what sends its requests,
  and has a method for every route.

  Main declarations:
    * `Route.rustCallSignature`, `Route.rustCallLines`
    * `Service.rustClientLines`
    * `Template.Builtin.render_rustClient`
-/

------------------------------------------------------------
-- Lines Of A Method
------------------------------------------------------------

namespace RamlScaffold

namespace Route

/- The method of a client for a route. -/
def rustCallSignature (route : Route) : String :=
  "    pub fn " ++ Naming.snakeCase route.handlerName ++
    "(&self" ++
    String.join (route.pathParams.map rustParameter) ++
    route.requestBody.elim "" (", body: &" ++ ·) ++
    ") -> Result<" ++ route.responseBody.getD "()" ++
    ", Box<dyn std::error::Error + Send + Sync>> " ++ "\x7b\n"

/- The lines that make a payload of a body. -/
def rustPayloadLines (route : Route) : List String :=
  route.requestBody.elim
    ["        let payload = None;\n"]
    (fun _ =>
      [
        "        let payload = " ++
          "Some(serde_json::to_value(body)?);\n"])

/- The lines that send a request and return what comes back. -/
def rustSendLines (route : Route) : List String :=
  route.responseBody.elim
    [
      "        self.transport.send(\"" ++ route.verb.wireName ++
        "\", &url, payload)?;\n",
      "        Ok(())\n"]
    (fun _ =>
      [
        "        let value = self.transport.send(\"" ++
          route.verb.wireName ++ "\", &url, payload)?;\n",
        "        Ok(serde_json::from_value(value)?)\n"])

/- The lines of a client for a route. -/
def rustCallLines (route : Route) : List String :=
  ["\n", route.rustHeading, route.rustCallSignature] ++
  [
    "        let url = format!(\"\x7b\x7d" ++
      Naming.snakePath route.endpoint ++
      "\", self.base_uri);\n"] ++
  route.rustPayloadLines ++
  route.rustSendLines ++
  ["    \x7d\n"]

end Route

/- The lines of the client of a service. -/
def Service.rustClientLines (service : Service) : List String :=
  [
    "// Code generated by ramlgen. DO NOT EDIT.\n",
    "#![allow(unused_imports)]\n",
    "\n",
    "use super::*;\n",
    "\n",
    "/// Sends one request and returns the decoded JSON " ++
      "response (`Null` when the\n",
    "/// response has no body).\n",
    "pub trait " ++ service.name ++ "Transport \x7b\n",
    "    fn send(\n",
    "        &self,\n",
    "        method: &str,\n",
    "        url: &str,\n",
    "        body: Option<serde_json::Value>,\n",
    "    ) -> Result<serde_json::Value, Box<dyn " ++
      "std::error::Error + Send + Sync>>;\n",
    "\x7d\n",
    "\n",
    "/// Client of the `" ++ service.endpoint ++
      "` root endpoint.\n",
    "pub struct " ++ service.name ++ "Service<T: " ++
      service.name ++ "Transport> \x7b\n",
    "    transport: T,\n",
    "    base_uri: String,\n",
    "\x7d\n",
    "\n",
    "impl<T: " ++ service.name ++ "Transport> " ++
      service.name ++ "Service<T> \x7b\n",
    "    pub fn new(transport: T, base_uri: impl " ++
      "Into<String>) -> Self \x7b\n",
    "        Self \x7b\n",
    "            transport,\n",
    "            base_uri: base_uri.into(),\n",
    "        \x7d\n",
    "    \x7d\n"] ++
  service.allRoutes.flatMap Route.rustCallLines ++
  ["\x7d\n"]

end RamlScaffold

------------------------------------------------------------
-- Rendering A Client
------------------------------------------------------------

namespace RamlScaffold.Template.Builtin

section

variable {route : Route} (hBodies : route.NamesBodies)
variable (scope : Scope)
include hBodies

theorem renderPart_rustPayload :
    renderPart (("m", route.context) :: scope)
        (.branch (of "m" "req_body")
          [
            .text "        let payload = ",
            .text "Some(serde_json::to_value(body)?);\n"]
          [.text "        let payload = None;\n"]) =
      .ok (String.join route.rustPayloadLines) := by
  rw [Route.rustPayloadLines, join_elim]
  apply renderPart_request hBodies rfl
  · intro body hBody
    simp
  · simp

theorem renderPart_rustSend :
    renderPart (("m", route.context) :: scope)
        (.branch (of "m" "resp_body")
          [
            .text "        let value = self.transport.send(\"",
            putOf "m" "verb",
            .text "\", &url, payload)?;\n",
            .text "        Ok(serde_json::from_value(value)?)\n"]
          [
            .text "        self.transport.send(\"",
            putOf "m" "verb",
            .text "\", &url, payload)?;\n",
            .text "        Ok(())\n"]) =
      .ok (String.join route.rustSendLines) := by
  rw [Route.rustSendLines, join_elim]
  apply renderPart_response hBodies rfl
  · intro body hBody
    simp [String.append_assoc]
  · simp [String.append_assoc]

/- A result without a body is a unit. -/
theorem renderPart_rustResult :
    renderPart (("m", route.context) :: scope)
        (.branch (of "m" "resp_body")
          [putOf "m" "resp_body"]
          [.text "()"]) =
      .ok (route.responseBody.getD "()") := by
  have hElim :
      route.responseBody.getD "()" =
        route.responseBody.elim "()" id := by
    cases route.responseBody <;> rfl
  rw [hElim]
  apply renderPart_response hBodies rfl
  · intro body hBody
    simp [hBody, Value.optional]
  · simp

end

/- The client of a service, line by line. -/
theorem render_rustClient
    {service : Service}
    (hBodies : ∀ route ∈ service.allRoutes, route.NamesBodies) :
    render rustClient service.context =
      .ok (String.join service.rustClientLines) := by
  unfold render rustClient
  simp only [renderParts_text, renderParts_put, value_name,
    value_endpoint, render_text]
  rw [renderParts_eachRoute
    (fun route => String.join route.rustCallLines)]
  · simp [Service.rustClientLines, join_flatMap,
      String.append_assoc, -String.reduceAppend]
  · intro route hRoute state
    have hNames := hBodies route hRoute
    have hParameters :=
      renderPart_rustParameters route
        (("loop", state) :: scopeOf service.context)
    have hRequest :
        renderPart
            (("m", route.context) :: ("loop", state) ::
              scopeOf service.context)
            (.branch (of "m" "req_body")
              [.text ", body: &", putOf "m" "req_body"] []) =
          .ok (route.requestBody.elim "" (", body: &" ++ ·)) := by
      apply renderPart_request hNames rfl
      · intro body hBody
        simp [hBody, Value.optional]
      · rfl
    have hResult :=
      renderPart_rustResult hNames
        (("loop", state) :: scopeOf service.context)
    have hPayload :=
      renderPart_rustPayload hNames
        (("loop", state) :: scopeOf service.context)
    have hSend :=
      renderPart_rustSend hNames
        (("loop", state) :: scopeOf service.context)
    unfold Route.rustCallLines Route.rustCallSignature
      Route.rustHeading
    simp [renderParts_cons_of_ok hParameters,
      renderParts_cons_of_ok hRequest,
      renderParts_cons_of_ok hResult,
      renderParts_cons_of_ok hPayload,
      renderParts_cons_of_ok hSend, String.append_assoc,
      -String.reduceAppend]

end RamlScaffold.Template.Builtin
