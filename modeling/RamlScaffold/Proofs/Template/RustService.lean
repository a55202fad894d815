import RamlScaffold.Proofs.Template.ServiceContext
import RamlScaffold.Template.Library

/-
  The lines of the built-in Rust trait and stub of a service.

  Both can be rendered for every service whose bodies have
  names.  The signature of a handler is one text, which stands
  in the trait and in the stub alike.

  Main declarations:
    * `Route.rustSignature`, `Route.rustEntry`
    * `Service.rustTraitLines`, `Service.rustStubLines`
    * `Template.Builtin.render_rustInterface`
    * `Template.Builtin.render_rustStub`
-/

------------------------------------------------------------
-- Signatures
------------------------------------------------------------

namespace RamlScaffold

namespace Route

/- The parameter of a handler for a parameter of its path. -/
def rustParameter (param : String) : String :=
  ", " ++ Naming.snakeCase param ++ ": &str"

/- Name, parameters, body and result of a handler. -/
def rustSignature (route : Route) : String :=
  Naming.snakeCase route.handlerName ++ "(&self" ++
    String.join (route.pathParams.map rustParameter) ++
    route.requestBody.elim "" (", body: " ++ ·) ++ ")" ++
    route.responseBody.elim "" (" -> " ++ ·)

/- The line that tells the verb and the path of a route. -/
def rustHeading (route : Route) : String :=
  "    /// " ++ route.verb.wireName ++ " " ++ route.endpoint ++
    "\n"

end Route

namespace Template.Builtin

variable {route : Route}

theorem renderParts_rustRouteLine
    (route : Route)
    (scope : Scope) :
    renderParts (("m", route.context) :: scope) rustRouteLine =
      .ok route.rustHeading := by
  simp [rustRouteLine, Route.rustHeading, String.append_assoc]

/- The parameters of a path are parameters of the handler. -/
theorem renderPart_rustParameters
    (route : Route)
    (scope : Scope) :
    renderPart (("m", route.context) :: scope)
        (.each ["p"] (of "m" "path_params")
          [.text ", ", putAs "p" "snake_case", .text ": &str"]
          []) =
      .ok
        (String.join
          (route.pathParams.map Route.rustParameter)) := by
  apply renderPart_each rfl
  intro param _ state
  simp [Route.rustParameter, String.append_assoc]

/- Traits and stubs print the same signature. -/
theorem renderParts_rustSignature
    (hBodies : route.NamesBodies)
    (scope : Scope) :
    renderParts (("m", route.context) :: scope) rustSignature =
      .ok ("    fn " ++ route.rustSignature) := by
  have hParameters := renderPart_rustParameters route scope
  have hRequest :
      renderPart (("m", route.context) :: scope)
          (.branch (of "m" "req_body")
            [.text ", body: ", putOf "m" "req_body"] []) =
        .ok (route.requestBody.elim "" (", body: " ++ ·)) := by
    apply renderPart_request hBodies rfl
    · intro body hBody
      simp [hBody, Value.optional]
    · rfl
  have hResponse :
      renderPart (("m", route.context) :: scope)
          (.branch (of "m" "resp_body")
            [.text " -> ", putOf "m" "resp_body"] []) =
        .ok (route.responseBody.elim "" (" -> " ++ ·)) := by
    apply renderPart_response hBodies rfl
    · intro body hBody
      simp [hBody, Value.optional]
    · rfl
  simp [rustSignature, renderParts_cons_of_ok hParameters,
    renderParts_cons_of_ok hRequest,
    renderParts_cons_of_ok hResponse, Route.rustSignature,
    String.append_assoc]

end Template.Builtin

end RamlScaffold

------------------------------------------------------------
-- Traits
------------------------------------------------------------

namespace RamlScaffold

/- The lines of a trait for a route. -/
def Route.rustTraitLines (route : Route) : List String :=
  route.rustHeading ::
    route.description.map
      (fun line => "    /// " ++ line ++ "\n") ++
    ["    fn " ++ route.rustSignature ++ ";\n"]

/- The line of a route in the table of routes. -/
def Route.rustEntry (route : Route) : String :=
  "    (\"" ++ route.verb.wireName ++ "\", \"" ++
    route.endpoint ++ "\", \"" ++
    Naming.snakeCase route.handlerName ++ "\"),\n"

/- A line of a description, parted from what is before it. -/
def rustDocLines (line : String) : List String :=
  ["///\n", "/// " ++ line ++ "\n"]

/- The lines of the trait of a service, and of its routes. -/
def Service.rustTraitLines (service : Service) : List String :=
  [
    "// Code generated by ramlgen. DO NOT EDIT.\n",
    "#![allow(unused_imports)]\n",
    "\n",
    "use super::*;\n",
    "\n",
    "/// Handlers of the `" ++ service.endpoint ++
      "` root endpoint.\n"] ++
  service.description.flatMap rustDocLines ++
  ["pub trait " ++ service.name ++ "Interface \x7b\n"] ++
  service.allRoutes.flatMap Route.rustTraitLines ++
  [
    "\x7d\n",
    "\n",
    "/// Routes of the `" ++ service.endpoint ++
      "` root endpoint as `(method, path, handler)`.\n",
    "pub const " ++
      Alphabet.upperText (Naming.snakeCase service.name) ++
      "_ROUTES: &[(&str, &str, &str)] = &[\n"] ++
  service.allRoutes.map Route.rustEntry ++
  ["];\n"]

namespace Template.Builtin

theorem renderParts_rustTraitMember
    {route : Route}
    (hBodies : route.NamesBodies)
    (scope : Scope) :
    renderParts (("m", route.context) :: scope)
        rustTraitMember =
      .ok (String.join route.rustTraitLines) := by
  have hHeading := renderParts_rustRouteLine route scope
  have hDescription :
      renderPart (("m", route.context) :: scope)
          (.each ["line"] (of "m" "description")
            [.text "    /// ", put "line", .text "\n"] []) =
        .ok
          (String.join
            (route.description.map
              (fun line => "    /// " ++ line ++ "\n"))) :=
    renderPart_eachText rfl _ _ _
  have hSignature := renderParts_rustSignature hBodies scope
  have hEnd :
      renderParts (("m", route.context) :: scope)
          [.text ";\n"] =
        .ok ";\n" :=
    rfl
  have hMember :=
    renderParts_append_of_ok
      (renderParts_append_of_ok
        (renderParts_append_of_ok hHeading
          (renderParts_cons_of_ok hDescription []))
        hSignature)
      hEnd
  rw [rustTraitMember, hMember]
  simp [Route.rustTraitLines, String.append_assoc]

/- The trait of a service, line by line. -/
theorem render_rustInterface
    {service : Service}
    (hBodies : ∀ route ∈ service.allRoutes, route.NamesBodies) :
    render rustInterface service.context =
      .ok (String.join service.rustTraitLines) := by
  have hDescription :
      renderPart (scopeOf service.context)
          (.each ["line"] (.ref "description")
            [.text "///\n", .text "/// ", put "line", .text "\n"]
            []) =
        .ok
          (String.join
            (service.description.map
              (fun line => String.join (rustDocLines line)))) := by
    apply renderPart_each rfl
    intro line _ state
    simp [rustDocLines, String.append_assoc]
  have hMembers :=
    renderParts_eachRoute
      (fun route => String.join route.rustTraitLines)
      (fun route hRoute _ =>
        renderParts_rustTraitMember (hBodies route hRoute) _)
  have hTable :
      renderPart (scopeOf service.context)
          (.emit
            (.filter (.filter (.ref "name") "snake_case" [])
              "upper" [])) =
        .ok
          (Alphabet.upperText
            (Naming.snakeCase service.name)) :=
    rfl
  have hEntries :
      renderPart (scopeOf service.context)
          (.each ["m"] (.ref "routes")
            [
              .text "    (\"",
              putOf "m" "verb",
              .text "\", \"",
              putOf "m" "endpoint",
              .text "\", \"",
              putOfAs "m" "handler_name" "snake_case",
              .text "\"),\n"]
            []) =
        .ok
          (String.join
            (service.allRoutes.map Route.rustEntry)) := by
    apply renderPart_each rfl
    intro route _ state
    simp [Route.rustEntry, String.append_assoc]
  simp [render, rustInterface,
    renderParts_cons_of_ok hDescription, hMembers,
    renderParts_cons_of_ok hTable,
    renderParts_cons_of_ok hEntries, Service.rustTraitLines,
    join_flatMap, String.append_assoc]

end Template.Builtin

end RamlScaffold

------------------------------------------------------------
-- Stubs
------------------------------------------------------------

namespace RamlScaffold

/- The lines of a stub for a route. -/
def Route.rustStubLines (route : Route) : List String :=
  [route.rustHeading,
    "    fn " ++ route.rustSignature ++ " \x7b\n"] ++
  route.responseBody.toList.map
    (fun body => "        " ++ body ++ "::default()\n") ++
  ["    \x7d\n"]

/- The lines of the stub of a service. -/
def Service.rustStubLines (service : Service) : List String :=
  [
    "#![allow(unused_imports, unused_variables)]\n",
    "\n",
    "use super::*;\n",
    "\n",
    "/// Implementation of the `" ++ service.endpoint ++
      "` root endpoint.\n",
    "#[derive(Debug, Default)]\n",
    "pub struct " ++ service.name ++ "Api;\n",
    "\n",
    "impl " ++ service.name ++ "Interface for " ++
      service.name ++ "Api \x7b\n"] ++
  service.allRoutes.flatMap Route.rustStubLines ++
  ["\x7d\n"]

namespace Template.Builtin

theorem renderParts_rustStubMember
    {route : Route}
    (hBodies : route.NamesBodies)
    (scope : Scope) :
    renderParts (("m", route.context) :: scope)
        rustStubMember =
      .ok (String.join route.rustStubLines) := by
  have hHeading := renderParts_rustRouteLine route scope
  have hSignature := renderParts_rustSignature hBodies scope
  have hResult :
      renderPart (("m", route.context) :: scope)
          (.branch (of "m" "resp_body")
            [
              .text "        ",
              putOf "m" "resp_body",
              .text "::default()\n"]
            []) =
        .ok
          (route.responseBody.elim ""
            (fun body =>
              "        " ++ body ++ "::default()\n")) := by
    apply renderPart_response hBodies rfl
    · intro body hBody
      simp [hBody, Value.optional, String.append_assoc]
    · rfl
  have hBlock :
      renderParts (("m", route.context) :: scope)
          [
            .text " \x7b\n",
            .branch (of "m" "resp_body")
              [
                .text "        ",
                putOf "m" "resp_body",
                .text "::default()\n"]
              [],
            .text "    \x7d\n"] =
        .ok
          (" \x7b\n" ++
            (route.responseBody.elim ""
                (fun body =>
                  "        " ++ body ++ "::default()\n") ++
              "    \x7d\n")) := by
    simp [renderParts_cons_of_ok hResult]
  have hMember :=
    renderParts_append_of_ok
      (renderParts_append_of_ok hHeading hSignature) hBlock
  rw [rustStubMember, hMember]
  simp [Route.rustStubLines, join_toList_map,
    String.append_assoc]

/- The stub of a service, line by line. -/
theorem render_rustStub
    {service : Service}
    (hBodies : ∀ route ∈ service.allRoutes, route.NamesBodies) :
    render rustStub service.context =
      .ok (String.join service.rustStubLines) := by
  have hMembers :=
    renderParts_eachRoute
      (fun route => String.join route.rustStubLines)
      (fun route hRoute _ =>
        renderParts_rustStubMember (hBodies route hRoute) _)
  simp [render, rustStub, hMembers, Service.rustStubLines,
    join_flatMap, String.append_assoc]

end Template.Builtin

end RamlScaffold
