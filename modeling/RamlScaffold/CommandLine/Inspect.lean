import RamlScaffold.Json
import RamlScaffold.Schema.Bodies
import RamlScaffold.Service.Route

/-
  What would be generated from a definition, without any
  file being written.

  Key definitions include:
    * `Structure.toJson`, `Service.toJson`
    * `Api.typeStructures`, `Api.services`
    * `Api.inspectReport`
    * `Api.inspectJson`
-/

------------------------------------------------------------
-- Serialization
------------------------------------------------------------

namespace RamlScaffold

/- A field as a JSON value. -/
def Field.toJson (field : Field) : Json :=
  .record
    [("name", .text field.name),
      ("original_name", .text field.wireName),
      ("type_name", .text field.typeName),
      ("required", .bool field.required),
      ("is_composition", .bool field.isEmbedded)]

/- A structure as a JSON value. -/
def Structure.toJson (struct : Structure) : Json :=
  .record
    [("name", .text struct.name),
      ("package", .text struct.package),
      ("fields",
        .record
          (struct.fields.map
            (fun (key, field) => (key, field.toJson)))),
      ("one_line_def", .text struct.oneLine),
      ("is_one_line_def", .bool struct.isOneLine),
      ("description", .texts struct.description),
      ("kind", .text struct.kind.name),
      ("enum_values", .texts struct.enumValues)]

/- A route as a JSON value. -/
def Route.toJson (route : Route) : Json :=
  .record
    [("handler_name", .text route.handlerName),
      ("endpoint", .text route.endpoint),
      ("verb", .text route.verb.wireName),
      ("path_params", .texts route.pathParams),
      ("req_body", .optional route.requestBody),
      ("resp_body", .optional route.responseBody),
      ("description", .texts route.description)]

namespace Service

mutual

/- A service as a JSON value. -/
def toJson : Service → Json
  | ⟨name, endpoint, package, routes, nested, isServer, lines⟩ =>
      .record
        [("name", .text name),
          ("endpoint", .text endpoint),
          ("package", .text package),
          ("methods", .list (routes.map Route.toJson)),
          ("nested", .list (listToJson nested)),
          ("is_server", .bool isServer),
          ("description", .texts lines)]

/- Services as JSON values. -/
def listToJson : List Service → List Json
  | [] => []
  | service :: services =>
      toJson service :: listToJson services

end

end Service

end RamlScaffold

------------------------------------------------------------
-- Inspection
------------------------------------------------------------

namespace RamlScaffold

namespace Api

/- The structures of the catalog, in its order. -/
def typeStructures
    (language : Language)
    (package : String)
    (api : Api) : List Structure :=
  api.types.map
    (fun (name, decl) =>
      Structure.ofDecl language name decl package)

/- The services of the top-level resources for a server. -/
def services
    (package : String)
    (api : Api) : List Service :=
  api.resources.map (Resource.describe package true "")

/- The line of a catalog type. -/
def typeLine
    (language : Language)
    (entry : String × TypeDecl) : String :=
  let struct := Structure.ofDecl language entry.1 entry.2 ""
  let shape :=
    match struct.alias? with
    | some typeName => "= " ++ typeName
    | none => toString struct.fields.length ++ " field(s)"
  "  " ++ entry.1 ++ ": " ++ entry.2.classify.kind.title ++ " " ++
    shape

/- The lines of a service and its routes. -/
def serviceLines (service : Service) : List String :=
  ("  " ++ service.name ++ " (" ++ service.endpoint ++ ")") ::
    service.allRoutes.map
      (fun route =>
        "    " ++ route.verb.wireName ++ " " ++ route.endpoint ++
          " -> " ++ route.handlerName)

/- The report on a definition, line by line. -/
def inspectReport
    (language : Language)
    (api : Api) : String :=
  let lines :=
    [api.title, "types:"] ++ api.types.map (typeLine language) ++
      ["bodies:"] ++
      (api.bodyStructures language "").map
        (fun struct => "  " ++ struct.name) ++
      ["resources:"] ++
      (api.services "").flatMap serviceLines
  String.join (lines.map (fun line => line ++ "\n"))

/- The report on a definition as a JSON value. -/
def inspectValue
    (language : Language)
    (api : Api) : Json :=
  let package := language.defaultPackage
  .record
    [("title", .text api.title),
      ("types",
        .list
          ((api.typeStructures language package).map
            Structure.toJson)),
      ("bodies",
        .list
          ((api.bodyStructures language package).map
            Structure.toJson)),
      ("resources",
        .list (Service.listToJson (api.services package)))]

/- The report on a definition as JSON text. -/
def inspectJson
    (language : Language)
    (api : Api) : String :=
  (api.inspectValue language).render

end Api

end RamlScaffold
