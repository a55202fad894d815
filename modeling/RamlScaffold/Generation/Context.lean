import RamlScaffold.Service.Route
import RamlScaffold.Template.Library

/-
  What templates see of structures, services and modules.

  Key definitions include:
    * `Field.context`, `Structure.context`
    * `Route.context`, `Service.context`
    * `moduleContext`
-/

------------------------------------------------------------
-- Structures
------------------------------------------------------------

namespace RamlScaffold

open Template

/- A field as templates see it. -/
def Field.context (field : Field) : Value :=
  .record
    [("is_composition", .bool field.isEmbedded),
      ("name", .text field.name),
      ("original_name", .text field.wireName),
      ("required", .bool field.required),
      ("type_name", .text field.typeName)]

/- A structure as templates see it. -/
def Structure.context (struct : Structure) : Value :=
  .record
    [("description", .texts struct.description),
      ("enum_values", .texts struct.enumValues),
      ("fields",
        .record
          (struct.fields.map
            (fun (key, field) => (key, field.context)))),
      ("is_one_line_def", .bool struct.isOneLine),
      ("kind", .text struct.kind.name),
      ("name", .text struct.name),
      ("one_line_def", .text struct.oneLine),
      ("package", .text struct.package)]

end RamlScaffold

------------------------------------------------------------
-- Services
------------------------------------------------------------

namespace RamlScaffold

open Template

/- A route as templates see it. -/
def Route.context (route : Route) : Value :=
  .record
    [("description", .texts route.description),
      ("endpoint", .text route.endpoint),
      ("handler_name", .text route.handlerName),
      ("path_params", .texts route.pathParams),
      ("req_body", .optional route.requestBody),
      ("resp_body", .optional route.responseBody),
      ("verb", .text route.verb.wireName)]

/- A service with all of its routes as templates see it. -/
def Service.context (service : Service) : Value :=
  let routes := service.allRoutes
  .record
    [("description", .texts service.description),
      ("endpoint", .text service.endpoint),
      ("name", .text service.name),
      ("package", .text service.package),
      ("routes", .list (routes.map Route.context)),
      ("uses_req_json",
        .bool (routes.any (·.requestBody.isSome))),
      ("uses_resp_json",
        .bool (routes.any (·.responseBody.isSome)))]

end RamlScaffold

------------------------------------------------------------
-- Modules
------------------------------------------------------------

namespace RamlScaffold

open Template

/- The modules of a directory as templates see them. -/
def moduleContext (modules : List String) : Value :=
  .record [("modules", .texts modules)]

end RamlScaffold
