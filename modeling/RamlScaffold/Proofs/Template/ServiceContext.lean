import RamlScaffold.Generation.Context
import RamlScaffold.Proofs.Template.Rendering

/-
  What the templates of services print of routes and services.

  Main declarations:
    * `Route.NamesBodies`
    * `Template.attributeOf_verb` and the like
    * `Template.value_name` and the like
    * `Template.renderPart_request`
    * `Template.renderPart_response`
    * `Template.renderParts_eachRoute`
-/

------------------------------------------------------------
-- Routes
------------------------------------------------------------

namespace RamlScaffold

/- Whether the bodies of a route that are there have names. -/
structure Route.NamesBodies (route : Route) : Prop where
  request : route.requestBody ≠ some ""
  response : route.responseBody ≠ some ""

namespace Template

variable (route : Route) (service : Service)

@[simp] theorem attributeOf_verb :
    attributeOf route.context "verb" =
      .ok (.text route.verb.wireName) :=
  rfl

@[simp] theorem attributeOf_endpoint :
    attributeOf route.context "endpoint" =
      .ok (.text route.endpoint) :=
  rfl

@[simp] theorem attributeOf_handlerName :
    attributeOf route.context "handler_name" =
      .ok (.text route.handlerName) :=
  rfl

@[simp] theorem attributeOf_requestBody :
    attributeOf route.context "req_body" =
      .ok (.optional route.requestBody) :=
  rfl

@[simp] theorem attributeOf_responseBody :
    attributeOf route.context "resp_body" =
      .ok (.optional route.responseBody) :=
  rfl

@[simp] theorem value_name :
    (scopeOf service.context).value "name" =
      .text service.name :=
  rfl

@[simp] theorem value_endpoint :
    (scopeOf service.context).value "endpoint" =
      .text service.endpoint :=
  rfl

@[simp] theorem value_package :
    (scopeOf service.context).value "package" =
      .text service.package :=
  rfl

end Template

end RamlScaffold

------------------------------------------------------------
-- Bodies
------------------------------------------------------------

namespace RamlScaffold.Template

open Builtin

variable {route : Route} {scope : Scope}
variable {yes no : List Part}
variable {present : String → String} {absent : String}

/- A condition on a text that may be missing. -/
theorem renderPart_optional
    {condition : Expr}
    {content : Option String}
    (hContent : content ≠ some "")
    (hValue : condition.eval scope = .ok (.optional content))
    (hYes :
      ∀ text, content = some text →
        renderParts scope yes = .ok (present text))
    (hNo : content = none → renderParts scope no = .ok absent) :
    renderPart scope (.branch condition yes no) =
      .ok (content.elim absent present) := by
  rw [renderPart_branch hValue, isTrue_optional hContent]
  cases content with
  | none => exact hNo rfl
  | some text => exact hYes text rfl

variable (hBodies : route.NamesBodies)
variable (hRoute : scope.value "m" = route.context)
include hBodies hRoute

/- A condition on the request body of the route at hand. -/
theorem renderPart_request
    (hYes :
      ∀ body, route.requestBody = some body →
        renderParts scope yes = .ok (present body))
    (hNo : renderParts scope no = .ok absent) :
    renderPart scope (.branch (of "m" "req_body") yes no) =
      .ok (route.requestBody.elim absent present) := by
  apply renderPart_optional hBodies.request _ hYes (fun _ => hNo)
  simp only [of, Expr.eval, bind, Except.bind, hRoute,
    attributeOf_requestBody]

/- A condition on the response body of the route at hand. -/
theorem renderPart_response
    (hYes :
      ∀ body, route.responseBody = some body →
        renderParts scope yes = .ok (present body))
    (hNo : renderParts scope no = .ok absent) :
    renderPart scope (.branch (of "m" "resp_body") yes no) =
      .ok (route.responseBody.elim absent present) := by
  apply renderPart_optional hBodies.response _ hYes (fun _ => hNo)
  simp only [of, Expr.eval, bind, Except.bind, hRoute,
    attributeOf_responseBody]

end RamlScaffold.Template

------------------------------------------------------------
-- Loops Over Routes
------------------------------------------------------------

namespace RamlScaffold.Template

/- The routes of a service are rendered one by one. -/
theorem renderParts_eachRoute
    (text : Route → String)
    {service : Service}
    {body : List Part}
    (hBody :
      ∀ route ∈ service.allRoutes, ∀ state,
        renderParts
            (("m", route.context) :: ("loop", state) ::
              scopeOf service.context)
            body =
          .ok (text route))
    (parts : List Part) :
    renderParts (scopeOf service.context)
        (.each ["m"] (.ref "routes") body [] :: parts) =
      (renderParts (scopeOf service.context) parts).map
        (String.join (service.allRoutes.map text) ++ ·) :=
  renderParts_cons_of_ok (renderPart_each rfl hBody) parts

end RamlScaffold.Template
