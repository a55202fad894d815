import Mathlib.Data.List.Basic
import RamlScaffold.Proofs.Service.Described
import RamlScaffold.Proofs.Template.GoService
import RamlScaffold.Proofs.Text.Affixes

/-
  The methods that the built-in Go interface lists, those that
  the stub defines, and the routes that are registered.

  They are read off the lines of the sources, without looking
  at the service again.

  Main declarations:
    * `Go.method?`, `Go.function?`
    * `Go.registration?`, `Go.route?`
    * `Service.methods_goInterfaceLines`
    * `Service.functions_goStubLines`
    * `Service.registrations_goInterfaceLines`
    * `Service.IsDescribed.routes_goInterfaceLines`
    * `Service.IsDescribed.fileLines_goInterface`
    * `Service.IsDescribed.fileLines_goStub`
-/

------------------------------------------------------------
-- Reading Sources
------------------------------------------------------------

namespace RamlScaffold.Go

open Text

/- The handler that a line of an interface lists. -/
def method? (line : String) : Option String :=
  if Starts "\t//" line then none
  else
    readAfter "\t"
      (before? "(http.ResponseWriter, *http.Request)\n") line

/- The handler that a line begins to define for a service. -/
def function? (name line : String) : Option String :=
  readAfter "func (api "
    (readAfter (name ++ "API) ")
      (before?
        "(w http.ResponseWriter, r *http.Request) \x7b\n"))
    line

/- The route that a line registers. -/
def registration? (line : String) : Option String :=
  readAfter "\tr.HandleFunc(\"" (before? "\")\n") line

/- Path, handler and verb of a route that is registered. -/
def registration (path handler verb : String) : String :=
  path ++ "\", i." ++ handler ++ ").Methods(\"" ++ verb

/-
  Path, handler and verb of what is registered, if the path
  stands for itself.
-/
def registered? (text : String) :
    Option (String × String × String) :=
  match quoteParts text with
  | [path, middle, verb] =>
      if IsPlain path then
        (readAfter ", i." (before? ").Methods(") middle).map
          (fun handler => (path, handler, verb))
      else none
  | _ => none

/- The route that a line registers, part by part. -/
def route? (line : String) : Option (String × String × String) :=
  (registration? line).bind registered?

end RamlScaffold.Go

------------------------------------------------------------
-- Methods
------------------------------------------------------------

namespace RamlScaffold

open Go Text

theorem Go.method?_of_comment
    {front : String}
    (hComment : Starts "\t//" front)
    (rest : String) :
    method? (front ++ rest) = none :=
  if_pos (starts_append hComment rest)

theorem Go.method?_of_startsDiffer
    {line : String}
    (hStarts : StartsDiffer "\t" line) :
    method? line = none := by
  rw [method?, readAfter_of_startsDiffer hStarts, ite_self]

theorem Go.method?_append_of_startsDiffer
    {front : String}
    (hStarts : StartsDiffer "\t" front)
    (rest : String) :
    method? (front ++ rest) = none := by
  rw [method?, readAfter_append_of_startsDiffer hStarts,
    ite_self]

theorem Go.method?_append_of_endsDiffer
    {back : String}
    (hEnds :
      EndsDiffer "(http.ResponseWriter, *http.Request)\n" back)
    (front : String) :
    method? (front ++ back) = none := by
  rw [method?, readAfter_append_of_endsDiffer hEnds, ite_self]

namespace Route

variable {route : Route}

/- The slash of a comment is no part of a handler. -/
theorem method?_goMethod
    (hHandler : Naming.MarkFree route.handlerName) :
    method? route.goMethod = some route.handlerName := by
  have hSlash := hHandler '/' (by decide)
  have hCode : ¬ Starts "\t//" route.goMethod := by
    unfold Starts goMethod
    rw [String.toList_append, String.toList_append]
    cases hChars : route.handlerName.toList with
    | nil => decide
    | cons c rest =>
        rw [hChars, List.mem_cons, not_or] at hSlash
        simp [hSlash.1]
  unfold method?
  rw [if_neg hCode, goMethod, String.append_assoc,
    readAfter_append, before?_append]

theorem methods_goMethodLines
    (hHandler : Naming.MarkFree route.handlerName) :
    route.goMethodLines.filterMap method? =
      [route.handlerName] := by
  unfold goMethodLines
  simp (disch := rw [starts_ofList]; decide)
    [method?_goMethod hHandler, List.filterMap_cons,
      method?_of_comment, String.append_assoc]

theorem method?_goRegistration (route : Route) :
    method? route.goRegistration = none := by
  unfold goRegistration
  apply method?_append_of_endsDiffer
  rw [endsDiffer_ofList]
  decide

end Route

namespace Service

/- An interface lists one method for every route. -/
theorem IsDescribed.methods_goInterfaceLines
    {service : Service}
    (hService : service.IsDescribed) :
    service.goInterfaceLines.filterMap method? =
      service.allRoutes.map Route.handlerName := by
  have hMembers :=
    filterMap_flatMap_of_one
      (fun route hRoute =>
        Route.methods_goMethodLines
          (hService.routes route hRoute).handler)
  have hEntries :=
    filterMap_map_of_none Route.method?_goRegistration
      service.allRoutes
  have hImports :
      service.goInterfaceImports.filterMap method? = [] := by
    unfold goInterfaceImports onlyIf
    cases service.hasRoutes with
    | true => decide
    | false => decide
  unfold goInterfaceLines goInterfaceBody goHeader
  simp (disch := rw [startsDiffer_ofList]; decide)
    [hMembers, hEntries, hImports, List.filterMap_cons,
      method?_of_startsDiffer,
      method?_append_of_startsDiffer, String.append_assoc]

end Service

end RamlScaffold

------------------------------------------------------------
-- Functions
------------------------------------------------------------

namespace RamlScaffold

open Go Text

theorem Route.function?_goFunction
    (name : String)
    (route : Route) :
    function? name (route.goFunction name) =
      some route.handlerName := by
  have hFunction :
      route.goFunction name =
        "func (api " ++
          (name ++ "API) " ++
            (route.handlerName ++
              "(w http.ResponseWriter, r *http.Request) \x7b\n")) := by
    simp [goFunction, String.append_assoc]
  rw [hFunction, function?, readAfter_append, readAfter_append,
    before?_append]

theorem Go.function?_of_startsDiffer
    {line : String}
    (hStarts : StartsDiffer "func (api " line)
    (name : String) :
    function? name line = none :=
  readAfter_of_startsDiffer hStarts

theorem Go.function?_append_of_startsDiffer
    {front : String}
    (hStarts : StartsDiffer "func (api " front)
    (name rest : String) :
    function? name (front ++ rest) = none :=
  readAfter_append_of_startsDiffer hStarts rest

theorem functions_goReadLines (name body : String) :
    (goReadLines body).filterMap (function? name) = [] := by
  unfold goReadLines
  simp (disch := rw [startsDiffer_ofList]; decide)
    [function?_of_startsDiffer,
      function?_append_of_startsDiffer, String.append_assoc]

theorem functions_goWriteLines (name body : String) :
    (goWriteLines body).filterMap (function? name) = [] := by
  unfold goWriteLines
  simp (disch := rw [startsDiffer_ofList]; decide)
    [function?_of_startsDiffer,
      function?_append_of_startsDiffer, String.append_assoc]

theorem Route.functions_goFunctionLines
    (name : String)
    (route : Route) :
    (route.goFunctionLines name).filterMap (function? name) =
      [route.handlerName] := by
  have hRequest :
      (route.requestBody.elim [] goReadLines).filterMap
          (function? name) =
        [] := by
    cases route.requestBody with
    | none => rfl
    | some body => exact functions_goReadLines name body
  have hResponse :
      (route.responseBody.elim
            ["\tw.WriteHeader(http.StatusNoContent)\n"]
            goWriteLines).filterMap
          (function? name) =
        [] := by
    cases route.responseBody with
    | none =>
        simp (disch := rw [startsDiffer_ofList]; decide)
          [function?_of_startsDiffer]
    | some body => exact functions_goWriteLines name body
  unfold goFunctionLines
  simp (disch := rw [startsDiffer_ofList]; decide)
    [route.function?_goFunction name, hRequest, hResponse,
      List.filterMap_cons, function?_of_startsDiffer,
      function?_append_of_startsDiffer, String.append_assoc]

/- A stub defines one function for every route. -/
theorem Service.functions_goStubLines (service : Service) :
    service.goStubLines.filterMap (function? service.name) =
      service.allRoutes.map Route.handlerName := by
  have hMembers :=
    filterMap_flatMap_of_one
      (fun route (_ : route ∈ service.allRoutes) =>
        route.functions_goFunctionLines service.name)
  unfold goStubLines goStubImports goStubBody
  simp (disch := rw [startsDiffer_ofList]; decide)
    [hMembers, List.filterMap_cons, function?_of_startsDiffer,
      function?_append_of_startsDiffer, String.append_assoc]

end RamlScaffold

------------------------------------------------------------
-- Registrations
------------------------------------------------------------

namespace RamlScaffold

open Go Text

namespace Route

theorem registration?_goRegistration (route : Route) :
    registration? route.goRegistration =
      some
        (registration route.endpoint route.handlerName
          route.verb.wireName) := by
  have hRegistration :
      route.goRegistration =
        "\tr.HandleFunc(\"" ++
          (registration route.endpoint route.handlerName
              route.verb.wireName ++
            "\")\n") := by
    unfold goRegistration registration
    simp only [String.append_assoc]
  rw [hRegistration, registration?, readAfter_append,
    before?_append]

theorem registrations_goMethodLines (route : Route) :
    route.goMethodLines.filterMap registration? = [] := by
  have hMethod :
      readAfter "\tr.HandleFunc(\"" (before? "\")\n")
          route.goMethod =
        none := by
    apply readAfter_append_of_endsDiffer
    rw [endsDiffer_ofList]
    decide
  unfold goMethodLines
  simp (disch := rw [startsDiffer_ofList]; decide)
    [hMethod, registration?, List.filterMap_cons,
      readAfter_append_of_startsDiffer, String.append_assoc]

end Route

/- An interface registers every route. -/
theorem Service.registrations_goInterfaceLines
    (service : Service) :
    service.goInterfaceLines.filterMap registration? =
      service.allRoutes.map
        (fun route =>
          registration route.endpoint route.handlerName
            route.verb.wireName) := by
  have hMembers :=
    filterMap_flatMap_of_none Route.registrations_goMethodLines
      service.allRoutes
  have hEntries :=
    filterMap_map_of_some Route.registration?_goRegistration
      service.allRoutes
  unfold goInterfaceLines goHeader goInterfaceImports
    goInterfaceBody
  simp (disch := rw [startsDiffer_ofList]; decide)
    [hMembers, hEntries, registration?, List.filterMap_cons,
      readAfter_of_startsDiffer,
      readAfter_append_of_startsDiffer, String.append_assoc]

end RamlScaffold

namespace RamlScaffold

open Go Text

/- The quotes around a path that holds none are told apart. -/
theorem Go.registered?_registration
    {path handler verb : String}
    (hPath : IsPlain path)
    (hHandler : '"' ∉ handler.toList)
    (hVerb : '"' ∉ verb.toList) :
    registered? (registration path handler verb) =
      some (path, handler, verb) := by
  have hText :
      registration path handler verb =
        path ++
          ("\"" ++
            ((", i." ++ handler ++ ").Methods(") ++
              ("\"" ++ verb))) := by
    apply String.toList_inj.mp
    simp [registration]
  have hMiddle :
      '"' ∉ (", i." ++ handler ++ ").Methods(").toList := by
    simp [hHandler]
  have hRead :
      readAfter ", i." (before? ").Methods(")
          (", i." ++ handler ++ ").Methods(") =
        some handler := by
    rw [String.append_assoc, readAfter_append, before?_append]
  unfold registered?
  rw [hText, quoteParts_append, quoteParts_append,
    quoteParts_of_not_mem (hPath '"' (by decide)),
    quoteParts_of_not_mem hMiddle, quoteParts_of_not_mem hVerb]
  simp [hPath, hRead]

theorem Go.isPlain_of_route?
    {line path handler verb : String}
    (hRoute : route? line = some (path, handler, verb)) :
    IsPlain path := by
  rcases Option.bind_eq_some_iff.mp hRoute with
    ⟨text, -, hText⟩
  unfold registered? at hText
  split at hText
  · split at hText
    · next hPlain =>
        rcases Option.map_eq_some_iff.mp hText with
          ⟨found, -, hSame⟩
        rw [← (Prod.mk.inj hSame).1]
        exact hPlain
    · cases hText
  · cases hText

/- Routes with plain paths are registered part by part. -/
theorem Service.IsDescribed.routes_goInterfaceLines
    {service : Service}
    (hService : service.IsDescribed)
    (hPlain : service.HasPlainPaths) :
    service.goInterfaceLines.filterMap route? =
      service.allRoutes.map
        (fun route =>
          (route.endpoint, route.handlerName,
            route.verb.wireName)) := by
  have hRead :
      service.goInterfaceLines.filterMap route? =
        (service.goInterfaceLines.filterMap
          registration?).filterMap registered? := by
    rw [List.filterMap_filterMap]
    rfl
  rw [hRead, service.registrations_goInterfaceLines,
    List.filterMap_map]
  refine List.filterMap_eq_map_iff_forall_eq_some.mpr ?_
  intro route hRoute
  exact
    registered?_registration (hPlain route hRoute)
      ((hService.routes route hRoute).handler '"' (by decide))
      route.verb.quote_not_mem_wireName

end RamlScaffold

------------------------------------------------------------
-- Sources In Lines
------------------------------------------------------------

namespace RamlScaffold

open Text

/- Lines under a condition are lines. -/
theorem allLines_onlyIf
    {lines : List String}
    (hLines : AllLines lines)
    (condition : Bool) :
    AllLines (onlyIf condition lines) := by
  cases condition with
  | true => exact hLines
  | false => exact allLines_nil

namespace Route

variable {route : Route}
variable (hRoute : route.IsDescribed)
variable (hEndpoint : OneLine route.endpoint)
include hRoute

theorem IsDescribed.allLines_goRead :
    AllLines (route.requestBody.elim [] goReadLines) := by
  cases hBody : route.requestBody with
  | none => exact allLines_nil
  | some body =>
      have hName := (hRoute.markFree_request hBody).oneLine
      unfold Option.elim goReadLines
      simp (disch :=
          (first | rw [isLine_ofList] | rw [oneLine_ofList]);
            decide)
        [hName, isLine_append_iff, isLine_eq_true,
          oneLine_eq_true]

theorem IsDescribed.allLines_goWrite :
    AllLines
      (route.responseBody.elim
        ["\tw.WriteHeader(http.StatusNoContent)\n"]
        goWriteLines) := by
  cases hBody : route.responseBody with
  | none =>
      unfold Option.elim
      simp (disch := rw [isLine_ofList]; decide) [isLine_eq_true]
  | some body =>
      have hName := (hRoute.markFree_response hBody).oneLine
      unfold Option.elim goWriteLines
      simp (disch :=
          (first | rw [isLine_ofList] | rw [oneLine_ofList]);
            decide)
        [hName, isLine_append_iff, isLine_eq_true,
          oneLine_eq_true]

include hEndpoint

theorem IsDescribed.allLines_goMethodLines :
    AllLines route.goMethodLines := by
  have hHandler := hRoute.handler.oneLine
  have hDescription :=
    allLines_around "\t// " (by decide)
      (by decide : IsLine "\n") hRoute.description
  unfold goMethodLines goMethod
  simp (disch :=
      (first | rw [isLine_ofList] | rw [oneLine_ofList]); decide)
    [hHandler, hDescription, hEndpoint, Verb.oneLine_wireName,
      isLine_append_iff, oneLine_eq_true]

theorem IsDescribed.isLine_goRegistration :
    IsLine route.goRegistration := by
  have hHandler := hRoute.handler.oneLine
  unfold goRegistration
  simp (disch :=
      (first | rw [isLine_ofList] | rw [oneLine_ofList]); decide)
    [hHandler, hEndpoint, Verb.oneLine_wireName,
      isLine_append_iff, oneLine_eq_true]

theorem IsDescribed.allLines_goFunctionLines
    {name : String}
    (hName : OneLine name) :
    AllLines (route.goFunctionLines name) := by
  have hHandler := hRoute.handler.oneLine
  unfold goFunctionLines goFunction
  simp (disch :=
      (first | rw [isLine_ofList] | rw [oneLine_ofList]); decide)
    [hName, hHandler, hEndpoint, Verb.oneLine_wireName,
      hRoute.allLines_goRead, hRoute.allLines_goWrite,
      isLine_append_iff, isLine_eq_true, oneLine_eq_true]

end Route

namespace Service

variable {service : Service}

variable (hPackage : OneLine service.package)
include hPackage

theorem allLines_goHeader : AllLines service.goHeader := by
  unfold goHeader
  simp (disch :=
      (first | rw [isLine_ofList] | rw [oneLine_ofList]); decide)
    [hPackage, isLine_append_iff, isLine_eq_true,
      oneLine_eq_true]

variable (hService : service.IsDescribed)
variable (hLines : service.IsOneLine)
include hService hLines

/- The lines of an interface are those of its text. -/
theorem IsDescribed.fileLines_goInterface :
    fileLines (String.join service.goInterfaceLines) =
      service.goInterfaceLines := by
  have hName := hService.name.oneLine
  have hImports : AllLines service.goInterfaceImports := by
    unfold goInterfaceImports
    simp +decide [allLines_onlyIf]
  have hDescription :=
    allLines_around "// " (by decide)
      (by decide : IsLine "\n") hService.description
  have hMembers :=
    allLines_flatMap
      (fun route hRoute =>
        (hService.routes route hRoute).allLines_goMethodLines
          (hLines.routes route hRoute))
  have hEntries :=
    allLines_map
      (fun route hRoute =>
        (hService.routes route hRoute).isLine_goRegistration
          (hLines.routes route hRoute))
  apply fileLines_join
  unfold goInterfaceLines goInterfaceBody
  simp (disch :=
      (first | rw [isLine_ofList] | rw [oneLine_ofList]); decide)
    [allLines_goHeader hPackage, hImports, hDescription, hMembers,
      hEntries, hName, hLines.endpoint, isLine_append_iff,
      isLine_eq_true, oneLine_eq_true]

/- The lines of a stub are those of its text. -/
theorem IsDescribed.fileLines_goStub :
    fileLines (String.join service.goStubLines) =
      service.goStubLines := by
  have hName := hService.name.oneLine
  have hImports : AllLines service.goStubImports := by
    unfold goStubImports
    simp +decide [allLines_onlyIf]
  have hMembers :=
    allLines_flatMap
      (fun route hRoute =>
        (hService.routes route hRoute).allLines_goFunctionLines
          (hLines.routes route hRoute) hName)
  apply fileLines_join
  unfold goStubLines goStubBody
  simp (disch :=
      (first | rw [isLine_ofList] | rw [oneLine_ofList]); decide)
    [hImports, hMembers, hName, hPackage, hLines.endpoint,
      isLine_append_iff, isLine_eq_true, oneLine_eq_true]

end Service

end RamlScaffold
