import RamlScaffold.Generation.Context
import RamlScaffold.Proofs.Template.Rendering
import RamlScaffold.Template.Library

/-
  What the built-in index of modules says.

  It can be rendered for every list of modules: each module is
  declared on a line of its own, and then used on another.

  Main declarations:
    * `Template.Builtin.render_rustIndex`
-/

------------------------------------------------------------
-- The Built-In Index
------------------------------------------------------------

namespace RamlScaffold.Template.Builtin

/- A loop over the modules has a line for each of them. -/
theorem renderPart_modules
    (modules : List String)
    (start stop : String) :
    renderPart (scopeOf (moduleContext modules))
        (.each ["module"] (.ref "modules")
          [.text start, put "module", .text stop] []) =
      .ok
        (String.join
          (modules.map (fun name => start ++ name ++ stop))) :=
  renderPart_eachText rfl "module" start stop

/- Every module is declared, and then every module is used. -/
theorem render_rustIndex (modules : List String) :
    render rustIndex (moduleContext modules) =
      .ok
        ("// Code generated by ramlgen. DO NOT EDIT.\n" ++ "\n" ++
          String.join
            (modules.map
              (fun name => "pub mod " ++ name ++ ";\n")) ++
          "\n" ++
          String.join
            (modules.map
              (fun name => "pub use " ++ name ++ "::*;\n"))) := by
  unfold render rustIndex
  -- The loops are done before the texts between them.
  simp only [renderParts, renderPart_modules]
  simp only [renderPart, bind, Except.bind, pure, Except.pure,
    String.append_assoc, String.append_empty]

end RamlScaffold.Template.Builtin
