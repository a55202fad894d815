import RamlScaffold.Language
import RamlScaffold.Template.Builtin.Go
import RamlScaffold.Template.Builtin.Rust
import RamlScaffold.Template.Render

/-
  The templates that sources are generated with: those built
  in for a language, and those that replace them.

  Key definitions include:
    * `Artefact`, `Artefact.templateName`
    * `Language.builtinTemplate?`
    * `TemplateSource`, `TemplateLanguage`
    * `TemplateSet`, `TemplateSet.builtin`
    * `TemplateSet.replace`, `TemplateSet.fileName`
    * `TemplateSet.compile`
-/

------------------------------------------------------------
-- Artefacts
------------------------------------------------------------

namespace RamlScaffold

/- What a template generates. -/
inductive Artefact where
  | struct
  | interface
  | stub
  | client
  | index
deriving DecidableEq, Repr

namespace Artefact

/- The name of the template of an artefact. -/
def templateName : Artefact → String
  | .struct => "struct"
  | .interface => "resource_if"
  | .stub => "resource_api"
  | .client => "client_service"
  | .index => "mod"

/- The artefacts, in the order of override lookups. -/
def all : List Artefact :=
  [.struct, .interface, .stub, .client, .index]

end Artefact

end RamlScaffold

------------------------------------------------------------
-- Built-In Templates
------------------------------------------------------------

namespace RamlScaffold

open Template

namespace Language

/- The built-in template of an artefact, if there is one. -/
def builtinTemplate? (language : Language) :
    Artefact → Option Template
  | .struct =>
      match language with
      | .go => some Builtin.goStructure
      | .rust => some Builtin.rustStructure
  | .interface =>
      match language with
      | .go => some Builtin.goInterface
      | .rust => some Builtin.rustInterface
  | .stub =>
      match language with
      | .go => some Builtin.goStub
      | .rust => some Builtin.rustStub
  | .client =>
      match language with
      | .go => some Builtin.goClient
      | .rust => some Builtin.rustClient
  | .index =>
      match language with
      | .go => none
      | .rust => some Builtin.rustIndex

end Language

end RamlScaffold

------------------------------------------------------------
-- Template Sets
------------------------------------------------------------

namespace RamlScaffold

/- Where a template comes from. -/
inductive TemplateSource where
  | builtin (template : Template)
  | written (source : String)
deriving Repr

/-
  The language that templates are written in.  It tells which
  texts are templates, and what one of them makes of a context
  among the sources that it may refer to.
-/
class TemplateLanguage where
  compiles : String → Bool
  render? :
    Keyed TemplateSource →
      String → Template.Value → Option String

/- What a template makes of a context, unless it fails. -/
abbrev Rendering : Type :=
  Template.Value → Option String

/- How a template of this library is rendered. -/
def Rendering.builtin (template : Template) : Rendering :=
  fun context => (template.render context).toOption

namespace TemplateSource

variable [TemplateLanguage]

/- Whether a source is well-formed; built-in ones are. -/
def compiles : TemplateSource → Bool
  | .builtin _ => true
  | .written source => TemplateLanguage.compiles source

/- How a source is rendered among others. -/
def rendering
    (sources : Keyed TemplateSource) :
    TemplateSource → Rendering
  | .builtin template => Rendering.builtin template
  | .written source => TemplateLanguage.render? sources source

end TemplateSource

/- The templates of a language under their names. -/
structure TemplateSet where
  language : Language
  sources : Keyed TemplateSource

namespace TemplateSet

/- The built-in templates of a language. -/
def builtin (language : Language) : TemplateSet where
  language := language
  sources :=
    Keyed.ofList
      (Artefact.all.filterMap
        (fun artefact =>
          (language.builtinTemplate? artefact).map
            (fun template =>
              (artefact.templateName, .builtin template))))

/- A set with the template of a name replaced or added. -/
def replace
    (set : TemplateSet)
    (name source : String) : TemplateSet :=
  { set with
    sources := set.sources.insert name (.written source) }

/- The file that may replace a template. -/
def fileName
    (language : Language)
    (name : String) : String :=
  name ++ "." ++ language.fileExtension ++ ".txt"

end TemplateSet

end RamlScaffold

------------------------------------------------------------
-- Compilation
------------------------------------------------------------

namespace RamlScaffold

/- Templates ready to be rendered, under their names. -/
abbrev Templates : Type :=
  Keyed Rendering

/-
  The templates of a set, ready to be rendered, or the name of
  the first one that is malformed.
-/
def TemplateSet.compile
    [TemplateLanguage]
    (set : TemplateSet) : Except String Templates :=
  match set.sources.find? (fun entry => !entry.2.compiles) with
  | some (name, _) => .error name
  | none =>
      .ok
        (set.sources.map
          (fun (name, source) =>
            (name, source.rendering set.sources)))

end RamlScaffold
