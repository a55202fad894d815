import RamlScaffold.Api.Languages
import RamlScaffold.Files.Tree
import RamlScaffold.Pattern
import RamlScaffold.Template.Library
import RamlScaffold.Template.Reader
import RamlScaffold.Yaml.Document

/-
  What the program runs with: the readers of documents,
  patterns and templates, and a system that lets every file be
  written.

  No other module chooses them.

  Key definitions include:
    * `Yaml.language`, `Pattern.language`
    * `Template.language`
    * `FileTree.fullAccess`
-/

namespace RamlScaffold

/- Documents in YAML. -/
instance Yaml.language : DocumentLanguage where
  read? := Yaml.read?

/- Patterns of regular expressions. -/
instance Pattern.language : PatternLanguage where
  compiles := Pattern.compiles

/- Templates that refer to no other ones. -/
instance Template.language : TemplateLanguage where
  compiles source := (Template.read? source).isSome
  render? _ source context :=
    (Template.read? source).bind
      (fun template => (template.render context).toOption)

/- A system on which every file may be written. -/
instance FileTree.fullAccess : WriteAccess where
  allows _ := true

end RamlScaffold
