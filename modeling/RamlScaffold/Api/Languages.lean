import RamlScaffold.Yaml.Value

/-
  The languages that definitions are written in.

  Documents and patterns are read by libraries, and what is
  said of definitions holds for all that these may answer.

  Key definitions include:
    * `DocumentLanguage`
    * `PatternLanguage`
-/

namespace RamlScaffold

/- How documents are read; a malformed one has no value. -/
class DocumentLanguage where
  read? : String → Option Yaml.Value

/- Which texts are patterns that compile. -/
class PatternLanguage where
  compiles : String → Bool

end RamlScaffold
