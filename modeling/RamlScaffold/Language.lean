import RamlScaffold.Naming

/-
  The languages that sources are generated for, and how the
  generated files are named in each.

  Key definitions include:
    * `Language`
    * `Language.name`, `Language.fileExtension`
    * `Language.defaultPackage`
    * `Language.keywords`, `Language.nonRawKeywords`
    * `Language.moduleName`
    * `Language.structureFileName`
    * `Language.resourceFileName`
-/

------------------------------------------------------------
-- Languages
------------------------------------------------------------

namespace RamlScaffold

/- A language that sources are generated for. -/
inductive Language where
  | go
  | rust
deriving DecidableEq, Repr, Inhabited

namespace Language

/- The name used on the command line and in messages. -/
def name : Language → String
  | .go => "go"
  | .rust => "rust"

/- The extension of generated sources. -/
def fileExtension : Language → String
  | .go => "go"
  | .rust => "rs"

/- The package or module used when none is configured. -/
def defaultPackage : Language → String
  | .go => "main"
  | .rust => "api"

end Language

end RamlScaffold

------------------------------------------------------------
-- Reserved Words
------------------------------------------------------------

namespace RamlScaffold

namespace Language

/- Reserved words of Rust, two of which have no raw form. -/
def keywords : List String :=
  [
    "as", "break", "const", "continue", "crate", "else",
    "enum", "extern", "false", "fn", "for", "if", "impl",
    "in", "let", "loop", "match", "mod", "move", "mut",
    "pub", "ref", "return", "static", "struct", "super",
    "trait", "true", "type", "unsafe", "use", "where",
    "while", "async", "await", "dyn", "abstract", "become",
    "box", "do", "final", "gen", "macro", "override",
    "priv", "try", "typeof", "unsized", "virtual", "yield"]

/- Reserved words of Rust that cannot be written raw. -/
def nonRawKeywords : List String :=
  ["crate", "self", "super", "Self"]

/-
  The module of a file stem.  Reserved words, among them the
  name of the module index, get an underscore at their end.
-/
def moduleName (stem : String) : String :=
  if keywords.contains stem || nonRawKeywords.contains stem
  then stem ++ "_"
  else stem

end Language

end RamlScaffold

------------------------------------------------------------
-- File Names
------------------------------------------------------------

namespace RamlScaffold

namespace Language

/- The file of a generated structure. -/
def structureFileName
    (language : Language)
    (structureName : String) : String :=
  match language with
  | .go => structureName ++ ".go"
  | .rust => moduleName (Naming.snakeCase structureName) ++ ".rs"

/- The file of one artefact of a top-level resource. -/
def resourceFileName
    (language : Language)
    (resourceName artefact : String) : String :=
  let stem :=
    match language with
    | .go => Naming.fileStem resourceName
    | .rust => Naming.snakeCase resourceName
  stem ++ "_" ++ artefact ++ "." ++ language.fileExtension

end Language

end RamlScaffold
