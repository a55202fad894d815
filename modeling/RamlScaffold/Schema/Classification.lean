import RamlScaffold.Api.Model

/-
  What kind of structure a declaration compiles to.

  The kinds overlap in how they are written, so they are tried
  in a fixed order and the first that fits wins: several
  parents, union, array, map, plain object, enum,
  specialization, single inheritance.

  Key definitions include:
    * `Kind`, `Kind.name`, `Kind.title`
    * `Classification`, `Classification.kind`
    * `TypeDecl.mapValue?`
    * `TypeDecl.classify`
-/

------------------------------------------------------------
-- Kinds
------------------------------------------------------------

namespace RamlScaffold

/- The kind of a structure. -/
inductive Kind where
  | multipleInheritance
  | union
  | array
  | map
  | plainObject
  | enumeration
  | specialization
  | singleInheritance
deriving DecidableEq, Repr, Inhabited

/- The name of a kind in reports and templates. -/
def Kind.name : Kind → String
  | .multipleInheritance => "multiple_inheritance"
  | .union => "union"
  | .array => "array"
  | .map => "map"
  | .plainObject => "plain_object"
  | .enumeration => "enum"
  | .specialization => "specialization"
  | .singleInheritance => "single_inheritance"

/- The name of a kind for readers. -/
def Kind.title : Kind → String
  | .multipleInheritance => "MultipleInheritance"
  | .union => "Union"
  | .array => "Array"
  | .map => "Map"
  | .plainObject => "PlainObject"
  | .enumeration => "Enum"
  | .specialization => "Specialization"
  | .singleInheritance => "SingleInheritance"

/-
  What a declaration compiles to.  A map or an enum without a
  name has no type that could be resolved.
-/
inductive Classification where
  | multipleInheritance (parents : List String)
  | union (raw : String)
  | array (raw : String)
  | map (value : Option String)
  | plainObject
  | enumeration (base : Option String)
  | specialization (parent : String)
  | singleInheritance (parent : String)
deriving DecidableEq, Repr

/- The kind of structure that a classification calls for. -/
def Classification.kind : Classification → Kind
  | .multipleInheritance _ => .multipleInheritance
  | .union _ => .union
  | .array _ => .array
  | .map _ => .map
  | .plainObject => .plainObject
  | .enumeration _ => .enumeration
  | .specialization _ => .specialization
  | .singleInheritance _ => .singleInheritance

end RamlScaffold

------------------------------------------------------------
-- Classification
------------------------------------------------------------

namespace RamlScaffold

/- The first occurrence of each text, in order. -/
def firstOccurrences (names : List String) : List String :=
  names.foldl
    (fun kept name =>
      if kept.contains name then kept else kept ++ [name])
    []

namespace TypeExpr

/- The parents that a list of names declares. -/
def parents (names : List String) : List String :=
  firstOccurrences
    ((names.map Text.trimmed).filter (· != ""))

/- The lone name of an expression, if it is one. -/
def single? : TypeExpr → Option String
  | .single name => some name
  | _ => none

end TypeExpr

namespace TypeDecl

/-
  The type of the values of a map: the declared additional
  properties, else the type of the only property.
-/
def mapValue? (decl : TypeDecl) : Option String :=
  match decl.additional with
  | some name => some name
  | none =>
      match decl.properties with
      | [property] => some (property.typeName.getD "any")
      | _ => none

/- The classification of a declaration with one type name. -/
def classifySingle (decl : TypeDecl) : Classification :=
  let raw := decl.typeExpr.raw
  if decl.flags.union then .union raw
  else if decl.flags.array then .array raw
  else if decl.flags.map then .map decl.mapValue?
  else if Text.sameAscii raw "object" then .plainObject
  else if decl.flags.enumeration then
    .enumeration decl.typeExpr.single?
  else if decl.properties.isEmpty then .specialization raw
  else .singleInheritance raw

/- The classification of a declaration. -/
def classify (decl : TypeDecl) : Classification :=
  match decl.typeExpr with
  | .multiple (first :: second :: rest) =>
      .multipleInheritance
        (TypeExpr.parents (first :: second :: rest))
  | _ => decl.classifySingle

end TypeDecl

end RamlScaffold
