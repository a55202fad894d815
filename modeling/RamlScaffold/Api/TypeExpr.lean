import RamlScaffold.Text.Words

/-
  The type facet of a declaration: missing, one name, or
  several parents.

  Key definitions include:
    * `TypeExpr`
    * `TypeExpr.ofNames`
    * `TypeExpr.parse`
    * `TypeExpr.raw`
    * `TypeExpr.isAbsent`
-/

------------------------------------------------------------
-- Type Expressions
------------------------------------------------------------

namespace RamlScaffold

/- What the type facet of a declaration says. -/
inductive TypeExpr where
  | absent
  | single (name : String)
  | multiple (names : List String)
deriving DecidableEq, Repr, Inhabited

namespace TypeExpr

/- The expression of a list of parent names. -/
def ofNames : List String → TypeExpr
  | [] => .absent
  | [name] => .single name
  | names => .multiple names

/-
  The expression of a written type, in which commas part the
  names of several parents.
-/
def parse (text : String) : TypeExpr :=
  let names :=
    (Text.splitBy (· == ',') text.toList).map Text.trim
  ofNames
    ((names.filter (fun name => !name.isEmpty)).map
      String.ofList)

/- The written form; a missing facet is an object. -/
def raw : TypeExpr → String
  | .absent => "object"
  | .single name => name
  | .multiple names => ", ".intercalate names

/- Whether the facet is missing. -/
def isAbsent : TypeExpr → Bool
  | .absent => true
  | _ => false

end TypeExpr

end RamlScaffold
