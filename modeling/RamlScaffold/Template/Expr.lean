import RamlScaffold.Template.Value

/-
  Templates: text with expressions, conditions and loops.

  Key definitions include:
    * `Template.Expr`
    * `Template.Part`
    * `Template`
-/

------------------------------------------------------------
-- Expressions
------------------------------------------------------------

namespace RamlScaffold.Template

/- How two values are compared. -/
inductive Comparison where
  | equal
  | unequal
  | below
  | atMost
  | above
  | atLeast
  | within
deriving DecidableEq, Repr

/- An expression of a template. -/
inductive Expr where
  | constant (value : Value)
  | list (items : List Expr)
  | ref (target : String)
  | attribute (base : Expr) (name : String)
  | item (base key : Expr)
  | filter (base : Expr) (name : String) (args : List Expr)
  | test (base : Expr) (name : String)
  | negation (operand : Expr)
  | both (left right : Expr)
  | either (left right : Expr)
  | compare (comparison : Comparison) (left right : Expr)
  | concat (left right : Expr)
  | choice (condition yes no : Expr)
deriving Repr, Inhabited

end RamlScaffold.Template

------------------------------------------------------------
-- Parts
------------------------------------------------------------

namespace RamlScaffold

namespace Template

/- A part of a template. -/
inductive Part where
  | text (content : String)
  | emit (expr : Expr)
  | branch (condition : Expr) (yes no : List Part)
  | each
      (targets : List String)
      (source : Expr)
      (body otherwise : List Part)
deriving Repr, Inhabited

end Template

/- A template is a row of parts. -/
abbrev Template : Type :=
  List Template.Part

end RamlScaffold
