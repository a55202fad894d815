import RamlScaffold.Template.Expr

/-
  Short forms in which the built-in templates are written.

  Key definitions include:
    * `Builtin.of`
    * `Builtin.put`, `Builtin.putOf`
    * `Builtin.putAs`, `Builtin.putOfAs`
    * `Builtin.putJoined`
-/

------------------------------------------------------------
-- Phrases
------------------------------------------------------------

namespace RamlScaffold.Template.Builtin

/- An attribute of a name. -/
def of (name key : String) : Expr :=
  .attribute (.ref name) key

/- Prints the value of a name. -/
def put (name : String) : Part :=
  .emit (.ref name)

/- Prints an attribute of a name. -/
def putOf (name key : String) : Part :=
  .emit (of name key)

/- Prints the value of a name through a filter. -/
def putAs (name filter : String) : Part :=
  .emit (.filter (.ref name) filter [])

/- Prints an attribute of a name through a filter. -/
def putOfAs (name key filter : String) : Part :=
  .emit (.filter (of name key) filter [])

/- Prints the items of a name with a separator. -/
def putJoined (name separator : String) : Part :=
  .emit
    (.filter (.ref name) "join" [.constant (.text separator)])

end RamlScaffold.Template.Builtin
