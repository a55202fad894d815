import RamlScaffold.Text.Words

/-
  The HTTP verbs that a resource may declare.

  Key definitions include:
    * `Verb`
    * `Verb.walkOrder`
    * `Verb.parse?`
    * `Verb.title`, `Verb.wireName`
-/

------------------------------------------------------------
-- Verbs
------------------------------------------------------------

namespace RamlScaffold

/- An HTTP verb. -/
inductive Verb where
  | get
  | post
  | put
  | delete
  | patch
  | head
  | options
deriving DecidableEq, Repr, Inhabited

namespace Verb

/- The order in which the verbs of a resource are visited. -/
def walkOrder : List Verb :=
  [.get, .post, .head, .put, .delete, .patch, .options]

/- The name in generated identifiers. -/
def title : Verb → String
  | .get => "Get"
  | .post => "Post"
  | .put => "Put"
  | .delete => "Delete"
  | .patch => "Patch"
  | .head => "Head"
  | .options => "Options"

/- The name on the wire. -/
def wireName : Verb → String
  | .get => "GET"
  | .post => "POST"
  | .put => "PUT"
  | .delete => "DELETE"
  | .patch => "PATCH"
  | .head => "HEAD"
  | .options => "OPTIONS"

/- The verb of a method key, whatever its ASCII case. -/
def parse? (key : String) : Option Verb :=
  match Text.lowerAscii key with
  | "get" => some .get
  | "post" => some .post
  | "put" => some .put
  | "delete" => some .delete
  | "patch" => some .patch
  | "head" => some .head
  | "options" => some .options
  | _ => none

end Verb

end RamlScaffold
