/-
  Entries kept in the order of their keys, one per key.

  Key definitions include:
    * `Keyed`
    * `Keyed.insert`
    * `Keyed.get?`
    * `Keyed.keys`
    * `Keyed.ofList`
-/

------------------------------------------------------------
-- Keyed Entries
------------------------------------------------------------

namespace RamlScaffold

/-
  Entries in ascending order of their keys.  Keys are compared
  by code point, which is also the order of their bytes.
-/
abbrev Keyed (α : Type) : Type :=
  List (String × α)

namespace Keyed

variable {α : Type}

/- Sets the entry of a key; a later entry replaces it. -/
def insert
    (key : String)
    (value : α) :
    Keyed α → Keyed α
  | [] => [(key, value)]
  | (other, current) :: rest =>
      if key = other then (key, value) :: rest
      else if key < other then
        (key, value) :: (other, current) :: rest
      else (other, current) :: insert key value rest

/- The value of a key. -/
def get?
    (key : String) :
    Keyed α → Option α
  | [] => none
  | (other, value) :: rest =>
      if key = other then some value else get? key rest

/- The keys in ascending order. -/
def keys (entries : Keyed α) : List String :=
  entries.map Prod.fst

/- Entries put in one after the other. -/
def ofList (entries : List (String × α)) : Keyed α :=
  entries.foldl
    (fun kept entry => kept.insert entry.1 entry.2) []

end Keyed

end RamlScaffold
