/-
  JSON values and their texts, over several lines or on one.

  Key definitions include:
    * `Json`, `Json.texts`, `Json.optional`
    * `Json.escape`
    * `Json.render`
    * `Json.line`
-/

------------------------------------------------------------
-- Values
------------------------------------------------------------

namespace RamlScaffold

/- A JSON value; entries keep their order. -/
inductive Json where
  | null
  | bool (value : Bool)
  | count (value : Nat)
  | text (content : String)
  | list (items : List Json)
  | record (entries : List (String × Json))
deriving Repr, Inhabited

namespace Json

/- A list of texts. -/
def texts (contents : List String) : Json :=
  .list (contents.map text)

/- A text, or null where there is none. -/
def optional : Option String → Json
  | some content => .text content
  | none => .null

end Json

end RamlScaffold

------------------------------------------------------------
-- Text
------------------------------------------------------------

namespace RamlScaffold

namespace Json

/- A hexadecimal digit. -/
def hexDigit (n : Nat) : Char :=
  if n < 10 then Char.ofNat ('0'.toNat + n)
  else Char.ofNat ('a'.toNat + n - 10)

/- A character as it stands between quotes. -/
def escape (c : Char) : List Char :=
  match c with
  | '"' => ['\\', '"']
  | '\\' => ['\\', '\\']
  | '\n' => ['\\', 'n']
  | '\r' => ['\\', 'r']
  | '\t' => ['\\', 't']
  | '\x08' => ['\\', 'b']
  | '\x0c' => ['\\', 'f']
  | c =>
      if c.toNat < 32 then
        ['\\', 'u', '0', '0', hexDigit (c.toNat / 16),
          hexDigit (c.toNat % 16)]
      else [c]

/- A text between quotes. -/
def quoted (content : String) : String :=
  String.ofList ('"' :: (content.toList.flatMap escape ++ ['"']))

/- The start of a line, two blanks for each level. -/
def indent (depth : Nat) : String :=
  "\n" ++ String.ofList (List.replicate (2 * depth) ' ')

/- Lines between an opening and a closing sign. -/
def block
    (opening closing : String)
    (depth : Nat)
    (lines : List String) : String :=
  if lines.isEmpty then opening ++ closing
  else
    opening ++ indent (depth + 1) ++
      ("," ++ indent (depth + 1)).intercalate lines ++
      indent depth ++ closing

mutual

/- The text of a value that starts at some depth. -/
def renderAt (depth : Nat) : Json → String
  | .null => "null"
  | .bool value => if value then "true" else "false"
  | .count value => toString value
  | .text content => quoted content
  | .list items => block "[" "]" depth (itemLines depth items)
  | .record entries =>
      block "\x7b" "\x7d" depth (entryLines depth entries)

/- The texts of items. -/
def itemLines (depth : Nat) : List Json → List String
  | [] => []
  | item :: items =>
      renderAt (depth + 1) item :: itemLines depth items

/- The texts of entries. -/
def entryLines
    (depth : Nat) : List (String × Json) → List String
  | [] => []
  | (key, value) :: entries =>
      (quoted key ++ ": " ++ renderAt (depth + 1) value) ::
        entryLines depth entries

end

/- The text of a value. -/
def render (value : Json) : String :=
  renderAt 0 value

end Json

end RamlScaffold

------------------------------------------------------------
-- Text On One Line
------------------------------------------------------------

namespace RamlScaffold

namespace Json

mutual

/- The text of a value on one line. -/
def line : Json → String
  | .null => "null"
  | .bool value => if value then "true" else "false"
  | .count value => toString value
  | .text content => quoted content
  | .list items => "[" ++ ",".intercalate (itemTexts items) ++ "]"
  | .record entries =>
      "\x7b" ++ ",".intercalate (entryTexts entries) ++ "\x7d"

/- The texts of items, each on one line. -/
def itemTexts : List Json → List String
  | [] => []
  | item :: items => line item :: itemTexts items

/- The texts of entries, each on one line. -/
def entryTexts : List (String × Json) → List String
  | [] => []
  | (key, value) :: entries =>
      (quoted key ++ ":" ++ line value) :: entryTexts entries

end

end Json

end RamlScaffold
