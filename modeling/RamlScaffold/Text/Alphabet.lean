import RamlScaffold.Text.Alphabet.Letters
import RamlScaffold.Text.Alphabet.Numerals
import RamlScaffold.Text.Alphabet.Capitals
import RamlScaffold.Text.Alphabet.CaseMap
import RamlScaffold.Text.Alphabet.WordEnds

/-
  Character classes and case mappings over the whole of
  Unicode.  ASCII is decided by rule and everything beyond it
  by table, so a fact about ASCII text needs no table.

  Key definitions include:
    * `Alphabet.isLetter`, `Alphabet.isNumeral`
    * `Alphabet.isAlphanumeric`
    * `Alphabet.isCapital`
    * `Alphabet.isBlank`
    * `Alphabet.upper`, `Alphabet.lower`
    * `Alphabet.lowerText`, `Alphabet.upperText`
-/

------------------------------------------------------------
-- Table Lookup
------------------------------------------------------------

namespace RamlScaffold.Alphabet

/-
  Membership in ascending closed ranges.  The search ends at
  the first range that lies above the code point.
-/
def inRanges :
    List (Nat × Nat) → Nat → Bool
  | [], _ => false
  | (first, last) :: ranges, n =>
      if n < first then false
      else n ≤ last || inRanges ranges n

end RamlScaffold.Alphabet

------------------------------------------------------------
-- Classes
------------------------------------------------------------

namespace RamlScaffold.Alphabet

/- An ASCII character. -/
def isAscii (c : Char) : Bool :=
  c.toNat < 128

/- A letter of any script. -/
def isLetter (c : Char) : Bool :=
  if isAscii c then c.isAlpha
  else inRanges letterRanges c.toNat

/- A digit or another sign with a numeric value. -/
def isNumeral (c : Char) : Bool :=
  if isAscii c then c.isDigit
  else inRanges numeralRanges c.toNat

/- A letter or a numeral: what a word is made of. -/
def isAlphanumeric (c : Char) : Bool :=
  isLetter c || isNumeral c

/- A capital letter. -/
def isCapital (c : Char) : Bool :=
  if isAscii c then c.isUpper
  else capitalRuns.any (·.holds c.toNat)

/-
  White space: the characters with the Unicode property
  White_Space, among them the next-line sign, the no-break
  space and the ideographic space.
-/
def isBlank (c : Char) : Bool :=
  let n := c.toNat
  n == 0x20 || (0x09 ≤ n && n ≤ 0x0D) || n == 0x85 ||
    n == 0xA0 || n == 0x1680 ||
    (0x2000 ≤ n && n ≤ 0x200A) ||
    n == 0x2028 || n == 0x2029 || n == 0x202F ||
    n == 0x205F || n == 0x3000

end RamlScaffold.Alphabet

------------------------------------------------------------
-- Case Mapping
------------------------------------------------------------

namespace RamlScaffold.Alphabet

/-
  The other case of a character: its listed expansion, else
  the shift of the run it lies on, else the character itself.
-/
def recase
    (expansions : List (Nat × List Nat))
    (shifts : List Shift)
    (c : Char) : List Char :=
  match expansions.lookup c.toNat with
  | some codes => codes.map Char.ofNat
  | none =>
      match shifts.find? (·.toRun.holds c.toNat) with
      | some shift =>
          [Char.ofNat (c.toNat + shift.distance).toNat]
      | none => [c]

/- The capital form of a character. -/
def upper (c : Char) : List Char :=
  if isAscii c then [c.toUpper]
  else recase upperExpansions upperShifts c

/- The small form of a character, read on its own. -/
def lower (c : Char) : List Char :=
  if isAscii c then [c.toLower]
  else recase lowerExpansions lowerShifts c

end RamlScaffold.Alphabet

------------------------------------------------------------
-- Case Mapping of Texts
------------------------------------------------------------

namespace RamlScaffold.Alphabet

/- A letter that has a case. -/
def isCased (c : Char) : Bool :=
  if isAscii c then c.isAlpha
  else inRanges casedRanges c.toNat

/- A mark that is passed over when a word end is sought. -/
def isIgnorable (c : Char) : Bool :=
  if isAscii c then
    c == '\'' || c == '.' || c == ':' || c == '^' ||
      c.toNat == 96
  else inRanges ignorableRanges c.toNat

/- Whether the first mark that counts is a cased letter. -/
def meetsCased (text : List Char) : Bool :=
  match text.dropWhile isIgnorable with
  | [] => false
  | c :: _ => isCased c

/-
  Small forms of a text whose beginning, reversed, is
  `before`.  A capital sigma that ends a word becomes the
  final sigma.
-/
def lowerFrom
    (before : List Char) :
    List Char → List Char
  | [] => []
  | c :: rest =>
      let small :=
        if c == 'Σ' then
          if meetsCased before && !meetsCased rest then
            ['ς']
          else ['σ']
        else lower c
      small ++ lowerFrom (c :: before) rest

/- A text in small letters. -/
def lowerText (text : String) : String :=
  String.ofList (lowerFrom [] text.toList)

/- A text in capital letters. -/
def upperText (text : String) : String :=
  String.ofList (text.toList.flatMap upper)

end RamlScaffold.Alphabet
