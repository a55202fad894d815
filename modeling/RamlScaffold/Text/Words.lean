import RamlScaffold.Text.Alphabet

/-
  Cutting character lists: pieces between separators, words,
  trimmed texts, lines, and replacement of every occurrence
  of a pattern.

  Key definitions include:
    * `Text.splitBy`, `Text.words`
    * `Text.trimStart`, `Text.trimEnd`, `Text.trim`
    * `Text.stripEnd?`
    * `Text.lines`
    * `Text.replaceAll`
    * `Text.lowerAscii`, `Text.sameAscii`
-/

------------------------------------------------------------
-- Pieces And Words
------------------------------------------------------------

namespace RamlScaffold.Text

/-
  The pieces of a text between separators.  Empty pieces are
  kept, so there is one piece more than separators.
-/
def splitBy
    (isSeparator : Char → Bool) :
    List Char → List (List Char)
  | [] => [[]]
  | c :: rest =>
      if isSeparator c then
        [] :: splitBy isSeparator rest
      else
        match splitBy isSeparator rest with
        | [] => [[c]]
        | piece :: pieces => (c :: piece) :: pieces

/- The maximal runs of characters that a word may hold. -/
def words
    (isWordChar : Char → Bool)
    (text : List Char) : List (List Char) :=
  (splitBy (fun c => !isWordChar c) text).filter
    (fun word => !word.isEmpty)

end RamlScaffold.Text

------------------------------------------------------------
-- Trimming
------------------------------------------------------------

namespace RamlScaffold.Text

/- A text without the white space at its start. -/
def trimStart (text : List Char) : List Char :=
  text.dropWhile Alphabet.isBlank

/- A text without the white space at its end. -/
def trimEnd (text : List Char) : List Char :=
  (text.reverse.dropWhile Alphabet.isBlank).reverse

/- A text without the white space around it. -/
def trim (text : List Char) : List Char :=
  trimEnd (trimStart text)

/- A string without the white space around it. -/
def trimmed (text : String) : String :=
  String.ofList (trim text.toList)

/- What stands before an ending, if the text has it. -/
def stripEnd?
    (ending text : List Char) : Option (List Char) :=
  if ending.isSuffixOf text then
    some (text.take (text.length - ending.length))
  else none

end RamlScaffold.Text

------------------------------------------------------------
-- Lines
------------------------------------------------------------

namespace RamlScaffold.Text

/-
  The lines of a text, each without the white space at its
  end.  A line break at the very end opens no further line.
-/
def lines (text : String) : List String :=
  let pieces := splitBy (· == '\n') text.toList
  let kept :=
    match pieces.getLast? with
    | some [] => pieces.dropLast
    | _ => pieces
  kept.map (fun piece => String.ofList (trimEnd piece))

end RamlScaffold.Text

------------------------------------------------------------
-- Replacement
------------------------------------------------------------

namespace RamlScaffold.Text

/-
  Replacement from the left, without overlaps.  `skip` counts
  the characters of the last occurrence still to be passed.
-/
def replaceFrom
    (pattern replacement : List Char) :
    Nat → List Char → List Char
  | _, [] => []
  | skip + 1, _ :: rest =>
      replaceFrom pattern replacement skip rest
  | 0, c :: rest =>
      if pattern.isPrefixOf (c :: rest) then
        replacement ++
          replaceFrom pattern replacement
            (pattern.length - 1) rest
      else
        c :: replaceFrom pattern replacement 0 rest

/- Every occurrence of a nonempty pattern replaced. -/
def replaceAll
    (pattern replacement text : List Char) : List Char :=
  replaceFrom pattern replacement 0 text

end RamlScaffold.Text

------------------------------------------------------------
-- ASCII Case
------------------------------------------------------------

namespace RamlScaffold.Text

/- A text with its ASCII capitals made small. -/
def lowerAscii (text : String) : String :=
  String.ofList (text.toList.map Char.toLower)

/- Equality of texts up to the case of ASCII letters. -/
def sameAscii (a b : String) : Bool :=
  lowerAscii a == lowerAscii b

end RamlScaffold.Text
