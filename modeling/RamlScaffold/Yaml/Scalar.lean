import RamlScaffold.Yaml.Value

/-
  What a scalar without quotes stands for.

  Only the words of the core schema are null or truth values.
  Integers may be hexadecimal, octal or binary; they have at
  most 64 bits, and one that needs up to 128 is refused.
  Digits after a leading zero are a text, and so is a number
  too large for a decimal.

  Key definitions include:
    * `Yaml.isNullWord`, `Yaml.boolWord?`
    * `Yaml.integerWithin?`
    * `Yaml.readDecimal?`
    * `Yaml.ofPlain?`
    * `Yaml.ofTag?`
-/

------------------------------------------------------------
-- Words
------------------------------------------------------------

namespace RamlScaffold.Yaml

/- The words for null. -/
def isNullWord (content : String) : Bool :=
  ["null", "Null", "NULL", "~"].contains content

/- The truth value of a word, if it has one. -/
def boolWord? (content : String) : Option Bool :=
  if ["true", "True", "TRUE"].contains content then some true
  else if ["false", "False", "FALSE"].contains content then
    some false
  else none

end RamlScaffold.Yaml

------------------------------------------------------------
-- Integers
------------------------------------------------------------

namespace RamlScaffold.Yaml

/- The value of a digit in any radix up to 36. -/
def digitValue? (c : Char) : Option Nat :=
  if c.isDigit then some (c.toNat - '0'.toNat)
  else if c.isLower then some (c.toNat - 'a'.toNat + 10)
  else if c.isUpper then some (c.toNat - 'A'.toNat + 10)
  else none

/- The value of a nonempty row of digits. -/
def digitsValue?
    (radix : Nat)
    (digits : List Char) : Option Nat :=
  if digits.isEmpty then none
  else
    digits.foldlM
      (fun value c =>
        (digitValue? c).bind
          (fun digit =>
            if digit < radix then some (value * radix + digit)
            else none))
      0

/- The radix that the start of a number announces. -/
def announced : List Char → Nat × List Char
  | '0' :: 'x' :: rest => (16, rest)
  | '0' :: 'o' :: rest => (8, rest)
  | '0' :: 'b' :: rest => (2, rest)
  | rest => (10, rest)

/- Whether a leading zero makes a row of digits a text. -/
def isPadded (content : List Char) : Bool :=
  let bare :=
    match content with
    | '-' :: rest => rest
    | '+' :: rest => rest
    | rest => rest
  match bare with
  | '0' :: c :: rest => (c :: rest).all Char.isDigit
  | _ => false

/- The integer that a text denotes within some bits. -/
def integerWithin?
    (bits : Nat)
    (content : List Char) : Option Int :=
  if isPadded content then none
  else
    match content with
    | '-' :: rest =>
        let (radix, digits) := announced rest
        (digitsValue? radix digits).bind
          (fun value =>
            if value ≤ Nat.pow 2 (bits - 1) then
              some (-(value : Int))
            else none)
    | content =>
        let bare :=
          match content with
          | '+' :: rest => rest
          | rest => rest
        let (radix, digits) := announced bare
        (digitsValue? radix digits).bind
          (fun value =>
            if value < Nat.pow 2 bits then some (value : Int)
            else none)

end RamlScaffold.Yaml

------------------------------------------------------------
-- Decimals
------------------------------------------------------------

namespace RamlScaffold.Yaml

/- The value of digits that may be none at all. -/
def looseValue (digits : List Char) : Nat :=
  digits.foldl
    (fun value c => value * 10 + (c.toNat - '0'.toNat)) 0

/- The power of ten that ends a decimal. -/
def readPower? : List Char → Option Int
  | [] => some 0
  | c :: rest =>
      if c == 'e' || c == 'E' then
        match rest with
        | '-' :: digits =>
            (digitsValue? 10 digits).map
              (fun n => -(n : Int))
        | '+' :: digits =>
            (digitsValue? 10 digits).map Int.ofNat
        | digits => (digitsValue? 10 digits).map Int.ofNat
      else none

/- The decimal without a sign that a text denotes. -/
def readUnsigned? (content : List Char) : Option Decimal :=
  let whole := content.takeWhile Char.isDigit
  let afterWhole := content.dropWhile Char.isDigit
  let (part, rest) :=
    match afterWhole with
    | '.' :: tail =>
        (tail.takeWhile Char.isDigit, tail.dropWhile Char.isDigit)
    | other => ([], other)
  if whole.isEmpty && part.isEmpty then none
  else
    (readPower? rest).map
      (fun power =>
        ⟨false, looseValue (whole ++ part), power - part.length⟩)

/- The decimal that a text denotes. -/
def readDecimal? (content : List Char) : Option Decimal :=
  match content with
  | '-' :: rest =>
      (readUnsigned? rest).map
        (fun decimal => { decimal with negative := true })
  | '+' :: rest => readUnsigned? rest
  | rest => readUnsigned? rest

/- The number with a fraction that a text denotes. -/
def fractional? (content : String) : Option Number :=
  if [".inf", ".Inf", ".INF", "+.inf", "+.Inf",
      "+.INF"].contains content then
    some (.infinity false)
  else if ["-.inf", "-.Inf", "-.INF"].contains content then
    some (.infinity true)
  else if [".nan", ".NaN", ".NAN"].contains content then
    some .notANumber
  else
    (readDecimal? content.toList).bind
      (fun decimal => decimal.rounded?.map Number.decimal)

end RamlScaffold.Yaml

------------------------------------------------------------
-- Resolution
------------------------------------------------------------

namespace RamlScaffold.Yaml

/- The integer of a text, or a refusal of one too wide. -/
def integer? (content : String) : Option (Option Value) :=
  match integerWithin? 64 content.toList with
  | some value => some (some (.number (.integer value)))
  | none =>
      if (integerWithin? 128 content.toList).isSome then none
      else some none

/-
  The value of a scalar without quotes.  It is refused only
  where it is an integer of too many bits.
-/
def ofPlain? (content : String) : Option Value :=
  if content = "" || isNullWord content then some .null
  else
    match boolWord? content with
    | some flag => some (.bool flag)
    | none =>
        match integer? content with
        | none => none
        | some (some value) => some value
        | some none =>
            if isPadded content.toList then some (.text content)
            else
              match fractional? content with
              | some number => some (.number number)
              | none => some (.text content)

/- The tags of the core schema begin with this text. -/
def coreTag (name : String) : String :=
  "tag:yaml.org,2002:" ++ name

/-
  The value of a scalar under a tag that is not local.  The
  content has to be of the type that a core tag names.
-/
def ofTag?
    (tag content : String) : Option Value :=
  if tag = coreTag "bool" then
    (boolWord? content).map Value.bool
  else if tag = coreTag "int" then (integer? content).join
  else if tag = coreTag "float" then
    (fractional? content).map Value.number
  else if tag = coreTag "null" then
    if isNullWord content then some .null else none
  else some (.text content)

end RamlScaffold.Yaml
