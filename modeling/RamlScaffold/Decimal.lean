/-
  Decimal numbers, and the decimal that stands for a number
  kept with 53 binary digits.

  A decimal is rounded to the nearest number `m * 2 ^ e` and
  written with the fewest digits that read back as the same
  number.  All steps are exact.

  Key definitions include:
    * `Decimal`, `Binary`
    * `Binary.nearest?`
    * `Binary.shortest`
    * `Decimal.rounded?`
    * `Decimal.render`
-/

------------------------------------------------------------
-- Numbers
------------------------------------------------------------

namespace RamlScaffold

/- A decimal number: its digits times a power of ten. -/
structure Decimal where
  negative : Bool
  digits : Nat
  exponent : Int
deriving DecidableEq, Repr, Inhabited

/- A number with at most 53 binary digits. -/
structure Binary where
  mantissa : Nat
  exponent : Int
deriving DecidableEq, Repr

/- A power as a fraction, whatever the sign of the exponent. -/
def fractionOfPower
    (base : Nat)
    (exponent : Int) : Nat × Nat :=
  match exponent with
  | .ofNat n => (Nat.pow base n, 1)
  | .negSucc n => (1, Nat.pow base (n + 1))

end RamlScaffold

------------------------------------------------------------
-- Rounding To Binary Digits
------------------------------------------------------------

namespace RamlScaffold

namespace Binary

/- The smallest exponent that is used. -/
def leastExponent : Int := -1074

/- The largest exponent that is used. -/
def greatestExponent : Int := 971

/- A quotient rounded to the nearest; halves go to even. -/
def roundHalfEven
    (num den : Nat) : Nat :=
  let q := num / den
  let r := num % den
  if 2 * r < den then q
  else if den < 2 * r then q + 1
  else q + q % 2

/-
  The number nearest to a positive fraction.  There is none
  where the fraction is too large.
-/
def nearest?
    (num den : Nat) : Option Binary :=
  let magnitude : Int := (num.log2 : Int) - (den.log2 : Int)
  let scaled (e : Int) : Nat × Nat :=
    let power := fractionOfPower 2 e
    (num * power.2, den * power.1)
  let low := max (magnitude - 53) leastExponent
  let e :=
    if Nat.pow 2 53 ≤ (scaled low).1 / (scaled low).2 then
      low + 1
    else low
  let m := roundHalfEven (scaled e).1 (scaled e).2
  let result : Binary :=
    if m = Nat.pow 2 53 then ⟨Nat.pow 2 52, e + 1⟩
    else ⟨m, e⟩
  if greatestExponent < result.exponent then none
  else some result

end Binary

end RamlScaffold

------------------------------------------------------------
-- Fewest Digits
------------------------------------------------------------

namespace RamlScaffold

namespace Binary

/- The count of decimal digits of a natural number. -/
def width (n : Nat) : Nat :=
  (Nat.toDigits 10 n).length

/- The largest power of ten that a fraction reaches. -/
def decimalMagnitude
    (num den : Nat) : Int :=
  let guess : Int := (width num : Int) - (width den : Int)
  let power := fractionOfPower 10 guess
  if den * power.1 ≤ num * power.2 then guess
  else guess - 1

/- Digits without zeros at their end. -/
def stripZeros :
    Nat → Nat → Int → Nat × Int
  | 0, digits, exponent => (digits, exponent)
  | fuel + 1, digits, exponent =>
      if digits % 10 = 0 ∧ digits ≠ 0 then
        stripZeros fuel (digits / 10) (exponent + 1)
      else (digits, exponent)

/-
  Search among decimals with a growing count of digits.  The
  first count with a decimal that reads back wins, and of two
  such decimals the nearer one.
-/
def search
    (number : Binary)
    (magnitude : Int) :
    Nat → Nat → Nat × Int
  | 0, _ => (number.mantissa, number.exponent)
  | fuel + 1, count =>
      let unit := fractionOfPower 2 (number.exponent - 2)
      let grid : Int := magnitude - count + 1
      let power := fractionOfPower 10 grid
      let onGrid (quarters : Nat) : Nat :=
        quarters * unit.1 * power.2
      let step := unit.2 * power.1
      let m := number.mantissa
      let below := onGrid (4 * m) / step
      let narrow :=
        m = 2 ^ 52 ∧ leastExponent < number.exponent
      let low := onGrid (4 * m - (if narrow then 1 else 2))
      let high := onGrid (4 * m + 2)
      let reads (d : Nat) : Bool :=
        if m % 2 = 0 then low ≤ d * step && d * step ≤ high
        else low < d * step && d * step < high
      if reads below || reads (below + 1) then
        let rest := onGrid (4 * m) - below * step
        let chosen :=
          if !reads (below + 1) then below
          else if !reads below then below + 1
          else if 2 * rest < step then below
          else if step < 2 * rest then below + 1
          else below + below % 2
        stripZeros 20 chosen grid
      else search number magnitude fuel (count + 1)

/- The digits and exponent of the shortest decimal. -/
def shortest (number : Binary) : Nat × Int :=
  if number.mantissa = 0 then (0, 0)
  else
    let unit := fractionOfPower 2 number.exponent
    let magnitude :=
      decimalMagnitude (number.mantissa * unit.1) unit.2
    search number magnitude 17 1

end Binary

namespace Decimal

/- Magnitudes beyond this bound are zero or too large. -/
def magnitudeBound : Int := 400

/-
  The shortest decimal for the nearest number with 53 binary
  digits, unless the decimal is too large for one.
-/
def rounded? (decimal : Decimal) : Option Decimal :=
  let top : Int :=
    decimal.exponent + Binary.width decimal.digits
  if decimal.digits = 0 ∨ top < -magnitudeBound then
    some ⟨decimal.negative, 0, 0⟩
  else if magnitudeBound < top then none
  else
    let power := fractionOfPower 10 decimal.exponent
    (Binary.nearest? (decimal.digits * power.1) power.2).map
      (fun number =>
        let (digits, exponent) := number.shortest
        ⟨decimal.negative, digits, exponent⟩)

end Decimal

end RamlScaffold

------------------------------------------------------------
-- Writing
------------------------------------------------------------

namespace RamlScaffold

namespace Decimal

/- A row of zeros. -/
def zeros (count : Nat) : String :=
  String.ofList (List.replicate count '0')

/-
  The written form.  A point always shows.  Numbers from
  `0.00001` to below `10 ^ 16` are written positionally, all
  others with a power of ten.
-/
def render (decimal : Decimal) : String :=
  let sign := if decimal.negative then "-" else ""
  let digits := toString decimal.digits
  let length : Int := digits.length
  let top := length + decimal.exponent
  let text :=
    if decimal.digits = 0 then "0.0"
    else if 0 ≤ decimal.exponent ∧ top ≤ 16 then
      digits ++ zeros decimal.exponent.toNat ++ ".0"
    else if 0 < top ∧ top ≤ 16 then
      String.ofList (digits.toList.take top.toNat) ++ "." ++
        String.ofList (digits.toList.drop top.toNat)
    else if -5 < top ∧ top ≤ 0 then
      "0." ++ zeros (-top).toNat ++ digits
    else
      let rest := String.ofList digits.toList.tail
      String.ofList (digits.toList.take 1) ++
        (if rest = "" then "" else "." ++ rest) ++
        "e" ++ toString (top - 1)
  sign ++ text

end Decimal

end RamlScaffold
