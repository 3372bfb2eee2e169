/-
  Decimal forms of binary floating point numbers.

  * `Binary.shortest` is the decimal number of fewest digits that lies nearer to a
    value than to any other, and of those the nearest;
  * `Decimal.text` writes a decimal number: positional from 10 ^ (-5) up to 10 ^ 16,
    with an exponent beyond.
-/
import JiraMarkup.Number.Binary
import JiraMarkup.Text

namespace JiraMarkup

/-- The number `digits * 10 ^ exponent`. -/
structure Decimal where
  /-- The digits, as a whole number. -/
  digits : Nat
  /-- The power of ten. -/
  exponent : Int
  deriving DecidableEq, Repr

/-! ## The shortest form -/

/-- How many digits a whole number has. -/
def digitCount (n : Nat) : Nat := (Nat.toDigits 10 n).length

/-- The power of ten of the first digit of a positive fraction. -/
def leadingPower (num den : Nat) : Int :=
  if den ≤ num then (digitCount (num / den) : Int) - 1
  else -(digitCount ((den + num - 1) / num - 1) : Int)

namespace Binary

/-- The decimal number with `n + 1` digits nearest to a positive value, if it is nearer
    to this value than to its neighbours. Distances are counted in quarters of the last
    binary digit; the ends of the interval belong to an even mantissa. -/
def decimalOf? (x : Binary) (n : Nat) : Option Decimal :=
  let (num, den) := x.fraction
  let k := leadingPower num den - n
  let (two, one) := shift 1 1 (2 - x.exponent)
  let a := Nat.pow 10 k.toNat * two
  let b := Nat.pow 10 (-k).toNat * one
  let value := 4 * x.mantissa
  let low := if x.mantissa = leastMantissa ∧ -1074 < x.exponent then value - 1 else value - 2
  let within (d : Nat) : Bool :=
    if x.mantissa % 2 = 0 then low * b ≤ d * a ∧ d * a ≤ (value + 2) * b
    else low * b < d * a ∧ d * a < (value + 2) * b
  let d := value * b / a
  match within d, within (d + 1) with
  | true, false => some ⟨d, k⟩
  | false, true => some ⟨d + 1, k⟩
  | false, false => none
  | true, true => some ⟨nearest (value * b) a, k⟩

/-- The decimal number of fewest digits that stands for a value. -/
def shortest (x : Binary) : Decimal :=
  if x.mantissa = 0 then ⟨0, 0⟩
  else ((List.range 17).findSome? x.decimalOf?).getD ⟨x.mantissa, 0⟩

end Binary

/-! ## Writing -/

/-- The text of an exponent: its sign, then its digits. -/
def exponentText (e : Int) : Text :=
  (if e < 0 then '-' else '+') :: Text.ofNat e.natAbs

/-- The digits of a decimal number with a point and, where needed, an exponent. -/
def Decimal.text (x : Decimal) : Text :=
  let written := Text.ofNat x.digits
  let lead : Int := x.exponent + written.length - 1
  let digits := if x.digits = 0 then written else (written.reverse.dropWhile (· = '0')).reverse
  if -5 ≤ lead ∧ lead ≤ 15 then
    if lead < 0 then "0." ++ List.replicate (-lead - 1).toNat '0' ++ digits
    else if digits.length ≤ lead.toNat + 1 then
      digits ++ List.replicate (lead.toNat + 1 - digits.length) '0' ++ ".0"
    else digits.take (lead.toNat + 1) ++ '.' :: digits.drop (lead.toNat + 1)
  else
    let body := if digits.length ≤ 1 then digits else digits.take 1 ++ '.' :: digits.drop 1
    body ++ 'e' :: exponentText lead

end JiraMarkup
