/-
  Binary floating point numbers of 53 digits, without their signs.

  A value is a mantissa below 2 ^ 53 times a power of two; the power is at least
  2 ^ (-1074) and at most 2 ^ 971. Arithmetic is exact arithmetic on fractions
  followed by one rounding.

  * `Binary` is a finite value, `Binary.fraction` the fraction that it is;
  * `Binary.round?` is the value nearest to a fraction, a tie going to the even
    mantissa; there is none for a fraction that is too large;
  * `Binary.mul?` and `Binary.div?` are products and quotients, rounded.
-/

namespace JiraMarkup

/-- The value `mantissa * 2 ^ exponent`. -/
structure Binary where
  /-- The mantissa, below 2 ^ 53. -/
  mantissa : Nat
  /-- The exponent, from -1074 to 971. -/
  exponent : Int
  deriving DecidableEq, Repr

namespace Binary

/-- Zero. -/
def zero : Binary := ⟨0, -1074⟩

/-- The fraction `num / den` times a power of two. -/
def shift (num den : Nat) (e : Int) : Nat × Nat :=
  (num * Nat.pow 2 e.toNat, den * Nat.pow 2 (-e).toNat)

/-- The fraction that a value is. -/
def fraction (x : Binary) : Nat × Nat := shift x.mantissa 1 x.exponent

/-- The whole number nearest to a fraction, a tie going to the even one. -/
def nearest (num den : Nat) : Nat :=
  let q := num / den
  let r := num % den
  if 2 * r < den ∨ (2 * r = den ∧ q % 2 = 0) then q else q + 1

/-- The least mantissa of 53 binary digits. -/
def leastMantissa : Nat := 0x10000000000000

/-- The exponent that gives a positive fraction a mantissa of 53 binary digits, or the
    least exponent if that is larger. -/
def exponentFor (num den : Nat) : Int :=
  let e : Int := Nat.log2 num - Nat.log2 den - 52
  let (n, d) := shift num den (-e)
  max (-1074) (if n / d < leastMantissa then e - 1 else e)

/-- The value nearest to a fraction, and `none` for a fraction that is too large. -/
def round? (num den : Nat) : Option Binary :=
  if num = 0 then some zero
  else
    let e := exponentFor num den
    let (n, d) := shift num den (-e)
    let m := nearest n d
    let x : Binary := if m = 2 * leastMantissa then ⟨leastMantissa, e + 1⟩ else ⟨m, e⟩
    if x.exponent ≤ 971 then some x else none

/-- The product of two values. -/
def mul? (x y : Binary) : Option Binary :=
  let (n, d) := shift (x.mantissa * y.mantissa) 1 (x.exponent + y.exponent)
  round? n d

/-- The quotient of two values, the second not zero. -/
def div? (x y : Binary) : Option Binary :=
  let (n, d) := shift x.mantissa y.mantissa (x.exponent - y.exponent)
  round? n d

/-- The value nearest to a whole number. -/
def ofNat? (n : Nat) : Option Binary := round? n 1

end Binary

end JiraMarkup
