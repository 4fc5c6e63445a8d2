/-!
# Binary floating point numbers of 64 bits

A finite number is a sign, a mantissa below `2 ^ 53` and a power of two. Reading a decimal
rounds the exact quotient to the nearest such number, a half to the even neighbour, in integer
arithmetic throughout; a decimal past the largest number is refused.
-/

namespace ScreenBridge.Number

/-- The finite number `mantissa * 2 ^ exponent` with a sign, which zero has too. -/
structure Binary64 where
  negative : Bool
  mantissa : Nat
  exponent : Int
  deriving DecidableEq, Repr, Inhabited

/-- The smallest power of two that a mantissa is multiplied with. -/
def leastExponent : Int := -1074

/-- The largest power of two that a mantissa is multiplied with. -/
def greatestExponent : Int := 971

/-- Zero with a sign. -/
def Binary64.zero (negative : Bool) : Binary64 :=
  ⟨negative, 0, leastExponent⟩

/-- A quotient rounded to the nearest whole number, a half to the even one. -/
def roundDiv (n d : Nat) : Nat :=
  let q := n / d
  let r := n % d
  if 2 * r < d then q else if d < 2 * r then q + 1 else q + q % 2

/-- The part of `10 ^ e` or `2 ^ e` that stands above the line. -/
def powerAbove (base : Nat) (e : Int) : Nat :=
  base.pow e.toNat

/-- The part of `10 ^ e` or `2 ^ e` that stands below the line. -/
def powerBelow (base : Nat) (e : Int) : Nat :=
  base.pow (-e).toNat

/-- The nearest number to the positive fraction `n / d`, unless it is too large. -/
def Binary64.ofRatio? (negative : Bool) (n d : Nat) : Option Binary64 :=
  let guess : Int := (n.log2 : Int) - d.log2 - 52
  let quotient (q : Int) : Nat := n * powerBelow 2 q / (d * powerAbove 2 q)
  let q := if quotient guess < Nat.pow 2 52 then guess - 1 else guess
  let q := max q leastExponent
  let m := roundDiv (n * powerBelow 2 q) (d * powerAbove 2 q)
  let (m, q) := if m = Nat.pow 2 53 then (Nat.pow 2 52, q + 1) else (m, q)
  if greatestExponent < q then none else some ⟨negative, m, q⟩

/-- The nearest number to `digits * 10 ^ exponent`, unless it is too large. Decimals whose
leading digit lies far outside the range are settled without computing the power. -/
def Binary64.ofDecimal? (negative : Bool) (digits : Nat) (exponent : Int) : Option Binary64 :=
  let leading : Int := (Nat.toDigits 10 digits).length + exponent
  if digits = 0 then some (.zero negative)
  else if leading < -330 then some (.zero negative)
  else if 310 < leading then none
  else Binary64.ofRatio? negative (digits * powerAbove 10 exponent) (powerBelow 10 exponent)

/-- Both zeros are zero. -/
def Binary64.isZero (x : Binary64) : Bool :=
  x.mantissa == 0

/-- The whole number that a number is equal to, if there is one. -/
def Binary64.toInt? (x : Binary64) : Option Int :=
  let n := x.mantissa * powerAbove 2 x.exponent
  let d := powerBelow 2 x.exponent
  if n % d = 0 then some (if x.negative then -(n / d : Nat) else (n / d : Nat)) else none

end ScreenBridge.Number
