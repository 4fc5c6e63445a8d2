import ScreenBridge.Number.Shortest

/-!
# How a number is laid out

A number is written with its shortest digits. Between two powers of ten it is written with a
point and at least one digit after it; outside, with one digit before the point and the power of
ten behind an `e` and a sign.
-/

namespace ScreenBridge.Number

/-- The powers of ten `least ≤ e < bound` are written with a point; others get an exponent of at
least `exponentWidth` digits. -/
structure Layout where
  least : Int
  bound : Int
  exponentWidth : Nat
  deriving DecidableEq, Repr

/-- The layout of dense text: short exponents, and points down to the fifth place. -/
def Layout.dense : Layout := ⟨-5, 16, 1⟩

/-- The layout of plain text: two digits in an exponent, and points down to the fourth place. -/
def Layout.plain : Layout := ⟨-4, 16, 2⟩

def zeros (n : Nat) : List Char :=
  List.replicate n '0'

/-- Digits with the point where the power of ten puts it. -/
def positional (d : Decimal) : List Char :=
  if d.exponent < 0 then '0' :: '.' :: (zeros ((-d.exponent).toNat - 1) ++ d.digits)
  else
    let whole := d.exponent.toNat + 1
    if d.digits.length ≤ whole then
      d.digits ++ zeros (whole - d.digits.length) ++ ['.', '0']
    else d.digits.take whole ++ '.' :: d.digits.drop whole

/-- Digits with a point after the first, and the power of ten. -/
def scientific (width : Nat) (d : Decimal) : List Char :=
  let head := match d.digits with
    | c :: e :: rest => c :: '.' :: e :: rest
    | ds => ds
  let power := Nat.toDigits 10 d.exponent.natAbs
  head ++ 'e' :: (if d.exponent < 0 then '-' else '+') :: (zeros (width - power.length) ++ power)

def Layout.chars (l : Layout) (x : Binary64) : List Char :=
  let body :=
    if x.isZero then ['0', '.', '0']
    else
      let d := shortest x.mantissa x.exponent
      if l.least ≤ d.exponent ∧ d.exponent < l.bound then positional d
      else scientific l.exponentWidth d
  if x.negative then '-' :: body else body

/-- The text of a number in a layout. -/
def Layout.text (l : Layout) (x : Binary64) : String :=
  String.ofList (l.chars x)

end ScreenBridge.Number
