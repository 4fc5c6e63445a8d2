import ScreenBridge.Number.Binary64

/-!
# The shortest decimal that reads back

Of all decimals that round to a given number the one with the fewest digits is chosen, and of
several with that many digits the nearest. The decimals of `n` digits next to the number are its
two neighbours on a grid, so for each `n` only these two are tried; seventeen digits always do.
-/

namespace ScreenBridge.Number

/-- The decimal `d.ddd * 10 ^ exponent`, its digits without a zero at the end. -/
structure Decimal where
  digits : List Char
  exponent : Int
  deriving DecidableEq, Repr

/-- The positive numbers that round to a mantissa and a power of two, times four: the lower end,
the number itself and the upper end, all in units of `2 ^ exponent`. The ends belong to them when
the mantissa is even. -/
structure Rounding where
  lower : Nat
  middle : Nat
  upper : Nat
  exponent : Int
  closed : Bool

/-- Below a power of two the numbers lie twice as dense. -/
def Rounding.of (mantissa : Nat) (exponent : Int) : Rounding where
  lower := if mantissa = Nat.pow 2 52 ∧ leastExponent < exponent then 4 * mantissa - 1
    else 4 * mantissa - 2
  middle := 4 * mantissa
  upper := 4 * mantissa + 2
  exponent := exponent - 2
  closed := mantissa % 2 == 0

/-- Whether `d * 10 ^ grid` rounds to the number. -/
def Rounding.contains (r : Rounding) (d : Nat) (grid : Int) : Bool :=
  let scaled := d * powerAbove 10 grid * powerBelow 2 r.exponent
  let unit := powerAbove 2 r.exponent * powerBelow 10 grid
  let low := r.lower * unit
  let high := r.upper * unit
  if r.closed then low ≤ scaled && scaled ≤ high else low < scaled && scaled < high

/-- The neighbour on a grid of powers of ten that rounds to the number, the nearer one if both
do. -/
def Rounding.neighbour? (r : Rounding) (grid : Int) : Option Nat :=
  let n := r.middle * powerAbove 2 r.exponent * powerBelow 10 grid
  let d := powerBelow 2 r.exponent * powerAbove 10 grid
  let below := n / d
  match r.contains below grid, r.contains (below + 1) grid with
  | true, true => some (roundDiv n d)
  | true, false => some below
  | false, true => some (below + 1)
  | false, false => none

/-- The power of ten of the leading digit of a positive fraction. -/
def leadingPower (n d : Nat) : Int :=
  if d ≤ n then (Nat.toDigits 10 (n / d)).length - 1
  else -(Nat.toDigits 10 ((d + n - 1) / n - 1)).length

/-- A list of digits without the zeros at its end. -/
def dropTrailingZeros (ds : List Char) : List Char :=
  (ds.reverse.dropWhile (· == '0')).reverse

/-- The shortest decimal for a positive number. -/
def shortest (mantissa : Nat) (exponent : Int) : Decimal :=
  let r := Rounding.of mantissa exponent
  let lead := leadingPower (mantissa * powerAbove 2 exponent) (powerBelow 2 exponent)
  let hit := (List.range 17).findSome? fun (n : Nat) =>
    let grid := lead - n
    (r.neighbour? grid).map fun d => (d, grid)
  let (d, grid) := hit.getD (0, 0)
  let ds := Nat.toDigits 10 d
  ⟨dropTrailingZeros ds, grid + ds.length - 1⟩

end ScreenBridge.Number
