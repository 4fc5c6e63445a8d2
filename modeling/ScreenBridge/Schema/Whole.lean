import ScreenBridge.Schema.Field
import ScreenBridge.Text.Blank

/-!
# Whole numbers

A whole number may be given as a number, as one of the two truth values, or as a text: decimal
digits with a sign, blanks around them, single underscores between them, and a fraction that is
all zeros. Zeros in front of a positive number, and underscores behind them, say nothing; a minus
sign may also come after them.
-/

namespace ScreenBridge.Schema

open Checked

/-! ## Numbers in texts -/

/-- The white space around a number: unlike elsewhere, the four separators of files, groups,
records and units do not count. -/
def surroundsNumber (c : Char) : Bool :=
  Text.isBlank c && !(0x1c ≤ c.toNat && c.toNat ≤ 0x1f)

/-- Characters without the white space at both ends. -/
def trimNumber (cs : List Char) : List Char :=
  ((cs.dropWhile surroundsNumber).reverse.dropWhile surroundsNumber).reverse

/-- The characters after a plus sign; a minus sign may not follow it. -/
def dropPlus? : List Char → Option (List Char)
  | '+' :: '-' :: _ => none
  | '+' :: rest => some rest
  | cs => some cs

/-- A character that a number without zeros in front starts with. -/
def leadsNumber (c : Char) : Bool :=
  c = '-' || (c.isDigit && c ≠ '0')

/-- The characters after a zero in front without further zeros and underscores; `last` is the
character before them, which stays if no digit comes. -/
def afterZero? (last : Char) : List Char → Option (List Char)
  | [] => some [last]
  | c :: rest =>
    if c = '0' ∨ c = '_' then afterZero? c rest
    else if leadsNumber c then some (c :: rest)
    else if c = '.' then some (last :: c :: rest)
    else none

/-- Characters without zeros in front of them. -/
def dropLeadingZeros? : List Char → Option (List Char)
  | [] => none
  | c :: rest =>
    if c = '0' then afterZero? '0' rest
    else if leadsNumber c then some (c :: rest)
    else none

/-- Characters without a fraction at their end that is all zeros. -/
def dropZeroFraction (cs : List Char) : List Char :=
  match cs.dropWhile (· ≠ '.') with
  | _ :: c :: fraction => if (c :: fraction).all (· = '0') then cs.takeWhile (· ≠ '.') else cs
  | _ => cs

/-- Whether two underscores stand side by side. -/
def hasDoubleUnderscore : List Char → Bool
  | '_' :: '_' :: _ => true
  | _ :: rest => hasDoubleUnderscore rest
  | [] => false

/-- Characters without underscores, if each of them stands between two others. -/
def dropUnderscores (cs : List Char) : List Char :=
  if cs.head? = some '_' ∨ cs.getLast? = some '_' ∨ hasDoubleUnderscore cs then cs
  else cs.filter (· ≠ '_')

/-- Characters that write a whole number with the fewest characters, if they write one. -/
def plainNumber? (cs : List Char) : Option (List Char) := do
  let cs ← dropPlus? (trimNumber cs)
  let cs ← dropLeadingZeros? cs
  return dropUnderscores (dropZeroFraction cs)

/-- The number that digits behind a sign write. -/
def intOfDigits (negative : Bool) (cs : List Char) : Checked Int :=
  let ds := cs.takeWhile Char.isDigit
  if ds = [] ∨ (ds.head? = some '0' ∧ cs ≠ ['0']) then fail .unreadableInt
  else if Json.maxDigits < ds.length + negative.toNat then fail .oversizedInt
  else if ds.length ≠ cs.length then fail .unreadableInt
  else
    let n : Int := ds.foldl (fun n d => n * 10 + (d.toNat - '0'.toNat)) 0
    valid (if negative then -n else n)

/-- A whole number out of a text. -/
def intOfText (s : String) : Checked Int :=
  match plainNumber? s.toList with
  | none => fail .unreadableInt
  | some ('-' :: ds) => intOfDigits true ds
  | some ds => intOfDigits false ds

/-! ## Numbers -/

/-- A whole number. A floating point number has to be whole and to fit into 64 bits. -/
def int : Json → Checked Int
  | .int i => valid i
  | .bool b => valid (if b then 1 else 0)
  | .real x =>
    if x.toInt?.isNone then fail .fractionalInt
    else match smallReal? x with
      | some i => valid i
      | none => fail .oversizedInt
  | .str s => intOfText s
  | _ => fail .notInt

/-- A number that has to be larger than a bound. -/
def greaterThan (bound i : Int) : Checked Int :=
  if bound < i then valid i else fail (.notGreaterThan bound)

/-- A number that has to be smaller than a bound. -/
def lessThan (bound i : Int) : Checked Int :=
  if i < bound then valid i else fail (.notLessThan bound)

def positiveInt (v : Json) : Checked Int :=
  (int v).andThen (greaterThan 0)

end ScreenBridge.Schema
