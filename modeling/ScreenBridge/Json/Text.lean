import ScreenBridge.Json.Basic
import ScreenBridge.Number.Layout

/-!
# The text of a value

One writer serves three forms: dense text without spaces, one line with spaces after commas and
colons, and indented text with an item a line. Strings are quoted alike in all three; floating
point numbers have a layout for each. `Json.encode` picks the form: dense text as long as whole
numbers fit into 64 bits and the nesting stays below 255 levels, spaced text otherwise.

A whole number of more than `maxDigits` digits is not turned into text. `Json.write` says so; the
other functions, and those in other modules that put a value into a text, have a result for every
value and stand for the program where the value is `isWritable`. What is read from a text is.
-/

namespace ScreenBridge.Json

open Number (Layout)

/-! ## Quoted strings -/

/-- A hexadecimal escape of a character below 256. -/
def unicodeEscape (c : Char) : List Char :=
  ['\\', 'u', '0', '0', Nat.digitChar (c.toNat / 16), Nat.digitChar (c.toNat % 16)]

/-- A character inside quotes: quote, backslash and control characters are escaped. -/
def quotedChar (c : Char) : List Char :=
  if c = '"' then ['\\', '"']
  else if c = '\\' then ['\\', '\\']
  else if c = '\n' then ['\\', 'n']
  else if c = '\r' then ['\\', 'r']
  else if c = '\t' then ['\\', 't']
  else if c = '\x08' then ['\\', 'b']
  else if c = '\x0c' then ['\\', 'f']
  else if c.toNat < 0x20 then unicodeEscape c
  else [c]

def quotedChars (cs : List Char) : List Char :=
  '"' :: (cs.flatMap quotedChar ++ ['"'])

/-! ## The writer -/

/-- A form of text: the layout of floating point numbers, what follows a key, what stands between
two items, and the spaces for each level if every item has a line of its own. -/
structure Form where
  reals : Layout
  colon : List Char
  comma : List Char
  indent : Option Nat

/-- Text without any spaces. -/
def Form.dense : Form := ⟨.dense, [':'], [','], none⟩

/-- One line with a space after each comma and colon. -/
def Form.spaced : Form := ⟨.plain, [':', ' '], [',', ' '], none⟩

/-- A line for each item, indented by its level. -/
def Form.indented (width : Nat) : Form := ⟨.plain, [':', ' '], [','], some width⟩

/-- What stands before an item: nothing on one line, else a line break and the indentation. -/
def Form.lineBreak (f : Form) (level : Nat) : List Char :=
  match f.indent with
  | none => []
  | some width => '\n' :: List.replicate (width * level) ' '

/-- A whole number in decimal digits. -/
def intChars (i : Int) : List Char :=
  if i < 0 then '-' :: Nat.toDigits 10 i.natAbs else Nat.toDigits 10 i.natAbs

/-- Whether no whole number in a value has too many digits; a sign does not count. -/
def isWritable (v : Json) : Bool :=
  v.wholes.all fun i => (Nat.toDigits 10 i.natAbs).length ≤ maxDigits

mutual

/-- A value at a level of nesting. -/
def chars (f : Form) (level : Nat) : Json → List Char
  | .null => ['n', 'u', 'l', 'l']
  | .bool true => ['t', 'r', 'u', 'e']
  | .bool false => ['f', 'a', 'l', 's', 'e']
  | .int i => intChars i
  | .real x => f.reals.chars x
  | .str s => quotedChars s.toList
  | .arr [] => ['[', ']']
  | .arr (x :: rest) =>
    '[' :: (f.lineBreak (level + 1) ++ chars f (level + 1) x ++ moreItems f (level + 1) rest ++
      f.lineBreak level ++ [']'])
  | .obj [] => ['\x7b', '\x7d']
  | .obj ((k, v) :: rest) =>
    '\x7b' :: (f.lineBreak (level + 1) ++ quotedChars k.toList ++ f.colon ++
      chars f (level + 1) v ++ moreMembers f (level + 1) rest ++ f.lineBreak level ++ ['\x7d'])

/-- The items after the first, each behind a comma. -/
def moreItems (f : Form) (level : Nat) : List Json → List Char
  | [] => []
  | x :: rest => f.comma ++ f.lineBreak level ++ chars f level x ++ moreItems f level rest

/-- The members after the first, each behind a comma. -/
def moreMembers (f : Form) (level : Nat) : List (String × Json) → List Char
  | [] => []
  | (k, v) :: rest =>
    f.comma ++ f.lineBreak level ++ quotedChars k.toList ++ f.colon ++ chars f level v ++
      moreMembers f level rest

end

def text (f : Form) (v : Json) : String :=
  String.ofList (v.chars f 0)

/-- The deepest nesting that dense text is written for. -/
def denseLevels : Nat := 254

/-- Whether a value can be written densely. -/
def isDense (v : Json) : Bool :=
  v.fits64 && v.levels ≤ denseLevels

/-- The form for a value and an indentation: zero asks for dense text, a positive number for
indented text and a negative one for one spaced line. -/
def formFor (v : Json) (indent : Int) : Form :=
  if indent = 0 then (if v.isDense then .dense else .spaced)
  else if 0 < indent then .indented indent.toNat
  else .spaced

/-- The text of a value with an indentation. -/
def encodeWith (indent : Int) (v : Json) : String :=
  v.text (v.formFor indent)

/-- The text of a value as it goes over the wire. -/
def encode (v : Json) : String :=
  v.encodeWith 0

/-- Why a value has no text. -/
inductive WriteError where
  | tooManyDigits
  deriving DecidableEq, Repr

def WriteError.message : WriteError → String
  | .tooManyDigits =>
    "Exceeds the limit (" ++ toString maxDigits ++ " digits) for integer string conversion; " ++
      "use sys.set_int_max_str_digits() to increase the limit"

/-- The text of a value with an indentation, or why there is none. -/
def write (indent : Int) (v : Json) : Except WriteError String :=
  if v.isWritable then .ok (v.encodeWith indent) else .error .tooManyDigits

end ScreenBridge.Json
