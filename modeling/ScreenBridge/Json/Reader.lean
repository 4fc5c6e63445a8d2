import ScreenBridge.Json.Basic
import ScreenBridge.Text.Utf8

/-!
# Reading JSON

A reader of bytes. It keeps the order of members, lets a repeated key keep its first place and
take its last value, and reads whole numbers of up to `maxDigits` characters. What it refuses it
names by a cause and the position of a byte. Two things break a read off without a cause in the
text: a string that is not UTF-8, and nesting past `depthLimit`.
-/

namespace ScreenBridge.Json

open Number (Binary64)
open Text

abbrev Bytes := List UInt8

/-- How many lists and objects may stand inside each other. -/
def depthLimit : Nat := 1000

/-! ## Causes -/

/-- What is wrong at a byte. -/
inductive Malformation where
  | invalidCharacter
  | invalidNumber
  | keyNotString
  | missingColon
  | missingCommaOrBrace
  | missingCommaOrBracket
  | commaBeforeBrace
  | commaBeforeBracket
  | trailingCharacters
  | invalidEscape
  | invalidUnicodeEscape
  | invalidSurrogatePair
  | unfinishedSurrogatePair
  deriving DecidableEq, Repr

/-- A step from a value to one of its parts: some member of an object, or an item of a list. -/
inductive PathStep where
  | member
  | item (index : Nat)
  deriving DecidableEq, Repr

/-- Why a text is refused. -/
inductive SyntaxError where
  | truncated
  | malformed (what : Malformation) (byte : Nat)
  | outOfRange (path : List PathStep)
  | tooManyDigits (path : List PathStep)
  | notAnObject (found : String)
  deriving DecidableEq, Repr

/-- What breaks a read off. -/
inductive Breakdown where
  | notUtf8 (fault : Utf8.Fault)
  | tooDeep
  deriving DecidableEq, Repr

/-- Why there is no value. -/
inductive ReadError where
  | refused (cause : SyntaxError)
  | brokeOff (cause : Breakdown)
  deriving DecidableEq, Repr

def Malformation.words : Malformation → String
  | .invalidCharacter => "invalid character"
  | .invalidNumber => "invalid number"
  | .keyNotString => "object keys must be strings"
  | .missingColon => "expected ':'"
  | .missingCommaOrBrace => "expected ',' or '\x7d'"
  | .missingCommaOrBracket => "expected ',' or ']'"
  | .commaBeforeBrace => "trailing comma in object"
  | .commaBeforeBracket => "trailing comma in array"
  | .trailingCharacters => "trailing characters"
  | .invalidEscape => "invalid escape character in string"
  | .invalidUnicodeEscape => "invalid character in unicode escape"
  | .invalidSurrogatePair => "invalid utf-16 surrogate pair"
  | .unfinishedSurrogatePair => "unexpected end of escaped utf-16 surrogate pair"

def PathStep.text : PathStep → String
  | .member => "[...]"
  | .item index => "[" ++ toString index ++ "]"

/-- Where in a text a number stands that cannot be read; nothing is said if it is the whole. -/
def placeText : List PathStep → String
  | [] => ""
  | path => " - at `$" ++ String.join (path.map PathStep.text) ++ "`"

def SyntaxError.message : SyntaxError → String
  | .truncated => "Invalid JSON: Input data was truncated"
  | .malformed what byte =>
    "Invalid JSON: JSON is malformed: " ++ what.words ++ " (byte " ++ toString byte ++ ")"
  | .outOfRange path => "Invalid JSON: Number out of range" ++ placeText path
  | .tooManyDigits path => "Invalid JSON: Integer value out of range" ++ placeText path
  | .notAnObject found => "Expected JSON object, got " ++ found

def Breakdown.message : Breakdown → String
  | .notUtf8 fault => fault.message
  | .tooDeep => "maximum recursion depth exceeded while deserializing an object"

/-- Refusal at the first of some bytes, `size` being the length of the whole text. -/
def refuseAt {α : Type} (size : Nat) (what : Malformation) (rest : Bytes) : Except ReadError α :=
  .error (.refused (.malformed what (size - rest.length)))

/-- Refusal because the text ends early. -/
def refuseEnd {α : Type} : Except ReadError α :=
  .error (.refused .truncated)

/-- A refusal inside a part, seen from the whole. -/
def ReadError.within (step : PathStep) : ReadError → ReadError
  | .refused (.outOfRange path) => .refused (.outOfRange (step :: path))
  | .refused (.tooManyDigits path) => .refused (.tooManyDigits (step :: path))
  | e => e

/-! ## Blanks, digits and numbers -/

/-- Blanks between the parts of a text. -/
def isBlankByte (b : UInt8) : Bool :=
  b == 0x20 || b == 0x09 || b == 0x0a || b == 0x0d

/-- The bytes from the first that is no blank. -/
def skipBlanks (bytes : Bytes) : Bytes :=
  bytes.dropWhile isBlankByte

def isDigitByte (b : UInt8) : Bool :=
  0x30 ≤ b && b ≤ 0x39

def digitsValue (ds : Bytes) : Nat :=
  ds.foldl (fun n d => n * 10 + (d.toNat - 48)) 0

/-- The digits behind a point, if there is one, and the rest. -/
def readFraction (size : Nat) : Bytes → Except ReadError (Option Bytes × Bytes)
  | 0x2e :: rest =>
    let ds := rest.takeWhile isDigitByte
    if ds.isEmpty then refuseAt size .invalidNumber rest
    else .ok (some ds, rest.dropWhile isDigitByte)
  | rest => .ok (none, rest)

/-- A sign in front of digits. -/
def splitSign : Bytes → Bool × Bytes
  | 0x2d :: rest => (true, rest)
  | 0x2b :: rest => (false, rest)
  | rest => (false, rest)

/-- The power of ten behind an `e`, if there is one, and the rest. -/
def readExponent (size : Nat) : Bytes → Except ReadError (Option Int × Bytes)
  | [] => .ok (none, [])
  | b :: rest =>
    if b == 0x65 || b == 0x45 then
      let (negative, rest) := splitSign rest
      let ds := rest.takeWhile isDigitByte
      if ds.isEmpty then refuseAt size .invalidNumber rest
      else
        let n : Int := digitsValue ds
        .ok (some (if negative then -n else n), rest.dropWhile isDigitByte)
    else .ok (none, b :: rest)

def readUnsigned (size : Nat) (negative : Bool) (bytes : Bytes) :
    Except ReadError (Json × Bytes) := do
  let whole := bytes.takeWhile isDigitByte
  if bytes.head? = some 0x30 ∧ 1 < whole.length then
    refuseAt size .invalidNumber bytes.tail
  else
    let (fraction, rest) ← readFraction size (bytes.dropWhile isDigitByte)
    let (power, rest) ← readExponent size rest
    if fraction.isNone && power.isNone then
      if maxDigits < whole.length + negative.toNat then .error (.refused (.tooManyDigits []))
      else
        let n : Int := digitsValue whole
        .ok (.int (if negative then -n else n), rest)
    else
      let places := fraction.getD []
      match Binary64.ofDecimal? negative (digitsValue (whole ++ places))
          (power.getD 0 - places.length) with
      | some x => .ok (.real x, rest)
      | none => .error (.refused (.outOfRange []))

def readNumber (size : Nat) : Bytes → Except ReadError (Json × Bytes)
  | 0x2d :: rest =>
    match rest with
    | [] => refuseAt size .invalidNumber []
    | d :: more =>
      if isDigitByte d then readUnsigned size true (d :: more)
      else refuseAt size .invalidCharacter (d :: more)
  | bytes => readUnsigned size false bytes

/-! ## Strings -/

/-- The value of a hexadecimal digit. -/
def hexValue? (b : UInt8) : Option Nat :=
  if isDigitByte b then some (b.toNat - 48)
  else if 0x61 ≤ b ∧ b ≤ 0x66 then some (b.toNat - 87)
  else if 0x41 ≤ b ∧ b ≤ 0x46 then some (b.toNat - 55)
  else none

/-- The number written with four hexadecimal digits. -/
def readUnit (size : Nat) (a b c d : UInt8) (rest : Bytes) : Except ReadError Nat :=
  match hexValue? a with
  | none => refuseAt size .invalidUnicodeEscape (b :: c :: d :: rest)
  | some w =>
    match hexValue? b with
    | none => refuseAt size .invalidUnicodeEscape (c :: d :: rest)
    | some x =>
      match hexValue? c with
      | none => refuseAt size .invalidUnicodeEscape (d :: rest)
      | some y =>
        match hexValue? d with
        | none => refuseAt size .invalidUnicodeEscape rest
        | some z => .ok (((w * 16 + x) * 16 + y) * 16 + z)

/-- The byte that a short escape stands for. -/
def shortEscape? (b : UInt8) : Option UInt8 :=
  if b = 0x22 ∨ b = 0x5c ∨ b = 0x2f then some b
  else if b = 0x62 then some 0x08
  else if b = 0x66 then some 0x0c
  else if b = 0x6e then some 0x0a
  else if b = 0x72 then some 0x0d
  else if b = 0x74 then some 0x09
  else none

/-- Bytes of a character put in front of bytes that stand in reverse. -/
def pushChar (n : Nat) (acc : Bytes) : Bytes :=
  (String.utf8EncodeChar (Char.ofNat n)).reverse ++ acc

/-- The bytes that a string stands for, from behind its opening quote to its closing one; `acc`
holds the ones read so far in reverse. -/
def readContent (size : Nat) (acc : Bytes) : Bytes → Except ReadError (Bytes × Bytes)
  | [] => refuseEnd
  | b :: rest =>
    if b = 0x22 then .ok (acc.reverse, rest)
    else if b < 0x20 then refuseAt size .invalidCharacter (b :: rest)
    else if b ≠ 0x5c then readContent size (b :: acc) rest
    else match rest with
      | [] => refuseEnd
      | 0x75 :: a :: b :: c :: d :: rest =>
        match readUnit size a b c d rest with
        | .error e => .error e
        | .ok high =>
          if 0xdc00 ≤ high ∧ high ≤ 0xdfff then refuseAt size .invalidSurrogatePair rest
          else if 0xd800 ≤ high ∧ high ≤ 0xdbff then
            match rest with
            | 0x5c :: 0x75 :: a :: b :: c :: d :: rest =>
              match readUnit size a b c d rest with
              | .error e => .error e
              | .ok low =>
                if 0xdc00 ≤ low ∧ low ≤ 0xdfff then
                  let n := 0x10000 + (high - 0xd800) * 0x400 + (low - 0xdc00)
                  readContent size (pushChar n acc) rest
                else refuseAt size .invalidSurrogatePair rest
            | _ :: _ :: _ :: _ :: _ :: _ :: _ => refuseAt size .unfinishedSurrogatePair rest
            | _ => refuseEnd
          else readContent size (pushChar high acc) rest
      | 0x75 :: _ => refuseEnd
      | e :: rest =>
        match shortEscape? e with
        | some b => readContent size (b :: acc) rest
        | none => refuseAt size .invalidEscape rest

/-- A string from behind its opening quote. -/
def readString (size : Nat) (bytes : Bytes) : Except ReadError (String × Bytes) := do
  let (content, rest) ← readContent size [] bytes
  match Utf8.decode content with
  | .ok s => .ok (s, rest)
  | .error fault => .error (.brokeOff (.notUtf8 fault))

/-! ## Values -/

/-- The letters of a word after its first; a wrong one is reported behind the last. -/
def readWord (size : Nat) (letters : Bytes) (v : Json) (bytes : Bytes) :
    Except ReadError (Json × Bytes) :=
  if bytes.length < letters.length then refuseEnd
  else if bytes.take letters.length = letters then .ok (v, bytes.drop letters.length)
  else refuseAt size .invalidCharacter (bytes.drop letters.length)

mutual

/-- A value after any blanks, with `fuel` for the recursion and `depth` levels left. -/
def readValue (size : Nat) : (fuel depth : Nat) → Bytes → Except ReadError (Json × Bytes)
  | 0, _, _ => refuseEnd
  | fuel + 1, depth, bytes =>
    match skipBlanks bytes with
    | [] => refuseEnd
    | b :: rest =>
      if b = 0x22 then
        match readString size rest with
        | .ok (s, rest) => .ok (.str s, rest)
        | .error e => .error e
      else if b = 0x7b then
        match depth with
        | 0 => .error (.brokeOff .tooDeep)
        | depth + 1 => readMembers size fuel depth true [] rest
      else if b = 0x5b then
        match depth with
        | 0 => .error (.brokeOff .tooDeep)
        | depth + 1 => readItems size fuel depth true [] rest
      else if b = 0x74 then readWord size [0x72, 0x75, 0x65] (.bool true) rest
      else if b = 0x66 then readWord size [0x61, 0x6c, 0x73, 0x65] (.bool false) rest
      else if b = 0x6e then readWord size [0x75, 0x6c, 0x6c] .null rest
      else if isDigitByte b || b == 0x2d then readNumber size (b :: rest)
      else refuseAt size .invalidCharacter (b :: rest)

/-- The items of a list from behind its bracket or from behind an item; `acc` holds the ones read
so far in reverse. -/
def readItems (size : Nat) : (fuel depth : Nat) → (first : Bool) → List Json → Bytes →
    Except ReadError (Json × Bytes)
  | 0, _, _, _, _ => refuseEnd
  | fuel + 1, depth, first, acc, bytes =>
    match skipBlanks bytes with
    | [] => refuseEnd
    | b :: rest =>
      if b = 0x5d then .ok (.arr acc.reverse, rest)
      else if first then readItem size fuel depth acc (b :: rest)
      else if b = 0x2c then
        match skipBlanks rest with
        | [] => refuseEnd
        | c :: rest =>
          if c = 0x5d then refuseAt size .commaBeforeBracket (c :: rest)
          else readItem size fuel depth acc (c :: rest)
      else refuseAt size .missingCommaOrBracket (b :: rest)

/-- One item and then the rest of its list. -/
def readItem (size : Nat) : (fuel depth : Nat) → List Json → Bytes →
    Except ReadError (Json × Bytes)
  | 0, _, _, _ => refuseEnd
  | fuel + 1, depth, acc, bytes =>
    match readValue size fuel depth bytes with
    | .ok (v, rest) => readItems size fuel depth false (v :: acc) rest
    | .error e => .error (e.within (.item acc.length))

/-- The members of an object from behind its brace or from behind a member; `acc` holds the ones
read so far. -/
def readMembers (size : Nat) : (fuel depth : Nat) → (first : Bool) → Keyed Json → Bytes →
    Except ReadError (Json × Bytes)
  | 0, _, _, _, _ => refuseEnd
  | fuel + 1, depth, first, acc, bytes =>
    match skipBlanks bytes with
    | [] => refuseEnd
    | b :: rest =>
      if b = 0x7d then .ok (.obj acc, rest)
      else if first then readMember size fuel depth acc (b :: rest)
      else if b = 0x2c then
        match skipBlanks rest with
        | [] => refuseEnd
        | c :: rest =>
          if c = 0x7d then refuseAt size .commaBeforeBrace (c :: rest)
          else readMember size fuel depth acc (c :: rest)
      else refuseAt size .missingCommaOrBrace (b :: rest)

/-- One member and then the rest of its object. -/
def readMember (size : Nat) : (fuel depth : Nat) → Keyed Json → Bytes →
    Except ReadError (Json × Bytes)
  | 0, _, _, _ => refuseEnd
  | _ + 1, _, _, [] => refuseEnd
  | fuel + 1, depth, acc, b :: rest =>
    if b ≠ 0x22 then refuseAt size .keyNotString (b :: rest)
    else match readString size rest with
      | .error e => .error e
      | .ok (key, rest) =>
        match skipBlanks rest with
        | [] => refuseEnd
        | c :: rest =>
          if c ≠ 0x3a then refuseAt size .missingColon (c :: rest)
          else match readValue size fuel depth rest with
            | .ok (v, rest) => readMembers size fuel depth false (acc.set key v) rest
            | .error e => .error (e.within .member)

end

/-- Calls enough for any text of a size: a byte is read at least every third call. -/
def readFuel (size : Nat) : Nat :=
  3 * size + 3

/-- The value that a text holds, with nothing but blanks around it. -/
def read (bytes : Bytes) : Except ReadError Json := do
  let size := bytes.length
  let (v, rest) ← readValue size (readFuel size) depthLimit bytes
  match skipBlanks rest with
  | [] => .ok v
  | _ :: rest => refuseAt size .trailingCharacters rest

/-- The word for what stands where an object was expected. -/
def kindWord : Json → String
  | .null => "NoneType"
  | .bool _ => "bool"
  | .int _ => "int"
  | .real _ => "float"
  | .str _ => "str"
  | .arr _ => "list"
  | .obj _ => "dict"

/-- The members of the object that a text holds. -/
def readObject (bytes : Bytes) : Except ReadError (Keyed Json) := do
  match ← read bytes with
  | .obj members => .ok members
  | v => .error (.refused (.notAnObject v.kindWord))

end ScreenBridge.Json
