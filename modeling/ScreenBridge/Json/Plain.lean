import ScreenBridge.Json.Text
import ScreenBridge.Text.Printable

/-!
# Values inside other text

Where a value becomes part of a sentence or an attribute, a string stands for itself and every
other value is written out: words with a capital for null and the booleans, lists and objects in
brackets with spaces, and the strings inside them in single quotes. A string that holds a single
quote and no double one is put in double quotes. As everywhere, a whole number has to be
writable.
-/

namespace ScreenBridge.Json

open Number (Layout)
open Text (isPrintable)

/-- A number in hexadecimal digits, with zeros in front up to a width. -/
def hexDigits (width n : Nat) : List Char :=
  let ds := Nat.toDigits 16 n
  List.replicate (width - ds.length) '0' ++ ds

/-- A character inside single or double quotes: what cannot be printed is escaped by its
number. -/
def literalChar (quote c : Char) : List Char :=
  if c = quote ∨ c = '\\' then ['\\', c]
  else if c = '\n' then ['\\', 'n']
  else if c = '\r' then ['\\', 'r']
  else if c = '\t' then ['\\', 't']
  else if isPrintable c then [c]
  else if c.toNat < 0x100 then '\\' :: 'x' :: hexDigits 2 c.toNat
  else if c.toNat < 0x10000 then '\\' :: 'u' :: hexDigits 4 c.toNat
  else '\\' :: 'U' :: hexDigits 8 c.toNat

def literalChars (cs : List Char) : List Char :=
  let quote := if cs.contains '\'' && !cs.contains '"' then '"' else '\''
  quote :: (cs.flatMap (literalChar quote) ++ [quote])

def literal (s : String) : String :=
  String.ofList (literalChars s.toList)

mutual

def outlineChars : Json → List Char
  | .null => ['N', 'o', 'n', 'e']
  | .bool true => ['T', 'r', 'u', 'e']
  | .bool false => ['F', 'a', 'l', 's', 'e']
  | .int i => intChars i
  | .real x => Layout.plain.chars x
  | .str s => literalChars s.toList
  | .arr [] => ['[', ']']
  | .arr (x :: rest) => '[' :: (outlineChars x ++ outlineItems rest ++ [']'])
  | .obj [] => ['\x7b', '\x7d']
  | .obj ((k, v) :: rest) =>
    '\x7b' ::
      (literalChars k.toList ++ ':' :: ' ' :: (outlineChars v ++ outlineMembers rest ++ ['\x7d']))

def outlineItems : List Json → List Char
  | [] => []
  | x :: rest => ',' :: ' ' :: (outlineChars x ++ outlineItems rest)

def outlineMembers : List (String × Json) → List Char
  | [] => []
  | (k, v) :: rest =>
    ',' :: ' ' :: (literalChars k.toList ++ ':' :: ' ' :: (outlineChars v ++ outlineMembers rest))

end

def outline (v : Json) : String :=
  String.ofList v.outlineChars

/-- A value inside other text: a string as it is, anything else written out. -/
def plain : Json → String
  | .str s => s
  | v => v.outline

end ScreenBridge.Json
