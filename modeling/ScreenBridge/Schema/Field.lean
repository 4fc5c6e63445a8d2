import ScreenBridge.Json.Basic
import ScreenBridge.Schema.Checked

/-!
# Fields of records

How the parts of a record are read out of the members of an object. A field may have two names;
the first one that is there counts, and an issue is placed under the name that was found. A field
that is not there has a default, or else its absence is an issue under its first name.
-/

namespace ScreenBridge.Schema

open Checked

variable {α : Type}

/-! ## Values -/

def string : Json → Checked String
  | .str s => valid s
  | _ => fail .notString

/-- A string with at least one character. -/
def nonEmptyString : Json → Checked String
  | .str s => if s.isEmpty then fail .emptyString else valid s
  | _ => fail .notString

def object : Json → Checked (Keyed Json)
  | .obj members => valid members
  | _ => fail .notObject

/-- Null, or something else. -/
def nullable (read : Json → Checked α) : Json → Checked (Option α)
  | .null => valid none
  | v => (read v).map some

/-- Items of a list from an index on. -/
def itemsFrom (read : Json → Checked α) (i : Nat) : List Json → Checked (List α)
  | [] => valid []
  | x :: rest => List.cons <$> (read x).under (.index i) <*> itemsFrom read (i + 1) rest

def list (read : Json → Checked α) : Json → Checked (List α)
  | .arr items => itemsFrom read 0 items
  | _ => fail .notList

def entriesOf (read : Json → Checked α) : List (String × Json) → Checked (Keyed α)
  | [] => valid []
  | (k, v) :: rest =>
    (fun a as => (k, a) :: as) <$> (read v).under (.key k) <*> entriesOf read rest

/-- An object whose values are all of a kind. -/
def dictionary (read : Json → Checked α) : Json → Checked (Keyed α)
  | .obj members => entriesOf read members
  | _ => fail .notObject

/-- The words for true and false, in small letters. -/
def boolWord? (s : String) : Option Bool :=
  if ["1", "on", "t", "true", "y", "yes"].contains s then some true
  else if ["0", "off", "f", "false", "n", "no"].contains s then some false
  else none

/-- The Latin capitals of a text made small. -/
def asciiLower (s : String) : String :=
  String.ofList (s.toList.map Char.toLower)

/-- Whether a whole number fits into 64 bits with a sign. -/
def fitsInt64 (i : Int) : Bool :=
  -Int.pow 2 63 ≤ i && i < Int.pow 2 63

/-- A whole floating point number that fits into 64 bits with a sign, the least such number left
out. -/
def smallReal? (x : Number.Binary64) : Option Int :=
  x.toInt?.filter fun i => -Int.pow 2 63 < i && i < Int.pow 2 63

/-- A boolean out of a number that is one or zero; a number of more than 64 bits is none at all. -/
def boolOfInt (i : Int) : Checked Bool :=
  if !fitsInt64 i then fail .notBool
  else if i = 0 then valid false
  else if i = 1 then valid true
  else fail .unreadableBool

/-- A boolean: one of the two values, the numbers one and zero, or a word in any case. -/
def bool : Json → Checked Bool
  | .bool b => valid b
  | .int i => boolOfInt i
  | .real x =>
    match smallReal? x with
    | some i => boolOfInt i
    | none => fail .notBool
  | .str s =>
    match boolWord? (asciiLower s) with
    | some b => valid b
    | none => fail .unreadableBool
  | _ => fail .notBool

/-! ## Fields -/

/-- The first of some names that is there, with its value. -/
def present? (members : Keyed Json) : List String → Option (String × Json)
  | [] => none
  | name :: rest =>
    match members.get? name with
    | some v => some (name, v)
    | none => present? members rest

/-- A field that has to be there. -/
def required (members : Keyed Json) (names : List String) (read : Json → Checked α) :
    Checked α :=
  match present? members names with
  | some (name, v) => (read v).under (.key name)
  | none => (fail .missing).under (.key (names.headD ""))

def optional (members : Keyed Json) (names : List String) (default : α)
    (read : Json → Checked α) : Checked α :=
  match present? members names with
  | some (name, v) => (read v).under (.key name)
  | none => valid default

/-- The members of a record called `name`. -/
def record (name : String) (read : Keyed Json → Checked α) : Json → Checked α
  | .obj members => read members
  | _ => fail (.notRecord name)

/-- A member that is written only if there is a value. -/
def member? (name : String) : Option Json → Keyed Json
  | some v => [(name, v)]
  | none => []

end ScreenBridge.Schema
