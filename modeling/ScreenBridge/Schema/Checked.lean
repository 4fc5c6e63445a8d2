/-!
# Checked values

Reading a value against a declared shape either gives the value or lists everything that is wrong
with it, each violation with its place. Independent parts are read side by side, so that the
violations of all of them are listed, in the order of the parts.
-/

namespace ScreenBridge.Schema

/-- A part of a value: the member under a key, or an item. -/
inductive Place where
  | key (name : String)
  | index (i : Nat)
  deriving DecidableEq, Repr

/-- What a value was expected to be. -/
inductive Violation where
  | missing
  | notString
  | emptyString
  | notObject
  | notRecord (name : String)
  | notList
  | notBool
  | unreadableBool
  | notInt
  | unreadableInt
  | fractionalInt
  | oversizedInt
  | notGreaterThan (bound : Int)
  | notLessThan (bound : Int)
  | notOneOf (words : List String)
  | frozen
  deriving DecidableEq, Repr

/-- Words in single quotes, with commas between them and an `or` before the last. -/
def alternatives : List String → String
  | [] => ""
  | [w] => "'" ++ w ++ "'"
  | [v, w] => "'" ++ v ++ "' or '" ++ w ++ "'"
  | w :: rest => "'" ++ w ++ "', " ++ alternatives rest

def Violation.message : Violation → String
  | .missing => "Field required"
  | .notString => "Input should be a valid string"
  | .emptyString => "String should have at least 1 character"
  | .notObject => "Input should be a valid dictionary"
  | .notRecord name => "Input should be a valid dictionary or instance of " ++ name
  | .notList => "Input should be a valid list"
  | .notBool => "Input should be a valid boolean"
  | .unreadableBool => "Input should be a valid boolean, unable to interpret input"
  | .notInt => "Input should be a valid integer"
  | .unreadableInt => "Input should be a valid integer, unable to parse string as an integer"
  | .fractionalInt => "Input should be a valid integer, got a number with a fractional part"
  | .oversizedInt => "Unable to parse input string as an integer, exceeded maximum size"
  | .notGreaterThan bound => "Input should be greater than " ++ toString bound
  | .notLessThan bound => "Input should be less than " ++ toString bound
  | .notOneOf words => "Input should be " ++ alternatives words
  | .frozen => "Instance is frozen"

/-- A violation and where it was found. -/
structure Issue where
  place : List Place
  violation : Violation
  deriving DecidableEq, Repr

def Place.text : Place → String
  | .key name => name
  | .index i => toString i

/-- The place of an issue: its parts with points between them, or the root. -/
def Issue.location (i : Issue) : String :=
  let path := ".".intercalate (i.place.map Place.text)
  if path.isEmpty then "<root>" else path

def Issue.message (i : Issue) : String :=
  i.location ++ ": " ++ i.violation.message

/-- A value, or all that is wrong with it. -/
inductive Checked (α : Type) where
  | valid (value : α)
  | invalid (issues : List Issue)
  deriving Repr

namespace Checked

variable {α β γ : Type}

/-- A single issue at the place itself. -/
def fail (violation : Violation) : Checked α :=
  .invalid [⟨[], violation⟩]

def map (f : α → β) : Checked α → Checked β
  | valid a => valid (f a)
  | invalid issues => invalid issues

/-- Two parts side by side: the issues of both. -/
def both : Checked α → Checked β → Checked (α × β)
  | valid a, valid b => valid (a, b)
  | valid _, invalid js => invalid js
  | invalid is, valid _ => invalid is
  | invalid is, invalid js => invalid (is ++ js)

/-- A function and its argument side by side. -/
def apply (f : Checked (α → β)) (a : Checked α) : Checked β :=
  (both f a).map fun p => p.1 p.2

/-- A further check of a value that is fine so far. -/
def andThen : Checked α → (α → Checked β) → Checked β
  | valid a, f => f a
  | invalid issues, _ => invalid issues

/-- The same, seen from a larger value that has this one at a place. -/
def under (place : Place) : Checked α → Checked α
  | valid a => valid a
  | invalid issues => invalid (issues.map fun i => { i with place := place :: i.place })

instance : Functor Checked where
  map := map

instance : Seq Checked where
  seq f a := apply f (a ())

@[simp] theorem map_eq (f : α → β) (a : Checked α) : (f <$> a) = a.map f := rfl

@[simp] theorem seq_eq (f : Checked (α → β)) (a : Checked α) : (f <*> a) = f.apply a := rfl

theorem apply_eq_valid {f : Checked (α → β)} {a : Checked α} {b : β} :
    f.apply a = valid b ↔ ∃ g x, f = valid g ∧ a = valid x ∧ g x = b := by
  cases f <;> cases a <;> simp [apply, both, map]

theorem map_eq_valid {f : α → β} {a : Checked α} {b : β} :
    a.map f = valid b ↔ ∃ x, a = valid x ∧ f x = b := by
  cases a <;> simp [map]

end Checked

end ScreenBridge.Schema
