import ScreenBridge.Keyed
import ScreenBridge.Number.Binary64

/-!
# JSON values

A value keeps whole numbers of any size apart from floating point numbers, and an object keeps
its members in order. The two measures of nesting differ in what they count: `levels` counts
every list and object, `height` counts the steps from the outside to the innermost member.
-/

namespace ScreenBridge

open Number (Binary64)

/-- A JSON value. -/
inductive Json where
  | null
  | bool (b : Bool)
  | int (i : Int)
  | real (x : Binary64)
  | str (s : String)
  | arr (items : List Json)
  | obj (members : List (String × Json))
  deriving Repr, Inhabited

namespace Json

/-! ## Equality is decidable -/

mutual

/-- Whether two values are the same. -/
def decEq : (a b : Json) → Decidable (a = b)
  | .null, .null => isTrue rfl
  | .bool a, .bool b => if h : a = b then isTrue (h ▸ rfl) else isFalse (by simp [h])
  | .int a, .int b => if h : a = b then isTrue (h ▸ rfl) else isFalse (by simp [h])
  | .real a, .real b => if h : a = b then isTrue (h ▸ rfl) else isFalse (by simp [h])
  | .str a, .str b => if h : a = b then isTrue (h ▸ rfl) else isFalse (by simp [h])
  | .arr a, .arr b =>
    match decEqItems a b with
    | isTrue h => isTrue (h ▸ rfl)
    | isFalse h => isFalse (by simp [h])
  | .obj a, .obj b =>
    match decEqMembers a b with
    | isTrue h => isTrue (h ▸ rfl)
    | isFalse h => isFalse (by simp [h])
  | .null, .bool _ | .null, .int _ | .null, .real _ | .null, .str _ | .null, .arr _
  | .null, .obj _ | .bool _, .null | .bool _, .int _ | .bool _, .real _ | .bool _, .str _
  | .bool _, .arr _ | .bool _, .obj _ | .int _, .null | .int _, .bool _ | .int _, .real _
  | .int _, .str _ | .int _, .arr _ | .int _, .obj _ | .real _, .null | .real _, .bool _
  | .real _, .int _ | .real _, .str _ | .real _, .arr _ | .real _, .obj _ | .str _, .null
  | .str _, .bool _ | .str _, .int _ | .str _, .real _ | .str _, .arr _ | .str _, .obj _
  | .arr _, .null | .arr _, .bool _ | .arr _, .int _ | .arr _, .real _ | .arr _, .str _
  | .arr _, .obj _ | .obj _, .null | .obj _, .bool _ | .obj _, .int _ | .obj _, .real _
  | .obj _, .str _ | .obj _, .arr _ => isFalse nofun

/-- Whether two lists of values are the same. -/
def decEqItems : (a b : List Json) → Decidable (a = b)
  | [], [] => isTrue rfl
  | [], _ :: _ | _ :: _, [] => isFalse nofun
  | a :: as, b :: bs =>
    match decEq a b with
    | isTrue h =>
      match decEqItems as bs with
      | isTrue h' => isTrue (h ▸ h' ▸ rfl)
      | isFalse h' => isFalse (by simp [h'])
    | isFalse h => isFalse (by simp [h])

/-- Whether two lists of members are the same. -/
def decEqMembers : (a b : List (String × Json)) → Decidable (a = b)
  | [], [] => isTrue rfl
  | [], _ :: _ | _ :: _, [] => isFalse nofun
  | (k, a) :: as, (l, b) :: bs =>
    if hk : k = l then
      match decEq a b with
      | isTrue h =>
        match decEqMembers as bs with
        | isTrue h' => isTrue (h ▸ h' ▸ hk ▸ rfl)
        | isFalse h' => isFalse (by simp [h'])
      | isFalse h => isFalse (by simp [h])
    else isFalse (by simp [hk])

end

instance : DecidableEq Json := decEq

/-! ## Nesting -/

mutual

/-- How many lists and objects stand around the innermost one, itself included. -/
def levels : Json → Nat
  | .arr items => levelsOfItems items + 1
  | .obj members => levelsOfMembers members + 1
  | _ => 0

/-- The largest number of levels of some items. -/
def levelsOfItems : List Json → Nat
  | [] => 0
  | x :: rest => max x.levels (levelsOfItems rest)

/-- The largest number of levels of some members. -/
def levelsOfMembers : List (String × Json) → Nat
  | [] => 0
  | (_, v) :: rest => max v.levels (levelsOfMembers rest)

end

mutual

/-- How many steps lead from the value to its innermost member: none for a scalar and for an
empty list or object. -/
def height : Json → Nat
  | .arr items => heightOfItems items
  | .obj members => heightOfMembers members
  | _ => 0

/-- One more than the largest height of some items, zero if there are none. -/
def heightOfItems : List Json → Nat
  | [] => 0
  | x :: rest => max (x.height + 1) (heightOfItems rest)

/-- One more than the largest height of some members, zero if there are none. -/
def heightOfMembers : List (String × Json) → Nat
  | [] => 0
  | (_, v) :: rest => max (v.height + 1) (heightOfMembers rest)

end

/-! ## Whole numbers -/

/-- The most decimal digits of a whole number that is written, and the most characters, a minus
sign included, of one that is read. -/
def maxDigits : Nat := 4300

mutual

/-- The whole numbers in a value, in order. -/
def wholes : Json → List Int
  | .int i => [i]
  | .arr items => wholesOfItems items
  | .obj members => wholesOfMembers members
  | _ => []

/-- The whole numbers in some items. -/
def wholesOfItems : List Json → List Int
  | [] => []
  | x :: rest => x.wholes ++ wholesOfItems rest

/-- The whole numbers in some members. -/
def wholesOfMembers : List (String × Json) → List Int
  | [] => []
  | (_, v) :: rest => v.wholes ++ wholesOfMembers rest

end

mutual

/-- Whether every whole number in a value fits into 64 bits, with or without a sign. -/
def fits64 : Json → Bool
  | .int i => -Int.pow 2 63 ≤ i && i < Int.pow 2 64
  | .arr items => itemsFit64 items
  | .obj members => membersFit64 members
  | _ => true

/-- Whether every whole number in some items fits. -/
def itemsFit64 : List Json → Bool
  | [] => true
  | x :: rest => x.fits64 && itemsFit64 rest

/-- Whether every whole number in some members fits. -/
def membersFit64 : List (String × Json) → Bool
  | [] => true
  | (_, v) :: rest => v.fits64 && membersFit64 rest

end

/-! ## Parts -/

def members? : Json → Option (Keyed Json)
  | .obj members => some members
  | _ => none

/-- A value that counts as present: not null, not false, not a zero, and not empty. -/
def isTruthy : Json → Bool
  | .null => false
  | .bool b => b
  | .int i => i != 0
  | .real x => !x.isZero
  | .str s => s != ""
  | .arr items => !items.isEmpty
  | .obj members => !members.isEmpty

end Json

end ScreenBridge
