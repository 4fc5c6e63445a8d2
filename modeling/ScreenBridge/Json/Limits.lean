import ScreenBridge.Json.Basic

/-!
# Limits on size and nesting

Both guards run on what comes in, before any of it is used: a text may not have more bytes than
allowed, and no member of a value may stand deeper than allowed. The nesting guard goes through
the members in order and stops at the first that stands too deep.
-/

namespace ScreenBridge.Json

/-- Which limit was passed, and by how much. -/
inductive LimitError where
  | size (name : String) (found : Nat) (max : Int)
  | depth (found max : Int)
  deriving DecidableEq, Repr

def LimitError.message : LimitError → String
  | .size name found max =>
    name ++ " size " ++ toString found ++ " bytes exceeds maximum " ++ toString max ++ " bytes"
  | .depth found max =>
    "JSON nesting depth " ++ toString found ++ " exceeds maximum " ++ toString max

/-- The deepest nesting that is allowed unless a setting says otherwise. -/
def defaultMaxDepth : Int := 200

/-- A text of `size` bytes, called `name`, against the most bytes allowed. -/
def checkSize (name : String) (max : Int) (size : Nat) : Except LimitError Unit :=
  if max < size then .error (.size name size max) else .ok ()

mutual

/-- A value that stands at a depth, against the deepest allowed. -/
def checkDepth (max depth : Int) : Json → Except LimitError Unit
  | .arr items =>
    if max < depth then .error (.depth depth max) else checkItemsDepth max (depth + 1) items
  | .obj members =>
    if max < depth then .error (.depth depth max) else checkMembersDepth max (depth + 1) members
  | _ => if max < depth then .error (.depth depth max) else .ok ()

/-- Items that stand at a depth. -/
def checkItemsDepth (max depth : Int) : List Json → Except LimitError Unit
  | [] => .ok ()
  | x :: rest =>
    match checkDepth max depth x with
    | .ok _ => checkItemsDepth max depth rest
    | .error e => .error e

/-- Members that stand at a depth. -/
def checkMembersDepth (max depth : Int) : List (String × Json) → Except LimitError Unit
  | [] => .ok ()
  | (_, v) :: rest =>
    match checkDepth max depth v with
    | .ok _ => checkMembersDepth max depth rest
    | .error e => .error e

end

end ScreenBridge.Json
