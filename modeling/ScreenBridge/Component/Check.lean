import ScreenBridge.Json.Limits

/-!
# Component trees on the wire

The check that a component tree passes before it is sent: it may not be too large, and each of
its nodes needs a type and props, may have a style and may have children. The first fault in
pre-order is reported with the path of its node.
-/

namespace ScreenBridge.Component

/-- What is wrong with a node. -/
inductive Defect where
  | notObject
  | type
  | props
  | style
  | children
  deriving DecidableEq, Repr

/-- Why a component tree is refused. -/
inductive CheckError where
  | tooLarge (limit : Json.LimitError)
  | malformed (path : List Nat) (defect : Defect)
  deriving DecidableEq, Repr

/-- The most bytes that a component tree may take. -/
def maxSize : Int := 4 * 1024 * 1024

/-- What a node lacks, as the end of a sentence that starts with its path. -/
def Defect.words : Defect → String
  | .notObject => " must be an object"
  | .type => ".type must be a non-empty string"
  | .props => ".props must be an object"
  | .style => ".style must be an object"
  | .children => ".children must be a list"

/-- The path of a node: the indices of the children that lead to it from the root. -/
def pathText (path : List Nat) : String :=
  "components" ++ String.join (path.map fun i => ".children[" ++ toString i ++ "]")

def CheckError.message : CheckError → String
  | .tooLarge limit => limit.message
  | .malformed path defect => pathText path ++ defect.words

/-- The fault of the members of a node apart from its children. -/
def memberDefect? (members : Keyed Json) : Option Defect :=
  let typed := match members.get? "type" with
    | some (.str tag) => !tag.isEmpty
    | _ => false
  let styled := match members.get? "style" with
    | none | some (.obj _) => true
    | some _ => false
  if !typed then some .type
  else if ((members.get? "props").bind Json.members?).isNone then some .props
  else if !styled then some .style
  else none

mutual

/-- The first fault of a node that stands at a path, given in reverse. -/
def checkNode (path : List Nat) : Json → Except CheckError Unit
  | .obj members =>
    match memberDefect? members with
    | some defect => .error (.malformed path.reverse defect)
    | none => checkChildren path members
  | _ => .error (.malformed path.reverse .notObject)

/-- The first fault of the children among the members of a node. -/
def checkChildren (path : List Nat) : List (String × Json) → Except CheckError Unit
  | [] => .ok ()
  | (key, v) :: rest =>
    if key = "children" then
      match v with
      | .null => .ok ()
      | .arr items => checkNodes path 0 items
      | _ => .error (.malformed path.reverse .children)
    else checkChildren path rest

/-- The first fault of the children from an index on. -/
def checkNodes (path : List Nat) (i : Nat) : List Json → Except CheckError Unit
  | [] => .ok ()
  | x :: rest =>
    match checkNode (i :: path) x with
    | .ok _ => checkNodes path (i + 1) rest
    | .error e => .error e

end

/-- A component tree and the number of bytes of its text. -/
def check (tree : Json) (size : Nat) : Except CheckError Unit :=
  match Json.checkSize "Component spec" maxSize size with
  | .error limit => .error (.tooLarge limit)
  | .ok _ => checkNode [] tree

/-- What is said of a component tree that is refused: which part of a message it was, and why. -/
structure Refusal where
  message : String
  field : Option String := none
  value : Option Json := none
  deriving DecidableEq, Repr

/-- The check of a component tree that goes out in a message. -/
def validate (tree : Json) (size : Nat) : Except Refusal Unit :=
  (check tree size).mapError fun e => { message := e.message, field := some "components" }

end ScreenBridge.Component
