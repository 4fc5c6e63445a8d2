import ScreenBridge.Keyed

/-!
# Sessions

A session is one connection of a viewer. The table keeps every session that was ever created,
under its number, and the live ones under their names in the order in which they were opened. A
session that leaves the live ones is closed for good, and a name is never given twice.

Names are made from identifiers that a library draws. Which ones it draws is left open; all that
is known of them is that no two are the same.
-/

namespace ScreenBridge

/-- Whether a session is in use. -/
inductive SessionState where
  | opened
  | closed
  deriving DecidableEq, Repr, Inhabited

def SessionState.word : SessionState → String
  | opened => "open"
  | closed => "closed"

/-- One connection of a viewer. -/
structure Session where
  id : String
  connection : Nat
  state : SessionState
  connectedAt : String
  deriving DecidableEq, Repr, Inhabited

/-- A supply of identifiers: the one that is drawn for each number. -/
class IdSupply where
  draw : Nat → String
  draw_injective : ∀ {m n : Nat}, draw m = draw n → m = n

/-- The name of the session with a number, its place in the order of creation. -/
def sessionName [IdSupply] (number : Nat) : String :=
  "sess_" ++ IdSupply.draw number

/-- All sessions by number, and the numbers of the live ones by name. -/
structure SessionTable where
  created : List Session := []
  live : Keyed Nat := []
  deriving DecidableEq, Repr, Inhabited

namespace SessionTable

def session? (t : SessionTable) (number : Nat) : Option Session :=
  t.created[number]?

/-- Whether the session with a number is open. -/
def isOpen (t : SessionTable) (number : Nat) : Bool :=
  match t.session? number with
  | some s => s.state = .opened
  | none => false

/-- The number of the live session with a name. -/
def find? (t : SessionTable) (id : String) : Option Nat :=
  t.live.get? id

def size (t : SessionTable) : Nat :=
  t.live.length

/-- The number that the next session gets. -/
def next (t : SessionTable) : Nat :=
  t.created.length

/-- The table with a new open session on a connection. -/
def add [IdSupply] (t : SessionTable) (connection : Nat) (now : String) : SessionTable :=
  let id := sessionName t.next
  ⟨t.created ++ [⟨id, connection, .opened, now⟩], t.live.set id t.next⟩

/-- The table without a live session, which is closed. -/
def remove (t : SessionTable) (id : String) : SessionTable :=
  match t.find? id with
  | none => t
  | some number =>
    ⟨t.created.modify number fun s => { s with state := .closed }, t.live.erase id⟩

/-- The numbers of the live sessions that are open, in the order of opening. -/
def openNumbers (t : SessionTable) : List Nat :=
  (t.live.map Prod.snd).filter t.isOpen

/-- The live session with a name, if it is open. -/
def openNumber? (t : SessionTable) (id : String) : Option Nat :=
  (t.find? id).filter t.isOpen

end SessionTable

end ScreenBridge
