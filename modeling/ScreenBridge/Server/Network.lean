import ScreenBridge.Bridge.Dispatch

/-!
# The network

What a server sees of its viewers: an endpoint for each connection, and all that was sent. A
connection whose viewer is gone fails whatever is sent over it.
-/

namespace ScreenBridge.Server

open Bridge (Outcome State Task)

/-- What is sent over a connection. -/
inductive Transmission where
  | accept
  | text (text : String)
  | close (code : Nat)
  deriving DecidableEq, Repr

/-- The code of an orderly close. -/
def normalClose : Nat := 1000

/-- One end of a connection: its session if it has one, whether its work is over, and whether
sending to its viewer fails. -/
structure Endpoint where
  session : Option String
  ended : Bool
  failing : Bool
  deriving DecidableEq, Repr, Inhabited

/-- The endpoints by connection, and all that was sent, with its connection. -/
structure Network where
  endpoints : List Endpoint := []
  sent : List (Nat × Transmission) := []
  deriving DecidableEq, Repr, Inhabited

namespace Network

/-- One more connection; its number is the next one. -/
def join (session : Option String) (ended : Bool) (n : Network) : Network :=
  { n with endpoints := n.endpoints ++ [⟨session, ended, false⟩] }

/-- What went out over a connection. -/
def send (connection : Nat) (t : Transmission) (n : Network) : Network :=
  { n with sent := n.sent ++ [(connection, t)] }

def change (connection : Nat) (f : Endpoint → Endpoint) (n : Network) : Network :=
  { n with endpoints := n.endpoints.modify connection f }

def connectionOf? (n : Network) (session : String) : Option Nat :=
  n.endpoints.findIdx? fun e => e.session = some session

/-- Whether sending over a connection fails. -/
def fails (n : Network) (connection : Nat) : Bool :=
  ((n.endpoints[connection]?).map Endpoint.failing).getD false

end Network

/-- Why sending to a viewer that is gone fails. -/
def resetReason : String := "connection reset by peer"

/-- Something sent over a connection, or why it fails. -/
def transmit (connection : Nat) (t : Transmission) (n : Network) : Outcome × Network :=
  if n.fails connection then (.raised resetReason, n) else (.done, n.send connection t)

/-- The call of a task made over the network. -/
def answer (t : Task) (w : Network × State) : Outcome × Network × State :=
  let (n, s) := w
  match t.call with
  | .send number text =>
    let (outcome, n) := transmit (s.connectionOf number) (.text text) n
    (outcome, n, s)
  | .close number =>
    let (outcome, n) := transmit (s.connectionOf number) (.close normalClose) n
    (outcome, n, s)

end ScreenBridge.Server
