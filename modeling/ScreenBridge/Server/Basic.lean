import ScreenBridge.Server.Network

/-!
# The server

A server runs a bridge for viewers that connect to it. Each connection has an endpoint, which
greets its viewer, passes the frames that come in to the bridge one after the other, and ends with
the connection: when the viewer leaves, when a frame cannot be dealt with, or when the session is
found to be gone. A connection on an unknown path is turned away.
-/

namespace ScreenBridge

/-- A bridge with its state, and the connections of its viewers. -/
structure Server where
  bridge : Bridge
  state : Bridge.State
  network : Server.Network := {}

end ScreenBridge

namespace ScreenBridge.Server

open Log (Notice)

/-- An event of the bridge run to its end. -/
def run [IdSupply] (e : Bridge.Event) (v : Server) : Bridge.Result × Server :=
  let (s, p) := v.bridge.start e v.state
  let (result, network, state) := v.bridge.settle answer p (v.network, s)
  (result, { v with state, network })

/-- An event logged outside of any message. -/
def note (n : Notice) (v : Server) : Server :=
  { v with state := v.state.note [] n }

/-- A server with no viewers yet. -/
def launch (settings : Settings) (files : Files.Tree) (clock : Int) : Server :=
  let v : Server := { bridge := .ofSettings settings, state := { files, clock } }
  v.note (.bridgeReady settings.port settings.outputDir settings.enableCodegen)

/-! ## Endpoints -/

/-- The paths on which viewers connect. -/
def viewerPaths : List String := ["/", "/ws"]

/-- A viewer that connects on a path. -/
def connect [IdSupply] (path : String) (v : Server) : Server :=
  let connection := v.network.endpoints.length
  if viewerPaths.contains path then
    let session := sessionName v.state.sessions.next
    let network := (v.network.join (some session) false).send connection .accept
    (run (.connect connection) { v with network }).2
  else
    { v with network := (v.network.join none true).send connection (.close normalClose) }

/-- The session of an endpoint that is still at work. -/
def sessionAt? (connection : Nat) (v : Server) : Option String :=
  match v.network.endpoints[connection]? with
  | some e => if e.ended then none else e.session
  | none => none

/-- The work of an endpoint over: its session is closed. -/
def finish (connection : Nat) (session : String) (v : Server) : Server :=
  { v with
    state := v.state.closeSession [] session
    network := v.network.change connection fun e => { e with ended := true } }

/-- A frame that comes in over a connection; one for an endpoint that has ended is lost. -/
def receive [IdSupply] (connection : Nat) (frame : List UInt8) (v : Server) : Server :=
  match v.sessionAt? connection with
  | none => v
  | some session =>
    match run (.frame session frame) v with
    | (.brokeOff cause, v) =>
      (v.note (.websocketError session cause.message)).finish connection session
    | (_, v) =>
      if (v.state.sessions.find? session).isSome then v
      else (v.note (.sessionDropped session)).finish connection session

def leave (connection : Nat) (v : Server) : Server :=
  match v.sessionAt? connection with
  | none => v
  | some session => (v.note (.websocketDisconnected session)).finish connection session

/-- Sending over a connection fails from now on, or works again. -/
def setFailing (connection : Nat) (failing : Bool) (v : Server) : Server :=
  { v with network := v.network.change connection fun e => { e with failing } }

/-- A live session closed with its connection. -/
def closeSession (v : Server) (session : String) : Server :=
  let connection := (v.network.connectionOf? session).getD 0
  let (outcome, network) := transmit connection (.close normalClose) v.network
  let v := { v with network }
  let v := match outcome with
    | .done => v
    | .raised reason => v.note (.sessionCloseFailed session reason)
  { v with state := v.state.closeSession [] session }

/-- The end of a server: every live session is closed with its connection. -/
def shutDown (v : Server) : Server :=
  let v := v.note (.bridgeShuttingDown v.state.sessions.size)
  v.state.sessions.live.keys.foldl closeSession v

/-- The connections whose endpoints have ended. -/
def endedConnections (v : Server) : List Nat :=
  (List.range v.network.endpoints.length).filter fun i =>
    ((v.network.endpoints[i]?).map Endpoint.ended).getD false

end ScreenBridge.Server
