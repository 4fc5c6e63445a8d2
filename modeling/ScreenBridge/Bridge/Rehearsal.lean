import ScreenBridge.Bridge.Dispatch

/-!
# Rehearsals

A bridge can be tried out with viewers that follow a script. A scripted viewer takes the texts
that are sent to it or fails to; and while it takes one, sessions may be closed and opened, as
they may on a real connection. Each event is run to its end, and what went over the connections
is written down in order.
-/

namespace ScreenBridge.Bridge

/-- What a viewer does: why sending to it fails, why closing its connection fails, the connections
whose sessions are closed whenever it takes a text, and whether a session is opened the first
time. -/
structure Script where
  sendFailure : Option String := none
  closeFailure : Option String := none
  closes : List Nat := []
  opens : Bool := false
  deriving DecidableEq, Repr, Inhabited

/-- A viewer, and whether a session was opened for it already. -/
structure ScriptedViewer where
  script : Script
  opened : Bool := false
  deriving DecidableEq, Repr, Inhabited

/-- What went over a connection: a text that was taken, or the request to close it. -/
inductive Traffic where
  | text (connection : Nat) (text : String)
  | close (connection : Nat)
  deriving DecidableEq, Repr

/-- The viewers by connection, and what went over their connections. -/
structure Audience where
  viewers : List ScriptedViewer := []
  traffic : List Traffic := []
  deriving DecidableEq, Repr, Inhabited

namespace State

def sessionOn? (s : State) (connection : Nat) : Option Session :=
  s.sessions.created.find? fun session => session.connection = connection

/-- The sessions on some connections closed. -/
def closeConnections (bound : Log.Keys) (connections : List Nat) (s : State) : State :=
  connections.foldl
    (fun s connection =>
      match s.sessionOn? connection with
      | some session => s.closeSession bound session.id
      | none => s) s

end State

namespace Audience

/-- One more viewer; its connection is the next one. -/
def join (script : Script) (a : Audience) : Audience :=
  { a with viewers := a.viewers ++ [{ script }] }

def direct (connection : Nat) (script : Script) (a : Audience) : Audience :=
  { a with viewers := a.viewers.modify connection fun v => { v with script } }

/-- Something that went over a connection. -/
def log (t : Traffic) (a : Audience) : Audience :=
  { a with traffic := a.traffic ++ [t] }

/-- A text that a viewer takes, and what happens meanwhile. -/
def take [IdSupply] (bound : Log.Keys) (connection : Nat) (text : String) (viewer : ScriptedViewer)
    (a : Audience) (s : State) : Audience × State :=
  let a := a.log (.text connection text)
  let s := s.closeConnections bound viewer.script.closes
  if viewer.script.opens && !viewer.opened then
    let a := { a with viewers := a.viewers.modify connection fun v => { v with opened := true } }
    (a.join {}, s.openSession bound a.viewers.length)
  else (a, s)

/-- The call of a task as the script of its viewer has it. -/
def answer [IdSupply] (t : Task) (w : Audience × State) : Outcome × Audience × State :=
  let (a, s) := w
  match t.call with
  | .send number text =>
    let connection := s.connectionOf number
    let viewer := (a.viewers[connection]?).getD default
    match viewer.script.sendFailure with
    | some reason => (.raised reason, a, s)
    | none => (.done, a.take t.bound connection text viewer s)
  | .close number =>
    let connection := s.connectionOf number
    let viewer := (a.viewers[connection]?).getD default
    let a := a.log (.close connection)
    match viewer.script.closeFailure with
    | some reason => (.raised reason, a, s)
    | none => (.done, a, s)

end Audience

/-- An event run to its end before an audience. -/
def rehearse [IdSupply] (b : Bridge) (e : Event) (w : Audience × State) :
    Result × Audience × State :=
  let (s, p) := b.start e w.2
  b.settle Audience.answer p (w.1, s)

end ScreenBridge.Bridge
