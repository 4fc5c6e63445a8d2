import ScreenBridge.Bridge.Task

/-!
# Dispatch

Everything that happens to a bridge is an event. A frame of a session is read as an envelope and
handled by its type: a ping is answered, a configuration replaces the current one and goes to
everyone, and a screen is translated, goes to everyone and is written as sources. Other types are
left alone. What fails is told to the sender only.
-/

namespace ScreenBridge.Bridge

open Log (Keys)
open Schema (Checked)
open Ui (Document)
open Wire (Envelope Failure Message)

/-- What happens to a bridge. -/
inductive Event where
  | openSession (connection : Nat)
  | connect (connection : Nat)
  | disconnect (session : String)
  | sendTo (session : String) (message : Json)
  | broadcast (message : Json)
  | frame (session : String) (bytes : List UInt8)
  deriving DecidableEq, Repr

/-- A session opened and greeted with its name and what the bridge supports. -/
def connect [IdSupply] (b : Bridge) (connection : Nat) (s : State) : State × Progress :=
  let number := s.sessions.next
  let id := sessionName number
  let s := s.openSession [] connection
  sendTo [] id (Message.connectionAck s.now id b.settings.supportedFeatures).text (.greet number)
    (.opened number) s

/-- A configuration of the app taken over and shared. -/
def handleConfig (b : Bridge) (bound : Keys) (id : String) (e : Envelope) (s : State) :
    State × Progress :=
  match AppConfig.ofJson e.payload with
  | .invalid issues => giveUp bound id (.badConfig issues) s
  | .valid config =>
    startFanOut b bound (Message.appConfig s.now config (some id)).text (.config config.title)
      { s with appConfig := some config }

def shareScreen (b : Bridge) (bound : Keys) (id : String) (d : Document) (t : Translation)
    (s : State) : State × Progress :=
  let components := t.component.toJson
  match Component.check components components.encode.utf8ByteSize with
  | .error cause => giveUp bound id (.badTranslation cause) s
  | .ok _ =>
    startFanOut b bound (Message.componentSpec s.now d components s.appConfig (some id)).text
      (.screen id d t.unmapped) (s.count (·.recordTranslation t.unmapped))

def handleScreen (b : Bridge) (bound : Keys) (id : String) (e : Envelope) (s : State) :
    State × Progress :=
  match Document.ofJson s.now e.payload with
  | .invalid issues => giveUp bound id (.badDocument issues) s
  | .valid d =>
    let (notices, outcome) := b.translator d
    let s := s.noteAll bound notices
    match outcome with
    | .error reason =>
      giveUp bound id (.translatorFailed reason)
        (s.note bound (.translationCrashed d.screenId reason))
    | .ok t => shareScreen b bound id d t s

/-- The keys that are bound while a message is handled. -/
def messageKeys (id type : String) : Keys :=
  [Log.textKey "session_id" id, Log.textKey "message_type" type]

/-- A message handled by its type. -/
def handle (b : Bridge) (id : String) (e : Envelope) (s : State) : State × Progress :=
  let bound := messageKeys id e.type
  let s := (s.count (·.recordMessage e.type)).note bound .messageReceived
  match Wire.MessageType.ofWord? e.type with
  | some .ping => sendTo bound id (Message.pong s.now).text .rest .handled s
  | some .appConfig => handleConfig b bound id e s
  | some .uiUpdate => handleScreen b bound id e s
  | _ => (s.note bound .unhandledMessageType, .finished .handled)

/-- A frame of a session read and handled. -/
def dispatch (b : Bridge) (id : String) (frame : List UInt8) (s : State) : State × Progress :=
  match s.sessions.openNumber? id with
  | none => (s.note [] (.messageForClosedSession id), .finished .handled)
  | some _ =>
    match Wire.parseEnvelope b.settings.maxMessageSize b.settings.maxJsonDepth frame with
    | .error (.refused f) => report [] id f (s.note [] (.parseFailed id f.message))
    | .error (.brokeOff cause) => (s, .finished (.brokeOff cause))
    | .ok e => handle b id e s

/-- The work on an event, up to the first call. -/
def start [IdSupply] (b : Bridge) (e : Event) (s : State) : State × Progress :=
  match e with
  | .openSession connection =>
    (s.openSession [] connection, .finished (.opened s.sessions.next))
  | .connect connection => connect b connection s
  | .disconnect id => (s.closeSession [] id, .finished .handled)
  | .sendTo id message => sendTo [] id message.encode .tell (.sent false) s
  | .broadcast message => startFanOut b [] message.encode .message s
  | .frame id bytes => dispatch b id bytes s

end ScreenBridge.Bridge
