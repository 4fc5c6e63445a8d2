import ScreenBridge.Component.Translation
import ScreenBridge.Mapping.Builtin
import ScreenBridge.Metrics
import ScreenBridge.Session
import ScreenBridge.Settings.Basic
import ScreenBridge.Source.Project
import ScreenBridge.Timestamp
import ScreenBridge.Wire.Envelope
import ScreenBridge.Wire.Message

/-!
# The bridge

A bridge is fixed by its settings, its translator and the generator of sources, if it writes any.
What changes is its state: the sessions, the current configuration of the app, the files, the
counters, the log and the clock. Opening and closing a session keeps the gauge of open sessions
at the size of the table.
-/

namespace ScreenBridge

open Log (Notice Keys)
open Mapping (Registry)
open Source (Generator)
open Ui (Document)

/-- What makes components of a document: the notices that it gives, and the translation or why
there is none. -/
abbrev Translator := Document → List Notice × Except String Translation

/-- The translator that looks widgets up in a registry and notes those without an entry. -/
def Translator.ofRegistry (r : Registry) : Translator := fun d =>
  let t := Translation.ofDocument r d
  (t.unmapped.map .unmappedWidget, .ok t)

/-- The translator that gives the same translation for every document. -/
def Translator.constant (t : Translation) : Translator := fun _ => ([], .ok t)

/-- The translator that fails for every document. -/
def Translator.failing (reason : String) : Translator := fun _ => ([], .error reason)

def Settings.generator (s : Settings) (r : Registry) : Generator where
  registry := r
  outputDir := Files.Path.ofString s.outputDir
  extension := s.screenExtension
  liveUpdateUrl := s.liveUpdateUrl

/-- What a bridge does, fixed when it starts. -/
structure Bridge where
  settings : Settings
  translator : Translator
  generator : Option Generator

namespace Bridge

/-- The bridge that settings describe. Translator and generator share one registry. -/
def ofSettings (s : Settings) : Bridge where
  settings := s
  translator := .ofRegistry .builtin
  generator := if s.enableCodegen then some (s.generator .builtin) else none

/-- The types of messages that have a handler. -/
def handledTypes : List Wire.MessageType := [.appConfig, .uiUpdate]

/-- What changes while a bridge runs. -/
structure State where
  sessions : SessionTable := {}
  appConfig : Option AppConfig := none
  files : Files.Tree := .empty
  metrics : Metrics := {}
  log : List Log.Record := []
  clock : Int
  deriving Repr

namespace State

def now (s : State) : String :=
  Timestamp.text s.clock

/-- An event logged with the bound keys. -/
def note (bound : Keys) (n : Notice) (s : State) : State :=
  { s with log := s.log ++ [n.recordWith bound] }

/-- Some events logged with the bound keys. -/
def noteAll (bound : Keys) (ns : List Notice) (s : State) : State :=
  { s with log := s.log ++ ns.map (Notice.recordWith bound) }

def count (change : Metrics → Metrics) (s : State) : State :=
  { s with metrics := change s.metrics }

/-- A session opened on a connection; its number is the next one. -/
def openSession [IdSupply] (bound : Keys) (connection : Nat) (s : State) : State :=
  let sessions := s.sessions.add connection s.now
  ({ s with sessions }.count (·.setActiveSessions sessions.size)).note bound
    (.sessionOpened (sessionName s.sessions.next) sessions.size)

/-- A session closed; nothing happens if there is no live session with that name. -/
def closeSession (bound : Keys) (id : String) (s : State) : State :=
  match s.sessions.find? id with
  | none => s
  | some _ =>
    let sessions := s.sessions.remove id
    ({ s with sessions }.count (·.setActiveSessions sessions.size)).note bound
      (.sessionClosed id sessions.size)

/-- The connection of the session with a number. -/
def connectionOf (s : State) (number : Nat) : Nat :=
  ((s.sessions.session? number).map Session.connection).getD 0

/-- The name of the session with a number. -/
def nameOf (s : State) (number : Nat) : String :=
  ((s.sessions.session? number).map Session.id).getD ""

end State

end Bridge

end ScreenBridge
