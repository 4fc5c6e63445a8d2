import ScreenBridge.Keyed

/-!
# Counters

What the bridge counts: messages by type, errors by code, fan-outs by type, widgets without an
entry by type, runs of the generator by outcome, and how often a translation or a generation was
timed. A counter is listed once it was touched; the gauge of open sessions and the two timers are
always listed. The list is sorted by name and label.
-/

namespace ScreenBridge

abbrev Counter := Keyed Nat

def Counter.increment (c : Counter) (label : String) : Counter :=
  c.set label ((c.get? label).getD 0 + 1)

/-- All counts. -/
structure Metrics where
  messages : Counter := []
  errors : Counter := []
  broadcasts : Counter := []
  unmappedWidgets : Counter := []
  generations : Counter := []
  translationsTimed : Nat := 0
  generationsTimed : Nat := 0
  activeSessions : Nat := 0
  deriving DecidableEq, Repr, Inhabited

/-- A count with its name and its label, if it has one. -/
structure Sample where
  name : String
  label : Option (String × String)
  value : Nat
  deriving DecidableEq, Repr

namespace Metrics

/-- A message of a type came in. -/
def recordMessage (m : Metrics) (type : String) : Metrics :=
  { m with messages := m.messages.increment type }

/-- An error with a code was sent. -/
def recordError (m : Metrics) (code : String) : Metrics :=
  { m with errors := m.errors.increment code }

/-- A message of a type was fanned out. -/
def recordBroadcast (m : Metrics) (type : String) : Metrics :=
  { m with broadcasts := m.broadcasts.increment type }

/-- A tree was translated, with some widgets that have no entry. -/
def recordTranslation (m : Metrics) (unmapped : List String) : Metrics :=
  { m with
    translationsTimed := m.translationsTimed + 1
    unmappedWidgets := unmapped.foldl Counter.increment m.unmappedWidgets }

/-- The generator ran, with an outcome. -/
def recordGeneration (m : Metrics) (status : String) : Metrics :=
  { m with
    generationsTimed := m.generationsTimed + 1
    generations := m.generations.increment status }

def setActiveSessions (m : Metrics) (n : Nat) : Metrics :=
  { m with activeSessions := n }

def counterSamples (name key : String) (c : Counter) : List Sample :=
  (c.mergeSort fun a b => a.1 ≤ b.1).map fun kv => ⟨name, some (key, kv.1), kv.2⟩

def samples (m : Metrics) : List Sample :=
  [⟨"bridge_active_sessions", none, m.activeSessions⟩] ++
    counterSamples "bridge_broadcasts_total" "type" m.broadcasts ++
    counterSamples "bridge_errors_total" "code" m.errors ++
    [⟨"bridge_generation_duration_seconds_count", none, m.generationsTimed⟩] ++
    counterSamples "bridge_generations_total" "status" m.generations ++
    counterSamples "bridge_messages_total" "type" m.messages ++
    [⟨"bridge_translation_duration_seconds_count", none, m.translationsTimed⟩] ++
    counterSamples "bridge_unmapped_widgets_total" "widget_type" m.unmappedWidgets

end Metrics

end ScreenBridge
