import ScreenBridge.Bridge.Basic

/-!
# Tasks

Work that the bridge does for one event is a task. A task runs until it hands a text to a
connection or closes one, and waits there for the outcome; meanwhile other tasks may run. So a
waiting task is data: the call whose outcome it waits for, what comes after it, and the keys that
its events are logged with.

A fan-out takes down which sessions are open when it starts and goes through them one by one. It
passes over those that were closed before their turn. A session whose connection fails is closed
and its connection too, and the fan-out goes on.
-/

namespace ScreenBridge.Bridge

open Log (Keys)
open Ui (Document)
open Wire (Failure Message)

/-- What is asked of the connection of a session. -/
inductive Call where
  | send (session : Nat) (text : String)
  | close (session : Nat)
  deriving DecidableEq, Repr

/-- How a call went. -/
inductive Outcome where
  | done
  | raised (reason : String)
  deriving DecidableEq, Repr

/-- What a fan-out was for. -/
inductive Occasion where
  | message
  | config (title : String)
  | screen (sender : String) (document : Document) (unmapped : List String)
  deriving Repr

/-- What comes after a text was delivered, or was not. -/
inductive Sequel where
  | tell
  | greet (session : Nat)
  | rest
  | fanOut (text : String) (remaining : List Nat) (delivered : Nat) (occasion : Occasion)
  deriving Repr

/-- Work that waits for the outcome of a call. -/
structure Task where
  bound : Keys
  call : Call
  sequel : Sequel
  deriving Repr

/-- What came of an event. -/
inductive Result where
  | opened (session : Nat)
  | sent (delivered : Bool)
  | fannedOut (delivered : Nat)
  | handled
  | brokeOff (cause : Json.Breakdown)
  deriving DecidableEq, Repr

/-- Where the work on an event has got to. -/
inductive Progress where
  | waiting (task : Task)
  | finished (result : Result)
  deriving Repr

/-! ## Sending to one session -/

/-- A text sent to a session; without an open one there is nothing to wait for. -/
def sendTo (bound : Keys) (id text : String) (sequel : Sequel) (otherwise : Result) (s : State) :
    State × Progress :=
  match s.sessions.openNumber? id with
  | some n => (s, .waiting ⟨bound, .send n text, sequel⟩)
  | none => (s, .finished otherwise)

/-- A failure told to a session. -/
def report (bound : Keys) (id : String) (f : Failure) (s : State) : State × Progress :=
  let s := s.count (·.recordError f.code.word)
  sendTo bound id (Message.ofFailure s.now f).text .rest .handled s

/-- The end of handling a message that cannot be handled. -/
def giveUp (bound : Keys) (id : String) (f : Failure) (s : State) : State × Progress :=
  report bound id f (s.note bound (.handlerFailed f.code.word f.message))

/-! ## Writing sources -/

/-- The sources of a screen written, if the bridge writes any. -/
def writeSources (b : Bridge) (bound : Keys) (sender : String) (d : Document) (s : State) :
    State × Progress :=
  match b.generator with
  | none => (s, .finished .handled)
  | some g =>
    let (outcome, notices, files) := Source.Generator.run (g.generate d) s.files
    let s := { s with files }.noteAll bound notices
    match outcome with
    | .ok _ => (s.count (·.recordGeneration "success"), .finished .handled)
    | .error (.failed f) => giveUp bound sender f (s.count (·.recordGeneration "error"))
    | .error (.crashed c) => report bound sender .crashed (s.note bound (.handlerCrashed c.message))

/-! ## Fan-outs -/

def concludeFanOut (b : Bridge) (bound : Keys) (delivered : Nat) (occasion : Occasion)
    (s : State) : State × Progress :=
  match occasion with
  | .message => (s, .finished (.fannedOut delivered))
  | .config title =>
    ((s.count (·.recordBroadcast Wire.MessageType.appConfig.word)).note bound
      (.appConfigUpdated title delivered), .finished .handled)
  | .screen sender d unmapped =>
    writeSources b bound sender d
      ((s.count (·.recordBroadcast Wire.MessageType.componentSpec.word)).note bound
        (.uiTranslated d.screenId d.route delivered unmapped))

/-- A fan-out that still has some sessions before it. -/
def fanOut (b : Bridge) (bound : Keys) (text : String) (delivered : Nat) (occasion : Occasion) :
    List Nat → State → State × Progress
  | [], s => concludeFanOut b bound delivered occasion s
  | n :: remaining, s =>
    if s.sessions.isOpen n then
      (s, .waiting ⟨bound, .send n text, .fanOut text remaining delivered occasion⟩)
    else fanOut b bound text delivered occasion remaining s

/-- A fan-out to the sessions that are open now. -/
def startFanOut (b : Bridge) (bound : Keys) (text : String) (occasion : Occasion) (s : State) :
    State × Progress :=
  fanOut b bound text 0 occasion s.sessions.openNumbers s

/-! ## Going on -/

/-- What follows when a text was delivered, or was not. -/
def proceed (b : Bridge) (bound : Keys) (delivered : Bool) (sequel : Sequel) (s : State) :
    State × Progress :=
  match sequel with
  | .tell => (s, .finished (.sent delivered))
  | .greet session => (s, .finished (.opened session))
  | .rest => (s, .finished .handled)
  | .fanOut text remaining count occasion =>
    fanOut b bound text (if delivered then count + 1 else count) occasion remaining s

/-- A waiting task goes on with the outcome of its call. -/
def resume (b : Bridge) (t : Task) (outcome : Outcome) (s : State) : State × Progress :=
  match t.call, outcome with
  | .send _ _, .done => proceed b t.bound true t.sequel s
  | .send n _, .raised reason =>
    let id := s.nameOf n
    ((s.note t.bound (.sendFailed id reason)).closeSession t.bound id,
      .waiting ⟨t.bound, .close n, t.sequel⟩)
  | .close _, .done => proceed b t.bound false t.sequel s
  | .close n, .raised reason =>
    proceed b t.bound false t.sequel
      (s.note t.bound (.transportCloseFailed (s.nameOf n) reason))

/-! ## How long a task can wait -/

/-- How many more calls an occasion can lead to. -/
def Occasion.weight : Occasion → Nat
  | .message | .config _ => 0
  | .screen .. => 2

/-- How many more calls a sequel can lead to. -/
def Sequel.weight : Sequel → Nat
  | .tell | .greet _ | .rest => 0
  | .fanOut _ remaining _ occasion => 2 * remaining.length + occasion.weight

/-- How many calls a task can make, the one that it waits for included. -/
def Task.weight (t : Task) : Nat :=
  match t.call with
  | .send _ _ => t.sequel.weight + 2
  | .close _ => t.sequel.weight + 1

/-- How many calls can be made. -/
def Progress.weight : Progress → Nat
  | .waiting t => t.weight
  | .finished _ => 0

theorem sendTo_weight_le (bound : Keys) (id text : String) (sequel : Sequel) (otherwise : Result)
    (s : State) : (sendTo bound id text sequel otherwise s).2.weight ≤ sequel.weight + 2 := by
  unfold sendTo
  split <;> simp [Progress.weight, Task.weight]

theorem report_weight_le (bound : Keys) (id : String) (f : Failure) (s : State) :
    (report bound id f s).2.weight ≤ 2 :=
  sendTo_weight_le ..

theorem writeSources_weight_le (b : Bridge) (bound : Keys) (sender : String) (d : Document)
    (s : State) : (writeSources b bound sender d s).2.weight ≤ 2 := by
  unfold writeSources
  split
  · simp [Progress.weight]
  · dsimp only
    split
    · simp [Progress.weight]
    · exact report_weight_le ..
    · exact report_weight_le ..

theorem concludeFanOut_weight_le (b : Bridge) (bound : Keys) (delivered : Nat)
    (occasion : Occasion) (s : State) :
    (concludeFanOut b bound delivered occasion s).2.weight ≤ occasion.weight := by
  cases occasion with
  | message => simp [concludeFanOut, Progress.weight]
  | config => simp [concludeFanOut, Progress.weight]
  | screen sender d unmapped =>
    unfold concludeFanOut
    exact writeSources_weight_le b bound sender d _

theorem fanOut_weight_le (b : Bridge) (bound : Keys) (text : String) (delivered : Nat)
    (occasion : Occasion) (remaining : List Nat) (s : State) :
    (fanOut b bound text delivered occasion remaining s).2.weight ≤
      2 * remaining.length + occasion.weight := by
  induction remaining with
  | nil =>
    unfold fanOut
    simpa using concludeFanOut_weight_le b bound delivered occasion s
  | cons n rest ih =>
    unfold fanOut
    split
    · simp [Progress.weight, Task.weight, Sequel.weight]
      omega
    · simp only [List.length_cons]
      omega

theorem proceed_weight_le (b : Bridge) (bound : Keys) (delivered : Bool) (sequel : Sequel)
    (s : State) : (proceed b bound delivered sequel s).2.weight ≤ sequel.weight := by
  cases sequel with
  | tell | greet | rest => simp [proceed, Progress.weight]
  | fanOut => exact fanOut_weight_le ..

theorem resume_weight_lt (b : Bridge) (t : Task) (outcome : Outcome) (s : State) :
    (resume b t outcome s).2.weight < t.weight := by
  obtain ⟨bound, call, sequel⟩ := t
  cases call <;> cases outcome
  · exact Nat.lt_of_le_of_lt (proceed_weight_le ..) (by simp [Task.weight])
  · simp [resume, Progress.weight, Task.weight]
  · exact Nat.lt_of_le_of_lt (proceed_weight_le ..) (by simp [Task.weight])
  · exact Nat.lt_of_le_of_lt (proceed_weight_le ..) (by simp [Task.weight])

/-! ## Running to the end -/

/-- A task run to its end without others in between: `answer` makes its calls, and may change the
state while it does. -/
def settle {σ : Type} (b : Bridge) (answer : Task → σ × State → Outcome × σ × State) :
    Progress → σ × State → Result × σ × State
  | .finished r, w => (r, w)
  | .waiting t, w =>
    let (outcome, v, s) := answer t w
    let next := resume b t outcome s
    settle b answer next.2 (v, next.1)
  termination_by p => p.weight
  decreasing_by exact resume_weight_lt ..

end ScreenBridge.Bridge
