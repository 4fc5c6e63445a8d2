import ScreenBridge.Bridge.Dispatch
import ScreenBridge.Proofs.SessionTable

/-!
# Many works on one bridge

A bridge serves its viewers with one thread of control, and a work gives it up
only where it waits for a call. So everything that can be interleaved is
interleaved between two steps of `start` and `resume`, and a state of the whole
is a state of the bridge with the works that are under way, each waiting for
the outcome of its call or finished. That is a `World`. A `Move` is what can
happen next in it, with every choice left to the outside: which event comes,
which of the waiting works goes on and how its call went, what the clock says.
A run is any list of moves; a move that nothing waits for changes nothing.

A run also leaves a trace: which events began, which calls were made and how
they went, each under the number of the work it belongs to. The world does not
depend on it, and the statements about runs are statements about it.

The second half of the file says once what a step can do to the sessions.
`SessionStep` has the three cases — the sessions untouched, one more, one
closed, the gauge following in the latter two — and `Orderly` is what every
function below `start` and `resume` keeps: it leaves the sessions alone, and
if it ends in handing over a text, it hands it to a session that is open there
and then. No later proof about the sessions opens one of those functions.
-/

namespace ScreenBridge.Bridge

/-- A bridge that translates nothing and writes nothing. -/
def relay : Bridge where
  settings := .standard
  translator := .failing "no translation"
  generator := none

/-- What happens next: an event comes in, the call of a waiting work has an
outcome, or time passes. -/
inductive Move where
  | start (event : Event)
  | answer (work : Nat) (outcome : Outcome)
  | tick (now : Int)
  deriving DecidableEq, Repr

/-- One line of a trace. -/
inductive Entry where
  | began (work : Nat) (event : Event)
  | called (work : Nat) (call : Call)
  | answered (work : Nat) (call : Call) (outcome : Outcome)
  deriving DecidableEq, Repr

/-- The state of a bridge, and the works in the order in which they began. -/
structure World where
  state : State
  works : List Progress := []

/-- What the trace shows of a work that has just run: the call it waits for. -/
def Progress.entries (work : Nat) : Progress → List Entry
  | .waiting t => [.called work t.call]
  | .finished _ => []

namespace World

variable [IdSupply]

/-- A move made, and what it adds to the trace. -/
def advance (b : Bridge) (w : World) : Move → World × List Entry
  | .start e =>
    let (s, p) := b.start e w.state
    (⟨s, w.works ++ [p]⟩, .began w.works.length e :: p.entries w.works.length)
  | .answer f outcome =>
    match w.works[f]? with
    | some (.waiting t) =>
      let (s, p) := b.resume t outcome w.state
      (⟨s, w.works.set f p⟩, .answered f t.call outcome :: p.entries f)
    | _ => (w, [])
  | .tick now => ({ w with state := { w.state with clock := now } }, [])

def step (b : Bridge) (w : World) (m : Move) : World :=
  (w.advance b m).1

/-- What a move adds to the trace. -/
def news (b : Bridge) (w : World) (m : Move) : List Entry :=
  (w.advance b m).2

def run (b : Bridge) (w : World) (ms : List Move) : World :=
  ms.foldl (step b) w

def trace (b : Bridge) (w : World) : List Move → List Entry
  | [] => []
  | m :: ms => w.news b m ++ (w.step b m).trace b ms

/-- A world that a bridge can come to from a start without sessions. -/
inductive Reachable (b : Bridge) : World → Prop where
  | launch {s : State} (hs : s.sessions = {}) : Reachable b ⟨s, []⟩
  | step {w : World} (h : Reachable b w) (m : Move) : Reachable b (w.step b m)

/-- The start of a bridge at the beginning of time. -/
def launched : World := ⟨{ clock := 0 }, []⟩

theorem Reachable.launched {b : Bridge} : launched.Reachable b := .launch rfl

variable {b : Bridge} {w : World} {ms ms' : List Move}

@[simp] theorem run_cons (b : Bridge) (w : World) (m : Move) (ms : List Move) :
    w.run b (m :: ms) = (w.step b m).run b ms := rfl

theorem run_append (b : Bridge) (w : World) (ms ms' : List Move) :
    w.run b (ms ++ ms') = (w.run b ms).run b ms' :=
  List.foldl_append

theorem trace_append (b : Bridge) (w : World) (ms ms' : List Move) :
    w.trace b (ms ++ ms') = w.trace b ms ++ (w.run b ms).trace b ms' := by
  induction ms generalizing w with
  | nil => rfl
  | cons m ms ih =>
      rw [List.cons_append, trace, trace, ih, List.append_assoc, run_cons]

@[simp] theorem run_concat (b : Bridge) (w : World) (ms : List Move) (m : Move) :
    w.run b (ms ++ [m]) = (w.run b ms).step b m :=
  run_append b w ms [m]

theorem Reachable.run (h : w.Reachable b) (ms : List Move) :
    (w.run b ms).Reachable b := by
  induction ms generalizing w with
  | nil => exact h
  | cons m ms ih => exact ih (h.step m)

/-- A move, read as one of four: a work begins, a waiting work goes on, an
answer finds nobody waiting, time passes. -/
inductive Advance (b : Bridge) (w : World) : Move → World → List Entry → Prop where
  | start (e : Event) :
      Advance b w (.start e) ⟨(b.start e w.state).1, w.works ++ [(b.start e w.state).2]⟩
        (.began w.works.length e :: (b.start e w.state).2.entries w.works.length)
  | answer {f : Nat} {t : Task} (hf : w.works[f]? = some (.waiting t))
      (outcome : Outcome) :
      Advance b w (.answer f outcome)
        ⟨(b.resume t outcome w.state).1, w.works.set f (b.resume t outcome w.state).2⟩
        (.answered f t.call outcome :: (b.resume t outcome w.state).2.entries f)
  | idle {f : Nat} (hf : ∀ t, w.works[f]? ≠ some (.waiting t)) (outcome : Outcome) :
      Advance b w (.answer f outcome) w []
  | tick (now : Int) :
      Advance b w (.tick now) { w with state := { w.state with clock := now } } []

theorem advance_cases (b : Bridge) (w : World) (m : Move) :
    Advance b w m (w.step b m) (w.news b m) := by
  cases m with
  | start e => exact .start e
  | tick now => exact .tick now
  | answer f outcome =>
      rw [step, news, advance]
      split
      · next t hf => exact .answer hf outcome
      · next hno => exact .idle (fun t hf => hno t hf) outcome

end World

/-! ## The sessions through a step -/

/-- A change of state that leaves the sessions and their gauge alone. -/
structure SameSessions (s s' : State) : Prop where
  sessions : s'.sessions = s.sessions
  gauge : s'.metrics.activeSessions = s.metrics.activeSessions

section
variable {s s' s'' : State} {b : Bridge}

theorem SameSessions.refl (s : State) : SameSessions s s := ⟨rfl, rfl⟩

theorem SameSessions.trans (h : SameSessions s s') (h' : SameSessions s' s'') :
    SameSessions s s'' :=
  ⟨h'.sessions.trans h.sessions, h'.gauge.trans h.gauge⟩

/-- What the functions below `start` and `resume` have in common. -/
structure Orderly (s : State) (sp : State × Progress) : Prop where
  same : SameSessions s sp.1
  hands : ∀ {t}, sp.2 = .waiting t →
    ∃ n text, t.call = .send n text ∧ sp.1.sessions.isOpen n

theorem Orderly.finished (h : SameSessions s s') (r : Result) :
    Orderly s (s', .finished r) :=
  ⟨h, fun ht => nomatch ht⟩

/-- Counters, notes, files and the configuration may change on the way. -/
theorem Orderly.before {sp : State × Progress} (hsp : Orderly s' sp)
    (h : SameSessions s s') : Orderly s sp :=
  ⟨h.trans hsp.same, hsp.hands⟩

theorem sendTo_orderly (bound : Log.Keys) (id text : String) (sequel : Sequel)
    (otherwise : Result) (s : State) :
    Orderly s (sendTo bound id text sequel otherwise s) := by
  rw [sendTo]
  split
  · next n hn =>
      refine ⟨.refl s, ?_⟩
      intro t ht
      cases ht
      exact ⟨n, text, rfl, SessionTable.isOpen_of_openNumber? hn⟩
  · exact .finished (.refl s) _

theorem report_orderly (bound : Log.Keys) (id : String) (f : Wire.Failure)
    (s : State) : Orderly s (report bound id f s) := by
  rw [report]
  refine .before (sendTo_orderly ..) ?_
  exact ⟨rfl, rfl⟩

theorem giveUp_orderly (bound : Log.Keys) (id : String) (f : Wire.Failure)
    (s : State) : Orderly s (giveUp bound id f s) := by
  rw [giveUp]
  refine .before (report_orderly ..) ?_
  exact ⟨rfl, rfl⟩

theorem writeSources_orderly (b : Bridge) (bound : Log.Keys) (sender : String)
    (d : Ui.Document) (s : State) :
    Orderly s (writeSources b bound sender d s) := by
  unfold writeSources
  split
  · exact .finished (.refl s) _
  · next g _ =>
    generalize Source.Generator.run (g.generate d) s.files = r
    obtain ⟨outcome, notices, files⟩ := r
    dsimp only
    split
    · refine .finished ?_ _
      exact ⟨rfl, rfl⟩
    · refine .before (giveUp_orderly ..) ?_
      exact ⟨rfl, rfl⟩
    · refine .before (report_orderly ..) ?_
      exact ⟨rfl, rfl⟩

theorem concludeFanOut_orderly (b : Bridge) (bound : Log.Keys)
    (delivered : Nat) (occasion : Occasion) (s : State) :
    Orderly s (concludeFanOut b bound delivered occasion s) := by
  cases occasion with
  | message => exact .finished (.refl s) _
  | config title =>
      rw [concludeFanOut]
      refine .finished ?_ _
      exact ⟨rfl, rfl⟩
  | screen sender d unmapped =>
      rw [concludeFanOut]
      refine .before (writeSources_orderly ..) ?_
      exact ⟨rfl, rfl⟩

theorem fanOut_orderly (b : Bridge) (bound : Log.Keys) (text : String)
    (delivered : Nat) (occasion : Occasion) (remaining : List Nat) (s : State) :
    Orderly s (fanOut b bound text delivered occasion remaining s) := by
  induction remaining with
  | nil => exact concludeFanOut_orderly ..
  | cons n rest ih =>
      rw [fanOut]
      split
      · next ho =>
          refine ⟨.refl s, ?_⟩
          intro t ht
          cases ht
          exact ⟨n, text, rfl, ho⟩
      · exact ih

theorem startFanOut_orderly (b : Bridge) (bound : Log.Keys) (text : String)
    (occasion : Occasion) (s : State) :
    Orderly s (startFanOut b bound text occasion s) :=
  fanOut_orderly ..

theorem proceed_orderly (b : Bridge) (bound : Log.Keys) (delivered : Bool)
    (sequel : Sequel) (s : State) :
    Orderly s (proceed b bound delivered sequel s) := by
  cases sequel with
  | tell | greet | rest => exact .finished (.refl s) _
  | fanOut => exact fanOut_orderly ..

theorem shareScreen_orderly (b : Bridge) (bound : Log.Keys) (id : String)
    (d : Ui.Document) (t : Translation) (s : State) :
    Orderly s (shareScreen b bound id d t s) := by
  unfold shareScreen
  dsimp only
  split
  · exact giveUp_orderly ..
  · refine .before (startFanOut_orderly ..) ?_
    exact ⟨rfl, rfl⟩

theorem handleConfig_orderly (b : Bridge) (bound : Log.Keys) (id : String)
    (e : Wire.Envelope) (s : State) :
    Orderly s (handleConfig b bound id e s) := by
  unfold handleConfig
  split
  · exact giveUp_orderly ..
  · refine .before (startFanOut_orderly ..) ?_
    exact ⟨rfl, rfl⟩

theorem handleScreen_orderly (b : Bridge) (bound : Log.Keys) (id : String)
    (e : Wire.Envelope) (s : State) :
    Orderly s (handleScreen b bound id e s) := by
  unfold handleScreen
  split
  · exact giveUp_orderly ..
  · dsimp only
    split
    · refine .before (giveUp_orderly ..) ?_
      exact ⟨rfl, rfl⟩
    · refine .before (shareScreen_orderly ..) ?_
      exact ⟨rfl, rfl⟩

theorem handle_orderly (b : Bridge) (id : String) (e : Wire.Envelope)
    (s : State) : Orderly s (handle b id e s) := by
  unfold handle
  dsimp only
  split
  · refine .before (sendTo_orderly ..) ?_
    exact ⟨rfl, rfl⟩
  · refine .before (handleConfig_orderly ..) ?_
    exact ⟨rfl, rfl⟩
  · refine .before (handleScreen_orderly ..) ?_
    exact ⟨rfl, rfl⟩
  · refine .finished ?_ _
    exact ⟨rfl, rfl⟩

theorem dispatch_orderly (b : Bridge) (id : String) (frame : List UInt8)
    (s : State) : Orderly s (dispatch b id frame s) := by
  unfold dispatch
  split
  · refine .finished ?_ _
    exact ⟨rfl, rfl⟩
  · split
    · refine .before (report_orderly ..) ?_
      exact ⟨rfl, rfl⟩
    · exact .finished (.refl s) _
    · exact handle_orderly ..

section
variable [IdSupply]

/-- What a step can do to the sessions. `closes` says which names the step at
hand may close. -/
inductive SessionStep (closes : String → Prop) (s s' : State) : Prop where
  | same (h : SameSessions s s')
  | opened (connection : Nat) (now : String)
      (hs : s'.sessions = s.sessions.add connection now)
      (hg : s'.metrics.activeSessions = s'.sessions.size)
  | closed (id : String) (hid : closes id)
      (hs : s'.sessions = s.sessions.remove id)
      (hg : s'.metrics.activeSessions = s'.sessions.size)

theorem SessionStep.after {closes : String → Prop} (s' : State)
    (h : SameSessions s s') (h' : SessionStep closes s' s'') :
    SessionStep closes s s'' := by
  cases h' with
  | same hsame => exact .same (h.trans hsame)
  | opened connection now hs hg =>
      exact .opened connection now (by rw [hs, h.sessions]) hg
  | closed id hid hs hg =>
      exact .closed id hid (by rw [hs, h.sessions]) hg

theorem SessionStep.then {closes : String → Prop} (h : SessionStep closes s s')
    (h' : SameSessions s' s'') : SessionStep closes s s'' := by
  cases h with
  | same hsame => exact .same (hsame.trans h')
  | opened connection now hs hg =>
      exact .opened connection now (h'.sessions.trans hs)
        (by rw [h'.gauge, h'.sessions, hg])
  | closed id hid hs hg =>
      exact .closed id hid (h'.sessions.trans hs)
        (by rw [h'.gauge, h'.sessions, hg])

theorem openSession_sessions (bound : Log.Keys) (connection : Nat) (s : State)
    (closes : String → Prop) :
    SessionStep closes s (s.openSession bound connection) :=
  .opened connection s.now rfl rfl

theorem closeSession_sessions (bound : Log.Keys) (s : State)
    {closes : String → Prop} {id : String} (hid : closes id) :
    SessionStep closes s (s.closeSession bound id) := by
  rw [State.closeSession]
  split
  · exact .same (.refl s)
  · exact .closed id hid rfl rfl

/-- An event closes at most the session it names. -/
theorem start_sessions (b : Bridge) (e : Event) (s : State) :
    SessionStep (fun id => e = .disconnect id) s (b.start e s).1 := by
  cases e with
  | openSession connection => exact openSession_sessions ..
  | connect connection =>
      exact (openSession_sessions ..).then (sendTo_orderly ..).same
  | disconnect id =>
      refine closeSession_sessions [] s ?_
      rfl
  | sendTo id message => exact .same (sendTo_orderly ..).same
  | broadcast message => exact .same (startFanOut_orderly ..).same
  | frame id bytes => exact .same (dispatch_orderly ..).same

/-- The first call that an event leads to is a text for an open session. -/
theorem start_hands {e : Event} {t : Task}
    (ht : (b.start e s).2 = .waiting t) :
    ∃ n text, t.call = .send n text ∧ (b.start e s).1.sessions.isOpen n := by
  cases e with
  | openSession connection => cases ht
  | disconnect id => cases ht
  | connect connection => exact (sendTo_orderly ..).hands ht
  | sendTo id message => exact (sendTo_orderly ..).hands ht
  | broadcast message => exact (startFanOut_orderly ..).hands ht
  | frame id bytes => exact (dispatch_orderly ..).hands ht

/-- The names that an answer can close: the one of the session that its text
could not be sent to. -/
def Task.Fails (t : Task) (outcome : Outcome) (s : State) (id : String) : Prop :=
  ∃ n text reason, t.call = .send n text ∧ outcome = .raised reason ∧
    id = s.nameOf n

theorem resume_sessions (b : Bridge) (t : Task) (outcome : Outcome)
    (s : State) :
    SessionStep (t.Fails outcome s) s (b.resume t outcome s).1 := by
  obtain ⟨bound, call, sequel⟩ := t
  cases call with
  | send n text =>
      cases outcome with
      | done => exact .same (proceed_orderly ..).same
      | raised reason =>
          -- The failure is noted first, which changes no session.
          refine .after (s.note bound (.sendFailed (s.nameOf n) reason)) ?_ ?_
          · exact ⟨rfl, rfl⟩
          · exact closeSession_sessions bound _ ⟨n, text, reason, rfl, rfl, rfl⟩
  | close n =>
      cases outcome with
      | done => exact .same (proceed_orderly ..).same
      | raised reason =>
          refine .same (.trans ?_ (proceed_orderly ..).same)
          exact ⟨rfl, rfl⟩

end

/-- After an answer a work hands a text to an open session, or closes the
connection that its last text could not be sent over. -/
theorem resume_hands {t t' : Task} {outcome : Outcome}
    (ht : (b.resume t outcome s).2 = .waiting t') :
    (∃ n text, t'.call = .send n text ∧
      (b.resume t outcome s).1.sessions.isOpen n) ∨
    (∃ n text reason, t.call = .send n text ∧ outcome = .raised reason ∧
      t'.call = .close n) := by
  obtain ⟨bound, call, sequel⟩ := t
  cases call with
  | send n text =>
      cases outcome with
      | done => exact .inl ((proceed_orderly ..).hands ht)
      | raised reason =>
          cases ht
          exact .inr ⟨n, text, reason, rfl, rfl, rfl⟩
  | close n =>
      cases outcome with
      | done => exact .inl ((proceed_orderly ..).hands ht)
      | raised reason => exact .inl ((proceed_orderly ..).hands ht)

end

end ScreenBridge.Bridge
