import ScreenBridge.Proofs.Bookkeeping
import ScreenBridge.Server.Page

/-!
# Endpoints at work

Each viewer has an endpoint: a loop that waits for what comes in over the
viewer's connection and has one frame handled after the other, until it comes
to one of its ends. It gives up control where it waits for the next thing to
come in and where a greeting or a frame waits for the outcome of a call. This
file takes the endpoints of a server apart at those places, so that any number
of them can be at work at a time.

A `Service` is a server with one `Desk` for each connection: what has come in
and is not taken yet, and the stage that the endpoint is at. A `Happening` is
what can be next: a viewer comes, something comes in, an endpoint takes the
next thing, a call of an endpoint has an outcome, time passes. All that is left
to the outside, and a happening that nobody waits for changes nothing. What an
endpoint does after a frame is `conclude`, and nothing else of the server's
code is written a second time: a service opens, handles, resumes and closes
with the functions of the bridge and the server. Whatever comes of a frame is a
`Result`, an exception too, and `conclude` has an answer to every one of them,
so that no endpoint ends in another way than by `finish`.

The last section puts the pieces together again. An endpoint that is left
alone with what came in does what `connect`, `receive` and `leave` of the
server do in one go, if its calls go as they do there.
-/

namespace ScreenBridge.Server

open Bridge (Call Outcome Progress Result State Task)

/-- What comes in over a connection: a frame with a text, with bytes or with
neither, or that the viewer has gone, with a code or without one. -/
inductive Incoming where
  | frame (text : Option String) (bytes : Option (List UInt8))
  | disconnect (code : Option Int)
  deriving DecidableEq, Repr

/-- A frame as it is handled: its text, or else its bytes, or else nothing. -/
def rawFrame (text : Option String) (bytes : Option (List UInt8)) : List UInt8 :=
  match text with
  | some text => Text.Utf8.encode text
  | none => bytes.getD []

/-- The frame that comes in, if it is one. -/
def Incoming.frame? : Incoming → Option (List UInt8)
  | .frame text bytes => some (rawFrame text bytes)
  | .disconnect _ => none

/-- Where an endpoint is: it greets its viewer, waits for the next thing to
come in, has a frame handled, or has ended. -/
inductive Stage where
  | greeting (task : Task)
  | receiving
  | handling (task : Task)
  | ended
  deriving Repr

/-- An endpoint with its session and what has come in for it. -/
structure Desk where
  session : String
  inbox : List Incoming := []
  stage : Stage
  deriving Repr

def Desk.atWork (d : Desk) : Bool :=
  match d.stage with
  | .ended => false
  | _ => true

/-- What the endpoint waits for, if it waits for the outcome of a call. -/
def Desk.task? (d : Desk) : Option Task :=
  match d.stage with
  | .greeting t | .handling t => some t
  | .receiving | .ended => none

/-- A server with its endpoints at work. -/
structure Service where
  server : Server
  desks : List Desk := []

/-- What happens next. A viewer joins once its connection is accepted. -/
inductive Happening where
  | join
  | arrive (connection : Nat) (event : Incoming)
  | take (connection : Nat)
  | answer (connection : Nat) (outcome : Outcome)
  | tick (now : Int)
  deriving DecidableEq, Repr

/-- What happenings leave behind, each with its connection: something came in
or was taken by the endpoint, a frame was passed on to be handled, a call was
made and had an outcome, the handling came to a result, the session being
there then or not, and the endpoint ended. -/
inductive Line where
  | arrived (connection : Nat) (event : Incoming)
  | took (connection : Nat) (event : Incoming)
  | passed (connection : Nat) (frame : List UInt8)
  | called (connection : Nat) (call : Call)
  | answered (connection : Nat) (call : Call) (outcome : Outcome)
  | came (connection : Nat) (result : Result) (present : Bool)
  | ended (connection : Nat)
  deriving DecidableEq, Repr

/-! ## What an endpoint does -/

/-- The network after a call: what went is on it. -/
def Network.carry (call : Call) (outcome : Outcome) (s : State) (n : Network) : Network :=
  match outcome, call with
  | .done, .send number text => n.send (s.connectionOf number) (.text text)
  | .done, .close number => n.send (s.connectionOf number) (.close normalClose)
  | .raised _, _ => n

/-- Whether a session is in the table. -/
def holds (v : Server) (session : String) : Bool :=
  (v.state.sessions.find? session).isSome

/-- Whether an endpoint ends after a frame: its handling broke off, or the
session is not there any more. -/
def endsAfter : Result → Bool → Bool
  | .brokeOff _, _ => true
  | _, present => !present

/-- What is noted when an endpoint ends after a frame. -/
def exitNotice (session : String) : Result → Log.Notice
  | .brokeOff cause => .websocketError session cause.message
  | _ => .sessionDropped session

/-- The rest of what an endpoint does with a frame that has been handled. -/
def conclude (connection : Nat) (session : String) (r : Result) (v : Server) : Server :=
  if endsAfter r (v.holds session) then
    (v.note (exitNotice session r)).finish connection session
  else v

/-- The stage of an endpoint after a step of its greeting. -/
def Stage.ofGreeting : Progress → Stage
  | .waiting t => .greeting t
  | .finished _ => .receiving

/-- The call that a step ends with. -/
def callLines (connection : Nat) : Progress → List Line
  | .waiting t => [.called connection t.call]
  | .finished _ => []

namespace Service

/-- A server without any endpoints. -/
def empty (v : Server) : Service := ⟨v, []⟩

/-- An endpoint after a step of the work on a frame. -/
def serve (w : Service) (connection : Nat) (d : Desk) (sp : State × Progress) :
    Service × List Line :=
  let v := { w.server with state := sp.1 }
  match sp.2 with
  | .waiting t =>
    (⟨v, w.desks.set connection { d with stage := .handling t }⟩, [.called connection t.call])
  | .finished r =>
    let present := v.holds d.session
    if endsAfter r present then
      (⟨v.conclude connection d.session r, w.desks.set connection { d with stage := .ended }⟩,
        [.came connection r present, .ended connection])
    else
      (⟨v.conclude connection d.session r,
        w.desks.set connection { d with stage := .receiving }⟩,
        [.came connection r present])

section
variable [IdSupply]

/-- A viewer has come: its session is opened and greeted. -/
def welcome (w : Service) : Service × List Line :=
  let connection := w.desks.length
  let session := sessionName w.server.state.sessions.next
  let sp := w.server.bridge.start (.connect connection) w.server.state
  let network := (w.server.network.join (some session) false).send connection .accept
  (⟨{ w.server with state := sp.1, network },
      w.desks ++ [{ session, stage := .ofGreeting sp.2 }]⟩,
    callLines connection sp.2)

/-- An endpoint takes what has come in; `d` is its desk without that. -/
def takes (w : Service) (connection : Nat) (d : Desk) : Incoming → Service × List Line
  | .disconnect code =>
    (⟨(w.server.note (.websocketDisconnected d.session)).finish connection d.session,
        w.desks.set connection { d with stage := .ended }⟩,
      [.took connection (.disconnect code), .ended connection])
  | .frame text bytes =>
    let frame := rawFrame text bytes
    let (w, es) := w.serve connection d
      (w.server.bridge.start (.frame d.session frame) w.server.state)
    (w, .took connection (.frame text bytes) :: .passed connection frame :: es)

/-- The network after a call of an endpoint. -/
def carried (w : Service) (t : Task) (outcome : Outcome) : Service :=
  { w with server :=
    { w.server with
      network := w.server.network.carry t.call outcome w.server.state } }

def advance (w : Service) : Happening → Service × List Line
  | .join => w.welcome
  | .arrive c event =>
    match w.desks[c]? with
    | some d =>
      ({ w with desks := w.desks.set c { d with inbox := d.inbox ++ [event] } },
        [.arrived c event])
    | none => (w, [])
  | .take c =>
    match w.desks[c]? with
    | some ⟨session, event :: inbox, .receiving⟩ => w.takes c ⟨session, inbox, .receiving⟩ event
    | _ => (w, [])
  | .answer c outcome =>
    match w.desks[c]? with
    | some ⟨session, inbox, .greeting t⟩ =>
      let sp := w.server.bridge.resume t outcome w.server.state
      let w := w.carried t outcome
      (⟨{ w.server with state := sp.1 },
          w.desks.set c ⟨session, inbox, .ofGreeting sp.2⟩⟩,
        .answered c t.call outcome :: callLines c sp.2)
    | some ⟨session, inbox, .handling t⟩ =>
      let sp := w.server.bridge.resume t outcome w.server.state
      let (w, es) := (w.carried t outcome).serve c ⟨session, inbox, .handling t⟩ sp
      (w, .answered c t.call outcome :: es)
    | _ => (w, [])
  | .tick now =>
    ({ w with server := { w.server with state := { w.server.state with clock := now } } }, [])

def step (w : Service) (m : Happening) : Service := (w.advance m).1

/-- What a happening leaves behind. -/
def news (w : Service) (m : Happening) : List Line := (w.advance m).2

def run (w : Service) (ms : List Happening) : Service := ms.foldl step w

def trace (w : Service) : List Happening → List Line
  | [] => []
  | m :: ms => w.news m ++ (w.step m).trace ms

@[simp] theorem run_cons (w : Service) (m : Happening) (ms : List Happening) :
    w.run (m :: ms) = (w.step m).run ms := rfl

theorem run_append (w : Service) (ms ms' : List Happening) :
    w.run (ms ++ ms') = (w.run ms).run ms' :=
  List.foldl_append

theorem trace_append (w : Service) (ms ms' : List Happening) :
    w.trace (ms ++ ms') = w.trace ms ++ (w.run ms).trace ms' := by
  induction ms generalizing w with
  | nil => rfl
  | cons m ms ih => rw [List.cons_append, trace, trace, ih, List.append_assoc, run_cons]

end

/-! ## One happening -/

/-- A step of the work on a frame, read as one of three: it waits for a call,
the endpoint goes on to the next thing, or it ends. -/
inductive Served (w : Service) (c : Nat) (d : Desk) (s : State) :
    Progress → Service → List Line → Prop where
  | waits (t : Task) :
      Served w c d s (.waiting t)
        ⟨{ w.server with state := s }, w.desks.set c { d with stage := .handling t }⟩
        [.called c t.call]
  | goesOn {r : Result} {present : Bool}
      (hpresent : (s.sessions.find? d.session).isSome = present)
      (hends : endsAfter r present = false) :
      Served w c d s (.finished r)
        ⟨{ w.server with state := s }, w.desks.set c { d with stage := .receiving }⟩
        [.came c r present]
  | ends {r : Result} {present : Bool}
      (hpresent : (s.sessions.find? d.session).isSome = present)
      (hends : endsAfter r present = true) :
      Served w c d s (.finished r)
        ⟨(note (exitNotice d.session r) { w.server with state := s }).finish c d.session,
          w.desks.set c { d with stage := .ended }⟩
        [.came c r present, .ended c]

theorem serve_cases (w : Service) (c : Nat) (d : Desk) (sp : State × Progress) :
    Served w c d sp.1 sp.2 (w.serve c d sp).1 (w.serve c d sp).2 := by
  obtain ⟨s, p⟩ := sp
  cases p with
  | waiting t => exact .waits t
  | finished r =>
      cases hends : endsAfter r (s.sessions.find? d.session).isSome with
      | true =>
          have hif : endsAfter r (holds { w.server with state := s } d.session) = true := hends
          simp only [serve, conclude, hif, if_true]
          exact .ends rfl hends
      | false =>
          have hif : endsAfter r (holds { w.server with state := s } d.session) = false := hends
          simp only [serve, conclude, hif, Bool.false_eq_true, if_false]
          exact .goesOn rfl hends

/-- A happening, read as one of eight. -/
inductive Advance [IdSupply] (w : Service) : Happening → Service → List Line → Prop where
  | join : Advance w .join w.welcome.1 w.welcome.2
  | arrive {c : Nat} {d : Desk} (hc : w.desks[c]? = some d) (event : Incoming) :
      Advance w (.arrive c event)
        { w with desks := w.desks.set c { d with inbox := d.inbox ++ [event] } }
        [.arrived c event]
  | leaves {c : Nat} {session : String} {inbox : List Incoming} {code : Option Int}
      (hc : w.desks[c]? = some ⟨session, .disconnect code :: inbox, .receiving⟩) :
      Advance w (.take c)
        ⟨(w.server.note (.websocketDisconnected session)).finish c session,
          w.desks.set c ⟨session, inbox, .ended⟩⟩
        [.took c (.disconnect code), .ended c]
  | takes {c : Nat} {session : String} {inbox : List Incoming} {text : Option String}
      {bytes : Option (List UInt8)} {w' : Service} {es : List Line}
      (hc : w.desks[c]? = some ⟨session, .frame text bytes :: inbox, .receiving⟩)
      (hserved : Served w c ⟨session, inbox, .receiving⟩
        (w.server.bridge.start (.frame session (rawFrame text bytes)) w.server.state).1
        (w.server.bridge.start (.frame session (rawFrame text bytes)) w.server.state).2
        w' es) :
      Advance w (.take c) w'
        (.took c (.frame text bytes) :: .passed c (rawFrame text bytes) :: es)
  | greeted {c : Nat} {session : String} {inbox : List Incoming} {t : Task}
      (hc : w.desks[c]? = some ⟨session, inbox, .greeting t⟩) (outcome : Outcome) :
      Advance w (.answer c outcome)
        ⟨{ (w.carried t outcome).server with
            state := (w.server.bridge.resume t outcome w.server.state).1 },
          w.desks.set c ⟨session, inbox,
            .ofGreeting (w.server.bridge.resume t outcome w.server.state).2⟩⟩
        (.answered c t.call outcome ::
          callLines c (w.server.bridge.resume t outcome w.server.state).2)
  | handled {c : Nat} {session : String} {inbox : List Incoming} {t : Task} {w' : Service}
      {es : List Line} (hc : w.desks[c]? = some ⟨session, inbox, .handling t⟩)
      (outcome : Outcome)
      (hserved : Served (w.carried t outcome) c ⟨session, inbox, .handling t⟩
        (w.server.bridge.resume t outcome w.server.state).1
        (w.server.bridge.resume t outcome w.server.state).2 w' es) :
      Advance w (.answer c outcome) w' (.answered c t.call outcome :: es)
  | idle (m : Happening) : Advance w m w []
  | tick (now : Int) :
      Advance w (.tick now)
        { w with server := { w.server with state := { w.server.state with clock := now } } } []

theorem advance_cases [IdSupply] (w : Service) (m : Happening) :
    Advance w m (w.step m) (w.news m) := by
  cases m with
  | join => exact .join
  | tick now => exact .tick now
  | arrive c event =>
      rw [step, news, advance]
      split
      · next d hc => exact .arrive hc event
      · exact .idle _
  | take c =>
      rw [step, news, advance]
      split
      · next session event inbox hc =>
          cases event with
          | disconnect code => exact .leaves hc
          | frame text bytes => exact .takes hc (serve_cases ..)
      · exact .idle _
  | answer c outcome =>
      rw [step, news, advance]
      split
      · next session inbox t hc => exact .greeted hc outcome
      · next session inbox t hc => exact .handled hc outcome (serve_cases ..)
      · exact .idle _

end Service

/-! ## An endpoint alone -/

theorem receive_eq [IdSupply] {v : Server} {c : Nat} {session : String}
    (h : v.sessionAt? c = some session) (frame : List UInt8) :
    v.receive c frame = conclude c session (v.run (.frame session frame)).1
      (v.run (.frame session frame)).2 := by
  rw [receive, h]
  dsimp only
  generalize v.run (.frame session frame) = x
  obtain ⟨r, v'⟩ := x
  cases r with
  | brokeOff cause => rfl
  | opened | sent | fannedOut | handled =>
      cases hpresent : (v'.state.sessions.find? session).isSome <;>
        simp [conclude, endsAfter, holds, exitNotice, hpresent]

/-- The network makes a call as `carry` says. -/
theorem answer_eq (t : Task) (n : Network) (s : State) :
    answer t (n, s) = ((answer t (n, s)).1, n.carry t.call (answer t (n, s)).1 s, s) := by
  obtain ⟨bound, call, sequel⟩ := t
  cases call <;> simp only [answer, transmit] <;> split <;> rfl

theorem settle_waiting (b : Bridge) (t : Task) (n : Network) (s : State) :
    b.settle answer (.waiting t) (n, s) =
      b.settle answer (b.resume t (answer t (n, s)).1 s).2
        (n.carry t.call (answer t (n, s)).1 s, (b.resume t (answer t (n, s)).1 s).1) := by
  rw [Bridge.settle, answer_eq]

theorem settle_finished (b : Bridge) (r : Result) (n : Network) (s : State) :
    b.settle answer (.finished r) (n, s) = (r, n, s) := by
  rw [Bridge.settle]

namespace Service

variable {w : Service} {c : Nat}

/-- What is left of a step of the work on a frame does not depend on the state
and the stage before it. -/
theorem serve_finished_congr {w' : Service} {d d' : Desk} {sp : State × Progress}
    {r : Result} (hsp : sp.2 = .finished r)
    (hserver : { w'.server with state := sp.1 } = { w.server with state := sp.1 })
    (hdesks : ∀ x, w'.desks.set c x = w.desks.set c x) (hsession : d'.session = d.session)
    (hinbox : d'.inbox = d.inbox) : w'.serve c d' sp = w.serve c d sp := by
  simp only [serve, hsp, hserver, hdesks, hsession, hinbox]

variable [IdSupply]

/-- An endpoint that is left alone with a frame handles it to the end. -/
theorem serve_settles (d : Desk) (p : Progress) (hc : c < w.desks.length) (s : State) :
    ∃ outcomes : List Outcome, (w.serve c d (s, p)).1.run (outcomes.map (.answer c)) =
      (serve { w with server :=
          { w.server with
            network := (w.server.bridge.settle answer p (w.server.network, s)).2.1 } } c d
        ((w.server.bridge.settle answer p (w.server.network, s)).2.2,
          .finished (w.server.bridge.settle answer p (w.server.network, s)).1)).1 := by
  -- The induction is on the number of calls that the work can still make.
  induction hk : p.weight using Nat.strongRecOn generalizing w d p s with
  | ind k ih =>
    cases p with
    | finished r =>
        rw [settle_finished]
        exact ⟨[], rfl⟩
    | waiting t =>
        rw [settle_waiting]
        generalize (answer t (w.server.network, s)).1 = outcome
        let w₁ : Service := (w.serve c d (s, .waiting t)).1
        have hdesk : w₁.desks[c]? = some ⟨d.session, d.inbox, .handling t⟩ :=
          List.getElem?_set_self hc
        have hlt : c < (w₁.carried t outcome).desks.length := by
          show c < (w.desks.set c _).length
          rw [List.length_set]
          exact hc
        have hweight := Bridge.resume_weight_lt w.server.bridge t outcome s
        obtain ⟨outcomes, hrun⟩ := ih _ (hk ▸ hweight) (w := w₁.carried t outcome)
          ⟨d.session, d.inbox, .handling t⟩ (w.server.bridge.resume t outcome s).2 hlt
          (w.server.bridge.resume t outcome s).1 rfl
        refine ⟨outcome :: outcomes, ?_⟩
        have hstep : w₁.step (.answer c outcome) =
            ((w₁.carried t outcome).serve c ⟨d.session, d.inbox, .handling t⟩
              (w.server.bridge.resume t outcome s)).1 := by
          rw [step, advance, hdesk]
          rfl
        rw [List.map_cons, run_cons, hstep, hrun]
        refine congrArg Prod.fst (serve_finished_congr rfl rfl (fun x => ?_) rfl rfl)
        exact List.set_set ..

/-- Left alone with a frame an endpoint does what `receive` does. -/
theorem receive_alone {session : String} {inbox : List Incoming} {text : Option String}
    {bytes : Option (List UInt8)}
    (hc : w.desks[c]? = some ⟨session, .frame text bytes :: inbox, .receiving⟩)
    (hsession : w.server.sessionAt? c = some session) :
    ∃ outcomes : List Outcome, (w.run (.take c :: outcomes.map (.answer c))).server =
      w.server.receive c (rawFrame text bytes) := by
  have hlt := (List.getElem?_eq_some_iff.mp hc).1
  obtain ⟨outcomes, hrun⟩ := serve_settles ⟨session, inbox, .receiving⟩
    (w.server.bridge.start (.frame session (rawFrame text bytes)) w.server.state).2 hlt
    (w.server.bridge.start (.frame session (rawFrame text bytes)) w.server.state).1
  refine ⟨outcomes, ?_⟩
  have hstep : w.step (.take c) = (w.serve c ⟨session, inbox, .receiving⟩
      (w.server.bridge.start (.frame session (rawFrame text bytes)) w.server.state)).1 := by
    rw [step, advance, hc]
    rfl
  rw [run_cons, hstep, hrun, receive_eq hsession, serve]
  dsimp only
  split <;> rfl

theorem leave_alone {session : String} {inbox : List Incoming} {code : Option Int}
    (hc : w.desks[c]? = some ⟨session, .disconnect code :: inbox, .receiving⟩)
    (hsession : w.server.sessionAt? c = some session) :
    (w.step (.take c)).server = w.server.leave c := by
  rw [step, advance, hc, leave, hsession]
  rfl

/-- A greeting that is left alone comes to its end. -/
theorem greet_settles {session : String} {inbox : List Incoming} (p : Progress)
    (hc : w.desks[c]? = some ⟨session, inbox, .ofGreeting p⟩) :
    ∃ outcomes : List Outcome, (w.run (outcomes.map (.answer c))).server =
      { w.server with
        state := (w.server.bridge.settle answer p (w.server.network, w.server.state)).2.2
        network := (w.server.bridge.settle answer p (w.server.network, w.server.state)).2.1 } := by
  induction hk : p.weight using Nat.strongRecOn generalizing w p with
  | ind k ih =>
    cases p with
    | finished r =>
        rw [settle_finished]
        exact ⟨[], rfl⟩
    | waiting t =>
        rw [settle_waiting]
        generalize (answer t (w.server.network, w.server.state)).1 = outcome
        have hc' : w.desks[c]? = some ⟨session, inbox, .greeting t⟩ := hc
        have hlt := (List.getElem?_eq_some_iff.mp hc').1
        have hstep : w.step (.answer c outcome) =
            ⟨{ (w.carried t outcome).server with
                state := (w.server.bridge.resume t outcome w.server.state).1 },
              w.desks.set c ⟨session, inbox,
                .ofGreeting (w.server.bridge.resume t outcome w.server.state).2⟩⟩ := by
          rw [step, advance, hc']
          rfl
        have hdesk : (w.step (.answer c outcome)).desks[c]? = some ⟨session, inbox,
            .ofGreeting (w.server.bridge.resume t outcome w.server.state).2⟩ := by
          rw [hstep]
          exact List.getElem?_set_self hlt
        have hweight := Bridge.resume_weight_lt w.server.bridge t outcome w.server.state
        obtain ⟨outcomes, hrun⟩ := ih _ (hk ▸ hweight) _ hdesk rfl
        refine ⟨outcome :: outcomes, ?_⟩
        rw [List.map_cons, run_cons, hrun, hstep]
        rfl

/-- A viewer that comes and is left alone is greeted as `connect` does it. -/
theorem connect_alone {path : String} (hpath : viewerPaths.contains path)
    (hlen : w.server.network.endpoints.length = w.desks.length) :
    ∃ outcomes : List Outcome, (w.run (.join :: outcomes.map (.answer w.desks.length))).server =
      w.server.connect path := by
  have hdesk : (w.step .join).desks[w.desks.length]? = some ⟨
      sessionName w.server.state.sessions.next, [], .ofGreeting
        (w.server.bridge.start (.connect w.desks.length) w.server.state).2⟩ :=
    List.getElem?_concat_length
  obtain ⟨outcomes, hrun⟩ := greet_settles _ hdesk
  refine ⟨outcomes, ?_⟩
  rw [run_cons, hrun, connect, if_pos hpath, hlen]
  rfl

end Service

end ScreenBridge.Server
