import ScreenBridge.CountedIds
import ScreenBridge.Proofs.Conduct
import ScreenBridge.Proofs.EndpointLife

/-!
# Who attends to whom

However the endpoints of a server are interleaved, and whatever comes in and
goes wrong: an endpoint has each frame handled once and in order, it ends at
one of its three ends and nowhere else, nobody else notices that it does, and
the page that tells how many sessions there are counts the viewers that are
attended to.

There are two sides to that. What one endpoint does, line by line, is a matter
of its own desk: `Lived` is the course of its life, and a happening at a desk
adds a piece to the life of that endpoint and to no other. What happens to the
sessions is a matter of all endpoints together, and `Change` says it once: a
viewer comes, or nothing happens, or a text fails and its session is closed —
whoever sent it —, or an endpoint ends and its own session is closed. `Accounts`
keeps from that which sessions are open: those of the endpoints at work to
whom nothing has failed to be sent.
-/

namespace ScreenBridge.Server

open Bridge (Call Outcome Progress Result SameSessions State Task)

/-! ## Steps of a bridge -/

section
variable {b : Bridge} {s : State} {t t' : Task} {outcome : Outcome}

theorem sessions_closeSession (bound : Log.Keys) (id : String) (s : State) :
    (s.closeSession bound id).sessions = s.sessions.remove id := by
  rw [State.closeSession]
  split
  · next hf => rw [SessionTable.remove, hf]
  · rfl

/-- No frame changes a session before its first call. -/
theorem sessions_startFrame [IdSupply] (b : Bridge) (id : String) (frame : List UInt8) (s : State) :
    (b.start (.frame id frame) s).1.sessions = s.sessions :=
  (Bridge.dispatch_orderly b id frame s).same.sessions

/-- An answer closes the session that its text failed to be sent to, or
changes no session. -/
theorem resume_closes (b : Bridge) (t : Task) (outcome : Outcome) (s : State) :
    (∃ n text reason, t.call = .send n text ∧ outcome = .raised reason ∧
      (b.resume t outcome s).1.sessions = s.sessions.remove (s.nameOf n) ∧
      (b.resume t outcome s).2 = .waiting ⟨t.bound, .close n, t.sequel⟩) ∨
    ((∀ n text reason, t.call = .send n text → outcome ≠ .raised reason) ∧
      (b.resume t outcome s).1.sessions = s.sessions) := by
  obtain ⟨bound, call, sequel⟩ := t
  cases call with
  | send n text =>
      cases outcome with
      | done =>
          refine .inr ⟨fun _ _ _ _ heq => (nomatch heq), ?_⟩
          exact (Bridge.proceed_orderly ..).same.sessions
      | raised reason =>
          exact .inl ⟨n, text, reason, rfl, rfl, sessions_closeSession .., rfl⟩
  | close n =>
      refine .inr ⟨fun _ _ _ heq => (nomatch heq), ?_⟩
      cases outcome with
      | done => exact (Bridge.proceed_orderly ..).same.sessions
      | raised reason => exact (Bridge.proceed_orderly ..).same.sessions

theorem start_call_lt [IdSupply] {e : Bridge.Event} (ht : (b.start e s).2 = .waiting t) :
    t.call.session < (b.start e s).1.sessions.next := by
  obtain ⟨n, text, hcall, ho⟩ := Bridge.start_hands ht
  rw [hcall]
  exact SessionTable.isOpen_lt ho

theorem resume_call_lt (hcall : t.call.session < s.sessions.next)
    (ht' : (b.resume t outcome s).2 = .waiting t') :
    t'.call.session < (b.resume t outcome s).1.sessions.next := by
  rcases Bridge.resume_hands ht' with ⟨n, text, hcall', ho⟩ | ⟨n, text, _, hsend, -, hclose⟩
  · rw [hcall']
    exact SessionTable.isOpen_lt ho
  · rw [hsend] at hcall
    rw [hclose, Bridge.next_resume]
    exact hcall

end

/-! ## The sessions through a happening -/

/-- The name of the session that a text failed to be sent to. -/
def Line.failed? [IdSupply] : Line → Option String
  | .answered _ (.send n _) (.raised _) => some (sessionName n)
  | _ => none

/-- Whether among these lines a text failed to be sent to a session. -/
def FailedIn [IdSupply] (es : List Line) (session : String) : Prop :=
  ∃ l ∈ es, l.failed? = some session

section
variable [IdSupply] {es es' : List Line} {session : String}

theorem failedIn_append :
    FailedIn (es ++ es') session ↔ FailedIn es session ∨ FailedIn es' session := by
  constructor
  · rintro ⟨l, hl, hfailed⟩
    exact (List.mem_append.mp hl).imp (⟨l, ·, hfailed⟩) (⟨l, ·, hfailed⟩)
  · rintro (⟨l, hl, hfailed⟩ | ⟨l, hl, hfailed⟩)
    · exact ⟨l, List.mem_append_left _ hl, hfailed⟩
    · exact ⟨l, List.mem_append_right _ hl, hfailed⟩

theorem not_failedIn (h : ∀ l ∈ es, l.failed? = none) : ¬ FailedIn es session := by
  rintro ⟨l, hl, hfailed⟩
  cases (h l hl).symm.trans hfailed

end

namespace Service

def sessions (w : Service) : SessionTable := w.server.state.sessions

/-- What of the desks matters to others: whose they are, and whether their
endpoints are at work. -/
def outline (w : Service) : List (String × Bool) :=
  w.desks.map fun d => (d.session, d.atWork)

/-- What a happening does to the sessions, together with what it does to the
desks and to the endpoints that the network shows. -/
inductive Change [IdSupply] (w w' : Service) (es : List Line) : Prop where
  | joins (connection : Nat) (now : String)
      (hs : w'.sessions = w.sessions.add connection now)
      (hdesks : w'.outline = w.outline ++ [(sessionName w.sessions.next, true)])
      (hnet : w'.server.network.endpoints = w.server.network.endpoints ++
        [⟨some (sessionName w.sessions.next), false, false⟩])
      (hfailed : ∀ l ∈ es, l.failed? = none) (hover : ∀ c, .ended c ∉ es)
  | same (hs : w'.sessions = w.sessions) (hdesks : w'.outline = w.outline)
      (hnet : w'.server.network.endpoints = w.server.network.endpoints)
      (hfailed : ∀ l ∈ es, l.failed? = none) (hover : ∀ c, .ended c ∉ es)
  | fails (n : Nat) (hn : n < w.sessions.next)
      (hs : w'.sessions = w.sessions.remove (sessionName n))
      (hdesks : w'.outline = w.outline)
      (hnet : w'.server.network.endpoints = w.server.network.endpoints)
      (hfailed : ∀ id, FailedIn es id ↔ id = sessionName n) (hover : ∀ c, .ended c ∉ es)
  | ends {c : Nat} {d d' : Desk} (hc : w.desks[c]? = some d) (hwork : d.atWork)
      (hs : w'.sessions = w.sessions.remove d.session)
      (hdesks : w'.desks = w.desks.set c d') (hsession : d'.session = d.session)
      (hwork' : d'.atWork = false)
      (hnet : w'.server.network.endpoints =
        w.server.network.endpoints.modify c fun e => { e with ended := true })
      (hfailed : ∀ l ∈ es, l.failed? = none) (hover : ∀ k, .ended k ∈ es → k = c)

section
variable {w w' : Service} {m : Happening} {es : List Line} {c : Nat} {d d' : Desk}

theorem outline_set (hc : w.desks[c]? = some d) (hdesks : w'.desks = w.desks.set c d')
    (hsession : d'.session = d.session) (hwork : d'.atWork = d.atWork) :
    w'.outline = w.outline := by
  obtain ⟨hlt, rfl⟩ := List.getElem?_eq_some_iff.mp hc
  rw [outline, hdesks, List.map_set, hsession, hwork]
  refine List.ext_getElem? fun k => ?_
  rw [List.getElem?_set, outline]
  split
  · next heq =>
      subst heq
      rw [if_pos (by rw [List.length_map]; exact hlt), List.getElem?_map, hc]
      rfl
  · rfl

theorem failed?_callLines [IdSupply] (c : Nat) (p : Progress) :
    ∀ l ∈ callLines c p, l.failed? = none := by
  intro l hl
  cases p with
  | waiting t => rw [List.mem_singleton.mp hl]; rfl
  | finished r => cases hl

theorem not_ended_callLines (c : Nat) (p : Progress) (k : Nat) : .ended k ∉ callLines c p := by
  intro hk
  cases p with
  | waiting t => cases List.mem_singleton.mp hk
  | finished r => cases hk

theorem endpoints_carry (call : Call) (outcome : Outcome) (s : State) (n : Network) :
    (n.carry call outcome s).endpoints = n.endpoints := by
  cases outcome <;> cases call <;> rfl

theorem not_came_callLines (c : Nat) (p : Progress) (k : Nat) (r : Result) (present : Bool) :
    .came k r present ∉ callLines c p := by
  intro hk
  cases p with
  | waiting t => cases List.mem_singleton.mp hk
  | finished r => cases hk

/-- What follows the work on a frame closes the session of its own endpoint, or
none. -/
theorem Served.change [IdSupply] {w₀ : Service} {d₀ : Desk} {p : Progress} {s : State}
    (h : Served w c d s p w' es) (hdesks : w.desks = w₀.desks)
    (hnet : w.server.network.endpoints = w₀.server.network.endpoints)
    (hs : s.sessions = w₀.sessions) (hc : w₀.desks[c]? = some d₀)
    (hsession : d.session = d₀.session) (hwork : d₀.atWork) : Change w₀ w' es := by
  have hset : ∀ stage, w.desks.set c { d with stage } = w₀.desks.set c { d with stage } :=
    fun stage => by rw [hdesks]
  cases h with
  | waits t =>
      refine .same hs (outline_set hc (hset (.handling t)) hsession hwork.symm) hnet ?_ ?_
      · exact fun l hl => by rw [List.mem_singleton.mp hl]; rfl
      · exact fun k hk => (nomatch List.mem_singleton.mp hk)
  | goesOn =>
      refine .same hs (outline_set hc (hset .receiving) hsession hwork.symm) hnet ?_ ?_
      · exact fun l hl => by rw [List.mem_singleton.mp hl]; rfl
      · exact fun k hk => (nomatch List.mem_singleton.mp hk)
  | @ends r present =>
      refine .ends hc hwork ?_ (hset .ended) hsession rfl ?_ ?_ ?_
      · rw [← hsession, ← hs]
        exact sessions_closeSession ..
      · rw [← hnet]
        rfl
      · intro l hl
        simp only [List.mem_cons, List.not_mem_nil, or_false] at hl
        rcases hl with rfl | rfl <;> rfl
      · intro k hk
        simp only [List.mem_cons, reduceCtorEq, List.not_mem_nil, or_false, false_or] at hk
        exact Line.ended.inj hk

theorem Served.next_eq {p : Progress} {s : State} (h : Served w c d s p w' es) :
    w'.sessions.next = s.sessions.next := by
  cases h with
  | waits | goesOn => rfl
  | ends => exact Bridge.next_closeSession ..

/-- The only new call is the one that the step ends with. -/
theorem Served.task_eq {p : Progress} {s : State} (h : Served w c d s p w' es) {k : Desk}
    (hk : k ∈ w'.desks) : k ∈ w.desks ∨ ∀ t, k.task? = some t → p = .waiting t := by
  cases h with
  | waits t =>
      refine (List.mem_or_eq_of_mem_set hk).imp_right fun heq t' ht' => ?_
      subst heq
      cases ht'
      rfl
  | goesOn | ends =>
      refine (List.mem_or_eq_of_mem_set hk).imp_right fun heq t' ht' => ?_
      subst heq
      cases ht'

theorem Change.next_le [IdSupply] (h : Change w w' es) : w.sessions.next ≤ w'.sessions.next := by
  cases h with
  | joins connection now hs =>
      rw [hs, SessionTable.next_add]
      exact Nat.le_succ _
  | same hs => exact Nat.le_of_eq (congrArg SessionTable.next hs.symm)
  | fails n hn hs => exact Nat.le_of_eq (by rw [hs, SessionTable.next_remove])
  | ends hc hwork hs => exact Nat.le_of_eq (by rw [hs, SessionTable.next_remove])

/-- Lines that tell of no failure and no end add nothing. -/
theorem Change.cons [IdSupply] {l : Line} (h : Change w w' es) (hfailed : l.failed? = none)
    (hover : ∀ k, l ≠ .ended k) : Change w w' (l :: es) := by
  have hnone : (∀ l ∈ es, l.failed? = none) → ∀ l' ∈ l :: es, l'.failed? = none :=
    fun hes => List.forall_mem_cons.mpr ⟨hfailed, hes⟩
  have hmem : ∀ k, .ended k ∈ l :: es → .ended k ∈ es := fun k hk =>
    (List.mem_cons.mp hk).resolve_left fun heq => hover k heq.symm
  cases h with
  | joins connection now hs hdesks hnet hes hno =>
      exact .joins connection now hs hdesks hnet (hnone hes) fun k hk => hno k (hmem k hk)
  | same hs hdesks hnet hes hno =>
      exact .same hs hdesks hnet (hnone hes) fun k hk => hno k (hmem k hk)
  | fails n hn hs hdesks hnet hes hno =>
      refine .fails n hn hs hdesks hnet (fun id => ?_) fun k hk => hno k (hmem k hk)
      rw [← hes id]
      constructor
      · rintro ⟨l', hl', hid⟩
        rcases List.mem_cons.mp hl' with rfl | hl'
        · cases hfailed.symm.trans hid
        · exact ⟨l', hl', hid⟩
      · exact fun ⟨l', hl', hid⟩ => ⟨l', List.mem_cons_of_mem _ hl', hid⟩
  | ends hc hwork hs hdesks hsession hwork' hnet hes hno =>
      exact .ends hc hwork hs hdesks hsession hwork' hnet (hnone hes)
        fun k hk => hno k (hmem k hk)

end

/-! ## The invariant -/

/-- What every run keeps of the sessions, `es` being its trace. -/
structure Accounts [IdSupply] (w : Service) (es : List Line) : Prop where
  table : w.sessions.WellFormed
  /-- Every session has a desk, in the order in which they came. -/
  seats : w.outline.length = w.sessions.next
  named : ∀ {c id work}, w.outline[c]? = some (id, work) → id = sessionName c
  /-- The network shows which endpoints have ended. -/
  shown : w.server.network.endpoints = w.outline.map fun x => ⟨some x.1, !x.2, false⟩
  /-- Calls are about sessions that exist. -/
  calls : ∀ d ∈ w.desks, ∀ t, d.task? = some t → t.call.session < w.sessions.next
  failed : ∀ {id}, FailedIn es id → ∃ n < w.sessions.next, id = sessionName n
  /-- Who is at work and was not failed is open. -/
  opens : ∀ {c id work}, w.outline[c]? = some (id, work) →
    (w.sessions.isOpen c ↔ work = true ∧ ¬ FailedIn es id)

namespace Accounts

variable {w w' : Service} {es news : List Line} {m : Happening} {c : Nat} {d : Desk}

theorem outline_eq (hc : w.desks[c]? = some d) : w.outline[c]? = some (d.session, d.atWork) := by
  rw [outline, List.getElem?_map, hc]
  rfl

variable [IdSupply]

theorem change_answer (h : Accounts w es) (hc : w.desks[c]? = some d) {t : Task}
    (ht : d.task? = some t) {outcome : Outcome} {s : State} {p : Progress}
    (hresume : w.server.bridge.resume t outcome w.server.state = (s, p)) :
    (∃ n text reason, t.call = .send n text ∧ outcome = .raised reason ∧
      n < w.sessions.next ∧ s.sessions = w.sessions.remove (sessionName n) ∧
      p = .waiting ⟨t.bound, .close n, t.sequel⟩) ∨
    ((Line.answered c t.call outcome).failed? = none ∧ s.sessions = w.sessions) := by
  have hcloses := resume_closes w.server.bridge t outcome w.server.state
  rw [hresume] at hcloses
  rcases hcloses with ⟨n, text, reason, hcall, rfl, hs, hp⟩ | ⟨hno, hs⟩
  · have hn : n < w.sessions.next := by
      have hlt := h.calls d (List.mem_of_getElem? hc) t ht
      rwa [hcall] at hlt
    rw [Bridge.nameOf_eq h.table hn] at hs
    exact .inl ⟨n, text, reason, hcall, rfl, hn, hs, hp⟩
  · refine .inr ⟨?_, hs⟩
    cases hcall : t.call with
    | close n => rfl
    | send n text =>
        cases outcome with
        | done => rfl
        | raised reason => exact absurd rfl (hno n text reason hcall)

theorem change_failed {t : Task} {n : Nat} {text reason : String}
    (hcall : t.call = .send n text) (hn : n < w.sessions.next)
    (hs : w'.sessions = w.sessions.remove (sessionName n)) (hdesks : w'.outline = w.outline)
    (hnet : w'.server.network.endpoints = w.server.network.endpoints) :
    Change w w' [.answered c t.call (.raised reason), .called c (.close n)] := by
  rw [hcall]
  refine .fails n hn hs hdesks hnet (fun id => ?_) ?_
  · constructor
    · rintro ⟨l, hl, hid⟩
      simp only [List.mem_cons, List.not_mem_nil, or_false] at hl
      rcases hl with rfl | rfl <;> cases hid
      rfl
    · rintro rfl
      exact ⟨_, List.mem_cons_self, rfl⟩
  · intro k hk
    simp at hk

theorem change (h : Accounts w es) (m : Happening) : Change w (w.step m) (w.news m) := by
  have hadv := advance_cases w m
  generalize w.step m = w', w.news m = news at hadv
  cases hadv with
  | idle | tick =>
      exact .same rfl rfl rfl (fun l hl => (nomatch hl)) fun k hk => (nomatch hk)
  | join =>
      have hstart : w.server.bridge.start (.connect w.desks.length) w.server.state = _ :=
        Bridge.connect_eq h.table ..
      rw [welcome, hstart]
      dsimp only
      refine .joins w.desks.length w.server.state.now rfl ?_ rfl ?_ ?_
      · exact List.map_append
      · exact failed?_callLines w.desks.length _
      · exact not_ended_callLines w.desks.length _
  | @arrive c d hc event =>
      refine .same rfl (outline_set hc rfl rfl rfl) rfl ?_ ?_
      · exact fun l hl => by rw [List.mem_singleton.mp hl]; rfl
      · exact fun k hk => (nomatch List.mem_singleton.mp hk)
  | @leaves c session inbox code hc =>
      refine .ends hc rfl (sessions_closeSession ..) rfl rfl rfl rfl ?_ ?_
      · intro l hl
        simp only [List.mem_cons, List.not_mem_nil, or_false] at hl
        rcases hl with rfl | rfl <;> rfl
      · intro k hk
        simp only [List.mem_cons, reduceCtorEq, List.not_mem_nil, or_false, false_or] at hk
        exact Line.ended.inj hk
  | @takes c session inbox text bytes w' es' hc hserved =>
      have hchange := hserved.change rfl rfl (sessions_startFrame ..) hc rfl rfl
      refine .cons (.cons hchange rfl ?_) rfl ?_
      · exact fun k heq => (nomatch heq)
      · exact fun k heq => (nomatch heq)
  | @greeted c session inbox t hc outcome =>
      cases hresume : w.server.bridge.resume t outcome w.server.state with
      | mk s p =>
        have hout : outline ⟨{ (w.carried t outcome).server with state := s },
            w.desks.set c ⟨session, inbox, .ofGreeting p⟩⟩ = w.outline := by
          refine outline_set hc rfl rfl ?_
          cases p <;> rfl
        rcases h.change_answer hc rfl hresume with
          ⟨n, text, reason, hcall, rfl, hn, hs, rfl⟩ | ⟨hfailed, hs⟩
        · exact change_failed hcall hn hs hout (endpoints_carry ..)
        · refine .cons (.same hs hout (endpoints_carry ..) ?_ ?_) hfailed ?_
          · exact failed?_callLines c p
          · exact not_ended_callLines c p
          · exact fun k heq => (nomatch heq)
  | @handled c session inbox t w' es hc outcome hserved =>
      cases hresume : w.server.bridge.resume t outcome w.server.state with
      | mk s p =>
        rw [hresume] at hserved
        rcases h.change_answer hc rfl hresume with
          ⟨n, text, reason, hcall, rfl, hn, hs, rfl⟩ | ⟨hfailed, hs⟩
        -- after a text that did not go the work waits for the close, so this is
        -- not the step that the endpoint ends in
        · cases hserved
          exact change_failed hcall hn hs (outline_set hc rfl rfl rfl) (endpoints_carry ..)
        · refine .cons (hserved.change rfl (endpoints_carry ..) hs hc rfl rfl) hfailed ?_
          exact fun k heq => (nomatch heq)

theorem calls_step (h : Accounts w es) (m : Happening) : ∀ d ∈ (w.step m).desks,
    ∀ t, d.task? = some t → t.call.session < (w.step m).sessions.next := by
  have hle := (h.change m).next_le
  have hadv := advance_cases w m
  generalize w.step m = w', w.news m = news at hadv hle
  have hold : ∀ d ∈ w.desks, ∀ t, d.task? = some t → t.call.session < w'.sessions.next :=
    fun d hd t ht => Nat.lt_of_lt_of_le (h.calls d hd t ht) hle
  intro d hd t ht
  cases hadv with
  | idle | tick => exact hold d hd t ht
  | join =>
      rcases List.mem_append.mp hd with hd | hd
      · exact hold d hd t ht
      · rw [List.mem_singleton.mp hd] at ht
        cases hstart : w.server.bridge.start (.connect w.desks.length) w.server.state with
        | mk s p =>
          rw [hstart] at ht
          cases p with
          | finished r => cases ht
          | waiting t' =>
              cases ht
              exact start_call_lt (congrArg Prod.snd hstart)
  | @arrive c d' hc event =>
      rcases List.mem_or_eq_of_mem_set hd with hd | rfl
      · exact hold d hd t ht
      · exact h.calls d' (List.mem_of_getElem? hc) t ht
  | leaves hc =>
      rcases List.mem_or_eq_of_mem_set hd with hd | rfl
      · exact hold d hd t ht
      · cases ht
  | takes hc hserved =>
      rcases hserved.task_eq hd with hd | hwaits
      · exact hold d hd t ht
      · rw [hserved.next_eq]
        exact start_call_lt (hwaits t ht)
  | @greeted c session inbox t' hc outcome =>
      rcases List.mem_or_eq_of_mem_set hd with hd | rfl
      · exact hold d hd t ht
      · refine resume_call_lt (h.calls _ (List.mem_of_getElem? hc) t' rfl) ?_
        generalize (w.server.bridge.resume t' outcome w.server.state).2 = p at ht
        cases p with
        | finished r => cases ht
        | waiting t'' => cases ht; rfl
  | @handled c session inbox t' w' es' hc outcome hserved =>
      rcases hserved.task_eq hd with hd | hwaits
      · exact hold d hd t ht
      · rw [hserved.next_eq]
        exact resume_call_lt (h.calls _ (List.mem_of_getElem? hc) t' rfl) (hwaits t ht)

theorem joins {connection : Nat} {now : String} (h : Accounts w es)
    (hcalls : ∀ d ∈ w'.desks, ∀ t, d.task? = some t → t.call.session < w'.sessions.next)
    (hs : w'.sessions = w.sessions.add connection now)
    (hdesks : w'.outline = w.outline ++ [(sessionName w.sessions.next, true)])
    (hnet : w'.server.network.endpoints = w.server.network.endpoints ++
      [⟨some (sessionName w.sessions.next), false, false⟩])
    (hfailed : ∀ l ∈ news, l.failed? = none) : Accounts w' (es ++ news) := by
  have hdesk : ∀ {c id work}, w'.outline[c]? = some (id, work) →
      (c < w.sessions.next ∧ w.outline[c]? = some (id, work)) ∨
      (c = w.sessions.next ∧ id = sessionName w.sessions.next ∧ work = true) := by
    intro c id work hc
    rw [hdesks, List.getElem?_append, h.seats] at hc
    split at hc
    · next hlt => exact .inl ⟨hlt, hc⟩
    · next hge =>
        obtain ⟨hlt, heq⟩ := List.getElem?_eq_some_iff.mp hc
        rw [List.length_singleton] at hlt
        rw [List.getElem_singleton] at heq
        cases heq
        exact .inr ⟨by omega, rfl, rfl⟩
  have hnew : ¬ FailedIn es (sessionName w.sessions.next) := by
    intro hfail
    obtain ⟨n, hn, heq⟩ := h.failed hfail
    exact absurd (sessionName_inj heq) (Nat.ne_of_gt hn)
  refine ⟨?_, ?_, ?_, ?_, hcalls, ?_, ?_⟩
  · rw [hs]
    exact h.table.add connection now
  · rw [hs, hdesks, List.length_append, SessionTable.next_add, h.seats]
    rfl
  · intro c id work hc
    rcases hdesk hc with ⟨-, hc⟩ | ⟨rfl, hid, -⟩
    · exact h.named hc
    · exact hid
  · rw [hnet, hdesks, List.map_append, h.shown]
    rfl
  · intro id hfail
    rw [failedIn_append, or_iff_left (not_failedIn hfailed)] at hfail
    obtain ⟨n, hn, hid⟩ := h.failed hfail
    exact ⟨n, by rw [hs, SessionTable.next_add]; omega, hid⟩
  · intro c id work hc
    rw [hs, SessionTable.isOpen_add, failedIn_append, or_iff_left (not_failedIn hfailed)]
    rcases hdesk hc with ⟨hlt, hc⟩ | ⟨rfl, rfl, rfl⟩
    · rw [or_iff_right (Nat.ne_of_lt hlt)]
      exact h.opens hc
    · exact ⟨fun _ => ⟨rfl, hnew⟩, fun _ => .inl rfl⟩

theorem ends {c₀ : Nat} {d d' : Desk} (h : Accounts w es)
    (hcalls : ∀ d ∈ w'.desks, ∀ t, d.task? = some t → t.call.session < w'.sessions.next)
    (hc₀ : w.desks[c₀]? = some d) (hs : w'.sessions = w.sessions.remove d.session)
    (hdesks : w'.desks = w.desks.set c₀ d') (hsession : d'.session = d.session)
    (hwork' : d'.atWork = false)
    (hnet : w'.server.network.endpoints =
      w.server.network.endpoints.modify c₀ fun e => { e with ended := true })
    (hfailed : ∀ l ∈ news, l.failed? = none) : Accounts w' (es ++ news) := by
  have hout : w'.outline = w.outline.set c₀ (d.session, false) := by
    rw [outline, hdesks, List.map_set, hsession, hwork']
    rfl
  have hold := outline_eq hc₀
  have hname := h.named hold
  have hdesk : ∀ {c id work}, w'.outline[c]? = some (id, work) →
      (c = c₀ ∧ id = d.session ∧ work = false) ∨
      (c ≠ c₀ ∧ w.outline[c]? = some (id, work)) := by
    intro c id work hc
    rw [hout, List.getElem?_set] at hc
    split at hc
    · next heq =>
        split at hc
        · cases hc
          exact .inl ⟨heq.symm, rfl, rfl⟩
        · cases hc
    · next hne => exact .inr ⟨fun heq => hne heq.symm, hc⟩
  refine ⟨?_, ?_, ?_, ?_, hcalls, ?_, ?_⟩
  · rw [hs]
    exact h.table.remove _
  · rw [hs, hout, List.length_set, SessionTable.next_remove, h.seats]
  · intro c id work hc
    rcases hdesk hc with ⟨rfl, rfl, -⟩ | ⟨-, hc⟩
    · exact hname
    · exact h.named hc
  · rw [hnet, hout, h.shown]
    refine List.ext_getElem? fun k => ?_
    rw [List.getElem?_modify, List.getElem?_map, List.getElem?_map, List.getElem?_set]
    split
    · next heq =>
        subst heq
        rw [if_pos (List.getElem?_eq_some_iff.mp hold).1, hold]
        rfl
    · exact Option.map_id'
  · intro id hfail
    rw [failedIn_append, or_iff_left (not_failedIn hfailed)] at hfail
    rw [hs, SessionTable.next_remove]
    exact h.failed hfail
  -- desks bear the name of their place, so no other one loses its session
  · intro c id work hc
    rw [hs, h.table.isOpen_remove, failedIn_append, or_iff_left (not_failedIn hfailed), hname]
    rcases hdesk hc with ⟨rfl, -, rfl⟩ | ⟨hne, hc⟩
    · exact ⟨fun ho => absurd rfl ho.2, fun ho => (nomatch ho.1)⟩
    · rw [and_iff_left fun heq => hne (sessionName_inj heq).symm]
      exact h.opens hc

/-- Where no desk changes, only those are closed whom something failed to be
sent to. -/
theorem kept (h : Accounts w es)
    (hcalls : ∀ d ∈ w'.desks, ∀ t, d.task? = some t → t.call.session < w'.sessions.next)
    (htable : w'.sessions.WellFormed) (hnext : w'.sessions.next = w.sessions.next)
    (hdesks : w'.outline = w.outline)
    (hnet : w'.server.network.endpoints = w.server.network.endpoints)
    (hfailed : ∀ {id}, FailedIn news id → ∃ n < w.sessions.next, id = sessionName n)
    (hopen : ∀ c, w'.sessions.isOpen c ↔
      w.sessions.isOpen c ∧ ¬ FailedIn news (sessionName c)) : Accounts w' (es ++ news) := by
  refine ⟨htable, ?_, ?_, ?_, hcalls, ?_, ?_⟩
  · rw [hnext, hdesks]
    exact h.seats
  · exact hdesks ▸ h.named
  · rw [hnet, hdesks]
    exact h.shown
  · intro id hfail
    rw [hnext]
    exact (failedIn_append.mp hfail).elim h.failed hfailed
  · intro c id work hc
    rw [hdesks] at hc
    rw [hopen, h.opens hc, failedIn_append, not_or, and_assoc, h.named hc]

theorem step (h : Accounts w es) (m : Happening) :
    Accounts (w.step m) (es ++ w.news m) := by
  have hcalls := h.calls_step m
  have hchange := h.change m
  generalize w.step m = w', w.news m = news at hchange hcalls
  cases hchange with
  | joins connection now hs hdesks hnet hfailed => exact h.joins hcalls hs hdesks hnet hfailed
  | ends hc _ hs hdesks hsession hwork' hnet hfailed =>
      exact h.ends hcalls hc hs hdesks hsession hwork' hnet hfailed
  | same hs hdesks hnet hfailed =>
      refine h.kept hcalls (hs ▸ h.table) (congrArg SessionTable.next hs) hdesks hnet
        (fun hfail => absurd hfail (not_failedIn hfailed)) fun c => ?_
      rw [hs, and_iff_left (not_failedIn hfailed)]
  | fails n hn hs hdesks hnet hfailed =>
      refine h.kept hcalls (hs ▸ h.table.remove _) (by rw [hs, SessionTable.next_remove]) hdesks
        hnet (fun hfail => ⟨n, hn, (hfailed _).mp hfail⟩) fun c => ?_
      rw [hs, h.table.isOpen_remove, hfailed, ne_comm]

theorem launch {v : Server} (hs : v.state.sessions = {}) (hn : v.network.endpoints = []) :
    Accounts (empty v) [] where
  table := by
    rw [show (empty v).sessions = {} from hs]
    exact .empty
  seats := by
    rw [show (empty v).sessions = {} from hs]
    rfl
  named hc := by cases hc
  shown := hn
  calls d hd := by cases hd
  failed := fun ⟨_, hl, _⟩ => (nomatch hl)
  opens hc := by cases hc

theorem run {ms : List Happening} (h : Accounts w es) :
    Accounts (w.run ms) (es ++ w.trace ms) := by
  induction ms generalizing w es with
  | nil => rw [trace, List.append_nil]; exact h
  | cons m ms ih =>
      rw [trace, ← List.append_assoc]
      exact ih (h.step m)

end Accounts

/-! ## Counting -/

/-- Whether the viewer on a connection is attended to: its session was opened,
its endpoint has not ended, and nothing has failed to be sent to it. -/
def attends [IdSupply] (w : Service) (es : List Line) (c : Nat) : Bool :=
  match w.desks[c]? with
  | some d => d.atWork && es.all fun l => l.failed? ≠ some d.session
  | none => false

/-- The connections whose viewers are attended to. -/
def attended [IdSupply] (w : Service) (es : List Line) : List Nat :=
  (List.range w.desks.length).filter (w.attends es)

section
variable {w : Service} {es : List Line} {m : Happening} {c : Nat} {d : Desk}

/-- A result is noted with whether the session is in the table; the step that
brings it changes no session. -/
theorem Served.came {p : Progress} {s : State} {w' : Service} {news : List Line} {r : Result}
    {present : Bool} (h : Served w c d s p w' news) {k : Nat}
    (hcame : .came k r present ∈ news) :
    k = c ∧ p = .finished r ∧ (s.sessions.find? d.session).isSome = present := by
  cases h with
  | waits t => cases List.mem_singleton.mp hcame
  | goesOn hpresent =>
      cases List.mem_singleton.mp hcame
      exact ⟨rfl, rfl, hpresent⟩
  | ends hpresent =>
      simp only [List.mem_cons, reduceCtorEq, List.not_mem_nil, or_false] at hcame
      cases hcame
      exact ⟨rfl, rfl, hpresent⟩

variable [IdSupply]

theorem Accounts.length_desks (h : Accounts w es) : w.desks.length = w.sessions.next := by
  rw [← h.seats, outline, List.length_map]

theorem Accounts.attends_iff (h : Accounts w es) : w.attends es c ↔ w.sessions.isOpen c := by
  rw [attends]
  cases hc : w.desks[c]? with
  | none =>
      refine ⟨fun hno => (nomatch hno), fun ho => ?_⟩
      have hlt := SessionTable.isOpen_lt ho
      rw [List.getElem?_eq_none_iff, h.length_desks] at hc
      omega
  | some d =>
      rw [h.opens (Accounts.outline_eq hc)]
      simp only [Bool.and_eq_true, List.all_eq_true, decide_eq_true_eq, FailedIn, not_exists,
        not_and, ne_eq]

/-- The table holds as many sessions as viewers are attended to. -/
theorem Accounts.size_eq (h : Accounts w es) : w.sessions.size = (w.attended es).length := by
  have hperm : List.Perm w.sessions.openNumbers (w.attended es) := by
    rw [attended,
      List.perm_ext_iff_of_nodup h.table.nodup_openNumbers (List.nodup_range.filter _)]
    intro c
    rw [h.table.mem_openNumbers, List.mem_filter, h.attends_iff, List.mem_range,
      h.length_desks]
    exact ⟨fun ho => ⟨SessionTable.isOpen_lt ho, ho⟩, And.right⟩
  rw [← hperm.length_eq, h.table.openNumbers_eq, List.length_map]
  rfl

/-- Whose endpoint has ended is not in the table. -/
theorem Accounts.closed (h : Accounts w es) (hc : w.desks[c]? = some d)
    (hd : d.atWork = false) : w.sessions.find? d.session = none := by
  have hname := h.named (Accounts.outline_eq hc)
  refine h.table.find?_eq_none.mpr fun n hn ho => ?_
  obtain rfl := sessionName_inj (hname.symm.trans hn)
  have hwork := ((h.opens (Accounts.outline_eq hc)).mp ho).1
  exact Bool.noConfusion (hd.symm.trans hwork)

/-- The server knows an endpoint at work by its session. -/
theorem Accounts.sessionAt? (h : Accounts w es) (hc : w.desks[c]? = some d)
    (hd : d.atWork = true) : w.server.sessionAt? c = some d.session := by
  rw [Server.sessionAt?, h.shown, List.getElem?_map, Accounts.outline_eq hc, hd]
  rfl

/-- When an endpoint ends, its session is closed and the others go on as they
were. -/
theorem Accounts.apart (h : Accounts w es) (hover : .ended c ∈ w.news m) :
    ∃ d, w.desks[c]? = some d ∧ (w.step m).sessions.find? d.session = none ∧
      (∀ k, k ≠ c → (w.step m).desks[k]? = w.desks[k]?) ∧
      ∀ id, id ≠ d.session → (w.step m).sessions.find? id = w.sessions.find? id := by
  have hstep := h.step m
  cases h.change m with
  | joins _ _ _ _ _ _ hno => exact absurd hover (hno c)
  | same _ _ _ _ hno => exact absurd hover (hno c)
  | fails _ _ _ _ _ _ hno => exact absurd hover (hno c)
  | @ends c' d d' hc hwork hs hdesks hsession hwork' hnet hfailed hone =>
      obtain rfl := hone c hover
      refine ⟨d, hc, ?_, ?_, ?_⟩
      · rw [hs, (h.table.remove _).find?_eq_none]
        intro n hid ho
        exact ((h.table.isOpen_remove _ n).mp ho).2 hid
      · intro k hk
        rw [hdesks, List.getElem?_set_ne hk.symm]
      · intro id hid
        rw [hs, h.table.find?_remove hid]

theorem Accounts.came (h : Accounts w es) {r : Result} {present : Bool}
    (hcame : .came c r present ∈ w.news m) :
    ∃ d, w.desks[c]? = some d ∧ (w.sessions.find? d.session).isSome = present := by
  have hadv := advance_cases w m
  generalize w.step m = w', w.news m = news at hadv hcame
  cases hadv with
  | idle | tick => cases hcame
  | arrive => cases List.mem_singleton.mp hcame
  | leaves => simp at hcame
  | join =>
      exact absurd hcame (not_came_callLines _ _ _ _ _)
  | @takes k session inbox text bytes w' es' hc hserved =>
      simp only [List.mem_cons, reduceCtorEq, false_or] at hcame
      obtain ⟨rfl, -, hpresent⟩ := hserved.came hcame
      rw [sessions_startFrame] at hpresent
      exact ⟨_, hc, hpresent⟩
  | greeted =>
      refine absurd ((List.mem_cons.mp hcame).resolve_left ?_) (not_came_callLines _ _ _ _ _)
      exact fun heq => (nomatch heq)
  | @handled k session inbox t w' es' hc outcome hserved =>
      simp only [List.mem_cons, reduceCtorEq, false_or] at hcame
      obtain ⟨rfl, hp, hpresent⟩ := hserved.came hcame
      cases hresume : w.server.bridge.resume t outcome w.server.state with
      | mk s p =>
        rw [hresume] at hp hpresent
        rcases h.change_answer hc rfl hresume with ⟨_, _, _, -, -, -, -, hwaits⟩ | ⟨-, hs⟩
        · cases hp.symm.trans hwaits
        · exact ⟨_, hc, hs ▸ hpresent⟩

end

/-! ## What the endpoints of a server do -/

/-- What holds of every run of the endpoints of a server that starts without
any. -/
structure Attendance [IdSupply] (v : Server) (ms : List Happening) : Prop where
  /-- What has come in for an endpoint is what it took, in that order, and what
  still waits for it. -/
  taken : ∀ (c : Nat) (d : Desk), ((empty v).run ms).desks[c]? = some d →
    (linesOf c ((empty v).trace ms)).filterMap Line.arrived? =
      (linesOf c ((empty v).trace ms)).filterMap Line.taken? ++ d.inbox
  /-- The frames that are passed on to be handled are those that were taken,
  each once and in that order. -/
  passed : ∀ c, (linesOf c ((empty v).trace ms)).filterMap Line.passed? =
    ((linesOf c ((empty v).trace ms)).filterMap Line.taken?).filterMap Incoming.frame?
  /-- An endpoint goes on until its viewer has gone, the handling of a frame
  breaks off, or a frame was handled and its session is not in the table; and
  then it ends there and then, whatever came of the frame. -/
  lived : ∀ (c : Nat) (d : Desk), ((empty v).run ms).desks[c]? = some d →
    Lived c ((linesOf c ((empty v).trace ms)).filter Line.ofLife) d.stage.phase
  /-- Whether the session is in the table is what the table says when the
  handling of the frame comes to its result. -/
  came : ∀ ms₁ m ms₂, ms = ms₁ ++ m :: ms₂ → ∀ c r present,
    .came c r present ∈ ((empty v).run ms₁).news m →
    ∃ d, ((empty v).run ms₁).desks[c]? = some d ∧
      (((empty v).run ms₁).server.state.sessions.find? d.session).isSome = present
  /-- No endpoint waits for outcomes for ever. -/
  settles : ∀ (c : Nat) (d : Desk) t, ((empty v).run ms).desks[c]? = some d → d.task? = some t →
    ∀ outcomes : List Outcome, t.weight ≤ outcomes.length →
      ∃ d', (((empty v).run ms).run (outcomes.map (.answer c))).desks[c]? = some d' ∧
        d'.task? = none
  /-- The session of an endpoint that has ended is not in the table. -/
  closed : ∀ (c : Nat) (d : Desk), ((empty v).run ms).desks[c]? = some d → d.atWork = false →
    ((empty v).run ms).server.state.sessions.find? d.session = none
  /-- When an endpoint ends, the desks and the sessions of the others stay as
  they are. -/
  apart : ∀ ms₁ m ms₂, ms = ms₁ ++ m :: ms₂ → ∀ c, .ended c ∈ ((empty v).run ms₁).news m →
    ∃ d, ((empty v).run ms₁).desks[c]? = some d ∧
      (∀ k : Nat, k ≠ c →
        ((empty v).run (ms₁ ++ [m])).desks[k]? = ((empty v).run ms₁).desks[k]?) ∧
      ∀ id, id ≠ d.session →
        ((empty v).run (ms₁ ++ [m])).server.state.sessions.find? id =
          ((empty v).run ms₁).server.state.sessions.find? id
  /-- The page that tells how the server is counts the viewers that are
  attended to. -/
  health : ((empty v).run ms).server.health =
    .obj [("status", .str "ok"), ("timestamp", .str ((empty v).run ms).server.state.now),
      ("sessions", .int (((empty v).run ms).attended ((empty v).trace ms)).length)]
  /-- An endpoint that is left alone with a frame does what the server does
  with it in one go. -/
  alone : ∀ (c : Nat) session text bytes inbox, ((empty v).run ms).desks[c]? =
      some ⟨session, .frame text bytes :: inbox, .receiving⟩ →
    ∃ outcomes : List Outcome,
      (((empty v).run ms).run (.take c :: outcomes.map (.answer c))).server =
        ((empty v).run ms).server.receive c (rawFrame text bytes)

theorem endpoints_attend [IdSupply] {v : Server} (hs : v.state.sessions = {})
    (hn : v.network.endpoints = []) (ms : List Happening) : Attendance v ms := by
  have haccounts : ∀ ms, Accounts ((empty v).run ms) ((empty v).trace ms) :=
    fun ms => (Accounts.launch hs hn).run
  have hdiary : Diary ((empty v).run ms) ((empty v).trace ms) := Diary.launch.run
  refine ⟨?_, hdiary.passed, ?_, ?_, ?_, ?_, ?_, ?_, ?_⟩
  · exact fun c d hc => hdiary.taken hc
  · exact fun c d hc => hdiary.lived hc
  · exact fun ms₁ m ms₂ _ c r present hcame => (haccounts ms₁).came hcame
  · exact fun c d t hc ht outcomes hlen => Service.settles hc ht hlen
  · exact fun c d hc hd => (haccounts ms).closed hc hd
  · intro ms₁ m ms₂ _ c hover
    obtain ⟨d, hc, -, hdesks, hfind⟩ := (haccounts ms₁).apart hover
    rw [run_append]
    exact ⟨d, hc, hdesks, hfind⟩
  · rw [health, ← (haccounts ms).size_eq]
    rfl
  · intro c session text bytes inbox hc
    exact receive_alone hc ((haccounts ms).sessionAt? hc rfl)

/-- Three viewers come. The greeting of the second does not go, so that it is
dropped at its first frame, the third leaves, and the first has a frame without
anything in it. -/
def comingAndGoing : List Happening :=
  [.join, .answer 0 .done, .join, .answer 1 (.raised "broken pipe"), .answer 1 .done,
    .arrive 0 (.frame none none), .arrive 1 (.frame (some "x") none), .take 1, .take 0,
    .answer 0 .done, .join, .answer 2 .done, .arrive 2 (.disconnect none), .take 2]

theorem endpoints_attend_comingAndGoing :
    (launch .standard .empty 0).state.sessions = {} ∧
    (launch .standard .empty 0).network.endpoints = [] ∧
    ((empty (launch .standard .empty 0)).run comingAndGoing).server.health =
      .obj [("status", .str "ok"), ("timestamp", .str (Timestamp.text 0)),
        ("sessions", .int (1 : Nat))] ∧
    (linesOf 0 ((empty (launch .standard .empty 0)).trace comingAndGoing)).filterMap
      Line.passed? = [[]] := by
  have hattend := endpoints_attend (v := launch .standard .empty 0) rfl rfl comingAndGoing
  obtain ⟨hone, hnow, htaken⟩ :
      (((empty (launch .standard .empty 0)).run comingAndGoing).attended
        ((empty (launch .standard .empty 0)).trace comingAndGoing)).length = 1 ∧
      ((empty (launch .standard .empty 0)).run comingAndGoing).server.state.clock = 0 ∧
      (linesOf 0 ((empty (launch .standard .empty 0)).trace comingAndGoing)).filterMap
        Line.taken? = [.frame none none] := by
    decide +kernel
  have hhealth := hattend.health
  rw [hone, State.now, hnow] at hhealth
  refine ⟨rfl, rfl, hhealth, ?_⟩
  rw [hattend.passed, htaken]
  rfl

end Service

end ScreenBridge.Server
