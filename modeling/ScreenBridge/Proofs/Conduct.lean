import ScreenBridge.CountedIds
import ScreenBridge.Proofs.SharedConfig

/-!
# Who is told what

Viewers come and go and send frames, and whatever is interleaved, each of them
may rely on a few things: the first text is the greeting, with the viewer's own
session in it, and it comes once; answers and errors go to nobody but the one
who asked; and what is shared names the session that shared it, whatever the
frame claimed about itself.

All of this is about which work may hand which text to whom. `Says` lists it
by the event that the work began with, and `OnCourse` is where such a work can
be. What an answer makes of a work stays on its course, and of the three kinds
only the work on a frame ever makes a second call. The invariant `Conducted`
then follows the trace: every text in it is one that its work may say, and
behind the first text to a session there is no further greeting.
-/

namespace ScreenBridge.Bridge

open Log (Keys)
open Wire (Message MessageType)

/-- What viewers can do: come, leave and send frames. The rest of a run is the
outcomes of calls and the passing of time. -/
def Move.ofViewer : Move → Bool
  | .start (.connect _) => true
  | .start (.disconnect _) => true
  | .start (.frame _ _) => true
  | .start _ => false
  | .answer _ _ => true
  | .tick _ => true

/-- The text that greets the session `n`. -/
def greeting [IdSupply] (b : Bridge) (now : String) (n : Nat) : String :=
  (Message.connectionAck now (sessionName n) b.settings.supportedFeatures).text

/-! ## What a work may say -/

/-- What a work that began with an event may hand to the session `n`, if
`current` was the configuration when it did. -/
inductive Says [IdSupply] (b : Bridge) (current : Option AppConfig) :
    Event → Nat → String → Prop where
  | greeting (connection : Nat) (now : String) (n : Nat) :
      Says b current (.connect connection) n (greeting b now n)
  | reply {n : Nat} {text : String} (bytes : List UInt8) (hreplies : Replies text) :
      Says b current (.frame (sessionName n) bytes) n text
  | share {id text : String} {occasion : Occasion} (n : Nat) (bytes : List UInt8)
      (hshares : Shares id current text occasion) :
      Says b current (.frame id bytes) n text

/-- Where a work can be that began with an event, if `current` was the
configuration when it did. -/
inductive OnCourse [IdSupply] (b : Bridge) (current : Option AppConfig) :
    Event → Progress → Prop where
  | greeting (connection : Nat) (bound : Keys) (now : String) (n : Nat) :
      OnCourse b current (.connect connection)
        (.waiting ⟨bound, .send n (greeting b now n), .greet n⟩)
  | closing (connection : Nat) (bound : Keys) (n : Nat) :
      OnCourse b current (.connect connection) (.waiting ⟨bound, .close n, .greet n⟩)
  | handling {id : String} {p : Progress} (bytes : List UInt8)
      (hcourse : Course id current p) : OnCourse b current (.frame id bytes) p
  | ended (e : Event) (r : Result) : OnCourse b current e (.finished r)

section
variable {b : Bridge} {current : Option AppConfig} {e : Event} {n : Nat} {text : String}
  {s : State}

theorem Shares.isOfType {id : String} {occasion : Occasion}
    (h : Shares id current text occasion) :
    Message.IsOfType text .appConfig ∨ Message.IsOfType text .componentSpec := by
  cases h with
  | config => exact .inl (Message.isOfType_text _)
  | screen => exact .inr (Message.isOfType_text _)

/-- What is shared belongs to the session that it is shared for. -/
theorem Shares.sessionId {id : String} {occasion : Occasion}
    (h : Shares id current text occasion) {m : Message} (hm : m.text = text) :
    m.sessionId = some id := by
  cases h with
  | config now config hid => exact Message.sessionId_of_text_eq hm.symm rfl hid
  | screen now d components unmapped hid =>
      exact Message.sessionId_of_text_eq hm.symm rfl hid

variable [IdSupply]

theorem OnCourse.may_say {t : Task} (h : OnCourse b current e (.waiting t))
    (hcall : t.call = .send n text) : Says b current e n text := by
  cases h with
  | greeting => cases hcall; exact .greeting ..
  | closing => cases hcall
  | handling bytes hcourse =>
      rcases hcourse.sends hcall with ⟨rfl, hreplies⟩ | ⟨occasion, hshares⟩
      · exact .reply bytes hreplies
      · exact .share n bytes hshares

theorem isOfType_greeting (b : Bridge) (now : String) (n : Nat) :
    Message.IsOfType (greeting b now n) .connectionAck :=
  Message.isOfType_text _

/-- Only a greeting greets. -/
theorem Says.not_greeting {id : String} {bytes : List UInt8}
    (h : Says b current (.frame id bytes) n text) : ¬ Message.IsOfType text .connectionAck := by
  intro hack
  cases h with
  | reply _ hreplies =>
      rcases hreplies with htype | htype <;> cases hack.unique htype
  | share _ _ hshares =>
      rcases hshares.isOfType with htype | htype <;> cases hack.unique htype

/-- An answer or an error is for the session whose frame is handled. -/
theorem Says.of_replies (h : Says b current e n text) (hreplies : Replies text) :
    ∃ bytes, e = .frame (sessionName n) bytes := by
  cases h with
  | greeting connection now =>
      have hack := isOfType_greeting b now n
      rcases hreplies with htype | htype <;> cases hack.unique htype
  | reply bytes => exact ⟨bytes, rfl⟩
  | share _ _ hshares =>
      rcases hreplies with htype | htype <;>
        rcases hshares.isOfType with htype' | htype' <;> cases htype.unique htype'

/-- A configuration that is handed out is the current one. -/
theorem Says.of_config (h : Says b current e n text)
    (htype : Message.IsOfType text .appConfig) :
    ∃ now id config, text = (Message.appConfig now config (some id)).text ∧
      current = some config := by
  cases h with
  | greeting connection now => cases htype.unique (isOfType_greeting b now n)
  | reply _ hreplies =>
      rcases hreplies with hreply | hreply <;> cases htype.unique hreply
  | share _ _ hshares =>
      cases hshares with
      | config now config _ hcurrent => exact ⟨now, _, config, rfl, hcurrent⟩
      | screen => cases htype.unique (Message.isOfType_text _)

/-- A screen that is handed out brings the current configuration along. -/
theorem Says.of_screen (h : Says b current e n text)
    (htype : Message.IsOfType text .componentSpec) :
    ∃ now d components id,
      text = (Message.componentSpec now d components current (some id)).text := by
  cases h with
  | greeting connection now => cases htype.unique (isOfType_greeting b now n)
  | reply _ hreplies =>
      rcases hreplies with hreply | hreply <;> cases htype.unique hreply
  | share _ _ hshares =>
      cases hshares with
      | config => cases htype.unique (Message.isOfType_text _)
      | screen now d components => exact ⟨now, d, components, _, rfl⟩

/-! ## Staying on course -/

theorem connect_eq (hs : s.sessions.WellFormed) (b : Bridge) (connection : Nat) :
    connect b connection s = (s.openSession [] connection,
      .waiting ⟨[], .send s.sessions.next (greeting b s.now s.sessions.next),
        .greet s.sessions.next⟩) := by
  have hopen : (s.openSession [] connection).sessions.openNumber?
      (sessionName s.sessions.next) = some s.sessions.next := by
    have hadd := hs.add connection s.now
    show (s.sessions.add connection s.now).openNumber? _ = _
    rw [hadd.openNumber?_eq, hadd.find?_eq_some, SessionTable.isOpen_add]
    exact ⟨rfl, .inl rfl⟩
  rw [connect]
  exact sendTo_open hopen ..

theorem start_onCourse (hs : s.sessions.WellFormed) (he : Move.ofViewer (.start e))
    (b : Bridge) : OnCourse b (b.start e s).1.appConfig e (b.start e s).2 := by
  cases e with
  | openSession | sendTo | broadcast => cases he
  | disconnect id => exact .ended ..
  | frame id bytes => exact .handling bytes (dispatch_course hs b id bytes)
  | connect connection =>
      rw [start, connect_eq hs]
      exact .greeting ..

theorem resume_onCourse {t : Task} (h : OnCourse b current e (.waiting t))
    (hs : s.sessions.WellFormed) (outcome : Outcome) :
    OnCourse b current e (resume b t outcome s).2 := by
  cases h with
  | greeting connection bound =>
      cases outcome with
      | done => exact .ended ..
      | raised reason => exact .closing ..
  | closing =>
      cases outcome with
      | done => exact .ended ..
      | raised reason => exact .ended ..
  | handling bytes hcourse => exact .handling bytes (resume_course hcourse hs b outcome)

/-- After its first call only the work on a frame has more to say. -/
theorem OnCourse.frame_of_resume {t t' : Task} {outcome : Outcome}
    (h : OnCourse b current e (.waiting t)) (ht' : (resume b t outcome s).2 = .waiting t')
    (hcall : t'.call = .send n text) : ∃ id bytes, e = .frame id bytes := by
  cases h with
  | greeting =>
      cases outcome <;> cases ht'
      cases hcall
  | closing => cases outcome <;> cases ht'
  | handling => exact ⟨_, _, rfl⟩

end

/-! ## How many sessions there are -/

theorem next_closeSession (bound : Keys) (id : String) (s : State) :
    (s.closeSession bound id).sessions.next = s.sessions.next := by
  rw [State.closeSession]
  split
  · rfl
  · exact SessionTable.next_remove ..

/-- The connection of a session is given once and for all. -/
theorem SessionStep.connection_eq [IdSupply] {closes : String → Prop} {s s' : State}
    (h : SessionStep closes s s') {n : Nat} (hn : n < s.sessions.next) :
    (s'.sessions.session? n).map Session.connection =
      (s.sessions.session? n).map Session.connection := by
  cases h with
  | same h => rw [h.sessions]
  | opened connection now hs _ =>
      rw [hs, SessionTable.session?_add, if_neg (Nat.ne_of_lt hn)]
  | closed id _ hs _ =>
      rw [hs]
      cases hfind : s.sessions.find? id with
      | none => rw [SessionTable.remove, hfind]
      | some m =>
          rw [SessionTable.session?_remove hfind]
          split
          · rw [Option.map_map]
            rfl
          · rfl

/-- No answer opens a session. -/
theorem next_resume (b : Bridge) (t : Task) (outcome : Outcome) (s : State) :
    (resume b t outcome s).1.sessions.next = s.sessions.next := by
  obtain ⟨bound, call, sequel⟩ := t
  cases call with
  | send n text =>
      cases outcome with
      | done => exact congrArg SessionTable.next (proceed_orderly ..).same.sessions
      | raised reason => exact next_closeSession ..
  | close n =>
      cases outcome with
      | done => exact congrArg SessionTable.next (proceed_orderly ..).same.sessions
      | raised reason => exact congrArg SessionTable.next (proceed_orderly ..).same.sessions

/-! ## A move, work by work -/

namespace World

variable [IdSupply] {b : Bridge} {w : World} {e : Event} {f g : Nat} {t : Task} {outcome : Outcome}
  {p : Progress} {c : Call}

theorem works_of_start (h : (w.step b (.start e)).works[f]? = some p) :
    w.works[f]? = some p ∨ f = w.works.length ∧ p = (b.start e w.state).2 := by
  have hworks : (w.works ++ [(b.start e w.state).2])[f]? = some p := h
  rw [List.getElem?_append] at hworks
  split at hworks
  · exact .inl hworks
  · next hge =>
      obtain ⟨hlt, hlast⟩ := List.getElem?_eq_some_iff.mp hworks
      rw [List.length_singleton] at hlt
      rw [List.getElem_singleton] at hlast
      exact .inr ⟨by omega, hlast.symm⟩

theorem called_of_start (h : .called f c ∈ w.news b (.start e)) :
    f = w.works.length ∧ ∃ t, (b.start e w.state).2 = .waiting t ∧ t.call = c := by
  have hnews : w.news b (.start e) =
      .began w.works.length e :: (b.start e w.state).2.entries w.works.length := rfl
  rw [hnews] at h
  rcases List.mem_cons.mp h with heq | hcalled
  · cases heq
  · obtain ⟨t, ht, heq⟩ := mem_entries.mp hcalled
    cases heq
    exact ⟨rfl, t, ht, rfl⟩

theorem works_of_answer (hf : w.works[f]? = some (.waiting t))
    (h : (w.step b (.answer f outcome)).works[g]? = some p) :
    w.works[g]? = some p ∨ g = f ∧ p = (b.resume t outcome w.state).2 := by
  rw [step, advance_answer hf] at h
  have hworks : (w.works.set f (b.resume t outcome w.state).2)[g]? = some p := h
  rw [List.getElem?_set] at hworks
  split at hworks
  · next heq =>
      split at hworks
      · exact .inr ⟨heq.symm, (Option.some.inj hworks).symm⟩
      · cases hworks
  · exact .inl hworks

theorem called_of_answer (hf : w.works[f]? = some (.waiting t))
    (h : .called g c ∈ w.news b (.answer f outcome)) :
    g = f ∧ ∃ t', (b.resume t outcome w.state).2 = .waiting t' ∧ t'.call = c := by
  rw [news, advance_answer hf] at h
  rcases List.mem_cons.mp h with heq | hcalled
  · cases heq
  · obtain ⟨t', ht', heq⟩ := mem_entries.mp hcalled
    cases heq
    exact ⟨rfl, t', ht', rfl⟩

/-- An answer is for a waiting work, or it changes nothing. -/
theorem answer_cases (b : Bridge) (w : World) (f : Nat) (outcome : Outcome) :
    (∃ t, w.works[f]? = some (.waiting t)) ∨
    (w.step b (.answer f outcome) = w ∧ w.news b (.answer f outcome) = []) := by
  rw [step, news, advance]
  split
  · next t ht => exact .inl ⟨t, ht⟩
  · exact .inr ⟨rfl, rfl⟩

/-- A viewer that comes is greeted at once. -/
theorem step_connect (hs : w.state.sessions.WellFormed) (b : Bridge) (connection : Nat) :
    w.news b (.start (.connect connection)) =
      [.began w.works.length (.connect connection),
        .called w.works.length (.send w.state.sessions.next
          (greeting b w.state.now w.state.sessions.next))] ∧
    (w.step b (.start (.connect connection))).state.sessions =
      w.state.sessions.add connection w.state.now := by
  have hstart : b.start (.connect connection) w.state = _ := connect_eq hs b connection
  rw [step, news, advance, hstart]
  exact ⟨rfl, rfl⟩

end World

/-! ## The invariant -/

/-- What every run of viewers keeps, `es` being its trace. -/
structure Conducted [IdSupply] (b : Bridge) (w : World) (es : List Entry) : Prop where
  sound : w.Sound
  works : ∀ f p, w.works[f]? = some p →
    ∃ e current, .began f e ∈ es ∧ OnCourse b current e p
  said : ∀ f n text, .called f (.send n text) ∈ es →
    ∃ e current, .began f e ∈ es ∧ Says b current e n text
  greeted : ∀ n < w.state.sessions.next, ∃ f now connection rest,
    framesTo n es = (f, greeting b now n) :: rest ∧
    .began f (.connect connection) ∈ es ∧
    (w.state.sessions.session? n).map Session.connection = some connection ∧
    ∀ frame ∈ rest, ¬ Message.IsOfType frame.2 .connectionAck
  unknown : ∀ n, w.state.sessions.next ≤ n → framesTo n es = []

/-- What a move adds to a run of viewers: each work stays on its course, each
new text is one that its work may say, and it is no greeting unless a viewer
has just come. -/
structure Adds [IdSupply] (b : Bridge) (w : World) (es : List Entry) (m : Move) : Prop where
  works : ∀ f p, (w.step b m).works[f]? = some p →
    ∃ e current, .began f e ∈ es ++ w.news b m ∧ OnCourse b current e p
  said : ∀ f n text, .called f (.send n text) ∈ w.news b m →
    ∃ e current, .began f e ∈ es ++ w.news b m ∧ Says b current e n text ∧
      ((∃ id bytes, e = .frame id bytes) ∨
        ∃ connection, m = .start (.connect connection) ∧ n = w.state.sessions.next)
  next : (w.step b m).state.sessions.next = w.state.sessions.next ∨
    ∃ connection, m = .start (.connect connection)

namespace Conducted

variable [IdSupply] {b : Bridge} {w : World} {es : List Entry} {m : Move}

theorem launch {s : State} (hs : s.sessions = {}) (b : Bridge) : Conducted b ⟨s, []⟩ [] where
  sound := (World.Reachable.launch (b := b) hs).sound
  works f p hp := by cases hp
  said f n text hmem := by cases hmem
  greeted n hn := by
    have hempty : (World.mk s []).state.sessions = {} := hs
    rw [hempty] at hn
    exact absurd hn (Nat.not_lt_zero n)
  unknown n _ := rfl

theorem adds_start (h : Conducted b w es) {e : Event} (he : Move.ofViewer (.start e)) :
    Adds b w es (.start e) := by
  have hcourse := start_onCourse h.sound.table he b
  have hbegan : .began w.works.length e ∈ es ++ w.news b (.start e) :=
    List.mem_append_right _ List.mem_cons_self
  refine ⟨?_, ?_, ?_⟩
  · intro f p hp
    rcases World.works_of_start hp with hold | ⟨rfl, rfl⟩
    · obtain ⟨e', current, hmem, hcourse'⟩ := h.works f p hold
      exact ⟨e', current, List.mem_append_left _ hmem, hcourse'⟩
    · exact ⟨e, _, hbegan, hcourse⟩
  · intro f n text hmem
    obtain ⟨rfl, t, ht, hcall⟩ := World.called_of_start hmem
    rw [ht] at hcourse
    refine ⟨e, _, hbegan, hcourse.may_say hcall, ?_⟩
    cases e with
    | openSession | sendTo | broadcast => cases he
    | disconnect id => cases ht
    | frame id bytes => exact .inl ⟨id, bytes, rfl⟩
    | connect connection =>
        rw [start, connect_eq h.sound.table] at ht
        cases ht
        cases hcall
        exact .inr ⟨connection, rfl, rfl⟩
  · cases e with
    | openSession | sendTo | broadcast => cases he
    | disconnect id => exact .inl (next_closeSession ..)
    | frame id bytes =>
        exact .inl (congrArg SessionTable.next (dispatch_orderly ..).same.sessions)
    | connect connection => exact .inr ⟨connection, rfl⟩

theorem adds_answer (h : Conducted b w es) {f : Nat} {t : Task}
    (hf : w.works[f]? = some (.waiting t)) (outcome : Outcome) :
    Adds b w es (.answer f outcome) := by
  obtain ⟨e, current, hbegan, hcourse⟩ := h.works f _ hf
  have hcourse' := resume_onCourse hcourse h.sound.table outcome
  have hbegan' : .began f e ∈ es ++ w.news b (.answer f outcome) :=
    List.mem_append_left _ hbegan
  refine ⟨?_, ?_, ?_⟩
  · intro g p hp
    rcases World.works_of_answer hf hp with hold | ⟨rfl, rfl⟩
    · obtain ⟨e', current', hmem, hcourse''⟩ := h.works g p hold
      exact ⟨e', current', List.mem_append_left _ hmem, hcourse''⟩
    · exact ⟨e, current, hbegan', hcourse'⟩
  · intro g n text hmem
    obtain ⟨rfl, t', ht', hcall⟩ := World.called_of_answer hf hmem
    rw [ht'] at hcourse'
    exact ⟨e, current, hbegan', hcourse'.may_say hcall, .inl (hcourse.frame_of_resume ht' hcall)⟩
  · rw [World.step, World.advance_answer hf]
    exact .inl (next_resume ..)

theorem adds_nothing (h : Conducted b w es) (hworks : (w.step b m).works = w.works)
    (hnext : (w.step b m).state.sessions.next = w.state.sessions.next)
    (hnews : w.news b m = []) : Adds b w es m := by
  refine ⟨?_, ?_, .inl hnext⟩
  · intro f p hp
    rw [hworks] at hp
    rw [hnews, List.append_nil]
    exact h.works f p hp
  · intro f n text hmem
    rw [hnews] at hmem
    cases hmem

theorem adds (h : Conducted b w es) (hm : m.ofViewer) : Adds b w es m := by
  cases m with
  | start e => exact h.adds_start hm
  | tick now => exact h.adds_nothing rfl rfl rfl
  | answer f outcome =>
      rcases World.answer_cases b w f outcome with ⟨t, ht⟩ | ⟨hstep, hnews⟩
      · exact h.adds_answer ht outcome
      · exact h.adds_nothing (by rw [hstep]) (by rw [hstep]) hnews

theorem step (h : Conducted b w es) (hm : m.ofViewer) :
    Conducted b (w.step b m) (es ++ w.news b m) := by
  have hadds := h.adds hm
  have hsound := h.sound.step b m
  refine ⟨hsound, hadds.works, ?_, ?_, ?_⟩
  · intro f n text hmem
    rcases List.mem_append.mp hmem with hold | hnew
    · obtain ⟨e, current, hbegan, hsaid⟩ := h.said f n text hold
      exact ⟨e, current, List.mem_append_left _ hbegan, hsaid⟩
    · obtain ⟨e, current, hbegan, hsaid, -⟩ := hadds.said f n text hnew
      exact ⟨e, current, hbegan, hsaid⟩
  · intro n hn
    by_cases hold : n < w.state.sessions.next
    · obtain ⟨f, now, connection, rest, hframes, hbegan, hconn, hrest⟩ := h.greeted n hold
      refine ⟨f, now, connection, rest ++ framesTo n (w.news b m), ?_,
        List.mem_append_left _ hbegan, ?_, ?_⟩
      · rw [framesTo_append, hframes, List.cons_append]
      · rw [(World.step_sessions b w m).connection_eq hold, hconn]
      · intro frame hframe
        rcases List.mem_append.mp hframe with hearlier | hnew
        · exact hrest frame hearlier
        · obtain ⟨e, current, -, hsaid, ⟨id, bytes, rfl⟩ | ⟨connection', -, rfl⟩⟩ :=
            hadds.said frame.1 n frame.2 (mem_framesTo.mp hnew)
          · exact hsaid.not_greeting
          · exact absurd hold (Nat.lt_irrefl _)
    · -- Only the session of a viewer that has just come is new.
      rcases hadds.next with hnext | ⟨connection, rfl⟩
      · exact absurd (hnext ▸ hn) hold
      · obtain ⟨hnews, hsessions⟩ := World.step_connect h.sound.table b connection
        rw [hsessions, SessionTable.next_add] at hn
        have hfresh := h.unknown _ (Nat.le_refl w.state.sessions.next)
        obtain rfl : n = w.state.sessions.next := by omega
        refine ⟨w.works.length, w.state.now, connection, [], ?_, ?_, ?_, ?_⟩
        · rw [framesTo_append, hfresh, hnews]
          exact List.filterMap_cons_some (if_pos rfl)
        · rw [hnews]
          exact List.mem_append_right _ List.mem_cons_self
        · rw [hsessions, SessionTable.session?_add, if_pos rfl]
          rfl
        · exact fun frame hframe => (nomatch hframe)
  · intro n hn
    have hle : w.state.sessions.next ≤ n :=
      Nat.le_trans (h.sound.run_extends b [m]).next_le hn
    rw [framesTo_append, h.unknown n hle, List.nil_append,
      List.eq_nil_iff_forall_not_mem]
    rintro ⟨f, text⟩ hframe
    rcases World.mem_news_called (mem_framesTo.mp hframe) with
      ⟨k, text', heq, ho⟩ | ⟨k, _, _, _, heq, -⟩
    · cases heq
      exact absurd (SessionTable.isOpen_lt ho) (Nat.not_lt.mpr hn)
    · cases heq

theorem run {ms : List Move} (h : Conducted b w es) (hms : ∀ m ∈ ms, m.ofViewer) :
    Conducted b (w.run b ms) (es ++ w.trace b ms) := by
  induction ms generalizing w es with
  | nil =>
      rw [World.trace, List.append_nil]
      exact h
  | cons m ms ih =>
      rw [List.forall_mem_cons] at hms
      rw [World.trace, ← List.append_assoc]
      exact ih (h.step hms.1) hms.2

end Conducted

/-! ## What viewers may rely on -/

end ScreenBridge.Bridge
