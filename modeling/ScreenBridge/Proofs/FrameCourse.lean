import ScreenBridge.Proofs.FrameAnswers
import ScreenBridge.Proofs.MessageText

/-!
# What a frame leads to

A frame goes through many hands: it is measured, read, checked, and what it
holds is checked again, translated and checked once more before anything is
said to anybody. This file says once what can come of that. `Dispatched` lists
the six ways a frame can go up to its first call — reading breaks off, it is
refused, it is a ping, it is of no concern, it brings a configuration, it
brings a screen — and `Refuses` the five places at which it can be refused.
Only a configuration changes the context before that call, and it changes the
stored configuration and nothing else.

After the first call the work goes on answer by answer. `Course` is where it
can be: about to tell its sender something, in the middle of a fan-out on the
sender's behalf, or over. It keeps what its texts are, so that later proofs
about texts never look at the bridge's code. An answer leads from one point of
the course to another (`resume_course`) and leaves the configuration alone
(`resume_appConfig`).
-/

namespace ScreenBridge.Bridge

open Log (Keys)
open Wire (Failure Message MessageType Unread parseEnvelope)

/-- A change of state that leaves the sessions, the current configuration and
the files alone. -/
structure SameContext (s s' : State) : Prop where
  sessions : s'.sessions = s.sessions
  appConfig : s'.appConfig = s.appConfig
  files : s'.files = s.files

theorem SameContext.refl (s : State) : SameContext s s := ⟨rfl, rfl, rfl⟩

theorem SameContext.trans {s s' s'' : State} (h : SameContext s s')
    (h' : SameContext s' s'') : SameContext s s'' :=
  ⟨h'.sessions.trans h.sessions, h'.appConfig.trans h.appConfig,
    h'.files.trans h.files⟩

/-- A change of state that only counts and notes. -/
structure Noted (s s' : State) : Prop extends SameContext s s' where
  clock : s'.clock = s.clock

section
variable {s s₁ : State}

theorem Noted.refl (s : State) : Noted s s := ⟨.refl s, rfl⟩

theorem Noted.note (h : Noted s s₁) (bound : Keys) (notice : Log.Notice) :
    Noted s (s₁.note bound notice) :=
  ⟨⟨h.sessions, h.appConfig, h.files⟩, h.clock⟩

theorem Noted.noteAll (h : Noted s s₁) (bound : Keys) (notices : List Log.Notice) :
    Noted s (s₁.noteAll bound notices) :=
  ⟨⟨h.sessions, h.appConfig, h.files⟩, h.clock⟩

theorem Noted.count (h : Noted s s₁) (change : Metrics → Metrics) :
    Noted s (s₁.count change) :=
  ⟨⟨h.sessions, h.appConfig, h.files⟩, h.clock⟩

theorem Noted.now (h : Noted s s₁) : s₁.now = s.now :=
  congrArg Timestamp.text h.clock

end

/-- The bridge with another generator of sources, or with none. -/
def writing (b : Bridge) (g : Option Source.Generator) : Bridge :=
  { b with generator := g }

theorem writing_generator (b : Bridge) : b.writing b.generator = b := rfl

/-! ## Up to the first call -/

/-- Why a frame is refused that comes in at a time: it is no envelope, its
configuration or its document is not valid, the translator fails, or what it
makes does not pass the check. -/
inductive Refuses (b : Bridge) (now : String) (frame : List UInt8) : Failure → Prop where
  | envelope {failure : Failure}
      (hparse : parseEnvelope b.settings.maxMessageSize b.settings.maxJsonDepth frame =
        .error (.refused failure)) : Refuses b now frame failure
  | config {e : Wire.Envelope} {issues : List Schema.Issue}
      (hparse : parseEnvelope b.settings.maxMessageSize b.settings.maxJsonDepth frame = .ok e)
      (htype : MessageType.ofWord? e.type = some .appConfig)
      (hinvalid : AppConfig.ofJson e.payload = .invalid issues) :
      Refuses b now frame (.badConfig issues)
  | document {e : Wire.Envelope} {issues : List Schema.Issue}
      (hparse : parseEnvelope b.settings.maxMessageSize b.settings.maxJsonDepth frame = .ok e)
      (htype : MessageType.ofWord? e.type = some .uiUpdate)
      (hinvalid : Ui.Document.ofJson now e.payload = .invalid issues) :
      Refuses b now frame (.badDocument issues)
  | translator {e : Wire.Envelope} {d : Ui.Document} {reason : String}
      (hparse : parseEnvelope b.settings.maxMessageSize b.settings.maxJsonDepth frame = .ok e)
      (htype : MessageType.ofWord? e.type = some .uiUpdate)
      (hvalid : Ui.Document.ofJson now e.payload = .valid d)
      (hfails : (b.translator d).2 = .error reason) :
      Refuses b now frame (.translatorFailed reason)
  | components {e : Wire.Envelope} {d : Ui.Document} {t : Translation}
      {cause : Component.CheckError}
      (hparse : parseEnvelope b.settings.maxMessageSize b.settings.maxJsonDepth frame = .ok e)
      (htype : MessageType.ofWord? e.type = some .uiUpdate)
      (hvalid : Ui.Document.ofJson now e.payload = .valid d)
      (htranslated : (b.translator d).2 = .ok t)
      (hcheck : Component.check t.component.toJson
        t.component.toJson.encode.utf8ByteSize = .error cause) :
      Refuses b now frame (.badTranslation cause)

/-- What comes, up to the first call, of a frame on the open session `n`. -/
inductive Dispatched (b : Bridge) (id : String) (n : Nat) (frame : List UInt8) (s : State) :
    State × Progress → Prop where
  | unread {cause : Json.Breakdown}
      (hunread : Unread b.settings.maxMessageSize frame cause) :
      Dispatched b id n frame s (s, .finished (.brokeOff cause))
  | refused {failure : Failure} {s' : State} (bound : Keys)
      (hrefuses : Refuses b s.now frame failure) (hs : SameContext s s') :
      Dispatched b id n frame s
        (s', .waiting ⟨bound, .send n (Message.ofFailure s.now failure).text, .rest⟩)
  | pong {s' : State} (bound : Keys) (hs : SameContext s s') :
      Dispatched b id n frame s
        (s', .waiting ⟨bound, .send n (Message.pong s.now).text, .rest⟩)
  | ignored {s' : State} (hs : SameContext s s') :
      Dispatched b id n frame s (s', .finished .handled)
  | config {config : AppConfig} {s' : State} (bound : Keys)
      (hs : SameContext { s with appConfig := some config } s') :
      Dispatched b id n frame s
        (startFanOut b bound (Message.appConfig s.now config (some id)).text
          (.config config.title) s')
  | screen {d : Ui.Document} {t : Translation} {s' : State} (bound : Keys)
      (hs : SameContext s s')
      (hany : ∀ g, dispatch (b.writing g) id frame s =
        startFanOut (b.writing g) bound
          (Message.componentSpec s.now d t.component.toJson s.appConfig (some id)).text
          (.screen id d t.unmapped) s') :
      Dispatched b id n frame s
        (startFanOut b bound
          (Message.componentSpec s.now d t.component.toJson s.appConfig (some id)).text
          (.screen id d t.unmapped) s')

section
variable {b : Bridge} {id : String} {n : Nat} {frame : List UInt8} {s s₁ : State}
  {e : Wire.Envelope}

theorem sendTo_open (hopen : s.sessions.openNumber? id = some n) (bound : Keys)
    (text : String) (sequel : Sequel) (otherwise : Result) :
    sendTo bound id text sequel otherwise s =
      (s, .waiting ⟨bound, .send n text, sequel⟩) := by
  rw [sendTo, hopen]

theorem report_open (hs : Noted s s₁) (hopen : s.sessions.openNumber? id = some n)
    (bound : Keys) (failure : Failure) :
    ∃ s', SameContext s s' ∧ report bound id failure s₁ =
      (s', .waiting ⟨bound, .send n (Message.ofFailure s.now failure).text, .rest⟩) := by
  have hs' := hs.count (·.recordError failure.code.word)
  refine ⟨_, hs'.toSameContext, ?_⟩
  rw [← hs'.sessions] at hopen
  rw [← hs'.now]
  exact sendTo_open hopen ..

theorem giveUp_open (hs : Noted s s₁) (hopen : s.sessions.openNumber? id = some n)
    (bound : Keys) (failure : Failure) :
    ∃ s', SameContext s s' ∧ giveUp bound id failure s₁ =
      (s', .waiting ⟨bound, .send n (Message.ofFailure s.now failure).text, .rest⟩) :=
  report_open (hs.note bound _) hopen bound failure

theorem dispatch_parsed (hopen : s.sessions.openNumber? id = some n)
    (hparse : parseEnvelope b.settings.maxMessageSize b.settings.maxJsonDepth frame = .ok e) :
    dispatch b id frame s = handle b id e s := by
  simp only [dispatch, hopen, hparse]

/-- The state once a message is counted and noted. -/
def received (id : String) (e : Wire.Envelope) (s : State) : State :=
  (s.count (·.recordMessage e.type)).note (messageKeys id e.type) .messageReceived

theorem noted_received (id : String) (e : Wire.Envelope) (s : State) :
    Noted s (received id e s) :=
  ((Noted.refl s).count _).note _ _

theorem handle_config (htype : MessageType.ofWord? e.type = some .appConfig) (b : Bridge)
    (id : String) (s : State) :
    handle b id e s = handleConfig b (messageKeys id e.type) id e (received id e s) := by
  simp only [handle, htype]
  rfl

theorem handle_screen (htype : MessageType.ofWord? e.type = some .uiUpdate) (b : Bridge)
    (id : String) (s : State) :
    handle b id e s = handleScreen b (messageKeys id e.type) id e (received id e s) := by
  simp only [handle, htype]
  rfl

theorem handleScreen_translated {d : Ui.Document} {t : Translation} (hs : Noted s s₁)
    (hvalid : Ui.Document.ofJson s.now e.payload = .valid d)
    (htranslated : (b.translator d).2 = .ok t) (bound : Keys) (id : String) :
    handleScreen b bound id e s₁ =
      shareScreen b bound id d t (s₁.noteAll bound (b.translator d).1) := by
  rw [← hs.now] at hvalid
  unfold handleScreen
  rw [hvalid]
  dsimp only
  rw [htranslated]

/-- A refused frame is answered with its failure, and that is all that comes of it. -/
theorem dispatch_of_refuses {failure : Failure}
    (hopen : s.sessions.openNumber? id = some n) (h : Refuses b s.now frame failure) :
    ∃ bound s', SameContext s s' ∧ dispatch b id frame s =
      (s', .waiting ⟨bound, .send n (Message.ofFailure s.now failure).text, .rest⟩) := by
  cases h with
  | envelope hparse =>
      obtain ⟨s', hs', heq⟩ := report_open
        ((Noted.refl s).note [] (.parseFailed id failure.message)) hopen [] failure
      refine ⟨[], s', hs', ?_⟩
      rw [← heq]
      unfold dispatch
      rw [hopen]
      dsimp only
      rw [hparse]
  | @config e issues hparse htype hinvalid =>
      have hnoted := noted_received id e s
      obtain ⟨s', hs', heq⟩ := giveUp_open hnoted hopen (messageKeys id e.type) (.badConfig issues)
      refine ⟨messageKeys id e.type, s', hs', ?_⟩
      rw [dispatch_parsed hopen hparse, handle_config htype, ← heq]
      unfold handleConfig
      rw [hinvalid]
  | @document e issues hparse htype hinvalid =>
      have hnoted := noted_received id e s
      obtain ⟨s', hs', heq⟩ :=
        giveUp_open hnoted hopen (messageKeys id e.type) (.badDocument issues)
      refine ⟨messageKeys id e.type, s', hs', ?_⟩
      rw [dispatch_parsed hopen hparse, handle_screen htype, ← heq]
      rw [← hnoted.now] at hinvalid
      unfold handleScreen
      rw [hinvalid]
  | @translator e d reason hparse htype hvalid hfails =>
      have hnoted := noted_received id e s
      have hcrashed := (hnoted.noteAll (messageKeys id e.type) (b.translator d).1).note
        (messageKeys id e.type) (.translationCrashed d.screenId reason)
      obtain ⟨s', hs', heq⟩ :=
        giveUp_open hcrashed hopen (messageKeys id e.type) (.translatorFailed reason)
      refine ⟨messageKeys id e.type, s', hs', ?_⟩
      rw [dispatch_parsed hopen hparse, handle_screen htype, ← heq]
      rw [← hnoted.now] at hvalid
      unfold handleScreen
      rw [hvalid]
      dsimp only
      rw [hfails]
  | @components e d t cause hparse htype hvalid htranslated hcheck =>
      have hnoted := noted_received id e s
      obtain ⟨s', hs', heq⟩ := giveUp_open
        (hnoted.noteAll (messageKeys id e.type) (b.translator d).1) hopen
        (messageKeys id e.type) (.badTranslation cause)
      refine ⟨messageKeys id e.type, s', hs', ?_⟩
      rw [dispatch_parsed hopen hparse, handle_screen htype,
        handleScreen_translated hnoted hvalid htranslated, ← heq]
      unfold shareScreen
      dsimp only
      rw [hcheck]

theorem dispatched_of_refuses {failure : Failure}
    (hopen : s.sessions.openNumber? id = some n) (h : Refuses b s.now frame failure) :
    Dispatched b id n frame s (dispatch b id frame s) := by
  obtain ⟨bound, s', hs', heq⟩ := dispatch_of_refuses hopen h
  rw [heq]
  exact .refused bound h hs'

theorem dispatch_config_cases (hopen : s.sessions.openNumber? id = some n)
    (hparse : parseEnvelope b.settings.maxMessageSize b.settings.maxJsonDepth frame = .ok e)
    (htype : MessageType.ofWord? e.type = some .appConfig) :
    Dispatched b id n frame s (dispatch b id frame s) := by
  cases hconfig : AppConfig.ofJson e.payload with
  | invalid issues => exact dispatched_of_refuses hopen (.config hparse htype hconfig)
  | valid config =>
      have hnoted := noted_received id e s
      rw [dispatch_parsed hopen hparse, handle_config htype]
      unfold handleConfig
      rw [hconfig]
      dsimp only
      rw [hnoted.now]
      exact .config _ ⟨hnoted.sessions, rfl, hnoted.files⟩

/-- A screen that passes every check is shared, whatever is written afterwards. -/
theorem dispatch_translated {d : Ui.Document} {t : Translation} {u : Unit}
    (hopen : s.sessions.openNumber? id = some n)
    (hparse : parseEnvelope b.settings.maxMessageSize b.settings.maxJsonDepth frame = .ok e)
    (htype : MessageType.ofWord? e.type = some .uiUpdate)
    (hvalid : Ui.Document.ofJson s.now e.payload = .valid d)
    (htranslated : (b.translator d).2 = .ok t)
    (hcheck : Component.check t.component.toJson
      t.component.toJson.encode.utf8ByteSize = .ok u) :
    ∃ bound s', SameContext s s' ∧ ∀ g, dispatch (b.writing g) id frame s =
      startFanOut (b.writing g) bound
        (Message.componentSpec s.now d t.component.toJson s.appConfig (some id)).text
        (.screen id d t.unmapped) s' := by
  have hnoted := (noted_received id e s).noteAll (messageKeys id e.type) (b.translator d).1
  have hcounted := hnoted.count (·.recordTranslation t.unmapped)
  refine ⟨messageKeys id e.type, _, hcounted.toSameContext, fun g => ?_⟩
  have hparse' : parseEnvelope (b.writing g).settings.maxMessageSize
      (b.writing g).settings.maxJsonDepth frame = .ok e := hparse
  have htranslated' : ((b.writing g).translator d).2 = .ok t := htranslated
  rw [dispatch_parsed hopen hparse', handle_screen htype,
    handleScreen_translated (noted_received id e s) hvalid htranslated']
  unfold shareScreen
  dsimp only
  rw [hcheck]
  dsimp only
  rw [← hnoted.now, ← hnoted.appConfig]
  rfl

theorem dispatch_screen_cases (hopen : s.sessions.openNumber? id = some n)
    (hparse : parseEnvelope b.settings.maxMessageSize b.settings.maxJsonDepth frame = .ok e)
    (htype : MessageType.ofWord? e.type = some .uiUpdate) :
    Dispatched b id n frame s (dispatch b id frame s) := by
  cases hdoc : Ui.Document.ofJson s.now e.payload with
  | invalid issues => exact dispatched_of_refuses hopen (.document hparse htype hdoc)
  | valid d =>
      cases htranslated : (b.translator d).2 with
      | error reason =>
          exact dispatched_of_refuses hopen (.translator hparse htype hdoc htranslated)
      | ok t =>
          cases hcheck : Component.check t.component.toJson
              t.component.toJson.encode.utf8ByteSize with
          | error cause =>
              exact dispatched_of_refuses hopen
                (.components hparse htype hdoc htranslated hcheck)
          | ok u =>
              obtain ⟨bound, s', hs', hany⟩ :=
                dispatch_translated hopen hparse htype hdoc htranslated hcheck
              have hself := hany b.generator
              rw [writing_generator] at hself
              rw [hself]
              exact .screen bound hs' hany

theorem dispatch_cases (hopen : s.sessions.openNumber? id = some n) (b : Bridge)
    (frame : List UInt8) : Dispatched b id n frame s (dispatch b id frame s) := by
  cases hparse : parseEnvelope b.settings.maxMessageSize b.settings.maxJsonDepth frame with
  | error fault =>
      cases fault with
      | refused failure => exact dispatched_of_refuses hopen (.envelope hparse)
      | brokeOff cause =>
          have hunread := Wire.parseEnvelope_brokeOff_iff.mp hparse
          rw [dispatch_brokeOff hopen hunread]
          exact .unread hunread
  | ok e =>
      cases htype : MessageType.ofWord? e.type with
      | none =>
          rw [dispatch_parsed hopen hparse]
          simp only [handle, htype]
          exact .ignored ⟨rfl, rfl, rfl⟩
      | some type =>
          cases type with
          | appConfig => exact dispatch_config_cases hopen hparse htype
          | uiUpdate => exact dispatch_screen_cases hopen hparse htype
          | ping =>
              rw [dispatch_parsed hopen hparse]
              simp only [handle, htype]
              rw [sendTo_open (n := n) ?_]
              · exact .pong _ ⟨rfl, rfl, rfl⟩
              · exact hopen
          | stateDelta | event | componentSpec | connectionAck | error | pong =>
              rw [dispatch_parsed hopen hparse]
              simp only [handle, htype]
              exact .ignored ⟨rfl, rfl, rfl⟩

end

/-! ## The configuration stays -/

section
variable {b : Bridge} {s : State}

theorem sendTo_appConfig (bound : Keys) (id text : String) (sequel : Sequel)
    (otherwise : Result) (s : State) :
    (sendTo bound id text sequel otherwise s).1.appConfig = s.appConfig := by
  rw [sendTo]
  split <;> rfl

theorem report_appConfig (bound : Keys) (id : String) (failure : Failure) (s : State) :
    (report bound id failure s).1.appConfig = s.appConfig :=
  sendTo_appConfig ..

theorem giveUp_appConfig (bound : Keys) (id : String) (failure : Failure) (s : State) :
    (giveUp bound id failure s).1.appConfig = s.appConfig :=
  report_appConfig ..

theorem writeSources_appConfig (b : Bridge) (bound : Keys) (sender : String)
    (d : Ui.Document) (s : State) :
    (writeSources b bound sender d s).1.appConfig = s.appConfig := by
  unfold writeSources
  split
  · rfl
  · next g _ =>
    generalize Source.Generator.run (g.generate d) s.files = r
    obtain ⟨outcome, notices, files⟩ := r
    dsimp only
    split
    · rfl
    · exact giveUp_appConfig ..
    · exact report_appConfig ..

theorem concludeFanOut_appConfig (b : Bridge) (bound : Keys) (delivered : Nat)
    (occasion : Occasion) (s : State) :
    (concludeFanOut b bound delivered occasion s).1.appConfig = s.appConfig := by
  cases occasion with
  | message | config => rfl
  | screen sender d unmapped =>
      rw [concludeFanOut]
      exact writeSources_appConfig ..

theorem fanOut_appConfig (b : Bridge) (bound : Keys) (text : String) (delivered : Nat)
    (occasion : Occasion) (remaining : List Nat) (s : State) :
    (fanOut b bound text delivered occasion remaining s).1.appConfig = s.appConfig := by
  rcases fanOut_cases b bound text delivered occasion remaining s with
    ⟨_, _, _, -, -, -, heq⟩ | ⟨-, heq⟩
  · rw [heq]
  · rw [heq]
    exact concludeFanOut_appConfig ..

theorem proceed_appConfig (b : Bridge) (bound : Keys) (delivered : Bool)
    (sequel : Sequel) (s : State) :
    (proceed b bound delivered sequel s).1.appConfig = s.appConfig := by
  cases sequel with
  | tell | greet | rest => rfl
  | fanOut => exact fanOut_appConfig ..

theorem closeSession_appConfig (bound : Keys) (id : String) (s : State) :
    (s.closeSession bound id).appConfig = s.appConfig := by
  rw [State.closeSession]
  split <;> rfl

/-- No answer changes the configuration. -/
theorem resume_appConfig (b : Bridge) (t : Task) (outcome : Outcome) (s : State) :
    (resume b t outcome s).1.appConfig = s.appConfig := by
  obtain ⟨bound, call, sequel⟩ := t
  cases call with
  | send n text =>
      cases outcome with
      | done => exact proceed_appConfig ..
      | raised reason => exact closeSession_appConfig ..
  | close n =>
      cases outcome with
      | done => exact proceed_appConfig ..
      | raised reason => exact proceed_appConfig ..

end

/-! ## From call to call -/

/-- A text for the sender of a frame alone. -/
def Replies (text : String) : Prop :=
  Message.IsOfType text .pong ∨ Message.IsOfType text .error

/-- The text that is shared on an occasion on behalf of the session `id` while
`current` is the configuration. -/
inductive Shares (id : String) (current : Option AppConfig) : String → Occasion → Prop where
  | config (now : String) (config : AppConfig) (hid : id ≠ "")
      (hcurrent : current = some config) :
      Shares id current (Message.appConfig now config (some id)).text (.config config.title)
  | screen (now : String) (d : Ui.Document) (components : Json) (unmapped : List String)
      (hid : id ≠ "") :
      Shares id current (Message.componentSpec now d components current (some id)).text
        (.screen id d unmapped)

/-- Where the work on a frame of the session `id` can be, if `current` was the
configuration when its fan-out began. -/
inductive Course [IdSupply] (id : String) (current : Option AppConfig) : Progress → Prop where
  | replying (bound : Keys) {n : Nat} {text : String} (hid : id = sessionName n)
      (hreplies : Replies text) :
      Course id current (.waiting ⟨bound, .send n text, .rest⟩)
  | closing (bound : Keys) (n : Nat) :
      Course id current (.waiting ⟨bound, .close n, .rest⟩)
  | sharing (bound : Keys) (n : Nat) (remaining : List Nat) (delivered : Nat) {text : String}
      {occasion : Occasion} (hshares : Shares id current text occasion) :
      Course id current
        (.waiting ⟨bound, .send n text, .fanOut text remaining delivered occasion⟩)
  | dropping (bound : Keys) (n : Nat) (remaining : List Nat) (delivered : Nat) {text : String}
      {occasion : Occasion} (hshares : Shares id current text occasion) :
      Course id current
        (.waiting ⟨bound, .close n, .fanOut text remaining delivered occasion⟩)
  | ended (r : Result) : Course id current (.finished r)

section
variable {id : String} {current : Option AppConfig} {s : State}

theorem replies_ofFailure (now : String) (failure : Failure) :
    Replies (Message.ofFailure now failure).text :=
  .inr (Message.isOfType_text _)

variable [IdSupply]

/-- What is handed over on the way is a reply to the session of the frame or
the text that is shared. -/
theorem Course.sends {t : Task} {n : Nat} {text : String}
    (h : Course id current (.waiting t)) (hcall : t.call = .send n text) :
    (id = sessionName n ∧ Replies text) ∨ ∃ occasion, Shares id current text occasion := by
  cases h with
  | replying bound hid hreplies =>
      cases hcall
      exact .inl ⟨hid, hreplies⟩
  | closing => cases hcall
  | sharing bound n remaining delivered hshares =>
      cases hcall
      exact .inr ⟨_, hshares⟩
  | dropping => cases hcall

theorem report_course (hs : s.sessions.WellFormed) (current : Option AppConfig)
    (bound : Keys) (id : String) (failure : Failure) :
    Course id current (report bound id failure s).2 := by
  rw [report, sendTo]
  split
  · next n hn =>
      have hopen : s.sessions.openNumber? id = some n := hn
      rw [hs.openNumber?_eq] at hopen
      exact .replying bound (hs.find?_eq_some.mp hopen).1 (replies_ofFailure ..)
  · exact .ended _

theorem writeSources_course (hs : s.sessions.WellFormed) (current : Option AppConfig)
    (b : Bridge) (bound : Keys) (id : String) (d : Ui.Document) :
    Course id current (writeSources b bound id d s).2 := by
  unfold writeSources
  split
  · exact .ended _
  · next g _ =>
    generalize Source.Generator.run (g.generate d) s.files = r
    obtain ⟨outcome, notices, files⟩ := r
    dsimp only
    split
    · exact .ended _
    · refine report_course ?_ ..
      exact hs
    · refine report_course ?_ ..
      exact hs

theorem fanOut_course {text : String} {occasion : Occasion}
    (hshares : Shares id current text occasion) (hs : s.sessions.WellFormed) (b : Bridge)
    (bound : Keys) (delivered : Nat) (remaining : List Nat) :
    Course id current (fanOut b bound text delivered occasion remaining s).2 := by
  rcases fanOut_cases b bound text delivered occasion remaining s with
    ⟨_, n, rest, -, -, -, heq⟩ | ⟨-, heq⟩
  · rw [heq]
    exact .sharing bound n rest delivered hshares
  · rw [heq]
    cases hshares with
    | config => exact .ended _
    | screen now d components unmapped =>
        rw [concludeFanOut]
        refine writeSources_course ?_ ..
        exact hs

theorem resume_course {t : Task} (h : Course id current (.waiting t))
    (hs : s.sessions.WellFormed) (b : Bridge) (outcome : Outcome) :
    Course id current (resume b t outcome s).2 := by
  cases h with
  | replying bound =>
      cases outcome with
      | done => exact .ended _
      | raised reason => exact .closing bound _
  | closing =>
      cases outcome with
      | done => exact .ended _
      | raised reason => exact .ended _
  | sharing bound n remaining delivered hshares =>
      cases outcome with
      | done => exact fanOut_course hshares hs ..
      | raised reason => exact .dropping bound n remaining delivered hshares
  | dropping bound n remaining delivered hshares =>
      cases outcome with
      | done => exact fanOut_course hshares hs ..
      | raised reason =>
          refine fanOut_course hshares ?_ ..
          exact hs

/-- The work on a frame begins on its course, under the configuration that it
leaves behind. -/
theorem dispatch_course (hs : s.sessions.WellFormed) (b : Bridge) (id : String)
    (frame : List UInt8) :
    Course id (dispatch b id frame s).1.appConfig (dispatch b id frame s).2 := by
  cases hopen : s.sessions.openNumber? id with
  | none =>
      unfold dispatch
      rw [hopen]
      exact .ended _
  | some n =>
      have hid : id = sessionName n := by
        rw [hs.openNumber?_eq] at hopen
        exact (hs.find?_eq_some.mp hopen).1
      have hne : id ≠ "" := hid ▸ sessionName_ne_empty n
      have hcases := dispatch_cases hopen b frame
      generalize dispatch b id frame s = sp at hcases
      cases hcases with
      | unread => exact .ended _
      | refused bound =>
          exact .replying bound hid (replies_ofFailure ..)
      | pong bound =>
          exact .replying bound hid (.inl (Message.isOfType_text _))
      | ignored => exact .ended _
      | config bound hctx =>
          rw [startFanOut, fanOut_appConfig]
          refine fanOut_course (.config _ _ hne hctx.appConfig) ?_ ..
          rw [hctx.sessions]
          exact hs
      | screen bound hctx =>
          rw [startFanOut, fanOut_appConfig, hctx.appConfig]
          refine fanOut_course (.screen _ _ _ _ hne) ?_ ..
          rw [hctx.sessions]
          exact hs

end

end ScreenBridge.Bridge
