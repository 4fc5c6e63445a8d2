import ScreenBridge.CountedIds
import ScreenBridge.Proofs.Conduct
import ScreenBridge.Proofs.Failures

/-!
# Which configuration a screen comes with

Every screen that is shared brings the configuration of the app along. When
frames are handled one after the other it is the one that was shared last, by
whomever, and nothing else: no screen brings a configuration that was refused,
or a mixture of an old one and a new one.

The argument has two sides. What the bridge has stored is what was handed out
last (`LastConfig`), since the move that replaces it is the one that hands the
new one to the first open session — the sender at the latest — and no other
move hands out a different one. And what a screen brings is what is stored at
that moment, since the work that shares it is the only one that handles a
frame. Both sides are read off `configStep`, which says what one move does.
-/

namespace ScreenBridge.Bridge

open Wire (Message)

/-! ## The configuration that was shared last -/

/-- No text among these lines is that of a configuration. -/
def NoConfig (es : List Entry) : Prop :=
  ∀ f n text, .called f (.send n text) ∈ es → ¬ Message.IsOfType text .appConfig

/-- The configuration that was handed to anybody last, none if there was none. -/
inductive LastConfig (es : List Entry) : Option AppConfig → Prop where
  | never (hno : NoConfig es) : LastConfig es none
  | last {es₁ es₂ : List Entry} (f n : Nat) (now id : String) (config : AppConfig)
      (hes : es = es₁ ++
        .called f (.send n (Message.appConfig now config (some id)).text) :: es₂)
      (hlater : NoConfig es₂) : LastConfig es (some config)

/-- The data of the configuration message that was handed to anybody last, null
if there was none. -/
inductive LastShared (es : List Entry) : Json → Prop where
  | never (hno : NoConfig es) : LastShared es .null
  | last {es₁ es₂ : List Entry} (f n : Nat) (m : Message) (data : Keyed Json)
      (hes : es = es₁ ++ .called f (.send n m.text) :: es₂) (htype : m.type = .appConfig)
      (hdata : m.data = some data) (hlater : NoConfig es₂) : LastShared es (.obj data)

section
variable {es es' : List Entry} {current : Option AppConfig}

theorem NoConfig.append (h : NoConfig es) (h' : NoConfig es') : NoConfig (es ++ es') := by
  intro f n text hmem
  exact (List.mem_append.mp hmem).elim (h f n text) (h' f n text)

theorem noConfig_of_not_called (h : ∀ f c, .called f c ∉ es) : NoConfig es :=
  fun f _ _ hmem => absurd hmem (h f _)

theorem NoConfig.nil : NoConfig [] :=
  noConfig_of_not_called fun _ _ => List.not_mem_nil

theorem LastConfig.append (h : LastConfig es current) (h' : NoConfig es') :
    LastConfig (es ++ es') current := by
  cases h with
  | never hno => exact .never (hno.append h')
  | last f n now id config hes hlater =>
      subst hes
      exact .last f n now id config (List.append_assoc ..) (hlater.append h')

theorem LastConfig.shared (h : LastConfig es current) :
    LastShared es ((current.map AppConfig.toJson).getD .null) := by
  cases h with
  | never hno => exact .never hno
  | last f n now id config hes hlater => exact .last f n _ _ hes rfl rfl hlater

end

/-! ## One move -/

def Move.isFrame : Move → Bool
  | .start (.frame _ _) => true
  | _ => false

/-- What a move does with the configuration: it hands out none and keeps the
one that is stored, or it hands out the one that is stored after it. -/
inductive ConfigStep (es : List Entry) (before after : Option AppConfig) : Prop where
  | keeps (hno : NoConfig es) (hsame : after = before)
  | shares {pre : List Entry} (f n : Nat) (now id : String) (config : AppConfig)
      (hpre : ∀ g c, .called g c ∉ pre)
      (hes : es = pre ++ [.called f (.send n (Message.appConfig now config (some id)).text)])
      (hafter : after = some config)

theorem LastConfig.step {es news : List Entry} {before after : Option AppConfig}
    (h : LastConfig es before) (hstep : ConfigStep news before after) :
    LastConfig (es ++ news) after := by
  cases hstep with
  | keeps hno hsame => exact hsame ▸ h.append hno
  | @shares pre f n now id config _ hes hafter =>
      subst hes
      subst hafter
      refine .last f n now id config (List.append_assoc ..).symm ?_
      exact fun g k text hmem => (nomatch hmem)

section
variable {b : Bridge} {s : State} {e : Event} {current : Option AppConfig} {p : Progress}

/-- The lines of a work that has just run tell of at most one text. -/
theorem noConfig_entries (f : Nat)
    (h : ∀ t n text, p = .waiting t → t.call = .send n text →
      ¬ Message.IsOfType text .appConfig) : NoConfig (p.entries f) := by
  intro g n text hmem
  obtain ⟨t, ht, heq⟩ := World.mem_entries.mp hmem
  exact h t n text ht (Entry.called.inj heq).2.symm

variable [IdSupply]

/-- A work on its course hands out no configuration, or the one that is
current. -/
theorem OnCourse.configStep (h : OnCourse b current e p) {line : Entry}
    (hline : ∀ g c, line ≠ .called g c) {before : Option AppConfig} (f : Nat)
    (hkeeps : NoConfig (p.entries f) → current = before) :
    ConfigStep (line :: p.entries f) before current := by
  have hquiet : NoConfig [line] := by
    refine noConfig_of_not_called fun g c hmem => ?_
    exact hline g c (List.mem_singleton.mp hmem).symm
  by_cases hshares : ∃ t n text, p = .waiting t ∧ t.call = .send n text ∧
      Message.IsOfType text .appConfig
  · obtain ⟨t, n, text, rfl, hcall, htype⟩ := hshares
    obtain ⟨now, id, config, rfl, hcurrent⟩ := (h.may_say hcall).of_config htype
    have hpre : ∀ g c, .called g c ∉ [line] :=
      fun g c hmem => hline g c (List.mem_singleton.mp hmem).symm
    refine .shares f n now id config hpre ?_ hcurrent
    rw [Progress.entries, hcall]
    rfl
  · have hno : NoConfig (p.entries f) :=
      noConfig_entries f fun t n text hp hcall htype =>
        hshares ⟨t, n, text, hp, hcall, htype⟩
    exact .keeps (hquiet.append hno) (hkeeps hno)

/-- A fan-out begins with handing its text to somebody if there is anybody. -/
theorem startFanOut_hands (hs : s.sessions.WellFormed) {id : String} {n : Nat}
    (hopen : s.sessions.openNumber? id = some n) (b : Bridge) (bound : Log.Keys)
    (text : String) (occasion : Occasion) :
    ∃ k rest, startFanOut b bound text occasion s =
      (s, .waiting ⟨bound, .send k text, .fanOut text rest 0 occasion⟩) := by
  have ho := SessionTable.isOpen_of_openNumber? hopen
  rcases fanOut_cases b bound text 0 occasion s.sessions.openNumbers s with
    ⟨_, k, rest, -, -, -, heq⟩ | ⟨hclosed, -⟩
  · exact ⟨k, rest, heq⟩
  · exact absurd ho (hclosed n (hs.mem_openNumbers.mpr ho))

/-- A screen that passes every check is handed to somebody at once. -/
theorem dispatch_hands_screen (hs : s.sessions.WellFormed) {id : String} {n : Nat}
    (hopen : s.sessions.openNumber? id = some n) {frame : List UInt8} {envelope : Wire.Envelope}
    (hparse : Wire.parseEnvelope b.settings.maxMessageSize b.settings.maxJsonDepth frame =
      .ok envelope)
    (htype : Wire.MessageType.ofWord? envelope.type = some .uiUpdate) {d : Ui.Document}
    {t : Translation} (hvalid : Ui.Document.ofJson s.now envelope.payload = .valid d)
    (htranslated : (b.translator d).2 = .ok t)
    (hcheck : Component.check t.component.toJson
      t.component.toJson.encode.utf8ByteSize = .ok ()) :
    ∃ t k text, (dispatch b id frame s).2 = .waiting t ∧ t.call = .send k text ∧
      Message.IsOfType text .componentSpec := by
  obtain ⟨bound, s', hctx, hany⟩ :=
    dispatch_translated hopen hparse htype hvalid htranslated hcheck
  have hself := hany b.generator
  rw [writing_generator] at hself
  rw [← hctx.sessions] at hs hopen
  obtain ⟨k, rest, heq⟩ := startFanOut_hands hs hopen b bound
    (Message.componentSpec s.now d t.component.toJson s.appConfig (some id)).text
    (.screen id d t.unmapped)
  exact ⟨_, k, _, congrArg Prod.snd (hself.trans heq), rfl, Message.isOfType_text _⟩

/-- A frame that replaces the configuration hands the new one out at once. -/
theorem dispatch_keeps (hs : s.sessions.WellFormed) (b : Bridge) (id : String)
    (frame : List UInt8) (f : Nat)
    (hno : NoConfig ((dispatch b id frame s).2.entries f)) :
    (dispatch b id frame s).1.appConfig = s.appConfig := by
  cases hopen : s.sessions.openNumber? id with
  | none =>
      unfold dispatch
      rw [hopen]
      rfl
  | some n =>
      have hcases := dispatch_cases hopen b frame
      generalize dispatch b id frame s = sp at hcases hno
      cases hcases with
      | unread => rfl
      | refused _ _ hctx => exact hctx.appConfig
      | pong _ hctx => exact hctx.appConfig
      | ignored hctx => exact hctx.appConfig
      | screen _ hctx => rw [startFanOut, fanOut_appConfig, hctx.appConfig]
      | @config config s' bound hctx =>
          have hsessions : s'.sessions = s.sessions := hctx.sessions
          rw [← hsessions] at hs hopen
          obtain ⟨k, rest, heq⟩ := startFanOut_hands hs hopen b bound
            (Message.appConfig s.now config (some id)).text (.config config.title)
          rw [heq] at hno
          exact absurd (Message.isOfType_text _) (hno f k _ List.mem_cons_self)

/-- Only a frame can replace the configuration. -/
theorem start_appConfig (he : Move.ofViewer (.start e)) (hframe : ¬ (Move.start e).isFrame)
    (b : Bridge) (s : State) : (b.start e s).1.appConfig = s.appConfig := by
  cases e with
  | openSession | sendTo | broadcast => cases he
  | connect connection => exact sendTo_appConfig ..
  | disconnect id => exact closeSession_appConfig ..
  | frame id bytes => exact absurd rfl hframe

theorem start_keeps (hs : s.sessions.WellFormed) (he : Move.ofViewer (.start e)) (b : Bridge)
    (f : Nat) (hno : NoConfig ((b.start e s).2.entries f)) :
    (b.start e s).1.appConfig = s.appConfig := by
  by_cases hframe : (Move.start e).isFrame
  · cases e with
    | frame id bytes => exact dispatch_keeps hs b id bytes f hno
    | openSession | connect | disconnect | sendTo | broadcast => cases hframe
  · exact start_appConfig he hframe b s

end

/-! ## Frames one after the other -/

/-- Whether the work on every frame that has begun is over. -/
def World.framesDone (w : World) (es : List Entry) : Bool :=
  es.all fun
    | .began f (.frame _ _) => ((w.works[f]?).map Progress.isFinished).getD false
    | _ => true

/-- Whether each frame begins when the work on those before it is over, `es`
being the trace so far. -/
def World.takesTurns [IdSupply] (b : Bridge) (w : World) (es : List Entry) : List Move → Bool
  | [] => true
  | m :: ms =>
    (!m.isFrame || w.framesDone es) && (w.step b m).takesTurns b (es ++ w.news b m) ms

namespace World

variable {b : Bridge} {w : World} {es : List Entry} {ms ms' : List Move}

theorem takesTurns_append [IdSupply] (b : Bridge) (w : World) (es : List Entry)
    (ms ms' : List Move) :
    w.takesTurns b es (ms ++ ms') =
      (w.takesTurns b es ms && (w.run b ms).takesTurns b (es ++ w.trace b ms) ms') := by
  induction ms generalizing w es with
  | nil => rw [trace, List.append_nil]; rfl
  | cons m ms ih =>
      rw [List.cons_append, takesTurns, takesTurns, ih, trace, List.append_assoc, run_cons,
        Bool.and_assoc]

theorem finished_of_framesDone (h : w.framesDone es) {f : Nat} {id : String}
    {bytes : List UInt8} (hmem : .began f (.frame id bytes) ∈ es) {p : Progress}
    (hp : w.works[f]? = some p) : ∃ r, p = .finished r := by
  have hdone := List.all_eq_true.mp h _ hmem
  dsimp only at hdone
  rw [hp] at hdone
  cases p with
  | waiting t => cases hdone
  | finished r => exact ⟨r, rfl⟩

end World

/-! ## The invariant -/

/-- Apart from frames that are being worked on, no work depends on the
configuration. -/
theorem OnCourse.recast [IdSupply] {b : Bridge} {current : Option AppConfig} {e : Event}
    {p : Progress} (h : OnCourse b current e p) (current' : Option AppConfig)
    (hover : ∀ id bytes, e = .frame id bytes → ∃ r, p = .finished r) :
    OnCourse b current' e p := by
  cases h with
  | greeting => exact .greeting ..
  | closing => exact .closing ..
  | ended => exact .ended ..
  | handling bytes =>
      obtain ⟨r, rfl⟩ := hover _ bytes rfl
      exact .ended ..

/-- What every run keeps in which frames take turns, `es` being its trace. -/
structure Turning [IdSupply] (b : Bridge) (w : World) (es : List Entry) : Prop where
  sound : w.Sound
  works : ∀ f p, w.works[f]? = some p →
    ∃ e, .began f e ∈ es ∧ OnCourse b w.state.appConfig e p
  last : LastConfig es w.state.appConfig

namespace Turning

variable [IdSupply] {b : Bridge} {w : World} {es : List Entry} {m : Move}

theorem launch {s : State} (hs : s.sessions = {}) (happ : s.appConfig = none) (b : Bridge) :
    Turning b ⟨s, []⟩ [] where
  sound := (World.Reachable.launch (b := b) hs).sound
  works f p hp := by cases hp
  last := by
    rw [happ]
    exact .never .nil

/-- A move shares the configuration that is stored after it, or leaves the
stored one alone. -/
theorem configStep (h : Turning b w es) (hm : m.ofViewer) :
    ConfigStep (w.news b m) w.state.appConfig (w.step b m).state.appConfig := by
  cases m with
  | tick now => exact .keeps .nil rfl
  | start e =>
      refine (start_onCourse h.sound.table hm b).configStep ?_ w.works.length
        (start_keeps h.sound.table hm b _)
      intro g c heq
      cases heq
  | answer f outcome =>
      rcases World.answer_cases b w f outcome with ⟨t, ht⟩ | ⟨hstep, hnews⟩
      · obtain ⟨e, -, hcourse⟩ := h.works f _ ht
        rw [World.step, World.news, World.advance_answer ht]
        show ConfigStep _ _ (b.resume t outcome w.state).1.appConfig
        rw [resume_appConfig]
        refine (resume_onCourse hcourse h.sound.table outcome).configStep ?_ f fun _ => rfl
        intro g c heq
        cases heq
      · rw [hstep, hnews]
        exact .keeps .nil rfl

/-- Works that have begun before are on their course under the configuration
that is stored now. -/
theorem recast_start (h : Turning b w es) {e : Event} (he : Move.ofViewer (.start e))
    (hturn : (Move.start e).isFrame → w.framesDone es) {f : Nat} {p : Progress}
    (hp : w.works[f]? = some p) :
    ∃ e', .began f e' ∈ es ∧ OnCourse b (b.start e w.state).1.appConfig e' p := by
  obtain ⟨e', hmem, hcourse⟩ := h.works f p hp
  refine ⟨e', hmem, ?_⟩
  -- only a frame stores a configuration, and its turn comes when the work on
  -- every other frame is over
  by_cases hframe : (Move.start e).isFrame
  · refine hcourse.recast _ fun id bytes heq => ?_
    subst heq
    exact World.finished_of_framesDone (hturn hframe) hmem hp
  · rw [start_appConfig he hframe]
    exact hcourse

theorem step (h : Turning b w es) (hm : m.ofViewer) (hturn : m.isFrame → w.framesDone es) :
    Turning b (w.step b m) (es ++ w.news b m) := by
  refine ⟨h.sound.step b m, ?_, h.last.step (h.configStep hm)⟩
  intro g p hp
  cases m with
  | tick now =>
      obtain ⟨e, hmem, hcourse⟩ := h.works g p hp
      exact ⟨e, List.mem_append_left _ hmem, hcourse⟩
  | start e =>
      rcases World.works_of_start hp with hold | ⟨rfl, rfl⟩
      · obtain ⟨e', hmem, hcourse⟩ := h.recast_start hm hturn hold
        exact ⟨e', List.mem_append_left _ hmem, hcourse⟩
      · exact ⟨e, List.mem_append_right _ List.mem_cons_self,
          start_onCourse h.sound.table hm b⟩
  | answer f outcome =>
      rcases World.answer_cases b w f outcome with ⟨t, ht⟩ | ⟨hstep, hnews⟩
      · have happ : (w.step b (.answer f outcome)).state.appConfig = w.state.appConfig := by
          rw [World.step, World.advance_answer ht]
          exact resume_appConfig ..
        rw [happ]
        rcases World.works_of_answer ht hp with hold | ⟨rfl, rfl⟩
        · obtain ⟨e, hmem, hcourse⟩ := h.works g p hold
          exact ⟨e, List.mem_append_left _ hmem, hcourse⟩
        · obtain ⟨e, hmem, hcourse⟩ := h.works g _ ht
          exact ⟨e, List.mem_append_left _ hmem,
            resume_onCourse hcourse h.sound.table outcome⟩
      · rw [hstep] at hp ⊢
        rw [hnews, List.append_nil]
        exact h.works g p hp

theorem run {ms : List Move} (h : Turning b w es) (hms : ∀ m ∈ ms, m.ofViewer)
    (hturns : w.takesTurns b es ms) : Turning b (w.run b ms) (es ++ w.trace b ms) := by
  induction ms generalizing w es with
  | nil =>
      rw [World.trace, List.append_nil]
      exact h
  | cons m ms ih =>
      rw [List.forall_mem_cons] at hms
      rw [World.takesTurns, Bool.and_eq_true, Bool.or_eq_true, Bool.not_eq_true'] at hturns
      obtain ⟨hfirst, hrest⟩ := hturns
      rw [World.trace, ← List.append_assoc]
      refine ih (h.step hms.1 fun hframe => ?_) hms.2 hrest
      exact hfirst.resolve_left fun hno => Bool.noConfusion (hframe.symm.trans hno)

/-- What a work hands over in a move is on its course, the configuration being
the one that is stored after the move. -/
theorem said (h : Turning b w es) (hm : m.ofViewer) {f n : Nat} {text : String}
    (hcalled : .called f (.send n text) ∈ w.news b m) :
    ∃ e, Says b (w.step b m).state.appConfig e n text := by
  cases m with
  | tick now => cases hcalled
  | start e =>
      obtain ⟨-, t, ht, hcall⟩ := World.called_of_start hcalled
      have hcourse := start_onCourse h.sound.table hm b
      rw [ht] at hcourse
      exact ⟨e, hcourse.may_say hcall⟩
  | answer g outcome =>
      rcases World.answer_cases b w g outcome with ⟨t, ht⟩ | ⟨-, hnews⟩
      · obtain ⟨-, t', ht', hcall⟩ := World.called_of_answer ht hcalled
        obtain ⟨e, -, hcourse⟩ := h.works g _ ht
        have hcourse' := resume_onCourse hcourse h.sound.table outcome
        rw [ht'] at hcourse'
        rw [World.step, World.advance_answer ht]
        show ∃ e, Says b (b.resume t outcome w.state).1.appConfig e n text
        rw [resume_appConfig]
        exact ⟨e, hcourse'.may_say hcall⟩
      · rw [hnews] at hcalled
        cases hcalled

/-- A screen comes with the configuration that was stored before. -/
theorem screen (h : Turning b w es) (hm : m.ofViewer) {f n : Nat} {text : String}
    (hcalled : .called f (.send n text) ∈ w.news b m)
    (htype : Message.IsOfType text .componentSpec) :
    ∃ now d components id, text =
      (Message.componentSpec now d components w.state.appConfig (some id)).text := by
  obtain ⟨e, hsaid⟩ := h.said hm hcalled
  cases h.configStep hm with
  | keeps _ hsame =>
      rw [hsame] at hsaid
      exact hsaid.of_screen htype
  | shares g k now id config hpre hes =>
      rw [hes] at hcalled
      rcases List.mem_append.mp hcalled with hmem | hmem
      · exact absurd hmem (hpre _ _)
      · cases List.mem_singleton.mp hmem
        cases htype.unique (Message.isOfType_text _)

end Turning

/-! ## What a screen comes with -/

/-- What holds of a run of viewers in which frames take turns, on a bridge
that starts in a state without sessions. -/
structure ConfigFollows [IdSupply] (b : Bridge) (s : State) (ms : List Move) : Prop where
  /-- A screen that is handed to anybody comes with the data of the
  configuration that was shared last before, or with null if there was none. -/
  screens : ∀ ms₁ m ms₂, ms = ms₁ ++ m :: ms₂ → ∀ f n text,
    .called f (.send n text) ∈ (World.run b ⟨s, []⟩ ms₁).news b m →
    Message.IsOfType text .componentSpec →
    ∃ (spec : Message) (data : Keyed Json) (shown : Json),
      spec.text = text ∧ spec.type = .componentSpec ∧ spec.data = some data ∧
      data.get? "appConfig" = some shown ∧
      LastShared (World.trace b ⟨s, []⟩ ms₁) shown
  /-- So does the next one, whoever shares it. -/
  current : ∀ ms₁ ms₂, ms = ms₁ ++ ms₂ →
    LastShared (World.trace b ⟨s, []⟩ ms₁)
      (((World.run b ⟨s, []⟩ ms₁).state.appConfig.map AppConfig.toJson).getD .null)
  /-- A frame that is refused leaves the configuration as it was. -/
  refused : ∀ s' id n frame failure, s'.sessions.openNumber? id = some n →
    Refuses b s'.now frame failure →
    (b.start (.frame id frame) s').1.appConfig = s'.appConfig

/-- Every screen comes with the configuration that was shared last. -/
theorem config_follows [IdSupply] {s : State} (hs : s.sessions = {}) (happ : s.appConfig = none)
    (b : Bridge) {ms : List Move} (hms : ∀ m ∈ ms, m.ofViewer)
    (hturns : World.takesTurns b ⟨s, []⟩ [] ms) : ConfigFollows b s ms := by
  have hbefore : ∀ ms₁ ms₂, ms = ms₁ ++ ms₂ →
      Turning b (World.run b ⟨s, []⟩ ms₁) (World.trace b ⟨s, []⟩ ms₁) := by
    intro ms₁ ms₂ heq
    subst heq
    rw [World.takesTurns_append, Bool.and_eq_true] at hturns
    exact (Turning.launch hs happ b).run
      (fun m hm => hms m (List.mem_append_left _ hm)) hturns.1
  refine ⟨?_, ?_, ?_⟩
  · intro ms₁ m ms₂ heq f n text hcalled htype
    have hturning := hbefore ms₁ (m :: ms₂) heq
    have hm := hms m (heq ▸ List.mem_append_right _ List.mem_cons_self)
    obtain ⟨now, d, components, id, rfl⟩ := hturning.screen hm hcalled htype
    exact ⟨_, _, _, rfl, rfl, rfl, rfl, hturning.last.shared⟩
  · exact fun ms₁ ms₂ heq => (hbefore ms₁ ms₂ heq).last.shared
  · intro s' id n frame failure hopen hrefuses
    obtain ⟨bound, s'', hctx, hdispatch⟩ := dispatch_of_refuses hopen hrefuses
    show (dispatch b id frame s').1.appConfig = _
    rw [hdispatch]
    exact hctx.appConfig

/-- A viewer shares a configuration, which is delivered to nobody, and leaves
the table by that; then another viewer comes. -/
def unheard : List Move :=
  [.start (.connect 0), .answer 0 .done,
    .start (.frame (sessionName 0) (World.titleFrame "A")),
    .answer 1 (.raised "broken pipe"), .answer 1 .done,
    .start (.connect 1), .answer 2 .done]

/-- The other viewer shares a screen. -/
def secondShares : Move :=
  .start (.frame (sessionName 1) (World.screenFrame "home"))

theorem config_follows_unheard :
    (∀ m ∈ unheard ++ [secondShares], m.ofViewer) ∧
    World.launched.takesTurns World.scribe [] (unheard ++ [secondShares]) ∧
    LastShared (World.launched.trace World.scribe unheard) (World.titled "A").toJson ∧
    ∃ f n text, .called f (.send n text) ∈
        (World.launched.run World.scribe unheard).news World.scribe secondShares ∧
      ∃ (spec : Message) (data : Keyed Json) (shown : Json),
        spec.text = text ∧ spec.type = .componentSpec ∧ spec.data = some data ∧
        data.get? "appConfig" = some shown ∧
        LastShared (World.launched.trace World.scribe unheard) shown := by
  obtain ⟨hviewers, hturns, hstored, hopen, hparse⟩ :
      (∀ m ∈ unheard ++ [secondShares], m.ofViewer) ∧
      World.launched.takesTurns World.scribe [] (unheard ++ [secondShares]) ∧
      (World.launched.run World.scribe unheard).state.appConfig = some (World.titled "A") ∧
      (World.launched.run World.scribe unheard).state.sessions.openNumber?
        (sessionName 1) = some 1 ∧
      Wire.parseEnvelope 1048576 200 (World.screenFrame "home") =
        .ok ⟨"UI_UPDATE", none, none, some [("screenId", .str "home"), ("route", .str "/"),
          ("tree", .obj [("type", .str "Text")])]⟩ := by
    decide +kernel
  have hfollows := config_follows (s := { clock := 0 }) rfl rfl World.scribe hviewers hturns
  have hlast := hfollows.current unheard [secondShares] rfl
  have hstored' : (World.run World.scribe ⟨{ clock := 0 }, []⟩ unheard).state.appConfig =
      some (World.titled "A") := hstored
  rw [hstored'] at hlast
  obtain ⟨t, n, text, ht, hcall, htype⟩ := dispatch_hands_screen (b := World.scribe)
    (World.Reachable.launched.run unheard).sound.table hopen hparse rfl rfl rfl rfl
  have hcalled : .called (World.launched.run World.scribe unheard).works.length
      (.send n text) ∈
        (World.launched.run World.scribe unheard).news World.scribe secondShares :=
    List.mem_cons_of_mem _ (World.mem_entries.mpr ⟨t, ht, by rw [hcall]⟩)
  exact ⟨hviewers, hturns, hlast, _, n, text, hcalled,
    hfollows.screens unheard secondShares [] rfl _ _ _ hcalled htype⟩

end ScreenBridge.Bridge
