import ScreenBridge.CountedIds
import ScreenBridge.Proofs.CurrentConfig
import ScreenBridge.Proofs.MessageHeight

/-!
# No broadcast is deeper than the next level

A frame may be as deep as the settings say. What is shared because of it is one
level deeper at most, in every run: the message wraps a translation, which is no
deeper than the data of the frame, and the stored configuration, which came in
under the same limit, though maybe long before. At the default limit that keeps
every broadcast well inside what dense text can nest.

Which texts a work may still hand out is no matter of where exactly it has got
to: an answer makes it hand out what it had with it already, or tell its sender
of a failure (`texts_resume`). So the invariant `Shallow` is about the texts of
all works and the stored configuration, and the only move with anything to show
is a frame that comes in (`Yields`).
-/

namespace ScreenBridge.Bridge

open Log (Keys)
open Wire (Envelope Failure Message MessageType parseEnvelope)

/-! ## The texts of a work -/

def Call.texts : Call → List String
  | .send _ text => [text]
  | .close _ => []

def Sequel.texts : Sequel → List String
  | .fanOut text _ _ _ => [text]
  | .tell | .greet _ | .rest => []

/-- The texts that a work has with it. -/
def Progress.texts : Progress → List String
  | .waiting t => t.call.texts ++ t.sequel.texts
  | .finished _ => []

section
variable {b : Bridge} {bound : Keys} {id text text' : String} {occasion : Occasion} {s : State}

theorem texts_sendTo {sequel : Sequel} {otherwise : Result}
    (h : text' ∈ (sendTo bound id text sequel otherwise s).2.texts) :
    text' = text ∨ text' ∈ sequel.texts := by
  unfold sendTo at h
  split at h
  · exact List.mem_cons.mp h
  · cases h

theorem texts_report {failure : Failure}
    (h : text ∈ (report bound id failure s).2.texts) : Replies text := by
  rcases texts_sendTo h with rfl | hnone
  · exact replies_ofFailure ..
  · cases hnone

theorem texts_writeSources {d : Ui.Document}
    (h : text ∈ (writeSources b bound id d s).2.texts) : Replies text := by
  unfold writeSources at h
  split at h
  · cases h
  · next g _ =>
    generalize Source.Generator.run (g.generate d) s.files = r at h
    obtain ⟨outcome, notices, files⟩ := r
    dsimp only at h
    split at h
    · cases h
    · exact texts_report h
    · exact texts_report h

theorem texts_concludeFanOut {delivered : Nat}
    (h : text ∈ (concludeFanOut b bound delivered occasion s).2.texts) : Replies text := by
  cases occasion with
  | message | config => cases h
  | screen sender d unmapped =>
      rw [concludeFanOut] at h
      exact texts_writeSources h

theorem texts_fanOut {delivered : Nat} {remaining : List Nat}
    (h : text' ∈ (fanOut b bound text delivered occasion remaining s).2.texts) :
    text' = text ∨ Replies text' := by
  rcases fanOut_cases b bound text delivered occasion remaining s with
    ⟨_, n, rest, -, -, -, heq⟩ | ⟨-, heq⟩
  · rw [heq] at h
    rcases List.mem_append.mp h with hin | hin <;> exact .inl (List.mem_singleton.mp hin)
  · rw [heq] at h
    exact .inr (texts_concludeFanOut h)

theorem texts_proceed {delivered : Bool} {sequel : Sequel}
    (h : text ∈ (proceed b bound delivered sequel s).2.texts) :
    text ∈ sequel.texts ∨ Replies text := by
  cases sequel with
  | tell | greet | rest => cases h
  | fanOut => exact (texts_fanOut h).imp_left List.mem_singleton.mpr

/-- An answer gives a work no new text, apart from one for the sender alone. -/
theorem texts_resume {t : Task} {outcome : Outcome}
    (h : text ∈ (resume b t outcome s).2.texts) :
    text ∈ (Progress.waiting t).texts ∨ Replies text := by
  obtain ⟨bound, call, sequel⟩ := t
  have hsequel (hin : text ∈ sequel.texts) :
      text ∈ (Progress.waiting ⟨bound, call, sequel⟩).texts := List.mem_append_right _ hin
  cases call with
  | send n sent =>
      cases outcome with
      | done => exact (texts_proceed h).imp_left hsequel
      | raised reason => exact .inl (hsequel h)
  | close n =>
      cases outcome with
      | done => exact (texts_proceed h).imp_left hsequel
      | raised reason => exact (texts_proceed h).imp_left hsequel

end

/-! ## What a frame leads to -/

/-- What becomes of a frame: the sender may be told something, or there is a
configuration in it, which is stored and shared, or a screen, which is shared
with the configuration that is stored. -/
inductive Yields (b : Bridge) (id : String) (frame : List UInt8) (s : State) :
    State × Progress → Prop where
  | answer {s' : State} {p : Progress} (hsame : s'.appConfig = s.appConfig)
      (htexts : ∀ text ∈ p.texts, Replies text) : Yields b id frame s (s', p)
  | config {e : Envelope} {c : AppConfig} {s' : State} {p : Progress}
      (hparse : parseEnvelope b.settings.maxMessageSize b.settings.maxJsonDepth frame = .ok e)
      (hvalid : AppConfig.ofJson e.payload = .valid c) (hstored : s'.appConfig = some c)
      (htexts : ∀ text ∈ p.texts,
        text = (Message.appConfig s.now c (some id)).text ∨ Replies text) :
      Yields b id frame s (s', p)
  | screen {e : Envelope} {d : Ui.Document} {t : Translation} {s' : State} {p : Progress}
      (hparse : parseEnvelope b.settings.maxMessageSize b.settings.maxJsonDepth frame = .ok e)
      (hvalid : Ui.Document.ofJson s.now e.payload = .valid d)
      (htranslated : (b.translator d).2 = .ok t) (hsame : s'.appConfig = s.appConfig)
      (htexts : ∀ text ∈ p.texts, Replies text ∨ text =
        (Message.componentSpec s.now d t.component.toJson s.appConfig (some id)).text) :
      Yields b id frame s (s', p)

section
variable {b : Bridge} {id : String} {n : Nat} {frame : List UInt8} {s : State} {e : Envelope}

theorem yields_of_refuses {failure : Failure} (hopen : s.sessions.openNumber? id = some n)
    (h : Refuses b s.now frame failure) : Yields b id frame s (dispatch b id frame s) := by
  obtain ⟨bound, s', hctx, heq⟩ := dispatch_of_refuses hopen h
  rw [heq]
  refine .answer hctx.appConfig fun text htext => ?_
  rw [List.mem_singleton.mp htext]
  exact replies_ofFailure ..

theorem yields_config (hopen : s.sessions.openNumber? id = some n)
    (hparse : parseEnvelope b.settings.maxMessageSize b.settings.maxJsonDepth frame = .ok e)
    (htype : MessageType.ofWord? e.type = some .appConfig) :
    Yields b id frame s (dispatch b id frame s) := by
  cases hvalid : AppConfig.ofJson e.payload with
  | invalid issues => exact yields_of_refuses hopen (.config hparse htype hvalid)
  | valid c =>
      rw [dispatch_parsed hopen hparse, handle_config htype]
      unfold handleConfig
      rw [hvalid]
      exact .config hparse hvalid (fanOut_appConfig ..) fun text htext => texts_fanOut htext

theorem yields_screen (hopen : s.sessions.openNumber? id = some n)
    (hparse : parseEnvelope b.settings.maxMessageSize b.settings.maxJsonDepth frame = .ok e)
    (htype : MessageType.ofWord? e.type = some .uiUpdate) :
    Yields b id frame s (dispatch b id frame s) := by
  cases hvalid : Ui.Document.ofJson s.now e.payload with
  | invalid issues => exact yields_of_refuses hopen (.document hparse htype hvalid)
  | valid d =>
      cases htranslated : (b.translator d).2 with
      | error reason => exact yields_of_refuses hopen (.translator hparse htype hvalid htranslated)
      | ok t =>
          cases hcheck : Component.check t.component.toJson
              t.component.toJson.encode.utf8ByteSize with
          | error cause =>
              exact yields_of_refuses hopen (.components hparse htype hvalid htranslated hcheck)
          | ok u =>
              obtain ⟨bound, s', hctx, hany⟩ :=
                dispatch_translated hopen hparse htype hvalid htranslated hcheck
              have hself := hany b.generator
              rw [writing_generator] at hself
              rw [hself]
              refine .screen hparse hvalid htranslated ?_ fun text htext => ?_
              · exact (fanOut_appConfig ..).trans hctx.appConfig
              · exact (texts_fanOut htext).symm

theorem yields_dispatch (b : Bridge) (id : String) (frame : List UInt8) (s : State) :
    Yields b id frame s (dispatch b id frame s) := by
  cases hopen : s.sessions.openNumber? id with
  | none =>
      unfold dispatch
      rw [hopen]
      exact .answer rfl fun text htext => (nomatch htext)
  | some n =>
      cases hparse : parseEnvelope b.settings.maxMessageSize b.settings.maxJsonDepth frame with
      | error fault =>
          cases fault with
          | refused failure => exact yields_of_refuses hopen (.envelope hparse)
          | brokeOff cause =>
              rw [dispatch_brokeOff hopen (Wire.parseEnvelope_brokeOff_iff.mp hparse)]
              exact .answer rfl fun text htext => (nomatch htext)
      | ok e =>
          cases htype : MessageType.ofWord? e.type with
          | none =>
              rw [dispatch_parsed hopen hparse]
              simp only [handle, htype]
              exact .answer rfl fun text htext => (nomatch htext)
          | some type =>
              cases type with
              | appConfig => exact yields_config hopen hparse htype
              | uiUpdate => exact yields_screen hopen hparse htype
              | ping =>
                  rw [dispatch_parsed hopen hparse]
                  simp only [handle, htype]
                  refine .answer (sendTo_appConfig ..) fun text htext => ?_
                  rcases texts_sendTo htext with rfl | hnone
                  · exact .inl (Message.isOfType_text _)
                  · cases hnone
              | stateDelta | event | componentSpec | connectionAck | error | pong =>
                  rw [dispatch_parsed hopen hparse]
                  simp only [handle, htype]
                  exact .answer rfl fun text htext => (nomatch htext)

end

/-! ## What may be handed out -/

/-- A message that viewers are shown: a configuration, or a screen in the
translation of the built-in registry. -/
inductive Shown : Message → Prop where
  | config (now : String) (c : AppConfig) (id : String) : Shown (.appConfig now c (some id))
  | screen (now : String) (d : Ui.Document) (current : Option AppConfig) (id : String) :
      Shown (.componentSpec now d (Component.ofNode .builtin d.tree).toJson current (some id))

/-- A text is that of a message at most one level deeper than the limit, unless
it shows nothing. -/
def Moderate (limit : Int) (text : String) : Prop :=
  Message.IsOfType text .appConfig ∨ Message.IsOfType text .componentSpec →
    ∃ m, Shown m ∧ m.text = text ∧ (m.toJson.height : Int) ≤ limit + 1

section
variable {limit : Int} {text : String}

theorem Moderate.of_shown {m : Message} (hm : Shown m) (h : (m.toJson.height : Int) ≤ limit + 1) :
    Moderate limit m.text :=
  fun _ => ⟨m, hm, rfl, h⟩

theorem Moderate.of_type {type : MessageType} (h : Message.IsOfType text type)
    (hconfig : type ≠ .appConfig) (hscreen : type ≠ .componentSpec) : Moderate limit text := by
  rintro (hshown | hshown)
  · exact absurd (h.unique hshown) hconfig
  · exact absurd (h.unique hshown) hscreen

theorem Moderate.of_replies (h : Replies text) : Moderate limit text := by
  rcases h with htype | htype
  · exact .of_type htype nofun nofun
  · exact .of_type htype nofun nofun

end

/-- A stored configuration, if there is one, that came in under the limit. -/
def Stored (limit : Int) (current : Option AppConfig) : Prop :=
  ∀ c, current = some c → (c.toJson.height : Int) ≤ max (limit - 1) 2

section
variable {b : Bridge} {s : State} {sp : State × Progress} {id : String} {frame : List UInt8}
  {e : Event}

/-- A frame leaves nothing too deep behind. -/
theorem Yields.shallow (hb : b.translator = .ofRegistry .builtin) (h : Yields b id frame s sp)
    (hstored : Stored b.settings.maxJsonDepth s.appConfig) :
    Stored b.settings.maxJsonDepth sp.1.appConfig ∧
      ∀ text ∈ sp.2.texts, Moderate b.settings.maxJsonDepth text := by
  cases h with
  | answer hsame htexts =>
      exact ⟨hsame.symm ▸ hstored, fun text htext => .of_replies (htexts text htext)⟩
  | @config e c s' p hparse hvalid hnew htexts =>
      refine ⟨fun c' hc' => ?_, fun text htext => ?_⟩
      · cases hnew.symm.trans hc'
        exact AppConfig.height_le_of_parsed hparse hvalid
      · rcases htexts text htext with rfl | hreplies
        · exact .of_shown (.config ..)
            (Message.height_appConfig_le_of_parsed hparse hvalid s.now (some id))
        · exact .of_replies hreplies
  | @screen e d t s' p hparse hvalid htranslated hsame htexts =>
      refine ⟨hsame.symm ▸ hstored, fun text htext => ?_⟩
      rcases htexts text htext with hreplies | rfl
      · exact .of_replies hreplies
      · rw [hb] at htranslated
        cases htranslated
        exact .of_shown (.screen ..) (Message.height_componentSpec_le_of_parsed hparse
          Component.flatDefaults_builtin hvalid hstored (some id))

theorem start_shallow [IdSupply] (hb : b.translator = .ofRegistry .builtin)
    (he : Move.ofViewer (.start e)) (hstored : Stored b.settings.maxJsonDepth s.appConfig) :
    Stored b.settings.maxJsonDepth (b.start e s).1.appConfig ∧
      ∀ text ∈ (b.start e s).2.texts, Moderate b.settings.maxJsonDepth text := by
  by_cases hframe : (Move.start e).isFrame
  · cases e with
    | frame id bytes => exact (yields_dispatch b id bytes s).shallow hb hstored
    | openSession | connect | disconnect | sendTo | broadcast => cases hframe
  · rw [start_appConfig he hframe]
    refine ⟨hstored, fun text htext => ?_⟩
    cases e with
    | openSession | sendTo | broadcast => cases he
    | disconnect id => cases htext
    | frame id bytes => exact absurd rfl hframe
    | connect connection =>
        rcases texts_sendTo htext with rfl | hnone
        · exact .of_type (Message.isOfType_text _) nofun nofun
        · cases hnone

end

/-! ## Runs -/

/-- Neither the stored configuration nor any text that a work has with it is too
deep. -/
structure Shallow (limit : Int) (w : World) : Prop where
  stored : Stored limit w.state.appConfig
  works : ∀ p ∈ w.works, ∀ text ∈ p.texts, Moderate limit text

namespace World

variable {b : Bridge} {w : World} {m : Move}

/-- What is handed out in a move a work has with it afterwards. -/
theorem waiting_of_called [IdSupply] {f : Nat} {c : Call} (h : .called f c ∈ w.news b m) :
    ∃ t, .waiting t ∈ (w.step b m).works ∧ t.call = c := by
  have hadvance := advance_cases b w m
  generalize w.step b m = w', w.news b m = es at hadvance h
  cases hadvance with
  | start e =>
      rcases List.mem_cons.mp h with heq | hentry
      · cases heq
      · obtain ⟨t, ht, heq⟩ := mem_entries.mp hentry
        cases heq
        exact ⟨t, List.mem_append_right _ (ht ▸ List.mem_singleton_self _), rfl⟩
  | @answer g t hg outcome =>
      rcases List.mem_cons.mp h with heq | hentry
      · cases heq
      · obtain ⟨t', ht', heq⟩ := mem_entries.mp hentry
        cases heq
        obtain ⟨hlt, -⟩ := List.getElem?_eq_some_iff.mp hg
        refine ⟨t', ?_, rfl⟩
        rw [← ht']
        exact List.mem_set hlt _
  | idle | tick => cases h

end World

namespace Shallow

variable [IdSupply] {b : Bridge} {w : World} {m : Move} {limit : Int}

theorem step (hb : b.translator = .ofRegistry .builtin)
    (h : Shallow b.settings.maxJsonDepth w) (hm : m.ofViewer) :
    Shallow b.settings.maxJsonDepth (w.step b m) := by
  have hadvance := w.advance_cases b m
  generalize w.step b m = w', w.news b m = es at hadvance
  cases hadvance with
  | start e =>
      obtain ⟨hstored, htexts⟩ := start_shallow hb hm h.stored
      refine ⟨hstored, fun p hp => ?_⟩
      rcases List.mem_append.mp hp with hold | hnew
      · exact h.works p hold
      · rw [List.mem_singleton.mp hnew]
        exact htexts
  | @answer f t hf outcome =>
      refine ⟨(resume_appConfig ..).symm ▸ h.stored, fun p hp => ?_⟩
      rcases List.mem_or_eq_of_mem_set hp with hold | rfl
      · exact h.works p hold
      · intro text htext
        rcases texts_resume htext with hin | hreplies
        · exact h.works _ (List.mem_of_getElem? hf) text hin
        · exact .of_replies hreplies
  | idle => exact h
  | tick => exact ⟨h.stored, h.works⟩

theorem moderate_of_called (h : Shallow limit (w.step b m)) {f n : Nat} {text : String}
    (hcalled : .called f (.send n text) ∈ w.news b m) : Moderate limit text := by
  obtain ⟨t, ht, hcall⟩ := World.waiting_of_called hcalled
  refine h.works _ ht text (List.mem_append_left _ ?_)
  rw [hcall]
  exact List.mem_singleton_self text

theorem run (hb : b.translator = .ofRegistry .builtin) {ms : List Move}
    (h : Shallow b.settings.maxJsonDepth w) (hms : ∀ m ∈ ms, m.ofViewer) {f n : Nat}
    {text : String} (hcalled : .called f (.send n text) ∈ w.trace b ms) :
    Moderate b.settings.maxJsonDepth text := by
  induction ms generalizing w with
  | nil => cases hcalled
  | cons m ms ih =>
      rw [List.forall_mem_cons] at hms
      have hstep := h.step hb hms.1
      rcases List.mem_append.mp hcalled with hnew | hlater
      · exact hstep.moderate_of_called hnew
      · exact ih hstep hms.2 hlater

end Shallow

/-- Whatever is shown to a viewer, in any run of viewers that come, leave and
send frames, passes the guard at one more level than the frames are allowed;
under the default limit it can be written as dense text. -/
theorem shown_within_guard [IdSupply] {b : Bridge} (hb : b.translator = .ofRegistry .builtin)
    {s : State} (hs : s.appConfig = none) {ms : List Move} (hms : ∀ m ∈ ms, m.ofViewer) {f n : Nat}
    {text : String} (hcalled : .called f (.send n text) ∈ World.trace b ⟨s, []⟩ ms)
    (htype : Message.IsOfType text .appConfig ∨ Message.IsOfType text .componentSpec) :
    ∃ m, Shown m ∧ m.text = text ∧
      Json.checkDepth (b.settings.maxJsonDepth + 1) 0 m.toJson = .ok () ∧
      (b.settings.maxJsonDepth ≤ Json.defaultMaxDepth → m.toJson.levels ≤ Json.denseLevels) := by
  have hlaunched : Shallow b.settings.maxJsonDepth ⟨s, []⟩ :=
    ⟨fun c hc => (nomatch hs.symm.trans hc), fun p hp => (nomatch hp)⟩
  obtain ⟨m, hm, htext, hheight⟩ := hlaunched.run hb hms hcalled htype
  refine ⟨m, hm, htext, Json.checkDepth_eq_ok_iff.mpr ⟨by omega, by omega⟩, fun hdefault => ?_⟩
  have hlevels := Json.levels_le m.toJson
  have hlimit : Json.defaultMaxDepth = 200 := rfl
  have hdense : Json.denseLevels = 254 := rfl
  omega

/-- A bridge that lets in three levels only. -/
def strict : Bridge where
  settings := { Settings.standard with maxJsonDepth := 3 }
  translator := .ofRegistry .builtin
  generator := none

/-- A viewer shares a configuration. -/
def configShared : List Move :=
  [.start (.connect 0), .answer 0 .done,
    .start (.frame (sessionName 0) (World.titleFrame "A")), .answer 1 .done]

/-- It shares a screen, which is three levels deep in its frame. -/
def screenShared : Move :=
  .start (.frame (sessionName 0) (World.screenFrame "home"))

theorem shown_within_guard_threeLevels :
    ∃ f n text, .called f (.send n text) ∈
        World.launched.trace strict (configShared ++ [screenShared]) ∧
      Message.IsOfType text .componentSpec ∧
      ∃ m, Shown m ∧ m.text = text ∧ Json.checkDepth 4 0 m.toJson = .ok () ∧
        m.toJson.levels ≤ Json.denseLevels := by
  obtain ⟨hviewers, hopen, hparse⟩ :
      (∀ m ∈ configShared ++ [screenShared], m.ofViewer) ∧
      (World.launched.run strict configShared).state.sessions.openNumber? (sessionName 0) =
        some 0 ∧
      Wire.parseEnvelope 1048576 3 (World.screenFrame "home") =
        .ok ⟨"UI_UPDATE", none, none, some [("screenId", .str "home"), ("route", .str "/"),
          ("tree", .obj [("type", .str "Text")])]⟩ := by
    decide +kernel
  obtain ⟨t, n, text, ht, hcall, htype⟩ := dispatch_hands_screen (b := strict)
    (World.Reachable.launched.run configShared).sound.table hopen hparse rfl rfl rfl rfl
  have hcalled : .called (World.launched.run strict configShared).works.length (.send n text) ∈
      World.launched.trace strict (configShared ++ [screenShared]) := by
    rw [World.trace_append, World.trace, World.trace, List.append_nil]
    exact List.mem_append_right _
      (List.mem_cons_of_mem _ (World.mem_entries.mpr ⟨t, ht, by rw [hcall]⟩))
  obtain ⟨m, hm, htext, hguard, hdense⟩ := shown_within_guard (b := strict) (s := { clock := 0 })
    rfl rfl hviewers hcalled (.inr htype)
  exact ⟨_, n, text, hcalled, htype, m, hm, htext, hguard, hdense (by decide)⟩

end ScreenBridge.Bridge
