import ScreenBridge.CountedIds
import ScreenBridge.Proofs.BreakOff
import ScreenBridge.Proofs.FanOut

/-!
# What becomes of a frame

A frame gives an envelope, or a failure that its sender is told of, or reading
breaks off. The first half of the file says when: within the size limit,
reading breaks off exactly at what `Json.BreaksOff` describes, and every
failure on the way is a parse error. So an encoded text can break a read off
only by its nesting.

The second half follows the work that handles a frame through whatever is
interleaved with it. `Handles` marks the works that can come to nothing but
`handled`; each function below `dispatch` leads into them and an answer does
not lead out, so with the weights of `Task.lean` a frame is handled after a
number of answers known at the start. The work on a refused frame is simpler
still: it makes one call when it begins (`Telling`) and, if that text goes, no
other. Its session stays open for the reason that any session does: nobody
closed it and no text sent to it failed.
-/

namespace ScreenBridge.Wire

variable {maxSize maxDepth : Int} {frame : List UInt8}

/-- A frame within the size limit, with something in it that breaks its reading
off. -/
def Unread (maxSize : Int) (frame : List UInt8) (cause : Json.Breakdown) : Prop :=
  frame.length ≤ maxSize ∧ Json.BreaksOff frame cause

theorem parseEnvelope_brokeOff_iff {cause : Json.Breakdown} :
    parseEnvelope maxSize maxDepth frame = .error (.brokeOff cause) ↔
      Unread maxSize frame cause := by
  rw [Unread, ← Json.readObject_brokeOff_iff, parseEnvelope, Json.checkSize]
  by_cases hsize : maxSize < frame.length
  · rw [if_pos hsize]
    constructor
    · intro h
      cases h
    · intro h
      exact absurd hsize (Int.not_lt.mpr h.1)
  · rw [if_neg hsize, and_iff_right (Int.not_lt.mp hsize)]
    dsimp only
    cases Json.readObject frame with
    | error e =>
        cases e with
        | refused fault => exact ⟨fun h => (nomatch h), fun h => (nomatch h)⟩
        | brokeOff found =>
            constructor
            · intro h
              cases h
              rfl
            · intro h
              cases h
              rfl
    | ok members =>
        refine ⟨fun h => ?_, fun h => (nomatch h)⟩
        dsimp only at h
        split at h
        · cases h
        · split at h <;> cases h

/-- Every failure of a frame is a parse error. -/
theorem code_of_refused {failure : Failure}
    (h : parseEnvelope maxSize maxDepth frame = .error (.refused failure)) :
    failure.code = .parse := by
  unfold parseEnvelope at h
  split at h
  · cases h
    rfl
  · split at h
    · cases h
      rfl
    · cases h
    · split at h
      · cases h
        rfl
      · split at h
        · cases h
        · cases h
          rfl

theorem ofFailure_of_refused {failure : Failure}
    (h : parseEnvelope maxSize maxDepth frame = .error (.refused failure))
    (now : String) :
    Message.ofFailure now failure =
      Message.error now "PARSE_ERROR" failure.message failure.details := by
  show Message.error now failure.code.word failure.message failure.details = _
  rw [code_of_refused h]
  rfl

instance : DecidableEq (Except FrameError Envelope)
  | .ok e, .ok e' => decidable_of_iff (e = e') ⟨congrArg _, Except.ok.inj⟩
  | .error e, .error e' =>
    decidable_of_iff (e = e') ⟨congrArg _, Except.error.inj⟩
  | .ok _, .error _ => isFalse (by intro h; cases h)
  | .error _, .ok _ => isFalse (by intro h; cases h)

/-- What the reading of a frame comes to under any limits. -/
structure FrameRead (maxSize maxDepth : Int) (frame : List UInt8) : Prop where
  /-- There is an envelope or a parse error, unless reading breaks off. -/
  settled : ((∃ e, parseEnvelope maxSize maxDepth frame = .ok e) ∨
      ∃ failure, parseEnvelope maxSize maxDepth frame = .error (.refused failure) ∧
        failure.code.word = "PARSE_ERROR") ↔
    ∀ cause, ¬ Unread maxSize frame cause
  /-- Where reading breaks off, nothing is made of that. -/
  unread : ∀ cause,
    parseEnvelope maxSize maxDepth frame = .error (.brokeOff cause) ↔
      Unread maxSize frame cause
  /-- An encoded text can only be nested too deep. -/
  ofText : ∀ text cause, frame = Text.Utf8.encode text →
    Unread maxSize frame cause →
    cause = .tooDeep ∧ Json.depthLimit < Json.openings frame

theorem frameRead (maxSize maxDepth : Int) (frame : List UInt8) :
    FrameRead maxSize maxDepth frame := by
  refine ⟨?_, fun cause => parseEnvelope_brokeOff_iff, ?_⟩
  · cases hparse : parseEnvelope maxSize maxDepth frame with
    | ok e =>
        refine ⟨fun _ cause h => ?_, fun _ => .inl ⟨e, rfl⟩⟩
        cases hparse.symm.trans (parseEnvelope_brokeOff_iff.mpr h)
    | error e =>
        cases e with
        | refused failure =>
            have hword := congrArg ErrorCode.word (code_of_refused hparse)
            refine ⟨fun _ cause h => ?_, fun _ => .inr ⟨failure, rfl, hword⟩⟩
            cases hparse.symm.trans (parseEnvelope_brokeOff_iff.mpr h)
        | brokeOff cause =>
            refine ⟨fun h => ?_, fun h => ?_⟩
            · rcases h with ⟨e, he⟩ | ⟨failure, he, -⟩ <;> cases he
            · exact absurd (parseEnvelope_brokeOff_iff.mp hparse) (h cause)
  · rintro text cause rfl ⟨-, hbreaks⟩
    have hcause := Json.Breaks.eq_tooDeep hbreaks (Text.Utf8.isUtf8_encode text)
    exact ⟨hcause, Json.Breaks.lt_openings hbreaks hcause⟩

end ScreenBridge.Wire

namespace ScreenBridge.Bridge

open Wire (Unread FrameRead parseEnvelope)

/-! ## Works that end as handled -/

/-- What is shared on behalf of a message. -/
def Occasion.Handles : Occasion → Prop
  | .message => False
  | .config _ => True
  | .screen .. => True

/-- What comes after a call that a message led to. -/
def Sequel.Handles : Sequel → Prop
  | .tell => False
  | .greet _ => False
  | .rest => True
  | .fanOut _ _ _ occasion => occasion.Handles

/-- Work that can come to nothing but `handled`. -/
def Progress.Handles : Progress → Prop
  | .waiting t => t.sequel.Handles
  | .finished r => r = .handled

section
variable {b : Bridge} {bound : Log.Keys} {id text : String}
  {occasion : Occasion} {s : State}

theorem sendTo_handles (bound : Log.Keys) (id text : String) (s : State) :
    (sendTo bound id text .rest .handled s).2.Handles := by
  rw [sendTo]
  split
  · exact True.intro
  · rfl

theorem report_handles (bound : Log.Keys) (id : String) (failure : Wire.Failure)
    (s : State) : (report bound id failure s).2.Handles :=
  sendTo_handles ..

theorem giveUp_handles (bound : Log.Keys) (id : String) (failure : Wire.Failure)
    (s : State) : (giveUp bound id failure s).2.Handles :=
  report_handles ..

theorem writeSources_handles (b : Bridge) (bound : Log.Keys) (sender : String)
    (d : Ui.Document) (s : State) :
    (writeSources b bound sender d s).2.Handles := by
  unfold writeSources
  split
  · rfl
  · next g _ =>
    generalize Source.Generator.run (g.generate d) s.files = r
    obtain ⟨outcome, notices, files⟩ := r
    dsimp only
    split
    · rfl
    · exact giveUp_handles ..
    · exact report_handles ..

theorem concludeFanOut_handles (hocc : occasion.Handles) (b : Bridge)
    (bound : Log.Keys) (delivered : Nat) (s : State) :
    (concludeFanOut b bound delivered occasion s).2.Handles := by
  cases occasion with
  | message => exact hocc.elim
  | config title => rfl
  | screen sender d unmapped =>
      rw [concludeFanOut]
      exact writeSources_handles ..

theorem fanOut_handles (hocc : occasion.Handles) (b : Bridge)
    (bound : Log.Keys) (text : String) (delivered : Nat) (remaining : List Nat)
    (s : State) :
    (fanOut b bound text delivered occasion remaining s).2.Handles := by
  rcases fanOut_cases b bound text delivered occasion remaining s with
    ⟨_, _, _, -, -, -, heq⟩ | ⟨-, heq⟩
  · rw [heq]
    exact hocc
  · rw [heq]
    exact concludeFanOut_handles hocc ..

theorem proceed_handles {sequel : Sequel} (h : sequel.Handles) (b : Bridge)
    (bound : Log.Keys) (delivered : Bool) (s : State) :
    (proceed b bound delivered sequel s).2.Handles := by
  cases sequel with
  | tell | greet => exact h.elim
  | rest => rfl
  | fanOut => exact fanOut_handles h ..

theorem resume_handles {t : Task} (h : t.sequel.Handles) (b : Bridge)
    (outcome : Outcome) (s : State) : (resume b t outcome s).2.Handles := by
  obtain ⟨bound, call, sequel⟩ := t
  cases call with
  | send n text =>
      cases outcome with
      | done => exact proceed_handles h ..
      | raised reason => exact h
  | close n =>
      cases outcome with
      | done => exact proceed_handles h ..
      | raised reason => exact proceed_handles h ..

/-- Work that comes to `handled` after at most so many answers. -/
structure Handling (most : Nat) (p : Progress) : Prop where
  handles : p.Handles
  weight_le : p.weight ≤ most

theorem report_handling (most : Nat) (bound : Log.Keys) (id : String)
    (failure : Wire.Failure) (s : State) :
    Handling (most + 2) (report bound id failure s).2 where
  handles := report_handles ..
  weight_le := Nat.le_trans (report_weight_le ..) (Nat.le_add_left 2 most)

theorem giveUp_handling (most : Nat) (bound : Log.Keys) (id : String)
    (failure : Wire.Failure) (s : State) :
    Handling (most + 2) (giveUp bound id failure s).2 :=
  report_handling ..

/-- At most two answers for each open session, and two for the sender. -/
def frameCalls (t : SessionTable) : Nat :=
  2 * t.openNumbers.length + 2

variable {t : SessionTable}

theorem startFanOut_handling (hocc : occasion.Handles) (hs : s.sessions = t)
    (b : Bridge) (bound : Log.Keys) (text : String) :
    Handling (frameCalls t) (startFanOut b bound text occasion s).2 where
  handles := fanOut_handles hocc ..
  weight_le := by
    rw [← hs]
    refine Nat.le_trans (fanOut_weight_le ..) (Nat.add_le_add_left ?_ _)
    cases occasion with
    | message | config => exact Nat.zero_le 2
    | screen => exact Nat.le_refl 2

theorem handleConfig_handling (hs : s.sessions = t) (b : Bridge)
    (bound : Log.Keys) (id : String) (e : Wire.Envelope) :
    Handling (frameCalls t) (handleConfig b bound id e s).2 := by
  unfold handleConfig
  split
  · exact giveUp_handling ..
  · refine startFanOut_handling ?_ ?_ b bound _
    · exact True.intro
    · exact hs

theorem shareScreen_handling (hs : s.sessions = t) (b : Bridge)
    (bound : Log.Keys) (id : String) (d : Ui.Document) (tr : Translation) :
    Handling (frameCalls t) (shareScreen b bound id d tr s).2 := by
  unfold shareScreen
  dsimp only
  split
  · exact giveUp_handling ..
  · refine startFanOut_handling ?_ ?_ b bound _
    · exact True.intro
    · exact hs

theorem handleScreen_handling (hs : s.sessions = t) (b : Bridge)
    (bound : Log.Keys) (id : String) (e : Wire.Envelope) :
    Handling (frameCalls t) (handleScreen b bound id e s).2 := by
  unfold handleScreen
  split
  · exact giveUp_handling ..
  · dsimp only
    split
    · exact giveUp_handling ..
    · refine shareScreen_handling ?_ ..
      exact hs

theorem handle_handling (b : Bridge) (id : String) (e : Wire.Envelope)
    (s : State) : Handling (frameCalls s.sessions) (handle b id e s).2 := by
  unfold handle
  dsimp only
  split
  · refine ⟨sendTo_handles .., Nat.le_trans (sendTo_weight_le ..) ?_⟩
    exact Nat.le_add_left 2 _
  · refine handleConfig_handling ?_ ..
    rfl
  · refine handleScreen_handling ?_ ..
    rfl
  · exact ⟨rfl, Nat.zero_le _⟩

/-- A frame is handled unless reading breaks off. -/
theorem dispatch_handling {frame : List UInt8}
    (hread : ∀ cause, ¬ Unread b.settings.maxMessageSize frame cause)
    (id : String) (s : State) :
    Handling (frameCalls s.sessions) (dispatch b id frame s).2 := by
  unfold dispatch
  split
  · exact ⟨rfl, Nat.zero_le _⟩
  · split
    · exact report_handling ..
    · next cause hparse =>
        exact absurd (Wire.parseEnvelope_brokeOff_iff.mp hparse) (hread cause)
    · exact handle_handling ..

end

/-! ## The two other ways of a frame -/

section
variable {b : Bridge} {id : String} {n : Nat} {frame : List UInt8} {s : State}

theorem dispatch_brokeOff {cause : Json.Breakdown}
    (hopen : s.sessions.openNumber? id = some n)
    (h : Unread b.settings.maxMessageSize frame cause) :
    dispatch b id frame s = (s, .finished (.brokeOff cause)) := by
  have hparse : parseEnvelope b.settings.maxMessageSize b.settings.maxJsonDepth
      frame = .error (.brokeOff cause) := Wire.parseEnvelope_brokeOff_iff.mpr h
  unfold dispatch
  rw [hopen]
  dsimp only
  rw [hparse]

theorem dispatch_refused {failure : Wire.Failure}
    (hopen : s.sessions.openNumber? id = some n)
    (hparse : parseEnvelope b.settings.maxMessageSize b.settings.maxJsonDepth
      frame = .error (.refused failure)) :
    (dispatch b id frame s).2 =
      .waiting ⟨[], .send n (Wire.Message.error s.now "PARSE_ERROR"
        failure.message failure.details).text, .rest⟩ := by
  rw [← Wire.ofFailure_of_refused hparse]
  unfold dispatch
  rw [hopen]
  dsimp only
  rw [hparse]
  dsimp only
  rw [report, sendTo]
  have hopen' : (State.count (·.recordError failure.code.word)
      (s.note [] (.parseFailed id failure.message))).sessions.openNumber? id =
        some n := hopen
  rw [hopen']
  rfl

end

/-! ## One frame among other works -/

/-- The call that a work makes in a line. -/
def Entry.call? (f : Nat) : Entry → Option Call
  | .called g c => if g = f then some c else none
  | _ => none

/-- The calls that a work makes, in order. -/
def callsBy (f : Nat) (es : List Entry) : List Call :=
  es.filterMap (Entry.call? f)

theorem callsBy_append (f : Nat) (es es' : List Entry) :
    callsBy f (es ++ es') = callsBy f es ++ callsBy f es' :=
  List.filterMap_append

theorem callsBy_of_other_works {f : Nat} {es : List Entry}
    (h : ∀ e ∈ es, e.work ≠ f) : callsBy f es = [] := by
  refine List.filterMap_eq_nil_iff.mpr fun e he => ?_
  cases e with
  | began | answered => rfl
  | called g c => exact if_neg (h _ he)

/-- Work that begins makes the call that it then waits for. -/
theorem callsBy_news_start [IdSupply] {b : Bridge} {w : World} {e : Event} {p : Progress}
    (h : (b.start e w.state).2 = p) :
    callsBy w.works.length (w.news b (.start e)) =
      match p with
      | .waiting t => [t.call]
      | .finished _ => [] := by
  have hnews : w.news b (.start e) =
      .began w.works.length e :: p.entries w.works.length := by
    rw [← h]
    rfl
  rw [hnews]
  cases p with
  | waiting t =>
      show List.filterMap _ [Entry.called w.works.length t.call] = _
      exact List.filterMap_cons_some (if_pos rfl)
  | finished r => rfl

/-- Where a work can be that tells a session something and nothing else. -/
inductive Telling (n : Nat) (text : String) : Progress → Prop where
  | handed (bound : Log.Keys) :
      Telling n text (.waiting ⟨bound, .send n text, .rest⟩)
  | told : Telling n text (.finished .handled)

namespace World

variable [IdSupply] {b : Bridge} {w : World} {m : Move} {ms : List Move} {f n : Nat}
  {p : Progress}

theorem step_handles (hp : w.works[f]? = some p) (h : p.Handles) (b : Bridge)
    (m : Move) : ∃ p', (w.step b m).works[f]? = some p' ∧ p'.Handles := by
  cases step_turn hp b m with
  | rests hworks _ => exact ⟨p, hworks, h⟩
  | resumes outcome hworks => exact ⟨_, hworks, resume_handles h ..⟩

theorem run_handles (hp : w.works[f]? = some p) (h : p.Handles) (b : Bridge)
    (ms : List Move) : ∃ p', (w.run b ms).works[f]? = some p' ∧ p'.Handles := by
  induction ms generalizing w p with
  | nil => exact ⟨p, hp, h⟩
  | cons m ms ih =>
      obtain ⟨p₁, hp₁, h₁⟩ := step_handles hp h b m
      exact ih hp₁ h₁

theorem step_telling {text : String} (hp : w.works[f]? = some p)
    (h : Telling n text p) (hsent : ∀ e ∈ w.news b m, e.fails n = false) :
    (∃ p', (w.step b m).works[f]? = some p' ∧ Telling n text p') ∧
      callsBy f (w.news b m) = [] := by
  cases step_turn hp b m with
  | rests hworks hother =>
      exact ⟨⟨p, hworks, h⟩, callsBy_of_other_works hother⟩
  | resumes outcome hworks _ hnews =>
      cases h
      rw [hnews] at hsent ⊢
      cases outcome with
      | done => exact ⟨⟨_, hworks, .told⟩, rfl⟩
      | raised reason =>
          have hno := hsent _ List.mem_cons_self
          rw [Entry.fails, decide_eq_false_iff_not] at hno
          exact absurd rfl hno

theorem run_telling {text : String} (hp : w.works[f]? = some p)
    (h : Telling n text p) (hsent : ∀ e ∈ w.trace b ms, e.fails n = false) :
    (∃ p', (w.run b ms).works[f]? = some p' ∧ Telling n text p') ∧
      callsBy f (w.trace b ms) = [] := by
  induction ms generalizing w p with
  | nil => exact ⟨⟨p, hp, h⟩, rfl⟩
  | cons m ms ih =>
      rw [trace, List.forall_mem_append] at hsent
      obtain ⟨⟨p₁, hp₁, h₁⟩, hnone⟩ := step_telling hp h hsent.1
      obtain ⟨hrun, hlater⟩ := ih hp₁ h₁ hsent.2
      refine ⟨hrun, ?_⟩
      rw [trace, callsBy_append, hnone, hlater]
      rfl

theorem run_finished {r : Result} (hp : w.works[f]? = some (.finished r))
    (b : Bridge) (ms : List Move) :
    (w.run b ms).works[f]? = some (.finished r) ∧
      callsBy f (w.trace b ms) = [] := by
  induction ms generalizing w with
  | nil => exact ⟨hp, rfl⟩
  | cons m ms ih =>
      cases step_turn hp b m with
      | rests hworks hother =>
          obtain ⟨hrun, hlater⟩ := ih hworks
          refine ⟨hrun, ?_⟩
          rw [trace, callsBy_append, callsBy_of_other_works hother, hlater]
          rfl

end World

/-- What becomes of a frame that comes in on the open session `n` in the world
`w`, while the moves `ms` follow. Its handling is the work after those of `w`. -/
structure FrameHandled [IdSupply] (b : Bridge) (w : World) (id : String) (n : Nat)
    (frame : List UInt8) (ms : List Move) : Prop where
  /-- Unless reading breaks off, dispatch returns after a number of answers
  known at the start, however the calls go. -/
  returns : (∀ cause, ¬ Unread b.settings.maxMessageSize frame cause) →
    (w.run b (.start (.frame id frame) :: ms)).works[w.works.length]? =
      some (.finished .handled) ∨
    (∃ t, (w.run b (.start (.frame id frame) :: ms)).works[w.works.length]? =
      some (.waiting t)) ∧
      answersTo w.works.length (w.trace b (.start (.frame id frame) :: ms)) <
        2 * w.state.sessions.openNumbers.length + 2
  /-- Where reading breaks off, dispatch ends with that: nobody is told, and
  nothing changes. -/
  breaksOff : ∀ cause, Unread b.settings.maxMessageSize frame cause →
    (w.run b (.start (.frame id frame) :: ms)).works[w.works.length]? =
      some (.finished (.brokeOff cause)) ∧
    callsBy w.works.length (w.trace b (.start (.frame id frame) :: ms)) = [] ∧
    (w.step b (.start (.frame id frame))).state = w.state
  /-- A refused frame is answered with one parse error to its sender. -/
  answered : ∀ failure,
    parseEnvelope b.settings.maxMessageSize b.settings.maxJsonDepth frame =
      .error (.refused failure) →
    (∀ e ∈ w.trace b (.start (.frame id frame) :: ms), e.fails n = false) →
    callsBy w.works.length (w.trace b (.start (.frame id frame) :: ms)) =
      [.send n (Wire.Message.error w.state.now "PARSE_ERROR" failure.message
        failure.details).text]
  /-- The session stays open as long as its viewer and its connection do. -/
  staysOpen : .start (.disconnect id) ∉ ms →
    (∀ e ∈ w.trace b (.start (.frame id frame) :: ms), e.fails n = false) →
    (w.run b (.start (.frame id frame) :: ms)).state.sessions.isOpen n

namespace World

variable {b : Bridge} {w : World} {id : String} {n : Nat} {frame : List UInt8}

section
variable [IdSupply]

theorem frameHandled (h : w.Reachable b)
    (hopen : w.state.sessions.openNumber? id = some n) (frame : List UInt8)
    (ms : List Move) : FrameHandled b w id n frame ms := by
  have hbegun : (w.step b (.start (.frame id frame))).works[w.works.length]? =
      some (b.start (.frame id frame) w.state).2 := List.getElem?_concat_length
  refine ⟨?_, ?_, ?_, ?_⟩
  · intro hread
    have hhandling := dispatch_handling hread id w.state
    have hnone : answersTo w.works.length
        (w.news b (.start (.frame id frame))) = 0 := answersTo_entries ..
    rw [run_cons, trace, answersTo_append, hnone, Nat.zero_add]
    obtain ⟨p, hp, hhandles⟩ := run_handles hbegun hhandling.handles b ms
    refine (run_within hbegun hhandling.weight_le b ms).imp_left ?_
    rintro ⟨r, hr⟩
    cases hp.symm.trans hr
    cases hhandles
    exact hr
  · intro cause hcause
    have hdispatch : b.start (.frame id frame) w.state =
        (w.state, .finished (.brokeOff cause)) := dispatch_brokeOff hopen hcause
    rw [hdispatch] at hbegun
    obtain ⟨hrun, hlater⟩ := run_finished hbegun b ms
    refine ⟨hrun, ?_, congrArg Prod.fst hdispatch⟩
    rw [trace, callsBy_append, hlater,
      callsBy_news_start (congrArg Prod.snd hdispatch)]
    rfl
  · intro failure hparse hsent
    have hdispatch : (b.start (.frame id frame) w.state).2 = _ :=
      dispatch_refused hopen hparse
    rw [hdispatch] at hbegun
    rw [trace, List.forall_mem_append] at hsent
    obtain ⟨-, hlater⟩ := run_telling hbegun (.handed []) hsent.2
    rw [trace, callsBy_append, hlater, callsBy_news_start hdispatch]
    rfl
  · intro hstays hsent
    have hsound := h.sound
    rw [hsound.table.openNumber?_eq] at hopen
    obtain ⟨rfl, ho⟩ := hsound.table.find?_eq_some.mp hopen
    refine hsound.stays_open ho ?_ hsent
    intro hmem
    rcases List.mem_cons.mp hmem with heq | hlater
    · cases heq
    · exact hstays hlater

/-- What becomes of a frame. Under any limits it gives an envelope or a parse
error unless reading breaks off; and where it comes in on an open session, it
is handled accordingly, whatever is interleaved with that. -/
theorem frames_settled (maxSize maxDepth : Int) (frame : List UInt8) :
    FrameRead maxSize maxDepth frame ∧
    ∀ {b : Bridge} {w : World} {id : String} {n : Nat}, w.Reachable b →
      w.state.sessions.openNumber? id = some n →
      ∀ ms, FrameHandled b w id n frame ms := by
  refine ⟨Wire.frameRead maxSize maxDepth frame, ?_⟩
  intro b w id n h hopen ms
  exact frameHandled h hopen frame ms

end

/-- An object whose type is a string with a byte that is no UTF-8. -/
def unreadable : List UInt8 :=
  [0x7b, 0x22, 0x74, 0x79, 0x70, 0x65, 0x22, 0x3a, 0x22, 0xff, 0x22, 0x7d]

def badByte : Json.Breakdown :=
  .notUtf8 ⟨0, 0xff, 1, .invalidStart⟩

theorem not_settled_unreadable :
    ¬ ((∃ e, parseEnvelope 1048576 200 unreadable = .ok e) ∨
      ∃ failure, parseEnvelope 1048576 200 unreadable =
        .error (.refused failure)) := by
  have hparse : parseEnvelope 1048576 200 unreadable =
      .error (.brokeOff badByte) := by decide +kernel
  rw [hparse]
  rintro (⟨e, he⟩ | ⟨failure, he⟩) <;> cases he

def oneOpen : World :=
  launched.run relay [.start (.openSession 0)]

/-- Nobody is told of the one frame, and an empty object is answered. -/
theorem frames_settled_oneOpen :
    oneOpen.Reachable relay ∧
    oneOpen.state.sessions.openNumber? (sessionName 0) = some 0 ∧
    callsBy 1 (oneOpen.trace relay
      [.start (.frame (sessionName 0) unreadable)]) = [] ∧
    (callsBy 1 (oneOpen.trace relay
      [.start (.frame (sessionName 0) [0x7b, 0x7d])])).length = 1 := by
  have hreach : oneOpen.Reachable relay := Reachable.launched.run _
  have hopen : oneOpen.state.sessions.openNumber? (sessionName 0) = some 0 := by
    decide +kernel
  have hbroken : parseEnvelope 1048576 200 unreadable =
      .error (.brokeOff badByte) := by decide +kernel
  have hrefused : parseEnvelope 1048576 200 [0x7b, 0x7d] =
      .error (.refused (.badEnvelope [⟨[.key "type"], .missing⟩])) := by decide +kernel
  obtain ⟨hread, hhandled⟩ := frames_settled 1048576 200 unreadable
  obtain ⟨-, hhandled'⟩ := frames_settled 1048576 200 [0x7b, 0x7d]
  refine ⟨hreach, hopen, ?_, ?_⟩
  · have hunread := (hread.unread badByte).mp hbroken
    exact ((hhandled hreach hopen []).breaksOff badByte hunread).2.1
  · have hanswer :=
      (hhandled' hreach hopen []).answered _ hrefused (by decide +kernel)
    exact congrArg List.length hanswer

end World

end ScreenBridge.Bridge
