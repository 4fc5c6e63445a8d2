import ScreenBridge.CountedIds
import ScreenBridge.Proofs.Failures
import ScreenBridge.Proofs.GenerationCrashes

/-!
# How a shared screen's generation is reported

A screen is shared first and written afterwards, by the same work and with
other works in between. What is counted of a generation is counted for the
whole bridge, so it takes some care to say what one work has counted:
`countedBy` adds up what its own moves do to the counters.

The work on a screen goes through three phases. While it is `Showing` it hands
over one text and counts nothing. One move goes past the last viewer and writes
the sources: `Concludes` lists the three things that can come of it. After that
the work is `Resting`, with at most an error on its way to its sender. A run is
cut at that one move (`ShareRun`), and what a viewer or an operator gets to know
of the generation is read off the cut (`screens_reported`).
-/

namespace ScreenBridge.Bridge

open Log (Keys)
open Source (Generator)
open Wire (ErrorCode Failure Message)

/-! ## Counting -/

/-- How many generations were counted with an outcome. -/
def State.generated (s : State) (status : String) : Nat :=
  (s.metrics.generations.get? status).getD 0

theorem generated_of_increment {s s' : State} {status : String}
    (h : s'.metrics.generations = s.metrics.generations.increment status) (other : String) :
    s'.generated other = s.generated other + if other = status then 1 else 0 := by
  rw [State.generated, h, Counter.increment, Keyed.get?_set, State.generated]
  by_cases heq : status = other
  · rw [if_pos heq, if_pos heq.symm, heq]
    rfl
  · rw [if_neg heq, if_neg (Ne.symm heq)]
    rfl

/-- A change of state that counts no generation. -/
structure Uncounted (s s' : State) : Prop extends SameContext s s' where
  generations : s'.metrics.generations = s.metrics.generations

theorem Uncounted.refl (s : State) : Uncounted s s := ⟨.refl s, rfl⟩

namespace World

variable [IdSupply]

/-- How many generations with an outcome were counted in the moves of a work. -/
def countedBy (b : Bridge) (f : Nat) (status : String) (w : World) : List Move → Int
  | [] => 0
  | m :: ms =>
    (if (w.news b m).any (fun e => e.work = f) then
      ((w.step b m).state.generated status : Int) - w.state.generated status
    else 0) + (w.step b m).countedBy b f status ms

variable {b : Bridge} {w : World} {m : Move} {f : Nat}

theorem countedBy_append (b : Bridge) (f : Nat) (status : String) (w : World)
    (ms ms' : List Move) :
    w.countedBy b f status (ms ++ ms') =
      w.countedBy b f status ms + (w.run b ms).countedBy b f status ms' := by
  induction ms generalizing w with
  | nil => rw [List.nil_append, countedBy, Int.zero_add]; rfl
  | cons m ms ih => rw [List.cons_append, countedBy, countedBy, ih, run_cons, Int.add_assoc]

theorem countedBy_cons_other (h : ∀ e ∈ w.news b m, e.work ≠ f) (status : String)
    (ms : List Move) :
    w.countedBy b f status (m :: ms) = (w.step b m).countedBy b f status ms := by
  have hnone : (w.news b m).any (fun e => e.work = f) = false := by
    rw [List.any_eq_false]
    exact fun e he heq => h e he (of_decide_eq_true heq)
  rw [countedBy, hnone, if_neg Bool.false_ne_true, Int.zero_add]

theorem countedBy_cons_own {line : Entry} {lines : List Entry}
    (hnews : w.news b m = line :: lines) (hline : line.work = f) (status : String)
    (ms : List Move) :
    w.countedBy b f status (m :: ms) =
      (((w.step b m).state.generated status : Int) - w.state.generated status) +
        (w.step b m).countedBy b f status ms := by
  have hown : (w.news b m).any (fun e => e.work = f) = true := by
    rw [hnews, List.any_cons, hline, decide_eq_true rfl, Bool.true_or]
  rw [countedBy, hown, if_pos rfl]

end World

/-! ## What counts no generation -/

section
variable {b : Bridge} {s : State}

theorem sendTo_generations (bound : Keys) (id text : String) (sequel : Sequel)
    (otherwise : Result) (s : State) :
    (sendTo bound id text sequel otherwise s).1.metrics.generations = s.metrics.generations := by
  rw [sendTo]
  split <;> rfl

theorem report_generations (bound : Keys) (id : String) (failure : Failure) (s : State) :
    (report bound id failure s).1.metrics.generations = s.metrics.generations :=
  sendTo_generations ..

theorem giveUp_generations (bound : Keys) (id : String) (failure : Failure) (s : State) :
    (giveUp bound id failure s).1.metrics.generations = s.metrics.generations :=
  report_generations ..

theorem closeSession_generations (bound : Keys) (id : String) (s : State) :
    (s.closeSession bound id).metrics.generations = s.metrics.generations := by
  rw [State.closeSession]
  split <;> rfl

section
variable (hb : b.generator = none)
include hb

theorem concludeFanOut_generations (bound : Keys) (delivered : Nat) (occasion : Occasion)
    (s : State) :
    (concludeFanOut b bound delivered occasion s).1.metrics.generations =
      s.metrics.generations := by
  cases occasion with
  | message | config => rfl
  | screen sender d unmapped =>
      unfold concludeFanOut writeSources
      rw [hb]
      rfl

theorem startFanOut_generations (bound : Keys) (text : String) (occasion : Occasion)
    (s : State) :
    (startFanOut b bound text occasion s).1.metrics.generations = s.metrics.generations := by
  rw [startFanOut]
  rcases fanOut_cases b bound text 0 occasion s.sessions.openNumbers s with
    ⟨_, _, _, -, -, -, heq⟩ | ⟨-, heq⟩
  · rw [heq]
  · rw [heq]
    exact concludeFanOut_generations hb ..

theorem handleConfig_generations (bound : Keys) (id : String) (e : Wire.Envelope) (s : State) :
    (handleConfig b bound id e s).1.metrics.generations = s.metrics.generations := by
  unfold handleConfig
  split
  · exact giveUp_generations ..
  · exact startFanOut_generations hb ..

theorem handleScreen_generations (bound : Keys) (id : String) (e : Wire.Envelope) (s : State) :
    (handleScreen b bound id e s).1.metrics.generations = s.metrics.generations := by
  unfold handleScreen
  split
  · exact giveUp_generations ..
  · dsimp only
    split
    · exact giveUp_generations ..
    · unfold shareScreen
      dsimp only
      split
      · exact giveUp_generations ..
      · exact startFanOut_generations hb ..

/-- A bridge that writes no sources counts no generation. -/
theorem dispatch_generations (id : String) (frame : List UInt8) (s : State) :
    (dispatch b id frame s).1.metrics.generations = s.metrics.generations := by
  unfold dispatch
  split
  · rfl
  · split
    · exact report_generations ..
    · rfl
    · unfold handle
      dsimp only
      split
      · exact sendTo_generations ..
      · exact handleConfig_generations hb ..
      · exact handleScreen_generations hb ..
      · rfl

end

/-- Nothing is counted of a generation before a screen is shared. -/
theorem uncounted_of_shared {id text : String} {frame : List UInt8} {bound : Keys}
    {occasion : Occasion} {s' : State} (hs : SameContext s s')
    (hany : ∀ g, dispatch (b.writing g) id frame s =
      startFanOut (b.writing g) bound text occasion s') : Uncounted s s' := by
  refine ⟨hs, ?_⟩
  have hbare : (b.writing none).generator = none := rfl
  rw [← startFanOut_generations hbare bound text occasion s', ← hany none,
    dispatch_generations hbare]

end

/-! ## The phases of a work -/

/-- A work that shares a screen on behalf of the session `n`. -/
inductive Showing [IdSupply] (n : Nat) (text : String) (d : Ui.Document) (unmapped : List String) :
    Progress → Prop
  | handing (bound : Keys) (k : Nat) (rest : List Nat) (delivered : Nat) :
      Showing n text d unmapped (.waiting ⟨bound, .send k text,
        .fanOut text rest delivered (.screen (sessionName n) d unmapped)⟩)
  | dropping (bound : Keys) (k : Nat) (rest : List Nat) (delivered : Nat) :
      Showing n text d unmapped (.waiting ⟨bound, .close k,
        .fanOut text rest delivered (.screen (sessionName n) d unmapped)⟩)

/-- A work that has nothing more to say than it has said. -/
inductive Resting : Progress → Prop
  | telling (bound : Keys) (n : Nat) (text : String) :
      Resting (.waiting ⟨bound, .send n text, .rest⟩)
  | leaving (bound : Keys) (n : Nat) : Resting (.waiting ⟨bound, .close n, .rest⟩)
  | over (r : Result) : Resting (.finished r)

/-- An error on its way to the session `n`, if that is open. -/
inductive Replied (n : Nat) (code : ErrorCode) (s : State) : Progress → Prop
  | told (bound : Keys) {text : String} (hopen : s.sessions.isOpen n)
      (htells : Tells code text) : Replied n code s (.waiting ⟨bound, .send n text, .rest⟩)
  | gone (hclosed : ¬ s.sessions.isOpen n) : Replied n code s (.finished .handled)

/-- What a move does that writes the sources of a screen: they are there, they
were refused, or the writing of them crashed. -/
inductive Concludes (g : Generator) (d : Ui.Document) (n : Nat) (s : State) :
    State × Progress → Prop
  | written {s' : State} (h : g.outcome s.files d = .ok ())
      (hcount : s'.metrics.generations = s.metrics.generations.increment "success") :
      Concludes g d n s (s', .finished .handled)
  | refused {failure : Failure} {s' : State} {p : Progress}
      (h : g.outcome s.files d = .error (.failed failure))
      (hcount : s'.metrics.generations = s.metrics.generations.increment "error")
      (hp : Replied n failure.code s p) : Concludes g d n s (s', p)
  | crashed {c : Wire.Crash} {s' : State} {p : Progress}
      (h : g.outcome s.files d = .error (.crashed c))
      (hcount : s'.metrics.generations = s.metrics.generations)
      (hp : Replied n .internal s p) : Concludes g d n s (s', p)

section
variable {b : Bridge} {g : Generator} {d : Ui.Document} {n : Nat} {text : String}
  {unmapped : List String} {s s' : State} {p : Progress} {sp : State × Progress}

theorem Replied.before {code : ErrorCode} (hp : Replied n code s' p)
    (hs : s'.sessions = s.sessions) : Replied n code s p := by
  cases hp with
  | told bound hopen htells => exact .told bound (hs ▸ hopen) htells
  | gone hclosed => exact .gone (hs ▸ hclosed)

theorem Replied.resting {code : ErrorCode} (hp : Replied n code s p) : Resting p := by
  cases hp with
  | told bound _ _ => exact .telling bound ..
  | gone _ => exact .over _

theorem Concludes.before (h : Concludes g d n s' sp) (hs : Uncounted s s') :
    Concludes g d n s sp := by
  cases h with
  | written h hcount => exact .written (hs.files ▸ h) (hs.generations ▸ hcount)
  | refused h hcount hp =>
      exact .refused (hs.files ▸ h) (hs.generations ▸ hcount) (hp.before hs.sessions)
  | crashed h hcount hp =>
      exact .crashed (hs.files ▸ h) (hcount.trans hs.generations) (hp.before hs.sessions)

theorem Concludes.resting (h : Concludes g d n s sp) : Resting sp.2 := by
  cases h with
  | written _ _ => exact .over _
  | refused _ _ hp | crashed _ _ hp => exact hp.resting

/-- A work at rest stays at rest, counts nothing and hands nothing over. -/
theorem resume_resting {t : Task} (h : Resting (.waiting t)) (b : Bridge) (outcome : Outcome)
    (s : State) :
    Resting (resume b t outcome s).2 ∧
      (resume b t outcome s).1.metrics.generations = s.metrics.generations ∧
      ∀ f k text, .called f (.send k text) ∉ (resume b t outcome s).2.entries f := by
  have hclose (bound : Keys) (n : Nat) :
      ∀ f k text, .called f (.send k text) ∉
        Progress.entries f (.waiting ⟨bound, .close n, .rest⟩) := by
    intro f k text hmem
    cases List.mem_singleton.mp hmem
  cases h with
  | telling bound n text =>
      cases outcome with
      | done => exact ⟨.over _, rfl, fun _ _ _ hmem => (nomatch hmem)⟩
      | raised reason =>
          exact ⟨.leaving bound n, (closeSession_generations ..).trans rfl, hclose bound n⟩
  | leaving bound n =>
      cases outcome with
      | done => exact ⟨.over _, rfl, fun _ _ _ hmem => (nomatch hmem)⟩
      | raised reason => exact ⟨.over _, rfl, fun _ _ _ hmem => (nomatch hmem)⟩

variable [IdSupply]

theorem report_replied (hs : s.sessions.WellFormed) (bound : Keys) (n : Nat)
    (failure : Failure) :
    Replied n failure.code s (report bound (sessionName n) failure s).2 := by
  have htells := tells_ofFailure s.now failure
  rw [report, sendTo]
  split
  · next m hm =>
      have hfind : s.sessions.openNumber? (sessionName n) = some m := hm
      rw [hs.openNumber?_eq] at hfind
      obtain ⟨hname, hopen⟩ := hs.find?_eq_some.mp hfind
      obtain rfl := sessionName_inj hname
      exact .told bound hopen htells
  · next hnone =>
      have hfind : s.sessions.openNumber? (sessionName n) = none := hnone
      rw [hs.openNumber?_eq] at hfind
      exact .gone (hs.find?_eq_none.mp hfind n rfl)

theorem writeSources_concludes (hb : b.generator = some g) (hs : s.sessions.WellFormed)
    (bound : Keys) (d : Ui.Document) :
    Concludes g d n s (writeSources b bound (sessionName n) d s) := by
  have houtcome : g.outcome s.files d = (Generator.run (g.generate d) s.files).1 := by
    rw [Generator.outcome]
  unfold writeSources
  rw [hb]
  dsimp only
  generalize Generator.run (g.generate d) s.files = r at houtcome
  obtain ⟨outcome, notices, files⟩ := r
  cases outcome with
  | ok =>
      dsimp only
      exact .written houtcome rfl
  | error stop =>
      cases stop with
      | failed failure =>
          dsimp only
          refine .refused houtcome ((giveUp_generations ..).trans rfl) ?_
          refine (report_replied ?_ ..).before ?_
          · exact hs
          · rfl
      | crashed c =>
          dsimp only
          refine .crashed houtcome ((report_generations ..).trans rfl) ?_
          refine (report_replied ?_ bound n .crashed).before ?_
          · exact hs
          · rfl

/-- A move of a work that shares a screen: it goes on, or writes the
sources. -/
inductive Goes (g : Generator) (d : Ui.Document) (n : Nat) (text : String)
    (unmapped : List String) (s : State) : State × Progress → Prop
  | on {s' : State} {p : Progress} (hcount : s'.metrics.generations = s.metrics.generations)
      (hp : Showing n text d unmapped p) : Goes g d n text unmapped s (s', p)
  | ends {sp : State × Progress} (h : Concludes g d n s sp) : Goes g d n text unmapped s sp

theorem fanOut_goes (hb : b.generator = some g) (hs : s.sessions.WellFormed)
    (huncounted : Uncounted s s') (bound : Keys) (delivered : Nat) (rest : List Nat) :
    Goes g d n text unmapped s
      (fanOut b bound text delivered (.screen (sessionName n) d unmapped) rest s') := by
  rcases fanOut_cases b bound text delivered (.screen (sessionName n) d unmapped) rest s' with
    ⟨_, k, rest', -, -, -, heq⟩ | ⟨-, heq⟩
  · rw [heq]
    exact .on huncounted.generations (.handing bound k rest' delivered)
  · rw [heq, concludeFanOut]
    refine .ends ((writeSources_concludes hb ?_ bound d).before ?_)
    · exact huncounted.sessions ▸ hs
    · exact ⟨⟨huncounted.sessions, huncounted.appConfig, huncounted.files⟩,
        huncounted.generations⟩

theorem resume_goes {t : Task} (hb : b.generator = some g) (hs : s.sessions.WellFormed)
    (h : Showing n text d unmapped (.waiting t)) (outcome : Outcome) :
    Goes g d n text unmapped s (resume b t outcome s) := by
  cases h with
  | handing bound k rest delivered =>
      cases outcome with
      | done => exact fanOut_goes hb hs (.refl s) bound (delivered + 1) rest
      | raised reason =>
          exact .on ((closeSession_generations ..).trans rfl) (.dropping bound k rest delivered)
  | dropping bound k rest delivered =>
      cases outcome with
      | done => exact fanOut_goes hb hs (.refl s) bound delivered rest
      | raised reason =>
          refine fanOut_goes hb hs ?_ bound delivered rest
          exact ⟨⟨rfl, rfl, rfl⟩, rfl⟩

end

/-! ## Runs -/

/-- What a run has of a work that shares a screen: no generation is counted in
its moves, and all that it hands over is the screen. -/
structure OnlyShows [IdSupply] (b : Bridge) (f : Nat) (text : String) (w : World)
    (ms : List Move) : Prop where
  uncounted : ∀ status, w.countedBy b f status ms = 0
  texts : ∀ k t, .called f (.send k t) ∈ w.trace b ms → t = text

/-- The one text that is still handed over is an error for the session `n`, and
it is handed over if that is open. -/
def Told (f n : Nat) (code : ErrorCode) (s : State) (es : List Entry) : Prop :=
  ∃ text, Tells code text ∧
    ∀ k t, .called f (.send k t) ∈ es ↔ s.sessions.isOpen n ∧ k = n ∧ t = text

/-- What a run shows of the generation of a screen from the move on that writes
its sources. Either the sources are there, and one success is counted; or they
were refused, one error is counted, and the sender is told of an error of
generation; or, where something stands in the way that generation is not
prepared for, nothing is counted and the sender is told of an internal error. -/
inductive Concluded [IdSupply] (b : Bridge) (g : Generator) (d : Ui.Document) (f n : Nat)
    (w : World) (ms : List Move) : Prop
  | written (h : g.outcome w.state.files d = .ok ())
      (hcount : ∀ status, w.countedBy b f status ms = if status = "success" then 1 else 0)
      (htold : ∀ k t, .called f (.send k t) ∉ w.trace b ms)
  | refused {failure : Failure} (h : g.outcome w.state.files d = .error (.failed failure))
      (hcount : ∀ status, w.countedBy b f status ms = if status = "error" then 1 else 0)
      (htold : Told f n .generation w.state (w.trace b ms))
  | crashed {c : Wire.Crash} (h : g.outcome w.state.files d = .error (.crashed c))
      (hunclear : ¬ Generator.Clear g d w.state.files)
      (hcount : ∀ status, w.countedBy b f status ms = 0)
      (htold : Told f n .internal w.state (w.trace b ms))

/-- A run of a work that shares a screen: it is still showing it, or the run is cut
at the move that writes the sources. -/
inductive ShareRun [IdSupply] (b : Bridge) (g : Generator) (d : Ui.Document) (f n : Nat)
    (text : String) (unmapped : List String) (w : World) (ms : List Move) : Prop
  | showing {p : Progress} (hp : (w.run b ms).works[f]? = some p)
      (h : Showing n text d unmapped p) (hquiet : OnlyShows b f text w ms)
  | concluded (before later : List Move) (hms : ms = before ++ later)
      (hquiet : OnlyShows b f text w before) (h : Concluded b g d f n (w.run b before) later)

section
variable {b : Bridge} {g : Generator} {d : Ui.Document} {f n : Nat} {text : String}
  {unmapped : List String} {w : World} {p : Progress} {m : Move}

/-- The error that is on its way is handed over by the move itself, and nothing
after it. -/
theorem Replied.tells {code : ErrorCode} {s : State} {line : Entry} {later : List Entry}
    (hp : Replied n code s p) (hline : ∀ c, line ≠ .called f c)
    (hlater : ∀ k t, .called f (.send k t) ∉ later) :
    Told f n code s (line :: p.entries f ++ later) := by
  have hmem (k : Nat) (t : String) :
      .called f (.send k t) ∈ line :: p.entries f ++ later ↔
        .called f (.send k t) ∈ p.entries f := by
    rw [List.mem_append, or_iff_left (hlater k t), List.mem_cons,
      or_iff_right (Ne.symm (hline _))]
  cases hp with
  | @told bound text hopen htells =>
      refine ⟨text, htells, fun k t => ?_⟩
      rw [hmem, Progress.entries, List.mem_singleton, Entry.called.injEq, Call.send.injEq]
      simp [hopen]
  | gone hclosed =>
      obtain ⟨text, htells⟩ : ∃ text, Tells code text :=
        ⟨_, "", "", none, rfl⟩
      refine ⟨text, htells, fun k t => ?_⟩
      rw [hmem, Progress.entries]
      simp [hclosed]

theorem not_mem_of_other {es : List Entry} (h : ∀ e ∈ es, e.work ≠ f) (c : Call) :
    .called f c ∉ es :=
  fun hmem => h _ hmem rfl

variable [IdSupply]

namespace World

theorem run_resting (hp : w.works[f]? = some p) (h : Resting p) (b : Bridge) (ms : List Move) :
    (∀ status, w.countedBy b f status ms = 0) ∧
      ∀ k t, .called f (.send k t) ∉ w.trace b ms := by
  induction ms generalizing w p with
  | nil => exact ⟨fun _ => rfl, fun _ _ hmem => (nomatch hmem)⟩
  | cons m ms ih =>
      cases step_turn hp b m with
      | rests hworks hother =>
          obtain ⟨hcount, htold⟩ := ih hworks h
          refine ⟨fun status => (countedBy_cons_other hother status ms).trans (hcount status), ?_⟩
          intro k t hmem
          rcases List.mem_append.mp hmem with hnew | hlater
          · exact not_mem_of_other hother _ hnew
          · exact htold k t hlater
      | resumes outcome hworks hstate hnews =>
          obtain ⟨hrests, hgenerations, hnone⟩ := resume_resting h b outcome w.state
          obtain ⟨hcount, htold⟩ := ih hworks hrests
          refine ⟨fun status => ?_, fun k t hmem => ?_⟩
          · rw [countedBy_cons_own (f := f) hnews rfl, hcount, hstate, State.generated,
              State.generated, hgenerations]
            omega
          · rw [trace, hnews] at hmem
            rcases List.mem_append.mp hmem with hnew | hlater
            · rcases List.mem_cons.mp hnew with heq | hcalled
              · cases heq
              · exact hnone f k t hcalled
            · exact htold k t hlater

end World

/-- The move that writes the sources, and all that comes after it. -/
theorem Concludes.concluded {sp : State × Progress} {line : Entry} {ms : List Move}
    (h : Concludes g d n w.state sp) (hworks : (w.step b m).works[f]? = some sp.2)
    (hstate : (w.step b m).state = sp.1) (hnews : w.news b m = line :: sp.2.entries f)
    (hown : line.work = f) (hline : ∀ c, line ≠ .called f c) :
    Concluded b g d f n w (m :: ms) := by
  obtain ⟨hcount, hlater⟩ := World.run_resting hworks h.resting b ms
  have hadded (status : String) : w.countedBy b f status (m :: ms) =
      (sp.1.generated status : Int) - w.state.generated status := by
    rw [World.countedBy_cons_own hnews hown, hcount, hstate]
    omega
  have htrace : w.trace b (m :: ms) =
      line :: sp.2.entries f ++ (w.step b m).trace b ms := by
    rw [World.trace, hnews]
  cases h with
  | written h hgenerations =>
      refine .written h (fun status => ?_) fun k t hmem => ?_
      · rw [hadded, generated_of_increment hgenerations]
        split <;> omega
      · rw [htrace] at hmem
        rcases List.mem_append.mp hmem with hnew | hafter
        · exact hline _ (List.mem_singleton.mp hnew).symm
        · exact hlater k t hafter
  | refused h hgenerations hp =>
      refine .refused h (fun status => ?_) ?_
      · rw [hadded, generated_of_increment hgenerations]
        split <;> omega
      · rw [htrace, ← Generator.code_of_outcome h]
        exact hp.tells hline hlater
  | crashed h hgenerations hp =>
      refine .crashed h (Generator.not_clear_of_crashed h) (fun status => ?_) ?_
      · rw [hadded, State.generated, State.generated, hgenerations]
        omega
      · rw [htrace]
        exact hp.tells hline hlater

theorem OnlyShows.nil (b : Bridge) (f : Nat) (text : String) (w : World) :
    OnlyShows b f text w [] :=
  ⟨fun _ => rfl, fun _ _ hmem => (nomatch hmem)⟩

/-- A move of another work, or one of the work itself that counts nothing and
hands over nothing but `text`. -/
inductive StillShows (b : Bridge) (f : Nat) (text : String) (w : World) (m : Move) : Prop
  | other (h : ∀ e ∈ w.news b m, e.work ≠ f)
  | own {line : Entry} {lines : List Entry} (hnews : w.news b m = line :: lines)
      (hown : line.work = f)
      (hcount : (w.step b m).state.metrics.generations = w.state.metrics.generations)
      (htexts : ∀ k t, .called f (.send k t) ∈ w.news b m → t = text)

theorem OnlyShows.cons {ms : List Move} (h : OnlyShows b f text (w.step b m) ms)
    (hmove : StillShows b f text w m) : OnlyShows b f text w (m :: ms) := by
  cases hmove with
  | other hother =>
      refine ⟨fun status => ?_, fun k t hmem => ?_⟩
      · rw [World.countedBy_cons_other hother, h.uncounted]
      · rcases List.mem_append.mp hmem with hnew | hlater
        · exact absurd hnew (not_mem_of_other hother _)
        · exact h.texts k t hlater
  | own hnews hown hcount htexts =>
      refine ⟨fun status => ?_, fun k t hmem => ?_⟩
      · rw [World.countedBy_cons_own hnews hown, h.uncounted, State.generated, State.generated,
          hcount]
        omega
      · rcases List.mem_append.mp hmem with hnew | hlater
        · exact htexts k t hnew
        · exact h.texts k t hlater

theorem ShareRun.cons {ms : List Move} (h : ShareRun b g d f n text unmapped (w.step b m) ms)
    (hmove : StillShows b f text w m) : ShareRun b g d f n text unmapped w (m :: ms) := by
  cases h with
  | showing hp h hquiet => exact .showing hp h (hquiet.cons hmove)
  | concluded before later hms hquiet h =>
      exact .concluded (m :: before) later (congrArg (m :: ·) hms) (hquiet.cons hmove) h

theorem Showing.texts (h : Showing n text d unmapped p) {k : Nat} {t : String}
    (hmem : .called f (.send k t) ∈ p.entries f) : t = text := by
  cases h with
  | handing =>
      cases List.mem_singleton.mp hmem
      rfl
  | dropping => cases List.mem_singleton.mp hmem

/-- A run goes on as its first move does, which is one of the work itself. -/
theorem Goes.run {sp : State × Progress} {line : Entry} {ms : List Move}
    (h : Goes g d n text unmapped w.state sp) (hworks : (w.step b m).works[f]? = some sp.2)
    (hstate : (w.step b m).state = sp.1) (hnews : w.news b m = line :: sp.2.entries f)
    (hown : line.work = f) (hline : ∀ c, line ≠ .called f c)
    (hrun : Showing n text d unmapped sp.2 → ShareRun b g d f n text unmapped (w.step b m) ms) :
    ShareRun b g d f n text unmapped w (m :: ms) := by
  cases h with
  | @on s' p hcount hp =>
      refine (hrun hp).cons (.own hnews hown (hstate ▸ hcount) fun k t hmem => ?_)
      rw [hnews] at hmem
      rcases List.mem_cons.mp hmem with heq | hcalled
      · exact absurd heq.symm (hline _)
      · exact hp.texts hcalled
  | ends h =>
      exact .concluded [] (m :: ms) rfl (.nil b f text w)
        (h.concluded hworks hstate hnews hown hline)

namespace World

theorem run_showing (hb : b.generator = some g) (h : w.Sound) (hp : w.works[f]? = some p)
    (hshowing : Showing n text d unmapped p) (ms : List Move) :
    ShareRun b g d f n text unmapped w ms := by
  induction ms generalizing w p with
  | nil => exact .showing hp hshowing (.nil b f text w)
  | cons m ms ih =>
      cases step_turn hp b m with
      | rests hworks hother => exact (ih (h.step b m) hworks hshowing).cons (.other hother)
      | resumes outcome hworks hstate hnews =>
          exact (resume_goes hb h.table hshowing outcome).run hworks hstate hnews rfl
            (fun c hc => nomatch hc) fun hp' => ih (h.step b _) hworks hp'

end World

end

/-! ## Which screen is shared -/

/-- A frame that comes in at a time brings a screen: it is the update of one, and
the document in it is valid. -/
def Brings (b : Bridge) (now : String) (frame : List UInt8) (d : Ui.Document) : Prop :=
  ∃ e, Wire.parseEnvelope b.settings.maxMessageSize b.settings.maxJsonDepth frame = .ok e ∧
    Wire.MessageType.ofWord? e.type = some .uiUpdate ∧ Ui.Document.ofJson now e.payload = .valid d

/-- The document of the screen that a work shares. -/
def Progress.document? : Progress → Option Ui.Document
  | .waiting ⟨_, _, .fanOut _ _ _ (.screen _ d _)⟩ => some d
  | _ => none

section
variable {b : Bridge} {s : State} {d : Ui.Document}

theorem Resting.document? {p : Progress} (h : Resting p) : p.document? = none := by
  cases h <;> rfl

theorem sendTo_resting (bound : Keys) (id text : String) (r : Result) (s : State) :
    Resting (sendTo bound id text .rest r s).2 := by
  rw [sendTo]
  split
  · exact .telling ..
  · exact .over _

theorem report_resting (bound : Keys) (id : String) (failure : Failure) (s : State) :
    Resting (report bound id failure s).2 :=
  sendTo_resting ..

theorem giveUp_resting (bound : Keys) (id : String) (failure : Failure) (s : State) :
    Resting (giveUp bound id failure s).2 :=
  report_resting ..

theorem writeSources_resting (b : Bridge) (bound : Keys) (sender : String) (d : Ui.Document)
    (s : State) : Resting (writeSources b bound sender d s).2 := by
  unfold writeSources
  split
  · exact .over _
  · next g _ =>
    generalize Generator.run (g.generate d) s.files = r
    obtain ⟨outcome, notices, files⟩ := r
    dsimp only
    split
    · exact .over _
    · exact giveUp_resting ..
    · exact report_resting ..

theorem concludeFanOut_resting (b : Bridge) (bound : Keys) (delivered : Nat)
    (occasion : Occasion) (s : State) :
    Resting (concludeFanOut b bound delivered occasion s).2 := by
  cases occasion with
  | message | config => exact .over _
  | screen sender d unmapped =>
      rw [concludeFanOut]
      exact writeSources_resting ..

/-- A fan-out shares the screen that it was started for. -/
theorem startFanOut_document? {bound : Keys} {text : String} {occasion : Occasion}
    (h : (startFanOut b bound text occasion s).2.document? = some d) :
    ∃ sender unmapped, occasion = .screen sender d unmapped := by
  rw [startFanOut] at h
  rcases fanOut_cases b bound text 0 occasion s.sessions.openNumbers s with
    ⟨_, _, _, -, -, -, heq⟩ | ⟨-, heq⟩
  · rw [heq] at h
    cases occasion with
    | message | config => cases h
    | screen sender d' unmapped =>
        cases h
        exact ⟨sender, unmapped, rfl⟩
  · rw [heq, (concludeFanOut_resting ..).document?] at h
    cases h

/-- While somebody is open, a fan-out does not end with its start. -/
theorem document?_startFanOut [IdSupply] {n : Nat} (hs : s.sessions.WellFormed)
    (hopen : s.sessions.isOpen n) (bound : Keys) (text sender : String) (unmapped : List String) :
    (startFanOut b bound text (.screen sender d unmapped) s).2.document? = some d := by
  rw [startFanOut]
  rcases fanOut_cases b bound text 0 (.screen sender d unmapped) s.sessions.openNumbers s with
    ⟨_, _, _, -, -, -, heq⟩ | ⟨hclosed, -⟩
  · rw [heq]
    rfl
  · exact absurd hopen (hclosed n (hs.mem_openNumbers.mpr hopen))

/-- A work that shares a screen was started by a frame that brings it. -/
theorem brings_of_dispatch {id : String} {frame : List UInt8}
    (h : (dispatch b id frame s).2.document? = some d) : Brings b s.now frame d := by
  unfold dispatch at h
  split at h
  · cases h
  split at h
  · rw [(report_resting ..).document?] at h
    cases h
  · cases h
  next e hparse =>
  refine ⟨e, hparse, ?_⟩
  unfold handle at h
  dsimp only at h
  split at h
  · rw [(sendTo_resting ..).document?] at h
    cases h
  · unfold handleConfig at h
    split at h
    · rw [(giveUp_resting ..).document?] at h
      cases h
    · obtain ⟨_, _, hc⟩ := startFanOut_document? h
      cases hc
  · next htype =>
    refine ⟨htype, ?_⟩
    unfold handleScreen at h
    split at h
    · rw [(giveUp_resting ..).document?] at h
      cases h
    next d' hvalid =>
    dsimp only at h
    split at h
    · rw [(giveUp_resting ..).document?] at h
      cases h
    unfold shareScreen at h
    dsimp only at h
    split at h
    · rw [(giveUp_resting ..).document?] at h
      cases h
    · obtain ⟨_, _, hd⟩ := startFanOut_document? h
      cases hd
      exact hvalid
  · cases h

end

/-! ## What is reported of a generation -/

/-- What the moves `ms` show of the generation of the screen `d`, if they begin
with a frame of the session `n` whose work `f` shares `text`. -/
structure Reported [IdSupply] (b : Bridge) (g : Generator) (d : Ui.Document) (f n : Nat)
    (text : String) (w : World) (ms : List Move) : Prop where
  /-- The work is over, or has been told the outcomes of less calls than two for
  each viewer and two for its sender. -/
  through : (∃ r, (w.run b ms).works[f]? = some (.finished r)) ∨
    (∃ t, (w.run b ms).works[f]? = some (.waiting t)) ∧
      answersTo f (w.trace b ms) < 2 * w.state.sessions.openNumbers.length + 2
  /-- When it is over, there was one move that wrote the sources. Up to it no
  generation was counted and all that was handed over is the screen; from it on
  there is one of three ends. -/
  once : ∀ r, (w.run b ms).works[f]? = some (.finished r) →
    ∃ before later, ms = before ++ later ∧ OnlyShows b f text w before ∧
      Concluded b g d f n (w.run b before) later

namespace World

variable {b : Bridge} {g : Generator} {w : World} {id text : String} {frame : List UInt8}
  {ms : List Move} {k : Nat}

theorem code_eq_of_told {f n : Nat} {code code' : ErrorCode} {s : State} {es : List Entry}
    (h : Told f n code s es) (hend : EndsIn f code' es) : code' = code := by
  obtain ⟨k, t, hmem, htells⟩ := hend
  obtain ⟨reply, htold, hiff⟩ := h
  obtain ⟨-, -, rfl⟩ := (hiff k t).mp hmem
  exact htells.code_eq htold

/-- No error is shown as a screen. -/
theorem not_tells_of_componentSpec {code : ErrorCode}
    (hspec : Message.IsOfType text .componentSpec) : ¬ Tells code text := by
  obtain ⟨m, htype, rfl⟩ := hspec
  intro htells
  cases htype.symm.trans htells.type_eq

section
variable [IdSupply]

/-- A frame that is answered shows nobody a screen. -/
theorem not_shown_of_replied {n : Nat} {bound : Keys} {reply : Message}
    (hstart : (b.start (.frame id frame) w.state).2 =
      .waiting ⟨bound, .send n reply.text, .rest⟩) (hreply : reply.type ≠ .componentSpec)
    (hspec : Message.IsOfType text .componentSpec) :
    .called w.works.length (.send k text) ∉ w.trace b (.start (.frame id frame) :: ms) := by
  have hworks : (w.step b (.start (.frame id frame))).works[w.works.length]? =
      some (b.start (.frame id frame) w.state).2 := List.getElem?_concat_length
  rw [hstart] at hworks
  intro hmem
  rcases List.mem_append.mp hmem with hnew | hlater
  · have hcall := mem_callsBy.mpr hnew
    rw [callsBy_news_start hstart] at hcall
    cases List.mem_singleton.mp hcall
    exact hreply ((Message.isOfType_text reply).unique hspec)
  · exact (run_resting hworks (.telling ..) b ms).2 k text hlater

theorem not_shown_of_finished {r : Result}
    (hstart : (b.start (.frame id frame) w.state).2 = .finished r) :
    .called w.works.length (.send k text) ∉ w.trace b (.start (.frame id frame) :: ms) := by
  intro hmem
  have hcall := mem_callsBy.mpr hmem
  rw [calls_of_finished hstart ms] at hcall
  cases hcall

/-- The work on a frame of the session `n` begins to share the screen `d`. -/
structure BeginsSharing (b : Bridge) (w : World) (id : String) (frame : List UInt8) (n : Nat)
    (text : String) (d : Ui.Document) : Prop where
  sender : w.state.sessions.openNumber? id = some n
  brings : Brings b w.state.now frame d
  spec : ∃ components current,
    text = (Message.componentSpec w.state.now d components current (some id)).text
  dispatched : ∃ unmapped bound s', SameContext w.state s' ∧
    ∀ g, dispatch (b.writing g) id frame w.state =
      startFanOut (b.writing g) bound text (.screen id d unmapped) s'

/-- A frame that shows somebody a screen comes from an open session, and its
work shares a screen. -/
theorem shared_of_shown (h : w.Sound) (hspec : Message.IsOfType text .componentSpec)
    (hshown : .called w.works.length (.send k text) ∈
      w.trace b (.start (.frame id frame) :: ms)) :
    ∃ n shared d, BeginsSharing b w id frame n shared d := by
  cases hopen : w.state.sessions.openNumber? id with
  | none =>
      have hstart : b.start (.frame id frame) w.state =
          (w.state.note [] (.messageForClosedSession id), .finished .handled) := by
        show dispatch b id frame w.state = _
        rw [dispatch, hopen]
      exact absurd hshown (not_shown_of_finished (congrArg Prod.snd hstart))
  | some n =>
      have hcases := dispatch_cases hopen b frame
      generalize hsp : dispatch b id frame w.state = sp at hcases
      have hstart : b.start (.frame id frame) w.state = sp := hsp
      cases hcases with
      | unread | ignored =>
          exact absurd hshown (not_shown_of_finished (congrArg Prod.snd hstart))
      | refused =>
          exact absurd hshown
            (not_shown_of_replied (congrArg Prod.snd hstart) (by rintro ⟨⟩) hspec)
      | pong =>
          exact absurd hshown
            (not_shown_of_replied (congrArg Prod.snd hstart) (by rintro ⟨⟩) hspec)
      | @config config s' bound hctx =>
          have hocc : (Occasion.config config.title).weight = 0 := rfl
          obtain ⟨hfan, -⟩ := FanOut.start hocc hstart hctx.sessions
          obtain rfl := (hfan.run rfl (h.step b _) b ms).sameText hshown
          cases (Message.isOfType_text _).unique hspec
      | @screen d t s' bound hctx hany =>
          have hopen' : s'.sessions.isOpen n := by
            rw [hctx.sessions]
            exact SessionTable.isOpen_of_openNumber? hopen
          have hdocument : (dispatch b id frame w.state).2.document? = some d := by
            rw [hsp]
            exact document?_startFanOut (hctx.sessions ▸ h.table) hopen' ..
          exact ⟨n, _, d, hopen, brings_of_dispatch hdocument,
            ⟨t.component.toJson, w.state.appConfig, rfl⟩, ⟨t.unmapped, bound, s', hctx, hany⟩⟩

section
variable {n : Nat} {shared : String} {d : Ui.Document}

theorem run_shared (hb : b.generator = some g) (h : w.Sound)
    (hshares : BeginsSharing b w id frame n shared d) (ms : List Move) :
    ∃ unmapped, ShareRun b g d w.works.length n shared unmapped w
      (.start (.frame id frame) :: ms) := by
  obtain ⟨unmapped, bound, s', hs, hany⟩ := hshares.dispatched
  have hsender := hshares.sender
  rw [h.table.openNumber?_eq] at hsender
  obtain ⟨rfl, -⟩ := h.table.find?_eq_some.mp hsender
  have hself := hany b.generator
  rw [writing_generator] at hself
  have hgoes : Goes g d n shared unmapped w.state
      (dispatch b (sessionName n) frame w.state) := by
    rw [hself]
    exact fanOut_goes hb h.table (uncounted_of_shared hs hany) bound 0 _
  have hworks : (w.step b (.start (.frame (sessionName n) frame))).works[w.works.length]? =
      some (dispatch b (sessionName n) frame w.state).2 := List.getElem?_concat_length
  exact ⟨unmapped, hgoes.run hworks rfl rfl rfl (fun c hc => nomatch hc)
    fun hp => run_showing hb (h.step b _) hworks hp ms⟩

/-- The work makes at most two calls for each session that is open, and two for
its sender. -/
theorem answers_to_shared_bounded (hshares : BeginsSharing b w id frame n shared d)
    (ms : List Move) :
    (∃ r, (w.run b (.start (.frame id frame) :: ms)).works[w.works.length]? =
      some (.finished r)) ∨
    (∃ t, (w.run b (.start (.frame id frame) :: ms)).works[w.works.length]? =
      some (.waiting t)) ∧
      answersTo w.works.length (w.trace b (.start (.frame id frame) :: ms)) <
        2 * w.state.sessions.openNumbers.length + 2 := by
  obtain ⟨unmapped, bound, s', hs, hany⟩ := hshares.dispatched
  have hself := hany b.generator
  rw [writing_generator] at hself
  have hworks : (w.step b (.start (.frame id frame))).works[w.works.length]? =
      some (dispatch b id frame w.state).2 := List.getElem?_concat_length
  have hweight : (dispatch b id frame w.state).2.weight ≤
      2 * w.state.sessions.openNumbers.length + 2 := by
    rw [hself, ← hs.sessions]
    exact fanOut_weight_le ..
  have hnone : answersTo w.works.length (w.news b (.start (.frame id frame))) = 0 :=
    answersTo_entries ..
  rw [run_cons, trace, answersTo_append, hnone, Nat.zero_add]
  exact run_within hworks hweight b ms

end

/-- What is shown as a screen is the one that the work shares. -/
theorem text_eq_of_shown {d : Ui.Document} {f n : Nat} {shared : String} {unmapped : List String}
    (h : ShareRun b g d f n shared unmapped w ms)
    (hspec : Message.IsOfType text .componentSpec)
    (hshown : .called f (.send k text) ∈ w.trace b ms) : text = shared := by
  cases h with
  | showing _ _ hquiet => exact hquiet.texts k text hshown
  | concluded before later hms hquiet h =>
      rw [hms, trace_append] at hshown
      rcases List.mem_append.mp hshown with hbefore | hlater
      · exact hquiet.texts k text hbefore
      · cases h with
        | written _ _ htold => exact absurd hlater (htold k text)
        | refused _ _ htold | crashed _ _ _ htold =>
            obtain ⟨reply, htells, hiff⟩ := htold
            obtain ⟨-, -, rfl⟩ := (hiff k text).mp hlater
            exact absurd htells (not_tells_of_componentSpec hspec)

/-- Where nothing stands in the way but what the system may refuse, generating a
screen returns or fails as generation. So every screen that a frame has shared
on a bridge that writes sources ends in one report: one success counted, or one
error counted and its sender told of an error of generation. Where something
does stand in the way, nothing is counted and the error is an internal one. -/
theorem screens_reported (hb : b.generator = some g) (h : w.Reachable b)
    (hspec : Message.IsOfType text .componentSpec)
    (hshown : .called w.works.length (.send k text) ∈
      w.trace b (.start (.frame id frame) :: ms)) :
    (∀ t d, Generator.Clear g d t → g.outcome t d = .ok () ∨
      ∃ failure, g.outcome t d = .error (.failed failure) ∧ failure.code = .generation) ∧
    ∃ n d components current, w.state.sessions.openNumber? id = some n ∧
      Brings b w.state.now frame d ∧
      text = (Message.componentSpec w.state.now d components current (some id)).text ∧
      Reported b g d w.works.length n text w (.start (.frame id frame) :: ms) := by
  refine ⟨fun t d hclear => Generator.outcome_of_clear hclear, ?_⟩
  obtain ⟨n, shared, d, hshares⟩ := shared_of_shown h.sound hspec hshown
  obtain ⟨unmapped, hrun⟩ := run_shared hb h.sound hshares ms
  obtain rfl := text_eq_of_shown hrun hspec hshown
  obtain ⟨components, current, htext⟩ := hshares.spec
  refine ⟨n, d, components, current, hshares.sender, hshares.brings, htext,
    answers_to_shared_bounded hshares ms, fun r hr => ?_⟩
  cases hrun with
  | showing hp hshowing _ =>
      cases hp.symm.trans hr
      cases hshowing
  | concluded before later hms hquiet h => exact ⟨before, later, hms, hquiet, h⟩

/-- Up to the writing of the sources there is no error. -/
theorem endsIn_later {f : Nat} {code : ErrorCode} {before later : List Move}
    (hspec : Message.IsOfType text .componentSpec) (hquiet : OnlyShows b f text w before)
    (hend : EndsIn f code (w.trace b (before ++ later))) :
    EndsIn f code ((w.run b before).trace b later) := by
  obtain ⟨k, t, hmem, htells⟩ := hend
  rw [trace_append] at hmem
  rcases List.mem_append.mp hmem with hbefore | hlater
  · rw [hquiet.texts k t hbefore] at htells
    exact absurd htells (not_tells_of_componentSpec hspec)
  · exact ⟨k, t, hlater, htells⟩

end

/-- A bridge that writes sources shares a screen whatever it is called. -/
theorem shows_oneScreen :
    .called 2 (.send 0 (Message.componentSpec (bothOpen scribe).state.now
        ⟨"a/b", "/", (bothOpen scribe).state.now, "en",
          ⟨none, "Text", [], none, none, none, none⟩, [], [], []⟩
        (Component.toJson ⟨"div", [], none, none⟩) none (some (sessionName 0))).text) ∈
      (bothOpen scribe).trace scribe oneScreen := by
  have hopen : (bothOpen scribe).state.sessions.openNumber? (sessionName 0) = some 0 := by
    decide +kernel
  have hall : (bothOpen scribe).state.sessions.openNumbers = [0, 1] := rfl
  have hfirst : (bothOpen scribe).state.sessions.isOpen 0 := rfl
  have hparse : Wire.parseEnvelope 1048576 200 (screenFrame "a/b") =
      .ok ⟨"UI_UPDATE", none, none, some [("screenId", .str "a/b"), ("route", .str "/"),
        ("tree", .obj [("type", .str "Text")])]⟩ := by decide +kernel
  obtain ⟨bound, s', hs, hany⟩ := dispatch_translated (b := scribe) (u := ()) hopen hparse rfl
    rfl rfl rfl
  have hself := hany scribe.generator
  rw [writing_generator, startFanOut, hs.sessions, hall, fanOut,
    if_pos (hs.sessions ▸ hfirst)] at hself
  refine List.mem_append_left _ (List.mem_cons_of_mem _ ?_)
  show _ ∈ (dispatch scribe (sessionName 0) (screenFrame "a/b")
    (bothOpen scribe).state).2.entries 2
  rw [hself]
  exact List.mem_singleton_self _

/-- A screen whose name leads out of its directory is counted as one error, and
the error that its sender is told of is one of generation. -/
theorem screens_reported_outside :
    (∀ status, (bothOpen scribe).countedBy scribe 2 status oneScreen =
      if status = "error" then 1 else 0) ∧
    ∀ code, EndsIn 2 code ((bothOpen scribe).trace scribe oneScreen) → code = .generation := by
  have hreach : (bothOpen scribe).Reachable scribe := Reachable.launched.run _
  have hspec := Message.isOfType_text (Message.componentSpec (bothOpen scribe).state.now
    ⟨"a/b", "/", (bothOpen scribe).state.now, "en",
      ⟨none, "Text", [], none, none, none, none⟩, [], [], []⟩
    (Component.toJson ⟨"div", [], none, none⟩) none (some (sessionName 0)))
  obtain ⟨-, n, d, _, _, -, -, -, hreported⟩ :=
    screens_reported (b := scribe) rfl hreach hspec shows_oneScreen
  obtain ⟨hcounted, hweight⟩ :
      (bothOpen scribe).countedBy scribe 2 "error" oneScreen = 1 ∧
      ((bothOpen scribe).run scribe oneScreen).works[2]?.map Progress.weight = some 0 := by
    decide +kernel
  obtain ⟨p, hp, hzero⟩ := Option.map_eq_some_iff.mp hweight
  have hover : ∃ r, p = .finished r := by
    cases p with
    | finished r => exact ⟨r, rfl⟩
    | waiting t => exact absurd hzero (Nat.ne_of_gt t.weight_pos)
  obtain ⟨r, rfl⟩ := hover
  have hlength : (bothOpen scribe).works.length = 2 := rfl
  rw [hlength] at hreported
  obtain ⟨before, later, hms, hquiet, hconcluded⟩ := hreported.once r hp
  rw [oneScreen, hms] at hcounted ⊢
  rw [countedBy_append, hquiet.uncounted, Int.zero_add] at hcounted
  cases hconcluded with
  | written _ hcount _ =>
      rw [hcount] at hcounted
      exact absurd hcounted (by decide)
  | crashed _ _ hcount _ =>
      rw [hcount] at hcounted
      exact absurd hcounted (by decide)
  | refused _ hcount htold =>
      refine ⟨fun status => ?_, fun code hend => ?_⟩
      · rw [countedBy_append, hquiet.uncounted, Int.zero_add, hcount]
      · exact code_eq_of_told htold (endsIn_later hspec hquiet hend)

/-- The first viewer sends a screen with a NUL in its name. -/
def nullScreen : List Move :=
  [.start (.frame (sessionName 0) (screenFrame "a\\u0000b")),
    .answer 2 .done, .answer 2 .done, .answer 2 .done]

/-- It is neither generated nor refused. Both viewers get the screen and the
work ends, but no generation is counted, and the error is an internal one. -/
theorem not_reported_nullScreen :
    Generator.frontend.outcome .empty (Generator.plainScreen "a\x00b" "/") =
      .error (.crashed .nullByte) ∧
    handedBy 2 ((bothOpen scribe).trace scribe nullScreen) = [0, 1, 0] ∧
    ((bothOpen scribe).run scribe nullScreen).works[2]?.map Progress.weight = some 0 ∧
    ((bothOpen scribe).run scribe nullScreen).state.metrics.generations = [] ∧
    ((bothOpen scribe).run scribe nullScreen).state.metrics.errors = [("INTERNAL_ERROR", 1)] := by
  have hnull : Generator.HasNull Generator.frontend (Generator.plainScreen "a\x00b" "/") :=
    .inl (by decide)
  exact ⟨((Generator.course_next _ _ _).crashed hnull).2, by decide +kernel⟩

end World

end ScreenBridge.Bridge
