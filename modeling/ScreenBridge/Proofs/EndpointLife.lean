import ScreenBridge.Proofs.Endpoints
import ScreenBridge.Proofs.FanOut

/-!
# The life of an endpoint

What an endpoint does, line by line, is a matter of its own desk: it takes a
frame, passes it on to be handled, comes to a result and goes on, until it ends
in one of three ways. `Lived` is that course, and a run keeps it for every
endpoint (`Diary`), because the lines of a happening belong to one connection
and add one more piece to its life (`Entered`) and nothing to any other. The
inbox goes along: what has come in is what was taken, and what is left of it.

That an endpoint cannot wait for ever for the outcomes of its calls is the
weight of the task that it waits with, which every outcome lowers.
-/

namespace ScreenBridge.Server

open Bridge (Call Outcome Progress Result State Task)

/-! ## The life of an endpoint -/

/-- Where an endpoint is in its life; while it greets it has taken nothing. -/
inductive Phase where
  | receiving
  | handling
  | ended
  deriving DecidableEq, Repr

def Stage.phase : Stage → Phase
  | .greeting _ | .receiving => .receiving
  | .handling _ => .handling
  | .ended => .ended

theorem phase_ofGreeting (p : Progress) : (Stage.ofGreeting p).phase = .receiving := by
  cases p <;> rfl

/-- What can have become of an endpoint, line by line. It has the frames that
it takes handled one after the other, and it ends when it takes that its viewer
has gone, when the handling of a frame breaks off, or when after a frame its
session is not in the table. -/
inductive Lived (c : Nat) : List Line → Phase → Prop where
  | starts : Lived c [] .receiving
  | takes {ls : List Line} (h : Lived c ls .receiving) (text : Option String)
      (bytes : Option (List UInt8)) :
      Lived c (ls ++ [.took c (.frame text bytes), .passed c (rawFrame text bytes)]) .handling
  | goesOn {ls : List Line} (h : Lived c ls .handling) {r : Result} {present : Bool}
      (hends : endsAfter r present = false) :
      Lived c (ls ++ [.came c r present]) .receiving
  | ends {ls : List Line} (h : Lived c ls .handling) {r : Result} {present : Bool}
      (hends : endsAfter r present = true) :
      Lived c (ls ++ [.came c r present, .ended c]) .ended
  | leaves {ls : List Line} (h : Lived c ls .receiving) (code : Option Int) :
      Lived c (ls ++ [.took c (.disconnect code), .ended c]) .ended

namespace Line

def connection : Line → Nat
  | .arrived c _ | .took c _ | .passed c _ | .called c _ | .answered c _ _ | .came c _ _
  | .ended c => c

/-- Whether a line is about what the endpoint itself does. -/
def ofLife : Line → Bool
  | .took .. | .passed .. | .came .. | .ended _ => true
  | .arrived .. | .called .. | .answered .. => false

def arrived? : Line → Option Incoming
  | .arrived _ event => some event
  | _ => none

def taken? : Line → Option Incoming
  | .took _ event => some event
  | _ => none

def passed? : Line → Option (List UInt8)
  | .passed _ frame => some frame
  | _ => none

end Line

/-- The lines of one connection. -/
def linesOf (c : Nat) (es : List Line) : List Line :=
  es.filter fun l => l.connection = c

section
variable {c k : Nat} {es es' : List Line}

theorem linesOf_append : linesOf c (es ++ es') = linesOf c es ++ linesOf c es' :=
  List.filter_append ..

theorem linesOf_self (h : ∀ l ∈ es, l.connection = c) : linesOf c es = es :=
  List.filter_eq_self.mpr fun l hl => decide_eq_true (h l hl)

theorem linesOf_other (h : ∀ l ∈ es, l.connection = c) (hk : k ≠ c) : linesOf k es = [] := by
  refine List.filter_eq_nil_iff.mpr fun l hl heq => ?_
  exact hk ((of_decide_eq_true heq).symm.trans (h l hl))

end

namespace Service

/-- What every run keeps of the endpoints, `es` being its trace. -/
structure Diary (w : Service) (es : List Line) : Prop where
  lived : ∀ {c d}, w.desks[c]? = some d →
    Lived c ((linesOf c es).filter Line.ofLife) d.stage.phase
  taken : ∀ {c d}, w.desks[c]? = some d →
    (linesOf c es).filterMap Line.arrived? = (linesOf c es).filterMap Line.taken? ++ d.inbox
  passed : ∀ c, (linesOf c es).filterMap Line.passed? =
    ((linesOf c es).filterMap Line.taken?).filterMap Incoming.frame?
  known : ∀ l ∈ es, l.connection < w.desks.length

/-- What lines at the desk of a connection make of the phase of its endpoint and
of its inbox. -/
structure Entered (c : Nat) (p : Phase) (inbox : List Incoming) (news : List Line) (p' : Phase)
    (inbox' : List Incoming) : Prop where
  mine : ∀ l ∈ news, l.connection = c
  lived : ∀ {ls}, Lived c ls p → Lived c (ls ++ news.filter Line.ofLife) p'
  taken : inbox ++ news.filterMap Line.arrived? = news.filterMap Line.taken? ++ inbox'
  passed : news.filterMap Line.passed? = (news.filterMap Line.taken?).filterMap Incoming.frame?

namespace Entered

variable {c : Nat} {p p' p'' : Phase} {inbox inbox' inbox'' : List Incoming}
  {news news' : List Line}

theorem append (h : Entered c p inbox news p' inbox')
    (h' : Entered c p' inbox' news' p'' inbox'') :
    Entered c p inbox (news ++ news') p'' inbox'' where
  mine := List.forall_mem_append.mpr ⟨h.mine, h'.mine⟩
  lived hls := by
    rw [List.filter_append, ← List.append_assoc]
    exact h'.lived (h.lived hls)
  taken := by
    rw [List.filterMap_append, List.filterMap_append, ← List.append_assoc, h.taken,
      List.append_assoc, h'.taken, List.append_assoc]
  passed := by
    rw [List.filterMap_append, List.filterMap_append, List.filterMap_append, h.passed, h'.passed]

theorem nothing : Entered c p inbox [] p inbox where
  mine l hl := by cases hl
  lived hls := by
    rw [List.filter_nil, List.append_nil]
    exact hls
  taken := List.append_nil _
  passed := rfl

theorem called (call : Call) : Entered c p inbox [.called c call] p inbox where
  mine l hl := by rw [List.mem_singleton.mp hl]; rfl
  lived {ls} hls := (List.append_nil ls).symm ▸ hls
  taken := List.append_nil _
  passed := rfl

theorem answered (call : Call) (outcome : Outcome) :
    Entered c p inbox [.answered c call outcome] p inbox where
  mine l hl := by rw [List.mem_singleton.mp hl]; rfl
  lived {ls} hls := (List.append_nil ls).symm ▸ hls
  taken := List.append_nil _
  passed := rfl

theorem callLines (q : Progress) : Entered c p inbox (callLines c q) p inbox := by
  cases q with
  | waiting t => exact .called t.call
  | finished r => exact .nothing

theorem arrives (event : Incoming) :
    Entered c p inbox [.arrived c event] p (inbox ++ [event]) where
  mine l hl := by rw [List.mem_singleton.mp hl]; rfl
  lived {ls} hls := (List.append_nil ls).symm ▸ hls
  taken := rfl
  passed := rfl

theorem leaves (code : Option Int) : Entered c .receiving (.disconnect code :: inbox)
    [.took c (.disconnect code), .ended c] .ended inbox where
  mine l hl := by
    simp only [List.mem_cons, List.not_mem_nil, or_false] at hl
    rcases hl with rfl | rfl <;> rfl
  lived hls := hls.leaves code
  taken := List.append_nil _
  passed := rfl

theorem takes (text : Option String) (bytes : Option (List UInt8)) :
    Entered c .receiving (.frame text bytes :: inbox)
      [.took c (.frame text bytes), .passed c (rawFrame text bytes)] .handling inbox where
  mine l hl := by
    simp only [List.mem_cons, List.not_mem_nil, or_false] at hl
    rcases hl with rfl | rfl <;> rfl
  lived hls := hls.takes text bytes
  taken := List.append_nil _
  passed := rfl

end Entered

section
variable {w w' : Service} {es news : List Line} {c : Nat} {d d' : Desk}

theorem Diary.enter (h : Diary w es) (hc : w.desks[c]? = some d)
    (hdesks : w'.desks = w.desks.set c d')
    (hnews : Entered c d.stage.phase d.inbox news d'.stage.phase d'.inbox) :
    Diary w' (es ++ news) := by
  have hlt := (List.getElem?_eq_some_iff.mp hc).1
  have hself := linesOf_self hnews.mine
  -- The lines of another connection and its desk stay as they were.
  have hother : ∀ k, k ≠ c → linesOf k (es ++ news) = linesOf k es := fun k hk => by
    rw [linesOf_append, linesOf_other hnews.mine hk, List.append_nil]
  have hdesk : ∀ {k x}, w'.desks[k]? = some x → k = c ∧ x = d' ∨
      k ≠ c ∧ w.desks[k]? = some x := by
    intro k x hk
    rw [hdesks, List.getElem?_set] at hk
    split at hk
    · next heq =>
        exact .inl ⟨heq.symm, (Option.some.inj hk).symm⟩
    · next hne => exact .inr ⟨fun heq => hne heq.symm, hk⟩
  refine ⟨?_, ?_, ?_, ?_⟩
  · intro k x hk
    rcases hdesk hk with ⟨rfl, rfl⟩ | ⟨hne, hk⟩
    · rw [linesOf_append, hself, List.filter_append]
      exact hnews.lived (h.lived hc)
    · rw [hother k hne]
      exact h.lived hk
  · intro k x hk
    rcases hdesk hk with ⟨rfl, rfl⟩ | ⟨hne, hk⟩
    · rw [linesOf_append, hself, List.filterMap_append, List.filterMap_append, h.taken hc,
        List.append_assoc, hnews.taken, List.append_assoc]
    · rw [hother k hne]
      exact h.taken hk
  · intro k
    by_cases hk : k = c
    · subst hk
      rw [linesOf_append, hself, List.filterMap_append, List.filterMap_append,
        List.filterMap_append, h.passed, hnews.passed]
    · rw [hother k hk]
      exact h.passed k
  · intro l hl
    rw [hdesks, List.length_set]
    rcases List.mem_append.mp hl with hl | hl
    · exact h.known l hl
    · rw [hnews.mine l hl]
      exact hlt

theorem Served.entered {p : Progress} {s : State} (h : Served w c d s p w' es) :
    ∃ d', w'.desks = w.desks.set c d' ∧
      Entered c .handling d.inbox es d'.stage.phase d'.inbox := by
  cases h with
  | waits t => exact ⟨_, rfl, .called t.call⟩
  | @goesOn r present hpresent hends =>
      refine ⟨_, rfl, ?_, fun hls => hls.goesOn hends, List.append_nil _, rfl⟩
      exact fun l hl => by rw [List.mem_singleton.mp hl]; rfl
  | @ends r present hpresent hends =>
      refine ⟨_, rfl, ?_, fun hls => hls.ends hends, List.append_nil _, rfl⟩
      intro l hl
      simp only [List.mem_cons, List.not_mem_nil, or_false] at hl
      rcases hl with rfl | rfl <;> rfl

namespace Diary

theorem launch {v : Server} : Diary (empty v) [] where
  lived hc := by cases hc
  taken hc := by cases hc
  passed c := rfl
  known l hl := by cases hl

/-- A new desk begins with nothing. -/
theorem seat (h : Diary w es) (hdesks : w'.desks = w.desks ++ [d])
    (hphase : d.stage.phase = .receiving) (hinbox : d.inbox = []) : Diary w' es := by
  have hnone : linesOf w.desks.length es = [] := by
    refine List.filter_eq_nil_iff.mpr fun l hl heq => ?_
    exact absurd (h.known l hl) (Nat.not_lt_of_ge (Nat.le_of_eq (of_decide_eq_true heq).symm))
  have hdesk : ∀ {k x}, w'.desks[k]? = some x →
      w.desks[k]? = some x ∨ k = w.desks.length ∧ x = d := by
    intro k x hk
    rw [hdesks, List.getElem?_append] at hk
    split at hk
    · exact .inl hk
    · next hge =>
        obtain ⟨hlt, heq⟩ := List.getElem?_eq_some_iff.mp hk
        rw [List.length_singleton] at hlt
        rw [List.getElem_singleton] at heq
        exact .inr ⟨by omega, heq.symm⟩
  refine ⟨?_, ?_, h.passed, ?_⟩
  · intro k x hk
    rcases hdesk hk with hk | ⟨rfl, rfl⟩
    · exact h.lived hk
    · rw [hnone, hphase]
      exact .starts
  · intro k x hk
    rcases hdesk hk with hk | ⟨rfl, rfl⟩
    · exact h.taken hk
    · rw [hnone, hinbox]
      rfl
  · intro l hl
    rw [hdesks, List.length_append]
    exact Nat.lt_add_right _ (h.known l hl)

variable [IdSupply]

theorem join (h : Diary w es) : Diary w.welcome.1 (es ++ w.welcome.2) := by
  have hseat : Diary w.welcome.1 es := h.seat rfl (phase_ofGreeting _) rfl
  have hc : w.welcome.1.desks[w.desks.length]? = some _ := List.getElem?_concat_length
  obtain ⟨hlt, heq⟩ := List.getElem?_eq_some_iff.mp hc
  refine hseat.enter hc ?_ (.callLines _)
  rw [← heq, List.set_getElem_self]

theorem step (h : Diary w es) (m : Happening) : Diary (w.step m) (es ++ w.news m) := by
  have hadv := advance_cases w m
  generalize w.step m = w', w.news m = news at hadv
  cases hadv with
  | idle | tick =>
      rw [List.append_nil]
      exact ⟨h.lived, h.taken, h.passed, h.known⟩
  | join => exact h.join
  | arrive hc event => exact h.enter hc rfl (.arrives event)
  | leaves hc => exact h.enter hc rfl (.leaves _)
  | takes hc hserved =>
      obtain ⟨d', hdesks, hentered⟩ := hserved.entered
      exact h.enter hc hdesks ((Entered.takes _ _).append hentered)
  | @greeted c session inbox t hc outcome =>
      refine h.enter hc rfl (.append (.answered t.call outcome) ?_)
      generalize (w.server.bridge.resume t outcome w.server.state).2 = p
      rw [phase_ofGreeting]
      exact .callLines p
  | handled hc outcome hserved =>
      obtain ⟨d', hdesks, hentered⟩ := hserved.entered
      exact h.enter hc hdesks (.append (.answered _ outcome) hentered)

theorem run {ms : List Happening} (h : Diary w es) : Diary (w.run ms) (es ++ w.trace ms) := by
  induction ms generalizing w es with
  | nil => rw [trace, List.append_nil]; exact h
  | cons m ms ih =>
      rw [trace, ← List.append_assoc]
      exact ih (h.step m)

end Diary

end

end Service

/-! ## Frames come to an end -/

/-- How many calls the endpoint can make before it takes the next thing. -/
def Desk.weight (d : Desk) : Nat :=
  match d.task? with
  | some t => t.weight
  | none => 0

namespace Service

section
variable {w w' : Service} {c : Nat} {d : Desk}

theorem Served.weight_le {p : Progress} {s : State} {es : List Line}
    (h : Served w c d s p w' es) (hc : c < w.desks.length) :
    ∃ d', w'.desks[c]? = some d' ∧ d'.weight ≤ p.weight := by
  cases h with
  | waits t => exact ⟨_, List.getElem?_set_self hc, Nat.le_refl _⟩
  | goesOn | ends => exact ⟨_, List.getElem?_set_self hc, Nat.le_refl _⟩

variable [IdSupply]

/-- Each outcome brings an endpoint closer to the next thing. -/
theorem weight_answer (hc : w.desks[c]? = some d) (outcome : Outcome) :
    ∃ d', (w.step (.answer c outcome)).desks[c]? = some d' ∧ d'.weight ≤ d.weight - 1 := by
  have hlt := (List.getElem?_eq_some_iff.mp hc).1
  obtain ⟨session, inbox, stage⟩ := d
  cases stage with
  | receiving | ended =>
      rw [step, advance, hc]
      exact ⟨_, hc, Nat.zero_le _⟩
  | greeting t =>
      have hweight := Bridge.resume_weight_lt w.server.bridge t outcome w.server.state
      rw [step, advance, hc]
      refine ⟨_, List.getElem?_set_self hlt, Nat.le_sub_one_of_lt ?_⟩
      refine Nat.lt_of_le_of_lt ?_ hweight
      cases (w.server.bridge.resume t outcome w.server.state).2 with
      | waiting t' => exact Nat.le_refl _
      | finished r => exact Nat.le_refl _
  | handling t =>
      have hweight := Bridge.resume_weight_lt w.server.bridge t outcome w.server.state
      rw [step, advance, hc]
      obtain ⟨d', hd', hle⟩ := (serve_cases (w.carried t outcome) c
        ⟨session, inbox, .handling t⟩ (w.server.bridge.resume t outcome w.server.state)).weight_le
        hlt
      exact ⟨d', hd', Nat.le_sub_one_of_lt (Nat.lt_of_le_of_lt hle hweight)⟩

theorem weight_answers (hc : w.desks[c]? = some d) (outcomes : List Outcome) :
    ∃ d', (w.run (outcomes.map (.answer c))).desks[c]? = some d' ∧
      d'.weight ≤ d.weight - outcomes.length := by
  induction outcomes generalizing w d with
  | nil => exact ⟨d, hc, Nat.le_refl _⟩
  | cons outcome outcomes ih =>
      obtain ⟨d₁, hd₁, hle₁⟩ := weight_answer hc outcome
      obtain ⟨d₂, hd₂, hle₂⟩ := ih hd₁
      refine ⟨d₂, hd₂, ?_⟩
      rw [List.length_cons]
      omega

theorem settles (hc : w.desks[c]? = some d) {t : Task} (ht : d.task? = some t)
    {outcomes : List Outcome} (hlen : t.weight ≤ outcomes.length) :
    ∃ d', (w.run (outcomes.map (.answer c))).desks[c]? = some d' ∧ d'.task? = none := by
  obtain ⟨d', hd', hle⟩ := weight_answers hc outcomes
  refine ⟨d', hd', ?_⟩
  have hweight : d.weight = t.weight := by rw [Desk.weight, ht]
  cases ht' : d'.task? with
  | none => rfl
  | some t' =>
      have hpos := Bridge.Task.weight_pos t'
      rw [Desk.weight, ht'] at hle
      dsimp only at hle
      omega

end

end Service

end ScreenBridge.Server
