import ScreenBridge.Proofs.Bookkeeping

/-!
# A fan-out under interleaving

While a fan-out goes through the sessions it took down, the table changes
under it: at each of its calls other works run, and they open sessions, close
them, or are fan-outs themselves. What has to be related is the snapshot, the
table at the moment a session's turn comes, and the texts handed out so far.

Two notions carry the argument. `ahead` is what a fan-out has still before
it, the list its task carries along. `Passes` is what one step of a fan-out
does to that list: nothing, or it passes over sessions that are closed by then
and hands its text to the first one that is open, or finds none. The turn of a
session comes with the step in which it drops out of `ahead` (`TurnComes`),
and `Passes` says that it gets the text then exactly if it is open then.

The invariant `FanOut` keeps that texts handed out and sessions still ahead
together are a part of the snapshot, in its order, so nobody gets the text
twice; that a session whose text did not go is closed, and its connection was
asked to close; and that the count carried along is the number of texts that
went. It holds for any fan-out that ends when it is through, which is all but
those of a screen.
-/

namespace ScreenBridge.Bridge

/-! ## What a trace says of one work -/

def Entry.work : Entry → Nat
  | .began f _ => f
  | .called f _ => f
  | .answered f _ _ => f

/-- The session that a work hands a text to. -/
def Entry.handed? (f : Nat) : Entry → Option Nat
  | .called g (.send n _) => if g = f then some n else none
  | _ => none

/-- The session that took the text of a work. -/
def Entry.taken? (f : Nat) : Entry → Option Nat
  | .answered g (.send n _) .done => if g = f then some n else none
  | _ => none

/-- The session that the text of a work could not be sent to. -/
def Entry.failed? (f : Nat) : Entry → Option Nat
  | .answered g (.send n _) (.raised _) => if g = f then some n else none
  | _ => none

/-- The sessions that a work handed a text to, in order. -/
def handedBy (f : Nat) (es : List Entry) : List Nat :=
  es.filterMap (Entry.handed? f)

/-- The sessions that took the text of a work. -/
def takenBy (f : Nat) (es : List Entry) : List Nat :=
  es.filterMap (Entry.taken? f)

/-- The sessions that the text of a work could not be sent to. -/
def failedBy (f : Nat) (es : List Entry) : List Nat :=
  es.filterMap (Entry.failed? f)

section
variable {f n : Nat} {es es' : List Entry}

theorem handedBy_append (f : Nat) (es es' : List Entry) :
    handedBy f (es ++ es') = handedBy f es ++ handedBy f es' :=
  List.filterMap_append

theorem takenBy_append (f : Nat) (es es' : List Entry) :
    takenBy f (es ++ es') = takenBy f es ++ takenBy f es' :=
  List.filterMap_append

theorem failedBy_append (f : Nat) (es es' : List Entry) :
    failedBy f (es ++ es') = failedBy f es ++ failedBy f es' :=
  List.filterMap_append

theorem mem_handedBy :
    n ∈ handedBy f es ↔ ∃ text, .called f (.send n text) ∈ es := by
  rw [handedBy, List.mem_filterMap]
  constructor
  · rintro ⟨e, hmem, he⟩
    rw [Entry.handed?.eq_def] at he
    split at he
    · next g m text =>
        split at he
        · next hg => cases he; cases hg; exact ⟨text, hmem⟩
        · cases he
    · cases he
  · rintro ⟨text, hmem⟩
    exact ⟨_, hmem, if_pos rfl⟩

theorem mem_failedBy :
    n ∈ failedBy f es ↔
      ∃ text reason, .answered f (.send n text) (.raised reason) ∈ es := by
  rw [failedBy, List.mem_filterMap]
  constructor
  · rintro ⟨e, hmem, he⟩
    rw [Entry.failed?.eq_def] at he
    split at he
    · next g m text reason =>
        split at he
        · next hg => cases he; cases hg; exact ⟨text, reason, hmem⟩
        · cases he
    · cases he
  · rintro ⟨text, reason, hmem⟩
    exact ⟨_, hmem, if_pos rfl⟩

/-- The lines of other works say nothing about this one. -/
theorem of_other_works (h : ∀ e ∈ es, e.work ≠ f) :
    handedBy f es = [] ∧ takenBy f es = [] ∧ failedBy f es = [] := by
  refine ⟨?_, ?_, ?_⟩ <;>
    refine List.filterMap_eq_nil_iff.mpr fun e he => ?_
  · cases e with
    | began | answered => rfl
    | called g c =>
        cases c with
        | send => exact if_neg (h _ he)
        | close => rfl
  · cases e with
    | began | called => rfl
    | answered g c o =>
        cases c with
        | close => rfl
        | send =>
            cases o with
            | done => exact if_neg (h _ he)
            | raised => rfl
  · cases e with
    | began | called => rfl
    | answered g c o =>
        cases c with
        | close => rfl
        | send =>
            cases o with
            | done => rfl
            | raised => exact if_neg (h _ he)

end

/-! ## One work among others -/

namespace World

variable [IdSupply] {b : Bridge} {w : World} {m : Move} {f : Nat}

/-- A move that is no answer to a work leaves it where it is. -/
theorem step_other (hf : f < w.works.length)
    (hm : ∀ outcome, m ≠ .answer f outcome) :
    (w.step b m).works[f]? = w.works[f]? ∧ ∀ e ∈ w.news b m, e.work ≠ f := by
  have hadv := advance_cases b w m
  generalize w.step b m = w', w.news b m = es at hadv
  cases hadv with
  | start e =>
      refine ⟨List.getElem?_append_left hf, ?_⟩
      intro e' he'
      rcases List.mem_cons.mp he' with rfl | hmem
      · exact Nat.ne_of_gt hf
      · obtain ⟨t, -, rfl⟩ := mem_entries.mp hmem
        exact Nat.ne_of_gt hf
  | @answer g t hg outcome =>
      have hne : g ≠ f := fun heq => hm outcome (by rw [heq])
      refine ⟨List.getElem?_set_ne hne, ?_⟩
      intro e' he'
      rcases List.mem_cons.mp he' with rfl | hmem
      · exact hne
      · obtain ⟨t', -, rfl⟩ := mem_entries.mp hmem
        exact hne
  | idle => exact ⟨rfl, fun e he => (nomatch he)⟩
  | tick => exact ⟨rfl, fun e he => (nomatch he)⟩

theorem advance_answer {t : Task} (hf : w.works[f]? = some (.waiting t))
    (b : Bridge) (outcome : Outcome) :
    w.advance b (.answer f outcome) =
      (⟨(b.resume t outcome w.state).1,
          w.works.set f (b.resume t outcome w.state).2⟩,
        .answered f t.call outcome ::
          (b.resume t outcome w.state).2.entries f) := by
  rw [advance, hf]

/-- A move as one work sees it: it leaves the work where it is and tells
nothing of it, or it is the answer that the work has waited for. -/
inductive Turn (b : Bridge) (w : World) (f : Nat) : Progress → Move → Prop where
  | rests {p : Progress} {m : Move} (hworks : (w.step b m).works[f]? = some p)
      (hother : ∀ e ∈ w.news b m, e.work ≠ f) : Turn b w f p m
  | resumes {t : Task} (outcome : Outcome)
      (hworks : (w.step b (.answer f outcome)).works[f]? =
        some (b.resume t outcome w.state).2)
      (hstate : (w.step b (.answer f outcome)).state =
        (b.resume t outcome w.state).1)
      (hnews : w.news b (.answer f outcome) =
        .answered f t.call outcome :: (b.resume t outcome w.state).2.entries f) :
      Turn b w f (.waiting t) (.answer f outcome)

theorem step_turn {p : Progress} (hp : w.works[f]? = some p) (b : Bridge)
    (m : Move) : Turn b w f p m := by
  have hlt := (List.getElem?_eq_some_iff.mp hp).1
  by_cases hm : ∃ outcome, m = .answer f outcome
  · obtain ⟨outcome, rfl⟩ := hm
    cases p with
    | waiting t =>
        have hadv := advance_answer hp b outcome
        refine .resumes outcome ?_ ?_ ?_
        · rw [step, hadv]
          exact List.getElem?_set_self hlt
        · rw [step, hadv]
        · rw [news, hadv]
    | finished r =>
        have hadv : w.advance b (.answer f outcome) = (w, []) := by
          rw [advance, hp]
        refine .rests ?_ ?_
        · rw [step, hadv]
          exact hp
        · rw [news, hadv]
          exact fun e he => absurd he List.not_mem_nil
  · obtain ⟨hworks, hother⟩ := step_other (b := b) (m := m) hlt
      fun outcome heq => hm ⟨outcome, heq⟩
    exact .rests (hworks.trans hp) hother

/-- A session leaves the table when a viewer leaves under its name, or when a
text sent to this very session does not go. -/
theorem Sound.leaves (h : w.Sound) {n : Nat}
    (ho : w.state.sessions.isOpen n)
    (hc : ¬ (w.step b m).state.sessions.isOpen n) :
    m = .start (.disconnect (sessionName n)) ∨
      ∃ g t text reason, m = .answer g (.raised reason) ∧
        w.works[g]? = some (.waiting t) ∧ t.call = .send n text := by
  have hcloses := (step_sessions b w m).leaves h.table ho hc
  cases m with
  | start e => exact .inl (congrArg Move.start hcloses)
  | tick now => exact hcloses.elim
  | answer g outcome =>
      obtain ⟨t, hg, k, text, reason, hcall, rfl, hname⟩ := hcloses
      have hk : k < w.state.sessions.next := by
        have hlt := h.calls hg
        rwa [hcall] at hlt
      rw [nameOf_eq h.table hk] at hname
      rw [← sessionName_inj hname] at hcall
      exact .inr ⟨g, t, text, reason, rfl, hg, hcall⟩

end World

/-- A text that could not be sent to a session. -/
def Entry.fails (n : Nat) : Entry → Bool
  | .answered _ (.send k _) (.raised _) => k = n
  | _ => false

/-- A session that no text failed to reach stays open until its viewer
leaves. -/
theorem World.Sound.stays_open [IdSupply] {b : Bridge} {w : World} {n : Nat}
    {ms : List Move} (h : w.Sound) (ho : w.state.sessions.isOpen n)
    (hstays : .start (.disconnect (sessionName n)) ∉ ms)
    (hsent : ∀ e ∈ w.trace b ms, e.fails n = false) :
    (w.run b ms).state.sessions.isOpen n := by
  induction ms generalizing w with
  | nil => exact ho
  | cons m ms ih =>
      rw [trace, List.forall_mem_append] at hsent
      have ho₁ : (w.step b m).state.sessions.isOpen n := by
        refine Classical.byContradiction fun hc => ?_
        rcases h.leaves ho hc with rfl | ⟨g, t, text, reason, rfl, hg, hcall⟩
        · exact hstays List.mem_cons_self
        · have hmem : .answered g (.send n text) (.raised reason) ∈
              w.news b (.answer g (.raised reason)) := by
            rw [news, advance_answer hg, ← hcall]
            exact List.mem_cons_self
          have hno := hsent.1 _ hmem
          rw [Entry.fails, decide_eq_false_iff_not] at hno
          exact hno rfl
      exact ih (h.step b m) ho₁
        (fun hmem => hstays (List.mem_cons_of_mem _ hmem)) hsent.2

/-- Whether a line is an answer to a work. -/
def Entry.answers (f : Nat) : Entry → Bool
  | .answered g _ _ => g = f
  | _ => false

/-- How many outcomes of its calls a work has been told. -/
def answersTo (f : Nat) (es : List Entry) : Nat :=
  es.countP (Entry.answers f)

theorem answersTo_append (f : Nat) (es es' : List Entry) :
    answersTo f (es ++ es') = answersTo f es + answersTo f es' :=
  List.countP_append

theorem answersTo_entries (f : Nat) (p : Progress) :
    answersTo f (p.entries f) = 0 := by
  cases p <;> rfl

theorem answersTo_of_other_works {f : Nat} {es : List Entry}
    (h : ∀ e ∈ es, e.work ≠ f) : answersTo f es = 0 := by
  refine List.countP_eq_zero.mpr fun e he => ?_
  cases e with
  | began | called => exact nofun
  | answered g c o =>
      intro heq
      exact h _ he (of_decide_eq_true heq)

theorem Task.weight_pos (t : Task) : 0 < t.weight := by
  obtain ⟨bound, call, sequel⟩ := t
  cases call with
  | send | close => exact Nat.succ_pos _

namespace World

variable [IdSupply] {b : Bridge} {w : World} {f : Nat} {p : Progress}

/-- Every answer brings a work closer to its end, and nothing else moves it. -/
theorem step_weight (h : w.works[f]? = some p) (b : Bridge) (m : Move) :
    ∃ p', (w.step b m).works[f]? = some p' ∧
      answersTo f (w.news b m) + p'.weight ≤ p.weight := by
  cases step_turn h b m with
  | rests hworks hother =>
      refine ⟨p, hworks, ?_⟩
      have hnone := answersTo_of_other_works hother
      omega
  | @resumes t outcome hworks _ hnews =>
      refine ⟨_, hworks, ?_⟩
      have hcount : answersTo f (w.news b (.answer f outcome)) = 1 := by
        have hyes : Entry.answers f (.answered f t.call outcome) = true :=
          decide_eq_true rfl
        rw [hnews, answersTo, List.countP_cons_of_pos hyes]
        exact congrArg (· + 1) (answersTo_entries f _)
      rw [hcount, Nat.add_comm]
      exact resume_weight_lt b t outcome w.state

theorem run_weight (h : w.works[f]? = some p) (b : Bridge) (ms : List Move) :
    ∃ p', (w.run b ms).works[f]? = some p' ∧
      answersTo f (w.trace b ms) + p'.weight ≤ p.weight := by
  induction ms generalizing w p with
  | nil => exact ⟨p, h, by rw [trace, answersTo, List.countP_nil]; omega⟩
  | cons m ms ih =>
      obtain ⟨p₁, h₁, hle₁⟩ := step_weight h b m
      obtain ⟨p₂, h₂, hle₂⟩ := ih h₁
      refine ⟨p₂, h₂, ?_⟩
      rw [trace, answersTo_append]
      omega

/-- A work that can make only so many calls is through or has been told less
outcomes than that. -/
theorem run_within {most : Nat} (h : w.works[f]? = some p)
    (hmost : p.weight ≤ most) (b : Bridge) (ms : List Move) :
    (∃ r, (w.run b ms).works[f]? = some (.finished r)) ∨
    (∃ t, (w.run b ms).works[f]? = some (.waiting t)) ∧
      answersTo f (w.trace b ms) < most := by
  obtain ⟨p', hp', hle⟩ := run_weight h b ms
  cases p' with
  | finished r => exact .inl ⟨r, hp'⟩
  | waiting t =>
      have hpos := t.weight_pos
      refine .inr ⟨⟨t, hp'⟩, ?_⟩
      rw [Progress.weight] at hle
      omega

end World

/-! ## Going through the sessions -/

/-- The sessions whose turn is still to come. -/
def Sequel.ahead : Sequel → List Nat
  | .fanOut _ remaining _ _ => remaining
  | _ => []

def Progress.ahead : Progress → List Nat
  | .waiting t => t.sequel.ahead
  | .finished _ => []

/-- The sessions whose turn in the fan-out of a work is still to come. -/
def World.ahead (w : World) (f : Nat) : List Nat :=
  match w.works[f]? with
  | some p => p.ahead
  | none => []

theorem World.ahead_eq {w : World} {f : Nat} {p : Progress}
    (h : w.works[f]? = some p) : w.ahead f = p.ahead := by
  rw [ahead, h]

/-- The turn of a session comes with the last of some moves: up to then it was
still ahead. -/
def TurnComes [IdSupply] (b : Bridge) (w : World) (f n : Nat) (ms : List Move) : Prop :=
  n ∉ (w.run b ms).ahead f ∧
    ∀ ms', ms' <+: ms → ms' ≠ ms → n ∈ (w.run b ms').ahead f

theorem exists_turnComes [IdSupply] {b : Bridge} {f n : Nat} {ms : List Move} {w : World}
    (h : n ∉ (w.run b ms).ahead f) :
    ∃ ms₁, ms₁ <+: ms ∧ TurnComes b w f n ms₁ := by
  induction ms generalizing w with
  | nil =>
      refine ⟨[], List.prefix_rfl, h, fun ms' hpre hne => ?_⟩
      exact absurd (List.prefix_nil.mp hpre) hne
  | cons m ms ih =>
      by_cases hn : n ∈ w.ahead f
      · obtain ⟨ms₁, hpre, hgone, hbefore⟩ := ih h
        refine ⟨m :: ms₁, List.cons_prefix_cons.mpr ⟨rfl, hpre⟩, hgone, ?_⟩
        intro ms' hpre' hne
        cases ms' with
        | nil => exact hn
        | cons m' ms' =>
            obtain ⟨rfl, hrest⟩ := List.cons_prefix_cons.mp hpre'
            exact hbefore ms' hrest fun heq => hne (by rw [heq])
      · exact ⟨[], List.nil_prefix, hn, fun ms' hpre hne =>
          absurd (List.prefix_nil.mp hpre) hne⟩

/-- One step of a fan-out: what was ahead, what is ahead now, and who was
handed the text. -/
inductive Passes (s : State) : (before after handed : List Nat) → Prop where
  | stay (l : List Nat) : Passes s l l []
  | next {skipped : List Nat} {n : Nat} (rest : List Nat)
      (hskip : ∀ k ∈ skipped, ¬ s.sessions.isOpen k) (ho : s.sessions.isOpen n) :
      Passes s (skipped ++ n :: rest) rest [n]
  | through {skipped : List Nat} (hskip : ∀ k ∈ skipped, ¬ s.sessions.isOpen k) :
      Passes s skipped [] []

namespace Passes

variable {s : State} {before after handed : List Nat} {n : Nat}

theorem sublist (h : Passes s before after handed) :
    (handed ++ after).Sublist before := by
  cases h with
  | stay => exact .refl _
  | @next skipped n _ _ _ =>
      exact List.sublist_append_right skipped (n :: after)
  | through => exact List.nil_sublist _

theorem mem_before (h : Passes s before after handed) (hn : n ∈ handed) :
    n ∈ before :=
  h.sublist.mem (List.mem_append_left _ hn)

theorem mem_of_mem_after (h : Passes s before after handed)
    (hn : n ∈ after) : n ∈ before :=
  h.sublist.mem (List.mem_append_right _ hn)

/-- Whose turn has come gets the text exactly if it is open. -/
theorem mem_handed_iff (h : Passes s before after handed)
    (hbefore : n ∈ before) (hafter : n ∉ after) :
    n ∈ handed ↔ s.sessions.isOpen n := by
  cases h with
  | stay => exact absurd hbefore hafter
  | @next skipped k _ hskip ho =>
      rw [List.mem_singleton]
      constructor
      · rintro rfl
        exact ho
      · intro hopen
        rcases List.mem_append.mp hbefore with hskipped | hrest
        · exact absurd hopen (hskip n hskipped)
        · exact (List.mem_cons.mp hrest).resolve_right hafter
  | through hskip =>
      exact ⟨fun hn => (nomatch hn), fun hopen => absurd hopen (hskip n hbefore)⟩

end Passes

/-- A fan-out goes to the first session that is still open, or concludes. -/
theorem fanOut_cases (b : Bridge) (bound : Log.Keys) (text : String)
    (delivered : Nat) (occasion : Occasion) (remaining : List Nat)
    (s : State) :
    (∃ skipped n rest, remaining = skipped ++ n :: rest ∧
      (∀ k ∈ skipped, ¬ s.sessions.isOpen k) ∧ s.sessions.isOpen n ∧
      fanOut b bound text delivered occasion remaining s =
        (s, .waiting ⟨bound, .send n text,
          .fanOut text rest delivered occasion⟩)) ∨
    ((∀ k ∈ remaining, ¬ s.sessions.isOpen k) ∧
      fanOut b bound text delivered occasion remaining s =
        concludeFanOut b bound delivered occasion s) := by
  induction remaining with
  | nil => exact .inr ⟨fun _ hk => (nomatch hk), rfl⟩
  | cons n rest ih =>
      by_cases ho : s.sessions.isOpen n
      · refine .inl ⟨[], n, rest, rfl, fun _ hk => (nomatch hk), ho, ?_⟩
        rw [fanOut, if_pos ho]
      · rw [fanOut, if_neg ho]
        rcases ih with ⟨skipped, k, rest', rfl, hskip, hk, heq⟩ | ⟨hskip, heq⟩
        · exact .inl ⟨n :: skipped, k, rest', rfl,
            List.forall_mem_cons.mpr ⟨ho, hskip⟩, hk, heq⟩
        · exact .inr ⟨List.forall_mem_cons.mpr ⟨ho, hskip⟩, heq⟩

/-- What a fan-out comes to that ends when it is through. -/
def Occasion.result (delivered : Nat) : Occasion → Result
  | .message => .fannedOut delivered
  | _ => .handled

/-- Where a fan-out of a text can be that has been delivered so often. -/
inductive Stage (text : String) (occasion : Occasion) (delivered : Nat) :
    Progress → Prop where
  | sending (bound : Log.Keys) (n : Nat) (rest : List Nat) :
      Stage text occasion delivered
        (.waiting ⟨bound, .send n text, .fanOut text rest delivered occasion⟩)
  | closing (bound : Log.Keys) (n : Nat) (rest : List Nat) :
      Stage text occasion delivered
        (.waiting ⟨bound, .close n, .fanOut text rest delivered occasion⟩)
  | over : Stage text occasion delivered (.finished (occasion.result delivered))

/-- How many texts of a work have been handed over and not answered yet. -/
def Progress.inHand : Progress → Nat
  | .waiting ⟨_, .send _ _, _⟩ => 1
  | _ => 0

section
variable {b : Bridge} {text : String} {occasion : Occasion} {s : State}

theorem handedBy_cons_send (f n : Nat) (text : String) (es : List Entry) :
    handedBy f (.called f (.send n text) :: es) = n :: handedBy f es :=
  List.filterMap_cons_some (if_pos rfl)

theorem takenBy_cons_done (f n : Nat) (text : String) (es : List Entry) :
    takenBy f (.answered f (.send n text) .done :: es) = n :: takenBy f es :=
  List.filterMap_cons_some (if_pos rfl)

theorem failedBy_cons_raised (f n : Nat) (text reason : String)
    (es : List Entry) :
    failedBy f (.answered f (.send n text) (.raised reason) :: es) =
      n :: failedBy f es :=
  List.filterMap_cons_some (if_pos rfl)

/-- What one step of a fan-out by `f` has to account for: where it is after
it, who was passed over and who was handed the text, and that the lines it
adds to the trace balance with the texts in hand before and after. -/
structure Accounts (text : String) (occasion : Occasion) (f delivered : Nat)
    (before : List Nat) (inHand : Nat) (sp : State × Progress)
    (es : List Entry) : Prop where
  stage : Stage text occasion (delivered + (takenBy f es).length) sp.2
  passes : Passes sp.1 before sp.2.ahead (handedBy f es)
  sameText : ∀ {n t}, .called f (.send n t) ∈ es → t = text
  failed : ∀ n ∈ failedBy f es, n < sp.1.sessions.next ∧
    ¬ sp.1.sessions.isOpen n ∧ .called f (.close n) ∈ es
  settled : inHand + (handedBy f es).length =
    (takenBy f es).length + (failedBy f es).length + sp.2.inHand

/-- A fan-out going through what is ahead, if it has an end of its own. -/
theorem fanOut_accounts (hocc : occasion.weight = 0) (b : Bridge)
    (bound : Log.Keys) (text : String) (f delivered : Nat)
    (remaining : List Nat) (s : State) :
    Accounts text occasion f delivered remaining 0
      (fanOut b bound text delivered occasion remaining s)
      ((fanOut b bound text delivered occasion remaining s).2.entries f) := by
  rcases fanOut_cases b bound text delivered occasion remaining s with
    ⟨skipped, n, rest, rfl, hskip, ho, heq⟩ | ⟨hskip, heq⟩
  · rw [heq]
    refine ⟨.sending bound n rest, ?_, ?_, fun _ hn => absurd hn List.not_mem_nil, ?_⟩
    · rw [Progress.entries, handedBy_cons_send]
      exact .next rest hskip ho
    · intro k t hmem
      cases List.mem_singleton.mp hmem
      rfl
    · rw [Progress.entries, handedBy_cons_send]
      rfl
  · have hsame := (concludeFanOut_orderly b bound delivered occasion s).same
    rw [heq]
    cases occasion with
    | message =>
        exact ⟨.over, .through hskip, fun hmem => absurd hmem List.not_mem_nil,
          fun _ hn => absurd hn List.not_mem_nil, rfl⟩
    | config title =>
        refine ⟨.over, .through ?_, fun hmem => absurd hmem List.not_mem_nil,
          fun _ hn => absurd hn List.not_mem_nil, rfl⟩
        rw [hsame.sessions]
        exact hskip
    | screen => cases hocc

namespace Accounts

variable {f delivered n : Nat} {before : List Nat} {sp : State × Progress}
  {es : List Entry}

theorem cons_began {inHand : Nat}
    (h : Accounts text occasion f delivered before inHand sp es) (e : Event) :
    Accounts text occasion f delivered before inHand sp (.began f e :: es) where
  stage := h.stage
  passes := h.passes
  sameText hmem := h.sameText ((List.mem_cons.mp hmem).resolve_left nofun)
  failed k hk :=
    have ⟨hlt, hc, hmem⟩ := h.failed k hk
    ⟨hlt, hc, List.mem_cons_of_mem _ hmem⟩
  settled := h.settled

/-- The answer that a text was taken counts as one more delivery. -/
theorem cons_done (h : Accounts text occasion f (delivered + 1) before 0 sp es)
    (t : String) :
    Accounts text occasion f delivered before 1 sp
      (.answered f (.send n t) .done :: es) where
  stage := by
    have hstage := h.stage
    rw [takenBy_cons_done, List.length_cons]
    rwa [Nat.add_assoc, Nat.add_comm 1] at hstage
  passes := h.passes
  sameText hmem := h.sameText ((List.mem_cons.mp hmem).resolve_left nofun)
  failed k hk :=
    have ⟨hlt, hc, hmem⟩ := h.failed k hk
    ⟨hlt, hc, List.mem_cons_of_mem _ hmem⟩
  settled := by
    have hsettled := h.settled
    rw [takenBy_cons_done, List.length_cons]
    show 1 + (handedBy f es).length =
      (takenBy f es).length + 1 + (failedBy f es).length + sp.2.inHand
    omega

theorem cons_closed (h : Accounts text occasion f delivered before 0 sp es)
    (outcome : Outcome) :
    Accounts text occasion f delivered before 0 sp
      (.answered f (.close n) outcome :: es) where
  stage := h.stage
  passes := h.passes
  sameText hmem := h.sameText ((List.mem_cons.mp hmem).resolve_left nofun)
  failed k hk :=
    have ⟨hlt, hc, hmem⟩ := h.failed k hk
    ⟨hlt, hc, List.mem_cons_of_mem _ hmem⟩
  settled := h.settled

end Accounts

/-- A text that does not go: its session is closed, and its connection is
asked to close before the fan-out goes on. -/
theorem raised_accounts [IdSupply] (hs : s.sessions.WellFormed) {n : Nat}
    (hn : n < s.sessions.next) (b : Bridge) (bound : Log.Keys) (f : Nat)
    (rest : List Nat) (delivered : Nat) (reason : String) :
    Accounts text occasion f delivered rest 1
      (resume b ⟨bound, .send n text, .fanOut text rest delivered occasion⟩
        (.raised reason) s)
      [.answered f (.send n text) (.raised reason), .called f (.close n)] where
  stage := .closing bound n rest
  passes := .stay rest
  sameText hmem := by
    rcases List.mem_cons.mp hmem with heq | hmem
    · cases heq
    · cases List.mem_singleton.mp hmem
  failed k hk := by
    rw [failedBy_cons_raised] at hk
    cases List.mem_singleton.mp hk
    have hext := (resume_sessions b ⟨bound, .send n text,
      .fanOut text rest delivered occasion⟩ (.raised reason) s).extends_ hs
    exact ⟨Nat.lt_of_lt_of_le hn hext.next_le,
      not_isOpen_of_raised rfl hs hn b reason,
      List.mem_cons_of_mem _ List.mem_cons_self⟩
  settled := by
    rw [failedBy_cons_raised]
    rfl

theorem resume_accounts [IdSupply] (hocc : occasion.weight = 0) {t : Task}
    {delivered : Nat} (h : Stage text occasion delivered (.waiting t))
    (hs : s.sessions.WellFormed) (hn : t.call.session < s.sessions.next)
    (b : Bridge) (f : Nat) (outcome : Outcome) :
    Accounts text occasion f delivered t.sequel.ahead
      (Progress.waiting t).inHand (resume b t outcome s)
      (.answered f t.call outcome :: (resume b t outcome s).2.entries f) := by
  cases h with
  | sending bound n rest =>
      cases outcome with
      | done => exact (fanOut_accounts hocc b bound text f _ rest s).cons_done text
      | raised reason => exact raised_accounts hs hn b bound f rest delivered reason
  | closing bound n rest =>
      cases outcome with
      | done => exact (fanOut_accounts hocc b bound text f _ rest s).cons_closed _
      | raised reason =>
          exact (fanOut_accounts hocc b bound text f _ rest _).cons_closed _

theorem Accounts.idle {delivered f : Nat} {p : Progress} {es : List Entry}
    (h : Stage text occasion delivered p) (s : State)
    (hother : ∀ e ∈ es, e.work ≠ f) :
    Accounts text occasion f delivered p.ahead p.inHand (s, p) es := by
  obtain ⟨hhanded, htaken, hfailed⟩ := of_other_works hother
  refine ⟨?_, ?_, ?_, ?_, ?_⟩
  · rw [htaken]
    exact h
  · rw [hhanded]
    exact .stay _
  · intro n t hmem
    exact absurd rfl (hother _ hmem)
  · rw [hfailed]
    exact fun _ hn => (nomatch hn)
  · rw [hhanded, htaken, hfailed]
    simp only [List.length_nil]
    omega

end

/-! ## The invariant of a fan-out -/

/-- What a fan-out of `text` to the sessions of `snapshot`, the work `f`, keeps
in a world, `es` being the trace from its start on. -/
structure FanOut (text : String) (occasion : Occasion) (snapshot : List Nat)
    (f : Nat) (w : World) (es : List Entry) : Prop where
  stage : ∃ p, w.works[f]? = some p ∧
    Stage text occasion (takenBy f es).length p ∧
    (handedBy f es).length =
      (takenBy f es).length + (failedBy f es).length + p.inHand
  inOrder : (handedBy f es ++ w.ahead f).Sublist snapshot
  sameText : ∀ {n t}, .called f (.send n t) ∈ es → t = text
  failed : ∀ n ∈ failedBy f es, n < w.state.sessions.next ∧
    ¬ w.state.sessions.isOpen n ∧ .called f (.close n) ∈ es

namespace FanOut

variable {b : Bridge} {text : String} {occasion : Occasion}
  {snapshot : List Nat} {f : Nat} {w : World} {es : List Entry} {m : Move}

theorem account (h : FanOut text occasion snapshot f w es) {p : Progress}
    (hp : w.works[f]? = some p) {sp : State × Progress} {new : List Entry}
    {w' : World}
    (hacc : Accounts text occasion f (takenBy f es).length p.ahead p.inHand sp new)
    (hworks : w'.works[f]? = some sp.2) (hstate : w'.state = sp.1)
    (hw : w.state.sessions.Extends w'.state.sessions) :
    FanOut text occasion snapshot f w' (es ++ new) ∧
      Passes w'.state (w.ahead f) (w'.ahead f) (handedBy f new) := by
  have hahead : w'.ahead f = sp.2.ahead := World.ahead_eq hworks
  rw [← World.ahead_eq hp] at hacc
  refine ⟨⟨⟨sp.2, hworks, ?_, ?_⟩, ?_, ?_, ?_⟩, ?_⟩
  · rw [takenBy_append, List.length_append]
    exact hacc.stage
  · obtain ⟨p', hp', -, hbalance⟩ := h.stage
    cases hp.symm.trans hp'
    have hsettled := hacc.settled
    simp only [handedBy_append, takenBy_append, failedBy_append,
      List.length_append]
    omega
  · rw [handedBy_append, hahead, List.append_assoc]
    exact (hacc.passes.sublist.append_left _).trans h.inOrder
  · intro n t hmem
    exact (List.mem_append.mp hmem).elim h.sameText hacc.sameText
  · intro n hn
    rw [failedBy_append, List.mem_append] at hn
    rcases hn with hold | hnew
    · obtain ⟨hlt, hc, hmem⟩ := h.failed n hold
      exact ⟨Nat.lt_of_lt_of_le hlt hw.next_le,
        fun ho => hc (hw.isOpen_of hlt ho), List.mem_append_left _ hmem⟩
    · rw [hstate]
      obtain ⟨hlt, hc, hmem⟩ := hacc.failed n hnew
      exact ⟨hlt, hc, List.mem_append_right _ hmem⟩
  · rw [hahead, hstate]
    exact hacc.passes

theorem prepend {es' : List Entry}
    (h : FanOut text occasion snapshot f w es)
    (hother : ∀ e ∈ es', e.work ≠ f) :
    FanOut text occasion snapshot f w (es' ++ es) := by
  obtain ⟨hhanded, htaken, hfailed⟩ := of_other_works hother
  refine ⟨?_, ?_, ?_, ?_⟩
  · rw [handedBy_append, takenBy_append, failedBy_append, hhanded, htaken,
      hfailed]
    exact h.stage
  · rw [handedBy_append, hhanded]
    exact h.inOrder
  · intro n t hmem
    rcases List.mem_append.mp hmem with hold | hnew
    · exact absurd rfl (hother _ hold)
    · exact h.sameText hnew
  · intro n hn
    rw [failedBy_append, hfailed] at hn
    obtain ⟨hlt, hc, hmem⟩ := h.failed n hn
    exact ⟨hlt, hc, List.mem_append_right _ hmem⟩

variable [IdSupply]

/-- One move, whoever makes it: the invariant goes on, and the fan-out passes
over sessions that have closed. -/
theorem step (hocc : occasion.weight = 0) (hw : w.Sound)
    (h : FanOut text occasion snapshot f w es) (b : Bridge) (m : Move) :
    FanOut text occasion snapshot f (w.step b m) (es ++ w.news b m) ∧
      Passes (w.step b m).state (w.ahead f) ((w.step b m).ahead f)
        (handedBy f (w.news b m)) := by
  obtain ⟨p, hp, hstage, -⟩ := h.stage
  have hext := hw.run_extends b [m]
  cases World.step_turn hp b m with
  | rests hworks hother =>
      exact h.account hp (.idle hstage _ hother) hworks rfl hext
  | resumes outcome hworks hstate hnews =>
      rw [hnews]
      exact h.account hp
        (resume_accounts hocc hstage hw.table (hw.calls hp) b f outcome)
        hworks hstate hext

theorem run (hocc : occasion.weight = 0) (hw : w.Sound)
    (h : FanOut text occasion snapshot f w es) (b : Bridge) (ms : List Move) :
    FanOut text occasion snapshot f (w.run b ms) (es ++ w.trace b ms) := by
  induction ms generalizing w es with
  | nil =>
      rw [World.trace, List.append_nil]
      exact h
  | cons m ms ih =>
      rw [World.trace, ← List.append_assoc]
      exact ih (hw.step b m) (h.step hocc hw b m).1

/-- Whose turn is over is handed nothing more. -/
theorem not_handed_of_not_ahead (hocc : occasion.weight = 0) (hw : w.Sound)
    (h : FanOut text occasion snapshot f w es) {n : Nat}
    (hn : n ∉ w.ahead f) (b : Bridge) (ms : List Move) :
    n ∉ handedBy f (w.trace b ms) := by
  induction ms generalizing w es with
  | nil => exact List.not_mem_nil
  | cons m ms ih =>
      obtain ⟨h', hpass⟩ := h.step hocc hw b m
      rw [World.trace, handedBy_append, List.mem_append, not_or]
      exact ⟨fun hmem => hn (hpass.mem_before hmem),
        ih (hw.step b m) h' fun hmem => hn (hpass.mem_of_mem_after hmem)⟩

/-- The event that a fan-out starts with is a step of it: the whole snapshot
is ahead before. -/
theorem start {bound : Log.Keys} {e : Event} {s : State}
    (hocc : occasion.weight = 0)
    (he : b.start e w.state = startFanOut b bound text occasion s)
    (hs : s.sessions = w.state.sessions) :
    FanOut text occasion w.state.sessions.openNumbers w.works.length
        (w.step b (.start e)) (w.news b (.start e)) ∧
      Passes (w.step b (.start e)).state w.state.sessions.openNumbers
        ((w.step b (.start e)).ahead w.works.length)
        (handedBy w.works.length (w.news b (.start e))) := by
  have hacc := (fanOut_accounts hocc b bound text w.works.length 0
    s.sessions.openNumbers s).cons_began e
  have hsp : fanOut b bound text 0 occasion s.sessions.openNumbers s =
      b.start e w.state := he.symm
  rw [hsp, hs] at hacc
  have hworks : (w.step b (.start e)).works[w.works.length]? =
      some (b.start e w.state).2 := List.getElem?_concat_length
  have hstage := hacc.stage
  have hsettled := hacc.settled
  rw [Nat.zero_add] at hstage hsettled
  rw [World.ahead_eq hworks]
  refine ⟨⟨⟨_, hworks, hstage, hsettled⟩, ?_, hacc.sameText, hacc.failed⟩,
    hacc.passes⟩
  rw [World.ahead_eq hworks]
  exact hacc.passes.sublist

end FanOut

end ScreenBridge.Bridge
