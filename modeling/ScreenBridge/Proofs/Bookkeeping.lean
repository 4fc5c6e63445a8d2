import ScreenBridge.CountedIds
import ScreenBridge.Proofs.Interleaving

/-!
# Table, states and gauge stay in step

Opening, closing and a send that fails each touch three things: the table of
live sessions, the state kept with every session, and the gauge. This file
proves that the three agree in every world a bridge can come to, that is at
every point where one work waits and another may run.

The argument is one invariant, `Sound`, and one lemma for each of the two
things a move does. `step_sessions` reads a move as a `SessionStep`, with the
names it may close; `mem_news_called` reads the calls it makes. Both come
from the case analysis of `Interleaving.lean`, so the invariant never looks at
the bridge's code.

What a run does to a session that is closed already is then a matter of
`Extends`: closed sessions stay closed (`run_extends`), a text is only ever
handed to an open one, so nothing more is handed to it.
-/

namespace ScreenBridge.Bridge

def Call.session : Call → Nat
  | .send n _ => n
  | .close n => n

/-- The names that a move may close: the one that a viewer leaves under, or
the one of the session that a text could not be sent to. -/
def Move.Closes (w : World) : Move → String → Prop
  | .start e, id => e = .disconnect id
  | .answer f outcome, id =>
    ∃ t, w.works[f]? = some (.waiting t) ∧ t.Fails outcome w.state id
  | .tick _, _ => False

/-! ## A step of the sessions -/

namespace SessionStep

variable [IdSupply] {closes : String → Prop} {s s' : State}

theorem wellFormed (h : SessionStep closes s s')
    (hs : s.sessions.WellFormed) : s'.sessions.WellFormed := by
  cases h with
  | same h => rw [h.sessions]; exact hs
  | opened connection now heq _ => rw [heq]; exact hs.add connection now
  | closed id _ heq _ => rw [heq]; exact hs.remove id

theorem extends_ (h : SessionStep closes s s') (hs : s.sessions.WellFormed) :
    s.sessions.Extends s'.sessions := by
  cases h with
  | same h => rw [h.sessions]; exact .refl _
  | opened connection now heq _ =>
      rw [heq]
      exact SessionTable.extends_add ..
  | closed id _ heq _ => rw [heq]; exact hs.extends_remove id

theorem gauge (h : SessionStep closes s s')
    (hs : s.sessions.next ≠ 0 → s.metrics.activeSessions = s.sessions.size)
    (hne : s'.sessions.next ≠ 0) :
    s'.metrics.activeSessions = s'.sessions.size := by
  cases h with
  | same h =>
      rw [h.sessions] at hne ⊢
      rw [h.gauge, hs hne]
  | opened connection now _ hg => exact hg
  | closed id _ _ hg => exact hg

/-- A session leaves only under a name that the step may close. -/
theorem leaves (h : SessionStep closes s s') (hs : s.sessions.WellFormed)
    {n : Nat} (ho : s.sessions.isOpen n) (hc : ¬ s'.sessions.isOpen n) :
    closes (sessionName n) := by
  cases h with
  | same h => exact absurd (by rw [h.sessions]; exact ho) hc
  | opened connection now heq _ =>
      rw [heq, SessionTable.isOpen_add] at hc
      exact absurd (.inr ho) hc
  | closed id hid heq _ =>
      rw [heq, hs.isOpen_remove, not_and, Classical.not_not] at hc
      rw [← hc ho]
      exact hid

end SessionStep

section
variable [IdSupply] {s : State} {n : Nat}

theorem nameOf_eq (hs : s.sessions.WellFormed) (hn : n < s.sessions.next) :
    s.nameOf n = sessionName n := by
  have heq : s.sessions.session? n = some s.sessions.created[n] :=
    List.getElem?_eq_getElem hn
  rw [State.nameOf, heq]
  exact hs.named heq

theorem not_isOpen_closeSession (hs : s.sessions.WellFormed)
    (bound : Log.Keys) (n : Nat) :
    ¬ (s.closeSession bound (sessionName n)).sessions.isOpen n := by
  rw [State.closeSession]
  split
  · next hf => exact hs.find?_eq_none.mp hf n rfl
  · intro ho
    exact ((hs.isOpen_remove _ n).mp ho).2 rfl

/-- A session whose text did not go is closed, whether it still was in the
table or not. -/
theorem not_isOpen_of_raised {t : Task} {text : String}
    (hcall : t.call = .send n text) (hs : s.sessions.WellFormed)
    (hn : n < s.sessions.next) (b : Bridge) (reason : String) :
    ¬ (resume b t (.raised reason) s).1.sessions.isOpen n := by
  obtain ⟨bound, call, sequel⟩ := t
  obtain rfl : call = .send n text := hcall
  show ¬ (State.closeSession bound (s.nameOf n) _).sessions.isOpen n
  rw [nameOf_eq hs hn]
  refine not_isOpen_closeSession ?_ bound n
  exact hs

end

namespace World

variable {b : Bridge} {w : World} {m : Move} {ms : List Move}

/-! ## A move of the world -/

theorem mem_entries {f : Nat} {p : Progress} {e : Entry} :
    e ∈ p.entries f ↔ ∃ t, p = .waiting t ∧ e = .called f t.call := by
  cases p with
  | waiting t =>
      rw [Progress.entries, List.mem_singleton]
      exact ⟨fun h => ⟨t, rfl, h⟩, fun ⟨_, ht, h⟩ => by cases ht; exact h⟩
  | finished r =>
      exact ⟨fun h => (nomatch h), fun ⟨_, ht, _⟩ => (nomatch ht)⟩

section
variable [IdSupply]

theorem step_sessions (b : Bridge) (w : World) (m : Move) :
    SessionStep (m.Closes w) w.state (w.step b m).state := by
  have hadv := advance_cases b w m
  generalize w.step b m = w', w.news b m = es at hadv
  cases hadv with
  | start e => exact start_sessions b e w.state
  | @answer f t hf outcome =>
      have h := resume_sessions b t outcome w.state
      cases h with
      | same h => exact .same h
      | opened connection now hs hg => exact .opened connection now hs hg
      | closed id hid hs hg => exact .closed id ⟨t, hf, hid⟩ hs hg
  | idle => exact .same (.refl _)
  | tick => exact .same ⟨rfl, rfl⟩

/-- A call is a text handed to a session that is open at that moment, or the
closing of a connection over which the text just sent did not go. -/
theorem mem_news_called {f : Nat} {c : Call} (h : .called f c ∈ w.news b m) :
    (∃ n text, c = .send n text ∧ (w.step b m).state.sessions.isOpen n) ∨
    (∃ n text reason t, c = .close n ∧ m = .answer f (.raised reason) ∧
      w.works[f]? = some (.waiting t) ∧ t.call = .send n text) := by
  have hadv := advance_cases b w m
  generalize w.step b m = w', w.news b m = es at hadv h
  cases hadv with
  | start e =>
      rcases List.mem_cons.mp h with heq | hmem
      · cases heq
      · obtain ⟨t, ht, heq⟩ := mem_entries.mp hmem
        cases heq
        exact .inl (start_hands ht)
  | @answer g t hg outcome =>
      rcases List.mem_cons.mp h with heq | hmem
      · cases heq
      · obtain ⟨t', ht', heq⟩ := mem_entries.mp hmem
        cases heq
        rcases resume_hands ht' with hsend | ⟨n, text, reason, hcall, rfl, hclose⟩
        · exact .inl hsend
        · exact .inr ⟨n, text, reason, t, hclose, rfl, hg, hcall⟩
  | idle => cases h
  | tick => cases h

/-- A work that waits after a move has waited before, or makes its call now. -/
theorem waiting_of_step {f : Nat} {t : Task}
    (h : (w.step b m).works[f]? = some (.waiting t)) :
    w.works[f]? = some (.waiting t) ∨ .called f t.call ∈ w.news b m := by
  have hadv := advance_cases b w m
  generalize w.step b m = w', w.news b m = es at hadv h
  cases hadv with
  | start e =>
      rw [List.getElem?_append] at h
      split at h
      · exact .inl h
      · next hge =>
          obtain ⟨hlt, ht⟩ := List.getElem?_eq_some_iff.mp h
          have hf : f = w.works.length := by
            simp only [List.length_singleton] at hlt
            omega
          subst hf
          rw [List.getElem_singleton] at ht
          exact .inr (List.mem_cons_of_mem _ (mem_entries.mpr ⟨t, ht, rfl⟩))
  | @answer g t' hg outcome =>
      rw [List.getElem?_set] at h
      split at h
      · next heq =>
          split at h
          · cases heq
            exact .inr (List.mem_cons_of_mem _
              (mem_entries.mpr ⟨t, Option.some.inj h, rfl⟩))
          · cases h
      · exact .inl h
  | idle => exact .inl h
  | tick => exact .inl h

/-! ## The invariant -/

/-- What every reachable world keeps. -/
structure Sound (w : World) : Prop where
  /-- The two halves of the table agree. -/
  table : w.state.sessions.WellFormed
  /-- The gauge was set by whatever changed the table last. -/
  gauge : w.state.sessions.next ≠ 0 →
    w.state.metrics.activeSessions = w.state.sessions.size
  /-- Calls are about sessions that exist. -/
  calls : ∀ {f : Nat} {t : Task}, w.works[f]? = some (.waiting t) →
    t.call.session < w.state.sessions.next

theorem Sound.step (h : w.Sound) (b : Bridge) (m : Move) :
    (w.step b m).Sound := by
  have hstep := step_sessions b w m
  have hext := hstep.extends_ h.table
  refine ⟨hstep.wellFormed h.table, hstep.gauge h.gauge, ?_⟩
  intro f t hf
  rcases waiting_of_step hf with hold | hnew
  · exact Nat.lt_of_lt_of_le (h.calls hold) hext.next_le
  · rcases mem_news_called hnew with
      ⟨n, text, hc, ho⟩ | ⟨n, text, reason, t', hc, _, hf', hc'⟩
    · rw [hc]
      exact SessionTable.isOpen_lt ho
    · have hlt := h.calls hf'
      rw [hc'] at hlt
      rw [hc]
      exact Nat.lt_of_lt_of_le hlt hext.next_le

theorem Sound.run (h : w.Sound) (b : Bridge) (ms : List Move) :
    (w.run b ms).Sound := by
  induction ms generalizing w with
  | nil => exact h
  | cons m ms ih => exact ih (h.step b m)

theorem Reachable.sound (h : w.Reachable b) : w.Sound := by
  induction h with
  | launch hs =>
      refine ⟨by rw [hs]; exact .empty, fun hne => ?_, fun hf => (nomatch hf)⟩
      rw [hs] at hne
      exact absurd rfl hne
  | step _ m ih => exact ih.step b m

theorem Sound.run_extends (h : w.Sound) (b : Bridge) (ms : List Move) :
    w.state.sessions.Extends (w.run b ms).state.sessions := by
  induction ms generalizing w with
  | nil => exact .refl _
  | cons m ms ih =>
      exact ((step_sessions b w m).extends_ h.table).trans (ih (h.step b m))

/-- A session that is closed stays closed. -/
theorem Sound.run_closed (h : w.Sound) {n : Nat}
    (hn : n < w.state.sessions.next) (hc : ¬ w.state.sessions.isOpen n)
    (b : Bridge) (ms : List Move) : ¬ (w.run b ms).state.sessions.isOpen n :=
  fun ho => hc ((h.run_extends b ms).isOpen_of hn ho)

theorem Sound.not_called_send (h : w.Sound) {n : Nat}
    (hn : n < w.state.sessions.next) (hc : ¬ w.state.sessions.isOpen n)
    (b : Bridge) (ms : List Move) (f : Nat) (text : String) :
    .called f (.send n text) ∉ w.trace b ms := by
  induction ms generalizing w with
  | nil => exact List.not_mem_nil
  | cons m ms ih =>
      have hclosed := h.run_closed hn hc b [m]
      have hlt := Nat.lt_of_lt_of_le hn (h.run_extends b [m]).next_le
      rw [trace, List.mem_append, not_or]
      refine ⟨fun hmem => ?_, ih (h.step b m) hlt hclosed⟩
      rcases mem_news_called hmem with ⟨_, _, hcall, ho⟩ | ⟨_, _, _, _, hcall, _⟩
      · cases hcall
        exact hclosed ho
      · cases hcall

/-! ## The books at every await -/

theorem Sound.not_mem_live_iff (h : w.Sound) {n : Nat} :
    n ∉ w.state.sessions.live.map Prod.snd ↔ ¬ w.state.sessions.isOpen n := by
  rw [← h.table.openNumbers_eq, h.table.mem_openNumbers]

/-- In every world that a bridge can come to, whatever was interleaved and
whichever calls failed: a name in the table is that of the session under it,
which is open; a session that is not in the table is closed; a closed session
never opens or enters the table again, and nothing is handed to it any more;
and the gauge shows the size of the table from the first session on. -/
theorem reachable_bookkeeping (h : w.Reachable b) :
    (∀ id n, (id, n) ∈ w.state.sessions.live →
      ∃ s, w.state.sessions.session? n = some s ∧ s.id = id ∧
        s.state = .opened) ∧
    (∀ n s, w.state.sessions.session? n = some s →
      n ∉ w.state.sessions.live.map Prod.snd → s.state = .closed) ∧
    (∀ n s, w.state.sessions.session? n = some s → s.state = .closed →
      ∀ ms,
        (∃ s', (w.run b ms).state.sessions.session? n = some s' ∧
          s'.state = .closed) ∧
        n ∉ (w.run b ms).state.sessions.live.map Prod.snd ∧
        ∀ f text, .called f (.send n text) ∉ w.trace b ms) ∧
    (w.state.sessions.created ≠ [] →
      w.state.metrics.activeSessions = w.state.sessions.size) := by
  have hsound := h.sound
  refine ⟨?_, ?_, ?_, ?_⟩
  · intro id n hmem
    obtain ⟨hid, ho⟩ := hsound.table.live_isOpen hmem
    obtain ⟨s, hs, hstate⟩ := SessionTable.isOpen_iff.mp ho
    exact ⟨s, hs, (hsound.table.named hs).trans hid.symm, hstate⟩
  · intro n s hs hn
    have hlt := (List.getElem?_eq_some_iff.mp hs).1
    obtain ⟨s', hs', hclosed⟩ :=
      (SessionTable.not_isOpen_iff hlt).mp (hsound.not_mem_live_iff.mp hn)
    rw [hs] at hs'
    cases hs'
    exact hclosed
  · intro n s hs hclosed ms
    have hlt := (List.getElem?_eq_some_iff.mp hs).1
    have hc := (SessionTable.not_isOpen_iff hlt).mpr ⟨s, hs, hclosed⟩
    have hlt' := Nat.lt_of_lt_of_le hlt (hsound.run_extends b ms).next_le
    have hc' := hsound.run_closed hlt hc b ms
    exact ⟨(SessionTable.not_isOpen_iff hlt').mp hc',
      (hsound.run b ms).not_mem_live_iff.mpr hc',
      fun f text => hsound.not_called_send hlt hc b ms f text⟩
  · intro hne
    exact hsound.gauge fun hlen => hne (List.eq_nil_of_length_eq_zero hlen)

end

/-- Two sessions, and a broadcast whose text does not go to the first. -/
def brokenPipe : List Move :=
  [.start (.openSession 0), .start (.openSession 1), .start (.broadcast .null),
    .answer 2 (.raised "broken pipe")]

theorem reachable_bookkeeping_brokenPipe :
    (launched.run relay brokenPipe).Reachable relay ∧
    (∀ ms, 0 ∉ ((launched.run relay brokenPipe).run relay ms).state.sessions.live.map
        Prod.snd ∧
      ∀ f text, .called f (.send 0 text) ∉
        (launched.run relay brokenPipe).trace relay ms) ∧
    (launched.run relay brokenPipe).state.metrics.activeSessions = 1 := by
  have hreach : (launched.run relay brokenPipe).Reachable relay :=
    Reachable.launched.run brokenPipe
  obtain ⟨-, -, hclosed, hgauge⟩ := reachable_bookkeeping hreach
  have hcreated : (launched.run relay brokenPipe).state.sessions.created ≠ [] := by
    decide +kernel
  refine ⟨hreach, fun ms => (hclosed 0 _ rfl rfl ms).2, ?_⟩
  rw [hgauge hcreated]
  rfl

end World

end ScreenBridge.Bridge
