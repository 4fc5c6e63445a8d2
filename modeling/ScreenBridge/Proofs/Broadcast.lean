import ScreenBridge.CountedIds
import ScreenBridge.Proofs.FanOut

/-!
# What a broadcast delivers

The contract of a broadcast, in every world a bridge can come to and under
every interleaving. It is the invariant of `FanOut.lean` read off at the end,
with one addition: what happens in the one step in which the turn of a session
comes. Before that step the session is ahead, so it has been handed nothing,
as handed and ahead are disjoint parts of the snapshot; in that step it is
handed the text exactly if it is open; and after it nothing more comes.

That a broadcast ends is a matter of weight. Each answer makes its work
lighter, so it ends after at most twice as many answers as there were sessions,
whatever else is answered in between.
-/

namespace ScreenBridge.Bridge

namespace FanOut

variable {b : Bridge} {text : String} {occasion : Occasion}
  {snapshot : List Nat} {f : Nat} {w : World} {es : List Entry}

theorem not_handed_of_ahead (h : FanOut text occasion snapshot f w es)
    (hnd : snapshot.Nodup) {n : Nat} (hn : n ∈ w.ahead f) :
    n ∉ handedBy f es := by
  have hnd' := hnd.sublist h.inOrder
  intro hmem
  exact (List.nodup_append.mp hnd').2.2 n hmem n hn rfl

/-- The step in which the turn of a session comes decides, for good. -/
theorem handed_iff_of_turn [IdSupply] (hocc : occasion.weight = 0) (hw : w.Sound)
    (h : FanOut text occasion snapshot f w es) (hnd : snapshot.Nodup)
    {n : Nat} {m : Move} (hbefore : n ∈ w.ahead f)
    (hafter : n ∉ (w.step b m).ahead f) (ms : List Move) :
    n ∈ handedBy f (es ++ w.trace b (m :: ms)) ↔
      (w.step b m).state.sessions.isOpen n := by
  obtain ⟨h', hpass⟩ := h.step hocc hw b m
  have hearlier := h.not_handed_of_ahead hnd hbefore
  have hlater := h'.not_handed_of_not_ahead hocc (hw.step b m) hafter b ms
  rw [World.trace, handedBy_append, handedBy_append, List.mem_append,
    List.mem_append, ← hpass.mem_handed_iff hbefore hafter]
  exact ⟨fun hmem => (hmem.resolve_left hearlier).resolve_right hlater,
    fun hmem => .inr (.inl hmem)⟩

end FanOut

/-- When a fan-out is through, nobody is ahead and every text handed over has
its answer. -/
theorem FanOut.finished {text : String} {occasion : Occasion}
    {snapshot : List Nat} {f : Nat} {w : World} {es : List Entry} {r : Result}
    (h : FanOut text occasion snapshot f w es)
    (hr : w.works[f]? = some (.finished r)) :
    r = occasion.result (takenBy f es).length ∧
      (handedBy f es).length = (takenBy f es).length + (failedBy f es).length ∧
      w.ahead f = [] := by
  obtain ⟨p, hp, hstage, hbalance⟩ := h.stage
  cases hr.symm.trans hp
  refine ⟨?_, hbalance, World.ahead_eq hr⟩
  cases hstage
  rfl

/-- What a fan-out of `text` that begins with the move `m` in the world `w`
keeps to while the moves `ms` follow. It is the work after those of `w`. -/
structure Delivers [IdSupply] (b : Bridge) (w : World) (m : Move) (ms : List Move)
    (text : String) : Prop where
  /-- Every session is handed the same text. -/
  sameText : ∀ n t, .called w.works.length (.send n t) ∈ w.trace b (m :: ms) →
    t = text
  /-- Nobody is handed it twice. -/
  atMostOnce : (handedBy w.works.length (w.trace b (m :: ms))).Nodup
  /-- Nobody is handed it who came after the start. -/
  openAtStart : ∀ n ∈ handedBy w.works.length (w.trace b (m :: ms)),
    w.state.sessions.isOpen n
  /-- Whoever was open at the start is handed it exactly if still open when
  the turn comes. -/
  turn : ∀ n ms₁, w.state.sessions.isOpen n → ms₁ <+: ms →
    TurnComes b (w.step b m) w.works.length n ms₁ →
    (n ∈ handedBy w.works.length (w.trace b (m :: ms)) ↔
      (w.run b (m :: ms₁)).state.sessions.isOpen n)
  /-- Whose text did not go is closed and out of the table from then on, and
  the connection was asked to close. -/
  failed : ∀ n t reason,
    .answered w.works.length (.send n t) (.raised reason) ∈
      w.trace b (m :: ms) →
    (∃ s, (w.run b (m :: ms)).state.sessions.session? n = some s ∧
      s.state = .closed) ∧
    n ∉ (w.run b (m :: ms)).state.sessions.live.map Prod.snd ∧
    .called w.works.length (.close n) ∈ w.trace b (m :: ms)
  /-- Nobody leaves for the failure of another session. -/
  leaves : ∀ n ms₁ m₁, ms₁ ++ [m₁] <+: m :: ms →
    (w.run b ms₁).state.sessions.isOpen n →
    ¬ (w.run b (ms₁ ++ [m₁])).state.sessions.isOpen n →
    m₁ = .start (.disconnect (sessionName n)) ∨
      ∃ g t sent reason, m₁ = .answer g (.raised reason) ∧
        (w.run b ms₁).works[g]? = some (.waiting t) ∧ t.call = .send n sent
  /-- It is through after a number of answers known at the start. -/
  ends : (∃ r, (w.run b (m :: ms)).works[w.works.length]? =
      some (.finished r)) ∨
    (∃ t, (w.run b (m :: ms)).works[w.works.length]? = some (.waiting t)) ∧
      answersTo w.works.length (w.trace b (m :: ms)) <
        2 * w.state.sessions.openNumbers.length
  /-- When it is through, everybody has had a turn, and the number that it
  returns is that of the texts that went. -/
  returns : ∀ r, (w.run b (m :: ms)).works[w.works.length]? =
      some (.finished r) →
    r = .fannedOut (takenBy w.works.length (w.trace b (m :: ms))).length ∧
    (handedBy w.works.length (w.trace b (m :: ms))).length =
      (takenBy w.works.length (w.trace b (m :: ms))).length +
        (failedBy w.works.length (w.trace b (m :: ms))).length ∧
    ∀ n, w.state.sessions.isOpen n →
      ∃ ms₁, ms₁ <+: ms ∧ TurnComes b (w.step b m) w.works.length n ms₁

namespace World

variable {b : Bridge} {w : World}

section
variable [IdSupply]

/-- A session that was open at the start of a fan-out is passed over or handed
the text when its turn comes, and that is all it gets. -/
theorem handed_iff_open (h : w.Sound) {e : Event} {bound : Log.Keys}
    {text : String} {occasion : Occasion} {s : State}
    (hocc : occasion.weight = 0)
    (he : b.start e w.state = startFanOut b bound text occasion s)
    (hs : s.sessions = w.state.sessions) {n : Nat} {ms ms₁ : List Move}
    (ho : w.state.sessions.isOpen n) (hpre : ms₁ <+: ms)
    (hturn : TurnComes b (w.step b (.start e)) w.works.length n ms₁) :
    n ∈ handedBy w.works.length (w.trace b (.start e :: ms)) ↔
      (w.run b (.start e :: ms₁)).state.sessions.isOpen n := by
  have hsound₁ := h.step b (.start e)
  have hnd := h.table.nodup_openNumbers
  have hmem := h.table.mem_openNumbers.mpr ho
  obtain ⟨hstart, hpass⟩ := FanOut.start hocc he hs
  obtain ⟨ms₂, rfl⟩ := hpre
  obtain ⟨hgone, hbefore⟩ := hturn
  rcases List.eq_nil_or_concat ms₁ with rfl | ⟨ms₀, m, hconcat⟩
  · -- Its turn came with the start itself.
    have hlater := hstart.not_handed_of_not_ahead hocc hsound₁ hgone b ms₂
    rw [List.nil_append, trace, handedBy_append, List.mem_append,
      or_iff_left hlater]
    exact hpass.mem_handed_iff hmem hgone
  · rw [List.concat_eq_append] at hconcat
    subst hconcat
    have hrun := hstart.run hocc hsound₁ b ms₀
    have hahead := hbefore ms₀ (List.prefix_append ..) (by simp)
    rw [run_concat] at hgone
    have hiff := hrun.handed_iff_of_turn hocc (hsound₁.run b ms₀) hnd hahead
      hgone ms₂
    rw [List.append_assoc, List.singleton_append, trace, trace_append,
      ← List.append_assoc, hiff, run_cons, run_concat]

/-- A broadcast makes at most two calls for each session that is open. -/
theorem answers_bounded (message : Json) (ms : List Move) :
    (∃ r, (w.run b (.start (.broadcast message) :: ms)).works[w.works.length]? =
      some (.finished r)) ∨
    (∃ t, (w.run b (.start (.broadcast message) :: ms)).works[w.works.length]? =
      some (.waiting t)) ∧
      answersTo w.works.length (w.trace b (.start (.broadcast message) :: ms)) <
        2 * w.state.sessions.openNumbers.length := by
  have hbegun : (w.step b (.start (.broadcast message))).works[w.works.length]? =
      some (b.start (.broadcast message) w.state).2 := List.getElem?_concat_length
  have hfirst : (b.start (.broadcast message) w.state).2.weight ≤
      2 * w.state.sessions.openNumbers.length := fanOut_weight_le ..
  have hnone : answersTo w.works.length
      (w.news b (.start (.broadcast message))) = 0 := answersTo_entries ..
  rw [run_cons, trace, answersTo_append, hnone, Nat.zero_add]
  exact run_within hbegun hfirst b ms

theorem broadcast_delivers (h : w.Reachable b) (message : Json)
    (ms : List Move) :
    Delivers b w (.start (.broadcast message)) ms message.encode := by
  have hsound := h.sound
  have hsound₁ := hsound.step b (.start (.broadcast message))
  have hocc : Occasion.message.weight = 0 := rfl
  have he : b.start (.broadcast message) w.state =
      startFanOut b [] message.encode .message w.state := rfl
  obtain ⟨hstart, -⟩ := FanOut.start hocc he rfl
  have hfan := hstart.run rfl hsound₁ b ms
  have hinOrder := (List.sublist_append_left ..).trans hfan.inOrder
  refine ⟨fun n t => hfan.sameText, ?_, ?_, ?_, ?_, ?_, ?_, ?_⟩
  · exact hsound.table.nodup_openNumbers.sublist hinOrder
  · exact fun n hn => hsound.table.mem_openNumbers.mp (hinOrder.mem hn)
  · intro n ms₁ ho hpre hturn
    exact handed_iff_open hsound hocc he rfl ho hpre hturn
  · intro n t reason hmem
    obtain ⟨hlt, hc, hclose⟩ :=
      hfan.failed n (mem_failedBy.mpr ⟨t, reason, hmem⟩)
    exact ⟨(SessionTable.not_isOpen_iff hlt).mp hc,
      (hsound₁.run b ms).not_mem_live_iff.mpr hc, hclose⟩
  · intro n ms₁ m₁ hpre ho hc
    rw [run_concat] at hc
    exact (hsound.run b ms₁).leaves ho hc
  · exact answers_bounded message ms
  · intro r hr
    obtain ⟨hresult, hsettled, hahead⟩ := hfan.finished hr
    refine ⟨hresult, hsettled, fun n _ => exists_turnComes ?_⟩
    rw [hahead]
    exact List.not_mem_nil

end

def threeOpen : World :=
  launched.run relay
    [.start (.openSession 0), .start (.openSession 1), .start (.openSession 2)]

/-- While a text is on its way to the first of them, a viewer comes and the
second leaves; the text does not go to the third. -/
def comingAndGoing : List Move :=
  [.start (.openSession 3), .start (.disconnect (sessionName 1)),
    .answer 3 .done, .answer 3 (.raised "broken pipe"), .answer 3 .done]

theorem broadcast_delivers_comingAndGoing :
    threeOpen.Reachable relay ∧
    handedBy 3 (threeOpen.trace relay
      (.start (.broadcast .null) :: comingAndGoing)) = [0, 2] ∧
    (threeOpen.run relay
      (.start (.broadcast .null) :: comingAndGoing)).works[3]? =
        some (.finished (.fannedOut 1)) ∧
    Delivers relay threeOpen (.start (.broadcast .null)) comingAndGoing
      Json.null.encode := by
  have hreach : threeOpen.Reachable relay := Reachable.launched.run _
  exact ⟨hreach, by decide +kernel, rfl, broadcast_delivers hreach ..⟩

end World

end ScreenBridge.Bridge
