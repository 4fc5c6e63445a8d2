import ScreenBridge.CountedIds
import ScreenBridge.Proofs.FrameCourse
import ScreenBridge.Proofs.GenerationStops

/-!
# What a failure leaves behind

A frame can fail at many places, some before anything has happened on its
behalf and some after. This file shows that the two kinds never mix. A frame
that ends in a parse, configuration or translation error was refused before
its first call (`Refuses`), so its sender is told once, nobody else is told
anything, and sessions, configuration and files are as they were. A frame that
ends in a generation error has shared its screen by then, and with everybody.

The second half is about the same frame on two bridges, one of which writes no
sources. `Shadow` relates their runs: they agree up to the last call of the
fan-out, and after it the one without sources is done while the other may
still have an error to tell. So whatever the viewers got of the screen they
would have got anyway.
-/

namespace ScreenBridge.Bridge

open Log (Keys)
open Wire (ErrorCode Failure Message)

/-! ## Errors among the texts -/

/-- A text tells of an error of a kind. -/
def Tells (code : ErrorCode) (text : String) : Prop :=
  ∃ now message details, text = (Message.error now code.word message details).text

/-- A work ends in an error: somebody is told of one. -/
def EndsIn (f : Nat) (code : ErrorCode) (es : List Entry) : Prop :=
  ∃ n text, .called f (.send n text) ∈ es ∧ Tells code text

section
variable {code code' : ErrorCode} {text : String}

theorem code_eq_of_word_eq (h : code.word = code'.word) : code = code' := by
  cases code <;> cases code' <;> first | rfl | exact absurd h (by decide)

theorem tells_ofFailure (now : String) (failure : Failure) :
    Tells failure.code (Message.ofFailure now failure).text :=
  ⟨now, failure.message, failure.details, rfl⟩

theorem Tells.code_eq (h : Tells code text) (h' : Tells code' text) : code = code' := by
  obtain ⟨now, message, details, rfl⟩ := h
  obtain ⟨now', message', details', heq⟩ := h'
  exact code_eq_of_word_eq (Message.code_eq_of_text_eq heq)

/-- Only errors tell of errors. -/
theorem Tells.type_eq {m : Message} (h : Tells code m.text) : m.type = .error := by
  obtain ⟨now, message, details, heq⟩ := h
  exact Message.type_eq_of_text_eq heq

theorem mem_callsBy {f : Nat} {c : Call} {es : List Entry} :
    c ∈ callsBy f es ↔ .called f c ∈ es := by
  rw [callsBy, List.mem_filterMap]
  constructor
  · rintro ⟨e, hmem, he⟩
    rw [Entry.call?.eq_def] at he
    split at he
    · next g c' =>
        split at he
        · next hg => cases he; cases hg; exact hmem
        · cases he
    · cases he
  · intro hmem
    exact ⟨_, hmem, if_pos rfl⟩

end

/-! ## One work alone -/

/-- A move in which at most the work `f` runs. -/
def Move.Only (f : Nat) : Move → Prop
  | .start _ => False
  | .answer g _ => g = f
  | .tick _ => True

namespace World

variable [IdSupply] {b : Bridge} {w : World} {m : Move} {ms : List Move} {f n : Nat}
  {p : Progress}

/-- Work that is over makes no more of an answer. -/
theorem step_finished {r : Result} (hp : w.works[f]? = some (.finished r))
    (hm : m.Only f) (b : Bridge) :
    (w.step b m).works[f]? = some (.finished r) ∧ w.news b m = [] ∧
      SameContext w.state (w.step b m).state := by
  cases m with
  | start e => exact hm.elim
  | tick now => exact ⟨hp, rfl, rfl, rfl, rfl⟩
  | answer g outcome =>
      cases hm
      rw [step, news, advance, hp]
      exact ⟨hp, rfl, .refl _⟩

theorem work_of_only (hm : m.Only f) {e : Entry} (he : e ∈ w.news b m) : e.work = f := by
  have hadv := advance_cases b w m
  generalize w.step b m = w', w.news b m = es at hadv he
  cases hadv with
  | start e' => exact hm.elim
  | @answer g t hg outcome =>
      cases hm
      rcases List.mem_cons.mp he with rfl | hmem
      · rfl
      · obtain ⟨t', -, rfl⟩ := mem_entries.mp hmem
        rfl
  | idle | tick => cases he

theorem work_of_mem_news_start {e : Event} {line : Entry} (h : line ∈ w.news b (.start e)) :
    line.work = w.works.length := by
  rcases List.mem_cons.mp h with rfl | hmem
  · rfl
  · obtain ⟨t, -, rfl⟩ := mem_entries.mp hmem
    rfl

theorem work_of_only_run (hms : ∀ m ∈ ms, m.Only f) {e : Entry}
    (he : e ∈ w.trace b ms) : e.work = f := by
  induction ms generalizing w with
  | nil => cases he
  | cons m ms ih =>
      rw [List.forall_mem_cons] at hms
      rcases List.mem_append.mp he with hold | hnew
      · exact work_of_only hms.1 hold
      · exact ih hms.2 hnew

/-- No text fails in a run in which no call does. -/
theorem not_fails_of_done (hdone : ∀ f reason, .answer f (.raised reason) ∉ ms) (n : Nat) :
    ∀ e ∈ w.trace b ms, e.fails n = false := by
  induction ms generalizing w with
  | nil => exact fun e he => (nomatch he)
  | cons m ms ih =>
      rw [trace, List.forall_mem_append]
      refine ⟨fun e he => ?_, ih fun f reason hmem =>
        hdone f reason (List.mem_cons_of_mem m hmem)⟩
      have hadv := advance_cases b w m
      generalize w.step b m = w', w.news b m = es at hadv he
      cases hadv with
      | start e' =>
          rcases List.mem_cons.mp he with rfl | hmem
          · rfl
          · obtain ⟨t, -, rfl⟩ := mem_entries.mp hmem
            rfl
      | @answer f t hf outcome =>
          rcases List.mem_cons.mp he with rfl | hmem
          · cases outcome with
            | raised reason => exact absurd List.mem_cons_self (hdone f reason)
            | done => cases t.call <;> rfl
          · obtain ⟨t', -, rfl⟩ := mem_entries.mp hmem
            rfl
      | idle | tick => cases he

/-- While a work tells its sender something and nothing else runs, sessions,
configuration and files stay. -/
theorem step_telling_context {text : String} (hp : w.works[f]? = some p)
    (h : Telling n text p) (hm : m.Only f)
    (hsent : ∀ e ∈ w.news b m, e.fails n = false) :
    SameContext w.state (w.step b m).state := by
  cases h with
  | told => exact (step_finished hp hm b).2.2
  | handed bound =>
      cases m with
      | start e => exact hm.elim
      | tick now => exact ⟨rfl, rfl, rfl⟩
      | answer g outcome =>
          cases hm
          rw [news, advance_answer hp] at hsent
          rw [step, advance_answer hp]
          cases outcome with
          | done => exact .refl _
          | raised reason =>
              have hno := hsent _ List.mem_cons_self
              rw [Entry.fails, decide_eq_false_iff_not] at hno
              exact absurd rfl hno

theorem run_telling_context {text : String} (hp : w.works[f]? = some p)
    (h : Telling n text p) (hms : ∀ m ∈ ms, m.Only f)
    (hsent : ∀ e ∈ w.trace b ms, e.fails n = false) :
    SameContext w.state (w.run b ms).state := by
  induction ms generalizing w p with
  | nil => exact .refl _
  | cons m ms ih =>
      rw [List.forall_mem_cons] at hms
      rw [trace, List.forall_mem_append] at hsent
      have hstep := step_telling_context hp h hms.1 hsent.1
      obtain ⟨⟨p', hp', h'⟩, -⟩ := step_telling hp h hsent.1
      exact hstep.trans (ih hp' h' hms.2 hsent.2)

end World

/-! ## The same screen with and without sources -/

/-- The kinds of error that come after a screen was shared. -/
def Late (code : ErrorCode) : Prop :=
  code = .generation ∨ code = .internal

/-- What can follow when a screen has been shared, with the lines that it adds:
nothing, or an error for its sender. -/
inductive Afterwards (f n : Nat) : Progress → List Entry → Prop where
  | ended : Afterwards f n (.finished .handled) []
  | telling {code : ErrorCode} {text : String} {p : Progress} {es : List Entry}
      (hlate : Late code) (htells : Tells code text) (htelling : Telling n text p)
      (hnone : callsBy f es = []) :
      Afterwards f n p (.called f (.send n text) :: es)

/-- Two runs of the work `f`, which shares a screen on behalf of the session
`n` with those of `snapshot`; the second one writes no sources. -/
inductive Shadow [IdSupply] (f n : Nat) (text : String) (d : Ui.Document) (unmapped : List String)
    (snapshot : List Nat) (w w' : World) (es es' : List Entry) : Prop where
  | together {bound : Keys} {call : Call} {k : Nat} {rest : List Nat} {delivered : Nat}
      (hcall : call = .send k text ∨ call = .close k)
      (hworks : w.works[f]? = some (.waiting
        ⟨bound, call, .fanOut text rest delivered (.screen (sessionName n) d unmapped)⟩))
      (hworks' : w'.works[f]? = w.works[f]?) (hstate : w'.state = w.state)
      (hfresh : (k :: rest).Nodup) (hopen : ∀ j ∈ rest, w.state.sessions.isOpen j)
      (hes : es' = es) (htexts : ∀ j t, .called f (.send j t) ∈ es' → t = text)
      (hhanded : handedBy f es' ++ rest = snapshot)
  | apart {p : Progress} {rest : List Entry} (hworks : w.works[f]? = some p)
      (hworks' : w'.works[f]? = some (.finished .handled)) (hafter : Afterwards f n p rest)
      (hes : es = es' ++ rest) (htexts : ∀ j t, .called f (.send j t) ∈ es' → t = text)
      (hhanded : handedBy f es' = snapshot)

section
variable {b : Bridge} {bound : Keys} {f n : Nat} {text : String} {d : Ui.Document}
  {unmapped : List String} {snapshot : List Nat} {s : State}

theorem report_afterwards [IdSupply] (hs : s.sessions.WellFormed) (f n : Nat) (bound : Keys)
    {failure : Failure} (hlate : Late failure.code) :
    Afterwards f n (report bound (sessionName n) failure s).2
      ((report bound (sessionName n) failure s).2.entries f) := by
  have htells := tells_ofFailure s.now failure
  rw [report, sendTo]
  split
  · next m hm =>
      have hfind : s.sessions.openNumber? (sessionName n) = some m := hm
      rw [hs.openNumber?_eq] at hfind
      have hnm := sessionName_inj (hs.find?_eq_some.mp hfind).1
      rw [← hnm]
      exact .telling hlate htells (.handed bound) rfl
  · exact .ended

theorem writeSources_afterwards [IdSupply] (hs : s.sessions.WellFormed) (b : Bridge) (f n : Nat)
    (bound : Keys) (d : Ui.Document) :
    Afterwards f n (writeSources b bound (sessionName n) d s).2
      ((writeSources b bound (sessionName n) d s).2.entries f) := by
  unfold writeSources
  split
  · exact .ended
  · next g _ =>
    have hcode := @Source.Generator.code_of_generate_failed g d s.files
    generalize Source.Generator.run (g.generate d) s.files = r at hcode
    obtain ⟨outcome, notices, files⟩ := r
    dsimp only
    split
    · exact .ended
    · refine report_afterwards ?_ f n bound (.inl (hcode rfl))
      exact hs
    · refine report_afterwards ?_ f n bound (.inr rfl)
      exact hs

/-- A fan-out goes on after every answer but the one that a text did not go. -/
theorem resume_fanOut_cases (bound : Keys) (call : Call) (text : String)
    (rest : List Nat) (delivered : Nat) (occasion : Occasion) (outcome : Outcome)
    (s : State) :
    (∃ k t reason, call = .send k t ∧ outcome = .raised reason) ∨
    ∃ delivered' s', s'.sessions = s.sessions ∧
      ∀ b, resume b ⟨bound, call, .fanOut text rest delivered occasion⟩ outcome s =
        fanOut b bound text delivered' occasion rest s' := by
  cases call with
  | send k t =>
      cases outcome with
      | done => exact .inr ⟨delivered + 1, s, rfl, fun _ => rfl⟩
      | raised reason => exact .inl ⟨k, t, reason, rfl, rfl⟩
  | close k =>
      cases outcome with
      | done => exact .inr ⟨delivered, s, rfl, fun _ => rfl⟩
      | raised reason =>
          exact .inr ⟨delivered, s.note bound (.transportCloseFailed (s.nameOf k) reason),
            rfl, fun _ => rfl⟩

/-- Nobody leaves by an answer but the session that its text was for. -/
theorem World.Sound.stays_behind [IdSupply] {w : World} (hw : w.Sound) {t : Task} {j k : Nat}
    (hf : w.works[f]? = some (.waiting t)) (hcall : t.call = .send k text)
    (hj : w.state.sessions.isOpen j) (hne : j ≠ k) (outcome : Outcome) :
    (w.step b (.answer f outcome)).state.sessions.isOpen j := by
  refine Classical.byContradiction fun hc => ?_
  rcases hw.leaves hj hc with heq | ⟨g, t', _, _, heq, hg, hcall'⟩
  · cases heq
  · cases heq
    obtain rfl := Progress.waiting.inj (Option.some.inj (hf.symm.trans hg))
    cases hcall.symm.trans hcall'
    exact hne rfl

/-- Where all that are ahead are open, the next of them is handed the text; when
nobody is ahead the two runs part. -/
theorem shadow_fanOut [IdSupply] {w w' : World} {es : List Entry} {rest : List Nat}
    {delivered : Nat} (hworks : w.works[f]? = some
      (fanOut b bound text delivered (.screen (sessionName n) d unmapped) rest s).2)
    (hstate : w.state =
      (fanOut b bound text delivered (.screen (sessionName n) d unmapped) rest s).1)
    (hworks' : w'.works[f]? = some
      (fanOut (b.writing none) bound text delivered
        (.screen (sessionName n) d unmapped) rest s).2)
    (hstate' : w'.state =
      (fanOut (b.writing none) bound text delivered
        (.screen (sessionName n) d unmapped) rest s).1)
    (hs : s.sessions.WellFormed) (hfresh : rest.Nodup)
    (hopen : ∀ j ∈ rest, s.sessions.isOpen j)
    (htexts : ∀ j t, .called f (.send j t) ∈ es → t = text)
    (hhanded : handedBy f es ++ rest = snapshot) :
    Shadow f n text d unmapped snapshot w w'
      (es ++ (fanOut b bound text delivered
        (.screen (sessionName n) d unmapped) rest s).2.entries f)
      (es ++ (fanOut (b.writing none) bound text delivered
        (.screen (sessionName n) d unmapped) rest s).2.entries f) := by
  cases rest with
  | nil =>
      have hdone : (fanOut (b.writing none) bound text delivered
          (.screen (sessionName n) d unmapped) [] s).2 = .finished .handled := rfl
      rw [hdone] at hworks' ⊢
      rw [Progress.entries, List.append_nil]
      rw [List.append_nil] at hhanded
      rw [fanOut, concludeFanOut] at hworks ⊢
      refine .apart hworks hworks' (writeSources_afterwards ?_ ..) rfl htexts hhanded
      exact hs
  | cons j rest =>
      have ho := hopen j List.mem_cons_self
      rw [fanOut, if_pos ho] at hworks hstate hworks' hstate'
      rw [fanOut, if_pos ho, fanOut, if_pos ho]
      refine .together (.inl rfl) hworks (hworks'.trans hworks.symm)
        (hstate'.trans hstate.symm) hfresh ?_ rfl ?_ ?_
      · rw [hstate]
        exact fun k hk => hopen k (List.mem_cons_of_mem j hk)
      · intro k t hmem
        rcases List.mem_append.mp hmem with hold | hnew
        · exact htexts k t hold
        · cases List.mem_singleton.mp hnew
          rfl
      · rw [handedBy_append, Progress.entries, handedBy_cons_send, List.append_assoc]
        exact hhanded

namespace Shadow

variable [IdSupply] {w w' : World} {es es' : List Entry} {m : Move}

/-- A text that did not go to `k` closes nobody but `k`, in both runs alike. -/
theorem step_raised (hw : w.Sound) {k : Nat} {rest : List Nat} {delivered : Nat}
    (hworks : w.works[f]? = some (.waiting
      ⟨bound, .send k text, .fanOut text rest delivered (.screen (sessionName n) d unmapped)⟩))
    (hworks' : w'.works[f]? = w.works[f]?) (hstate : w'.state = w.state)
    (hfresh : (k :: rest).Nodup) (hopen : ∀ j ∈ rest, w.state.sessions.isOpen j)
    (htexts : ∀ j t, .called f (.send j t) ∈ es → t = text)
    (hhanded : handedBy f es ++ rest = snapshot) (reason : String) :
    Shadow f n text d unmapped snapshot (w.step b (.answer f (.raised reason)))
      (w'.step (b.writing none) (.answer f (.raised reason)))
      (es ++ w.news b (.answer f (.raised reason)))
      (es ++ w'.news (b.writing none) (.answer f (.raised reason))) := by
  rw [hworks] at hworks'
  have hlt := (List.getElem?_eq_some_iff.mp hworks).1
  have hlt' := (List.getElem?_eq_some_iff.mp hworks').1
  have hadv := World.advance_answer hworks b (.raised reason)
  have hadv' := World.advance_answer hworks' (b.writing none) (.raised reason)
  rw [hstate] at hadv'
  have hstay : ∀ j ∈ rest, (w.step b (.answer f (.raised reason))).state.sessions.isOpen j := by
    intro j hj
    refine hw.stays_behind hworks rfl (hopen j hj) ?_ (.raised reason)
    rintro rfl
    exact (List.nodup_cons.mp hfresh).1 hj
  rw [World.step, hadv] at hstay ⊢
  rw [World.news, hadv, World.step, World.news, hadv']
  refine .together (.inr rfl) (List.getElem?_set_self hlt) ?_ rfl hfresh hstay rfl ?_ ?_
  · exact (List.getElem?_set_self hlt').trans (List.getElem?_set_self hlt).symm
  · intro j t hmem
    rcases List.mem_append.mp hmem with hold | hnew
    · exact htexts j t hold
    · rcases List.mem_cons.mp hnew with heq | hclose
      · cases heq
      · cases List.mem_singleton.mp hclose
  · rw [handedBy_append]
    exact (congrArg (· ++ rest) (List.append_nil _)).trans hhanded

theorem step_together (hw : w.Sound) (hm : m.Only f) {call : Call} {k : Nat}
    {rest : List Nat} {delivered : Nat} (hcall : call = .send k text ∨ call = .close k)
    (hworks : w.works[f]? = some (.waiting
      ⟨bound, call, .fanOut text rest delivered (.screen (sessionName n) d unmapped)⟩))
    (hworks' : w'.works[f]? = w.works[f]?) (hstate : w'.state = w.state)
    (hfresh : (k :: rest).Nodup) (hopen : ∀ j ∈ rest, w.state.sessions.isOpen j)
    (htexts : ∀ j t, .called f (.send j t) ∈ es → t = text)
    (hhanded : handedBy f es ++ rest = snapshot) :
    Shadow f n text d unmapped snapshot (w.step b m) (w'.step (b.writing none) m)
      (es ++ w.news b m) (es ++ w'.news (b.writing none) m) := by
  cases m with
  | start e => exact hm.elim
  | tick now =>
      have hnews : w.news b (.tick now) = [] := rfl
      have hnews' : w'.news (b.writing none) (.tick now) = [] := rfl
      rw [hnews, hnews', List.append_nil]
      refine .together hcall hworks hworks' ?_ hfresh hopen rfl htexts hhanded
      show { w'.state with clock := now } = { w.state with clock := now }
      rw [hstate]
  | answer g outcome =>
      cases hm
      rcases resume_fanOut_cases bound call text rest delivered
          (.screen (sessionName n) d unmapped) outcome w.state with
        ⟨k', t, reason, rfl, rfl⟩ | ⟨delivered', s', hs', hresume⟩
      · rcases hcall with heq | heq <;> cases heq
        exact step_raised hw hworks hworks' hstate hfresh hopen htexts hhanded reason
      · rw [hworks] at hworks'
        have hlt := (List.getElem?_eq_some_iff.mp hworks).1
        have hlt' := (List.getElem?_eq_some_iff.mp hworks').1
        have hadv := World.advance_answer hworks b outcome
        have hadv' := World.advance_answer hworks' (b.writing none) outcome
        rw [hresume b] at hadv
        rw [hstate, hresume (b.writing none)] at hadv'
        have hnews : w.news b (.answer f outcome) = [.answered f call outcome] ++
            Progress.entries f _ := congrArg Prod.snd hadv
        have hnews' : w'.news (b.writing none) (.answer f outcome) =
            [.answered f call outcome] ++ Progress.entries f _ := congrArg Prod.snd hadv'
        rw [World.step, World.step, hnews, hnews', hadv, hadv', ← List.append_assoc,
          ← List.append_assoc]
        have hwell : s'.sessions.WellFormed := by rw [hs']; exact hw.table
        have hahead : ∀ j ∈ rest, s'.sessions.isOpen j := by rw [hs']; exact hopen
        refine shadow_fanOut (List.getElem?_set_self hlt) rfl (List.getElem?_set_self hlt') rfl
          hwell (List.nodup_cons.mp hfresh).2 hahead ?_ ?_
        · intro j t hmem
          rcases List.mem_append.mp hmem with hold | hnew
          · exact htexts j t hold
          · cases List.mem_singleton.mp hnew
        · rw [handedBy_append]
          exact (congrArg (· ++ rest) (List.append_nil _)).trans hhanded

theorem step (h : Shadow f n text d unmapped snapshot w w' es es') (hw : w.Sound)
    (hm : m.Only f) (hsent : ∀ e ∈ w.news b m, e.fails n = false) :
    Shadow f n text d unmapped snapshot (w.step b m) (w'.step (b.writing none) m)
      (es ++ w.news b m) (es' ++ w'.news (b.writing none) m) := by
  cases h with
  | together hcall hworks hworks' hstate hfresh hopen hes htexts hhanded =>
      subst hes
      exact step_together hw hm hcall hworks hworks' hstate hfresh hopen htexts hhanded
  | apart hworks hworks' hafter hes htexts hhanded =>
      subst hes
      obtain ⟨hlast', hnone', -⟩ := World.step_finished hworks' hm (b.writing none)
      rw [hnone', List.append_nil, List.append_assoc]
      cases hafter with
      | ended =>
          obtain ⟨hlast, hnone, -⟩ := World.step_finished hworks hm b
          rw [hnone]
          exact .apart hlast hlast' .ended rfl htexts hhanded
      | telling hlate htells htelling hnone =>
          obtain ⟨⟨p, hp, htelling'⟩, hquiet⟩ := World.step_telling hworks htelling hsent
          refine .apart hp hlast' (.telling hlate htells htelling' ?_) rfl htexts hhanded
          show callsBy f (_ ++ w.news b m) = []
          rw [callsBy_append, hnone, hquiet]
          rfl

theorem run {ms : List Move} (h : Shadow f n text d unmapped snapshot w w' es es')
    (hw : w.Sound) (hms : ∀ m ∈ ms, m.Only f)
    (hsent : ∀ e ∈ w.trace b ms, e.fails n = false) :
    Shadow f n text d unmapped snapshot (w.run b ms) (w'.run (b.writing none) ms)
      (es ++ w.trace b ms) (es' ++ w'.trace (b.writing none) ms) := by
  induction ms generalizing w w' es es' with
  | nil =>
      rw [World.trace, World.trace, List.append_nil, List.append_nil]
      exact h
  | cons m ms ih =>
      rw [List.forall_mem_cons] at hms
      rw [World.trace, List.forall_mem_append] at hsent
      rw [World.trace, World.trace, ← List.append_assoc, ← List.append_assoc]
      exact ih (h.step hw hms.1 hsent.1) (hw.step b m) hms.2 hsent.2

/-- An error among the texts comes after the whole of what is shared. -/
theorem late {code : ErrorCode} (h : Shadow f n text d unmapped snapshot w w' es es')
    (htext : ¬ Tells code text) (hend : EndsIn f code es) :
    Late code ∧ (∃ err rest, Tells code err ∧
      es = es' ++ .called f (.send n err) :: rest ∧ callsBy f rest = []) ∧
    w'.works[f]? = some (.finished .handled) ∧
    (∀ j t, .called f (.send j t) ∈ es' → t = text) ∧ handedBy f es' = snapshot := by
  obtain ⟨j, t, hmem, htells⟩ := hend
  cases h with
  | together _ _ _ _ _ _ hes htexts _ =>
      subst hes
      rw [htexts j t hmem] at htells
      exact absurd htells htext
  | apart _ hworks' hafter hes htexts hhanded =>
      subst hes
      rcases List.mem_append.mp hmem with hshared | hafterwards
      · rw [htexts j t hshared] at htells
        exact absurd htells htext
      · cases hafter with
        | ended => cases hafterwards
        | @telling code' err _ rest hlate htold _ hnone =>
            rcases List.mem_cons.mp hafterwards with heq | hrest
            · cases heq
              obtain rfl := htells.code_eq htold
              exact ⟨hlate, ⟨t, rest, htold, rfl, hnone⟩, hworks', htexts, hhanded⟩
            · have hcall := mem_callsBy.mpr hrest
              rw [hnone] at hcall
              cases hcall

end Shadow

end

/-! ## What a failed frame leaves behind -/

/-- What the moves `ms` after a frame on the open session `n` in the world `w`
show of a failure, if nothing but the frame is worked on and every text for
`n` goes. Its work is the one after those of `w`. -/
structure FailsCleanly [IdSupply] (b : Bridge) (w : World) (id : String) (n : Nat)
    (frame : List UInt8) (ms : List Move) : Prop where
  /-- A frame that is refused ends in the error of its failure. -/
  refused : ∀ failure, Refuses b w.state.now frame failure →
    EndsIn w.works.length failure.code (w.trace b (.start (.frame id frame) :: ms))
  /-- Each of the early errors is the answer to a refused frame. Nobody but its
  sender is told anything, it is told once, and nothing has changed. -/
  early : ∀ code, code = .parse ∨ code = .appConfig ∨ code = .translation →
    EndsIn w.works.length code (w.trace b (.start (.frame id frame) :: ms)) →
    ∃ failure, Refuses b w.state.now frame failure ∧ failure.code = code ∧
      callsBy w.works.length (w.trace b (.start (.frame id frame) :: ms)) =
        [.send n (Message.ofFailure w.state.now failure).text] ∧
      (∀ e ∈ w.trace b (.start (.frame id frame) :: ms), e.work = w.works.length) ∧
      SameContext w.state (w.run b (.start (.frame id frame) :: ms)).state
  /-- A late error is the last thing that happens: before it comes all that the
  same frame leads to where no sources are written. There it is handled, and
  everybody open was handed the screen. -/
  late : ∀ code, code = .generation ∨ code = .internal →
    EndsIn w.works.length code (w.trace b (.start (.frame id frame) :: ms)) →
    (∃ text rest, Tells code text ∧
      w.trace b (.start (.frame id frame) :: ms) =
        w.trace (b.writing none) (.start (.frame id frame) :: ms) ++
          .called w.works.length (.send n text) :: rest ∧
      callsBy w.works.length rest = []) ∧
    (w.run (b.writing none) (.start (.frame id frame) :: ms)).works[w.works.length]? =
      some (.finished .handled) ∧
    (∃ m : Message, m.type = .componentSpec ∧ ∀ j t,
      .called w.works.length (.send j t) ∈
        w.trace (b.writing none) (.start (.frame id frame) :: ms) → t = m.text) ∧
    handedBy w.works.length
        (w.trace (b.writing none) (.start (.frame id frame) :: ms)) =
      w.state.sessions.openNumbers

theorem Refuses.code {b : Bridge} {now : String} {frame : List UInt8} {failure : Failure}
    (h : Refuses b now frame failure) :
    failure.code = .parse ∨ failure.code = .appConfig ∨ failure.code = .translation := by
  cases h with
  | envelope hparse => exact .inl (Wire.code_of_refused hparse)
  | config => exact .inr (.inl rfl)
  | document | translator | components => exact .inr (.inr rfl)

namespace World

variable {b : Bridge} {w : World} {id : String} {n : Nat} {frame : List UInt8}
  {ms : List Move} {e : Event} {text : String}

theorem not_endsIn_of_calls_nil {code : ErrorCode} {f : Nat} {es : List Entry}
    (h : callsBy f es = []) : ¬ EndsIn f code es := by
  rintro ⟨k, t, hmem, -⟩
  have hcall := mem_callsBy.mpr hmem
  rw [h] at hcall
  cases hcall

theorem tells_of_calls_singleton {code : ErrorCode} {f : Nat} {es : List Entry}
    (h : callsBy f es = [.send n text]) (hend : EndsIn f code es) : Tells code text := by
  obtain ⟨k, t, hmem, htells⟩ := hend
  have hcall := mem_callsBy.mpr hmem
  rw [h] at hcall
  cases List.mem_singleton.mp hcall
  exact htells

section
variable [IdSupply]

theorem calls_of_finished {r : Result} (h : (b.start e w.state).2 = .finished r)
    (ms : List Move) : callsBy w.works.length (w.trace b (.start e :: ms)) = [] := by
  have hbegun : (w.step b (.start e)).works[w.works.length]? =
      some (b.start e w.state).2 := List.getElem?_concat_length
  rw [h] at hbegun
  rw [trace, callsBy_append, callsBy_news_start h, (run_finished hbegun b ms).2]
  rfl

/-- Work that begins with a reply makes this one call, if the reply goes. -/
theorem calls_of_telling {bound : Keys}
    (h : (b.start e w.state).2 = .waiting ⟨bound, .send n text, .rest⟩)
    (hsent : ∀ e' ∈ w.trace b (.start e :: ms), e'.fails n = false) :
    callsBy w.works.length (w.trace b (.start e :: ms)) = [.send n text] := by
  have hbegun : (w.step b (.start e)).works[w.works.length]? =
      some (b.start e w.state).2 := List.getElem?_concat_length
  rw [h] at hbegun
  rw [trace, List.forall_mem_append] at hsent
  rw [trace, callsBy_append, callsBy_news_start h,
    (run_telling hbegun (.handed bound) hsent.2).2]
  rfl

/-- A refused frame changes nothing that lasts. -/
theorem refused_context {failure : Failure} (hopen : w.state.sessions.openNumber? id = some n)
    (h : Refuses b w.state.now frame failure) (hms : ∀ m ∈ ms, m.Only w.works.length)
    (hsent : ∀ e ∈ w.trace b (.start (.frame id frame) :: ms), e.fails n = false) :
    SameContext w.state (w.run b (.start (.frame id frame) :: ms)).state := by
  obtain ⟨bound, s', hs', hdispatch⟩ := dispatch_of_refuses hopen h
  have hbegun : (w.step b (.start (.frame id frame))).works[w.works.length]? =
      some (dispatch b id frame w.state).2 := List.getElem?_concat_length
  rw [hdispatch] at hbegun
  rw [trace, List.forall_mem_append] at hsent
  have hstate : (w.step b (.start (.frame id frame))).state = s' :=
    congrArg Prod.fst hdispatch
  have hlater := run_telling_context hbegun (.handed bound) hms hsent.2
  rw [hstate] at hlater
  exact hs'.trans hlater

/-- Once a screen is shared, the run is shadowed by one without sources. -/
theorem shadow_screen {d : Ui.Document} {unmapped : List String} {s' : State} {bound : Keys}
    (h : w.Sound) (hopen : w.state.sessions.openNumber? id = some n)
    (hs' : s'.sessions = w.state.sessions)
    (hany : ∀ g, dispatch (b.writing g) id frame w.state =
      startFanOut (b.writing g) bound text (.screen id d unmapped) s')
    (hms : ∀ m ∈ ms, m.Only w.works.length)
    (hsent : ∀ e ∈ w.trace b (.start (.frame id frame) :: ms), e.fails n = false) :
    Shadow w.works.length n text d unmapped w.state.sessions.openNumbers
      (w.run b (.start (.frame id frame) :: ms))
      (w.run (b.writing none) (.start (.frame id frame) :: ms))
      (w.trace b (.start (.frame id frame) :: ms))
      (w.trace (b.writing none) (.start (.frame id frame) :: ms)) := by
  rw [h.table.openNumber?_eq] at hopen
  obtain ⟨rfl, -⟩ := h.table.find?_eq_some.mp hopen
  rw [trace, List.forall_mem_append] at hsent
  have hself := hany b.generator
  rw [writing_generator] at hself
  have hbare := hany none
  rw [startFanOut, hs'] at hself hbare
  have hbegun : (w.step b (.start (.frame (sessionName n) frame))).works[w.works.length]? =
      some (dispatch b (sessionName n) frame w.state).2 := List.getElem?_concat_length
  have hbegun' : (w.step (b.writing none)
      (.start (.frame (sessionName n) frame))).works[w.works.length]? =
        some (dispatch (b.writing none) (sessionName n) frame w.state).2 :=
    List.getElem?_concat_length
  rw [hself] at hbegun
  rw [hbare] at hbegun'
  have hstart : Shadow w.works.length n text d unmapped w.state.sessions.openNumbers
      (w.step b (.start (.frame (sessionName n) frame)))
      (w.step (b.writing none) (.start (.frame (sessionName n) frame)))
      (w.news b (.start (.frame (sessionName n) frame)))
      (w.news (b.writing none) (.start (.frame (sessionName n) frame))) := by
    have hnews : w.news b (.start (.frame (sessionName n) frame)) =
        [.began w.works.length (.frame (sessionName n) frame)] ++
          (dispatch b (sessionName n) frame w.state).2.entries w.works.length := rfl
    have hnews' : w.news (b.writing none) (.start (.frame (sessionName n) frame)) =
        [.began w.works.length (.frame (sessionName n) frame)] ++
          (dispatch (b.writing none) (sessionName n) frame w.state).2.entries
            w.works.length := rfl
    rw [hnews, hnews', hself, hbare]
    refine shadow_fanOut hbegun (congrArg Prod.fst hself) hbegun' (congrArg Prod.fst hbare)
      ?_ h.table.nodup_openNumbers ?_ ?_ rfl
    · rw [hs']
      exact h.table
    · rw [hs']
      exact fun j hj => h.table.mem_openNumbers.mp hj
    · intro j t hmem
      cases List.mem_singleton.mp hmem
  exact hstart.run (h.step b _) hms hsent.2

/-- An error comes of a refused frame, or after a screen was shared. -/
theorem errors_of_frame {code : ErrorCode} (h : w.Sound)
    (hopen : w.state.sessions.openNumber? id = some n)
    (hms : ∀ m ∈ ms, m.Only w.works.length)
    (hsent : ∀ e ∈ w.trace b (.start (.frame id frame) :: ms), e.fails n = false)
    (hend : EndsIn w.works.length code (w.trace b (.start (.frame id frame) :: ms))) :
    (∃ failure, Refuses b w.state.now frame failure ∧ failure.code = code) ∨
    ∃ (m : Message) (d : Ui.Document) (unmapped : List String), m.type = .componentSpec ∧
      Shadow w.works.length n m.text d unmapped w.state.sessions.openNumbers
        (w.run b (.start (.frame id frame) :: ms))
        (w.run (b.writing none) (.start (.frame id frame) :: ms))
        (w.trace b (.start (.frame id frame) :: ms))
        (w.trace (b.writing none) (.start (.frame id frame) :: ms)) := by
  have hcases := dispatch_cases hopen b frame
  generalize hsp : dispatch b id frame w.state = sp at hcases
  have hstart : b.start (.frame id frame) w.state = sp := hsp
  cases hcases with
  | unread =>
      exact absurd hend
        (not_endsIn_of_calls_nil (calls_of_finished (congrArg Prod.snd hstart) ms))
  | ignored =>
      exact absurd hend
        (not_endsIn_of_calls_nil (calls_of_finished (congrArg Prod.snd hstart) ms))
  | @refused failure _ _ hrefuses =>
      have hcalls := calls_of_telling (congrArg Prod.snd hstart) hsent
      have htells := tells_of_calls_singleton hcalls hend
      exact .inl ⟨failure, hrefuses, (tells_ofFailure ..).code_eq htells⟩
  | pong =>
      have hcalls := calls_of_telling (congrArg Prod.snd hstart) hsent
      cases (tells_of_calls_singleton hcalls hend).type_eq
  | @config config s' bound hctx =>
      obtain ⟨k, t, hmem, htells⟩ := hend
      have hocc : (Occasion.config config.title).weight = 0 := rfl
      obtain ⟨hfan, -⟩ := FanOut.start hocc hstart hctx.sessions
      rw [(hfan.run rfl (h.step b _) b ms).sameText hmem] at htells
      cases htells.type_eq
  | screen bound hctx hany =>
      exact .inr ⟨_, _, _, rfl, shadow_screen h hopen hctx.sessions hany hms hsent⟩

/-- What becomes of a frame that fails while nothing else is worked on. -/
theorem fails_cleanly (h : w.Reachable b) (hopen : w.state.sessions.openNumber? id = some n)
    (frame : List UInt8) (hms : ∀ m ∈ ms, m.Only w.works.length)
    (hsent : ∀ e ∈ w.trace b (.start (.frame id frame) :: ms), e.fails n = false) :
    FailsCleanly b w id n frame ms := by
  have hrefused : ∀ failure, Refuses b w.state.now frame failure →
      callsBy w.works.length (w.trace b (.start (.frame id frame) :: ms)) =
        [.send n (Message.ofFailure w.state.now failure).text] := by
    intro failure hrefuses
    obtain ⟨bound, s', -, hdispatch⟩ := dispatch_of_refuses hopen hrefuses
    exact calls_of_telling (congrArg Prod.snd hdispatch) hsent
  refine ⟨?_, ?_, ?_⟩
  · intro failure hrefuses
    refine ⟨n, _, mem_callsBy.mp ?_, tells_ofFailure w.state.now failure⟩
    rw [hrefused failure hrefuses]
    exact List.mem_singleton_self _
  · intro code hcode hend
    rcases errors_of_frame h.sound hopen hms hsent hend with
      ⟨failure, hrefuses, hfailure⟩ | ⟨m, d, unmapped, htype, hshadow⟩
    · refine ⟨failure, hrefuses, hfailure, hrefused failure hrefuses, ?_,
        refused_context hopen hrefuses hms hsent⟩
      intro e he
      rcases List.mem_append.mp he with hnew | hlater
      · exact work_of_mem_news_start hnew
      · exact work_of_only_run hms hlater
    · have hno : ¬ Tells code m.text := by
        intro htells
        cases htype.symm.trans htells.type_eq
      rcases (hshadow.late hno hend).1 with rfl | rfl <;>
        rcases hcode with heq | heq | heq <;> cases heq
  · intro code hcode hend
    rcases errors_of_frame h.sound hopen hms hsent hend with
      ⟨failure, hrefuses, rfl⟩ | ⟨m, d, unmapped, htype, hshadow⟩
    · rcases hrefuses.code with heq | heq | heq <;> rw [heq] at hcode <;>
        rcases hcode with hlate | hlate <;> cases hlate
    · have hno : ¬ Tells code m.text := by
        intro htells
        cases htype.symm.trans htells.type_eq
      obtain ⟨-, hlast, hfinished, htexts, hhanded⟩ := hshadow.late hno hend
      exact ⟨hlast, hfinished, ⟨m, htype, htexts⟩, hhanded⟩

end

/-- A bridge that shows every screen as one empty element, and writes sources. -/
def scribe : Bridge where
  settings := .standard
  translator := .constant ⟨⟨"div", [], none, none⟩, []⟩
  generator := some
    { registry := .builtin, outputDir := .ofString "out", extension := "tsx",
      liveUpdateUrl := "" }

/-- A frame with a screen that is one text. -/
def screenFrame (screenId : String) : List UInt8 :=
  Text.Utf8.encode
    ("\x7b\"type\":\"UI_UPDATE\",\"data\":\x7b\"screenId\":\"" ++ screenId ++
      "\",\"route\":\"/\",\"tree\":\x7b\"type\":\"Text\"\x7d\x7d\x7d")

theorem refuses_screenFrame (now : String) :
    Refuses relay now (screenFrame "a/b") (.translatorFailed "no translation") := by
  have hparse : Wire.parseEnvelope 1048576 200 (screenFrame "a/b") =
      .ok ⟨"UI_UPDATE", none, none, some [("screenId", .str "a/b"), ("route", .str "/"),
        ("tree", .obj [("type", .str "Text")])]⟩ := by decide +kernel
  have hvalid : Ui.Document.ofJson now (.obj [("screenId", .str "a/b"), ("route", .str "/"),
        ("tree", .obj [("type", .str "Text")])]) =
      .valid ⟨"a/b", "/", now, "en", ⟨none, "Text", [], none, none, none, none⟩,
        [], [], []⟩ := rfl
  exact .translator hparse rfl hvalid rfl

/-- Two viewers, and nothing else so far. -/
def bothOpen (b : Bridge) : World :=
  launched.run b [.start (.openSession 0), .start (.openSession 1)]

/-- The first viewer sends a screen, and every text goes. -/
def oneScreen : List Move :=
  [.start (.frame (sessionName 0) (screenFrame "a/b")),
    .answer 2 .done, .answer 2 .done, .answer 2 .done]

/-- A screen whose name leads out of its directory, on a bridge that cannot
translate it and on one that writes sources. The first tells its sender alone;
the second has shared the screen with both viewers before it fails. -/
theorem fails_cleanly_outside :
    (∃ failure, Refuses relay (bothOpen relay).state.now (screenFrame "a/b") failure ∧
      failure.code = .translation ∧
      callsBy 2 ((bothOpen relay).trace relay oneScreen) =
        [.send 0 (Message.ofFailure (bothOpen relay).state.now failure).text] ∧
      SameContext (bothOpen relay).state ((bothOpen relay).run relay oneScreen).state) ∧
    EndsIn 2 .generation ((bothOpen scribe).trace scribe oneScreen) ∧
    handedBy 2 ((bothOpen scribe).trace (scribe.writing none) oneScreen) = [0, 1] := by
  have hreach : (bothOpen relay).Reachable relay := Reachable.launched.run _
  have hreach' : (bothOpen scribe).Reachable scribe := Reachable.launched.run _
  have hms : ∀ m ∈ oneScreen.tail, m.Only 2 := by
    intro m hm
    simp only [oneScreen, List.tail_cons, List.mem_cons, List.not_mem_nil, or_false,
      or_self] at hm
    rw [hm]
    rfl
  have hdone : ∀ f reason, Move.answer f (.raised reason) ∉ oneScreen := by
    intro f reason hmem
    simp [oneScreen] at hmem
  have hsent := not_fails_of_done (w := bothOpen relay) (b := relay) hdone 0
  have hsent' := not_fails_of_done (w := bothOpen scribe) (b := scribe) hdone 0
  obtain ⟨hopen, hopen', hall, herror⟩ :
      (bothOpen relay).state.sessions.openNumber? (sessionName 0) = some 0 ∧
      (bothOpen scribe).state.sessions.openNumber? (sessionName 0) = some 0 ∧
      (bothOpen scribe).state.sessions.openNumbers = [0, 1] ∧
      (callsBy 2 ((bothOpen scribe).trace scribe oneScreen))[2]? =
        some (.send 0 (Message.ofFailure (bothOpen scribe).state.now (.outsideProject
          "a/b" "out/src/screens" "out/src/screens/A/bScreen.tsx")).text) := by
    decide +kernel
  have hclean := fails_cleanly hreach hopen (screenFrame "a/b") hms hsent
  have hclean' := fails_cleanly hreach' hopen' (screenFrame "a/b") hms hsent'
  have hend := hclean.refused _ (refuses_screenFrame _)
  have hend' : EndsIn 2 .generation ((bothOpen scribe).trace scribe oneScreen) :=
    ⟨0, _, mem_callsBy.mp (List.mem_of_getElem? herror), tells_ofFailure ..⟩
  obtain ⟨failure, hrefuses, hcode, hcalled, -, hctx⟩ :=
    hclean.early .translation (.inr (.inr rfl)) hend
  obtain ⟨-, -, -, hhanded⟩ := hclean'.late .generation (.inl rfl) hend'
  exact ⟨⟨failure, hrefuses, hcode, hcalled, hctx⟩, hend', hhanded.trans hall⟩

end World

end ScreenBridge.Bridge
