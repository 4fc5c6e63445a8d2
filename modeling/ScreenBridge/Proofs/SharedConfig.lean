import ScreenBridge.CountedIds
import ScreenBridge.Proofs.FrameCourse

/-!
# Sharing configurations

A valid configuration is taken over by the bridge at once and then handed out
to one session after the other. Nothing keeps two such fan-outs apart, so they
overtake each other: `overtaken` is a run in which a viewer is left with a
configuration that the bridge has replaced. What holds for every run is weaker.
Each session that stays gets one frame from each fan-out, with the
configuration of that fan-out; the current configuration is that of the last
one to start; so a session is up to date if the last one to start was the last
to reach it, and everybody is if it started after the others were over.

`Sharing` is the invariant behind it. It follows one session `n` through a run
in which configurations are shared and nothing else begins, and keeps for each
fan-out that `n`, as long as it is open, has its frame or is still ahead.
-/

namespace ScreenBridge.Bridge

open Wire (Message MessageType)

/-- The configuration that a frame brings, if it brings a valid one. -/
def configIn? (b : Bridge) (bytes : List UInt8) : Option AppConfig :=
  match Wire.parseEnvelope b.settings.maxMessageSize b.settings.maxJsonDepth bytes with
  | .error _ => none
  | .ok e =>
    match MessageType.ofWord? e.type, AppConfig.ofJson e.payload with
    | some .appConfig, .valid config => some config
    | _, _ => none

/-- A text is the message that shares a configuration. -/
def Carries (text : String) (config : AppConfig) : Prop :=
  ∃ now id, text = (Message.appConfig now config (some id)).text

/-! ## Texts of configurations -/

theorem moreMembers_append (f : Json.Form) (level : Nat)
    (xs ys : List (String × Json)) :
    Json.moreMembers f level (xs ++ ys) =
      Json.moreMembers f level xs ++ Json.moreMembers f level ys := by
  induction xs with
  | nil => rfl
  | cons x xs ih =>
      obtain ⟨k, v⟩ := x
      rw [List.cons_append, Json.moreMembers, Json.moreMembers, ih]
      simp only [List.append_assoc]

/-- What a dense message with a configuration ends with. -/
def dataEnd (config : AppConfig) : List Char :=
  Json.moreMembers .dense 1 [("data", config.toJson)] ++ ['\x7d']

theorem appConfig_isDense {config : AppConfig} (hfits : config.toJson.fits64)
    (hlevels : config.toJson.levels ≤ 2) (now id : String) :
    (Message.appConfig now config (some id)).toJson.isDense := by
  have hdata : Json.obj (Message.membersOf config.toJson) = config.toJson := rfl
  rw [Message.toJson, Message.appConfig, Message.dataMember,
    Message.sessionMember, hdata]
  split <;>
    simp [Json.isDense, Json.fits64, Json.membersFit64, Json.levels,
      Json.levelsOfMembers, Json.denseLevels, hfits] <;>
    omega

theorem Carries.ends {text : String} {config : AppConfig}
    (h : Carries text config) (hfits : config.toJson.fits64)
    (hlevels : config.toJson.levels ≤ 2) :
    ∃ front, text.toList = front ++ dataEnd config := by
  obtain ⟨now, id, rfl⟩ := h
  have hdata : Json.obj (Message.membersOf config.toJson) = config.toJson := rfl
  have hdense := appConfig_isDense hfits hlevels now id
  rw [Message.text, Json.encode, Json.encodeWith, Json.formFor, if_pos rfl,
    if_pos hdense, Json.text, String.toList_ofList, Message.toJson,
    Message.appConfig, Message.dataMember, hdata]
  dsimp only
  rw [List.cons_append, List.cons_append, Json.chars, moreMembers_append,
    dataEnd, Nat.zero_add]
  refine ⟨'\x7b' :: (Json.Form.dense.lineBreak 1 ++
    Json.quotedChars "type".toList ++ Json.Form.dense.colon ++
    Json.chars .dense 1 (.str MessageType.appConfig.word) ++
    Json.moreMembers .dense 1
      (("timestamp", .str now) :: ([] ++ Message.sessionMember (some id)))), ?_⟩
  simp only [List.append_assoc, List.cons_append]
  rfl

/-- Endings of one length tell two configurations apart. -/
theorem Carries.not_carries {text : String} {config config' : AppConfig}
    (h : Carries text config) (hfits : config.toJson.fits64)
    (hlevels : config.toJson.levels ≤ 2) (hfits' : config'.toJson.fits64)
    (hlevels' : config'.toJson.levels ≤ 2)
    (hlen : (dataEnd config).length = (dataEnd config').length)
    (hne : dataEnd config ≠ dataEnd config') : ¬ Carries text config' := by
  intro h'
  obtain ⟨front, hfront⟩ := h.ends hfits hlevels
  obtain ⟨front', hfront'⟩ := h'.ends hfits' hlevels'
  exact hne (List.append_inj' (hfront.symm.trans hfront') hlen).2

/-! ## One configuration -/

section
variable {b : Bridge} {s : State}

theorem dispatch_config {id : String} {n : Nat} {bytes : List UInt8}
    {config : AppConfig} (hid : s.sessions.openNumber? id = some n)
    (hconfig : configIn? b bytes = some config) :
    ∃ bound now s', dispatch b id bytes s =
        startFanOut b bound (Message.appConfig now config (some id)).text
          (.config config.title) s' ∧
      s'.sessions = s.sessions ∧ s'.appConfig = some config := by
  rw [configIn?] at hconfig
  split at hconfig
  · cases hconfig
  · next e he =>
      split at hconfig
      · next c htype hvalid =>
          cases hconfig
          have hhandle : dispatch b id bytes s = handle b id e s := by
            simp only [dispatch, hid, he]
          have hshare : handle b id e s =
              handleConfig b (messageKeys id e.type) id e
                ((s.count (·.recordMessage e.type)).note
                  (messageKeys id e.type) .messageReceived) := by
            simp only [handle, htype]
          rw [hhandle, hshare]
          unfold handleConfig
          rw [hvalid]
          exact ⟨_, _, _, rfl, rfl, rfl⟩
      · cases hconfig

end

/-- What one session keeps of the fan-out `f` of a configuration: as long as it
is open it has its frame or is still ahead. -/
structure Shared (b : Bridge) (n f : Nat) (config : AppConfig) (w : World)
    (es : List Entry) : Prop where
  began : ∃ id bytes, .began f (.frame id bytes) ∈ es ∧
    configIn? b bytes = some config
  fan : ∃ text snapshot, Carries text config ∧ snapshot.Nodup ∧
    FanOut text (.config config.title) snapshot f w es
  due : w.state.sessions.isOpen n → n ∈ handedBy f es ∨ n ∈ w.ahead f

namespace Shared

variable {b : Bridge} {n f : Nat} {config : AppConfig} {w : World}
  {es : List Entry}

theorem carries (h : Shared b n f config w es) {k : Nat} {text : String}
    (hcall : .called f (.send k text) ∈ es) : Carries text config := by
  obtain ⟨t, snapshot, hcarries, -, hfan⟩ := h.fan
  rw [hfan.sameText hcall]
  exact hcarries

variable [IdSupply]

theorem step (h : Shared b n f config w es) (hw : w.Sound)
    (hn : n < w.state.sessions.next) (m : Move) :
    Shared b n f config (w.step b m) (es ++ w.news b m) := by
  obtain ⟨id, bytes, hbegan, hconfig⟩ := h.began
  obtain ⟨text, snapshot, htext, hnd, hfan⟩ := h.fan
  obtain ⟨hfan', hpass⟩ := hfan.step rfl hw b m
  refine ⟨⟨id, bytes, List.mem_append_left _ hbegan, hconfig⟩,
    ⟨text, snapshot, htext, hnd, hfan'⟩, ?_⟩
  intro ho
  rw [handedBy_append, List.mem_append]
  rcases h.due ((hw.run_extends b [m]).isOpen_of hn ho) with hhanded | hahead
  · exact .inl (.inl hhanded)
  · by_cases hafter : n ∈ (w.step b m).ahead f
    · exact .inr hafter
    · exact .inl (.inr ((hpass.mem_handed_iff hahead hafter).mpr ho))

theorem run (h : Shared b n f config w es) (hw : w.Sound)
    (hn : n < w.state.sessions.next) (ms : List Move) :
    Shared b n f config (w.run b ms) (es ++ w.trace b ms) := by
  induction ms generalizing w es with
  | nil =>
      rw [World.trace, List.append_nil]
      exact h
  | cons m ms ih =>
      rw [World.trace, ← List.append_assoc]
      exact ih (h.step hw hn m) (hw.step b m)
        (Nat.lt_of_lt_of_le hn (hw.run_extends b [m]).next_le)

/-- A frame with a configuration starts to share it. -/
theorem start {id : String} {bytes : List UInt8} (hw : w.Sound)
    (hn : n < w.state.sessions.next)
    (hid : (w.state.sessions.openNumber? id).isSome)
    (hconfig : configIn? b bytes = some config)
    (hes : ∀ e ∈ es, e.work ≠ w.works.length) :
    Shared b n w.works.length config (w.step b (.start (.frame id bytes)))
        (es ++ w.news b (.start (.frame id bytes))) ∧
      (w.step b (.start (.frame id bytes))).state.appConfig = some config := by
  obtain ⟨k, hk⟩ := Option.isSome_iff_exists.mp hid
  obtain ⟨bound, now, s', hdispatch, hsame, happ⟩ := dispatch_config hk hconfig
  have he : b.start (.frame id bytes) w.state = _ := hdispatch
  have hocc : (Occasion.config config.title).weight = 0 := rfl
  obtain ⟨hfan, hpass⟩ := FanOut.start hocc he hsame
  refine ⟨⟨⟨id, bytes, ?_, hconfig⟩, ⟨_, _, ⟨now, id, rfl⟩,
    hw.table.nodup_openNumbers, hfan.prepend hes⟩, ?_⟩, ?_⟩
  · exact List.mem_append_right _ List.mem_cons_self
  · intro ho
    have hbefore := hw.table.mem_openNumbers.mpr
      ((hw.run_extends b [.start (.frame id bytes)]).isOpen_of hn ho)
    rw [handedBy_append, List.mem_append]
    by_cases hafter : n ∈ (w.step b (.start (.frame id bytes))).ahead w.works.length
    · exact .inr hafter
    · exact .inl (.inr ((hpass.mem_handed_iff hbefore hafter).mpr ho))
  · show (dispatch b id bytes w.state).1.appConfig = some config
    rw [hdispatch, ← happ]
    exact fanOut_appConfig ..

end Shared

/-! ## Many configurations -/

/-- A move in which a configuration is shared or a fan-out goes on. -/
def Move.SharesConfig (b : Bridge) (w : World) : Move → Prop
  | .start e => ∃ id bytes config, e = .frame id bytes ∧
    (w.state.sessions.openNumber? id).isSome ∧ configIn? b bytes = some config
  | _ => True

def Progress.isFinished : Progress → Bool
  | .waiting _ => false
  | .finished _ => true

namespace World

variable {b : Bridge} {w : World} {m : Move}

/-- Nothing but sharing configurations happens. -/
def SharesConfigs [IdSupply] (b : Bridge) (w : World) : List Move → Prop
  | [] => True
  | m :: ms => m.SharesConfig b w ∧ (w.step b m).SharesConfigs b ms

/-- No work is under way. -/
def Quiet (w : World) : Prop :=
  ∀ p ∈ w.works, p.isFinished

instance (w : World) : Decidable w.Quiet :=
  inferInstanceAs (Decidable (∀ p ∈ w.works, p.isFinished))

theorem Quiet.not_waiting (h : w.Quiet) (f : Nat) (t : Task) :
    w.works[f]? ≠ some (.waiting t) := by
  intro hf
  have hfinished := h _ (List.mem_of_getElem? hf)
  cases hfinished

variable [IdSupply]

theorem sharesConfigs_append (b : Bridge) (w : World) (ms ms' : List Move) :
    w.SharesConfigs b (ms ++ ms') ↔
      w.SharesConfigs b ms ∧ (w.run b ms).SharesConfigs b ms' := by
  induction ms generalizing w with
  | nil => exact (and_iff_right trivial).symm
  | cons m ms ih =>
      rw [List.cons_append, SharesConfigs, SharesConfigs, ih, and_assoc, run_cons]

theorem length_le_step (b : Bridge) (w : World) (m : Move) :
    w.works.length ≤ (w.step b m).works.length := by
  have hadv := advance_cases b w m
  generalize w.step b m = w', w.news b m = es at hadv
  cases hadv with
  | start e => rw [List.length_append]; omega
  | answer hf outcome => exact Nat.le_of_eq List.length_set.symm
  | idle | tick => exact Nat.le_refl _

theorem length_step (hm : ∀ e, m ≠ .start e) :
    (w.step b m).works.length = w.works.length := by
  have hadv := advance_cases b w m
  generalize w.step b m = w', w.news b m = es at hadv
  cases hadv with
  | start e => exact absurd rfl (hm e)
  | answer hf outcome => exact List.length_set
  | idle | tick => rfl

theorem length_run {ms : List Move} (hms : ∀ e, .start e ∉ ms) :
    (w.run b ms).works.length = w.works.length := by
  induction ms generalizing w with
  | nil => rfl
  | cons m ms ih =>
      rw [run_cons, ih fun e he => hms e (List.mem_cons_of_mem _ he)]
      exact length_step fun e heq => hms e (heq ▸ List.mem_cons_self)

theorem work_lt_of_mem_news {e : Entry} (h : e ∈ w.news b m) :
    e.work < (w.step b m).works.length := by
  have hadv := advance_cases b w m
  generalize w.step b m = w', w.news b m = es at hadv h
  cases hadv with
  | start e' =>
      have hwork : e.work = w.works.length := by
        rcases List.mem_cons.mp h with rfl | hmem
        · rfl
        · obtain ⟨t, -, rfl⟩ := mem_entries.mp hmem
          rfl
      rw [hwork, List.length_append, List.length_singleton]
      omega
  | @answer f t hf outcome =>
      have hwork : e.work = f := by
        rcases List.mem_cons.mp h with rfl | hmem
        · rfl
        · obtain ⟨t', -, rfl⟩ := mem_entries.mp hmem
          rfl
      rw [hwork, List.length_set]
      exact (List.getElem?_eq_some_iff.mp hf).1
  | idle | tick => cases h

end World

/-- The invariant of a run in which configurations are shared: `k` works were
there before and are over, `n` is a session from before. -/
structure Sharing [IdSupply] (b : Bridge) (k n : Nat) (w : World) (es : List Entry) :
    Prop where
  sound : w.Sound
  known : n < w.state.sessions.next
  before : k ≤ w.works.length ∧ ∀ f t, f < k → w.works[f]? ≠ some (.waiting t)
  lines : ∀ e ∈ es, e.work < w.works.length
  calls : ∀ f c, .called f c ∈ es → k ≤ f
  shared : ∀ f, k ≤ f → f < w.works.length →
    ∃ config, Shared b n f config w es
  current : k < w.works.length → ∃ config,
    w.state.appConfig = some config ∧
    Shared b n (w.works.length - 1) config w es

namespace Sharing

variable [IdSupply] {b : Bridge} {k n : Nat} {w : World} {es : List Entry} {m : Move}

theorem init (hw : w.Sound) (hn : n < w.state.sessions.next)
    (hquiet : w.Quiet) : Sharing b w.works.length n w [] where
  sound := hw
  known := hn
  before := ⟨Nat.le_refl _, fun f t _ => hquiet.not_waiting f t⟩
  lines _ he := nomatch he
  calls _ _ hc := nomatch hc
  shared _ hle hlt := absurd hlt (Nat.not_lt.mpr hle)
  current hlt := absurd hlt (Nat.lt_irrefl _)

theorem start {id : String} {bytes : List UInt8} {config : AppConfig}
    (h : Sharing b k n w es) (hid : (w.state.sessions.openNumber? id).isSome)
    (hconfig : configIn? b bytes = some config) :
    Sharing b k n (w.step b (.start (.frame id bytes)))
      (es ++ w.news b (.start (.frame id bytes))) := by
  have hnew := Shared.start h.sound h.known hid hconfig
    fun e he => Nat.ne_of_lt (h.lines e he)
  have hlen : (w.step b (.start (.frame id bytes))).works.length =
      w.works.length + 1 := List.length_append
  refine ⟨h.sound.step b _, ?_, ⟨?_, ?_⟩, ?_, ?_, ?_, ?_⟩
  · exact Nat.lt_of_lt_of_le h.known
      (h.sound.run_extends b [.start (.frame id bytes)]).next_le
  · exact Nat.le_trans h.before.1 (World.length_le_step ..)
  · intro f t hf hwait
    have hold : (w.step b (.start (.frame id bytes))).works[f]? = w.works[f]? :=
      List.getElem?_append_left (Nat.lt_of_lt_of_le hf h.before.1)
    exact h.before.2 f t hf (hold ▸ hwait)
  · intro e he
    rcases List.mem_append.mp he with hold | hnews
    · exact Nat.lt_of_lt_of_le (h.lines e hold) (World.length_le_step ..)
    · exact World.work_lt_of_mem_news hnews
  · intro f c hc
    rcases List.mem_append.mp hc with hold | hnews
    · exact h.calls f c hold
    · rcases List.mem_cons.mp hnews with heq | hmem
      · cases heq
      · obtain ⟨t, -, heq⟩ := World.mem_entries.mp hmem
        cases heq
        exact h.before.1
  · intro f hle hlt
    rw [hlen] at hlt
    rcases Nat.lt_succ_iff_lt_or_eq.mp hlt with hold | rfl
    · obtain ⟨config', hshared⟩ := h.shared f hle hold
      exact ⟨config', hshared.step h.sound h.known _⟩
    · exact ⟨config, hnew.1⟩
  · intro _
    rw [hlen, Nat.add_sub_cancel]
    exact ⟨config, hnew.2, hnew.1⟩

/-- What an answer or the passing of time leaves as it is. -/
theorem goesOn (h : Sharing b k n w es) (hm : ∀ e, m ≠ .start e) :
    (w.step b m).state.appConfig = w.state.appConfig ∧
      (∀ f < k, (w.step b m).works[f]? = w.works[f]?) ∧
      ∀ f c, .called f c ∈ w.news b m → k ≤ f := by
  have hadv := World.advance_cases b w m
  generalize w.step b m = w', w.news b m = es' at hadv
  cases hadv with
  | start e => exact absurd rfl (hm e)
  | @answer g t hg outcome =>
      have hle : k ≤ g := Nat.not_lt.mp fun hlt => h.before.2 g t hlt hg
      refine ⟨resume_appConfig b t outcome w.state, ?_, ?_⟩
      · exact fun f hf => List.getElem?_set_ne (by omega)
      · intro f c hc
        rcases List.mem_cons.mp hc with heq | hmem
        · cases heq
        · obtain ⟨t', -, heq⟩ := World.mem_entries.mp hmem
          cases heq
          exact hle
  | idle | tick => exact ⟨rfl, fun _ _ => rfl, fun _ _ hc => nomatch hc⟩

theorem step (h : Sharing b k n w es) (hm : m.SharesConfig b w) :
    Sharing b k n (w.step b m) (es ++ w.news b m) := by
  by_cases hstart : ∃ e, m = .start e
  · obtain ⟨e, rfl⟩ := hstart
    obtain ⟨id, bytes, config, rfl, hid, hconfig⟩ := hm
    exact h.start hid hconfig
  · have hno : ∀ e, m ≠ .start e := fun e heq => hstart ⟨e, heq⟩
    obtain ⟨happ, hbefore, hcalls⟩ := h.goesOn hno
    have hlen := World.length_step (b := b) (w := w) hno
    refine ⟨h.sound.step b m, ?_, ⟨?_, ?_⟩, ?_, ?_, ?_, ?_⟩
    · exact Nat.lt_of_lt_of_le h.known (h.sound.run_extends b [m]).next_le
    · exact hlen ▸ h.before.1
    · intro f t hf
      rw [hbefore f hf]
      exact h.before.2 f t hf
    · intro e he
      rcases List.mem_append.mp he with hold | hnews
      · exact hlen ▸ h.lines e hold
      · exact World.work_lt_of_mem_news hnews
    · intro f c hc
      exact (List.mem_append.mp hc).elim (h.calls f c) (hcalls f c)
    · intro f hle hlt
      obtain ⟨config, hshared⟩ := h.shared f hle (hlen ▸ hlt)
      exact ⟨config, hshared.step h.sound h.known m⟩
    · intro hlt
      rw [hlen] at hlt ⊢
      obtain ⟨config, hconfig, hshared⟩ := h.current hlt
      exact ⟨config, happ.trans hconfig, hshared.step h.sound h.known m⟩

theorem run (h : Sharing b k n w es) {ms : List Move}
    (hms : w.SharesConfigs b ms) :
    Sharing b k n (w.run b ms) (es ++ w.trace b ms) := by
  induction ms generalizing w es with
  | nil =>
      rw [World.trace, List.append_nil]
      exact h
  | cons m ms ih =>
      rw [World.trace, ← List.append_assoc]
      exact ih (h.step hms.1) hms.2

end Sharing

/-! ## The frames of one session -/

/-- The work that hands a text to a session, and the text. -/
def Entry.frameTo? (n : Nat) : Entry → Option (Nat × String)
  | .called f (.send k text) => if k = n then some (f, text) else none
  | _ => none

/-- The texts that a session is handed, in order, each with its work. -/
def framesTo (n : Nat) (es : List Entry) : List (Nat × String) :=
  es.filterMap (Entry.frameTo? n)

section
variable {n f : Nat} {text : String} {es es' : List Entry}

theorem framesTo_append (n : Nat) (es es' : List Entry) :
    framesTo n (es ++ es') = framesTo n es ++ framesTo n es' :=
  List.filterMap_append

theorem mem_framesTo :
    (f, text) ∈ framesTo n es ↔ .called f (.send n text) ∈ es := by
  rw [framesTo, List.mem_filterMap]
  constructor
  · rintro ⟨e, hmem, he⟩
    rw [Entry.frameTo?.eq_def] at he
    split at he
    · next g k t =>
        split at he
        · next hk => cases he; cases hk; exact hmem
        · cases he
    · cases he
  · intro hmem
    exact ⟨_, hmem, if_pos rfl⟩

/-- A work occurs among the senders to a session as often as the session among
those that the work handed a text to. -/
theorem count_senders (n f : Nat) (es : List Entry) :
    ((framesTo n es).map Prod.fst).count f = (handedBy f es).count n := by
  induction es with
  | nil => rfl
  | cons e es ih =>
      cases e with
      | began | answered => exact ih
      | called g c =>
          cases c with
          | close => exact ih
          | send k t =>
              simp only [framesTo, handedBy, List.filterMap_cons,
                Entry.frameTo?, Entry.handed?] at ih ⊢
              by_cases hk : k = n <;> by_cases hg : g = f <;>
                simp [hk, hg, ih]

end

namespace Sharing

variable [IdSupply] {b : Bridge} {k n : Nat} {w : World} {es : List Entry}

/-- Once all is over, a session that stayed has one frame from each fan-out. -/
theorem senders_perm (h : Sharing b k n w es) (hquiet : w.Quiet)
    (ho : w.state.sessions.isOpen n) :
    ((framesTo n es).map Prod.fst).Perm
      (List.range' k (w.works.length - k)) := by
  refine List.perm_iff_count.mpr fun f => ?_
  rw [count_senders, (List.nodup_range' ..).count]
  have hle := h.before.1
  split
  · next hmem =>
      obtain ⟨hkf, hf⟩ := List.mem_range'_1.mp hmem
      have hlt : f < w.works.length := by omega
      obtain ⟨config, hshared⟩ := h.shared f hkf hlt
      obtain ⟨text, snapshot, -, hnd, hfan⟩ := hshared.fan
      obtain ⟨p, hp, -⟩ := hfan.stage
      have hhanded : n ∈ handedBy f es := by
        refine (hshared.due ho).resolve_right ?_
        cases p with
        | waiting t => exact absurd hp (hquiet.not_waiting f t)
        | finished r =>
            rw [World.ahead_eq hp]
            exact List.not_mem_nil
      have hnd' := hnd.sublist ((List.sublist_append_left ..).trans hfan.inOrder)
      rw [hnd'.count, if_pos hhanded]
  · next hmem =>
      refine List.count_eq_zero.mpr fun hhanded => hmem ?_
      obtain ⟨text, hcall⟩ := mem_handedBy.mp hhanded
      have hkf := h.calls f _ hcall
      have hlt : f < w.works.length := h.lines _ hcall
      exact List.mem_range'_1.mpr ⟨hkf, by omega⟩

theorem carries (h : Sharing b k n w es) {f : Nat} {text : String}
    (hcall : .called f (.send n text) ∈ es) :
    ∃ id bytes config, .began f (.frame id bytes) ∈ es ∧
      configIn? b bytes = some config ∧ Carries text config := by
  obtain ⟨config, hshared⟩ := h.shared f (h.calls f _ hcall) (h.lines _ hcall)
  obtain ⟨id, bytes, hbegan, hconfig⟩ := hshared.began
  exact ⟨id, bytes, config, hbegan, hconfig, hshared.carries hcall⟩

/-- A frame of the fan-out that started last carries what is current. -/
theorem carries_current (h : Sharing b k n w es) {f : Nat} {text : String}
    (hcall : .called f (.send n text) ∈ es) (hlast : f + 1 = w.works.length) :
    ∃ config, w.state.appConfig = some config ∧ Carries text config := by
  have hkf := h.calls f _ hcall
  obtain ⟨config, hcurrent, hshared⟩ := h.current (by omega)
  have hf : w.works.length - 1 = f := by omega
  rw [hf] at hshared
  exact ⟨config, hcurrent, hshared.carries hcall⟩

/-- A fan-out that started after the others were over has the last frame. -/
theorem last_frame (h : Sharing b k n w es) (hquiet : w.Quiet)
    (ho : w.state.sessions.isOpen n) (hone : w.works.length = k + 1) :
    ∃ text config, (framesTo n es).getLast? = some (k, text) ∧
      w.state.appConfig = some config ∧ Carries text config := by
  have hperm := h.senders_perm hquiet ho
  rw [hone, Nat.add_sub_cancel_left, List.range'_one, List.perm_singleton,
    List.map_eq_singleton_iff] at hperm
  obtain ⟨⟨f, text⟩, hframes, rfl⟩ := hperm
  have hcall : .called f (.send n text) ∈ es :=
    mem_framesTo.mp (hframes ▸ List.mem_singleton_self _)
  obtain ⟨config, hcurrent, hcarries⟩ := h.carries_current hcall hone.symm
  exact ⟨text, config, by rw [hframes]; rfl, hcurrent, hcarries⟩

end Sharing

namespace World

variable {b : Bridge} {w : World} {m : Move} {ms : List Move} {n : Nat}

theorem SharesConfigs.not_disconnect [IdSupply] (h : w.SharesConfigs b ms) (id : String) :
    .start (.disconnect id) ∉ ms := by
  induction ms generalizing w with
  | nil => exact List.not_mem_nil
  | cons m ms ih =>
      rw [List.mem_cons, not_or]
      refine ⟨?_, ih h.2⟩
      rintro rfl
      obtain ⟨_, _, _, heq, -⟩ := h.1
      cases heq

def twoOpen : World :=
  launched.run relay [.start (.openSession 0), .start (.openSession 1)]

/-- A frame with a configuration that has nothing but a title. -/
def titleFrame (title : String) : List UInt8 :=
  Text.Utf8.encode
    ("\x7b\"type\":\"APP_CONFIG\",\"data\":\x7b\"title\":\"" ++ title ++ "\"\x7d\x7d")

/-- The configuration of such a frame. -/
def titled (title : String) : AppConfig where
  title := title
  theme := none
  darkTheme := none
  routes := []
  initialRoute := "/"
  supportedLocales := ["en"]
  currentLocale := "en"

/-- The viewers after a run in which configurations were shared. -/
theorem shared_config [IdSupply] (h : w.Reachable b) (hquiet : w.Quiet)
    (hms : w.SharesConfigs b ms) (hover : (w.run b ms).Quiet)
    (ho : w.state.sessions.isOpen n)
    (hsent : ∀ e ∈ w.trace b ms, e.fails n = false) :
    (w.run b ms).state.sessions.isOpen n ∧
    ((framesTo n (w.trace b ms)).map Prod.fst).Perm
      (List.range' w.works.length
        ((w.run b ms).works.length - w.works.length)) ∧
    (∀ f text, (f, text) ∈ framesTo n (w.trace b ms) →
      ∃ id bytes config, .began f (.frame id bytes) ∈ w.trace b ms ∧
        configIn? b bytes = some config ∧ Carries text config) ∧
    (w.works.length < (w.run b ms).works.length →
      ∃ id bytes config,
        .began ((w.run b ms).works.length - 1) (.frame id bytes) ∈
          w.trace b ms ∧
        configIn? b bytes = some config ∧
        (w.run b ms).state.appConfig = some config) ∧
    (∀ f text, (framesTo n (w.trace b ms)).getLast? = some (f, text) →
      f + 1 = (w.run b ms).works.length →
      ∃ config, (w.run b ms).state.appConfig = some config ∧
        Carries text config) ∧
    (∀ ms₁ e ms₂, ms = ms₁ ++ .start e :: ms₂ → (w.run b ms₁).Quiet →
      (∀ e', .start e' ∉ ms₂) →
      ∃ text config, (framesTo n (w.trace b ms)).getLast? =
          some ((w.run b ms₁).works.length, text) ∧
        (w.run b ms).state.appConfig = some config ∧ Carries text config) := by
  have hsound := h.sound
  have hinit : ∀ {w : World}, w.Sound → w.Quiet → w.state.sessions.isOpen n →
      Sharing b w.works.length n w [] :=
    fun hw hq ho => .init hw (SessionTable.isOpen_lt ho) hq
  have hrun := (hinit hsound hquiet ho).run hms
  rw [List.nil_append] at hrun
  have hstays := hsound.stays_open ho (hms.not_disconnect _) hsent
  refine ⟨hstays, hrun.senders_perm hover hstays, ?_, ?_, ?_, ?_⟩
  · exact fun f text hmem => hrun.carries (mem_framesTo.mp hmem)
  · intro hlt
    obtain ⟨config, hcurrent, hshared⟩ := hrun.current hlt
    obtain ⟨id, bytes, hbegan, hconfig⟩ := hshared.began
    exact ⟨id, bytes, config, hbegan, hconfig, hcurrent⟩
  · intro f text hlast hf
    exact hrun.carries_current
      (mem_framesTo.mp (List.mem_of_getLast? hlast)) hf
  · rintro ms₁ e ms₂ rfl hquiet₁ hno
    obtain ⟨hms₁, hms₂⟩ := (sharesConfigs_append ..).mp hms
    rw [trace_append, List.forall_mem_append] at hsent
    have ho₁ := hsound.stays_open ho (hms₁.not_disconnect _) hsent.1
    have hlast := (hinit (hsound.run b ms₁) hquiet₁ ho₁).run hms₂
    have hlen : ((w.run b ms₁).run b (.start e :: ms₂)).works.length =
        (w.run b ms₁).works.length + 1 :=
      (length_run hno).trans List.length_append
    rw [run_append] at hover hstays ⊢
    obtain ⟨text, config, hframes, hcurrent, hcarries⟩ :=
      hlast.last_frame hover hstays hlen
    refine ⟨text, config, ?_, hcurrent, hcarries⟩
    rw [trace_append, framesTo_append, List.getLast?_append]
    rw [List.nil_append] at hframes
    rw [hframes, Option.some_or]

theorem configIn?_titleFrame :
    configIn? relay (titleFrame "A") = some (titled "A") ∧
    configIn? relay (titleFrame "B") = some (titled "B") := by
  decide +kernel

/-- Both viewers share a configuration, one after the other. -/
def inTurn : List Move :=
  [.start (.frame (sessionName 0) (titleFrame "A")),
    .answer 2 .done, .answer 2 .done,
    .start (.frame (sessionName 1) (titleFrame "B")),
    .answer 3 .done, .answer 3 .done]

theorem shared_config_inTurn :
    twoOpen.Reachable relay ∧ twoOpen.Quiet ∧
    twoOpen.SharesConfigs relay inTurn ∧ (twoOpen.run relay inTurn).Quiet ∧
    twoOpen.state.sessions.isOpen 1 ∧
    (∀ e ∈ twoOpen.trace relay inTurn, e.fails 1 = false) ∧
    ∃ text config, (framesTo 1 (twoOpen.trace relay inTurn)).getLast? =
        some (3, text) ∧
      (twoOpen.run relay inTurn).state.appConfig = some config ∧
      Carries text config := by
  have hreach : twoOpen.Reachable relay := Reachable.launched.run _
  obtain ⟨hquiet, hidA, hidB, hover, hsent, hquiet₁, hlen⟩ :
      twoOpen.Quiet ∧
      (twoOpen.state.sessions.openNumber? (sessionName 0)).isSome ∧
      ((twoOpen.run relay (inTurn.take 3)).state.sessions.openNumber?
        (sessionName 1)).isSome ∧
      (twoOpen.run relay inTurn).Quiet ∧
      (∀ e ∈ twoOpen.trace relay inTurn, e.fails 1 = false) ∧
      (twoOpen.run relay (inTurn.take 3)).Quiet ∧
      (twoOpen.run relay (inTurn.take 3)).works.length = 3 := by
    decide +kernel
  have hshares : twoOpen.SharesConfigs relay inTurn :=
    ⟨⟨_, _, titled "A", rfl, hidA, configIn?_titleFrame.1⟩, trivial, trivial,
      ⟨_, _, titled "B", rfl, hidB, configIn?_titleFrame.2⟩, trivial, trivial,
      trivial⟩
  have hno : ∀ e, .start e ∉ [Move.answer 3 .done, Move.answer 3 .done] := by
    intro e he
    simp only [List.mem_cons, List.not_mem_nil, or_false, reduceCtorEq] at he
  obtain ⟨-, -, -, -, -, hlast⟩ :=
    shared_config hreach hquiet hshares hover rfl hsent
  obtain ⟨text, config, hframes, hcurrent, hcarries⟩ :=
    hlast (inTurn.take 3) _ _ rfl hquiet₁ hno
  rw [hlen] at hframes
  exact ⟨hreach, hquiet, hshares, hover, rfl, hsent, text, config, hframes,
    hcurrent, hcarries⟩

/-- Both viewers share a configuration. The second fan-out goes through while
the first still waits for its first viewer. -/
def overtaking : List Move :=
  [.start (.frame (sessionName 0) (titleFrame "A")),
    .start (.frame (sessionName 1) (titleFrame "B")),
    .answer 3 .done, .answer 3 .done, .answer 2 .done, .answer 2 .done]

/-- Two fan-outs overlap. Afterwards all is over, no text failed and both
viewers are there, and the last frame of one of them has a configuration that
is no longer the current one. -/
theorem overtaken :
    twoOpen.Reachable relay ∧ twoOpen.Quiet ∧
    twoOpen.SharesConfigs relay overtaking ∧
    (twoOpen.run relay overtaking).Quiet ∧
    twoOpen.state.sessions.isOpen 1 ∧
    (∀ e ∈ twoOpen.trace relay overtaking, e.fails 1 = false) ∧
    (twoOpen.run relay overtaking).state.appConfig = some (titled "B") ∧
    ∃ text, (framesTo 1 (twoOpen.trace relay overtaking)).getLast? =
        some (2, text) ∧
      Carries text (titled "A") ∧ ¬ Carries text (titled "B") := by
  have hreach : twoOpen.Reachable relay := Reachable.launched.run _
  obtain ⟨hknown, hquiet, hidA, hidB, hover, hsent, hcurrent, hsenders⟩ :
      1 < twoOpen.state.sessions.next ∧ twoOpen.Quiet ∧
      (twoOpen.state.sessions.openNumber? (sessionName 0)).isSome ∧
      ((twoOpen.run relay (overtaking.take 1)).state.sessions.openNumber?
        (sessionName 1)).isSome ∧
      (twoOpen.run relay overtaking).Quiet ∧
      (∀ e ∈ twoOpen.trace relay overtaking, e.fails 1 = false) ∧
      (twoOpen.run relay overtaking).state.appConfig = some (titled "B") ∧
      (framesTo 1 (twoOpen.trace relay overtaking)).map Prod.fst = [3, 2] := by
    decide +kernel
  have hshares : twoOpen.SharesConfigs relay overtaking :=
    ⟨⟨_, _, titled "A", rfl, hidA, configIn?_titleFrame.1⟩,
      ⟨_, _, titled "B", rfl, hidB, configIn?_titleFrame.2⟩,
      trivial, trivial, trivial, trivial, trivial⟩
  refine ⟨hreach, hquiet, hshares, hover, rfl, hsent, hcurrent, ?_⟩
  obtain ⟨first, _, hframes, -, hrest⟩ := List.map_eq_cons_iff.mp hsenders
  obtain ⟨⟨f, text⟩, rfl, rfl⟩ := List.map_eq_singleton_iff.mp hrest
  have hcall := mem_framesTo.mp (hframes ▸ List.mem_cons_of_mem first
    (List.mem_singleton_self (2, text)))
  -- The last frame is from the fan-out that began with the first move.
  have hbegun := (Shared.start hreach.sound hknown hidA configIn?_titleFrame.1
    (fun _ he => nomatch he : ∀ e ∈ ([] : List Entry), _)).1
  have hknown₁ := Nat.lt_of_lt_of_le hknown
    (hreach.sound.run_extends relay (overtaking.take 1)).next_le
  have hshared := hbegun.run (hreach.sound.step relay _) hknown₁ overtaking.tail
  have hcarries : Carries text (titled "A") := hshared.carries hcall
  refine ⟨text, by rw [hframes]; rfl, hcarries, ?_⟩
  exact hcarries.not_carries (by decide +kernel) (by decide +kernel)
    (by decide +kernel) (by decide +kernel) (by decide +kernel)
    (by decide +kernel)

end World

end ScreenBridge.Bridge
