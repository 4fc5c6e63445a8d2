import ScreenBridge.Session

/-!
# The session table keeps its books

The table holds one thing twice: the state of every session ever created, by
number, and the numbers of the live ones, by name. Nothing in the definitions
forces the two to agree, so this file says what agreement is and that opening
and closing keep it.

`WellFormed` is that agreement. It is enough to make the name lookup exact —
a name finds a number precisely when the session with that number is open and
the name is its own (`find?_eq_some`) — and everything else is read off that:
who a fan-out takes down, how large the table is, what a removal closes.

`Extends` is the other half, the one that compares a table with a later one.
A number that was given stays given, and a session that is closed stays
closed. It is a preorder, so it carries along any number of steps.
-/

namespace ScreenBridge

/-! ## Names -/

section
variable [IdSupply]

/-- A name is never given twice. -/
theorem sessionName_inj {m n : Nat} (h : sessionName m = sessionName n) : m = n :=
  IdSupply.draw_injective ((String.append_right_inj _).mp h)

theorem sessionName_ne_empty (n : Nat) : sessionName n ≠ "" := by
  intro h
  have hchars := congrArg String.toList h
  rw [sessionName, String.toList_append] at hchars
  cases hchars

end

namespace SessionTable

variable {t t' t'' : SessionTable} {n : Nat} {id : String}

/-! ## Which sessions are open -/

theorem isOpen_iff :
    t.isOpen n = true ↔ ∃ s, t.session? n = some s ∧ s.state = .opened := by
  rw [isOpen]
  cases t.session? n with
  | none => simp
  | some s => simp

theorem isOpen_lt (h : t.isOpen n) : n < t.next := by
  obtain ⟨s, hs, -⟩ := isOpen_iff.mp h
  exact (List.getElem?_eq_some_iff.mp hs).1

theorem not_isOpen_iff (hn : n < t.next) :
    ¬ t.isOpen n ↔ ∃ s, t.session? n = some s ∧ s.state = .closed := by
  have hs : t.session? n = some t.created[n] := List.getElem?_eq_getElem hn
  rw [isOpen_iff, hs]
  constructor
  · intro hno
    refine ⟨_, rfl, ?_⟩
    cases hstate : t.created[n].state with
    | opened => exact absurd ⟨_, rfl, hstate⟩ hno
    | closed => rfl
  · rintro ⟨s, heq, hclosed⟩ ⟨s', heq', hopen⟩
    cases heq
    cases heq'
    rw [hclosed] at hopen
    cases hopen

theorem isOpen_of_openNumber? (h : t.openNumber? id = some n) :
    t.isOpen n := by
  rw [openNumber?, Option.filter_eq_some_iff] at h
  exact h.2

section
variable [IdSupply]

/-- The two halves of a table agree. -/
structure WellFormed (t : SessionTable) : Prop where
  /-- Every session bears the name of its number. -/
  named : ∀ {n s}, t.session? n = some s → s.id = sessionName n
  /-- What is live is open, and stands under its own name. -/
  live_isOpen : ∀ {id n}, (id, n) ∈ t.live → id = sessionName n ∧ t.isOpen n
  /-- What is open is live. -/
  isOpen_live : ∀ {n}, t.isOpen n → (sessionName n, n) ∈ t.live
  /-- The live ones stand in the order in which they were opened. -/
  ordered : (t.live.map Prod.snd).Pairwise (· < ·)

theorem WellFormed.empty : WellFormed {} where
  named h := by cases h
  live_isOpen h := by cases h
  isOpen_live h := absurd (isOpen_lt h) (Nat.not_lt_zero _)
  ordered := List.Pairwise.nil

theorem WellFormed.nodup_keys (h : t.WellFormed) : t.live.keys.Nodup := by
  have hlt := List.pairwise_map.mp h.ordered
  refine List.pairwise_map.mpr (hlt.imp_of_mem ?_)
  intro a b ha hb hab heq
  rw [(h.live_isOpen ha).1, (h.live_isOpen hb).1] at heq
  exact absurd (sessionName_inj heq) (Nat.ne_of_lt hab)

/-- A name finds exactly the open session that bears it. -/
theorem WellFormed.find?_eq_some (h : t.WellFormed) :
    t.find? id = some n ↔ id = sessionName n ∧ t.isOpen n := by
  constructor
  · intro hf
    exact h.live_isOpen (Keyed.mem_of_get?_eq_some hf)
  · rintro ⟨rfl, ho⟩
    exact Keyed.get?_eq_some_of_mem h.nodup_keys (h.isOpen_live ho)

/-- Nothing is found under a name that no open session bears. -/
theorem WellFormed.find?_eq_none (h : t.WellFormed) :
    t.find? id = none ↔ ∀ n, id = sessionName n → ¬ t.isOpen n := by
  rw [Option.eq_none_iff_forall_ne_some]
  constructor
  · intro hf n hid ho
    exact hf n (h.find?_eq_some.mpr ⟨hid, ho⟩)
  · intro hf n hn
    obtain ⟨hid, ho⟩ := h.find?_eq_some.mp hn
    exact hf n hid ho

theorem WellFormed.openNumber?_eq (h : t.WellFormed) (id : String) :
    t.openNumber? id = t.find? id := by
  rw [openNumber?]
  cases hf : t.find? id with
  | none => rfl
  | some n =>
      rw [Option.filter_some, if_pos (h.find?_eq_some.mp hf).2]

/-- The snapshot of a fan-out is the live half, in order. -/
theorem WellFormed.openNumbers_eq (h : t.WellFormed) :
    t.openNumbers = t.live.map Prod.snd := by
  rw [openNumbers, List.filter_eq_self]
  intro n hn
  obtain ⟨⟨id, n⟩, hmem, rfl⟩ := List.mem_map.mp hn
  exact (h.live_isOpen hmem).2

theorem WellFormed.mem_openNumbers (h : t.WellFormed) :
    n ∈ t.openNumbers ↔ t.isOpen n := by
  rw [h.openNumbers_eq]
  constructor
  · intro hn
    obtain ⟨⟨id, n⟩, hmem, rfl⟩ := List.mem_map.mp hn
    exact (h.live_isOpen hmem).2
  · intro ho
    exact List.mem_map.mpr ⟨_, h.isOpen_live ho, rfl⟩

theorem WellFormed.nodup_openNumbers (h : t.WellFormed) :
    t.openNumbers.Nodup := by
  rw [h.openNumbers_eq]
  exact h.ordered.imp Nat.ne_of_lt

/-! ## Opening -/

theorem session?_add (t : SessionTable) (connection : Nat) (now : String)
    (n : Nat) :
    (t.add connection now).session? n =
      if n = t.next then some ⟨sessionName t.next, connection, .opened, now⟩
      else t.session? n := by
  show (t.created ++ [_])[n]? = if n = t.created.length then _ else t.created[n]?
  rw [List.getElem?_append]
  split
  · next hlt => rw [if_neg (Nat.ne_of_lt hlt)]
  · next hge =>
      split
      · next heq => rw [heq, Nat.sub_self]; rfl
      · next hne =>
          rw [List.getElem?_eq_none (by simp only [List.length_singleton]; omega),
            List.getElem?_eq_none (by omega)]

@[simp] theorem next_add (t : SessionTable) (connection : Nat) (now : String) :
    (t.add connection now).next = t.next + 1 := by
  rw [next, add, List.length_append]
  rfl

theorem isOpen_add (t : SessionTable) (connection : Nat) (now : String)
    (n : Nat) :
    (t.add connection now).isOpen n ↔ n = t.next ∨ t.isOpen n := by
  rw [isOpen_iff, isOpen_iff, session?_add]
  by_cases hn : n = t.next
  · rw [if_pos hn]
    exact ⟨fun _ => .inl hn, fun _ => ⟨_, rfl, rfl⟩⟩
  · rw [if_neg hn]
    exact ⟨.inr, fun h => h.resolve_left hn⟩

theorem WellFormed.next_not_mem_keys (h : t.WellFormed) :
    sessionName t.next ∉ t.live.keys := by
  intro hmem
  obtain ⟨⟨id, n⟩, hn, hid⟩ := List.mem_map.mp hmem
  obtain ⟨hname, ho⟩ := h.live_isOpen hn
  have heq := sessionName_inj (hid.symm.trans hname)
  exact absurd (isOpen_lt ho) (by omega)

theorem WellFormed.live_add (h : t.WellFormed) (connection : Nat)
    (now : String) :
    (t.add connection now).live = t.live ++ [(sessionName t.next, t.next)] := by
  rw [add]
  exact Keyed.set_eq_append h.next_not_mem_keys _

theorem WellFormed.add (h : t.WellFormed) (connection : Nat) (now : String) :
    (t.add connection now).WellFormed where
  named {n s} hs := by
    rw [session?_add] at hs
    split at hs
    · next hn =>
        cases hs
        rw [hn]
    · exact h.named hs
  live_isOpen {id n} hmem := by
    rw [h.live_add, List.mem_append, List.mem_singleton] at hmem
    rw [isOpen_add]
    rcases hmem with hold | hnew
    · obtain ⟨hid, ho⟩ := h.live_isOpen hold
      exact ⟨hid, .inr ho⟩
    · cases hnew
      exact ⟨rfl, .inl rfl⟩
  isOpen_live {n} ho := by
    rw [isOpen_add] at ho
    rw [h.live_add, List.mem_append, List.mem_singleton]
    rcases ho with rfl | ho
    · exact .inr rfl
    · exact .inl (h.isOpen_live ho)
  ordered := by
    rw [h.live_add, List.map_append, List.pairwise_append]
    refine ⟨h.ordered, List.pairwise_singleton _ _, ?_⟩
    intro a ha b hb
    obtain ⟨⟨id, n⟩, hmem, rfl⟩ := List.mem_map.mp ha
    rw [List.mem_singleton.mp hb]
    exact isOpen_lt (h.live_isOpen hmem).2

end

/-! ## Closing -/

theorem session?_remove {m : Nat} (hf : t.find? id = some m) (n : Nat) :
    (t.remove id).session? n =
      if m = n then (t.session? n).map fun s => { s with state := .closed }
      else t.session? n := by
  rw [remove, hf]
  show (t.created.modify m _)[n]? = _
  rw [List.getElem?_modify]
  split
  · rfl
  · exact Option.map_id'

@[simp] theorem next_remove (t : SessionTable) (id : String) :
    (t.remove id).next = t.next := by
  rw [remove]
  split
  · rfl
  · exact List.length_modify ..

/-- A removal closes the session of that name and no other. -/
theorem WellFormed.isOpen_remove [IdSupply] (h : t.WellFormed) (id : String) (n : Nat) :
    (t.remove id).isOpen n ↔ t.isOpen n ∧ id ≠ sessionName n := by
  cases hf : t.find? id with
  | none =>
      rw [remove, hf]
      exact ⟨fun ho => ⟨ho, fun hid => h.find?_eq_none.mp hf n hid ho⟩, And.left⟩
  | some m =>
      obtain ⟨rfl, -⟩ := h.find?_eq_some.mp hf
      rw [isOpen_iff, isOpen_iff, session?_remove hf]
      split
      · next heq =>
          subst heq
          refine ⟨?_, fun hn => absurd rfl hn.2⟩
          rintro ⟨s, hs, hstate⟩
          obtain ⟨s', -, rfl⟩ := Option.map_eq_some_iff.mp hs
          cases hstate
      · next hne =>
          exact ⟨fun ho => ⟨ho, fun hid => hne (sessionName_inj hid)⟩, And.left⟩

theorem WellFormed.remove [IdSupply] (h : t.WellFormed) (id : String) :
    (t.remove id).WellFormed := by
  cases hf : t.find? id with
  | none =>
      rw [SessionTable.remove, hf]
      exact h
  | some m =>
      have hlive : (t.remove id).live = t.live.filter fun kv => kv.1 ≠ id := by
        rw [SessionTable.remove, hf]
        rfl
      refine ⟨?_, ?_, ?_, ?_⟩
      · intro n s hs
        rw [session?_remove hf] at hs
        split at hs
        · obtain ⟨s', hs', rfl⟩ := Option.map_eq_some_iff.mp hs
          show s'.id = _
          exact h.named hs'
        · exact h.named hs
      · intro k n hmem
        rw [hlive, List.mem_filter] at hmem
        obtain ⟨hk, ho⟩ := h.live_isOpen hmem.1
        refine ⟨hk, (h.isOpen_remove id n).mpr ⟨ho, fun hid => ?_⟩⟩
        exact absurd (hk.trans hid.symm) (by simpa using hmem.2)
      · intro n ho
        obtain ⟨ho, hne⟩ := (h.isOpen_remove id n).mp ho
        rw [hlive, List.mem_filter]
        exact ⟨h.isOpen_live ho, by simpa using Ne.symm hne⟩
      · rw [hlive]
        exact h.ordered.sublist (List.filter_sublist.map _)

/-- Who bears another name is found as before. -/
theorem WellFormed.find?_remove [IdSupply] (h : t.WellFormed) {id' : String} (hne : id' ≠ id) :
    (t.remove id).find? id' = t.find? id' := by
  refine Option.ext fun n => ?_
  rw [(h.remove id).find?_eq_some, h.find?_eq_some, h.isOpen_remove]
  constructor
  · exact fun ⟨hid, ho, _⟩ => ⟨hid, ho⟩
  · exact fun ⟨hid, ho⟩ => ⟨hid, ho, fun heq => hne (hid.trans heq.symm)⟩

/-! ## A later table -/

/-- What any number of steps leaves true of a table: the numbers given so far
stay given, and of those sessions the closed ones stay closed. -/
structure Extends (t t' : SessionTable) : Prop where
  next_le : t.next ≤ t'.next
  isOpen_of : ∀ {n}, n < t.next → t'.isOpen n → t.isOpen n

theorem Extends.refl (t : SessionTable) : Extends t t :=
  ⟨Nat.le_refl _, fun _ => id⟩

theorem Extends.trans (h : Extends t t') (h' : Extends t' t'') :
    Extends t t'' :=
  ⟨Nat.le_trans h.next_le h'.next_le, fun hn ho =>
    h.isOpen_of hn (h'.isOpen_of (Nat.lt_of_lt_of_le hn h.next_le) ho)⟩

theorem extends_add [IdSupply] (t : SessionTable) (connection : Nat) (now : String) :
    Extends t (t.add connection now) := by
  refine ⟨by rw [next_add]; omega, fun {n} hn ho => ?_⟩
  rcases (isOpen_add t connection now n).mp ho with rfl | ho
  · exact absurd hn (Nat.lt_irrefl _)
  · exact ho

theorem WellFormed.extends_remove [IdSupply] (h : t.WellFormed) (id : String) :
    Extends t (t.remove id) :=
  ⟨Nat.le_of_eq (next_remove t id).symm,
    fun _ ho => ((h.isOpen_remove id _).mp ho).1⟩

end SessionTable

end ScreenBridge
