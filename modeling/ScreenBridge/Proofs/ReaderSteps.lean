import ScreenBridge.Proofs.ReaderProgress

/-!
# The reader step by step

Each of the five functions of the reader looks at what stands first and then is
done or hands over to the next with one unit of fuel less. The `Head` relations
say so once for each, for all amounts of fuel together; what does not hand over
is `Plain`: it does not break off, and it goes forward if it succeeds. The two
facts that follow are inductions on the fuel over these relations: the reader
goes forward, and fuel that covers the input makes no difference.
-/

namespace ScreenBridge.Json

open Text.Utf8 (IsUtf8)

/-- A result that is no break-off, and a success only with a step forward. -/
structure Plain (bytes : Bytes) (r : Except ReadError (Json × Bytes)) : Prop where
  behind : ∀ {v rest}, r = .ok (v, rest) → Behind bytes rest
  ne_brokeOff : ∀ {cause}, r ≠ .error (.brokeOff cause)

theorem Plain.refused (bytes : Bytes) (e : SyntaxError) :
    Plain bytes (.error (.refused e)) where
  behind h := by cases h
  ne_brokeOff h := by cases h

theorem Plain.done {bytes rest : Bytes} (h : Behind bytes rest) (v : Json) :
    Plain bytes (.ok (v, rest)) where
  behind heq := by
    cases heq
    exact h
  ne_brokeOff heq := by cases heq

/-- The next part of a list or an object that `closing` ends: the first one, or
one behind a comma. -/
inductive Continues (closing : UInt8) : Bool → Bytes → Bytes → Prop where
  | first {bytes : Bytes} {b : UInt8} {rest : Bytes}
      (hb : skipBlanks bytes = b :: rest) (hne : b ≠ closing) :
      Continues closing true bytes (b :: rest)
  | comma {bytes rest : Bytes} {c : UInt8} {rest' : Bytes}
      (hb : skipBlanks bytes = 0x2c :: rest)
      (hc : skipBlanks rest = c :: rest') (hne : c ≠ closing) :
      Continues closing false bytes (c :: rest')

/-- What a value starts with. -/
inductive ValueHead (size : Nat) (bytes : Bytes) :
    Nat → (Nat → Except ReadError (Json × Bytes)) → Prop where
  | plain {depth : Nat} {r : Except ReadError (Json × Bytes)} (h : Plain bytes r) :
      ValueHead size bytes depth fun _ => r
  | badString {depth : Nat} {rest : Bytes} {cause : Breakdown}
      (hb : skipBlanks bytes = 0x22 :: rest)
      (hs : readString size rest = .error (.brokeOff cause)) :
      ValueHead size bytes depth fun _ => .error (.brokeOff cause)
  | tooDeep {b : UInt8} {rest : Bytes} (hb : skipBlanks bytes = b :: rest)
      (hopen : b = 0x7b ∨ b = 0x5b) :
      ValueHead size bytes 0 fun _ => .error (.brokeOff .tooDeep)
  | object {depth : Nat} {rest : Bytes} (hb : skipBlanks bytes = 0x7b :: rest) :
      ValueHead size bytes (depth + 1) fun fuel =>
        readMembers size fuel depth true [] rest
  | list {depth : Nat} {rest : Bytes} (hb : skipBlanks bytes = 0x5b :: rest) :
      ValueHead size bytes (depth + 1) fun fuel =>
        readItems size fuel depth true [] rest

section
variable (size depth : Nat)

theorem readValue_cases (bytes : Bytes) :
    ∃ f, (∀ fuel, readValue size (fuel + 1) depth bytes = f fuel) ∧
      ValueHead size bytes depth f := by
  refine ⟨_, fun _ => rfl, ?_⟩
  simp only [readValue]
  cases hb : skipBlanks bytes with
  | nil => exact .plain (.refused ..)
  | cons b rest =>
      have hskip : ∀ {rest'}, Behind (b :: rest) rest' → Behind bytes rest' :=
        fun h => .of_skipBlanks (hb ▸ h)
      dsimp only
      by_cases h22 : b = 0x22
      · subst h22
        simp only [if_pos]
        cases hs : readString size rest with
        | ok r =>
            exact .plain (.done (hskip (readString_behind hs).of_cons) _)
        | error e =>
            cases e with
            | refused e => exact .plain (.refused ..)
            | brokeOff cause => exact .badString hb hs
      by_cases h7b : b = 0x7b
      · subst h7b
        cases depth with
        | zero => exact .tooDeep hb (.inl rfl)
        | succ depth => exact .object hb
      by_cases h5b : b = 0x5b
      · subst h5b
        cases depth with
        | zero => exact .tooDeep hb (.inr rfl)
        | succ depth => exact .list hb
      simp only [if_neg h22, if_neg h7b, if_neg h5b]
      have hword : ∀ letters front last v, letters = front ++ [last] →
          last < 0x80 → Plain bytes (readWord size letters v rest) :=
        fun letters front last v hletters hlast =>
          ⟨fun h => hskip (readWord_behind hletters hlast h).of_cons,
            readWord_ne_brokeOff⟩
      split
      · exact .plain (hword _ [0x72, 0x75] 0x65 _ rfl (by decide))
      · split
        · exact .plain (hword _ [0x61, 0x6c, 0x73] 0x65 _ rfl (by decide))
        · split
          · exact .plain (hword _ [0x75, 0x6c] 0x6c _ rfl (by decide))
          · split
            · next hnumber =>
                exact .plain ⟨fun h => hskip (readNumber_behind hnumber h),
                  readNumber_ne_brokeOff⟩
            · exact .plain (.refused ..)

/-- What stands behind a bracket or an item. -/
inductive ItemsHead (size depth : Nat) (first : Bool) (acc : List Json)
    (bytes : Bytes) : (Nat → Except ReadError (Json × Bytes)) → Prop where
  | plain {r : Except ReadError (Json × Bytes)} (h : Plain bytes r) :
      ItemsHead size depth first acc bytes fun _ => r
  | item {here : Bytes} (hnext : Continues 0x5d first bytes here) :
      ItemsHead size depth first acc bytes fun fuel =>
        readItem size fuel depth acc here

theorem readItems_cases (first : Bool) (acc : List Json) (bytes : Bytes) :
    ∃ f, (∀ fuel, readItems size (fuel + 1) depth first acc bytes = f fuel) ∧
      ItemsHead size depth first acc bytes f := by
  refine ⟨_, fun _ => rfl, ?_⟩
  simp only [readItems]
  cases hb : skipBlanks bytes with
  | nil => exact .plain (.refused ..)
  | cons b rest =>
      dsimp only
      by_cases hclose : b = 0x5d
      · subst hclose
        simp only [if_pos]
        exact .plain (.done (behind_skipBlanks hb (by decide)) _)
      simp only [if_neg hclose]
      cases first with
      | true => exact .item (.first hb hclose)
      | false =>
          by_cases hcomma : b = 0x2c
          · subst hcomma
            simp only [if_pos]
            cases hc : skipBlanks rest with
            | nil => exact .plain (.refused ..)
            | cons c rest' =>
                dsimp only
                by_cases hclose' : c = 0x5d
                · simp only [if_pos hclose']
                  exact .plain (.refused ..)
                · simp only [if_neg hclose']
                  exact .item (.comma hb hc hclose')
          · simp only [if_neg hcomma]
            exact .plain (.refused ..)

/-- What stands behind a brace or a member. -/
inductive MembersHead (size depth : Nat) (first : Bool) (acc : Keyed Json)
    (bytes : Bytes) : (Nat → Except ReadError (Json × Bytes)) → Prop where
  | plain {r : Except ReadError (Json × Bytes)} (h : Plain bytes r) :
      MembersHead size depth first acc bytes fun _ => r
  | member {here : Bytes} (hnext : Continues 0x7d first bytes here) :
      MembersHead size depth first acc bytes fun fuel =>
        readMember size fuel depth acc here

theorem readMembers_cases (first : Bool) (acc : Keyed Json) (bytes : Bytes) :
    ∃ f, (∀ fuel, readMembers size (fuel + 1) depth first acc bytes = f fuel) ∧
      MembersHead size depth first acc bytes f := by
  refine ⟨_, fun _ => rfl, ?_⟩
  simp only [readMembers]
  cases hb : skipBlanks bytes with
  | nil => exact .plain (.refused ..)
  | cons b rest =>
      dsimp only
      by_cases hclose : b = 0x7d
      · subst hclose
        simp only [if_pos]
        exact .plain (.done (behind_skipBlanks hb (by decide)) _)
      simp only [if_neg hclose]
      cases first with
      | true => exact .member (.first hb hclose)
      | false =>
          by_cases hcomma : b = 0x2c
          · subst hcomma
            simp only [if_pos]
            cases hc : skipBlanks rest with
            | nil => exact .plain (.refused ..)
            | cons c rest' =>
                dsimp only
                by_cases hclose' : c = 0x7d
                · simp only [if_pos hclose']
                  exact .plain (.refused ..)
                · simp only [if_neg hclose']
                  exact .member (.comma hb hc hclose')
          · simp only [if_neg hcomma]
            exact .plain (.refused ..)

/-- What a value in a list comes to. -/
def itemResult (size fuel depth : Nat) (acc : List Json) :
    Except ReadError (Json × Bytes) → Except ReadError (Json × Bytes)
  | .ok (v, rest) => readItems size fuel depth false (v :: acc) rest
  | .error e => .error (e.within (.item acc.length))

/-- What a value in an object comes to. -/
def memberResult (size fuel depth : Nat) (acc : Keyed Json) (key : String) :
    Except ReadError (Json × Bytes) → Except ReadError (Json × Bytes)
  | .ok (v, rest) => readMembers size fuel depth false (acc.set key v) rest
  | .error e => .error (e.within .member)

theorem readItem_succ (fuel : Nat) (acc : List Json) (bytes : Bytes) :
    readItem size (fuel + 1) depth acc bytes =
      itemResult size fuel depth acc (readValue size fuel depth bytes) := by
  rw [readItem]
  cases readValue size fuel depth bytes <;> rfl

/-- What a member starts with. -/
inductive MemberHead (size depth : Nat) (acc : Keyed Json) (bytes : Bytes) :
    (Nat → Except ReadError (Json × Bytes)) → Prop where
  | plain {r : Except ReadError (Json × Bytes)} (h : Plain bytes r) :
      MemberHead size depth acc bytes fun _ => r
  | badKey {rest : Bytes} {cause : Breakdown} (hb : bytes = 0x22 :: rest)
      (hs : readString size rest = .error (.brokeOff cause)) :
      MemberHead size depth acc bytes fun _ => .error (.brokeOff cause)
  | value {rest rest' rest'' : Bytes} {key : String} (hb : bytes = 0x22 :: rest)
      (hk : readString size rest = .ok (key, rest'))
      (hc : skipBlanks rest' = 0x3a :: rest'') :
      MemberHead size depth acc bytes fun fuel =>
        memberResult size fuel depth acc key (readValue size fuel depth rest'')

theorem readMember_cases (acc : Keyed Json) (bytes : Bytes) :
    ∃ f, (∀ fuel, readMember size (fuel + 1) depth acc bytes = f fuel) ∧
      MemberHead size depth acc bytes f := by
  refine ⟨_, fun _ => rfl, ?_⟩
  cases bytes with
  | nil =>
      simp only [readMember]
      exact .plain (.refused ..)
  | cons b rest =>
      by_cases hquote : b = 0x22
      · subst hquote
        cases hs : readString size rest with
        | error e =>
            simp only [readMember, hs]
            cases e with
            | refused e => exact .plain (.refused ..)
            | brokeOff cause => exact .badKey rfl hs
        | ok r =>
            obtain ⟨key, rest'⟩ := r
            cases hc : skipBlanks rest' with
            | nil =>
                simp only [readMember, hs, hc]
                exact .plain (.refused ..)
            | cons c rest'' =>
                by_cases hcolon : c = 0x3a
                · subst hcolon
                  have heq : (fun fuel => readMember size (fuel + 1) depth acc
                      (0x22 :: rest)) = fun fuel => memberResult size fuel depth
                        acc key (readValue size fuel depth rest'') := by
                    funext fuel
                    simp only [readMember, hs, hc]
                    cases readValue size fuel depth rest'' <;> rfl
                  rw [heq]
                  exact .value rfl hs hc
                · simp only [readMember, hs, hc, if_pos hcolon]
                  exact .plain (.refused ..)
      · simp only [readMember, if_pos hquote]
        exact .plain (.refused ..)

end

namespace Continues

variable {closing : UInt8} {first : Bool} {bytes here rest : Bytes}

theorem eq_append (h : Continues closing first bytes here) :
    ∃ front, bytes = front ++ here := by
  cases h with
  | first hb hne =>
      obtain ⟨blanks, heq⟩ := skipBlanks_eq bytes
      exact ⟨blanks, hb ▸ heq⟩
  | @comma _ more c rest' hb hc hne =>
      obtain ⟨blanks, heq⟩ := skipBlanks_eq bytes
      obtain ⟨blanks', heq'⟩ := skipBlanks_eq more
      rw [hc] at heq'
      refine ⟨blanks ++ 0x2c :: blanks', ?_⟩
      rw [List.append_assoc, List.cons_append, ← heq', ← hb]
      exact heq

theorem length_le (h : Continues closing first bytes here) :
    here.length ≤ bytes.length := by
  obtain ⟨front, rfl⟩ := h.eq_append
  rw [List.length_append]
  omega

theorem length_pos (h : Continues closing first bytes here) :
    0 < here.length := by
  cases h <;> exact Nat.succ_pos _

theorem behind (h : Continues closing first bytes here) (hr : Behind here rest) :
    Behind bytes rest := by
  obtain ⟨front, rfl⟩ := h.eq_append
  exact hr.append_left front

end Continues

theorem within_brokeOff {e : ReadError} {step : PathStep} {cause : Breakdown} :
    e.within step = .brokeOff cause ↔ e = .brokeOff cause := by
  cases e with
  | brokeOff => rfl
  | refused e => cases e <;> exact ⟨nofun, nofun⟩

/-! ## Forward -/

/-- With so much fuel every reader goes forward. -/
structure GoesForward (size fuel : Nat) : Prop where
  value : ∀ {depth bytes v rest},
    readValue size fuel depth bytes = .ok (v, rest) → Behind bytes rest
  items : ∀ {depth first acc bytes v rest},
    readItems size fuel depth first acc bytes = .ok (v, rest) → Behind bytes rest
  item : ∀ {depth acc bytes v rest},
    readItem size fuel depth acc bytes = .ok (v, rest) → Behind bytes rest
  members : ∀ {depth first acc bytes v rest},
    readMembers size fuel depth first acc bytes = .ok (v, rest) →
      Behind bytes rest
  member : ∀ {depth acc bytes v rest},
    readMember size fuel depth acc bytes = .ok (v, rest) → Behind bytes rest

namespace GoesForward

variable {size fuel depth : Nat} {first : Bool} {bytes rest : Bytes} {v : Json}

theorem zero : GoesForward size 0 := by
  refine ⟨?_, ?_, ?_, ?_, ?_⟩
  · intro depth bytes v rest h
    rw [readValue] at h
    cases h
  · intro depth first acc bytes v rest h
    rw [readItems] at h
    cases h
  · intro depth acc bytes v rest h
    rw [readItem] at h
    cases h
  · intro depth first acc bytes v rest h
    rw [readMembers] at h
    cases h
  · intro depth acc bytes v rest h
    rw [readMember] at h
    cases h

theorem value_succ (ih : GoesForward size fuel)
    (h : readValue size (fuel + 1) depth bytes = .ok (v, rest)) :
    Behind bytes rest := by
  obtain ⟨f, hf, hhead⟩ := readValue_cases size depth bytes
  rw [hf] at h
  cases hhead with
  | plain hp => exact hp.behind h
  | badString | tooDeep => cases h
  | object hb => exact (behind_skipBlanks hb (by decide)).trans (ih.members h)
  | list hb => exact (behind_skipBlanks hb (by decide)).trans (ih.items h)

theorem items_succ (ih : GoesForward size fuel) {acc : List Json}
    (h : readItems size (fuel + 1) depth first acc bytes = .ok (v, rest)) :
    Behind bytes rest := by
  obtain ⟨f, hf, hhead⟩ := readItems_cases size depth first acc bytes
  rw [hf] at h
  cases hhead with
  | plain hp => exact hp.behind h
  | item hnext => exact hnext.behind (ih.item h)

theorem item_succ (ih : GoesForward size fuel) {acc : List Json}
    (h : readItem size (fuel + 1) depth acc bytes = .ok (v, rest)) :
    Behind bytes rest := by
  rw [readItem_succ] at h
  cases hv : readValue size fuel depth bytes with
  | error e =>
      rw [hv] at h
      cases h
  | ok r =>
      rw [hv] at h
      exact (ih.value hv).trans (ih.items h)

theorem members_succ (ih : GoesForward size fuel) {acc : Keyed Json}
    (h : readMembers size (fuel + 1) depth first acc bytes = .ok (v, rest)) :
    Behind bytes rest := by
  obtain ⟨f, hf, hhead⟩ := readMembers_cases size depth first acc bytes
  rw [hf] at h
  cases hhead with
  | plain hp => exact hp.behind h
  | member hnext => exact hnext.behind (ih.member h)

theorem member_succ (ih : GoesForward size fuel) {acc : Keyed Json}
    (h : readMember size (fuel + 1) depth acc bytes = .ok (v, rest)) :
    Behind bytes rest := by
  obtain ⟨f, hf, hhead⟩ := readMember_cases size depth acc bytes
  rw [hf] at h
  cases hhead with
  | plain hp => exact hp.behind h
  | badKey => cases h
  | @value more rest' here key hb hk hc =>
      have hstart := (readString_behind hk).trans
        (behind_skipBlanks hc (by decide))
      cases hv : readValue size fuel depth here with
      | error e =>
          simp only [hv] at h
          cases h
      | ok r =>
          simp only [hv] at h
          rw [hb]
          exact (hstart.trans ((ih.value hv).trans (ih.members h))).of_cons

end GoesForward

theorem goesForward (size fuel : Nat) : GoesForward size fuel := by
  induction fuel with
  | zero => exact .zero
  | succ fuel ih =>
      exact ⟨ih.value_succ, ih.items_succ, ih.item_succ, ih.members_succ,
        ih.member_succ⟩

/-! ## Fuel that covers the input -/

section
variable (size fuel depth : Nat) (first : Bool)

theorem readValue_nil : readValue size fuel depth [] = refuseEnd := by
  cases fuel <;> rw [readValue]
  rfl

theorem readItems_nil (acc : List Json) :
    readItems size fuel depth first acc [] = refuseEnd := by
  cases fuel <;> rw [readItems]
  rfl

theorem readItem_nil (acc : List Json) :
    readItem size fuel depth acc [] = refuseEnd := by
  cases fuel <;> rw [readItem]
  rw [readValue_nil]
  rfl

theorem readMembers_nil (acc : Keyed Json) :
    readMembers size fuel depth first acc [] = refuseEnd := by
  cases fuel <;> rw [readMembers]
  rfl

theorem readMember_nil (acc : Keyed Json) :
    readMember size fuel depth acc [] = refuseEnd := by
  cases fuel <;> rw [readMember]

end

theorem eq_nil_of_covers {bytes : Bytes} {n : Nat} (h : 3 * bytes.length ≤ n)
    (hn : n ≤ 2) : bytes = [] :=
  List.eq_nil_of_length_eq_zero (by omega)

/-- Where this amount of fuel covers the input, any other that does gives the
same result. A function that hands over on the same input needs one unit more
than the next one. -/
structure FuelCovers (size fuel : Nat) : Prop where
  value : ∀ {fuel' depth bytes}, 3 * bytes.length ≤ fuel + 2 →
    3 * bytes.length ≤ fuel' + 2 →
    readValue size fuel depth bytes = readValue size fuel' depth bytes
  items : ∀ {fuel' depth first acc bytes}, 3 * bytes.length ≤ fuel →
    3 * bytes.length ≤ fuel' →
    readItems size fuel depth first acc bytes =
      readItems size fuel' depth first acc bytes
  item : ∀ {fuel' depth acc bytes}, 3 * bytes.length ≤ fuel + 1 →
    3 * bytes.length ≤ fuel' + 1 →
    readItem size fuel depth acc bytes = readItem size fuel' depth acc bytes
  members : ∀ {fuel' depth first acc bytes}, 3 * bytes.length ≤ fuel →
    3 * bytes.length ≤ fuel' →
    readMembers size fuel depth first acc bytes =
      readMembers size fuel' depth first acc bytes
  member : ∀ {fuel' depth acc bytes}, 3 * bytes.length ≤ fuel + 1 →
    3 * bytes.length ≤ fuel' + 1 →
    readMember size fuel depth acc bytes = readMember size fuel' depth acc bytes

namespace FuelCovers

variable {size fuel fuel' depth : Nat} {first : Bool} {bytes : Bytes}

theorem zero : FuelCovers size 0 := by
  refine ⟨?_, ?_, ?_, ?_, ?_⟩
  · intro fuel' depth bytes h _
    rw [eq_nil_of_covers h (by omega), readValue_nil, readValue_nil]
  · intro fuel' depth first acc bytes h _
    rw [eq_nil_of_covers h (by omega), readItems_nil, readItems_nil]
  · intro fuel' depth acc bytes h _
    rw [eq_nil_of_covers h (by omega), readItem_nil, readItem_nil]
  · intro fuel' depth first acc bytes h _
    rw [eq_nil_of_covers h (by omega), readMembers_nil, readMembers_nil]
  · intro fuel' depth acc bytes h _
    rw [eq_nil_of_covers h (by omega), readMember_nil, readMember_nil]

theorem value_succ (ih : FuelCovers size fuel)
    (h : 3 * bytes.length ≤ fuel + 1 + 2) (h' : 3 * bytes.length ≤ fuel' + 2) :
    readValue size (fuel + 1) depth bytes = readValue size fuel' depth bytes := by
  cases fuel' with
  | zero => rw [eq_nil_of_covers h' (by omega), readValue_nil, readValue_nil]
  | succ fuel' =>
      obtain ⟨f, hf, hhead⟩ := readValue_cases size depth bytes
      rw [hf, hf]
      cases hhead with
      | plain | badString | tooDeep => rfl
      | object hb =>
          have hlen := (behind_skipBlanks hb (by decide)).length_lt
          exact ih.members (by omega) (by omega)
      | list hb =>
          have hlen := (behind_skipBlanks hb (by decide)).length_lt
          exact ih.items (by omega) (by omega)

theorem items_succ (ih : FuelCovers size fuel) {acc : List Json}
    (h : 3 * bytes.length ≤ fuel + 1) (h' : 3 * bytes.length ≤ fuel') :
    readItems size (fuel + 1) depth first acc bytes =
      readItems size fuel' depth first acc bytes := by
  cases fuel' with
  | zero => rw [eq_nil_of_covers h' (by omega), readItems_nil, readItems_nil]
  | succ fuel' =>
      obtain ⟨f, hf, hhead⟩ := readItems_cases size depth first acc bytes
      rw [hf, hf]
      cases hhead with
      | plain => rfl
      | item hnext =>
          have hlen := hnext.length_le
          exact ih.item (by omega) (by omega)

theorem item_succ (ih : FuelCovers size fuel) {acc : List Json}
    (h : 3 * bytes.length ≤ fuel + 1 + 1) (h' : 3 * bytes.length ≤ fuel' + 1) :
    readItem size (fuel + 1) depth acc bytes =
      readItem size fuel' depth acc bytes := by
  cases fuel' with
  | zero => rw [eq_nil_of_covers h' (by omega), readItem_nil, readItem_nil]
  | succ fuel' =>
      have hvalue : readValue size fuel depth bytes =
          readValue size fuel' depth bytes := ih.value (by omega) (by omega)
      rw [readItem_succ, readItem_succ, hvalue]
      cases hv : readValue size fuel' depth bytes with
      | error e => rfl
      | ok r =>
          have hlen := ((goesForward size fuel').value hv).length_lt
          exact ih.items (by omega) (by omega)

theorem members_succ (ih : FuelCovers size fuel) {acc : Keyed Json}
    (h : 3 * bytes.length ≤ fuel + 1) (h' : 3 * bytes.length ≤ fuel') :
    readMembers size (fuel + 1) depth first acc bytes =
      readMembers size fuel' depth first acc bytes := by
  cases fuel' with
  | zero => rw [eq_nil_of_covers h' (by omega), readMembers_nil, readMembers_nil]
  | succ fuel' =>
      obtain ⟨f, hf, hhead⟩ := readMembers_cases size depth first acc bytes
      rw [hf, hf]
      cases hhead with
      | plain => rfl
      | member hnext =>
          have hlen := hnext.length_le
          exact ih.member (by omega) (by omega)

theorem member_succ (ih : FuelCovers size fuel) {acc : Keyed Json}
    (h : 3 * bytes.length ≤ fuel + 1 + 1) (h' : 3 * bytes.length ≤ fuel' + 1) :
    readMember size (fuel + 1) depth acc bytes =
      readMember size fuel' depth acc bytes := by
  cases fuel' with
  | zero => rw [eq_nil_of_covers h' (by omega), readMember_nil, readMember_nil]
  | succ fuel' =>
      obtain ⟨f, hf, hhead⟩ := readMember_cases size depth acc bytes
      rw [hf, hf]
      cases hhead with
      | plain | badKey => rfl
      | @value more rest' here key hb hk hc =>
          have hlen := ((readString_behind hk).trans
            (behind_skipBlanks hc (by decide))).length_lt
          rw [hb, List.length_cons] at h h'
          have hvalue : readValue size fuel depth here =
              readValue size fuel' depth here := ih.value (by omega) (by omega)
          dsimp only
          rw [hvalue]
          cases hv : readValue size fuel' depth here with
          | error e => rfl
          | ok r =>
              have hlen' := ((goesForward size fuel').value hv).length_lt
              exact ih.members (by omega) (by omega)

end FuelCovers

theorem fuelCovers (size fuel : Nat) : FuelCovers size fuel := by
  induction fuel with
  | zero => exact .zero
  | succ fuel ih =>
      exact ⟨ih.value_succ, ih.items_succ, ih.item_succ, ih.members_succ,
        ih.member_succ⟩

end ScreenBridge.Json
