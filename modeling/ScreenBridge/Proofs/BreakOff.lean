import ScreenBridge.Proofs.ReaderSteps

/-!
# Where a read breaks off

`Breaks` says without the reader what breaks it off: at a place where a value
begins, and up to which everything has been read, stands a string that is not
UTF-8 or, with all levels of nesting in use, one more bracket; or a key is not
UTF-8. A derivation is the way from the outside to that place. The reader
breaks off exactly at what has a derivation (`readObject_brokeOff_iff`): one
direction follows the fuel, the other the derivation, and `fuelCovers` says that
there is always enough of the former.

The derivations bound what can go wrong from the outside. Encoded text keeps
the first cause away and few brackets the second, so a text with no more than
`depthLimit` opening brackets is always read to its end or refused.
-/

namespace ScreenBridge.Json

open Text.Utf8 (IsUtf8)

/-- Where a reader stands: before a value, or in a list or an object behind its
bracket or behind a part. -/
inductive Spot where
  | value (bytes : Bytes)
  | items (first : Bool) (bytes : Bytes)
  | members (first : Bool) (bytes : Bytes)

/-- What stands before the reader. -/
def Spot.bytes : Spot → Bytes
  | .value bytes => bytes
  | .items _ bytes => bytes
  | .members _ bytes => bytes

/-- A value is read off the front. -/
def Reads (size depth : Nat) (bytes : Bytes) (v : Json) (rest : Bytes) : Prop :=
  readValue size (readFuel bytes.length) depth bytes = .ok (v, rest)

/-- A string behind its opening quote that is not UTF-8. -/
def BadString (size : Nat) (bytes : Bytes) (cause : Breakdown) : Prop :=
  ∃ content rest fault, cause = .notUtf8 fault ∧
    readContent size [] bytes = .ok (content, rest) ∧
    Text.Utf8.decode content = .error fault

/-- What breaks a read off with so many levels left. -/
inductive Breaks (size : Nat) : Nat → Spot → Breakdown → Prop where
  | string {depth : Nat} {bytes rest : Bytes} {cause : Breakdown}
      (hb : skipBlanks bytes = 0x22 :: rest) (hs : BadString size rest cause) :
      Breaks size depth (.value bytes) cause
  | tooDeep {bytes : Bytes} {b : UInt8} {rest : Bytes}
      (hb : skipBlanks bytes = b :: rest) (hopen : b = 0x7b ∨ b = 0x5b) :
      Breaks size 0 (.value bytes) .tooDeep
  | list {depth : Nat} {bytes rest : Bytes} {cause : Breakdown}
      (hb : skipBlanks bytes = 0x5b :: rest)
      (h : Breaks size depth (.items true rest) cause) :
      Breaks size (depth + 1) (.value bytes) cause
  | object {depth : Nat} {bytes rest : Bytes} {cause : Breakdown}
      (hb : skipBlanks bytes = 0x7b :: rest)
      (h : Breaks size depth (.members true rest) cause) :
      Breaks size (depth + 1) (.value bytes) cause
  | item {depth : Nat} {first : Bool} {bytes here : Bytes} {cause : Breakdown}
      (hnext : Continues 0x5d first bytes here)
      (h : Breaks size depth (.value here) cause) :
      Breaks size depth (.items first bytes) cause
  | laterItem {depth : Nat} {first : Bool} {bytes here rest : Bytes} {v : Json}
      {cause : Breakdown} (hnext : Continues 0x5d first bytes here)
      (hv : Reads size depth here v rest)
      (h : Breaks size depth (.items false rest) cause) :
      Breaks size depth (.items first bytes) cause
  | key {depth : Nat} {first : Bool} {bytes rest : Bytes} {cause : Breakdown}
      (hnext : Continues 0x7d first bytes (0x22 :: rest))
      (hs : BadString size rest cause) :
      Breaks size depth (.members first bytes) cause
  | member {depth : Nat} {first : Bool} {bytes rest rest' here : Bytes}
      {key : String} {cause : Breakdown}
      (hnext : Continues 0x7d first bytes (0x22 :: rest))
      (hk : readString size rest = .ok (key, rest'))
      (hc : skipBlanks rest' = 0x3a :: here)
      (h : Breaks size depth (.value here) cause) :
      Breaks size depth (.members first bytes) cause
  | laterMember {depth : Nat} {first : Bool} {bytes rest rest' here rest'' : Bytes}
      {key : String} {v : Json} {cause : Breakdown}
      (hnext : Continues 0x7d first bytes (0x22 :: rest))
      (hk : readString size rest = .ok (key, rest'))
      (hc : skipBlanks rest' = 0x3a :: here)
      (hv : Reads size depth here v rest'')
      (h : Breaks size depth (.members false rest'') cause) :
      Breaks size depth (.members first bytes) cause

/-! ## The reader breaks off only there -/

section
variable {size fuel depth : Nat} {bytes rest : Bytes}

theorem readValue_eq (h : 3 * bytes.length ≤ fuel + 2) :
    readValue size fuel depth bytes =
      readValue size (readFuel bytes.length) depth bytes :=
  (fuelCovers size fuel).value h (by rw [readFuel]; omega)

theorem Reads.behind {v : Json} (h : Reads size depth bytes v rest) :
    Behind bytes rest :=
  (goesForward size _).value h

theorem behind_key {first : Bool}
    (hnext : Continues 0x7d first bytes (0x22 :: rest)) : Behind bytes rest :=
  hnext.behind (.cons (by decide) rest)

theorem behind_colon {first : Bool} {rest' here : Bytes} {key : String}
    (hnext : Continues 0x7d first bytes (0x22 :: rest))
    (hk : readString size rest = .ok (key, rest'))
    (hc : skipBlanks rest' = 0x3a :: here) : Behind bytes here :=
  ((behind_key hnext).trans (readString_behind hk)).trans
    (behind_skipBlanks hc (by decide))

theorem openBracket_ascii {b : UInt8} (hopen : b = 0x7b ∨ b = 0x5b) :
    b < 0x80 := by
  rcases hopen with rfl | rfl <;> decide

theorem readValue_ok_iff {v : Json} (h : 3 * bytes.length ≤ fuel + 2) :
    readValue size fuel depth bytes = .ok (v, rest) ↔
      Reads size depth bytes v rest := by
  rw [readValue_eq h, Reads]

end

/-- With so much fuel the readers break off only where there is a derivation. -/
structure BreaksOnly (size fuel : Nat) : Prop where
  value : ∀ {depth bytes cause}, 3 * bytes.length ≤ fuel + 2 →
    readValue size fuel depth bytes = .error (.brokeOff cause) →
    Breaks size depth (.value bytes) cause
  items : ∀ {depth first acc bytes cause}, 3 * bytes.length ≤ fuel →
    readItems size fuel depth first acc bytes = .error (.brokeOff cause) →
    Breaks size depth (.items first bytes) cause
  item : ∀ {depth acc here cause}, 3 * here.length ≤ fuel + 1 →
    readItem size fuel depth acc here = .error (.brokeOff cause) →
    Breaks size depth (.value here) cause ∨ ∃ v rest,
      Reads size depth here v rest ∧ Breaks size depth (.items false rest) cause
  members : ∀ {depth first acc bytes cause}, 3 * bytes.length ≤ fuel →
    readMembers size fuel depth first acc bytes = .error (.brokeOff cause) →
    Breaks size depth (.members first bytes) cause
  member : ∀ {depth acc bytes cause}, 3 * bytes.length ≤ fuel + 1 →
    readMember size fuel depth acc bytes = .error (.brokeOff cause) →
    ∃ rest, bytes = 0x22 :: rest ∧ (BadString size rest cause ∨
      ∃ key rest' here, readString size rest = .ok (key, rest') ∧
        skipBlanks rest' = 0x3a :: here ∧
        (Breaks size depth (.value here) cause ∨ ∃ v rest'',
          Reads size depth here v rest'' ∧
          Breaks size depth (.members false rest'') cause))

namespace BreaksOnly

variable {size fuel depth : Nat} {first : Bool} {bytes here : Bytes}
  {cause : Breakdown}

theorem zero : BreaksOnly size 0 := by
  refine ⟨?_, ?_, ?_, ?_, ?_⟩
  · intro depth bytes cause _ h
    rw [readValue] at h
    cases h
  · intro depth first acc bytes cause _ h
    rw [readItems] at h
    cases h
  · intro depth acc here cause _ h
    rw [readItem] at h
    cases h
  · intro depth first acc bytes cause _ h
    rw [readMembers] at h
    cases h
  · intro depth acc bytes cause _ h
    rw [readMember] at h
    cases h

theorem value_succ (ih : BreaksOnly size fuel)
    (hlen : 3 * bytes.length ≤ fuel + 1 + 2)
    (h : readValue size (fuel + 1) depth bytes = .error (.brokeOff cause)) :
    Breaks size depth (.value bytes) cause := by
  obtain ⟨f, hf, hhead⟩ := readValue_cases size depth bytes
  rw [hf] at h
  cases hhead with
  | plain hp => exact absurd h hp.ne_brokeOff
  | badString hb hs =>
      cases h
      exact .string hb (readString_brokeOff.mp hs)
  | tooDeep hb hopen =>
      cases h
      exact .tooDeep hb hopen
  | object hb =>
      have hlt := (behind_skipBlanks hb (by decide)).length_lt
      exact .object hb (ih.members (by omega) h)
  | list hb =>
      have hlt := (behind_skipBlanks hb (by decide)).length_lt
      exact .list hb (ih.items (by omega) h)

theorem items_succ (ih : BreaksOnly size fuel) {acc : List Json}
    (hlen : 3 * bytes.length ≤ fuel + 1)
    (h : readItems size (fuel + 1) depth first acc bytes =
      .error (.brokeOff cause)) :
    Breaks size depth (.items first bytes) cause := by
  obtain ⟨f, hf, hhead⟩ := readItems_cases size depth first acc bytes
  rw [hf] at h
  cases hhead with
  | plain hp => exact absurd h hp.ne_brokeOff
  | item hnext =>
      have hle := hnext.length_le
      rcases ih.item (by omega) h with hbreak | ⟨v, rest, hv, hbreak⟩
      · exact .item hnext hbreak
      · exact .laterItem hnext hv hbreak

theorem item_succ (ih : BreaksOnly size fuel) {acc : List Json}
    (hlen : 3 * here.length ≤ fuel + 1 + 1)
    (h : readItem size (fuel + 1) depth acc here = .error (.brokeOff cause)) :
    Breaks size depth (.value here) cause ∨ ∃ v rest,
      Reads size depth here v rest ∧
        Breaks size depth (.items false rest) cause := by
  rw [readItem_succ] at h
  cases hv : readValue size fuel depth here with
  | error e =>
      rw [hv, itemResult] at h
      have he := within_brokeOff.mp (Except.error.inj h)
      exact .inl (ih.value (by omega) (hv.trans (congrArg _ he)))
  | ok r =>
      obtain ⟨v, rest⟩ := r
      have hreads := (readValue_ok_iff (by omega)).mp hv
      have hlt := hreads.behind.length_lt
      rw [hv, itemResult] at h
      exact .inr ⟨v, rest, hreads, ih.items (by omega) h⟩

theorem members_succ (ih : BreaksOnly size fuel) {acc : Keyed Json}
    (hlen : 3 * bytes.length ≤ fuel + 1)
    (h : readMembers size (fuel + 1) depth first acc bytes =
      .error (.brokeOff cause)) :
    Breaks size depth (.members first bytes) cause := by
  obtain ⟨f, hf, hhead⟩ := readMembers_cases size depth first acc bytes
  rw [hf] at h
  cases hhead with
  | plain hp => exact absurd h hp.ne_brokeOff
  | member hnext =>
      have hle := hnext.length_le
      obtain ⟨rest, rfl, hbad | ⟨key, rest', here, hk, hc, hbreak⟩⟩ :=
        ih.member (by omega) h
      · exact .key hnext hbad
      · rcases hbreak with hbreak | ⟨v, rest'', hv, hbreak⟩
        · exact .member hnext hk hc hbreak
        · exact .laterMember hnext hk hc hv hbreak

theorem member_succ (ih : BreaksOnly size fuel) {acc : Keyed Json}
    (hlen : 3 * bytes.length ≤ fuel + 1 + 1)
    (h : readMember size (fuel + 1) depth acc bytes =
      .error (.brokeOff cause)) :
    ∃ rest, bytes = 0x22 :: rest ∧ (BadString size rest cause ∨
      ∃ key rest' here, readString size rest = .ok (key, rest') ∧
        skipBlanks rest' = 0x3a :: here ∧
        (Breaks size depth (.value here) cause ∨ ∃ v rest'',
          Reads size depth here v rest'' ∧
          Breaks size depth (.members false rest'') cause)) := by
  obtain ⟨f, hf, hhead⟩ := readMember_cases size depth acc bytes
  rw [hf] at h
  cases hhead with
  | plain hp => exact absurd h hp.ne_brokeOff
  | badKey hb hs =>
      cases h
      exact ⟨_, hb, .inl (readString_brokeOff.mp hs)⟩
  | @value rest rest' here key hb hk hc =>
      have hlt := ((readString_behind hk).trans
        (behind_skipBlanks hc (by decide))).length_lt
      rw [hb, List.length_cons] at hlen
      refine ⟨rest, hb, .inr ⟨key, rest', here, hk, hc, ?_⟩⟩
      cases hv : readValue size fuel depth here with
      | error e =>
          simp only [hv, memberResult] at h
          have he := within_brokeOff.mp (Except.error.inj h)
          exact .inl (ih.value (by omega) (hv.trans (congrArg _ he)))
      | ok r =>
          obtain ⟨v, rest''⟩ := r
          have hreads := (readValue_ok_iff (by omega)).mp hv
          have hlt' := hreads.behind.length_lt
          simp only [hv, memberResult] at h
          exact .inr ⟨v, rest'', hreads, ih.members (by omega) h⟩

end BreaksOnly

theorem breaksOnly (size fuel : Nat) : BreaksOnly size fuel := by
  induction fuel with
  | zero => exact .zero
  | succ fuel ih =>
      exact ⟨ih.value_succ, ih.items_succ, ih.item_succ, ih.members_succ,
        ih.member_succ⟩

/-! ## And there it does -/

section
variable {size fuel depth : Nat} {first : Bool} {bytes here rest rest' : Bytes}

theorem readItems_of_continues (h : Continues 0x5d first bytes here)
    (acc : List Json) :
    readItems size (fuel + 1) depth first acc bytes =
      readItem size fuel depth acc here := by
  cases h with
  | first hb hne =>
      rw [readItems, hb]
      dsimp only
      rw [if_neg hne, if_pos rfl]
  | comma hb hc hne =>
      rw [readItems, hb]
      dsimp only
      rw [if_neg (by decide), if_neg Bool.false_ne_true, if_pos rfl, hc]
      dsimp only
      rw [if_neg hne]

theorem readMembers_of_continues (h : Continues 0x7d first bytes here)
    (acc : Keyed Json) :
    readMembers size (fuel + 1) depth first acc bytes =
      readMember size fuel depth acc here := by
  cases h with
  | first hb hne =>
      rw [readMembers, hb]
      dsimp only
      rw [if_neg hne, if_pos rfl]
  | comma hb hc hne =>
      rw [readMembers, hb]
      dsimp only
      rw [if_neg (by decide), if_neg Bool.false_ne_true, if_pos rfl, hc]
      dsimp only
      rw [if_neg hne]

theorem readMember_of_key {key : String}
    (hk : readString size rest = .ok (key, rest'))
    (hc : skipBlanks rest' = 0x3a :: here) (acc : Keyed Json) :
    readMember size (fuel + 1) depth acc (0x22 :: rest) =
      memberResult size fuel depth acc key (readValue size fuel depth here) := by
  simp only [readMember, hk, hc]
  cases readValue size fuel depth here <;> rfl

end

/-- Reading from a spot on breaks off, whatever was read before. -/
def Spot.BrokenOff (size depth : Nat) (cause : Breakdown) : Spot → Prop
  | .value bytes => ∀ fuel, 3 * bytes.length ≤ fuel + 2 →
    readValue size fuel depth bytes = .error (.brokeOff cause)
  | .items first bytes => ∀ fuel acc, 3 * bytes.length ≤ fuel →
    readItems size fuel depth first acc bytes = .error (.brokeOff cause)
  | .members first bytes => ∀ fuel acc, 3 * bytes.length ≤ fuel →
    readMembers size fuel depth first acc bytes = .error (.brokeOff cause)

theorem Breaks.brokenOff {size depth : Nat} {spot : Spot} {cause : Breakdown}
    (h : Breaks size depth spot cause) : spot.BrokenOff size depth cause := by
  induction h with
  | string hb hs =>
      intro fuel hlen
      have hlt := (behind_skipBlanks hb (by decide)).length_lt
      obtain ⟨fuel, rfl⟩ : ∃ n, fuel = n + 1 := ⟨fuel - 1, by omega⟩
      rw [readValue, hb]
      dsimp only
      rw [if_pos rfl, readString_brokeOff.mpr hs]
  | tooDeep hb hopen =>
      intro fuel hlen
      have hlt := (behind_skipBlanks hb (openBracket_ascii hopen)).length_lt
      obtain ⟨fuel, rfl⟩ : ∃ n, fuel = n + 1 := ⟨fuel - 1, by omega⟩
      rw [readValue, hb]
      rcases hopen with rfl | rfl <;> rfl
  | list hb _ ih =>
      intro fuel hlen
      have hlt := (behind_skipBlanks hb (by decide)).length_lt
      obtain ⟨fuel, rfl⟩ : ∃ n, fuel = n + 1 := ⟨fuel - 1, by omega⟩
      rw [readValue, hb]
      exact ih fuel [] (by omega)
  | object hb _ ih =>
      intro fuel hlen
      have hlt := (behind_skipBlanks hb (by decide)).length_lt
      obtain ⟨fuel, rfl⟩ : ∃ n, fuel = n + 1 := ⟨fuel - 1, by omega⟩
      rw [readValue, hb]
      exact ih fuel [] (by omega)
  | item hnext _ ih =>
      intro fuel acc hlen
      have hle := hnext.length_le
      have hpos := hnext.length_pos
      obtain ⟨fuel, rfl⟩ : ∃ n, fuel = n + 2 := ⟨fuel - 2, by omega⟩
      rw [readItems_of_continues hnext, readItem_succ, ih fuel (by omega)]
      rfl
  | laterItem hnext hv _ ih =>
      intro fuel acc hlen
      have hle := hnext.length_le
      have hlt := hv.behind.length_lt
      obtain ⟨fuel, rfl⟩ : ∃ n, fuel = n + 2 := ⟨fuel - 2, by omega⟩
      rw [readItems_of_continues hnext, readItem_succ,
        (readValue_ok_iff (by omega)).mpr hv]
      exact ih fuel _ (by omega)
  | key hnext hs =>
      intro fuel acc hlen
      have hlt := (behind_key hnext).length_lt
      obtain ⟨fuel, rfl⟩ : ∃ n, fuel = n + 2 := ⟨fuel - 2, by omega⟩
      rw [readMembers_of_continues hnext]
      rw [readMember, if_neg (not_not_intro rfl), readString_brokeOff.mpr hs]
  | member hnext hk hc _ ih =>
      intro fuel acc hlen
      have hlt := (behind_colon hnext hk hc).length_lt
      obtain ⟨fuel, rfl⟩ : ∃ n, fuel = n + 2 := ⟨fuel - 2, by omega⟩
      rw [readMembers_of_continues hnext, readMember_of_key hk hc,
        ih fuel (by omega)]
      rfl
  | laterMember hnext hk hc hv _ ih =>
      intro fuel acc hlen
      have hlt := (behind_colon hnext hk hc).length_lt
      have hlt' := hv.behind.length_lt
      obtain ⟨fuel, rfl⟩ : ∃ n, fuel = n + 2 := ⟨fuel - 2, by omega⟩
      rw [readMembers_of_continues hnext, readMember_of_key hk hc,
        (readValue_ok_iff (by omega)).mpr hv]
      exact ih fuel _ (by omega)

/-- A text that breaks a read off. -/
def BreaksOff (bytes : Bytes) (cause : Breakdown) : Prop :=
  Breaks bytes.length depthLimit (.value bytes) cause

theorem read_brokeOff_iff {bytes : Bytes} {cause : Breakdown} :
    read bytes = .error (.brokeOff cause) ↔ BreaksOff bytes cause := by
  have hfuel : 3 * bytes.length ≤ readFuel bytes.length + 2 := by
    rw [readFuel]
    omega
  cases hv : readValue bytes.length (readFuel bytes.length) depthLimit bytes with
  | error e =>
      simp only [read, hv, bind, Except.bind]
      constructor
      · intro h
        cases h
        exact (breaksOnly _ _).value hfuel hv
      · intro h
        rw [h.brokenOff _ hfuel] at hv
        cases hv
        rfl
  | ok r =>
      simp only [read, hv, bind, Except.bind]
      constructor
      · intro h
        split at h <;> cases h
      · intro h
        rw [h.brokenOff _ hfuel] at hv
        cases hv

theorem readObject_brokeOff_iff {bytes : Bytes} {cause : Breakdown} :
    readObject bytes = .error (.brokeOff cause) ↔ BreaksOff bytes cause := by
  rw [← read_brokeOff_iff]
  cases hr : read bytes with
  | error e =>
      simp only [readObject, hr, bind, Except.bind]
      constructor <;> intro h <;> cases h <;> rfl
  | ok v =>
      simp only [readObject, hr, bind, Except.bind]
      constructor
      · intro h
        split at h <;> cases h
      · intro h
        cases h

/-! ## Texts that are read to their end or refused -/

theorem isUtf8_skipBlanks {bytes : Bytes} (h : IsUtf8 bytes) :
    IsUtf8 (skipBlanks bytes) := by
  induction bytes with
  | nil => exact h
  | cons b bytes ih =>
      rw [skipBlanks]
      by_cases hb : isBlankByte b
      · rw [List.dropWhile_cons_of_pos hb]
        have hascii : b < 0x80 := by
          simp only [isBlankByte, Bool.or_eq_true, beq_iff_eq] at hb
          rcases hb with ((rfl | rfl) | rfl) | rfl <;> decide
        have hcons : IsUtf8 ([] ++ b :: bytes) := h
        exact ih (hcons.cut hascii).2
      · rw [List.dropWhile_cons_of_neg hb]
        exact h

theorem Continues.isUtf8 {closing : UInt8} {first : Bool} {bytes here : Bytes}
    (h : Continues closing first bytes here) (hb : IsUtf8 bytes) :
    IsUtf8 here := by
  cases h with
  | first hb' hne => exact hb' ▸ isUtf8_skipBlanks hb
  | comma hb' hc hne =>
      have hrest := (behind_skipBlanks hb' (by decide)).isUtf8 hb
      exact hc ▸ isUtf8_skipBlanks hrest

theorem not_badString {size : Nat} {bytes : Bytes} {cause : Breakdown}
    (h : IsUtf8 bytes) : ¬ BadString size bytes cause :=
  fun hs => readString_ne_brokeOff h (readString_brokeOff.mpr hs)

/-- In encoded text only the nesting breaks a read off. -/
theorem Breaks.eq_tooDeep {size depth : Nat} {spot : Spot} {cause : Breakdown}
    (h : Breaks size depth spot cause) (hutf8 : IsUtf8 spot.bytes) :
    cause = .tooDeep := by
  induction h with
  | string hb hs =>
      have hrest := (behind_skipBlanks hb (by decide)).isUtf8 hutf8
      exact absurd hs (not_badString hrest)
  | tooDeep => rfl
  | list hb _ ih => exact ih ((behind_skipBlanks hb (by decide)).isUtf8 hutf8)
  | object hb _ ih => exact ih ((behind_skipBlanks hb (by decide)).isUtf8 hutf8)
  | item hnext _ ih => exact ih (hnext.isUtf8 hutf8)
  | laterItem hnext hv _ ih => exact ih ((hnext.behind hv.behind).isUtf8 hutf8)
  | key hnext hs =>
      exact absurd hs (not_badString ((behind_key hnext).isUtf8 hutf8))
  | member hnext hk hc _ ih => exact ih ((behind_colon hnext hk hc).isUtf8 hutf8)
  | laterMember hnext hk hc hv _ ih =>
      exact ih (((behind_colon hnext hk hc).trans hv.behind).isUtf8 hutf8)

/-- How many brackets and braces open in some bytes. -/
def openings (bytes : Bytes) : Nat :=
  bytes.countP fun b => b = 0x7b ∨ b = 0x5b

section
variable {bytes here rest : Bytes}

theorem openings_le (h : rest <:+ bytes) : openings rest ≤ openings bytes :=
  h.sublist.countP_le

theorem openings_lt {b : UInt8} (hb : skipBlanks bytes = b :: rest)
    (hopen : b = 0x7b ∨ b = 0x5b) : openings rest < openings bytes := by
  have hle := openings_le (List.dropWhile_suffix isBlankByte (l := bytes))
  have hcons : openings (b :: rest) = openings rest + 1 :=
    List.countP_cons_of_pos (decide_eq_true hopen)
  rw [← skipBlanks, hb, hcons] at hle
  exact hle

theorem Continues.suffix {closing : UInt8} {first : Bool}
    (h : Continues closing first bytes here) : here <:+ bytes := by
  obtain ⟨front, rfl⟩ := h.eq_append
  exact List.suffix_append front here

end

/-- Nesting breaks a read off only where all levels are open. -/
theorem Breaks.lt_openings {size depth : Nat} {spot : Spot} {cause : Breakdown}
    (h : Breaks size depth spot cause) (hcause : cause = .tooDeep) :
    depth < openings spot.bytes := by
  induction h with
  | string _ hs =>
      obtain ⟨_, _, _, heq, -⟩ := hs
      rw [hcause] at heq
      cases heq
  | tooDeep hb hopen =>
      exact Nat.lt_of_le_of_lt (Nat.zero_le _) (openings_lt hb hopen)
  | list hb _ ih =>
      exact Nat.lt_of_le_of_lt (ih hcause) (openings_lt hb (.inr rfl))
  | object hb _ ih =>
      exact Nat.lt_of_le_of_lt (ih hcause) (openings_lt hb (.inl rfl))
  | item hnext _ ih =>
      exact Nat.lt_of_lt_of_le (ih hcause) (openings_le hnext.suffix)
  | laterItem hnext hv _ ih =>
      exact Nat.lt_of_lt_of_le (ih hcause)
        (openings_le (hnext.behind hv.behind).suffix)
  | key _ hs =>
      obtain ⟨_, _, _, heq, -⟩ := hs
      rw [hcause] at heq
      cases heq
  | member hnext hk hc _ ih =>
      exact Nat.lt_of_lt_of_le (ih hcause)
        (openings_le (behind_colon hnext hk hc).suffix)
  | laterMember hnext hk hc hv _ ih =>
      exact Nat.lt_of_lt_of_le (ih hcause)
        (openings_le ((behind_colon hnext hk hc).trans hv.behind).suffix)

end ScreenBridge.Json
