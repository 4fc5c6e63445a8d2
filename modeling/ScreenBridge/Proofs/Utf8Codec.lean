import ScreenBridge.Text.Utf8

/-!
# UTF-8 there and back

Decoding the bytes of some characters gives the characters back, so what is not
UTF-8 is not the encoding of anything. Two more facts serve the reader of JSON,
which cuts its input at quotes and brackets: an ASCII byte in encoded text is a
character of its own, so encoded text that is cut before or behind one is two
encoded texts.
-/

namespace ScreenBridge.Text.Utf8

/-! ## One character -/

section
variable {n : Nat} {b : UInt8}

theorem toNat_ofNat_of_lt (h : n < 256) : (UInt8.ofNat n).toNat = n := by
  rw [UInt8.toNat_ofNat']
  exact Nat.mod_eq_of_lt h

theorem ofNat_lt_iff (h : n < 256) : UInt8.ofNat n < b ↔ n < b.toNat := by
  rw [UInt8.lt_iff_toNat_lt, toNat_ofNat_of_lt h]

theorem le_ofNat_iff (h : n < 256) : b ≤ UInt8.ofNat n ↔ b.toNat ≤ n := by
  rw [UInt8.le_iff_toNat_le, toNat_ofNat_of_lt h]

theorem ofNat_eq_iff (h : n < 256) : UInt8.ofNat n = b ↔ n = b.toNat := by
  rw [← UInt8.toNat_inj, toNat_ofNat_of_lt h]

theorem isContinuation_ofNat (h : n < 64) :
    isContinuation (UInt8.ofNat (n + 0x80)) = true := by
  rw [isContinuation, Bool.and_eq_true, decide_eq_true_iff, decide_eq_true_iff,
    le_ofNat_iff (by omega), UInt8.le_iff_toNat_le,
    toNat_ofNat_of_lt (by omega)]
  exact ⟨by show 128 ≤ _; omega, by show _ ≤ 191; omega⟩

theorem payload_ofNat (h : n < 64) : payload (UInt8.ofNat (n + 0x80)) = n := by
  rw [payload, toNat_ofNat_of_lt (by omega)]
  omega

end

/-- The four lengths of a character, with the bounds that the decoder checks. -/
theorem decodeChar?_two {v : Nat} (hlo : 0x80 ≤ v) (hhi : v < 0x800)
    (rest : List UInt8) :
    decodeChar? (UInt8.ofNat (v / 64 % 0x20 + 0xc0) ::
      UInt8.ofNat (v % 0x40 + 0x80) :: rest) = .ok (Char.ofNat v, rest) := by
  have hlt : v / 64 % 0x20 + 0xc0 < 256 := by omega
  have h₁ : ¬ UInt8.ofNat (v / 64 % 0x20 + 0xc0) < 0x80 := by
    rw [ofNat_lt_iff hlt]
    show ¬ _ < 128
    omega
  have h₂ : ¬ UInt8.ofNat (v / 64 % 0x20 + 0xc0) < 0xc2 := by
    rw [ofNat_lt_iff hlt]
    show ¬ _ < 194
    omega
  have h₃ : UInt8.ofNat (v / 64 % 0x20 + 0xc0) < 0xe0 := by
    rw [ofNat_lt_iff hlt]
    show _ < 224
    omega
  have hv : (v / 64 % 0x20 + 0xc0) % 32 * 64 + v % 0x40 = v := by omega
  unfold decodeChar?
  dsimp only
  rw [if_neg h₁, if_neg h₂, if_pos h₃, if_pos (isContinuation_ofNat (by omega)), payload_ofNat (by omega),
    toNat_ofNat_of_lt hlt, hv]

theorem decodeChar?_three {v : Nat} (hlo : 0x800 ≤ v) (hhi : v < 0x10000)
    (hsurrogate : v < 0xd800 ∨ 0xdfff < v) (rest : List UInt8) :
    decodeChar? (UInt8.ofNat (v / 4096 % 0x10 + 0xe0) ::
      UInt8.ofNat (v / 64 % 0x40 + 0x80) :: UInt8.ofNat (v % 0x40 + 0x80) ::
      rest) = .ok (Char.ofNat v, rest) := by
  have hlt : v / 4096 % 0x10 + 0xe0 < 256 := by omega
  have hlt' : v / 64 % 0x40 + 0x80 < 256 := by omega
  have h₁ : ¬ UInt8.ofNat (v / 4096 % 0x10 + 0xe0) < 0x80 := by
    rw [ofNat_lt_iff hlt]
    show ¬ _ < 128
    omega
  have h₂ : ¬ UInt8.ofNat (v / 4096 % 0x10 + 0xe0) < 0xc2 := by
    rw [ofNat_lt_iff hlt]
    show ¬ _ < 194
    omega
  have h₃ : ¬ UInt8.ofNat (v / 4096 % 0x10 + 0xe0) < 0xe0 := by
    rw [ofNat_lt_iff hlt]
    show ¬ _ < 224
    omega
  have h₄ : UInt8.ofNat (v / 4096 % 0x10 + 0xe0) < 0xf0 := by
    rw [ofNat_lt_iff hlt]
    show _ < 240
    omega
  -- Neither an overlong form nor a surrogate.
  have h₅ : ¬ (!isContinuation (UInt8.ofNat (v / 64 % 0x40 + 0x80)) ||
      (UInt8.ofNat (v / 4096 % 0x10 + 0xe0) == 0xe0 &&
        UInt8.ofNat (v / 64 % 0x40 + 0x80) < 0xa0) ||
      (UInt8.ofNat (v / 4096 % 0x10 + 0xe0) == 0xed &&
        0xa0 ≤ UInt8.ofNat (v / 64 % 0x40 + 0x80))) = true := by
    rw [isContinuation_ofNat (by omega)]
    simp only [Bool.not_true, Bool.false_or, Bool.or_eq_true, Bool.and_eq_true,
      beq_iff_eq, decide_eq_true_iff, ofNat_eq_iff hlt, ofNat_lt_iff hlt',
      le_ofNat_iff hlt']
    show ¬ ((_ = 224 ∧ _ < 160) ∨ (_ = 237 ∧ 160 ≤ _))
    omega
  have hv : ((v / 4096 % 0x10 + 0xe0) % 16 * 64 + v / 64 % 0x40) * 64 +
      v % 0x40 = v := by omega
  unfold decodeChar?
  dsimp only
  rw [if_neg h₁, if_neg h₂, if_neg h₃, if_pos h₄, if_neg h₅, if_pos (isContinuation_ofNat (by omega)),
    payload_ofNat (by omega), payload_ofNat (by omega), toNat_ofNat_of_lt hlt,
    hv]

theorem decodeChar?_four {v : Nat} (hlo : 0x10000 ≤ v) (hhi : v < 0x110000)
    (rest : List UInt8) :
    decodeChar? (UInt8.ofNat (v / 262144 % 0x08 + 0xf0) ::
      UInt8.ofNat (v / 4096 % 0x40 + 0x80) ::
      UInt8.ofNat (v / 64 % 0x40 + 0x80) :: UInt8.ofNat (v % 0x40 + 0x80) ::
      rest) = .ok (Char.ofNat v, rest) := by
  have hlt : v / 262144 % 0x08 + 0xf0 < 256 := by omega
  have hlt' : v / 4096 % 0x40 + 0x80 < 256 := by omega
  have h₁ : ¬ UInt8.ofNat (v / 262144 % 0x08 + 0xf0) < 0x80 := by
    rw [ofNat_lt_iff hlt]
    show ¬ _ < 128
    omega
  have h₂ : ¬ UInt8.ofNat (v / 262144 % 0x08 + 0xf0) < 0xc2 := by
    rw [ofNat_lt_iff hlt]
    show ¬ _ < 194
    omega
  have h₃ : ¬ UInt8.ofNat (v / 262144 % 0x08 + 0xf0) < 0xe0 := by
    rw [ofNat_lt_iff hlt]
    show ¬ _ < 224
    omega
  have h₄ : ¬ UInt8.ofNat (v / 262144 % 0x08 + 0xf0) < 0xf0 := by
    rw [ofNat_lt_iff hlt]
    show ¬ _ < 240
    omega
  have h₅ : UInt8.ofNat (v / 262144 % 0x08 + 0xf0) < 0xf5 := by
    rw [ofNat_lt_iff hlt]
    show _ < 245
    omega
  -- Neither an overlong form nor past the last code point.
  have h₆ : ¬ (!isContinuation (UInt8.ofNat (v / 4096 % 0x40 + 0x80)) ||
      (UInt8.ofNat (v / 262144 % 0x08 + 0xf0) == 0xf0 &&
        UInt8.ofNat (v / 4096 % 0x40 + 0x80) < 0x90) ||
      (UInt8.ofNat (v / 262144 % 0x08 + 0xf0) == 0xf4 &&
        0x90 ≤ UInt8.ofNat (v / 4096 % 0x40 + 0x80))) = true := by
    rw [isContinuation_ofNat (by omega)]
    simp only [Bool.not_true, Bool.false_or, Bool.or_eq_true, Bool.and_eq_true,
      beq_iff_eq, decide_eq_true_iff, ofNat_eq_iff hlt, ofNat_lt_iff hlt',
      le_ofNat_iff hlt']
    show ¬ ((_ = 240 ∧ _ < 144) ∨ (_ = 244 ∧ 144 ≤ _))
    omega
  have h₇ : ¬ (!isContinuation (UInt8.ofNat (v / 64 % 0x40 + 0x80))) = true := by
    rw [isContinuation_ofNat (by omega)]
    exact Bool.false_ne_true
  have hv : (((v / 262144 % 0x08 + 0xf0) % 8 * 64 + v / 4096 % 0x40) * 64 +
      v / 64 % 0x40) * 64 + v % 0x40 = v := by omega
  unfold decodeChar?
  dsimp only
  rw [if_neg h₁, if_neg h₂, if_neg h₃, if_neg h₄, if_pos h₅, if_neg h₆,
    if_neg h₇, if_pos (isContinuation_ofNat (by omega)),
    payload_ofNat (by omega), payload_ofNat (by omega),
    payload_ofNat (by omega), toNat_ofNat_of_lt hlt, hv]

theorem decodeChar?_encode (c : Char) (rest : List UInt8) :
    decodeChar? (String.utf8EncodeChar c ++ rest) = .ok (c, rest) := by
  have hc : Char.ofNat c.val.toNat = c := Char.ofNat_toNat c
  have hvalid : c.val.toNat < 0xd800 ∨
      0xdfff < c.val.toNat ∧ c.val.toNat < 0x110000 := c.valid
  rw [String.utf8EncodeChar]
  generalize c.val.toNat = v at hc hvalid
  split
  · have ha : (UInt8.ofNat v).toNat = v := toNat_ofNat_of_lt (by omega)
    have hlt : UInt8.ofNat v < 0x80 := by
      rw [UInt8.lt_iff_toNat_lt, ha]
      show v < 128
      omega
    rw [List.singleton_append]
    unfold decodeChar?
    dsimp only
    rw [if_pos hlt, ha, hc]
  · split
    · exact (decodeChar?_two (by omega) (by omega) rest).trans (by rw [hc])
    · split
      · exact (decodeChar?_three (by omega) (by omega) (by omega) rest).trans
          (by rw [hc])
      · exact (decodeChar?_four (by omega) (by omega) rest).trans (by rw [hc])

/-! ## Many characters -/

theorem encodeChars_cons (c : Char) (cs : List Char) :
    encodeChars (c :: cs) = String.utf8EncodeChar c ++ encodeChars cs :=
  List.flatMap_cons

theorem decodeFrom_encode (cs : List Char) {fuel : Nat}
    (h : (encodeChars cs).length ≤ fuel) (position : Nat) (acc : List Char) :
    decodeFrom fuel position acc (encodeChars cs) = .ok (acc.reverse ++ cs) := by
  induction cs generalizing fuel position acc with
  | nil => cases fuel <;> rw [encodeChars_nil, decodeFrom, List.append_nil]
  | cons c cs ih =>
      have hchar := decodeChar?_encode c (encodeChars cs)
      rw [← encodeChars_cons] at hchar
      have hlen : (encodeChars cs).length < (encodeChars (c :: cs)).length := by
        have hpos := List.length_pos_iff.mpr (String.utf8EncodeChar_ne_nil (c := c))
        rw [encodeChars_cons, List.length_append]
        omega
      cases hbytes : encodeChars (c :: cs) with
      | nil =>
          rw [hbytes, List.length_nil] at hlen
          omega
      | cons a rest =>
          rw [hbytes] at hchar h hlen
          cases fuel with
          | zero => exact absurd h (Nat.not_succ_le_zero _)
          | succ fuel =>
              rw [decodeFrom, hchar]
              dsimp only
              rw [ih (by omega), List.reverse_cons, List.append_assoc,
                List.singleton_append]

theorem decodeChars_encodeChars (cs : List Char) : decodeChars (encodeChars cs) = .ok cs := by
  rw [decodeChars, decodeFrom_encode cs (Nat.le_refl _)]
  rfl

theorem decode_encodeChars (cs : List Char) :
    decode (encodeChars cs) = .ok (String.ofList cs) := by
  rw [decode, decodeChars_encodeChars]
  rfl

/-- Texts with the same bytes are the same. -/
theorem toList_eq_of_encode {s t : String} (h : encode s = encode t) : s.toList = t.toList := by
  have hdecode := congrArg decodeChars h
  rw [encode, encode, decodeChars_encodeChars, decodeChars_encodeChars] at hdecode
  exact Except.ok.inj hdecode

/-! ## Cutting at ASCII -/

/-- Some bytes are the encoding of a text. -/
def IsUtf8 (bytes : List UInt8) : Prop :=
  ∃ cs, bytes = encodeChars cs

theorem IsUtf8.decode {bytes : List UInt8} (h : IsUtf8 bytes) :
    ∃ s, decode bytes = .ok s := by
  obtain ⟨cs, rfl⟩ := h
  exact ⟨_, decode_encodeChars cs⟩

theorem isUtf8_encode (s : String) : IsUtf8 (encode s) := ⟨s.toList, rfl⟩

theorem IsUtf8.append {xs ys : List UInt8} (hx : IsUtf8 xs) (hy : IsUtf8 ys) :
    IsUtf8 (xs ++ ys) := by
  obtain ⟨cs, rfl⟩ := hx
  obtain ⟨ds, rfl⟩ := hy
  exact ⟨cs ++ ds, (encodeChars_append cs ds).symm⟩

theorem isUtf8_char (c : Char) : IsUtf8 (String.utf8EncodeChar c) :=
  ⟨[c], (List.append_nil _).symm.trans (encodeChars_cons c []).symm⟩

theorem isUtf8_ascii {a : UInt8} (h : a < 0x80) : IsUtf8 [a] := by
  rw [UInt8.lt_iff_toNat_lt] at h
  have hlt : a.toNat < 128 := h
  refine ⟨[Char.ofNat a.toNat], ?_⟩
  have hval : (Char.ofNat a.toNat).val.toNat = a.toNat := by
    rw [Char.ofNat, dif_pos (Or.inl (by omega))]
    rfl
  rw [encodeChars_cons, String.utf8EncodeChar, hval, if_pos (by omega),
    UInt8.ofNat_toNat]
  rfl

/-- An ASCII byte in the encoding of a character is all of it. -/
theorem utf8EncodeChar_of_ascii {c : Char} {a : UInt8} (ha : a < 0x80)
    (hmem : a ∈ String.utf8EncodeChar c) : String.utf8EncodeChar c = [a] := by
  have hlt : a.toNat < 128 := UInt8.lt_iff_toNat_lt.mp ha
  have hbig : ∀ n, 128 ≤ n → n < 256 → a ≠ UInt8.ofNat n := by
    rintro n hle hn rfl
    rw [toNat_ofNat_of_lt hn] at hlt
    omega
  rw [String.utf8EncodeChar] at hmem ⊢
  split at hmem
  · next h =>
      rw [if_pos h, List.mem_singleton.mp hmem]
  · -- All bytes of the longer forms have their highest bit set.
    exfalso
    split at hmem
    · simp only [List.mem_cons, List.not_mem_nil, or_false] at hmem
      rcases hmem with heq | heq <;> exact hbig _ (by omega) (by omega) heq
    · split at hmem
      · simp only [List.mem_cons, List.not_mem_nil, or_false] at hmem
        rcases hmem with heq | heq | heq <;>
          exact hbig _ (by omega) (by omega) heq
      · simp only [List.mem_cons, List.not_mem_nil, or_false] at hmem
        rcases hmem with heq | heq | heq | heq <;>
          exact hbig _ (by omega) (by omega) heq

/-- Encoded text is cut before and behind an ASCII byte. -/
theorem IsUtf8.cut {xs ys : List UInt8} {a : UInt8} (h : IsUtf8 (xs ++ a :: ys))
    (ha : a < 0x80) : IsUtf8 xs ∧ IsUtf8 ys := by
  obtain ⟨cs, hcs⟩ := h
  induction cs generalizing xs with
  | nil => cases xs <;> cases hcs
  | cons c cs ih =>
      rw [encodeChars_cons] at hcs
      rcases List.append_eq_append_iff.mp hcs with
        ⟨zs, hchar, hrest⟩ | ⟨zs, rfl, hrest⟩
      · cases zs with
        | nil =>
            rw [List.append_nil] at hchar
            have hcut : [] ++ a :: ys = encodeChars cs := hrest
            obtain ⟨-, hys⟩ := ih hcut
            exact ⟨hchar ▸ isUtf8_char c, hys⟩
        | cons z zs =>
            -- The byte is in the first character, so it is all of it.
            obtain ⟨rfl, rfl⟩ := List.cons.inj hrest
            have hmem : a ∈ String.utf8EncodeChar c := by
              rw [hchar]
              exact List.mem_append_right _ List.mem_cons_self
            have hone := utf8EncodeChar_of_ascii ha hmem
            rw [hchar, List.append_eq_singleton_iff] at hone
            rcases hone with ⟨rfl, hzs⟩ | ⟨-, hzs⟩
            · cases hzs
              exact ⟨⟨[], rfl⟩, ⟨cs, rfl⟩⟩
            · cases hzs
      · obtain ⟨hzs, hys⟩ := ih hrest.symm
        exact ⟨(isUtf8_char c).append hzs, hys⟩

end ScreenBridge.Text.Utf8
