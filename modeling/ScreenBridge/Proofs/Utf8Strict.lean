import ScreenBridge.Proofs.Utf8Codec

/-!
# Nothing but encoded text is decoded

The other half of the codec: the bytes that are decoded are the encoding of what they are decoded
to. The decoder refuses overlong forms, surrogates and numbers past the last code point, and that
is just what is needed for the number it puts together to be a character whose encoding has the
same length, and so the same bytes.
-/

namespace ScreenBridge.Text.Utf8

section
variable {a b c d : UInt8} {v : Nat}

theorem toNat_val_ofNat (hv : v < 0xd800 ∨ 0xdfff < v ∧ v < 0x110000) :
    (Char.ofNat v).val.toNat = v := by
  rw [Char.ofNat, dif_pos hv]
  rfl

theorem isContinuation_iff : isContinuation b = true ↔ 0x80 ≤ b.toNat ∧ b.toNat ≤ 0xbf := by
  rw [isContinuation, Bool.and_eq_true, decide_eq_true_iff, decide_eq_true_iff,
    UInt8.le_iff_toNat_le, UInt8.le_iff_toNat_le]
  rfl

theorem ofNat_eq_of_toNat (h : v = b.toNat) : UInt8.ofNat v = b := by
  rw [h, UInt8.ofNat_toNat]

theorem encode_two (ha : 0xc2 ≤ a.toNat) (ha' : a.toNat < 0xe0) (hb : isContinuation b = true) :
    String.utf8EncodeChar (Char.ofNat (a.toNat % 32 * 64 + payload b)) = [a, b] := by
  rw [isContinuation_iff] at hb
  rw [payload, String.utf8EncodeChar, toNat_val_ofNat (by omega), if_neg (by omega),
    if_pos (by omega), ofNat_eq_of_toNat (b := a) (by omega), ofNat_eq_of_toNat (b := b) (by omega)]

theorem encode_three (ha : 0xe0 ≤ a.toNat) (ha' : a.toNat < 0xf0) (hb : isContinuation b = true)
    (hlong : a.toNat = 0xe0 → 0xa0 ≤ b.toNat) (hsurrogate : a.toNat = 0xed → b.toNat < 0xa0)
    (hc : isContinuation c = true) :
    String.utf8EncodeChar (Char.ofNat ((a.toNat % 16 * 64 + payload b) * 64 + payload c)) =
      [a, b, c] := by
  rw [isContinuation_iff] at hb hc
  rw [payload, payload, String.utf8EncodeChar, toNat_val_ofNat (by omega), if_neg (by omega),
    if_neg (by omega), if_pos (by omega), ofNat_eq_of_toNat (b := a) (by omega),
    ofNat_eq_of_toNat (b := b) (by omega), ofNat_eq_of_toNat (b := c) (by omega)]

theorem encode_four (ha : 0xf0 ≤ a.toNat) (ha' : a.toNat < 0xf5) (hb : isContinuation b = true)
    (hlong : a.toNat = 0xf0 → 0x90 ≤ b.toNat) (hpast : a.toNat = 0xf4 → b.toNat < 0x90)
    (hc : isContinuation c = true) (hd : isContinuation d = true) :
    String.utf8EncodeChar (Char.ofNat
      (((a.toNat % 8 * 64 + payload b) * 64 + payload c) * 64 + payload d)) = [a, b, c, d] := by
  rw [isContinuation_iff] at hb hc hd
  rw [payload, payload, payload, String.utf8EncodeChar, toNat_val_ofNat (by omega),
    if_neg (by omega), if_neg (by omega), if_neg (by omega), ofNat_eq_of_toNat (b := a) (by omega),
    ofNat_eq_of_toNat (b := b) (by omega), ofNat_eq_of_toNat (b := c) (by omega),
    ofNat_eq_of_toNat (b := d) (by omega)]

end

/-- One decoded character stood there encoded. -/
theorem decodeChar?_eq_ok {bytes rest : List UInt8} {ch : Char}
    (h : decodeChar? bytes = .ok (ch, rest)) : bytes = String.utf8EncodeChar ch ++ rest := by
  unfold decodeChar? at h
  simp only [UInt8.lt_iff_toNat_lt, UInt8.le_iff_toNat_le, ← UInt8.toNat_inj, UInt8.reduceToNat,
    beq_iff_eq, Bool.or_eq_true, Bool.and_eq_true, Bool.not_eq_true', decide_eq_true_iff] at h
  split at h
  · cases h
  · next a more =>
      -- One case for each length; what is refused in front of a case gives its bounds.
      split at h
      · next hascii =>
          cases h
          rw [String.utf8EncodeChar, toNat_val_ofNat (by omega), if_pos (by omega),
            UInt8.ofNat_toNat]
          rfl
      split at h
      · cases h
      split at h
      · split at h
        · cases h
        · next b more =>
            split at h
            · next hb =>
                cases h
                rw [encode_two (by omega) (by omega) hb]
                rfl
            · cases h
      split at h
      · split at h
        · cases h
        · next b more =>
            split at h
            · cases h
            · next hb =>
                split at h
                · cases h
                · next c more =>
                    split at h
                    · next hc =>
                        cases h
                        rw [not_or, not_or, Bool.not_eq_false] at hb
                        rw [encode_three (by omega) (by omega) hb.1.1 (by omega) (by omega) hc]
                        rfl
                    · cases h
      split at h
      · split at h
        · cases h
        · next b more =>
            split at h
            · cases h
            · next hb =>
                split at h
                · cases h
                · next c more =>
                    split at h
                    · cases h
                    · next hc =>
                        split at h
                        · cases h
                        · next d more =>
                            split at h
                            · next hd =>
                                cases h
                                rw [not_or, not_or, Bool.not_eq_false] at hb
                                rw [Bool.not_eq_false] at hc
                                rw [encode_four (by omega) (by omega) hb.1.1 (by omega)
                                  (by omega) hc hd]
                                rfl
                            · cases h
      · cases h

theorem decodeFrom_eq_ok {fuel position : Nat} {acc cs : List Char} {bytes : List UInt8}
    (hfuel : bytes.length ≤ fuel) (h : decodeFrom fuel position acc bytes = .ok cs) :
    ∃ ds, cs = acc.reverse ++ ds ∧ bytes = encodeChars ds := by
  induction fuel generalizing position acc bytes with
  | zero =>
      cases h
      exact ⟨[], (List.append_nil _).symm, List.eq_nil_of_length_eq_zero (Nat.le_zero.mp hfuel)⟩
  | succ fuel ih =>
      cases bytes with
      | nil =>
          cases h
          exact ⟨[], (List.append_nil _).symm, rfl⟩
      | cons a rest =>
          rw [decodeFrom] at h
          split at h
          · cases h
          · next c left hchar =>
              have hbytes := decodeChar?_eq_ok hchar
              have hpos := List.length_pos_iff.mpr (String.utf8EncodeChar_ne_nil (c := c))
              have hlen := congrArg List.length hbytes
              rw [List.length_cons, List.length_append] at hlen
              rw [List.length_cons] at hfuel
              obtain ⟨ds, rfl, rfl⟩ := ih (by omega) h
              refine ⟨c :: ds, ?_, by rw [hbytes, encodeChars_cons]⟩
              rw [List.reverse_cons, List.append_assoc, List.singleton_append]

/-- Bytes are decoded to a text exactly if they are its encoding. -/
theorem decode_eq_ok_iff {bytes : List UInt8} {s : String} :
    decode bytes = .ok s ↔ bytes = encode s := by
  constructor
  · intro h
    cases hcs : decodeChars bytes with
    | error fault =>
        rw [decode, hcs] at h
        cases h
    | ok cs =>
        obtain ⟨ds, rfl, rfl⟩ := decodeFrom_eq_ok (Nat.le_refl _) hcs
        rw [decode, hcs] at h
        cases h
        rw [encode, String.toList_ofList]
  · rintro rfl
    rw [encode, decode_encodeChars, String.ofList_toList]

end ScreenBridge.Text.Utf8
