import ScreenBridge.Json.Reader
import ScreenBridge.Proofs.Utf8Codec

/-!
# The reader goes forward

Whatever the reader takes off the front of its input ends with an ASCII byte: a
closing quote or bracket, a digit, the last letter of a word. `Behind` says so
of two inputs, and it is all that later proofs need to know of what was read.
It makes the rest a shorter suffix, so the fuel of `readFuel` is enough, and by
the cut of `Utf8Codec.lean` it keeps encoded text encoded text.
-/

namespace ScreenBridge.Json

open Text.Utf8 (IsUtf8 isUtf8_ascii isUtf8_char)

/-- `rest` is what is left of `bytes` behind an ASCII byte. -/
def Behind (bytes rest : Bytes) : Prop :=
  ∃ front a, a < 0x80 ∧ bytes = front ++ a :: rest

namespace Behind

variable {bytes rest rest' : Bytes}

theorem length_lt (h : Behind bytes rest) : rest.length < bytes.length := by
  obtain ⟨front, a, -, rfl⟩ := h
  rw [List.length_append, List.length_cons]
  omega

theorem suffix (h : Behind bytes rest) : rest <:+ bytes := by
  obtain ⟨front, a, -, rfl⟩ := h
  exact ⟨front ++ [a], by rw [List.append_assoc, List.singleton_append]⟩

theorem isUtf8 (h : Behind bytes rest) (hb : IsUtf8 bytes) : IsUtf8 rest := by
  obtain ⟨front, a, ha, rfl⟩ := h
  exact (hb.cut ha).2

theorem cons {a : UInt8} (ha : a < 0x80) (rest : Bytes) : Behind (a :: rest) rest :=
  ⟨[], a, ha, rfl⟩

theorem append_left (h : Behind bytes rest) (front : Bytes) :
    Behind (front ++ bytes) rest := by
  obtain ⟨front', a, ha, rfl⟩ := h
  exact ⟨front ++ front', a, ha, by rw [List.append_assoc]⟩

theorem trans (h : Behind bytes rest) (h' : Behind rest rest') :
    Behind bytes rest' := by
  obtain ⟨front, a, -, rfl⟩ := h
  have hcons := h'.append_left (front ++ [a])
  rwa [List.append_assoc, List.singleton_append] at hcons

theorem of_cons {a : UInt8} (h : Behind bytes rest) : Behind (a :: bytes) rest :=
  h.append_left [a]

end Behind

section
variable {size : Nat} {bytes rest content : Bytes}

theorem skipBlanks_eq (bytes : Bytes) :
    ∃ blanks, bytes = blanks ++ skipBlanks bytes :=
  ⟨bytes.takeWhile isBlankByte, List.takeWhile_append_dropWhile.symm⟩

theorem Behind.of_skipBlanks (h : Behind (skipBlanks bytes) rest) :
    Behind bytes rest := by
  obtain ⟨blanks, heq⟩ := skipBlanks_eq bytes
  rw [heq]
  exact h.append_left blanks

theorem behind_skipBlanks {b : UInt8} (hb : skipBlanks bytes = b :: rest)
    (hascii : b < 0x80) : Behind bytes rest :=
  .of_skipBlanks (hb ▸ .cons hascii rest)

/-! ## Strings -/

theorem hexValue?_ascii {b : UInt8} {v : Nat} (h : hexValue? b = some v) :
    b < 0x80 := by
  rw [UInt8.lt_iff_toNat_lt]
  show b.toNat < 128
  rw [hexValue?] at h
  split at h
  · next hd =>
      rw [isDigitByte, Bool.and_eq_true, decide_eq_true_iff,
        decide_eq_true_iff, UInt8.le_iff_toNat_le, UInt8.le_iff_toNat_le] at hd
      have hle : b.toNat ≤ 57 := hd.2
      omega
  · split at h
    · next hd =>
        have hle : b.toNat ≤ 102 := UInt8.le_iff_toNat_le.mp hd.2
        omega
    · split at h
      · next hd =>
          have hle : b.toNat ≤ 70 := UInt8.le_iff_toNat_le.mp hd.2
          omega
      · cases h

theorem readUnit_ascii {a b c d : UInt8} {n : Nat}
    (h : readUnit size a b c d rest = .ok n) :
    a < 0x80 ∧ b < 0x80 ∧ c < 0x80 ∧ d < 0x80 := by
  rw [readUnit] at h
  split at h
  · cases h
  · next ha =>
      split at h
      · cases h
      · next hb =>
          split at h
          · cases h
          · next hc =>
              split at h
              · cases h
              · next hd =>
                  exact ⟨hexValue?_ascii ha, hexValue?_ascii hb,
                    hexValue?_ascii hc, hexValue?_ascii hd⟩

theorem readUnit_ne_brokeOff {a b c d : UInt8} {cause : Breakdown} :
    readUnit size a b c d rest ≠ .error (.brokeOff cause) := by
  intro h
  rw [readUnit] at h
  repeat' split at h
  all_goals cases h

theorem readContent_ne_brokeOff {acc : Bytes} {cause : Breakdown} :
    readContent size acc bytes ≠ .error (.brokeOff cause) := by
  intro h
  fun_induction readContent size acc bytes
  case case4 ih => exact ih h
  case case6 hu => cases h; exact readUnit_ne_brokeOff hu
  case case8 hu _ => cases h; exact readUnit_ne_brokeOff hu
  case case9 ih => exact ih h
  case case13 ih => exact ih h
  case case15 ih => exact ih h
  all_goals cases h

theorem readContent_behind {acc : Bytes}
    (h : readContent size acc bytes = .ok (content, rest)) :
    Behind bytes rest := by
  fun_induction readContent size acc bytes
  case case2 =>
    cases h
    exact .cons (by decide) rest
  case case4 ih => exact (ih h).of_cons
  case case9 ih => exact (ih h).append_left [_, _, _, _, _, _, _, _, _, _, _, _]
  case case13 ih => exact (ih h).append_left [_, _, _, _, _, _]
  case case15 ih => exact (ih h).append_left [_, _]
  all_goals cases h

theorem shortEscape?_ascii {e b : UInt8} (h : shortEscape? e = some b) :
    e < 0x80 ∧ b < 0x80 := by
  rw [shortEscape?] at h
  split at h
  · next he =>
      cases h
      rcases he with rfl | rfl | rfl <;> exact ⟨by decide, by decide⟩
  · repeat' split at h
    all_goals
      cases h <;> subst e <;> exact ⟨by decide, by decide⟩

theorem reverse_pushChar (n : Nat) (acc : Bytes) :
    (pushChar n acc).reverse = acc.reverse ++ String.utf8EncodeChar (Char.ofNat n) := by
  rw [pushChar, List.reverse_append, List.reverse_reverse]

/-- An escape stands for a character, whatever was read before it. -/
theorem isUtf8_escape {acc escaped : Bytes} {last : UInt8} (front : Bytes)
    (h : IsUtf8 (acc.reverse ++ (0x5c :: (front ++ last :: rest))))
    (hlast : last < 0x80) (hescaped : IsUtf8 escaped) :
    IsUtf8 (acc.reverse ++ escaped ++ rest) := by
  have hacc := (h.cut (by decide)).1
  have hrest := (h.cut (by decide)).2
  exact (hacc.append hescaped).append (hrest.cut hlast).2

/-- Encoded text in quotes stands for encoded text. -/
theorem readContent_isUtf8 {acc : Bytes}
    (h : readContent size acc bytes = .ok (content, rest))
    (hutf8 : IsUtf8 (acc.reverse ++ bytes)) : IsUtf8 content := by
  fun_induction readContent size acc bytes
  case case2 =>
    cases h
    exact (hutf8.cut (by decide)).1
  case case4 ih =>
    refine ih h ?_
    rwa [List.reverse_cons, List.append_assoc, List.singleton_append]
  case case9 acc bs _ _ hbs a b c d _ _ _ a' b' c' d' _ _ hu' _ n hu ih =>
    refine ih h ?_
    obtain rfl : bs = 0x5c := Classical.not_not.mp hbs
    rw [reverse_pushChar]
    exact isUtf8_escape [0x75, a, b, c, d, 0x5c, 0x75, a', b', c'] hutf8
      (readUnit_ascii hu').2.2.2 (isUtf8_char _)
  case case13 acc bs _ _ hbs a b c d _ _ hu _ _ ih =>
    refine ih h ?_
    obtain rfl : bs = 0x5c := Classical.not_not.mp hbs
    rw [reverse_pushChar]
    exact isUtf8_escape [0x75, a, b, c] hutf8
      (readUnit_ascii hu).2.2.2 (isUtf8_char _)
  case case15 acc bs _ _ hbs e _ _ _ b he ih =>
    refine ih h ?_
    obtain rfl : bs = 0x5c := Classical.not_not.mp hbs
    obtain ⟨hlast, hb⟩ := shortEscape?_ascii he
    rw [List.reverse_cons]
    exact isUtf8_escape [] hutf8 hlast (isUtf8_ascii hb)
  all_goals cases h

theorem readString_ok {s : String} (h : readString size bytes = .ok (s, rest)) :
    ∃ content, readContent size [] bytes = .ok (content, rest) ∧
      Text.Utf8.decode content = .ok s := by
  cases hc : readContent size [] bytes with
  | error e =>
      rw [readString, hc] at h
      cases h
  | ok r =>
      obtain ⟨content, rest'⟩ := r
      simp only [readString, hc, bind, Except.bind] at h
      split at h
      · next hd =>
          cases h
          exact ⟨content, rfl, hd⟩
      · cases h

theorem readString_brokeOff {cause : Breakdown} :
    readString size bytes = .error (.brokeOff cause) ↔
      ∃ content rest fault, cause = .notUtf8 fault ∧
        readContent size [] bytes = .ok (content, rest) ∧
        Text.Utf8.decode content = .error fault := by
  cases hc : readContent size [] bytes with
  | error e =>
      simp only [readString, hc, bind, Except.bind]
      constructor
      · intro h
        cases h
        exact absurd hc readContent_ne_brokeOff
      · rintro ⟨_, _, _, -, h, -⟩
        cases h
  | ok r =>
      obtain ⟨content, rest⟩ := r
      simp only [readString, hc, bind, Except.bind]
      split
      · next hd =>
          constructor
          · intro h
            cases h
          · rintro ⟨_, _, _, -, h, hd'⟩
            cases h
            rw [hd] at hd'
            cases hd'
      · next fault hd =>
          constructor
          · intro h
            cases h
            exact ⟨content, rest, fault, rfl, rfl, hd⟩
          · rintro ⟨_, _, _, rfl, h, hd'⟩
            cases h
            rw [hd] at hd'
            cases hd'
            rfl

theorem readString_behind {s : String} (h : readString size bytes = .ok (s, rest)) :
    Behind bytes rest := by
  obtain ⟨content, hc, -⟩ := readString_ok h
  exact readContent_behind hc

/-- A string in encoded text can be decoded. -/
theorem readString_ne_brokeOff (hutf8 : IsUtf8 bytes) {cause : Breakdown} :
    readString size bytes ≠ .error (.brokeOff cause) := by
  intro h
  obtain ⟨content, rest, fault, -, hc, hd⟩ := readString_brokeOff.mp h
  obtain ⟨s, hs⟩ := (readContent_isUtf8 hc hutf8).decode
  rw [hs] at hd
  cases hd

/-! ## Numbers and words -/

theorem isDigitByte_ascii {b : UInt8} (h : isDigitByte b) : b < 0x80 := by
  rw [isDigitByte, Bool.and_eq_true, decide_eq_true_iff, decide_eq_true_iff] at h
  exact UInt8.lt_of_le_of_lt h.2 (by decide)

/-- Digits end with a digit. -/
theorem behind_digits {b : UInt8} (hb : isDigitByte b) (bytes : Bytes) :
    Behind (b :: bytes) (bytes.dropWhile isDigitByte) := by
  induction bytes generalizing b with
  | nil => exact .cons (isDigitByte_ascii hb) []
  | cons c bytes ih =>
      by_cases hc : isDigitByte c
      · rw [List.dropWhile_cons_of_pos hc]
        exact (ih hc).of_cons
      · rw [List.dropWhile_cons_of_neg hc]
        exact .cons (isDigitByte_ascii hb) _

theorem behind_dropWhile (hne : (bytes.takeWhile isDigitByte).isEmpty = false) :
    Behind bytes (bytes.dropWhile isDigitByte) := by
  cases bytes with
  | nil => cases hne
  | cons b bytes =>
      by_cases hb : isDigitByte b
      · rw [List.dropWhile_cons_of_pos hb]
        exact behind_digits hb bytes
      · rw [List.takeWhile_cons_of_neg hb] at hne
        cases hne

theorem readFraction_spec {fraction : Option Bytes}
    (h : readFraction size bytes = .ok (fraction, rest)) :
    rest = bytes ∨ Behind bytes rest := by
  rw [readFraction.eq_def] at h
  split at h
  · next more =>
      dsimp only at h
      split at h
      · cases h
      · next hne =>
          cases h
          exact .inr (behind_dropWhile (Bool.not_eq_true _ ▸ hne)).of_cons
  · cases h
    exact .inl rfl

theorem splitSign_eq (bytes : Bytes) :
    ∃ front, bytes = front ++ (splitSign bytes).2 := by
  rw [splitSign.eq_def]
  split
  · exact ⟨[_], rfl⟩
  · exact ⟨[_], rfl⟩
  · exact ⟨[], rfl⟩

theorem readExponent_spec {power : Option Int}
    (h : readExponent size bytes = .ok (power, rest)) :
    rest = bytes ∨ Behind bytes rest := by
  cases bytes with
  | nil =>
      cases h
      exact .inl rfl
  | cons b bytes =>
      rw [readExponent] at h
      split at h
      · obtain ⟨front, heq⟩ := splitSign_eq bytes
        dsimp only at h
        split at h
        · cases h
        · next hne =>
            cases h
            have hbehind := (behind_dropWhile
              (Bool.not_eq_true _ ▸ hne)).append_left front
            rw [← heq] at hbehind
            exact .inr hbehind.of_cons
      · cases h
        exact .inl rfl

theorem readFraction_ne_brokeOff {cause : Breakdown} :
    readFraction size bytes ≠ .error (.brokeOff cause) := by
  intro h
  rw [readFraction.eq_def] at h
  dsimp only at h
  repeat' split at h
  all_goals cases h

theorem readExponent_ne_brokeOff {cause : Breakdown} :
    readExponent size bytes ≠ .error (.brokeOff cause) := by
  intro h
  rw [readExponent.eq_def] at h
  dsimp only at h
  repeat' split at h
  all_goals cases h

theorem readUnsigned_behind {negative : Bool} {v : Json}
    (hdigit : (bytes.takeWhile isDigitByte).isEmpty = false)
    (h : readUnsigned size negative bytes = .ok (v, rest)) :
    Behind bytes rest := by
  have hwhole := behind_dropWhile hdigit
  rw [readUnsigned] at h
  dsimp only at h
  split at h
  · cases h
  · cases hf : readFraction size (bytes.dropWhile isDigitByte) with
    | error e =>
        rw [hf] at h
        cases h
    | ok r =>
        obtain ⟨fraction, rest₁⟩ := r
        cases he : readExponent size rest₁ with
        | error e =>
            simp only [hf, he, bind, Except.bind] at h
            cases h
        | ok r =>
            obtain ⟨power, rest₂⟩ := r
            simp only [hf, he, bind, Except.bind] at h
            have hrest : rest = rest₂ := by
              repeat' split at h
              all_goals cases h
              all_goals rfl
            subst hrest
            have h₁ : Behind bytes rest₁ := by
              rcases readFraction_spec hf with rfl | hb
              · exact hwhole
              · exact hwhole.trans hb
            rcases readExponent_spec he with rfl | hb
            · exact h₁
            · exact h₁.trans hb

theorem readUnsigned_ne_brokeOff {negative : Bool} {cause : Breakdown} :
    readUnsigned size negative bytes ≠ .error (.brokeOff cause) := by
  intro h
  rw [readUnsigned] at h
  dsimp only at h
  split at h
  · cases h
  · cases hf : readFraction size (bytes.dropWhile isDigitByte) with
    | error e =>
        rw [hf] at h
        cases h
        exact readFraction_ne_brokeOff hf
    | ok r =>
        obtain ⟨fraction, rest₁⟩ := r
        cases he : readExponent size rest₁ with
        | error e =>
            simp only [hf, he, bind, Except.bind] at h
            cases h
            exact readExponent_ne_brokeOff he
        | ok r =>
            simp only [hf, he, bind, Except.bind] at h
            repeat' split at h
            all_goals cases h

theorem readNumber_behind {b : UInt8} {v : Json}
    (hb : (isDigitByte b || b == 0x2d) = true)
    (h : readNumber size (b :: bytes) = .ok (v, rest)) :
    Behind (b :: bytes) rest := by
  rw [readNumber.eq_def] at h
  split at h
  · next more heq =>
      cases heq
      split at h
      · cases h
      · next d more =>
          split at h
          · next hd =>
              refine .of_cons (readUnsigned_behind ?_ h)
              rw [List.takeWhile_cons_of_pos hd]
              rfl
          · cases h
  · next hne =>
      have hd : isDigitByte b = true := by
        rcases Bool.or_eq_true_iff.mp hb with hd | hminus
        · exact hd
        · exact absurd (by rw [beq_iff_eq.mp hminus]) (hne bytes)
      refine readUnsigned_behind ?_ h
      rw [List.takeWhile_cons_of_pos hd]
      rfl

theorem readNumber_ne_brokeOff {cause : Breakdown} :
    readNumber size bytes ≠ .error (.brokeOff cause) := by
  intro h
  rw [readNumber.eq_def] at h
  split at h
  · split at h
    · cases h
    · split at h
      · exact readUnsigned_ne_brokeOff h
      · cases h
  · exact readUnsigned_ne_brokeOff h

theorem readWord_behind {letters front : Bytes} {last : UInt8} {v v' : Json}
    (hletters : letters = front ++ [last]) (hlast : last < 0x80)
    (h : readWord size letters v bytes = .ok (v', rest)) : Behind bytes rest := by
  rw [readWord] at h
  split at h
  · cases h
  · split at h
    · next htake =>
        cases h
        refine ⟨front, last, hlast, ?_⟩
        have hsplit := List.take_append_drop letters.length bytes
        rw [htake, hletters, List.append_assoc, List.singleton_append] at hsplit
        rw [hletters]
        exact hsplit.symm
    · cases h

theorem readWord_ne_brokeOff {letters : Bytes} {v : Json} {cause : Breakdown} :
    readWord size letters v bytes ≠ .error (.brokeOff cause) := by
  intro h
  rw [readWord] at h
  repeat' split at h
  all_goals cases h

end

end ScreenBridge.Json
