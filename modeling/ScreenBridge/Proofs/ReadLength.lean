import ScreenBridge.Proofs.ReaderSteps
import ScreenBridge.Proofs.TextLength
import ScreenBridge.Proofs.Utf8Strict

/-!
# What is read weighs no more than its bytes

What a value is read from takes at least its weight, so a value says how long its text was at
least, whatever blanks and escapes stood in it. For a string this is because every character is
written in its shortest way, for a number because few digits are read back as few digits, and for
a list or an object because each part has a sign of its own behind it. Members that are replaced
by later ones only make an object lighter.
-/

namespace ScreenBridge.Json

open Number (Binary64 Layout)
open Text.Utf8 (encodeChars encodeChars_append encodeChars_cons encodeChars_nil)

/-! ## Strings -/

/-- The bytes that a byte of a string takes in quotes. -/
def escapedLength (b : UInt8) : Nat :=
  if b < 0x80 then (encodeChars (quotedChar (Char.ofNat b.toNat))).length else 1

def escapedLengths (bs : Bytes) : Nat :=
  (bs.map escapedLength).sum

theorem escapedLengths_cons (b : UInt8) (bs : Bytes) :
    escapedLengths (b :: bs) = escapedLength b + escapedLengths bs :=
  List.sum_cons

theorem escapedLengths_append (bs bs' : Bytes) :
    escapedLengths (bs ++ bs') = escapedLengths bs + escapedLengths bs' := by
  rw [escapedLengths, List.map_append, List.sum_append]
  rfl

theorem escapedLengths_reverse (bs : Bytes) : escapedLengths bs.reverse = escapedLengths bs := by
  rw [escapedLengths, List.map_reverse, List.sum_reverse]
  rfl

theorem quotedChar_of_raw {c : Char} (hquote : c ≠ '"') (hslash : c ≠ '\\')
    (hcontrol : ¬ c.toNat < 0x20) : quotedChar c = [c] := by
  have hne : ∀ d : Char, d.toNat < 0x20 → c ≠ d := by
    rintro d hd rfl
    exact hcontrol hd
  rw [quotedChar, if_neg hquote, if_neg hslash, if_neg (hne _ (by decide)),
    if_neg (hne _ (by decide)), if_neg (hne _ (by decide)), if_neg (hne _ (by decide)),
    if_neg (hne _ (by decide)), if_neg hcontrol]

/-- A character takes as many bytes in quotes as its bytes do. -/
theorem length_quotedChar (c : Char) :
    (encodeChars (quotedChar c)).length = escapedLengths (String.utf8EncodeChar c) := by
  by_cases h : c.toNat < 0x80
  · have hbyte : (UInt8.ofNat c.toNat).toNat = c.toNat := Text.Utf8.toNat_ofNat_of_lt (by omega)
    have hlt : UInt8.ofNat c.toNat < 0x80 := by
      rw [UInt8.lt_iff_toNat_lt, hbyte]
      exact h
    rw [encode_ascii h, escapedLengths, List.map_singleton, List.sum_singleton, escapedLength,
      if_pos hlt, hbyte, Char.ofNat_toNat]
  · have hone : ∀ b ∈ String.utf8EncodeChar c, escapedLength b = 1 := by
      intro b hb
      refine if_neg fun hlt => h ?_
      rw [eq_of_ascii_mem hlt hb, toNat_ofNat_of_ascii (UInt8.lt_iff_toNat_lt.mp hlt)]
      exact UInt8.lt_iff_toNat_lt.mp hlt
    have hraw : quotedChar c = [c] :=
      quotedChar_of_raw (fun heq => h (heq ▸ by decide)) (fun heq => h (heq ▸ by decide))
        fun hlt => h (Nat.lt_trans hlt (by decide))
    rw [hraw, encodeChars_cons, encodeChars_nil, List.append_nil, escapedLengths,
      List.map_congr_left hone, List.map_const', List.sum_replicate_nat, Nat.mul_one]

theorem contentLength_eq (cs : List Char) :
    contentLength cs = escapedLengths (encodeChars cs) := by
  induction cs with
  | nil => rfl
  | cons c cs ih =>
      rw [contentLength] at ih ⊢
      rw [List.flatMap_cons, encodeChars_append, List.length_append, length_quotedChar, ih,
        encodeChars_cons, escapedLengths_append]

theorem length_quotedChar_le (c : Char) : (encodeChars (quotedChar c)).length ≤ 6 := by
  have hone : (encodeChars [c]).length ≤ 6 := by
    rw [encodeChars_cons, encodeChars_nil, List.append_nil, String.length_utf8EncodeChar]
    exact Nat.le_trans c.utf8Size_le_four (by decide)
  have hescape : c.toNat < 0x20 → (encodeChars (unicodeEscape c)).length ≤ 6 := by
    intro hcontrol
    have hhigh : c.toNat / 16 < 16 := by omega
    have hlow : c.toNat % 16 < 16 := by omega
    rw [unicodeEscape]
    simp only [encodeChars_cons, encode_digitChar _ hhigh, encode_digitChar _ hlow]
    exact Nat.le_refl _
  unfold quotedChar
  repeat' split
  any_goals decide
  · next hcontrol => exact hescape hcontrol
  · exact hone

section
variable {size : Nat} {bytes rest content : Bytes}

theorem escapedLength_raw {b : UInt8} (hquote : ¬ b = 0x22) (hcontrol : ¬ b < 0x20)
    (hslash : b ≠ 0x5c) : escapedLength b = 1 := by
  unfold escapedLength
  split
  · next hascii =>
      have hlt := UInt8.lt_iff_toNat_lt.mp hascii
      have hnat := toNat_ofNat_of_ascii hlt
      have hne : ∀ d : UInt8, b ≠ d → (Char.ofNat b.toNat).toNat ≠ d.toNat := by
        intro d hd heq
        exact hd (UInt8.toNat_inj.mp (hnat.symm.trans heq))
      rw [quotedChar_of_raw]
      · rw [encodeChars_cons, encode_ascii (by rw [hnat]; exact hlt)]
        rfl
      · exact fun heq => hne 0x22 hquote (congrArg Char.toNat heq)
      · exact fun heq => hne 0x5c hslash (congrArg Char.toNat heq)
      · rw [hnat]
        exact fun hlt' => hcontrol (UInt8.lt_iff_toNat_lt.mpr hlt')
  · rfl

theorem escapedLength_shortEscape {e b : UInt8} (h : shortEscape? e = some b) :
    escapedLength b ≤ 2 := by
  rw [shortEscape?] at h
  split at h
  · next he =>
      cases h
      rcases he with rfl | rfl | rfl <;> decide
  · repeat' split at h
    all_goals cases h <;> decide

theorem escapedLengths_pushChar (n : Nat) (acc : Bytes) :
    escapedLengths (pushChar n acc) ≤ escapedLengths acc + 6 := by
  have hle := length_quotedChar_le (Char.ofNat n)
  rw [length_quotedChar] at hle
  rw [pushChar, escapedLengths_append, escapedLengths_reverse]
  omega

/-- What stands in quotes takes as many bytes there as it needs. -/
theorem escapedLengths_readContent {acc : Bytes}
    (h : readContent size acc bytes = .ok (content, rest)) :
    escapedLengths content + rest.length < escapedLengths acc + bytes.length := by
  fun_induction readContent size acc bytes
  case case2 =>
    cases h
    rw [escapedLengths_reverse]
    exact Nat.lt_succ_self _
  case case4 acc b rest hquote hcontrol hslash ih =>
    have hrest := ih h
    have hone := escapedLength_raw hquote hcontrol hslash
    rw [escapedLengths_cons, hone] at hrest
    rw [List.length_cons]
    omega
  case case9 ih =>
    refine (ih h).trans_le ((Nat.add_le_add_right (escapedLengths_pushChar _ _) _).trans ?_)
    simp only [List.length_cons]
    omega
  case case13 ih =>
    refine (ih h).trans_le ((Nat.add_le_add_right (escapedLengths_pushChar _ _) _).trans ?_)
    simp only [List.length_cons]
    omega
  case case15 acc _ _ _ _ e rest _ _ b he ih =>
    have hrest := ih h
    have htwo := escapedLength_shortEscape he
    rw [escapedLengths_cons] at hrest
    simp only [List.length_cons]
    omega
  all_goals cases h

/-- A string takes as many bytes as its text, which is the shortest for it. -/
theorem quotedLength_readString {s : String} (h : readString size bytes = .ok (s, rest)) :
    quotedLength s + rest.length ≤ bytes.length + 1 := by
  obtain ⟨content, hcontent, hdecode⟩ := readString_ok h
  have hlen := escapedLengths_readContent hcontent
  rw [Text.Utf8.decode_eq_ok_iff.mp hdecode, Text.Utf8.encode] at hlen
  rw [quotedLength_eq, contentLength_eq]
  have hnil : escapedLengths [] = 0 := rfl
  omega

end

/-! ## Numbers -/

section
variable {size : Nat} {bytes rest : Bytes}

theorem isDigitByte_toNat_le {b : UInt8} (h : isDigitByte b = true) : b.toNat ≤ 57 := by
  rw [isDigitByte, Bool.and_eq_true, decide_eq_true_iff, decide_eq_true_iff] at h
  exact UInt8.le_iff_toNat_le.mp h.2

theorem digitsValue_lt {ds : Bytes} (hds : ∀ d ∈ ds, isDigitByte d = true) :
    digitsValue ds < 10 ^ ds.length := by
  have hfold : ∀ n, ds.foldl (fun n d => n * 10 + (d.toNat - 48)) n < (n + 1) * 10 ^ ds.length := by
    induction ds with
    | nil =>
        intro n
        rw [List.foldl_nil, List.length_nil, Nat.pow_zero]
        omega
    | cons d ds ih =>
        intro n
        rw [List.forall_mem_cons] at hds
        have hd := isDigitByte_toNat_le hds.1
        rw [List.foldl_cons, List.length_cons, Nat.pow_succ, Nat.mul_comm (10 ^ _), ← Nat.mul_assoc]
        refine (ih hds.2 _).trans_le (Nat.mul_le_mul_right _ ?_)
        omega
  have hzero := hfold 0
  rwa [Nat.zero_add, Nat.one_mul] at hzero

theorem isDigitByte_of_mem_takeWhile (bytes : Bytes) :
    ∀ d ∈ bytes.takeWhile isDigitByte, isDigitByte d = true :=
  List.all_eq_true.mp List.all_takeWhile

theorem length_takeWhile_add (bytes : Bytes) :
    (bytes.takeWhile isDigitByte).length + (bytes.dropWhile isDigitByte).length = bytes.length := by
  rw [← List.length_append, List.takeWhile_append_dropWhile]

theorem length_pos_of_isEmpty {ds : Bytes} (h : ¬ ds.isEmpty = true) : 0 < ds.length :=
  List.length_pos_iff.mpr fun hnil => h (List.isEmpty_iff.mpr hnil)

/-- What is read of a fraction behind whole digits. -/
theorem readFraction_ok {fraction : Option Bytes}
    (h : readFraction size bytes = .ok (fraction, rest)) :
    (fraction = none ∧ rest = bytes) ∨ ∃ ds, fraction = some ds ∧ 0 < ds.length ∧
      (∀ d ∈ ds, isDigitByte d = true) ∧ ds.length + rest.length + 1 = bytes.length := by
  rw [readFraction.eq_def] at h
  split at h
  · next more =>
      dsimp only at h
      split at h
      · cases h
      · next hne =>
          cases h
          refine .inr ⟨_, rfl, length_pos_of_isEmpty hne, isDigitByte_of_mem_takeWhile more, ?_⟩
          rw [length_takeWhile_add, List.length_cons]
  · cases h
    exact .inl ⟨rfl, rfl⟩

theorem readExponent_ok {power : Option Int}
    (h : readExponent size bytes = .ok (power, rest)) :
    (power = none ∧ rest = bytes) ∨ ∃ i : Int, ∃ n : Nat, power = some i ∧ 0 < n ∧
      i < 10 ^ n ∧ n + rest.length + 1 ≤ bytes.length := by
  cases bytes with
  | nil =>
      cases h
      exact .inl ⟨rfl, rfl⟩
  | cons b bytes =>
      rw [readExponent] at h
      split at h
      · obtain ⟨front, hfront⟩ := splitSign_eq bytes
        generalize splitSign bytes = sign at h hfront
        obtain ⟨negative, digits⟩ := sign
        dsimp only at h hfront
        split at h
        · cases h
        · next hne =>
            have hvalue : (digitsValue (digits.takeWhile isDigitByte) : Int) <
                10 ^ (digits.takeWhile isDigitByte).length := by
              exact_mod_cast digitsValue_lt (isDigitByte_of_mem_takeWhile digits)
            have hlen := length_takeWhile_add digits
            have hbytes := congrArg List.length hfront
            rw [List.length_append] at hbytes
            cases h
            refine .inr ⟨_, _, rfl, length_pos_of_isEmpty hne, ?_, ?_⟩
            · split
              · omega
              · exact hvalue
            · rw [List.length_cons]
              omega
      · cases h
        exact .inl ⟨rfl, rfl⟩

theorem length_intChars_le {n w : Nat} (negative : Bool) (hw : 0 < w) (hn : n < 10 ^ w) :
    (intChars (if negative then -n else n)).length ≤ w + negative.toNat := by
  have hdigits := (Nat.length_toDigits_le_iff (b := 10) (by decide) hw).mpr hn
  cases negative with
  | false =>
      rw [if_neg Bool.false_ne_true, intChars, if_neg (by omega), Int.natAbs_natCast]
      exact hdigits
  | true =>
      rw [if_pos rfl, intChars, Int.natAbs_neg, Int.natAbs_natCast]
      split
      · exact Nat.succ_le_succ hdigits
      · exact hdigits.trans (Nat.le_succ w)

/-- A floating point number is read from `m` bytes and a sign: digits below `10 ^ p`, which are
not all of them, and a power `k` that is small if there are only three bytes. -/
theorem weight_real_le {negative : Bool} {x : Binary64} {n p m : Nat} {k : Int}
    (h : Binary64.ofDecimal? negative n k = some x) (hn : n < 10 ^ p) (hp : p < m) (hm : 3 ≤ m)
    (hk : m = 3 → p + k ≤ 10) : weight (.real x) ≤ 40 * (m + 1) + 40 * negative.toNat := by
  have hbody : ∀ l : Layout, l.Compact → 9 * ((l.body x).length + 2) ≤ 40 * (m + 1) := by
    intro l hl
    by_cases hfew : m ≤ 4
    · have := Number.length_body_ofDecimal_few hl (by omega) hn h
      omega
    · have := Number.length_body_ofDecimal hl h
      omega
  have hdense := hbody .dense Number.compact_dense
  have hplain := hbody .plain Number.compact_plain
  rw [weight, bulk, Layout.length_chars, Layout.length_chars, Number.negative_ofDecimal h]
  omega

/-- An unsigned number is whole digits, maybe a fraction and maybe an exponent. -/
theorem readUnsigned_ok {negative : Bool} {v : Json}
    (h : readUnsigned size negative bytes = .ok (v, rest)) :
    ∃ fraction power rest₁, readFraction size (bytes.dropWhile isDigitByte) = .ok (fraction, rest₁) ∧
      readExponent size rest₁ = .ok (power, rest) ∧
      ((∃ n : Nat, n = digitsValue (bytes.takeWhile isDigitByte) ∧
        (bytes.takeWhile isDigitByte).length + negative.toNat ≤ maxDigits ∧
        v = .int (if negative then -n else n)) ∨
      ¬ (fraction = none ∧ power = none) ∧ ∃ x, v = .real x ∧
        Binary64.ofDecimal? negative
          (digitsValue (bytes.takeWhile isDigitByte ++ fraction.getD []))
          (power.getD 0 - (fraction.getD []).length) = some x) := by
  rw [readUnsigned] at h
  dsimp only at h
  split at h
  · cases h
  cases hf : readFraction size (bytes.dropWhile isDigitByte) with
  | error e =>
      rw [hf] at h
      cases h
  | ok r =>
      obtain ⟨fraction, rest₁⟩ := r
      cases he : readExponent size rest₁ with
      | error e =>
          simp only [hf, he, bind, Except.bind] at h
          cases h
      | ok r =>
          obtain ⟨power, rest₂⟩ := r
          simp only [hf, he, bind, Except.bind] at h
          split at h
          · split at h
            · cases h
            · next hdigits =>
                cases h
                exact ⟨fraction, power, rest₁, rfl, he,
                  .inl ⟨_, rfl, Nat.le_of_not_lt hdigits, rfl⟩⟩
          · next hreal =>
              split at h
              · next x hx =>
                  cases h
                  refine ⟨fraction, power, rest₁, rfl, he, .inr ⟨?_, x, rfl, hx⟩⟩
                  rintro ⟨rfl, rfl⟩
                  exact hreal rfl
              · cases h

theorem weight_readUnsigned {negative : Bool} {v : Json}
    (hdigit : 0 < (bytes.takeWhile isDigitByte).length)
    (h : readUnsigned size negative bytes = .ok (v, rest)) :
    weight v + 40 * rest.length ≤ 40 * (bytes.length + 1) + 40 * negative.toNat := by
  have hlen := length_takeWhile_add bytes
  have hwhole := isDigitByte_of_mem_takeWhile bytes
  obtain ⟨fraction, power, rest₁, hf, he, hv⟩ := readUnsigned_ok h
  generalize bytes.takeWhile isDigitByte = whole at hv hlen hwhole hdigit
  generalize bytes.dropWhile isDigitByte = behind at hf hlen
  rcases hv with ⟨n, rfl, -, rfl⟩ | ⟨hreal, x, rfl, hx⟩
  · have hint := length_intChars_le negative hdigit (digitsValue_lt hwhole)
    have hrest : rest.length ≤ behind.length := by
      rcases readFraction_ok hf with ⟨-, rfl⟩ | ⟨ds, -, -, -, hds⟩ <;>
        rcases readExponent_ok he with ⟨-, rfl⟩ | ⟨i, n, -, -, -, hi⟩ <;> omega
    rw [weight, bulk]
    omega
  · have hdigits : ∀ ds : Bytes, (∀ d ∈ ds, isDigitByte d = true) →
        digitsValue (whole ++ ds) < 10 ^ (whole.length + ds.length) := by
      intro ds hds
      rw [← List.length_append]
      exact digitsValue_lt (List.forall_mem_append.mpr ⟨hwhole, hds⟩)
    rcases readFraction_ok hf with ⟨rfl, rfl⟩ | ⟨ds, rfl, hpos, hds, hdlen⟩ <;>
      rcases readExponent_ok he with ⟨rfl, rfl⟩ | ⟨i, n, rfl, hn, hi, hilen⟩
    · exact absurd ⟨rfl, rfl⟩ hreal
    · rw [Option.getD_none, Option.getD_some] at hx
      have hpower : bytes.length - rest.length = 3 → n = 1 := by omega
      have := weight_real_le hx (hdigits [] nofun) (m := bytes.length - rest.length)
        (by rw [List.length_nil]; omega) (by omega) fun hm => by
          rw [hpower hm] at hi
          rw [List.length_nil]
          omega
      omega
    · rw [Option.getD_some, Option.getD_none] at hx
      have := weight_real_le hx (hdigits ds hds) (m := bytes.length - rest.length)
        (by omega) (by omega) (by omega)
      omega
    · rw [Option.getD_some, Option.getD_some] at hx
      have := weight_real_le hx (hdigits ds hds) (m := bytes.length - rest.length)
        (by omega) (by omega) (by omega)
      omega

/-- A number is an unsigned one, maybe behind a minus sign. -/
theorem readNumber_ok {b : UInt8} {v : Json} (hb : (isDigitByte b || b == 0x2d) = true)
    (h : readNumber size (b :: bytes) = .ok (v, rest)) :
    ∃ negative digits, readUnsigned size negative digits = .ok (v, rest) ∧
      0 < (digits.takeWhile isDigitByte).length ∧
      digits.length + negative.toNat = (b :: bytes).length := by
  have hpos : ∀ {d : UInt8} (more : Bytes), isDigitByte d = true →
      0 < ((d :: more).takeWhile isDigitByte).length := by
    intro d more hd
    rw [List.takeWhile_cons_of_pos hd]
    exact Nat.succ_pos _
  rw [readNumber.eq_def] at h
  split at h
  · next more heq =>
      cases heq
      split at h
      · cases h
      · next d more =>
          split at h
          · next hd => exact ⟨true, d :: more, h, hpos more hd, rfl⟩
          · cases h
  · next hne =>
      have hd : isDigitByte b = true := by
        rcases Bool.or_eq_true_iff.mp hb with hd | hminus
        · exact hd
        · exact absurd (by rw [beq_iff_eq.mp hminus]) (hne bytes)
      exact ⟨false, b :: bytes, h, hpos bytes hd, rfl⟩

theorem weight_readNumber {b : UInt8} {v : Json} (hb : (isDigitByte b || b == 0x2d) = true)
    (h : readNumber size (b :: bytes) = .ok (v, rest)) :
    weight v + 40 * rest.length ≤ 40 * ((b :: bytes).length + 1) := by
  obtain ⟨negative, digits, hread, hpos, hlength⟩ := readNumber_ok hb h
  have hweight := weight_readUnsigned hpos hread
  omega

end

/-! ## Lists and objects -/

theorem weightOfItems_append (xs ys : List Json) :
    weightOfItems (xs ++ ys) = weightOfItems xs + weightOfItems ys := by
  induction xs with
  | nil => exact (Nat.zero_add _).symm
  | cons x xs ih =>
      rw [List.cons_append, weightOfItems, weightOfItems, ih, Nat.add_assoc]

theorem weightOfItems_reverse (xs : List Json) : weightOfItems xs.reverse = weightOfItems xs := by
  induction xs with
  | nil => rfl
  | cons x xs ih =>
      rw [List.reverse_cons, weightOfItems_append, ih, weightOfItems, weightOfItems, weightOfItems]
      omega

/-- Writing under a key adds what the member weighs at most. -/
theorem weightOfMembers_set (ms : Keyed Json) (k : String) (v : Json) :
    weightOfMembers (ms.set k v) ≤ weightOfMembers ms + 40 * (quotedLength k + 1) + weight v := by
  induction ms with
  | nil =>
      rw [Keyed.set, weightOfMembers_singleton, Nat.add_assoc]
      exact Nat.le_add_left ..
  | cons m ms ih =>
      obtain ⟨l, u⟩ := m
      rw [Keyed.set]
      split
      · next hk =>
          rw [weightOfMembers, weightOfMembers, hk]
          omega
      · rw [weightOfMembers, weightOfMembers]
        omega

section
variable {size fuel depth : Nat} {first : Bool} {bytes here rest : Bytes} {v : Json}

theorem skipBlanks_length (bytes : Bytes) : (skipBlanks bytes).length ≤ bytes.length :=
  (List.dropWhile_sublist _).length_le

theorem Continues.length_add {closing : UInt8} (h : Continues closing first bytes here) :
    here.length + (!first).toNat ≤ bytes.length := by
  have hbytes := skipBlanks_length bytes
  cases h with
  | first hb hne =>
      rw [hb] at hbytes
      exact hbytes
  | @comma _ more c rest' hb hc hne =>
      have hmore := skipBlanks_length more
      rw [hb, List.length_cons] at hbytes
      rw [hc] at hmore
      exact Nat.le_trans (Nat.succ_le_succ hmore) hbytes

theorem readItems_ok {acc : List Json}
    (h : readItems size (fuel + 1) depth first acc bytes = .ok (v, rest)) :
    (v = .arr acc.reverse ∧ rest.length < bytes.length) ∨
    ∃ here, Continues 0x5d first bytes here ∧
      readItem size fuel depth acc here = .ok (v, rest) := by
  have hlen := skipBlanks_length bytes
  rw [readItems] at h
  cases hb : skipBlanks bytes with
  | nil =>
      rw [hb] at h
      cases h
  | cons b more =>
      rw [hb] at h hlen
      dsimp only at h
      by_cases hclose : b = 0x5d
      · rw [if_pos hclose] at h
        cases h
        exact .inl ⟨rfl, hlen⟩
      · rw [if_neg hclose] at h
        cases first with
        | true => exact .inr ⟨_, .first hb hclose, h⟩
        | false =>
            rw [if_neg Bool.false_ne_true] at h
            split at h
            · next hcomma =>
                split at h
                · cases h
                · next c rest' hc =>
                    split at h
                    · cases h
                    · next hne => exact .inr ⟨_, .comma (hcomma ▸ hb) hc hne, h⟩
            · cases h

theorem readMembers_ok {acc : Keyed Json}
    (h : readMembers size (fuel + 1) depth first acc bytes = .ok (v, rest)) :
    (v = .obj acc ∧ rest.length < bytes.length) ∨
    ∃ here, Continues 0x7d first bytes here ∧
      readMember size fuel depth acc here = .ok (v, rest) := by
  have hlen := skipBlanks_length bytes
  rw [readMembers] at h
  cases hb : skipBlanks bytes with
  | nil =>
      rw [hb] at h
      cases h
  | cons b more =>
      rw [hb] at h hlen
      dsimp only at h
      by_cases hclose : b = 0x7d
      · rw [if_pos hclose] at h
        cases h
        exact .inl ⟨rfl, hlen⟩
      · rw [if_neg hclose] at h
        cases first with
        | true => exact .inr ⟨_, .first hb hclose, h⟩
        | false =>
            rw [if_neg Bool.false_ne_true] at h
            split at h
            · next hcomma =>
                split at h
                · cases h
                · next c rest' hc =>
                    split at h
                    · cases h
                    · next hne => exact .inr ⟨_, .comma (hcomma ▸ hb) hc hne, h⟩
            · cases h

theorem readMember_ok {acc : Keyed Json}
    (h : readMember size (fuel + 1) depth acc bytes = .ok (v, rest)) :
    ∃ more key rest' here x rest₁, bytes = 0x22 :: more ∧
      readString size more = .ok (key, rest') ∧ skipBlanks rest' = 0x3a :: here ∧
      readValue size fuel depth here = .ok (x, rest₁) ∧
      readMembers size fuel depth false (acc.set key x) rest₁ = .ok (v, rest) := by
  cases bytes with
  | nil =>
      rw [readMember] at h
      cases h
  | cons b more =>
      rw [readMember] at h
      split at h
      · cases h
      · next hquote =>
          split at h
          · cases h
          · next key rest' hk =>
              split at h
              · cases h
              · next c here hc =>
                  split at h
                  · cases h
                  · next hcolon =>
                      split at h
                      · next x rest₁ hx =>
                          refine ⟨more, key, rest', here, x, rest₁, ?_, hk, ?_, hx, h⟩
                          · rw [Classical.not_not.mp hquote]
                          · rw [hc, Classical.not_not.mp hcolon]
                      · cases h

/-- What a value is read as, by the byte it starts with. -/
inductive ValueRead (size fuel depth : Nat) (b : UInt8) (more : Bytes) : Json → Bytes → Prop where
  | string {s : String} {rest : Bytes} (h : readString size more = .ok (s, rest)) :
      ValueRead size fuel depth b more (.str s) rest
  | object {d : Nat} {v : Json} {rest : Bytes}
      (h : readMembers size fuel d true [] more = .ok (v, rest)) :
      ValueRead size fuel depth b more v rest
  | list {d : Nat} {v : Json} {rest : Bytes}
      (h : readItems size fuel d true [] more = .ok (v, rest)) :
      ValueRead size fuel depth b more v rest
  | word {v : Json} {rest : Bytes} (hv : v = .null ∨ ∃ t, v = .bool t)
      (hrest : rest.length ≤ more.length) : ValueRead size fuel depth b more v rest
  | number {v : Json} {rest : Bytes} (hb : (isDigitByte b || b == 0x2d) = true)
      (h : readNumber size (b :: more) = .ok (v, rest)) : ValueRead size fuel depth b more v rest

theorem readWord_ok {letters : Bytes} {w : Json}
    (h : readWord size letters w bytes = .ok (v, rest)) : v = w ∧ rest.length ≤ bytes.length := by
  rw [readWord] at h
  split at h
  · cases h
  · split at h
    · cases h
      exact ⟨rfl, (List.drop_sublist _ _).length_le⟩
    · cases h

theorem readValue_ok (h : readValue size (fuel + 1) depth bytes = .ok (v, rest)) :
    ∃ b more, skipBlanks bytes = b :: more ∧ ValueRead size fuel depth b more v rest := by
  rw [readValue] at h
  split at h
  · cases h
  · next b more hb =>
      refine ⟨b, more, hb, ?_⟩
      split at h
      · split at h <;> cases h
        next hs => exact .string hs
      split at h
      · split at h
        · cases h
        · exact .object h
      split at h
      · split at h
        · cases h
        · exact .list h
      split at h
      · obtain ⟨rfl, hrest⟩ := readWord_ok h
        exact .word (.inr ⟨_, rfl⟩) hrest
      split at h
      · obtain ⟨rfl, hrest⟩ := readWord_ok h
        exact .word (.inr ⟨_, rfl⟩) hrest
      split at h
      · obtain ⟨rfl, hrest⟩ := readWord_ok h
        exact .word (.inl rfl) hrest
      split at h
      · next hnumber => exact .number hnumber h
      · cases h

end

/-- With so much fuel what is read weighs no more than its bytes. In a list or an object the bytes
behind a part pay for the sign in front of it. -/
structure Weighs (size fuel : Nat) : Prop where
  value : ∀ {depth bytes v rest}, readValue size fuel depth bytes = .ok (v, rest) →
    weight v + 40 * rest.length ≤ 40 * (bytes.length + 1)
  items : ∀ {depth first acc bytes v rest},
    readItems size fuel depth first acc bytes = .ok (v, rest) → ∃ xs, v = .arr xs ∧
      weightOfItems xs + 40 * rest.length + 40 * (!first).toNat ≤
        weightOfItems acc + 40 * bytes.length
  item : ∀ {depth acc bytes v rest},
    readItem size fuel depth acc bytes = .ok (v, rest) → ∃ xs, v = .arr xs ∧
      weightOfItems xs + 40 * rest.length ≤ weightOfItems acc + 40 * bytes.length
  members : ∀ {depth first acc bytes v rest},
    readMembers size fuel depth first acc bytes = .ok (v, rest) → ∃ ms, v = .obj ms ∧
      weightOfMembers ms + 40 * rest.length + 40 * (!first).toNat ≤
        weightOfMembers acc + 40 * bytes.length
  member : ∀ {depth acc bytes v rest},
    readMember size fuel depth acc bytes = .ok (v, rest) → ∃ ms, v = .obj ms ∧
      weightOfMembers ms + 40 * rest.length ≤ weightOfMembers acc + 40 * bytes.length

namespace Weighs

variable {size fuel depth : Nat} {first : Bool} {bytes rest : Bytes} {v : Json}

theorem zero : Weighs size 0 := by
  refine ⟨?_, ?_, ?_, ?_, ?_⟩
  · intro depth bytes v rest h
    rw [readValue] at h
    cases h
  · intro depth first acc bytes v rest h
    rw [readItems] at h
    cases h
  · intro depth acc bytes v rest h
    rw [readItem] at h
    cases h
  · intro depth first acc bytes v rest h
    rw [readMembers] at h
    cases h
  · intro depth acc bytes v rest h
    rw [readMember] at h
    cases h

theorem items_succ (ih : Weighs size fuel) {acc : List Json}
    (h : readItems size (fuel + 1) depth first acc bytes = .ok (v, rest)) :
    ∃ xs, v = .arr xs ∧ weightOfItems xs + 40 * rest.length + 40 * (!first).toNat ≤
      weightOfItems acc + 40 * bytes.length := by
  rcases readItems_ok h with ⟨rfl, hlt⟩ | ⟨here, hnext, h⟩
  · refine ⟨_, rfl, ?_⟩
    rw [weightOfItems_reverse]
    cases first <;> simp only [Bool.not_true, Bool.not_false, Bool.toNat_true, Bool.toNat_false] <;>
      omega
  · obtain ⟨xs, rfl, hxs⟩ := ih.item h
    have hle := hnext.length_add
    exact ⟨xs, rfl, by omega⟩

theorem item_succ (ih : Weighs size fuel) {acc : List Json}
    (h : readItem size (fuel + 1) depth acc bytes = .ok (v, rest)) :
    ∃ xs, v = .arr xs ∧
      weightOfItems xs + 40 * rest.length ≤ weightOfItems acc + 40 * bytes.length := by
  rw [readItem_succ] at h
  cases hx : readValue size fuel depth bytes with
  | error e =>
      rw [hx] at h
      cases h
  | ok r =>
      obtain ⟨x, rest₁⟩ := r
      rw [hx] at h
      have hvalue := ih.value hx
      obtain ⟨xs, rfl, hxs⟩ := ih.items h
      rw [weightOfItems, Bool.not_false, Bool.toNat_true] at hxs
      exact ⟨xs, rfl, by omega⟩

theorem members_succ (ih : Weighs size fuel) {acc : Keyed Json}
    (h : readMembers size (fuel + 1) depth first acc bytes = .ok (v, rest)) :
    ∃ ms, v = .obj ms ∧ weightOfMembers ms + 40 * rest.length + 40 * (!first).toNat ≤
      weightOfMembers acc + 40 * bytes.length := by
  rcases readMembers_ok h with ⟨rfl, hlt⟩ | ⟨here, hnext, h⟩
  · refine ⟨_, rfl, ?_⟩
    cases first <;> simp only [Bool.not_true, Bool.not_false, Bool.toNat_true, Bool.toNat_false] <;>
      omega
  · obtain ⟨ms, rfl, hms⟩ := ih.member h
    have hle := hnext.length_add
    exact ⟨ms, rfl, by omega⟩

theorem member_succ (ih : Weighs size fuel) {acc : Keyed Json}
    (h : readMember size (fuel + 1) depth acc bytes = .ok (v, rest)) :
    ∃ ms, v = .obj ms ∧
      weightOfMembers ms + 40 * rest.length ≤ weightOfMembers acc + 40 * bytes.length := by
  obtain ⟨more, key, rest', here, x, rest₁, rfl, hk, hc, hx, h⟩ := readMember_ok h
  have hkey := quotedLength_readString hk
  have hskip := skipBlanks_length rest'
  have hvalue := ih.value hx
  have hset := weightOfMembers_set acc key x
  obtain ⟨ms, rfl, hms⟩ := ih.members h
  rw [hc, List.length_cons] at hskip
  rw [Bool.not_false, Bool.toNat_true] at hms
  rw [List.length_cons]
  exact ⟨ms, rfl, by omega⟩

theorem value_succ (ih : Weighs size fuel)
    (h : readValue size (fuel + 1) depth bytes = .ok (v, rest)) :
    weight v + 40 * rest.length ≤ 40 * (bytes.length + 1) := by
  have hlen := skipBlanks_length bytes
  obtain ⟨b, more, hb, hread⟩ := readValue_ok h
  rw [hb] at hlen
  cases hread with
  | string hs =>
      have hstring := quotedLength_readString hs
      rw [weight]
      rw [List.length_cons] at hlen
      omega
  | object h =>
      obtain ⟨ms, rfl, hms⟩ := ih.members h
      rw [weight]
      rw [Bool.not_true, Bool.toNat_false, weightOfMembers] at hms
      rw [List.length_cons] at hlen
      omega
  | list h =>
      obtain ⟨xs, rfl, hxs⟩ := ih.items h
      rw [weight]
      rw [Bool.not_true, Bool.toNat_false, weightOfItems] at hxs
      rw [List.length_cons] at hlen
      omega
  | word hv hrest =>
      rw [List.length_cons] at hlen
      rcases hv with rfl | ⟨t, rfl⟩
      · rw [weight, bulk]
        omega
      · rw [weight, bulk]
        cases t <;> simp only [Bool.false_eq_true, if_true, if_false] <;> omega
  | number hnum hn =>
      have := weight_readNumber hnum hn
      omega

end Weighs

/-- An object is read as a value is, and nothing but blanks stands behind it. -/
theorem readObject_ok {bytes : Bytes} {members : Keyed Json}
    (h : readObject bytes = .ok members) :
    ∃ rest, readValue bytes.length (readFuel bytes.length) depthLimit bytes =
      .ok (.obj members, rest) := by
  cases hv : readValue bytes.length (readFuel bytes.length) depthLimit bytes with
  | error e =>
      simp only [readObject, read, hv, bind, Except.bind] at h
      cases h
  | ok r =>
      obtain ⟨v, rest⟩ := r
      simp only [readObject, read, hv, bind, Except.bind] at h
      split at h
      · cases h
      · next hread =>
          split at hread
          · cases hread
            split at h
            · cases h
              exact ⟨rest, rfl⟩
            · cases h
          · cases hread

end ScreenBridge.Json
