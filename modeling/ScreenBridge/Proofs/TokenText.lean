import ScreenBridge.Json.Text
import ScreenBridge.Proofs.ReaderProgress

/-!
# Strings and whole numbers read back

The writer works on characters and the reader on bytes, so these are the lemmas
where the two meet: for each token that is written, what the reader makes of
its encoding with any other bytes behind it.

A string is read character by character. One that stands for itself comes back
byte by byte, because none of its bytes is a quote, a backslash or a control
character; an escape comes back as the bytes of its character. A whole number
is read as far as there are digits, so it needs to be known that none follows,
nor what would make it a floating point number (`EndsNumber`). Its digits have
no zero in front, which the reader insists on.
-/

namespace ScreenBridge.Json

open Text.Utf8 (encodeChars encodeChars_append encodeChars_cons encodeChars_nil
  utf8EncodeChar_of_ascii decodeChar? decodeChar?_encode decode_encodeChars)

variable {size : Nat} {acc rest : Bytes}

/-! ## Strings -/

/-- A byte that stands for itself inside quotes. -/
def IsRaw (b : UInt8) : Prop :=
  b ≠ 0x22 ∧ ¬ b < 0x20 ∧ b ≠ 0x5c

theorem readContent_raw {b : UInt8} (hb : IsRaw b) :
    readContent size acc (b :: rest) = readContent size (b :: acc) rest := by
  rw [readContent.eq_def]
  dsimp only
  rw [if_neg hb.1, if_neg hb.2.1, if_pos hb.2.2]

theorem readContent_raws {bs : Bytes} (hbs : ∀ b ∈ bs, IsRaw b) :
    readContent size acc (bs ++ rest) = readContent size (bs.reverse ++ acc) rest := by
  induction bs generalizing acc with
  | nil => rfl
  | cons b bs ih =>
      rw [List.forall_mem_cons] at hbs
      rw [List.cons_append, readContent_raw hbs.1, ih hbs.2, List.reverse_cons,
        List.append_assoc, List.singleton_append]

theorem toNat_ofNat_of_ascii {n : Nat} (h : n < 0x80) : (Char.ofNat n).toNat = n := by
  rw [Char.ofNat, dif_pos (Or.inl (by omega))]
  rfl

/-- A character that has an ASCII byte is that byte. -/
theorem eq_of_ascii_mem {c : Char} {b : UInt8} (hb : b < 0x80)
    (hmem : b ∈ String.utf8EncodeChar c) : c = Char.ofNat b.toNat := by
  have hdecode := decodeChar?_encode c []
  rw [utf8EncodeChar_of_ascii hb hmem, List.singleton_append, decodeChar?, if_pos hb] at hdecode
  exact (congrArg Prod.fst (Except.ok.inj hdecode)).symm

theorem isRaw_of_mem {c : Char} (hquote : c ≠ '"') (hslash : c ≠ '\\')
    (hcontrol : ¬ c.toNat < 0x20) {b : UInt8} (hmem : b ∈ String.utf8EncodeChar c) : IsRaw b := by
  by_cases hb : b < 0x80
  · have hc := eq_of_ascii_mem hb hmem
    have hnat : c.toNat = b.toNat := by
      rw [hc, toNat_ofNat_of_ascii (UInt8.lt_iff_toNat_lt.mp hb)]
    refine ⟨?_, ?_, ?_⟩
    · rintro rfl
      exact hquote hc
    · intro hlt
      rw [hnat] at hcontrol
      exact hcontrol (UInt8.lt_iff_toNat_lt.mp hlt)
    · rintro rfl
      exact hslash hc
  · refine ⟨?_, fun hlt => hb (UInt8.lt_trans hlt (by decide)), ?_⟩
    · rintro rfl
      exact hb (by decide)
    · rintro rfl
      exact hb (by decide)

theorem encode_digitChar : ∀ n < 16,
    String.utf8EncodeChar n.digitChar = [UInt8.ofNat n.digitChar.toNat] := by
  decide

theorem hexValue?_digitChar : ∀ n < 16,
    hexValue? (UInt8.ofNat n.digitChar.toNat) = some n := by
  decide

theorem readContent_unicodeEscape {c : Char} (hc : c.toNat < 0x20) :
    readContent size acc (encodeChars (unicodeEscape c) ++ rest) =
      readContent size ((String.utf8EncodeChar c).reverse ++ acc) rest := by
  have hhigh : c.toNat / 16 < 16 := by omega
  have hlow : c.toNat % 16 < 16 := by omega
  have hbytes : encodeChars (unicodeEscape c) ++ rest = 0x5c :: 0x75 :: 0x30 :: 0x30 ::
      UInt8.ofNat (c.toNat / 16).digitChar.toNat :: UInt8.ofNat (c.toNat % 16).digitChar.toNat ::
      rest := by
    rw [unicodeEscape]
    simp only [encodeChars_cons, encode_digitChar _ hhigh, encode_digitChar _ hlow]
    rfl
  have hunit : readUnit size 0x30 0x30 (UInt8.ofNat (c.toNat / 16).digitChar.toNat)
      (UInt8.ofNat (c.toNat % 16).digitChar.toNat) rest = .ok c.toNat := by
    have hzero : hexValue? 0x30 = some 0 := rfl
    simp only [readUnit, hzero, hexValue?_digitChar _ hhigh, hexValue?_digitChar _ hlow]
    exact congrArg _ (by omega)
  rw [hbytes, readContent, if_neg (by decide), if_neg (by decide), if_neg (by decide), hunit]
  dsimp only
  rw [if_neg (by omega), if_neg (by omega), pushChar, Char.ofNat_toNat]

/-- One written character is read as its bytes. -/
theorem readContent_quotedChar (c : Char) :
    readContent size acc (encodeChars (quotedChar c) ++ rest) =
      readContent size ((String.utf8EncodeChar c).reverse ++ acc) rest := by
  unfold quotedChar
  split
  · next h => subst h; rfl
  split
  · next h => subst h; rfl
  split
  · next h => subst h; rfl
  split
  · next h => subst h; rfl
  split
  · next h => subst h; rfl
  split
  · next h => subst h; rfl
  split
  · next h => subst h; rfl
  split
  · next hcontrol => exact readContent_unicodeEscape hcontrol
  · next hquote hslash _ _ _ _ _ hcontrol =>
      rw [encodeChars_cons, encodeChars_nil, List.append_nil]
      exact readContent_raws fun b hb => isRaw_of_mem hquote hslash hcontrol hb

theorem readContent_quoted (cs : List Char) :
    readContent size acc (encodeChars (cs.flatMap quotedChar) ++ 0x22 :: rest) =
      .ok (acc.reverse ++ encodeChars cs, rest) := by
  induction cs generalizing acc with
  | nil =>
      rw [List.flatMap_nil, encodeChars_nil, List.append_nil, List.nil_append,
        readContent.eq_def]
      dsimp only
      rw [if_pos rfl]
  | cons c cs ih =>
      rw [List.flatMap_cons, encodeChars_append, List.append_assoc, readContent_quotedChar, ih,
        encodeChars_cons, List.reverse_append, List.reverse_reverse, List.append_assoc]

theorem encode_quotedChars (s : String) (rest : Bytes) :
    encodeChars (quotedChars s.toList) ++ rest =
      0x22 :: (encodeChars (s.toList.flatMap quotedChar) ++ 0x22 :: rest) := by
  rw [quotedChars, encodeChars_cons, encodeChars_append, List.append_assoc, List.append_assoc]
  rfl

/-- A written string is read up to its closing quote. -/
theorem readString_quoted (s : String) :
    readString size (encodeChars (s.toList.flatMap quotedChar) ++ 0x22 :: rest) =
      .ok (s, rest) := by
  rw [readString, readContent_quoted]
  dsimp only [bind, Except.bind, List.reverse_nil, List.nil_append]
  rw [decode_encodeChars, String.ofList_toList]

/-! ## Whole numbers -/

/-- What stands here does not go on with a number. -/
def EndsNumber (rest : Bytes) : Prop :=
  ∀ b ∈ rest.head?, isDigitByte b = false ∧ b ≠ 0x2e ∧ b ≠ 0x65 ∧ b ≠ 0x45

theorem digit_bounds {c : Char} (h : c.isDigit) : 48 ≤ c.toNat ∧ c.toNat ≤ 57 :=
  Char.isDigit_iff_toNat.mp h

theorem toNat_digitByte {c : Char} (h : c.isDigit) : (UInt8.ofNat c.toNat).toNat = c.toNat := by
  have hc := digit_bounds h
  exact Text.Utf8.toNat_ofNat_of_lt (by omega)

theorem isDigitByte_digitByte {c : Char} (h : c.isDigit) :
    isDigitByte (UInt8.ofNat c.toNat) = true := by
  have hc := digit_bounds h
  simp only [isDigitByte, Bool.and_eq_true, decide_eq_true_iff, UInt8.le_iff_toNat_le,
    toNat_digitByte h]
  exact hc

theorem encode_ascii {c : Char} (h : c.toNat < 0x80) :
    String.utf8EncodeChar c = [UInt8.ofNat c.toNat] := by
  rw [String.utf8EncodeChar, if_pos]
  · rfl
  · exact Nat.lt_succ_iff.mp h

theorem ascii_of_isDigit {c : Char} (h : c.isDigit) : c.toNat < 0x80 :=
  Nat.lt_of_le_of_lt (digit_bounds h).2 (by decide)

theorem encode_digits {ds : List Char} (hds : ∀ c ∈ ds, c.isDigit) :
    encodeChars ds = ds.map fun c => UInt8.ofNat c.toNat := by
  induction ds with
  | nil => rfl
  | cons c ds ih =>
      rw [List.forall_mem_cons] at hds
      rw [encodeChars_cons, encode_ascii (ascii_of_isDigit hds.1), ih hds.2, List.map_cons,
        List.singleton_append]

theorem all_isDigitByte {ds : List Char} (hds : ∀ c ∈ ds, c.isDigit) :
    ∀ b ∈ encodeChars ds, isDigitByte b = true := by
  intro b hb
  rw [encode_digits hds] at hb
  obtain ⟨c, hc, rfl⟩ := List.mem_map.mp hb
  exact isDigitByte_digitByte (hds c hc)

theorem digitsValue_encode {ds : List Char} (hds : ∀ c ∈ ds, c.isDigit) :
    digitsValue (encodeChars ds) = Nat.ofDigitChars 10 ds 0 := by
  rw [encode_digits hds, digitsValue, Nat.ofDigitChars]
  generalize 0 = n
  induction ds generalizing n with
  | nil => rfl
  | cons c ds ih =>
      rw [List.forall_mem_cons] at hds
      rw [List.map_cons, List.foldl_cons, List.foldl_cons, toNat_digitByte hds.1, Nat.mul_comm]
      exact ih hds.2 _

theorem takeWhile_digits {bs : Bytes} (hbs : ∀ b ∈ bs, isDigitByte b = true)
    (hrest : EndsNumber rest) :
    (bs ++ rest).takeWhile isDigitByte = bs ∧ (bs ++ rest).dropWhile isDigitByte = rest := by
  rw [List.takeWhile_append_of_pos hbs, List.dropWhile_append_of_pos hbs]
  cases rest with
  | nil => exact ⟨List.append_nil bs, rfl⟩
  | cons b rest =>
      have hb : ¬ isDigitByte b = true := by simp [(hrest b rfl).1]
      rw [List.takeWhile_cons_of_neg hb, List.dropWhile_cons_of_neg hb]
      exact ⟨List.append_nil bs, rfl⟩

/-- No zero stands in front of other digits. -/
theorem head?_toDigits_ne {n : Nat} (h : 0 < n) : (Nat.toDigits 10 n).head? ≠ some '0' := by
  induction n using Nat.strongRecOn with
  | ind n ih =>
      by_cases hlt : n < 10
      · rw [Nat.toDigits_of_lt_base hlt]
        have hne : ∀ m < 10, 0 < m → [m.digitChar].head? ≠ some '0' := by decide
        exact hne n hlt h
      · rw [Nat.toDigits_of_base_le (by decide) (by omega), List.head?_append]
        have hhead := ih (n / 10) (by omega) (by omega)
        cases hds : (Nat.toDigits 10 (n / 10)).head? with
        | none => exact absurd (List.head?_eq_none_iff.mp hds) Nat.toDigits_ne_nil
        | some c => rwa [hds] at hhead

theorem isDigit_of_mem_toDigits {n : Nat} : ∀ c ∈ Nat.toDigits 10 n, c.isDigit :=
  fun _ hc => Nat.isDigit_of_mem_toDigits (by decide) (by decide) hc

theorem no_leading_zero (n : Nat) : ¬ ((encodeChars (Nat.toDigits 10 n) ++ rest).head? =
    some 0x30 ∧ 1 < (encodeChars (Nat.toDigits 10 n)).length) := by
  rw [encode_digits isDigit_of_mem_toDigits]
  rintro ⟨hhead, hlen⟩
  rw [List.length_map] at hlen
  by_cases hn : n = 0
  · rw [hn, Nat.toDigits_zero] at hlen
    cases hlen
    contradiction
  · refine head?_toDigits_ne (Nat.pos_of_ne_zero hn) ?_
    cases hds : Nat.toDigits 10 n with
    | nil => exact absurd hds Nat.toDigits_ne_nil
    | cons c ds =>
        rw [hds] at hhead
        have hdigit : c.isDigit := isDigit_of_mem_toDigits c (by rw [hds]; exact List.mem_cons_self)
        have hc := congrArg UInt8.toNat (Option.some.inj hhead)
        rw [toNat_digitByte hdigit] at hc
        exact congrArg some (Char.toNat_inj.mp hc)

theorem readUnsigned_toDigits (n : Nat) (negative : Bool) (hrest : EndsNumber rest)
    (hlength : (Nat.toDigits 10 n).length + negative.toNat ≤ maxDigits) :
    readUnsigned size negative (encodeChars (Nat.toDigits 10 n) ++ rest) =
      .ok (.int (if negative then -n else n), rest) := by
  have hdigits : ∀ c ∈ Nat.toDigits 10 n, c.isDigit := isDigit_of_mem_toDigits
  obtain ⟨htake, hdrop⟩ := takeWhile_digits (all_isDigitByte hdigits) hrest
  have hfraction : readFraction size rest = .ok (none, rest) := by
    rw [readFraction.eq_def]
    split
    · next more => exact absurd rfl (hrest _ rfl).2.1
    · rfl
  have hexponent : readExponent size rest = .ok (none, rest) := by
    cases rest with
    | nil => rfl
    | cons b rest =>
        have hb := hrest b rfl
        rw [readExponent, if_neg]
        simp [hb.2.2.1, hb.2.2.2]
  have hfew : ¬ maxDigits < (encodeChars (Nat.toDigits 10 n)).length + negative.toNat := by
    rw [encode_digits hdigits, List.length_map]
    exact Nat.not_lt_of_le hlength
  rw [readUnsigned]
  dsimp only
  rw [htake, hdrop, if_neg (no_leading_zero n)]
  simp only [hfraction, hexponent, bind, Except.bind]
  rw [if_pos (by rfl), if_neg hfew, digitsValue_encode hdigits, Nat.ofDigitChars_ten_toDigits]

theorem toDigits_starts (n : Nat) :
    ∃ d more, encodeChars (Nat.toDigits 10 n) = d :: more ∧ isDigitByte d = true := by
  cases hds : encodeChars (Nat.toDigits 10 n) with
  | nil =>
      rw [encode_digits isDigit_of_mem_toDigits, List.map_eq_nil_iff] at hds
      exact absurd hds Nat.toDigits_ne_nil
  | cons d more =>
      have hall := all_isDigitByte (@isDigit_of_mem_toDigits n)
      rw [hds] at hall
      exact ⟨d, more, rfl, hall d List.mem_cons_self⟩

/-- A whole number as it is written has one more character than digits if it has a sign. -/
theorem length_intChars (i : Int) :
    (intChars i).length = (Nat.toDigits 10 i.natAbs).length + (decide (i < 0)).toNat := by
  unfold intChars
  split
  · next hi => rw [decide_eq_true hi, Bool.toNat_true, List.length_cons]
  · next hi => rw [decide_eq_false hi, Bool.toNat_false, Nat.add_zero]

/-- Whole numbers that are written with few enough characters to be read. -/
def AreShort (is : List Int) : Prop :=
  ∀ i ∈ is, (intChars i).length ≤ maxDigits

instance : DecidablePred AreShort := fun is =>
  inferInstanceAs (Decidable (∀ i ∈ is, (intChars i).length ≤ maxDigits))

theorem areShort_append {is js : List Int} : AreShort (is ++ js) ↔ AreShort is ∧ AreShort js :=
  List.forall_mem_append

/-- A written whole number is read to its end, if it is not too long. -/
theorem readNumber_intChars (i : Int) (hrest : EndsNumber rest)
    (hlength : (intChars i).length ≤ maxDigits) :
    readNumber size (encodeChars (intChars i) ++ rest) = .ok (.int i, rest) := by
  obtain ⟨d, more, hds, hd⟩ := toDigits_starts i.natAbs
  have hread := @readUnsigned_toDigits size rest i.natAbs (decide (i < 0)) hrest
    (length_intChars i ▸ hlength)
  rw [hds, List.cons_append] at hread
  rw [intChars]
  by_cases hi : i < 0
  · have hneg : -(i.natAbs : Int) = i := by omega
    have hsign : readNumber size (0x2d :: d :: (more ++ rest)) = .ok (.int i, rest) := by
      rw [decide_eq_true hi] at hread
      rw [readNumber, if_pos hd, hread, if_pos rfl, hneg]
    rw [if_pos hi, encodeChars_cons, hds]
    exact hsign
  · have hpos : (i.natAbs : Int) = i := by omega
    have hne : d ≠ 0x2d := by
      rintro rfl
      cases hd
    rw [decide_eq_false hi] at hread
    rw [if_neg hi, hds, List.cons_append, readNumber]
    · rw [hread, if_neg Bool.false_ne_true, hpos]
    · intro _ h
      exact hne (List.cons.inj h).1

end ScreenBridge.Json
