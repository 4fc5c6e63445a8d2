import ScreenBridge.Proofs.NumberLength
import ScreenBridge.Proofs.TokenText

/-!
# How long the text of a value is

`bulk` counts the bytes of a value on one line, together with the two that separate it from what
comes behind it. It adds up over items and members, whichever of the two forms on one line is
written; only numbers differ between the two, and of them the longer text counts.

`weight` bounds from below what a value is read from, in fortieths of a byte and with one byte for
the sign behind it. A value can be read from less than is written for it: a space is added behind
each sign, and a number may be written out at length. `nine_mul_bulk_le` says how much less.
-/

namespace ScreenBridge.Json

open Number (Layout shortest)
open Text.Utf8 (encodeChars encodeChars_append encodeChars_cons encodeChars_nil)

/-! ## Lengths in bytes -/

theorem length_encodeChars_of_ascii {cs : List Char} (h : ∀ c ∈ cs, c.toNat < 0x80) :
    (encodeChars cs).length = cs.length := by
  induction cs with
  | nil => rfl
  | cons c cs ih =>
      rw [List.forall_mem_cons] at h
      rw [encodeChars_cons, List.length_append, encode_ascii h.1, ih h.2, List.length_singleton,
        Nat.add_comm]
      rfl

/-- The characters of numbers. -/
def Numeral (c : Char) : Prop :=
  c.isDigit ∨ c ∈ ['-', '+', '.', 'e']

instance : DecidablePred Numeral :=
  fun c => inferInstanceAs (Decidable (c.isDigit ∨ c ∈ _))

theorem Numeral.ascii {c : Char} (h : Numeral c) : c.toNat < 0x80 := by
  rcases h with hdigit | hsign
  · exact ascii_of_isDigit hdigit
  · simp only [List.mem_cons, List.not_mem_nil, or_false] at hsign
    rcases hsign with rfl | rfl | rfl | rfl <;> decide

theorem length_encodeChars_of_numeral {cs : List Char} (h : ∀ c ∈ cs, Numeral c) :
    (encodeChars cs).length = cs.length :=
  length_encodeChars_of_ascii fun c hc => (h c hc).ascii

theorem numeral_toDigits (n : Nat) : ∀ c ∈ Nat.toDigits 10 n, Numeral c :=
  fun c hc => .inl (isDigit_of_mem_toDigits c hc)

theorem numeral_intChars (i : Int) : ∀ c ∈ intChars i, Numeral c := by
  unfold intChars
  split
  · exact List.forall_mem_cons.mpr ⟨by decide, numeral_toDigits _⟩
  · exact numeral_toDigits _

theorem numeral_shortest (m : Nat) (q : Int) : ∀ c ∈ (shortest m q).digits, Numeral c := by
  rcases Number.shortest_cases m q with ⟨n, d, -, heq⟩ | ⟨-, heq⟩
  · rw [heq]
    intro c hc
    rw [Number.dropTrailingZeros, List.mem_reverse] at hc
    exact numeral_toDigits d c (List.mem_reverse.mp ((List.dropWhile_sublist _).mem hc))
  · rw [heq]
    exact List.forall_mem_nil _

theorem numeral_zeros (n : Nat) : ∀ c ∈ Number.zeros n, Numeral c := by
  intro c hc
  rw [List.eq_of_mem_replicate hc]
  decide

theorem numeral_positional {d : Number.Decimal} (hd : ∀ c ∈ d.digits, Numeral c) :
    ∀ c ∈ Number.positional d, Numeral c := by
  unfold Number.positional
  split
  · simp only [List.forall_mem_cons, List.forall_mem_append]
    exact ⟨by decide, by decide, numeral_zeros _, hd⟩
  · dsimp only
    split
    · simp only [List.forall_mem_cons, List.forall_mem_append]
      exact ⟨⟨hd, numeral_zeros _⟩, by decide, by decide, nofun⟩
    · simp only [List.forall_mem_cons, List.forall_mem_append]
      exact ⟨fun c hc => hd c (List.mem_of_mem_take hc), by decide,
        fun c hc => hd c (List.mem_of_mem_drop hc)⟩

theorem numeral_scientific {d : Number.Decimal} (hd : ∀ c ∈ d.digits, Numeral c) (width : Nat) :
    ∀ c ∈ Number.scientific width d, Numeral c := by
  have hsign : Numeral (if d.exponent < 0 then '-' else '+') := by
    split <;> decide
  unfold Number.scientific
  dsimp only
  rw [List.forall_mem_append, List.forall_mem_cons, List.forall_mem_cons, List.forall_mem_append]
  refine ⟨?_, by decide, hsign, numeral_zeros _, numeral_toDigits _⟩
  split
  · next hpoint =>
      rw [hpoint] at hd
      simp only [List.forall_mem_cons] at hd ⊢
      exact ⟨hd.1, by decide, hd.2⟩
  · exact hd

theorem numeral_layout (l : Layout) (x : Number.Binary64) : ∀ c ∈ l.chars x, Numeral c := by
  have hdigits := numeral_shortest x.mantissa x.exponent
  have hbody : ∀ c ∈ l.body x, Numeral c := by
    unfold Layout.body
    split
    · simp only [List.forall_mem_cons]
      exact ⟨by decide, by decide, by decide, nofun⟩
    · split
      · exact numeral_positional hdigits
      · exact numeral_scientific hdigits _
  rw [Number.Layout.chars_eq]
  split
  · exact List.forall_mem_cons.mpr ⟨by decide, hbody⟩
  · exact hbody

/-! ## Bytes written and bytes read -/

/-- The bytes of characters as they stand in quotes. -/
def contentLength (cs : List Char) : Nat :=
  (encodeChars (cs.flatMap quotedChar)).length

theorem contentLength_append (cs cs' : List Char) :
    contentLength (cs ++ cs') = contentLength cs + contentLength cs' := by
  rw [contentLength, List.flatMap_append, encodeChars_append, List.length_append]
  rfl

/-- The bytes of a string in quotes. -/
def quotedLength (s : String) : Nat :=
  (encodeChars (quotedChars s.toList)).length

theorem quotedLength_eq (s : String) : quotedLength s = contentLength s.toList + 2 := by
  have hquote : (encodeChars ['"']).length = 1 := rfl
  have hcons : quotedChars s.toList = ['"'] ++ (s.toList.flatMap quotedChar ++ ['"']) := rfl
  rw [quotedLength, hcons, encodeChars_append, encodeChars_append, List.length_append,
    List.length_append, hquote, contentLength]
  omega

mutual

/-- The bytes of a value on one line, and two to separate it from what comes behind it. -/
def bulk : Json → Nat
  | .null => 4 + 2
  | .bool b => (if b then 4 else 5) + 2
  | .int i => (intChars i).length + 2
  | .real x => max (Layout.dense.chars x).length (Layout.plain.chars x).length + 2
  | .str s => quotedLength s + 2
  | .arr items => max 2 (bulkOfItems items) + 2
  | .obj members => max 2 (bulkOfMembers members) + 2

def bulkOfItems : List Json → Nat
  | [] => 0
  | x :: rest => bulk x + bulkOfItems rest

def bulkOfMembers : List (String × Json) → Nat
  | [] => 0
  | (k, v) :: rest => quotedLength k + 2 + bulk v + bulkOfMembers rest

end

mutual

/-- Forty times the bytes that a value is at least read from, and one behind it. -/
def weight : Json → Nat
  | .str s => 40 * (quotedLength s + 1)
  | .arr items => 80 + weightOfItems items
  | .obj members => 80 + weightOfMembers members
  | .null => 9 * bulk .null
  | .bool b => 9 * bulk (.bool b)
  | .int i => 9 * bulk (.int i)
  | .real x => 9 * bulk (.real x)

def weightOfItems : List Json → Nat
  | [] => 0
  | x :: rest => weight x + weightOfItems rest

def weightOfMembers : List (String × Json) → Nat
  | [] => 0
  | (k, v) :: rest => 40 * (quotedLength k + 1) + weight v + weightOfMembers rest

end

theorem bulkOfMembers_nil : bulkOfMembers [] = 0 := rfl

theorem bulkOfMembers_singleton (k : String) (v : Json) :
    bulkOfMembers [(k, v)] = quotedLength k + 2 + bulk v := rfl

theorem weightOfMembers_singleton (k : String) (v : Json) :
    weightOfMembers [(k, v)] = 40 * (quotedLength k + 1) + weight v := rfl

theorem two_le_quotedLength (s : String) : 2 ≤ quotedLength s := by
  rw [quotedLength_eq]
  omega

mutual

theorem nine_mul_bulk_le : ∀ v : Json, 9 * bulk v ≤ weight v
  | .null | .bool _ | .int _ | .real _ => by
      rw [weight]
  | .str s => by
      rw [weight, bulk]
      omega
  | .arr items => by
      have := nine_mul_bulkOfItems_le items
      rw [weight, bulk]
      omega
  | .obj members => by
      have := nine_mul_bulkOfMembers_le members
      rw [weight, bulk]
      omega

theorem nine_mul_bulkOfItems_le : ∀ xs : List Json, 9 * bulkOfItems xs ≤ weightOfItems xs
  | [] => Nat.le_refl _
  | x :: rest => by
      have := nine_mul_bulk_le x
      have := nine_mul_bulkOfItems_le rest
      rw [weightOfItems, bulkOfItems]
      omega

theorem nine_mul_bulkOfMembers_le : ∀ ms : List (String × Json),
    9 * bulkOfMembers ms ≤ weightOfMembers ms
  | [] => Nat.le_refl _
  | (k, v) :: rest => by
      have := nine_mul_bulk_le v
      have := nine_mul_bulkOfMembers_le rest
      have := two_le_quotedLength k
      rw [weightOfMembers, bulkOfMembers]
      omega

end

/-! ## The text of a value is within its bulk -/

/-- The two forms on one line. -/
structure Form.OneLine (f : Form) : Prop where
  reals : f.reals = .dense ∨ f.reals = .plain
  colon : (encodeChars f.colon).length ≤ 2
  comma : (encodeChars f.comma).length ≤ 2
  indent : f.indent = none
  breaks : '\n' ∉ f.colon ∧ '\n' ∉ f.comma

theorem oneLine_formFor (v : Json) : (v.formFor 0).OneLine := by
  unfold formFor
  rw [if_pos rfl]
  split
  · exact ⟨.inl rfl, by decide, by decide, rfl, by decide⟩
  · exact ⟨.inr rfl, by decide, by decide, rfl, by decide⟩

section
variable {f : Form}

theorem Form.OneLine.lineBreak (hf : f.OneLine) (level : Nat) : f.lineBreak level = [] := by
  rw [Form.lineBreak, hf.indent]

mutual

theorem length_chars_le (hf : f.OneLine) : ∀ (v : Json) (level : Nat),
    (encodeChars (chars f level v)).length + 2 ≤ bulk v
  | .null, _ => Nat.le_refl _
  | .bool true, _ => Nat.le_refl _
  | .bool false, _ => Nat.le_refl _
  | .int i, level => by
      rw [chars, bulk, length_encodeChars_of_numeral (numeral_intChars i)]
  | .real x, level => by
      rw [chars, bulk, length_encodeChars_of_numeral (numeral_layout _ _)]
      rcases hf.reals with h | h <;> rw [h] <;> omega
  | .str s, _ => Nat.le_refl _
  | .arr [], _ => Nat.le_refl _
  | .obj [], _ => Nat.le_refl _
  | .arr (x :: rest), level => by
      have hx := length_chars_le hf x (level + 1)
      have hrest := length_moreItems_le hf rest (level + 1)
      have hopen : (String.utf8EncodeChar '[').length = 1 := rfl
      have hclose : (encodeChars [']']).length = 1 := rfl
      rw [chars, hf.lineBreak, hf.lineBreak, bulk, bulkOfItems, encodeChars_cons]
      simp only [List.nil_append, List.append_nil, encodeChars_append, List.length_append]
      omega
  | .obj ((k, v) :: rest), level => by
      have hv := length_chars_le hf v (level + 1)
      have hrest := length_moreMembers_le hf rest (level + 1)
      have hcolon := hf.colon
      have hopen : (String.utf8EncodeChar '\x7b').length = 1 := rfl
      have hclose : (encodeChars ['\x7d']).length = 1 := rfl
      rw [chars, hf.lineBreak, hf.lineBreak, bulk, bulkOfMembers, quotedLength, encodeChars_cons]
      simp only [List.nil_append, List.append_nil, encodeChars_append, List.length_append]
      omega

theorem length_moreItems_le (hf : f.OneLine) : ∀ (xs : List Json) (level : Nat),
    (encodeChars (moreItems f level xs)).length ≤ bulkOfItems xs
  | [], _ => Nat.le_refl _
  | x :: rest, level => by
      have hx := length_chars_le hf x level
      have hrest := length_moreItems_le hf rest level
      have hcomma := hf.comma
      rw [moreItems, hf.lineBreak, bulkOfItems]
      simp only [List.append_nil, encodeChars_append, List.length_append]
      omega

theorem length_moreMembers_le (hf : f.OneLine) : ∀ (ms : List (String × Json)) (level : Nat),
    (encodeChars (moreMembers f level ms)).length ≤ bulkOfMembers ms
  | [], _ => Nat.le_refl _
  | (k, v) :: rest, level => by
      have hv := length_chars_le hf v level
      have hrest := length_moreMembers_le hf rest level
      have hcomma := hf.comma
      have hcolon := hf.colon
      rw [moreMembers, hf.lineBreak, bulkOfMembers, quotedLength]
      simp only [List.append_nil, encodeChars_append, List.length_append]
      omega

end

end

end ScreenBridge.Json
