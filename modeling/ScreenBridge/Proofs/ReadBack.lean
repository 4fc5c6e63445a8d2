import Mathlib.Algebra.Group.Int.Defs
import ScreenBridge.Proofs.BreakOff
import ScreenBridge.Proofs.TokenText

/-!
# What is written is read back

All three forms of text differ in blanks alone: what stands behind a colon or a
comma, and before an item. The reader skips blanks wherever the writer puts
them, so one induction over a value serves every form that is `Legible`, and
the choice of the form need not be looked at.

The induction follows the writer. Behind a value stands a comma, a bracket or a
blank, so a number ends where it was written to end. The reader collects items
in reverse and writes members to a keyed list; with distinct keys that list
grows at its end (`Keyed.set_eq_append`), and so the order is kept. Fuel that
covers the input is handed on as in `ReaderSteps.lean`.

Not every value has a text: writer and reader both have a limit on the digits of
a whole number, and the writer's is the wider one by a minus sign.
-/

namespace ScreenBridge.Json

open Text.Utf8 (encodeChars encodeChars_append encodeChars_cons encodeChars_nil)

/-! ## Values that a text fixes -/

mutual

/-- Whether a value has no floating point number in it and no object with a key
twice. -/
def isExact : Json → Bool
  | .real _ => false
  | .arr items => itemsExact items
  | .obj members => (Keyed.keys members).Nodup && membersExact members
  | _ => true

def itemsExact : List Json → Bool
  | [] => true
  | x :: rest => x.isExact && itemsExact rest

def membersExact : List (String × Json) → Bool
  | [] => true
  | (_, v) :: rest => v.isExact && membersExact rest

end

/-! ## Blanks -/

/-- Characters that the reader skips. -/
def AreBlank (cs : List Char) : Prop :=
  ∀ c ∈ cs, c = ' ' ∨ c = '\n'

/-- A form in which only blanks are added to the signs that separate parts. -/
structure Form.Legible (f : Form) : Prop where
  colon : ∃ blanks, f.colon = ':' :: blanks ∧ AreBlank blanks
  comma : ∃ blanks, f.comma = ',' :: blanks ∧ AreBlank blanks

theorem areBlank_nil : AreBlank [] := nofun

theorem areBlank_lineBreak (f : Form) (level : Nat) : AreBlank (f.lineBreak level) := by
  unfold Form.lineBreak
  split
  · exact areBlank_nil
  · intro c hc
    rcases List.mem_cons.mp hc with rfl | hspace
    · exact .inr rfl
    · exact .inl (List.eq_of_mem_replicate hspace)

section
variable {size fuel depth level : Nat} {f : Form} {bytes here rest : Bytes} {cs : List Char}

theorem skipBlanks_areBlank (hcs : AreBlank cs) (bytes : Bytes) :
    skipBlanks (encodeChars cs ++ bytes) = skipBlanks bytes := by
  induction cs with
  | nil => rfl
  | cons c cs ih =>
      have hrest := ih fun c' hc' => hcs c' (List.mem_cons_of_mem _ hc')
      rw [encodeChars_cons, List.append_assoc]
      rcases hcs c List.mem_cons_self with rfl | rfl <;> exact hrest

theorem skipBlanks_of_not_blank {b : UInt8} (hb : isBlankByte b = false) (bytes : Bytes) :
    skipBlanks (b :: bytes) = b :: bytes := by
  rw [skipBlanks, List.dropWhile_cons_of_neg (by simp [hb])]

theorem readValue_areBlank (hcs : AreBlank cs) (bytes : Bytes) :
    readValue size fuel depth (encodeChars cs ++ bytes) = readValue size fuel depth bytes := by
  cases fuel with
  | zero => rw [readValue, readValue]
  | succ fuel => rw [readValue, readValue, skipBlanks_areBlank hcs]

/-! ## What a value starts with, and what stands behind it -/

/-- Bytes that the reader takes for a part rather than for the end: neither a blank
nor the closing sign stands first. -/
def Begins (closing : UInt8) (bytes : Bytes) : Prop :=
  ∃ b rest, bytes = b :: rest ∧ isBlankByte b = false ∧ b ≠ closing

theorem Begins.append {closing : UInt8} (h : Begins closing bytes) (rest : Bytes) :
    Begins closing (bytes ++ rest) := by
  obtain ⟨b, more, rfl, hb⟩ := h
  exact ⟨b, more ++ rest, rfl, hb⟩

theorem Begins.length_pos {closing : UInt8} (h : Begins closing bytes) : 0 < bytes.length := by
  obtain ⟨b, more, rfl, -⟩ := h
  exact Nat.succ_pos _

/-- A byte that a number can start with. -/
def IsNumeric (b : UInt8) : Prop :=
  (isDigitByte b || b == 0x2d) = true

instance : DecidablePred IsNumeric := fun _ => inferInstanceAs (Decidable (_ = true))

theorem intChars_starts (i : Int) :
    ∃ b more, encodeChars (intChars i) = b :: more ∧ IsNumeric b := by
  obtain ⟨d, more, hds, hd⟩ := toDigits_starts i.natAbs
  rw [intChars]
  split
  · exact ⟨0x2d, d :: more, by rw [encodeChars_cons, hds]; rfl, rfl⟩
  · exact ⟨d, more, hds, by rw [IsNumeric, hd]; rfl⟩

theorem IsNumeric.not_blank {b : UInt8} (hb : IsNumeric b) : isBlankByte b = false := by
  rw [Bool.eq_false_iff]
  intro hblank
  simp only [isBlankByte, Bool.or_eq_true, beq_iff_eq] at hblank
  rcases hblank with ((rfl | rfl) | rfl) | rfl <;> cases hb

theorem begins_chars {v : Json} (hv : v.isExact = true) :
    Begins 0x5d (encodeChars (chars f level v)) := by
  cases v with
  | null | str => exact ⟨_, _, rfl, by decide, by decide⟩
  | bool b => cases b <;> exact ⟨_, _, rfl, by decide, by decide⟩
  | int i =>
      obtain ⟨b, more, hb, hnum⟩ := intChars_starts i
      refine ⟨b, more, by rw [chars, hb], hnum.not_blank, ?_⟩
      rintro rfl
      cases hnum
  | real x => cases hv
  | arr items => cases items <;> exact ⟨_, _, rfl, by decide, by decide⟩
  | obj members => cases members <;> exact ⟨_, _, rfl, by decide, by decide⟩

theorem begins_quoted (k : String) : Begins 0x7d (encodeChars (quotedChars k.toList)) :=
  ⟨_, _, rfl, by decide, by decide⟩

/-- A part of a list or an object ends with a comma, a bracket or a blank. -/
theorem endsNumber_of_ascii {b : UInt8}
    (hb : b = 0x2c ∨ b = 0x5d ∨ b = 0x7d ∨ b = 0x20 ∨ b = 0x0a) (rest : Bytes) :
    EndsNumber (b :: rest) := by
  intro c hc
  cases hc
  rcases hb with rfl | rfl | rfl | rfl | rfl <;> decide

/-- A closing sign, on a line of its own or not. -/
theorem endsNumber_closing {b : UInt8} (hcs : AreBlank cs) (hb : b = 0x5d ∨ b = 0x7d) :
    EndsNumber (encodeChars cs ++ b :: rest) := by
  cases cs with
  | nil => exact endsNumber_of_ascii (.inr (hb.imp_right .inl)) rest
  | cons c cs =>
      rcases hcs c List.mem_cons_self with rfl | rfl
      · exact endsNumber_of_ascii (.inr (.inr (.inr (.inl rfl)))) _
      · exact endsNumber_of_ascii (.inr (.inr (.inr (.inr rfl)))) _

theorem endsNumber_comma (hf : f.Legible) (bytes : Bytes) :
    EndsNumber (encodeChars f.comma ++ bytes) := by
  obtain ⟨blanks, hcomma, -⟩ := hf.comma
  rw [hcomma]
  exact endsNumber_of_ascii (.inl rfl) _

theorem endsNumber_moreItems (hf : f.Legible) (xs : List Json) (hrest : EndsNumber rest) :
    EndsNumber (encodeChars (moreItems f level xs) ++ rest) := by
  cases xs with
  | nil => exact hrest
  | cons x xs =>
      rw [moreItems]
      simp only [encodeChars_append, List.append_assoc]
      exact endsNumber_comma hf _

theorem endsNumber_moreMembers (hf : f.Legible) (ms : List (String × Json))
    (hrest : EndsNumber rest) : EndsNumber (encodeChars (moreMembers f level ms) ++ rest) := by
  cases ms with
  | nil => exact hrest
  | cons m ms =>
      rw [moreMembers]
      simp only [encodeChars_append, List.append_assoc]
      exact endsNumber_comma hf _

/-! ## From one part to the next -/

theorem continues_first {closing : UInt8} (hcs : AreBlank cs) (hhere : Begins closing here) :
    Continues closing true (encodeChars cs ++ here) here := by
  obtain ⟨b, more, rfl, hb, hne⟩ := hhere
  exact .first ((skipBlanks_areBlank hcs _).trans (skipBlanks_of_not_blank hb _)) hne

theorem continues_comma {closing : UInt8} (hf : f.Legible) (hcs : AreBlank cs)
    (hhere : Begins closing here) :
    Continues closing false (encodeChars f.comma ++ (encodeChars cs ++ here)) here := by
  obtain ⟨b, more, rfl, hb, hne⟩ := hhere
  obtain ⟨blanks, hcomma, hblanks⟩ := hf.comma
  have hskip : skipBlanks (encodeChars blanks ++ (encodeChars cs ++ b :: more)) = b :: more := by
    rw [skipBlanks_areBlank hblanks, skipBlanks_areBlank hcs, skipBlanks_of_not_blank hb]
  rw [hcomma]
  exact .comma (skipBlanks_of_not_blank (by decide) _) hskip hne

/-- A list is read from here on, whatever the fuel. -/
def ReadsItems (size depth : Nat) (first : Bool) (acc : List Json) (bytes : Bytes) (v : Json)
    (rest : Bytes) : Prop :=
  ∀ fuel, 3 * bytes.length ≤ fuel → readItems size fuel depth first acc bytes = .ok (v, rest)

/-- An object is read from here on, whatever the fuel. -/
def ReadsMembers (size depth : Nat) (first : Bool) (acc : Keyed Json) (bytes : Bytes) (v : Json)
    (rest : Bytes) : Prop :=
  ∀ fuel, 3 * bytes.length ≤ fuel → readMembers size fuel depth first acc bytes = .ok (v, rest)

section
variable {first : Bool} {v w : Json} {rest' : Bytes}

theorem readsItems_item {acc : List Json} (hnext : Continues 0x5d first bytes here)
    (hv : Reads size depth here v rest)
    (hlater : ReadsItems size depth false (v :: acc) rest w rest') :
    ReadsItems size depth first acc bytes w rest' := by
  intro fuel hfuel
  have hle := hnext.length_le
  have hlt := hv.behind.length_lt
  obtain ⟨fuel, rfl⟩ : ∃ n, fuel = n + 2 := ⟨fuel - 2, by omega⟩
  rw [readItems_of_continues hnext, readItem_succ, (readValue_ok_iff (by omega)).mpr hv]
  exact hlater fuel (by omega)

theorem readsMembers_member {acc : Keyed Json} {k : String} (hf : f.Legible)
    (hnext : Continues 0x7d first bytes
      (encodeChars (quotedChars k.toList) ++ (encodeChars f.colon ++ here)))
    (hv : Reads size depth here v rest)
    (hlater : ReadsMembers size depth false (acc.set k v) rest w rest') :
    ReadsMembers size depth first acc bytes w rest' := by
  intro fuel hfuel
  obtain ⟨blanks, hcolon, hblanks⟩ := hf.colon
  have hskip : skipBlanks (encodeChars f.colon ++ here) = 0x3a :: (encodeChars blanks ++ here) := by
    rw [hcolon]
    exact skipBlanks_of_not_blank (by decide) _
  rw [encode_quotedChars] at hnext
  have hlt := (behind_colon hnext (@readString_quoted size _ k) hskip).length_lt
  have hlt' := hv.behind.length_lt
  rw [List.length_append] at hlt
  obtain ⟨fuel, rfl⟩ : ∃ n, fuel = n + 2 := ⟨fuel - 2, by omega⟩
  rw [readMembers_of_continues hnext, readMember_of_key (readString_quoted k) hskip,
    readValue_areBlank hblanks, (readValue_ok_iff (by omega)).mpr hv]
  exact hlater fuel (by omega)

theorem readsItems_closing (hcs : AreBlank cs) (acc : List Json) :
    ReadsItems size depth first acc (encodeChars cs ++ 0x5d :: rest) (.arr acc.reverse) rest := by
  intro fuel hfuel
  rw [List.length_append, List.length_cons] at hfuel
  obtain ⟨fuel, rfl⟩ : ∃ n, fuel = n + 1 := ⟨fuel - 1, by omega⟩
  rw [readItems, skipBlanks_areBlank hcs, skipBlanks_of_not_blank (by decide)]
  rfl

theorem readsMembers_closing (hcs : AreBlank cs) (acc : Keyed Json) :
    ReadsMembers size depth first acc (encodeChars cs ++ 0x7d :: rest) (.obj acc) rest := by
  intro fuel hfuel
  rw [List.length_append, List.length_cons] at hfuel
  obtain ⟨fuel, rfl⟩ : ∃ n, fuel = n + 1 := ⟨fuel - 1, by omega⟩
  rw [readMembers, skipBlanks_areBlank hcs, skipBlanks_of_not_blank (by decide)]
  rfl

theorem reads_list (h : ReadsItems size depth true [] bytes v rest) :
    Reads size (depth + 1) (0x5b :: bytes) v rest := by
  rw [Reads, readFuel, readValue, skipBlanks_of_not_blank (by decide)]
  exact h _ (by rw [List.length_cons]; omega)

theorem reads_object (h : ReadsMembers size depth true [] bytes v rest) :
    Reads size (depth + 1) (0x7b :: bytes) v rest := by
  rw [Reads, readFuel, readValue, skipBlanks_of_not_blank (by decide)]
  exact h _ (by rw [List.length_cons]; omega)

end

/-! ## Every value is read back -/

theorem readWord_append (size : Nat) (letters : Bytes) (v : Json) (rest : Bytes) :
    readWord size letters v (letters ++ rest) = .ok (v, rest) := by
  rw [readWord, if_neg (by simp), if_pos List.take_left, List.drop_left]

theorem readValue_number {b : UInt8} (hb : IsNumeric b) :
    readValue size (fuel + 1) depth (b :: bytes) = readNumber size (b :: bytes) := by
  have hne : ∀ c, ¬ IsNumeric c → b ≠ c := by
    rintro c hc rfl
    exact hc hb
  rw [readValue, skipBlanks_of_not_blank hb.not_blank]
  dsimp only
  rw [if_neg (hne _ (by decide)), if_neg (hne _ (by decide)), if_neg (hne _ (by decide)),
    if_neg (hne _ (by decide)), if_neg (hne _ (by decide)), if_neg (hne _ (by decide))]
  exact if_pos hb

theorem reads_scalar {v : Json} (hv : v.isExact = true) (hshort : AreShort v.wholes)
    (hscalar : v.levels = 0) (hrest : EndsNumber rest) :
    Reads size depth (encodeChars (chars f level v) ++ rest) v rest := by
  rw [Reads, readFuel]
  cases v with
  | null =>
      rw [readValue]
      exact readWord_append size [0x75, 0x6c, 0x6c] .null rest
  | bool b =>
      rw [readValue]
      cases b
      · exact readWord_append size [0x61, 0x6c, 0x73, 0x65] (.bool false) rest
      · exact readWord_append size [0x72, 0x75, 0x65] (.bool true) rest
  | int i =>
      obtain ⟨b, more, hb, hnum⟩ := intChars_starts i
      have hread := @readNumber_intChars size rest i hrest (hshort i List.mem_cons_self)
      rw [chars]
      rw [hb, List.cons_append] at hread ⊢
      rw [readValue_number hnum, hread]
  | real x => cases hv
  | str s =>
      rw [chars, encode_quotedChars, readValue, skipBlanks_of_not_blank (by decide)]
      dsimp only
      rw [if_pos rfl, readString_quoted]
  | arr items => cases hscalar
  | obj members => cases hscalar

theorem encode_list (x : Json) (xs : List Json) :
    encodeChars (chars f level (.arr (x :: xs))) ++ rest =
      0x5b :: (encodeChars (f.lineBreak (level + 1)) ++ (encodeChars (chars f (level + 1) x) ++
        (encodeChars (moreItems f (level + 1) xs) ++
          (encodeChars (f.lineBreak level) ++ 0x5d :: rest)))) := by
  simp only [chars, encodeChars_cons, encodeChars_append, List.append_assoc]
  rfl

theorem encode_object (k : String) (x : Json) (ms : List (String × Json)) :
    encodeChars (chars f level (.obj ((k, x) :: ms))) ++ rest =
      0x7b :: (encodeChars (f.lineBreak (level + 1)) ++ (encodeChars (quotedChars k.toList) ++
        (encodeChars f.colon ++ (encodeChars (chars f (level + 1) x) ++
          (encodeChars (moreMembers f (level + 1) ms) ++
            (encodeChars (f.lineBreak level) ++ 0x7d :: rest)))))) := by
  simp only [chars, encodeChars_cons, encodeChars_append, List.append_assoc]
  rfl

mutual

theorem reads_chars (hf : f.Legible) : ∀ (v : Json) {depth level : Nat} {rest : Bytes},
    v.isExact = true → AreShort v.wholes → v.levels ≤ depth → EndsNumber rest →
    Reads size depth (encodeChars (chars f level v) ++ rest) v rest
  | .null, _, _, _, hv, hshort, _, hrest => reads_scalar hv hshort rfl hrest
  | .bool _, _, _, _, hv, hshort, _, hrest => reads_scalar hv hshort rfl hrest
  | .int _, _, _, _, hv, hshort, _, hrest => reads_scalar hv hshort rfl hrest
  | .real _, _, _, _, hv, hshort, _, hrest => reads_scalar hv hshort rfl hrest
  | .str _, _, _, _, hv, hshort, _, hrest => reads_scalar hv hshort rfl hrest
  | .arr [], depth + 1, _, _, _, _, _, _ => reads_list (readsItems_closing areBlank_nil [])
  | .obj [], depth + 1, _, _, _, _, _, _ => reads_object (readsMembers_closing areBlank_nil [])
  | .arr (x :: xs), depth + 1, level, rest, hv, hshort, hdepth, _ => by
      rw [isExact, itemsExact, Bool.and_eq_true] at hv
      rw [wholes, wholesOfItems, areShort_append] at hshort
      rw [levels, levelsOfItems] at hdepth
      have hbreak := areBlank_lineBreak f level
      rw [encode_list]
      refine reads_list (readsItems_item
        (continues_first (areBlank_lineBreak f _) ((begins_chars hv.1).append _))
        (reads_chars hf x hv.1 hshort.1 (by omega) ?_)
        (readsItems_moreItems hf xs [x] hv.2 hshort.2 (by omega) hbreak))
      exact endsNumber_moreItems hf xs (endsNumber_closing hbreak (.inl rfl))
  | .obj ((k, x) :: ms), depth + 1, level, rest, hv, hshort, hdepth, _ => by
      rw [isExact, membersExact, Bool.and_eq_true, Bool.and_eq_true, decide_eq_true_iff] at hv
      rw [wholes, wholesOfMembers, areShort_append] at hshort
      rw [levels, levelsOfMembers] at hdepth
      have hbreak := areBlank_lineBreak f level
      rw [encode_object]
      refine reads_object (readsMembers_member hf
        (continues_first (areBlank_lineBreak f _) ((begins_quoted k).append _))
        (reads_chars hf x hv.2.1 hshort.1 (by omega) ?_)
        (readsMembers_moreMembers hf ms [(k, x)] hv.2.2 hshort.2 hv.1 (by omega) hbreak))
      exact endsNumber_moreMembers hf ms (endsNumber_closing hbreak (.inr rfl))

theorem readsItems_moreItems (hf : f.Legible) : ∀ (xs acc : List Json) {depth level : Nat}
    {cs : List Char} {rest : Bytes},
    itemsExact xs = true → AreShort (wholesOfItems xs) → levelsOfItems xs ≤ depth →
    AreBlank cs →
    ReadsItems size depth false acc
      (encodeChars (moreItems f level xs) ++ (encodeChars cs ++ 0x5d :: rest))
      (.arr (acc.reverse ++ xs)) rest
  | [], acc, _, _, _, _, _, _, _, hcs => by
      rw [List.append_nil]
      exact readsItems_closing hcs acc
  | x :: xs, acc, depth, level, cs, rest, hxs, hshort, hdepth, hcs => by
      rw [itemsExact, Bool.and_eq_true] at hxs
      rw [wholesOfItems, areShort_append] at hshort
      rw [levelsOfItems] at hdepth
      rw [List.append_cons acc.reverse, ← List.reverse_cons, moreItems]
      simp only [encodeChars_append, List.append_assoc]
      refine readsItems_item
        (continues_comma hf (areBlank_lineBreak f _) ((begins_chars hxs.1).append _))
        (reads_chars hf x hxs.1 hshort.1 (by omega) ?_)
        (readsItems_moreItems hf xs (x :: acc) hxs.2 hshort.2 (by omega) hcs)
      exact endsNumber_moreItems hf xs (endsNumber_closing hcs (.inl rfl))

theorem readsMembers_moreMembers (hf : f.Legible) : ∀ (ms : List (String × Json))
    (acc : Keyed Json) {depth level : Nat} {cs : List Char} {rest : Bytes},
    membersExact ms = true → AreShort (wholesOfMembers ms) → (Keyed.keys (acc ++ ms)).Nodup →
    levelsOfMembers ms ≤ depth → AreBlank cs →
    ReadsMembers size depth false acc
      (encodeChars (moreMembers f level ms) ++ (encodeChars cs ++ 0x7d :: rest))
      (.obj (acc ++ ms)) rest
  | [], acc, _, _, _, _, _, _, _, _, hcs => by
      rw [List.append_nil]
      exact readsMembers_closing hcs acc
  | (k, x) :: ms, acc, depth, level, cs, rest, hms, hshort, hnodup, hdepth, hcs => by
      rw [membersExact, Bool.and_eq_true] at hms
      rw [wholesOfMembers, areShort_append] at hshort
      rw [levelsOfMembers] at hdepth
      rw [List.append_cons acc] at hnodup ⊢
      have hnew : k ∉ acc.keys := by
        intro hk
        simp only [Keyed.keys, List.map_append, List.nodup_append] at hnodup
        exact hnodup.1.2.2 k hk k List.mem_cons_self rfl
      rw [← Keyed.set_eq_append hnew] at hnodup ⊢
      rw [moreMembers]
      simp only [encodeChars_append, List.append_assoc]
      refine readsMembers_member hf
        (continues_comma hf (areBlank_lineBreak f _) ((begins_quoted k).append _))
        (reads_chars hf x hms.1 hshort.1 (by omega) ?_)
        (readsMembers_moreMembers hf ms (acc.set k x) hms.2 hshort.2 hnodup (by omega) hcs)
      exact endsNumber_moreMembers hf ms (endsNumber_closing hcs (.inr rfl))

end

end

theorem isWritable_iff {v : Json} :
    v.isWritable = true ↔ ∀ i ∈ v.wholes, (Nat.toDigits 10 i.natAbs).length ≤ maxDigits := by
  simp only [isWritable, List.all_eq_true, decide_eq_true_iff]

/-- What is short enough to be read is short enough to be written. -/
theorem isWritable_of_areShort {v : Json} (h : AreShort v.wholes) : v.isWritable = true := by
  refine isWritable_iff.mpr fun i hi => ?_
  have hlength := h i hi
  rw [length_intChars] at hlength
  omega

end ScreenBridge.Json
