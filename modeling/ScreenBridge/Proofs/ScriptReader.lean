import ScreenBridge.Proofs.LineBreaks

/-!
# A reader of literals in single quotes

A literal of the script goes from its opening quote to the first quote that no
backslash stands in front of, and must not hold a line feed or a carriage return
but behind a backslash. What it comes to are code units of UTF-16, since that is
what a string of the script is made of. A backslash is read together with what
follows it: one of the short escapes, digits of a character, a line that goes
on, or a character that stands for itself. The octal escapes of old are none,
because a module has no place for them.

There is no way to write less than a text comes to: an escape has more code
units than it stands for (`readEscape_spec`). So a text whose value is as long
as itself was read as it stands, and there was nothing in it to escape
(`readInside_spec`). That says when a string may be put between quotes without
escapes (`isLiteralOf_between_iff`), and reading what is escaped character by
character says when the escapes are enough (`isLiteralOf_scriptString_iff`).
-/

namespace ScreenBridge.Source

/-! ## The reader -/

/-- A code point in the code units of UTF-16. -/
def codeUnits (n : Nat) : List Nat :=
  if n < 0x10000 then [n]
  else [0xd800 + (n - 0x10000) / 0x400, 0xdc00 + (n - 0x10000) % 0x400]

/-- What a text is as a string of the script. -/
def scriptValue (cs : List Char) : List Nat :=
  cs.flatMap fun c => codeUnits c.toNat

def hexDigit? (c : Char) : Option Nat :=
  if '0' ≤ c ∧ c ≤ '9' then some (c.toNat - 48)
  else if 'a' ≤ c ∧ c ≤ 'f' then some (c.toNat - 87)
  else if 'A' ≤ c ∧ c ≤ 'F' then some (c.toNat - 55)
  else none

/-- The number in a count of hexadecimal digits at the front of a text, behind the digits that make
up `value`, and the rest of the text. -/
def readHex : (count value : Nat) → List Char → Option (Nat × List Char)
  | 0, value, text => some (value, text)
  | _ + 1, _, [] => none
  | count + 1, value, c :: rest =>
    (hexDigit? c).bind fun d => readHex count (16 * value + d) rest

/-- The code point in hexadecimal digits up to a closing brace, and the rest of the text; `begun`
says that there are digits before, which make up `value`. -/
def readCodePoint (begun : Bool) (value : Nat) : List Char → Option (Nat × List Char)
  | [] => none
  | c :: rest =>
    if c = '\x7d' then if begun then some (value, rest) else none
    else (hexDigit? c).bind fun d =>
      if 16 * value + d ≤ 0x10ffff then readCodePoint true (16 * value + d) rest else none

/-- The characters that stand for one code unit behind a backslash. -/
def shortEscapes : List (Char × Nat) :=
  [('\'', 0x27), ('"', 0x22), ('\\', 0x5c), ('b', 0x08), ('f', 0x0c), ('n', 0x0a), ('r', 0x0d),
   ('t', 0x09), ('v', 0x0b)]

def endsLine (c : Char) : Bool :=
  c = '\n' || c = '\r' || c = '\u2028' || c = '\u2029'

/-- The code point whose number follows a letter behind a backslash, and the text behind it. -/
def readNumbered (c : Char) (rest : List Char) : Option (Nat × List Char) :=
  if c = 'x' then readHex 2 0 rest
  else match rest with
    | '\x7b' :: rest => readCodePoint false 0 rest
    | rest => readHex 4 0 rest

/-- A text behind the end of a line, which may be a carriage return with a line feed. -/
def behindLineEnd : Char → List Char → List Char
  | '\r', '\n' :: rest => rest
  | _, rest => rest

/-- What a backslash in front of a character comes to, and the text behind it; none if it is no
escape. -/
def readEscape (c : Char) (rest : List Char) : Option (List Nat × List Char) :=
  match shortEscapes.lookup c with
  | some unit => some ([unit], rest)
  | none =>
    if endsLine c then some ([], behindLineEnd c rest)
    else if c = 'x' ∨ c = 'u' then (readNumbered c rest).map fun p => (codeUnits p.1, p.2)
    else if c = '0' ∧ rest.head?.all (!·.isDigit) then some ([0], rest)
    else if c.isDigit then none
    else some (codeUnits c.toNat, rest)

theorem length_codeUnits_pos (n : Nat) : 0 < (codeUnits n).length := by
  unfold codeUnits
  split <;> simp

theorem length_codeUnits_le (n : Nat) : (codeUnits n).length ≤ 2 := by
  unfold codeUnits
  split <;> simp

theorem scriptValue_cons (c : Char) (cs : List Char) :
    scriptValue (c :: cs) = codeUnits c.toNat ++ scriptValue cs :=
  List.flatMap_cons

theorem scriptValue_append (cs ds : List Char) :
    scriptValue (cs ++ ds) = scriptValue cs ++ scriptValue ds :=
  List.flatMap_append

theorem length_le_scriptValue (cs : List Char) : cs.length ≤ (scriptValue cs).length := by
  induction cs with
  | nil => exact Nat.le_refl 0
  | cons c cs ih =>
      have := length_codeUnits_pos c.toNat
      rw [scriptValue_cons, List.length_append, List.length_cons]
      omega

section
variable {count value n : Nat} {begun : Bool} {c : Char} {rest more : List Char}
  {units : List Nat}

theorem suffix_of_readHex (h : readHex count value rest = some (n, more)) :
    ∃ used, rest = used ++ more ∧ used.length = count := by
  induction count generalizing value rest with
  | zero =>
      cases h
      exact ⟨[], rfl, rfl⟩
  | succ count ih =>
      cases rest with
      | nil => cases h
      | cons c rest =>
          rw [readHex] at h
          obtain ⟨d, -, hrest⟩ := Option.bind_eq_some_iff.mp h
          obtain ⟨used, rfl, hused⟩ := ih hrest
          exact ⟨c :: used, rfl, congrArg (· + 1) hused⟩

theorem suffix_of_readCodePoint (h : readCodePoint begun value rest = some (n, more)) :
    ∃ used, rest = used ++ more := by
  induction rest generalizing begun value with
  | nil => cases h
  | cons c rest ih =>
      rw [readCodePoint] at h
      split at h
      · split at h
        · cases h
          exact ⟨[c], rfl⟩
        · cases h
      · obtain ⟨d, -, hd⟩ := Option.bind_eq_some_iff.mp h
        split at hd
        · obtain ⟨used, rfl⟩ := ih hd
          exact ⟨c :: used, rfl⟩
        · cases hd

theorem suffix_of_readNumbered (h : readNumbered c rest = some (n, more)) :
    ∃ used, rest = used ++ more ∧ 0 < used.length := by
  unfold readNumbered at h
  split at h
  · obtain ⟨used, hused, hlength⟩ := suffix_of_readHex h
    exact ⟨used, hused, by omega⟩
  · split at h
    · obtain ⟨used, hused⟩ := suffix_of_readCodePoint h
      exact ⟨'\x7b' :: used, congrArg ('\x7b' :: ·) hused, Nat.succ_pos _⟩
    · obtain ⟨used, hused, hlength⟩ := suffix_of_readHex h
      exact ⟨used, hused, by omega⟩

theorem suffix_behindLineEnd (c : Char) (rest : List Char) :
    ∃ used, rest = used ++ behindLineEnd c rest := by
  unfold behindLineEnd
  split
  · exact ⟨['\n'], rfl⟩
  · exact ⟨[], rfl⟩

/-- Even without its backslash an escape has as many code units as it comes to. -/
theorem readEscape_spec (h : readEscape c rest = some (units, more)) :
    ∃ used, rest = used ++ more ∧ units.length ≤ (scriptValue (c :: used)).length := by
  have hbound (used : List Char) :
      (codeUnits c.toNat).length + used.length ≤ (scriptValue (c :: used)).length := by
    have hlength := length_le_scriptValue used
    rw [scriptValue_cons, List.length_append]
    omega
  have hone : 1 ≤ (scriptValue [c]).length := Nat.le_trans (length_codeUnits_pos _) (hbound [])
  unfold readEscape at h
  split at h
  · cases h
    exact ⟨[], rfl, hone⟩
  · split at h
    · cases h
      obtain ⟨used, hused⟩ := suffix_behindLineEnd c rest
      exact ⟨used, hused, Nat.zero_le _⟩
    · split at h
      · obtain ⟨⟨n, behind⟩, hn, heq⟩ := Option.map_eq_some_iff.mp h
        cases heq
        obtain ⟨used, hused, hpos⟩ := suffix_of_readNumbered hn
        have htwo := length_codeUnits_le n
        have hfirst := length_codeUnits_pos c.toNat
        have hall := hbound used
        refine ⟨used, hused, ?_⟩
        dsimp only
        omega
      · split at h
        · cases h
          exact ⟨[], rfl, hone⟩
        · split at h
          · cases h
          · cases h
            exact ⟨[], rfl, hbound []⟩

/-- The value of a text behind an opening quote up to the closing one, and the text behind that;
none if the text has no closing quote, a line break in front of it, or what is no escape. -/
def readInside : List Char → Option (List Nat × List Char)
  | [] => none
  | '\\' :: c :: rest =>
    match h : readEscape c rest with
    | none => none
    | some (units, more) =>
      have : more.length < rest.length + 2 := by
        obtain ⟨used, rfl, -⟩ := readEscape_spec h
        rw [List.length_append]
        omega
      (readInside more).map fun p => (units ++ p.1, p.2)
  | c :: rest =>
    if c = '\'' then some ([], rest)
    else if c = '\n' ∨ c = '\r' ∨ c = '\\' then none
    else (readInside rest).map fun p => (codeUnits c.toNat ++ p.1, p.2)
termination_by text => text.length

/-- A character that stands for itself in a literal. -/
def Bare (c : Char) : Prop :=
  c ≠ '\'' ∧ c ≠ '\\' ∧ c ≠ '\n' ∧ c ≠ '\r'

instance (c : Char) : Decidable (Bare c) :=
  inferInstanceAs (Decidable (_ ∧ _))

theorem readInside_quote (rest : List Char) : readInside ('\'' :: rest) = some ([], rest) := by
  rw [readInside, if_pos rfl]
  intro c rest' heq
  exact absurd heq (by decide)

theorem readInside_bare (hc : Bare c) (rest : List Char) :
    readInside (c :: rest) = (readInside rest).map fun p => (codeUnits c.toNat ++ p.1, p.2) := by
  obtain ⟨hquote, hslash, hfeed, hreturn⟩ := hc
  rw [readInside, if_neg hquote, if_neg (by simp [hslash, hfeed, hreturn])]
  intro c' rest' heq
  exact absurd heq hslash

theorem readInside_escape (h : readEscape c rest = some (units, more)) :
    readInside ('\\' :: c :: rest) = (readInside more).map fun p => (units ++ p.1, p.2) := by
  rw [readInside]
  split
  · next hnone => rw [h] at hnone; cases hnone
  · next heq => rw [h] at heq; cases heq; rfl

theorem readInside_noEscape (h : readEscape c rest = none) :
    readInside ('\\' :: c :: rest) = none := by
  rw [readInside]
  split
  · rfl
  · next heq => rw [h] at heq; cases heq

/-- What is read ends at a quote. Either nothing in front of it was an escape, and then the value is
the text itself, or the value is shorter than the text. -/
theorem readInside_spec {text : List Char} (h : readInside text = some (units, more)) :
    ∃ inside, text = inside ++ '\'' :: more ∧
      (units = scriptValue inside ∧ (∀ c ∈ inside, Bare c) ∨
        units.length < (scriptValue inside).length) := by
  induction text using readInside.induct generalizing units with
  | case1 => simp [readInside] at h
  | case2 c rest hnone =>
      rw [readInside_noEscape hnone] at h
      cases h
  | case3 c rest escaped behind hescape _ ih =>
      rw [readInside_escape hescape] at h
      obtain ⟨⟨later, more⟩, hlater, heq⟩ := Option.map_eq_some_iff.mp h
      cases heq
      obtain ⟨used, hused, hshort⟩ := readEscape_spec hescape
      obtain ⟨inside, rfl, hinside⟩ := ih hlater
      refine ⟨'\\' :: c :: (used ++ inside), by simp [hused], .inr ?_⟩
      -- The backslash is what makes the text longer than its value.
      have hslash := length_codeUnits_pos '\\'.toNat
      have hrest : later.length ≤ (scriptValue inside).length :=
        hinside.elim (fun h => Nat.le_of_eq (congrArg List.length h.1)) Nat.le_of_lt
      rw [scriptValue_cons, ← List.cons_append, scriptValue_append]
      simp only [List.length_append]
      omega
  | case4 =>
      rw [readInside_quote] at h
      cases h
      exact ⟨[], rfl, .inl ⟨rfl, by simp⟩⟩
  | case5 c rest hfront hquote hstops =>
      rw [readInside.eq_3 _ _ hfront, if_neg hquote, if_pos hstops] at h
      cases h
  | case6 c rest _ hquote hstops ih =>
      have hbare : Bare c := by
        refine ⟨hquote, ?_, ?_, ?_⟩ <;> (intro heq; exact hstops (by simp [heq]))
      rw [readInside_bare hbare] at h
      obtain ⟨⟨later, more⟩, hlater, heq⟩ := Option.map_eq_some_iff.mp h
      cases heq
      obtain ⟨inside, rfl, hinside⟩ := ih hlater
      refine ⟨c :: inside, rfl, ?_⟩
      rw [scriptValue_cons]
      cases hinside with
      | inl hsame =>
          refine .inl ⟨by rw [hsame.1], fun c' hc' => ?_⟩
          cases hc' with
          | head => exact hbare
          | tail _ hc' => exact hsame.2 c' hc'
      | inr hless =>
          right
          simp only [List.length_append]
          omega

end

/-! ## Literals of a text -/

/-- The value of a literal in single quotes at the front of a text, and the text behind it. -/
def readLiteral : List Char → Option (List Nat × List Char)
  | '\'' :: rest => readInside rest
  | _ => none

-- A character above the first plane may be written as its two units or with its own number.
example : readLiteral "'it\\'s \\ud83d\\ude00\\u\x7b1f600\x7d', x".toList =
    some (scriptValue "it's 😀😀".toList, ", x".toList) := by cbv

/-- One whole literal in single quotes, on one line, whose value is `s`. What stands behind it does
not matter, so it ends at its own last character. -/
structure IsLiteralOf (literal s : String) : Prop where
  unbroken : '\n' ∉ literal.toList ∧ '\r' ∉ literal.toList
  reads : ∀ more, readLiteral (literal.toList ++ more) = some (scriptValue s.toList, more)

/-- The units of a character above the first plane are no characters of their own, so where one
character ends can be told. -/
theorem codeUnits_append_inj {c d : Char} {xs ys : List Nat}
    (h : codeUnits c.toNat ++ xs = codeUnits d.toNat ++ ys) : c = d ∧ xs = ys := by
  suffices c.toNat = d.toNat ∧ xs = ys from ⟨Char.toNat_inj.mp this.1, this.2⟩
  have hc := c.valid
  have hd := d.valid
  simp only [UInt32.isValidChar, Nat.isValidChar, Char.toNat_val] at hc hd
  unfold codeUnits at h
  split at h <;> split at h <;>
    simp only [List.cons_append, List.nil_append, List.cons.injEq] at h
  · exact h
  · omega
  · omega
  · obtain ⟨hhigh, hlow, htail⟩ := h
    exact ⟨by omega, htail⟩

theorem scriptValue_eq_nil {cs : List Char} (h : scriptValue cs = []) : cs = [] := by
  have hlength := length_le_scriptValue cs
  rw [h] at hlength
  exact List.length_eq_zero_iff.mp (Nat.le_zero.mp hlength)

theorem scriptValue_inj {cs ds : List Char} (h : scriptValue cs = scriptValue ds) : cs = ds := by
  induction cs generalizing ds with
  | nil => exact (scriptValue_eq_nil h.symm).symm
  | cons c cs ih =>
      cases ds with
      | nil => exact scriptValue_eq_nil h
      | cons d ds =>
          rw [scriptValue_cons, scriptValue_cons] at h
          obtain ⟨rfl, htail⟩ := codeUnits_append_inj h
          rw [ih htail]

/-- A literal is one of a single text. -/
theorem IsLiteralOf.unique {literal s t : String} (hs : IsLiteralOf literal s)
    (ht : IsLiteralOf literal t) : s = t := by
  have hboth := (hs.reads []).symm.trans (ht.reads [])
  rw [Option.some_inj, Prod.mk.injEq] at hboth
  exact String.toList_inj.mp (scriptValue_inj hboth.1)

theorem readEscape_short {c : Char} {unit : Nat} (h : shortEscapes.lookup c = some unit)
    (rest : List Char) : readEscape c rest = some ([unit], rest) := by
  rw [readEscape, h]

theorem readInside_short {c : Char} {unit : Nat} (h : shortEscapes.lookup c = some unit)
    (rest : List Char) :
    readInside ('\\' :: c :: rest) = (readInside rest).map fun p => ([unit] ++ p.1, p.2) :=
  readInside_escape (readEscape_short h rest)

theorem readInside_return (rest : List Char) : readInside ('\r' :: rest) = none := by
  rw [readInside, if_neg (by decide), if_pos (by decide)]
  intro c rest' heq
  exact absurd heq (by decide)

/-- Every character but a carriage return is read as itself. -/
theorem readInside_scriptChar {c : Char} (hc : c ≠ '\r') (rest : List Char) :
    readInside (scriptChar c ++ rest) =
      (readInside rest).map fun p => (codeUnits c.toNat ++ p.1, p.2) := by
  unfold scriptChar
  split
  · next hslash => subst hslash; exact readInside_short rfl rest
  · next hslash =>
      split
      · next hquote => subst hquote; exact readInside_short rfl rest
      · next hquote =>
          split
          · next hfeed => subst hfeed; exact readInside_short rfl rest
          · next hfeed => exact readInside_bare ⟨hquote, hslash, hfeed, hc⟩ rest

theorem readInside_scriptChars (cs more : List Char) :
    readInside (cs.flatMap scriptChar ++ '\'' :: more) =
      if '\r' ∈ cs then none else some (scriptValue cs, more) := by
  induction cs with
  | nil => exact readInside_quote more
  | cons c cs ih =>
      rw [List.flatMap_cons, List.append_assoc]
      by_cases hc : c = '\r'
      · subst hc
        rw [if_pos List.mem_cons_self]
        exact readInside_return _
      · rw [readInside_scriptChar hc, ih, scriptValue_cons]
        have hiff : '\r' ∈ c :: cs ↔ '\r' ∈ cs := by simp [Ne.symm hc]
        simp only [hiff]
        split <;> rfl

theorem toList_scriptString (s : String) (more : List Char) :
    (scriptString s).toList ++ more = '\'' :: (s.toList.flatMap scriptChar ++ '\'' :: more) := by
  simp [scriptString]

theorem readLiteral_scriptString (s : String) (more : List Char) :
    readLiteral ((scriptString s).toList ++ more) =
      if '\r' ∈ s.toList then none else some (scriptValue s.toList, more) := by
  rw [toList_scriptString]
  exact readInside_scriptChars s.toList more

theorem return_mem_scriptString {s : String} (h : '\r' ∈ (scriptString s).toList) :
    '\r' ∈ s.toList := by
  rw [scriptString, String.toList_ofList] at h
  simp only [List.mem_cons, List.mem_append, List.mem_flatMap, List.not_mem_nil, or_false,
    Char.reduceEq, false_or] at h
  obtain ⟨c, hc, hmem⟩ := h
  suffices c = '\r' from this ▸ hc
  unfold scriptChar at hmem
  repeat' split at hmem
  all_goals simp at hmem
  exact hmem.symm

/-- A string as it is quoted is a literal of itself, but for the one line break that is not
escaped. -/
theorem isLiteralOf_scriptString_iff (s : String) :
    IsLiteralOf (scriptString s) s ↔ '\r' ∉ s.toList := by
  constructor
  · intro h hmem
    have hread := h.reads []
    rw [readLiteral_scriptString, if_pos hmem] at hread
    cases hread
  · intro h
    refine ⟨⟨break_scriptLiteral (.str s), fun hmem => h (return_mem_scriptString hmem)⟩, ?_⟩
    intro more
    rw [readLiteral_scriptString, if_neg h]

theorem toList_between (s : String) (more : List Char) :
    ("'" ++ s ++ "'").toList ++ more = '\'' :: (s.toList ++ '\'' :: more) := by
  simp

theorem readInside_bares {cs : List Char} (h : ∀ c ∈ cs, Bare c) (more : List Char) :
    readInside (cs ++ '\'' :: more) = some (scriptValue cs, more) := by
  induction cs with
  | nil => exact readInside_quote more
  | cons c cs ih =>
      rw [List.forall_mem_cons] at h
      rw [List.cons_append, readInside_bare h.1, ih h.2, scriptValue_cons]
      rfl

/-- A string that is put between quotes as it stands is a literal of itself only if it has nothing
to escape. -/
theorem isLiteralOf_between_iff (s : String) :
    IsLiteralOf ("'" ++ s ++ "'") s ↔ ∀ c ∈ s.toList, Bare c := by
  constructor
  · intro h
    have hread := h.reads []
    rw [toList_between] at hread
    obtain ⟨inside, htext, hinside⟩ := readInside_spec hread
    obtain rfl : s.toList = inside := List.append_cancel_right htext
    exact hinside.elim And.right fun hless => absurd hless (Nat.lt_irrefl _)
  · intro h
    have hbreak {c : Char} (hc : ¬ Bare c) (hne : c ≠ '\'') : c ∉ ("'" ++ s ++ "'").toList := by
      simpa [hne] using fun hmem => hc (h c hmem)
    refine ⟨⟨hbreak (by decide) (by decide), hbreak (by decide) (by decide)⟩, fun more => ?_⟩
    rw [toList_between]
    exact readInside_bares h more

end ScreenBridge.Source
