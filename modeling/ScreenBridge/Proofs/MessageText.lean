import ScreenBridge.Wire.Message

/-!
# What the text of a message gives away

Viewers get texts, and what a viewer is told is a matter of messages. So this
file says how much of a message its text fixes: the type, the session it
belongs to and, in an error, the code. Two messages of different types never
have one text, whatever else is in them, and a text that brings a session
brings one only.

The argument goes along the text. A quoted string ends where its own quote
ends it (`quotedChars_append_inj`), since each of its characters can be taken
back off the front (`unquote?_quotedChar`). So two equal texts of objects that
start with strings agree on those strings and on what follows them. What is
left is that the two texts are in one form, dense or spaced, and that shows
right after the first colon.
-/

namespace ScreenBridge

namespace Json

/-! ## Quoted strings -/

/-- The value of a hexadecimal digit in small letters. -/
def hexDigit (c : Char) : Nat :=
  if c.isDigit then c.toNat - '0'.toNat else c.toNat - 'a'.toNat + 10

/-- The character of a short escape. -/
def escapedBy (e : Char) : Char :=
  if e = 'n' then '\n'
  else if e = 'r' then '\r'
  else if e = 't' then '\t'
  else if e = 'b' then '\x08'
  else if e = 'f' then '\x0c'
  else e

/-- One character off the front of what stands between quotes. -/
def unquote? : List Char → Option (Char × List Char)
  | '\\' :: 'u' :: _ :: _ :: a :: b :: rest =>
    some (Char.ofNat (hexDigit a * 16 + hexDigit b), rest)
  | '\\' :: e :: rest => some (escapedBy e, rest)
  | '"' :: _ => none
  | c :: rest => some (c, rest)
  | [] => none

theorem hexDigit_digitChar :
    ∀ n < 32, hexDigit (n / 16).digitChar * 16 + hexDigit (n % 16).digitChar = n := by
  decide

theorem unquote?_quotedChar (c : Char) (rest : List Char) :
    unquote? (quotedChar c ++ rest) = some (c, rest) := by
  unfold quotedChar
  split
  · next h => rw [h]; rfl
  split
  · next h => rw [h]; rfl
  split
  · next h => rw [h]; rfl
  split
  · next h => rw [h]; rfl
  split
  · next h => rw [h]; rfl
  split
  · next h => rw [h]; rfl
  split
  · next h => rw [h]; rfl
  split
  · next h =>
      show some (Char.ofNat (hexDigit (c.toNat / 16).digitChar * 16 +
        hexDigit (c.toNat % 16).digitChar), rest) = some (c, rest)
      rw [hexDigit_digitChar _ (Nat.lt_of_lt_of_le h (by decide)),
        Char.ofNat_toNat]
  · next hquote hslash _ _ _ _ _ _ =>
      rw [List.singleton_append, unquote?.eq_def]
      split
      · next heq => cases heq; exact absurd rfl hslash
      · next heq => cases heq; exact absurd rfl hslash
      · next heq => cases heq; exact absurd rfl hquote
      · next heq => cases heq; rfl
      · next heq => cases heq

theorem quotedContent_inj {cs cs' r r' : List Char}
    (h : cs.flatMap quotedChar ++ '"' :: r = cs'.flatMap quotedChar ++ '"' :: r') :
    cs = cs' ∧ r = r' := by
  induction cs generalizing cs' with
  | nil =>
      cases cs' with
      | nil => exact ⟨rfl, (List.cons.inj h).2⟩
      | cons c' cs' =>
          have hread := congrArg unquote? h
          rw [List.flatMap_cons, List.append_assoc, unquote?_quotedChar] at hread
          cases hread
  | cons c cs ih =>
      have hread := congrArg unquote? h
      rw [List.flatMap_cons, List.append_assoc, unquote?_quotedChar] at hread
      cases cs' with
      | nil => cases hread
      | cons c' cs' =>
          rw [List.flatMap_cons, List.append_assoc, unquote?_quotedChar] at hread
          obtain ⟨rfl, hrest⟩ := Prod.mk.inj (Option.some.inj hread)
          obtain ⟨rfl, hr⟩ := ih hrest
          exact ⟨rfl, hr⟩

/-- A quoted string ends with its own quote, whatever follows. -/
theorem quotedChars_append_inj {s s' : String} {r r' : List Char}
    (h : quotedChars s.toList ++ r = quotedChars s'.toList ++ r') :
    s = s' ∧ r = r' := by
  rw [quotedChars, quotedChars, List.cons_append, List.cons_append,
    List.append_assoc, List.append_assoc] at h
  obtain ⟨hs, hr⟩ := quotedContent_inj (List.cons.inj h).2
  exact ⟨String.toList_injective hs, hr⟩

/-! ## Members that are strings -/

section
variable {f : Form} {level : Nat} {k k' s s' : String} {v v' : Json}
  {rest rest' : List (String × Json)} {r r' : List Char}

theorem moreMembers_key_inj
    (h : moreMembers f level ((k, v) :: rest) ++ r =
      moreMembers f level ((k', v') :: rest') ++ r') : k = k' := by
  simp only [moreMembers, List.append_assoc] at h
  exact (quotedChars_append_inj
    (List.append_cancel_left (List.append_cancel_left h))).1

theorem moreMembers_str_inj
    (h : moreMembers f level ((k, .str s) :: rest) ++ r =
      moreMembers f level ((k', .str s') :: rest') ++ r') :
    s = s' ∧ moreMembers f level rest ++ r = moreMembers f level rest' ++ r' := by
  simp only [moreMembers, chars, List.append_assoc] at h
  have hvalue := (quotedChars_append_inj
    (List.append_cancel_left (List.append_cancel_left h))).2
  exact quotedChars_append_inj (List.append_cancel_left hvalue)

theorem chars_obj_str_inj
    (h : chars f level (.obj ((k, .str s) :: rest)) ++ r =
      chars f level (.obj ((k', .str s') :: rest')) ++ r') :
    s = s' ∧ moreMembers f (level + 1) rest ++ (f.lineBreak level ++ '\x7d' :: r) =
      moreMembers f (level + 1) rest' ++ (f.lineBreak level ++ '\x7d' :: r') := by
  simp only [chars, List.cons_append, List.append_assoc, List.nil_append] at h
  have hvalue := (quotedChars_append_inj
    (List.append_cancel_left (List.cons.inj h).2)).2
  exact quotedChars_append_inj (List.append_cancel_left hvalue)

end

/-- Dense and spaced texts of objects that start alike differ behind the first
colon. -/
theorem dense_ne_spaced {k s s' : String} {rest rest' : List (String × Json)} :
    chars .dense 0 (.obj ((k, .str s) :: rest)) ≠
      chars .spaced 0 (.obj ((k, .str s') :: rest')) := by
  intro h
  simp only [chars, List.append_assoc] at h
  have hcolon := (quotedChars_append_inj (List.cons.inj h).2).2
  cases hcolon

end Json

/-! ## Messages -/

namespace Wire

theorem MessageType.ofWord?_word (t : MessageType) : ofWord? t.word = some t := by
  cases t <;> decide

theorem MessageType.word_injective {t t' : MessageType} (h : t.word = t'.word) :
    t = t' := by
  have hread := congrArg ofWord? h
  rw [ofWord?_word, ofWord?_word] at hread
  exact Option.some.inj hread

namespace Message

variable {m m' : Message}

/-- What a message says besides its type and its time. -/
def tail (m : Message) : Keyed Json :=
  sessionMember m.sessionId ++ dataMember m.data

theorem text_toList (m : Message) :
    m.text.toList = m.toJson.chars (m.toJson.formFor 0) 0 := by
  rw [text, Json.encode, Json.encodeWith, Json.text, String.toList_ofList]

theorem formFor_eq (m : Message) :
    m.toJson.formFor 0 = .dense ∨ m.toJson.formFor 0 = .spaced := by
  rw [Json.formFor, if_pos rfl]
  split
  · exact .inl rfl
  · exact .inr rfl

/-- Messages of one text are written in one form. -/
theorem chars_of_text_eq (h : m.text = m'.text) :
    ∃ f, (f = Json.Form.dense ∨ f = .spaced) ∧
      m.toJson.chars f 0 ++ [] = m'.toJson.chars f 0 ++ [] := by
  have hchars := congrArg String.toList h
  rw [text_toList, text_toList] at hchars
  rcases formFor_eq m with hm | hm <;> rcases formFor_eq m' with hm' | hm' <;>
    rw [hm, hm'] at hchars
  · exact ⟨.dense, .inl rfl, congrArg (· ++ []) hchars⟩
  · exact absurd hchars Json.dense_ne_spaced
  · exact absurd hchars.symm Json.dense_ne_spaced
  · exact ⟨.spaced, .inr rfl, congrArg (· ++ []) hchars⟩

/-- A text has one type, and one text behind its time stamp. -/
theorem of_text_eq (h : m.text = m'.text) :
    m.type = m'.type ∧ ∃ f, (f = Json.Form.dense ∨ f = .spaced) ∧
      Json.moreMembers f 1 m.tail ++ (f.lineBreak 0 ++ ['\x7d']) =
        Json.moreMembers f 1 m'.tail ++ (f.lineBreak 0 ++ ['\x7d']) := by
  obtain ⟨f, hf, hchars⟩ := chars_of_text_eq h
  obtain ⟨htype, hmore⟩ := Json.chars_obj_str_inj hchars
  exact ⟨MessageType.word_injective htype, f, hf, (Json.moreMembers_str_inj hmore).2⟩

theorem type_eq_of_text_eq (h : m.text = m'.text) : m.type = m'.type :=
  (of_text_eq h).1

/-- A text is that of a message of a type. -/
def IsOfType (text : String) (t : MessageType) : Prop :=
  ∃ m : Message, m.type = t ∧ m.text = text

theorem isOfType_text (m : Message) : IsOfType m.text m.type := ⟨m, rfl, rfl⟩

theorem IsOfType.unique {text : String} {t t' : MessageType} (h : IsOfType text t)
    (h' : IsOfType text t') : t = t' := by
  obtain ⟨m, rfl, rfl⟩ := h
  obtain ⟨m', rfl, heq⟩ := h'
  exact (type_eq_of_text_eq heq).symm

theorem tail_of_sessionId {id : String} (hid : m.sessionId = some id)
    (hne : id ≠ "") : m.tail = ("sessionId", .str id) :: dataMember m.data := by
  have hempty : id.isEmpty = false := by
    rw [Bool.eq_false_iff, ne_eq, String.isEmpty_iff]
    exact hne
  rw [tail, hid, sessionMember, hempty]
  rfl

/-- Behind the time stamp stand the data, and a session in front of them if
there is one. -/
theorem tail_cases (m : Message) :
    m.tail = dataMember m.data ∨ ∃ id, m.sessionId = some id ∧
      m.tail = ("sessionId", .str id) :: dataMember m.data := by
  cases hid : m.sessionId with
  | none => exact .inl (by rw [tail, hid]; rfl)
  | some id =>
      by_cases hne : id = ""
      · exact .inl (by rw [tail, hid, hne]; rfl)
      · exact .inr ⟨id, rfl, tail_of_sessionId hid hne⟩

/-- What belongs to a session says so in its text. -/
theorem sessionId_of_text_eq (h : m.text = m'.text) {id : String}
    (hid : m.sessionId = some id) (hne : id ≠ "") : m'.sessionId = some id := by
  obtain ⟨-, f, hf, hmore⟩ := of_text_eq h
  rw [tail_of_sessionId hid hne] at hmore
  rcases m'.tail_cases with htail | ⟨id', hid', htail⟩
  · rw [htail] at hmore
    cases hdata : m'.data with
    | none =>
        rw [hdata] at hmore
        rcases hf with rfl | rfl <;> cases hmore
    | some data =>
        rw [hdata] at hmore
        exact absurd (Json.moreMembers_key_inj hmore) (by decide)
  · rw [htail] at hmore
    rw [hid', (Json.moreMembers_str_inj hmore).1]

/-- An error gives its code away. -/
theorem code_eq_of_text_eq {now now' code code' message message' : String}
    {details details' : Option (Keyed Json)}
    (h : (error now code message details).text =
      (error now' code' message' details').text) : code = code' := by
  obtain ⟨-, f, -, hmore⟩ := of_text_eq h
  simp only [tail, error, sessionMember, dataMember, List.nil_append,
    List.cons_append, Json.moreMembers, List.append_nil, List.append_assoc] at hmore
  have hdata := (Json.quotedChars_append_inj
    (List.append_cancel_left (List.append_cancel_left hmore))).2
  exact (Json.chars_obj_str_inj (List.append_cancel_left hdata)).1

end Message

end Wire

end ScreenBridge
