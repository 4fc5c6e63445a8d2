/-!
# UTF-8

Texts as bytes and back. Reading refuses overlong forms, surrogates and numbers past the last
code point, and says where the first faulty sequence stands, how many bytes of it were still
good, and what was wrong with it.
-/

namespace ScreenBridge.Text.Utf8

/-- The bytes of a list of characters. -/
def encodeChars (cs : List Char) : List UInt8 :=
  cs.flatMap String.utf8EncodeChar

def encode (s : String) : List UInt8 :=
  encodeChars s.toList

@[simp] theorem encodeChars_nil : encodeChars [] = [] := rfl

@[simp] theorem encodeChars_append (cs ds : List Char) :
    encodeChars (cs ++ ds) = encodeChars cs ++ encodeChars ds := by
  simp [encodeChars]

@[simp] theorem encode_append (s t : String) : encode (s ++ t) = encode s ++ encode t := by
  simp [encode]

/-- What is wrong with a sequence of bytes. -/
inductive Flaw where
  | invalidStart
  | invalidContinuation
  | truncated
  deriving DecidableEq, Repr

/-- The first sequence that is not UTF-8: its position, its first byte, how many of its bytes
were fine together, and its flaw. -/
structure Fault where
  position : Nat
  first : UInt8
  length : Nat
  flaw : Flaw
  deriving DecidableEq, Repr

/-- A byte that continues a character. -/
def isContinuation (b : UInt8) : Bool :=
  0x80 ≤ b && b ≤ 0xbf

/-- The six payload bits of a continuation byte. -/
def payload (b : UInt8) : Nat :=
  b.toNat % 64

/-- One character off the front: the character and the bytes after it, or the number of good
bytes and the flaw. -/
def decodeChar? : List UInt8 → Except (Nat × Flaw) (Char × List UInt8)
  | [] => .error (0, .truncated)
  | a :: rest =>
    if a < 0x80 then .ok (Char.ofNat a.toNat, rest)
    else if a < 0xc2 then .error (1, .invalidStart)
    else if a < 0xe0 then
      match rest with
      | [] => .error (1, .truncated)
      | b :: rest =>
        if isContinuation b then .ok (Char.ofNat (a.toNat % 32 * 64 + payload b), rest)
        else .error (1, .invalidContinuation)
    else if a < 0xf0 then
      match rest with
      | [] => .error (1, .truncated)
      | b :: rest =>
        if !isContinuation b || (a == 0xe0 && b < 0xa0) || (a == 0xed && 0xa0 ≤ b) then
          .error (1, .invalidContinuation)
        else match rest with
          | [] => .error (2, .truncated)
          | c :: rest =>
            if isContinuation c then
              .ok (Char.ofNat ((a.toNat % 16 * 64 + payload b) * 64 + payload c), rest)
            else .error (2, .invalidContinuation)
    else if a < 0xf5 then
      match rest with
      | [] => .error (1, .truncated)
      | b :: rest =>
        if !isContinuation b || (a == 0xf0 && b < 0x90) || (a == 0xf4 && 0x90 ≤ b) then
          .error (1, .invalidContinuation)
        else match rest with
          | [] => .error (2, .truncated)
          | c :: rest =>
            if !isContinuation c then .error (2, .invalidContinuation)
            else match rest with
              | [] => .error (3, .truncated)
              | d :: rest =>
                if isContinuation d then
                  .ok (Char.ofNat
                    (((a.toNat % 8 * 64 + payload b) * 64 + payload c) * 64 + payload d), rest)
                else .error (3, .invalidContinuation)
    else .error (1, .invalidStart)

/-- Characters off the front until the bytes end, `fuel` of them at most; `position` is where
the front stands, and `acc` holds the characters before it in reverse. -/
def decodeFrom : (fuel position : Nat) → List Char → List UInt8 → Except Fault (List Char)
  | 0, _, acc, _ => .ok acc.reverse
  | _ + 1, _, acc, [] => .ok acc.reverse
  | fuel + 1, position, acc, a :: rest =>
    match decodeChar? (a :: rest) with
    | .error (length, flaw) => .error ⟨position, a, length, flaw⟩
    | .ok (c, left) => decodeFrom fuel (position + c.utf8Size) (c :: acc) left

def decodeChars (bytes : List UInt8) : Except Fault (List Char) :=
  decodeFrom bytes.length 0 [] bytes

def decode (bytes : List UInt8) : Except Fault String :=
  (decodeChars bytes).map String.ofList

/-- A byte as two hexadecimal digits. -/
def byteText (b : UInt8) : String :=
  String.ofList [Nat.digitChar (b.toNat / 16), Nat.digitChar (b.toNat % 16)]

def Flaw.words : Flaw → String
  | .invalidStart => "invalid start byte"
  | .invalidContinuation => "invalid continuation byte"
  | .truncated => "unexpected end of data"

/-- The text of a fault: one byte is named with its value, several by their positions. -/
def Fault.message (f : Fault) : String :=
  if f.length = 1 then
    "'utf-8' codec can't decode byte 0x" ++ byteText f.first ++ " in position " ++
      toString f.position ++ ": " ++ f.flaw.words
  else
    "'utf-8' codec can't decode bytes in position " ++ toString f.position ++ "-" ++
      toString (f.position + f.length - 1) ++ ": " ++ f.flaw.words

end ScreenBridge.Text.Utf8
