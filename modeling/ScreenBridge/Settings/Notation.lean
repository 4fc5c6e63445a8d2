import ScreenBridge.Json.Reader

/-!
# Values in settings

Where a setting is written as JSON, numbers that are not finite are let through: the words for
them, and numbers that are too large. No setting takes such a number, so it is put down as a
zero before the text is read. Whole numbers may only have so many digits; a minus sign does not
count here, so one that just fits is put down as a zero too.
-/

namespace ScreenBridge.Settings

/-- The words for numbers that are not finite. -/
def unboundedWords : List (List Char) :=
  ["NaN".toList, "Infinity".toList, "-Infinity".toList]

/-- A character that is part of a word or a number where it stands outside of a string. -/
def isWordChar (c : Char) : Bool :=
  !([' ', '\t', '\n', '\r', '"', ',', ':', '[', ']', '\x7b', '\x7d'].contains c)

/-- A word outside of strings as it is read, unless it is a whole number with too many digits. -/
def finiteWord? (word : List Char) : Option (List Char) :=
  if unboundedWords.contains word then some ['0']
  else match Json.read (Text.Utf8.encodeChars word) with
    | .error (.refused (.outOfRange _)) => some ['0']
    | .error (.refused (.tooManyDigits _)) =>
      if word.head? = some '-' ∧ word.length = Json.maxDigits + 1 then some ['0'] else none
    | _ => some word

/-- Where a character stands. -/
inductive Surrounding where
  | outside
  | quoted
  | escaped
  deriving DecidableEq, Repr

/-- Characters with every word outside of strings as it is read; `word` holds the one that goes on
here, in reverse. -/
def finiteChars? (word : List Char) : Surrounding → List Char → Option (List Char)
  | .outside, [] => finiteWord? word.reverse
  | _, [] => some []
  | .outside, c :: rest =>
    if isWordChar c then finiteChars? (c :: word) .outside rest
    else do
      let before ← finiteWord? word.reverse
      let after ← finiteChars? [] (if c = '"' then .quoted else .outside) rest
      return before ++ c :: after
  | .quoted, c :: rest =>
    let next := if c = '"' then .outside else if c = '\\' then .escaped else .quoted
    (finiteChars? [] next rest).map (c :: ·)
  | .escaped, c :: rest => (finiteChars? [] .quoted rest).map (c :: ·)

/-- A value of a setting out of its text; none if the text cannot be read. -/
def readNotation (text : String) : Except Json.Breakdown (Option Json) :=
  match finiteChars? [] .outside text.toList with
  | none => .ok none
  | some cs =>
    match Json.read (Text.Utf8.encodeChars cs) with
    | .ok v => .ok (some v)
    | .error (.refused _) => .ok none
    | .error (.brokeOff cause) => .error cause

end ScreenBridge.Settings
