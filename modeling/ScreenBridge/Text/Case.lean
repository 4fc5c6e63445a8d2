import ScreenBridge.Text.CaseTable

/-!
# Capital and small letters

The full case mappings of the character database. A capital may take several characters, so
both mappings work on texts. Only the capital sigma looks at its neighbours: it ends a word when
a letter with case stands before it and none after it, characters without a say skipped.
-/

namespace ScreenBridge.Text

def isCased (c : Char) : Bool :=
  inRanges c.toNat casedRanges

/-- A character that is skipped when the neighbours of a sigma are looked at. -/
def isCaseIgnorable (c : Char) : Bool :=
  inRanges c.toNat caseIgnorableRanges

/-- The image of a character under the first run that moves it. -/
def imageIn (c : Nat) : List CaseRun → Option Nat
  | [] => none
  | r :: rest =>
    if c < r.first then none
    else match r.image? c with
      | some d => some d
      | none => imageIn c rest

/-- The capital form of one character. -/
def capital (c : Char) : List Char :=
  match expandedCapitals.lookup c.toNat with
  | some ds => ds.map Char.ofNat
  | none =>
    match imageIn c.toNat smallRuns with
    | some d => [Char.ofNat d]
    | none => [c]

/-- The small form of one character away from any sigma rule. -/
def small (c : Char) : List Char :=
  if c = 'İ' then ['i', '\u0307']
  else match imageIn c.toNat capitalRuns with
    | some d => [Char.ofNat d]
    | none => [c]

/-- Whether the next character with a say is a letter with case. -/
def startsCased : List Char → Bool
  | [] => false
  | c :: rest => if isCaseIgnorable c then startsCased rest else isCased c

/-- The small form of a text, given whether the last character with a say before it was a letter
with case. -/
def lowerAfter (afterCased : Bool) : List Char → List Char
  | [] => []
  | c :: rest =>
    let here :=
      if c = 'Σ' then [if afterCased && !startsCased rest then 'ς' else 'σ'] else small c
    here ++ lowerAfter (if isCaseIgnorable c then afterCased else isCased c) rest

/-- The small form of a text. -/
def lower (s : String) : String :=
  String.ofList (lowerAfter false s.toList)

/-- The capital form of a text. -/
def upper (s : String) : String :=
  String.ofList (s.toList.flatMap capital)

/-- The first character in its capital form, the rest as it is. -/
def capitalizeFirst (s : String) : String :=
  match s.toList with
  | [] => ""
  | c :: rest => String.ofList (capital c ++ rest)

end ScreenBridge.Text
