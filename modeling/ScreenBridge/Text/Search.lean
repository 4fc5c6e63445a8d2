/-!
# Finding text in text

The first occurrence of a pattern cuts a text in two: what stands before it, and the text from it
on. Cutting loses nothing, and the second part starts with the pattern.
-/

namespace ScreenBridge.Text

/-- The text before the first occurrence of a pattern, and the text from it on. -/
def cutAt? (pattern : List Char) : List Char → Option (List Char × List Char)
  | [] => if pattern.isEmpty then some ([], []) else none
  | c :: rest =>
    if pattern.isPrefixOf (c :: rest) then some ([], c :: rest)
    else (cutAt? pattern rest).map fun p => (c :: p.1, p.2)

def occursIn (pattern text : List Char) : Bool :=
  (cutAt? pattern text).isSome

/-- A text cut behind its last line break: the whole lines, and the line that is not ended. -/
def cutLastLine (text : List Char) : List Char × List Char :=
  let tail := (text.reverse.takeWhile (· ≠ '\n')).reverse
  (text.take (text.length - tail.length), tail)

/-- The lines of a text that a line break ends, without it, and the rest of the text. -/
def cutLines : List Char → List (List Char) × List Char
  | [] => ([], [])
  | c :: rest =>
    match cutLines rest with
    | (lines, last) =>
      if c = '\n' then ([] :: lines, last)
      else match lines with
        | [] => ([], c :: last)
        | line :: more => ((c :: line) :: more, last)

def joinLines (lines : List (List Char)) : List Char :=
  lines.flatMap (· ++ ['\n'])

/-- Every carriage return, with or without a line feed behind it, turned into a line feed;
`returned` says that the text stands behind a carriage return. -/
def unifyAfter (returned : Bool) : List Char → List Char
  | [] => []
  | c :: rest =>
    if c = '\r' then '\n' :: unifyAfter true rest
    else if c = '\n' && returned then unifyAfter false rest
    else c :: unifyAfter false rest

/-- A text with line feeds as its only line breaks. -/
def unifyLineBreaks (text : List Char) : List Char :=
  unifyAfter false text

theorem append_of_cutAt? {pattern text before rest : List Char}
    (h : cutAt? pattern text = some (before, rest)) : before ++ rest = text := by
  induction text generalizing before rest with
  | nil =>
    simp only [cutAt?] at h
    split at h <;> simp_all
  | cons c text ih =>
    simp only [cutAt?] at h
    split at h
    · simp_all
    · obtain ⟨⟨b, r⟩, hc, he⟩ := Option.map_eq_some_iff.1 h
      simp only [Prod.mk.injEq] at he
      obtain ⟨rfl, rfl⟩ := he
      simp [ih hc]

theorem joinLines_cutLines (text : List Char) :
    joinLines (cutLines text).1 ++ (cutLines text).2 = text := by
  induction text with
  | nil => rfl
  | cons c rest ih =>
    simp only [cutLines]
    generalize cutLines rest = p at ih ⊢
    obtain ⟨lines, last⟩ := p
    simp only at ih ⊢
    by_cases hc : c = '\n'
    · subst hc
      simp_all [joinLines]
    · cases lines <;> simp_all [joinLines]

end ScreenBridge.Text
