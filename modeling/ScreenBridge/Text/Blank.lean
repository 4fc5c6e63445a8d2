/-!
# White space

The characters that count as blank at the ends of a text: the control characters from tab to
carriage return, the four separators below the space, the space itself, the next-line
character and every space separator and line or paragraph separator of the character database.
-/

namespace ScreenBridge.Text

/-- White space in the widest sense. -/
def isBlank (c : Char) : Bool :=
  let n := c.toNat
  (9 ≤ n && n ≤ 13) || (0x1c ≤ n && n ≤ 0x20) || n == 0x85 || n == 0xa0 || n == 0x1680 ||
    (0x2000 ≤ n && n ≤ 0x200a) || n == 0x2028 || n == 0x2029 || n == 0x202f || n == 0x205f ||
    n == 0x3000

/-- A list of characters without the blanks at its two ends. -/
def stripChars (cs : List Char) : List Char :=
  ((cs.dropWhile isBlank).reverse.dropWhile isBlank).reverse

/-- A text of blanks only strips to nothing. -/
theorem stripChars_of_all_blank {cs : List Char} (h : ∀ c ∈ cs, isBlank c = true) :
    stripChars cs = [] := by
  have hd : cs.dropWhile isBlank = [] := by
    induction cs with
    | nil => rfl
    | cons c rest ih =>
      rw [List.dropWhile_cons, if_pos (h c (List.mem_cons_self))]
      exact ih fun d hd => h d (List.mem_cons_of_mem _ hd)
  simp [stripChars, hd]

end ScreenBridge.Text
