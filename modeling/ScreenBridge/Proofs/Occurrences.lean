import Mathlib.Data.List.Infix
import ScreenBridge.Proofs.ManifestText

/-!
# How often a pattern stands in a text

The copies of a pattern in two texts put together are those of the first, those
of the second and those that lie across the cut. `Clear` says that there are
none of the last kind, and then the numbers add up (`occurrences_append`). That
is how a text is counted through: piece by piece, with a reason at each cut why
nothing lies across it. A line break is the reason most of the time, since what
is looked for stands on one line.
-/

namespace ScreenBridge.Text

/-- The number of places at which a pattern stands in a text. -/
def occurrences (pattern : List Char) : List Char → Nat
  | [] => if pattern.isEmpty then 1 else 0
  | c :: rest => (if pattern.isPrefixOf (c :: rest) then 1 else 0) + occurrences pattern rest

/-- No copy of a pattern can lie across the cut between two texts. -/
def Clear (pattern before after : List Char) : Prop :=
  ∀ front back, pattern = front ++ back → front <:+ before → back <+: after →
    front = [] ∨ back = []

variable {p u v : List Char}

theorem occurrences_nil (hp : p ≠ []) : occurrences p [] = 0 := by
  rw [occurrences, if_neg (by simpa using hp)]

theorem occurrences_cons (p : List Char) (c : Char) (u : List Char) :
    occurrences p (c :: u) = (if p <+: c :: u then 1 else 0) + occurrences p u := by
  simp only [occurrences, ← List.isPrefixOf_iff_prefix]

theorem occurrences_eq_zero_iff : occurrences p u = 0 ↔ ¬ p <:+: u := by
  induction u with
  | nil => cases p <;> simp [occurrences]
  | cons c u ih =>
      rw [occurrences_cons, List.infix_cons_iff, not_or, ← ih, Nat.add_eq_zero_iff]
      simp

/-- A text stands in itself once. -/
theorem occurrences_self (hp : p ≠ []) : occurrences p p = 1 := by
  obtain ⟨c, rest, rfl⟩ := List.exists_cons_of_ne_nil hp
  have hrest : occurrences (c :: rest) rest = 0 := by
    rw [occurrences_eq_zero_iff]
    intro h
    exact absurd h.length_le (by simp)
  rw [occurrences_cons, if_pos List.prefix_rfl, hrest]

/-! ## Reading off what stands in between -/

section
variable {a : Char} {xs ys us vs : List Char}

/-- What stands in front of the first separator can be told from the text. -/
theorem eq_of_prefix_separated (hxs : a ∉ xs) (hys : a ∉ ys) (h : xs ++ a :: us <+: ys ++ a :: vs) :
    xs = ys := by
  obtain ⟨more, h⟩ := h
  rw [List.append_assoc, List.cons_append] at h
  rcases List.append_eq_append_iff.mp h with ⟨mid, rfl, hrest⟩ | ⟨mid, rfl, hrest⟩
  · cases mid with
    | nil => rw [List.append_nil]
    | cons b mid =>
        cases (List.cons.inj hrest).1
        exact absurd (List.mem_append_right _ List.mem_cons_self) hys
  · cases mid with
    | nil => rw [List.append_nil]
    | cons b mid =>
        cases (List.cons.inj hrest).1
        exact absurd (List.mem_append_right _ List.mem_cons_self) hxs

/-- A text without a separator that another one starts with ends before the separator there. -/
theorem prefix_of_not_mem (hxs : a ∉ xs) (h : xs <+: ys ++ a :: vs) : xs <+: ys := by
  have hfront : ys ++ [a] <+: ys ++ a :: vs := by
    rw [List.prefix_append_right_inj]
    exact ⟨vs, rfl⟩
  rcases List.prefix_or_prefix_of_prefix h hfront with hin | hover
  · rcases List.prefix_concat_iff.mp hin with rfl | hshort
    · exact absurd (List.mem_append_right _ List.mem_cons_self) hxs
    · exact hshort
  · exact absurd (hover.subset (List.mem_append_right _ List.mem_cons_self)) hxs

/-- What stands between the only two quotes can be told from the text. -/
theorem eq_of_infix_quoted (hfront : a ∉ us) (hys : a ∉ ys) (hback : a ∉ vs)
    (h : a :: (xs ++ [a]) <:+: us ++ a :: (ys ++ a :: vs)) : xs = ys := by
  have hlast : (a :: (xs ++ [a])).getLast? = some a := by
    rw [← List.cons_append, List.getLast?_concat]
  have hright := infix_right_of_not_mem (List.head?_cons ..) hfront h
  have hall : a :: (ys ++ a :: vs) = (a :: (ys ++ [a])) ++ vs := by simp
  rw [hall] at hright
  rcases List.infix_cons_iff.mp (infix_left_of_not_mem hlast hback hright) with hin | hin
  · rcases List.prefix_concat_iff.mp (List.cons_prefix_cons.mp hin).2 with heq | hshort
    · exact List.append_cancel_right heq
    · exact absurd (hshort.subset (List.mem_append_right _ List.mem_cons_self)) hys
  · have hlength := (infix_right_of_not_mem (List.head?_cons ..) hys hin).length_le
    simp at hlength

end

/-! ## Cuts -/

theorem Clear.of_cons {c : Char} (h : Clear p (c :: u) v) : Clear p u v :=
  fun front back heq hfront => h front back heq (hfront.trans (List.suffix_cons c u))

/-- Across a clear cut nothing comes to the front of a text. -/
theorem Clear.prefix_iff {c : Char} (h : Clear p (c :: u) v) :
    p <+: c :: (u ++ v) ↔ p <+: c :: u := by
  constructor
  · intro hprefix
    have hall : c :: u <+: c :: (u ++ v) := List.prefix_append (c :: u) v
    rcases List.prefix_or_prefix_of_prefix hprefix hall with hin | ⟨back, rfl⟩
    · exact hin
    · have hback : back <+: v := (List.prefix_append_right_inj (c :: u)).mp hprefix
      rcases h (c :: u) back rfl List.suffix_rfl hback with hnil | rfl
      · cases hnil
      · rw [List.append_nil]
  · exact fun hprefix => hprefix.trans (List.prefix_append (c :: u) v)

/-- Where a cut is clear, the numbers on its two sides add up. -/
theorem occurrences_append (hp : p ≠ []) (h : Clear p u v) :
    occurrences p (u ++ v) = occurrences p u + occurrences p v := by
  induction u with
  | nil => rw [occurrences_nil hp, List.nil_append, Nat.zero_add]
  | cons c u ih =>
      rw [List.cons_append, occurrences_cons, occurrences_cons, ih h.of_cons, Nat.add_assoc]
      simp only [h.prefix_iff]

/-- A text is cut at the first copy of the pattern. -/
theorem cutAt?_eq_some (hp : p ≠ []) (h : ¬ p <:+: u) (hclear : Clear p u (p ++ v)) :
    cutAt? p (u ++ (p ++ v)) = some (u, p ++ v) := by
  induction u with
  | nil =>
      obtain ⟨c, rest, rfl⟩ := List.exists_cons_of_ne_nil hp
      rw [List.nil_append, List.cons_append, cutAt?, if_pos]
      rw [List.isPrefixOf_iff_prefix]
      exact List.prefix_append (c :: rest) v
  | cons c u ih =>
      rw [List.infix_cons_iff, not_or] at h
      rw [List.cons_append, cutAt?, if_neg, ih h.2 hclear.of_cons, Option.map_some]
      rw [List.isPrefixOf_iff_prefix, hclear.prefix_iff]
      exact h.1

/-- What stands before the first copy has none in it. -/
theorem not_infix_of_cutAt? {text : List Char} (hp : p ≠ []) (h : cutAt? p text = some (u, v)) :
    ¬ p <:+: u := by
  induction text generalizing u with
  | nil =>
      rw [cutAt?, if_neg (by simpa using hp)] at h
      cases h
  | cons c text ih =>
      have htext := append_of_cutAt? h
      rw [cutAt?] at h
      split at h
      · cases h
        rwa [List.infix_nil]
      · next hfront =>
          obtain ⟨⟨u, v⟩, hcut, heq⟩ := Option.map_eq_some_iff.mp h
          cases heq
          rw [List.infix_cons_iff, not_or]
          refine ⟨fun hprefix => hfront ?_, ih hcut⟩
          rw [List.isPrefixOf_iff_prefix, ← htext]
          exact hprefix.trans (List.prefix_append ..)

/-- A cut is clear if what follows it starts with a character that the pattern
has at most at its front. -/
theorem clear_of_tail {c : Char} (hv : v.head? = some c) (hc : c ∉ p.tail) : Clear p u v := by
  rintro front back rfl - hback
  cases back with
  | nil => exact .inr rfl
  | cons d back =>
      obtain ⟨more, rfl⟩ := hback
      obtain rfl : d = c := Option.some.inj hv
      cases front with
      | nil => exact .inl rfl
      | cons e front => exact absurd (List.mem_append_right _ List.mem_cons_self) hc

theorem clear_of_head {c : Char} (hv : v.head? = some c) (hc : c ∉ p) : Clear p u v :=
  clear_of_tail hv fun h => hc (List.mem_of_mem_tail h)

/-- A text that ends where a line does. -/
def EndsLine (text : List Char) : Prop :=
  text = [] ∨ text.getLast? = some '\n'

theorem endsLine_append {u v : List Char} (hu : EndsLine u) (hv : EndsLine v) :
    EndsLine (u ++ v) := by
  rcases hv with rfl | hv
  · rwa [List.append_nil]
  · exact .inr (by rw [List.getLast?_append, hv, Option.some_or])

theorem clear_of_endsLine (hu : EndsLine u) (hp : '\n' ∉ p) : Clear p u v := by
  rintro front back rfl hfront -
  rcases hu with rfl | hu
  · exact .inl (List.suffix_nil.mp hfront)
  · left
    cases hlast : front.getLast? with
    | none => exact List.getLast?_eq_none_iff.mp hlast
    | some c =>
        obtain ⟨more, rfl⟩ := hfront
        rw [List.getLast?_append, hlast, Option.some_or] at hu
        cases hu
        exact absurd (List.mem_append_left _ (List.mem_of_getLast? hlast)) hp

/-- A line on its own counts for itself. -/
theorem occurrences_line (hp : p ≠ []) (hbreak : '\n' ∉ p) (line rest : List Char) :
    occurrences p (line ++ '\n' :: rest) = occurrences p line + occurrences p rest := by
  rw [occurrences_append hp (clear_of_head rfl hbreak), occurrences_cons, if_neg, Nat.zero_add]
  intro hprefix
  obtain ⟨c, more, rfl⟩ := List.exists_cons_of_ne_nil hp
  exact hbreak ((List.cons_prefix_cons.mp hprefix).1 ▸ List.mem_cons_self)

/-- A line put in where a line starts counts for itself. -/
theorem occurrences_insert (hp : p ≠ []) (hbreak : '\n' ∉ p) (hu : EndsLine u) (line : List Char) :
    occurrences p (u ++ (line ++ '\n' :: v)) = occurrences p (u ++ v) + occurrences p line := by
  rw [occurrences_append hp (clear_of_endsLine hu hbreak), occurrences_line hp hbreak,
    occurrences_append hp (clear_of_endsLine hu hbreak)]
  omega

/-! ## The last line -/

theorem not_mem_cutLastLine (text : List Char) : '\n' ∉ (cutLastLine text).2 := by
  intro h
  rw [cutLastLine, List.mem_reverse] at h
  have hne := List.all_eq_true.mp List.all_takeWhile _ h
  simp at hne

theorem endsLine_cutLastLine (text : List Char) : EndsLine (cutLastLine text).1 := by
  have hall : text = (text.reverse.dropWhile (· ≠ '\n')).reverse ++
      (text.reverse.takeWhile (· ≠ '\n')).reverse := by
    rw [← List.reverse_append, List.takeWhile_append_dropWhile, List.reverse_reverse]
  have hfirst : (cutLastLine text).1 = (text.reverse.dropWhile (· ≠ '\n')).reverse :=
    List.append_cancel_right ((cutLastLine_append text).trans hall)
  rw [hfirst, EndsLine, List.getLast?_reverse, List.reverse_eq_nil_iff]
  have hhead := List.head?_dropWhile_not (· ≠ '\n') text.reverse
  cases hdrop : text.reverse.dropWhile (· ≠ '\n') with
  | nil => exact .inl rfl
  | cons c rest =>
      rw [hdrop, List.head?_cons] at hhead
      right
      simpa using hhead

theorem cutLastLine_of_endsLine (hu : EndsLine u) (hv : '\n' ∉ v) :
    cutLastLine (u ++ v) = (u, v) := by
  have hstop : u.reverse.takeWhile (· ≠ '\n') = [] := by
    rcases hu with rfl | hu
    · rfl
    · obtain ⟨front, rfl⟩ := List.getLast?_eq_some_iff.mp hu
      simp
  have hline : ∀ c ∈ v.reverse, decide (c ≠ '\n') = true := by
    intro c hc
    rw [decide_eq_true_eq]
    rintro rfl
    exact hv (List.mem_reverse.mp hc)
  rw [cutLastLine, List.reverse_append, List.takeWhile_append_of_pos hline, hstop,
    List.append_nil, List.reverse_reverse, List.length_append, Nat.add_sub_cancel,
    List.take_left']
  rfl

end ScreenBridge.Text
