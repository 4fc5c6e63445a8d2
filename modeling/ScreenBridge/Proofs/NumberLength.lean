import ScreenBridge.Number.Layout
import ScreenBridge.Proofs.NearestNumber

/-!
# How long the text of a number is

The text of a number is its shortest digits with a point, and zeros or a power of ten around
them. Zeros are only written for the powers between the bounds of the layout, so there are few of
them; a power of ten has three digits at most (`exponent_lt`).
-/

namespace ScreenBridge.Number

/-- A layout that writes zeros for small powers of ten only. -/
structure Layout.Compact (l : Layout) : Prop where
  least : -5 ≤ l.least
  bound : l.bound ≤ 16
  exponentWidth : l.exponentWidth ≤ 3

theorem compact_dense : Layout.dense.Compact := ⟨by decide, by decide, by decide⟩

theorem compact_plain : Layout.plain.Compact := ⟨by decide, by decide, by decide⟩

section
variable {l : Layout} {x : Binary64} {d : Decimal} {bound : Nat}

theorem length_positional_le (hleast : -5 ≤ d.exponent) (hdigits : d.digits.length + 6 ≤ bound)
    (hexponent : d.exponent + 3 ≤ bound) : (positional d).length ≤ bound := by
  unfold positional
  split
  · simp only [zeros, List.length_cons, List.length_append, List.length_replicate]
    omega
  · dsimp only
    split
    · simp only [zeros, List.length_append, List.length_replicate, List.length_cons,
        List.length_nil]
      omega
    · simp only [List.length_append, List.length_cons, List.length_take, List.length_drop]
      omega

theorem length_scientific_le {width : Nat} (hwidth : width ≤ 3)
    (hexponent : d.exponent.natAbs < 1000) (hdigits : d.digits.length + 6 ≤ bound) :
    (scientific width d).length ≤ bound := by
  have hpower : (Nat.toDigits 10 d.exponent.natAbs).length ≤ 3 :=
    (Nat.length_toDigits_le_iff (by decide) (by decide)).mpr hexponent
  unfold scientific
  dsimp only
  split
  · next hpoint =>
      rw [hpoint] at hdigits
      simp only [zeros, List.length_append, List.length_cons, List.length_replicate] at *
      omega
  · simp only [zeros, List.length_append, List.length_cons, List.length_replicate] at *
    omega

/-- The text of a number without its sign. -/
def Layout.body (l : Layout) (x : Binary64) : List Char :=
  if x.isZero then ['0', '.', '0']
  else if l.least ≤ (shortest x.mantissa x.exponent).exponent ∧
      (shortest x.mantissa x.exponent).exponent < l.bound then
    positional (shortest x.mantissa x.exponent)
  else scientific l.exponentWidth (shortest x.mantissa x.exponent)

theorem Layout.chars_eq (l : Layout) (x : Binary64) :
    l.chars x = if x.negative then '-' :: l.body x else l.body x := rfl

theorem Layout.length_chars (l : Layout) (x : Binary64) :
    (l.chars x).length = (l.body x).length + x.negative.toNat := by
  rw [chars_eq]
  cases x.negative <;> rfl

theorem length_body_of_isZero (hzero : x.isZero = true) (l : Layout) : (l.body x).length = 3 := by
  rw [Layout.body, if_pos hzero]
  rfl

theorem length_body_le (hl : l.Compact)
    (hexponent : (shortest x.mantissa x.exponent).exponent.natAbs < 1000)
    (hdigits : (shortest x.mantissa x.exponent).digits.length + 6 ≤ bound)
    (hzeros : (shortest x.mantissa x.exponent).exponent < 16 →
      (shortest x.mantissa x.exponent).exponent + 3 ≤ bound) :
    (l.body x).length ≤ bound := by
  have hleast := hl.least
  have hbound := hl.bound
  unfold Layout.body
  split
  · exact Nat.le_trans (by decide) (Nat.le_trans (Nat.le_add_left 6 _) hdigits)
  · split
    · exact length_positional_le (by omega) hdigits (hzeros (by omega))
    · exact length_scientific_le hl.exponentWidth hexponent hdigits

end

/-! ## The texts of numbers that are read -/

theorem four_pow_le (n : Nat) : (2 : ℚ) ^ (2 * n) ≤ 10 ^ n := by
  rw [pow_mul]
  exact pow_le_pow_left₀ (by norm_num) (by norm_num) n

theorem binary_le {m : Nat} {q : Int} (hm : m ≤ 2 ^ 54) (hq : q ≤ greatestExponent) :
    binary m q ≤ 10 ^ ((513 : ℕ) : ℤ) := by
  have hunit : (0 : ℚ) < 2 ^ q := by positivity
  calc binary m q ≤ 2 ^ ((54 : ℕ) : ℤ) * 2 ^ q :=
        mul_le_mul_of_nonneg_right (by exact_mod_cast hm) hunit.le
    _ = 2 ^ (((54 : ℕ) : ℤ) + q) := (zpow_add₀ (by norm_num) _ _).symm
    _ ≤ 2 ^ ((2 * 513 : ℕ) : ℤ) :=
        zpow_le_zpow_right₀ (by norm_num) (by unfold greatestExponent at hq; omega)
    _ ≤ 10 ^ ((513 : ℕ) : ℤ) := by
        rw [zpow_natCast, zpow_natCast]
        exact four_pow_le 513

theorem le_binary {m : Nat} {q : Int} (hm : 0 < m) (hq : leastExponent ≤ q) :
    (10 : ℚ) ^ (-((537 : ℕ) : ℤ)) ≤ binary m q := by
  have hunit : (0 : ℚ) < 2 ^ q := by positivity
  have hone : (1 : ℚ) ≤ m := by exact_mod_cast hm
  calc (10 : ℚ) ^ (-((537 : ℕ) : ℤ)) ≤ 2 ^ (-((2 * 537 : ℕ) : ℤ)) := by
        rw [zpow_neg, zpow_neg, zpow_natCast, zpow_natCast]
        exact inv_anti₀ (by positivity) (four_pow_le 537)
    _ ≤ 2 ^ q := zpow_le_zpow_right₀ (by norm_num) hq
    _ ≤ m * 2 ^ q := le_mul_of_one_le_left hunit.le hone

theorem exponent_lt {m : Nat} {q : Int} (hm : 0 < m) (hm' : m ≤ 2 ^ 54)
    (hleast : leastExponent ≤ q) (hgreatest : q ≤ greatestExponent) :
    (shortest m q).exponent.natAbs < 1000 := by
  obtain ⟨hlow, hhigh⟩ := lead_bounds hm q
  obtain ⟨-, hbelow, habove⟩ := shortest_bounds hm q
  have hupper := (zpow_le_zpow_iff_right₀ (by norm_num)).mp (hlow.trans (binary_le hm' hgreatest))
  have hlower := (zpow_lt_zpow_iff_right₀ (by norm_num)).mp ((le_binary hm hleast).trans_lt hhigh)
  omega

section
variable {l : Layout} {x : Binary64} {negative : Bool} {n : Nat} {k : Int}

/-- No number takes more than 23 characters and a sign. -/
theorem length_body_ofDecimal (hl : l.Compact)
    (h : Binary64.ofDecimal? negative n k = some x) : (l.body x).length ≤ 23 := by
  obtain ⟨-, hzero | ⟨hm, hm', hleast, hgreatest, -⟩⟩ := ofDecimal?_spec h
  · rw [length_body_of_isZero hzero]
    omega
  · obtain ⟨hdigits, -, -⟩ := shortest_bounds hm x.exponent
    exact length_body_le hl (exponent_lt hm hm' hleast hgreatest) (by omega) (by omega)

/-- A number that is read from a few digits takes few characters. -/
theorem length_body_ofDecimal_few (hl : l.Compact) {p : Nat} (hp : p ≤ 16) (hn : n < 10 ^ p)
    (h : Binary64.ofDecimal? negative n k = some x) :
    (l.body x).length ≤ max (p + 7) (min 18 (p + k + 4).toNat) := by
  obtain ⟨-, hzero | ⟨hm, hm', hleast, hgreatest, hhas⟩⟩ := ofDecimal?_spec h
  · rw [length_body_of_isZero hzero]
    omega
  · obtain ⟨hdigits, hexponent⟩ := shortest_bounds_of_has hm hhas hn hp
    exact length_body_le hl (exponent_lt hm hm' hleast hgreatest) (by omega) (by omega)

theorem negative_ofDecimal (h : Binary64.ofDecimal? negative n k = some x) :
    x.negative = negative :=
  (ofDecimal?_spec h).1

end

end ScreenBridge.Number
