import ScreenBridge.Proofs.ShortestDigits

/-!
# A decimal lies among the numbers that round to what is read

The reader scales a fraction by a power of two, rounds the quotient, and carries once where the
rounding reaches the next power of two. The logarithms that it guesses the power from are off by
less than one (`ratio_bounds`), so the scaled fraction fills the mantissa unless the power is the
least (`exponent_spec`). That is what the lower end at a power of two needs: below it the
numbers lie twice as dense, and the interval reaches half as far.
-/

namespace ScreenBridge.Number

/-! ## Rounding a quotient -/

/-- A whole number is nearest to a fraction; the even one is if there are two. -/
def Nearest (m : Nat) (y : ℚ) : Prop :=
  if m % 2 = 0 then 2 * (m : ℚ) - 1 ≤ 2 * y ∧ 2 * y ≤ 2 * m + 1
  else 2 * (m : ℚ) - 1 < 2 * y ∧ 2 * y < 2 * m + 1

theorem Nearest.bounds {m : Nat} {y : ℚ} (h : Nearest m y) :
    2 * (m : ℚ) - 1 ≤ 2 * y ∧ 2 * y ≤ 2 * m + 1 := by
  unfold Nearest at h
  split at h
  · exact h
  · exact ⟨h.1.le, h.2.le⟩

theorem roundDiv_bounds (n : Nat) {d : Nat} (hd : 0 < d) :
    2 * (roundDiv n d * d) ≤ 2 * n + d ∧ 2 * n ≤ 2 * (roundDiv n d * d) + d ∧
    (roundDiv n d % 2 = 0 ∨
      2 * (roundDiv n d * d) < 2 * n + d ∧ 2 * n < 2 * (roundDiv n d * d) + d) := by
  have hn := Nat.div_add_mod n d
  rw [Nat.mul_comm] at hn
  have hr := Nat.mod_lt n hd
  unfold roundDiv
  dsimp only
  split
  · omega
  · split
    · rw [Nat.add_one_mul (n / d) d]
      omega
    · rcases Nat.mod_two_eq_zero_or_one (n / d) with heven | hodd
      · rw [heven, Nat.add_zero]
        omega
      · rw [hodd, Nat.add_one_mul (n / d) d]
        omega

theorem nearest_roundDiv (n : Nat) {d : Nat} (hd : 0 < d) : Nearest (roundDiv n d) (n / d) := by
  have hd' : (0 : ℚ) < d := Nat.cast_pos.mpr hd
  have hscale : (n : ℚ) / d * d = n := div_mul_cancel₀ _ hd'.ne'
  obtain ⟨hlow, hhigh, hhalf⟩ := roundDiv_bounds n hd
  unfold Nearest
  split
  · have hlow' : 2 * ((roundDiv n d : ℚ) * d) ≤ 2 * n + d := by exact_mod_cast hlow
    have hhigh' : 2 * (n : ℚ) ≤ 2 * (roundDiv n d * d) + d := by exact_mod_cast hhigh
    constructor <;> refine le_of_mul_le_mul_right ?_ hd' <;> nlinarith
  · next hodd =>
      obtain ⟨hlow, hhigh⟩ := hhalf.resolve_left hodd
      have hlow' : 2 * ((roundDiv n d : ℚ) * d) < 2 * n + d := by exact_mod_cast hlow
      have hhigh' : 2 * (n : ℚ) < 2 * (roundDiv n d * d) + d := by exact_mod_cast hhigh
      constructor <;> refine lt_of_mul_lt_mul_right ?_ hd'.le <;> nlinarith

/-! ## The power of two -/

section
variable {n d : Nat}

theorem scaled_ratio (n d : Nat) (q : Int) :
    ((n * powerBelow 2 q : ℕ) : ℚ) / (d * powerAbove 2 q : ℕ) = n / d / 2 ^ q := by
  have h2 := powerBelow_pos (b := 2) (by decide) q
  push_cast
  rw [cast_two]
  field_simp

/-- The logarithms place a fraction between two powers. -/
theorem ratio_bounds (hn : 0 < n) (hd : 0 < d) :
    (2 : ℚ) ^ ((n.log2 : ℤ) - d.log2 - 1) ≤ n / d ∧
    (n : ℚ) / d < 2 ^ ((n.log2 : ℤ) - d.log2 + 1) := by
  have hd' : (0 : ℚ) < d := Nat.cast_pos.mpr hd
  have hnlow : (2 : ℚ) ^ n.log2 ≤ n := by exact_mod_cast Nat.log2_self_le hn.ne'
  have hnhigh : (n : ℚ) < 2 ^ (n.log2 + 1) := by exact_mod_cast Nat.lt_log2_self
  have hdlow : (2 : ℚ) ^ d.log2 ≤ d := by exact_mod_cast Nat.log2_self_le hd.ne'
  have hdhigh : (d : ℚ) < 2 ^ (d.log2 + 1) := by exact_mod_cast Nat.lt_log2_self
  constructor
  · calc (2 : ℚ) ^ ((n.log2 : ℤ) - d.log2 - 1)
        = 2 ^ n.log2 / 2 ^ (d.log2 + 1) := by
          rw [← zpow_natCast, ← zpow_natCast, ← zpow_sub₀ (by norm_num)]
          congr 1
          omega
      _ ≤ n / d := div_le_div₀ (Nat.cast_nonneg n) hnlow hd' hdhigh.le
  · calc (n : ℚ) / d < 2 ^ (n.log2 + 1) / 2 ^ d.log2 :=
          div_lt_div₀ hnhigh hdlow (by positivity) (by positivity)
      _ = 2 ^ ((n.log2 : ℤ) - d.log2 + 1) := by
          rw [← zpow_natCast, ← zpow_natCast, ← zpow_sub₀ (by norm_num)]
          congr 1
          omega

/-- The power of two that a fraction is measured in, before a carry. -/
def unitPower (n d : Nat) : Int :=
  let guess : Int := (n.log2 : Int) - d.log2 - 52
  max (if n * powerBelow 2 guess / (d * powerAbove 2 guess) < Nat.pow 2 52 then guess - 1
    else guess) leastExponent

theorem div_zpow_le {y : ℚ} {p q : Int} (hy : 0 ≤ y) (h : p ≤ q) : y / 2 ^ q ≤ y / 2 ^ p :=
  div_le_div_of_nonneg_left hy (by positivity) (zpow_le_zpow_right₀ (by norm_num) h)

/-- Measured in its power a fraction fills the mantissa, unless that is the least power. -/
theorem unitPower_spec (hn : 0 < n) (hd : 0 < d) :
    leastExponent ≤ unitPower n d ∧
    (leastExponent < unitPower n d → 2 ^ 52 ≤ (n : ℚ) / d / 2 ^ unitPower n d) ∧
    (n : ℚ) / d / 2 ^ unitPower n d < 2 ^ 54 := by
  obtain ⟨hlow, hhigh⟩ := ratio_bounds hn hd
  have hy : (0 : ℚ) ≤ n / d := by positivity
  unfold unitPower
  dsimp only
  generalize hguess : (n.log2 : ℤ) - d.log2 - 52 = guess
  have hlow' : 2 ^ 52 ≤ (n : ℚ) / d / 2 ^ (guess - 1) := by
    have hexp : ((52 : ℕ) : ℤ) + (guess - 1) = n.log2 - d.log2 - 1 := by omega
    rw [le_div_iff₀ (by positivity), ← zpow_natCast, ← zpow_add₀ (by norm_num), hexp]
    exact hlow
  have hhigh' : (n : ℚ) / d / 2 ^ (guess - 1) < 2 ^ 54 := by
    have hexp : ((54 : ℕ) : ℤ) + (guess - 1) = n.log2 - d.log2 + 1 := by omega
    rw [div_lt_iff₀ (by positivity), ← zpow_natCast, ← zpow_add₀ (by norm_num), hexp]
    exact hhigh
  by_cases hsmall : n * powerBelow 2 guess / (d * powerAbove 2 guess) < Nat.pow 2 52
  · rw [if_pos hsmall]
    refine ⟨le_max_right _ _, fun hleast => ?_, ?_⟩
    · rw [max_eq_left (by omega)]
      exact hlow'
    · exact (div_zpow_le hy (le_max_left _ _)).trans_lt hhigh'
  · rw [if_neg hsmall]
    refine ⟨le_max_right _ _, fun hleast => ?_, ?_⟩
    · rw [max_eq_left (by omega), ← scaled_ratio]
      have hfloor : ((2 ^ 52 : ℕ) : ℚ) ≤
          ((n * powerBelow 2 guess / (d * powerAbove 2 guess) : ℕ) : ℚ) :=
        Nat.cast_le.mpr (Nat.le_of_not_lt hsmall)
      have hscale : 0 < d * powerAbove 2 guess := Nat.mul_pos hd (Nat.pow_pos (by decide))
      have hbelow := (floor_bounds (n * powerBelow 2 guess) hscale).1
      push_cast at hfloor hbelow ⊢
      exact hfloor.trans hbelow
    · refine (div_zpow_le hy ?_).trans_lt hhigh'
      omega

end

/-! ## The number that is read -/

section
variable {m : Nat} {q : Int} {y : ℚ}

/-- The interval of a number, measured in quarters of its unit. -/
theorem has_of_quarters
    (hlow : (Rounding.of m q).lower ≤ 4 * (y / 2 ^ q))
    (hhigh : 4 * (y / 2 ^ q) ≤ (Rounding.of m q).upper)
    (hopen : m % 2 = 0 ∨ (Rounding.of m q).lower < 4 * (y / 2 ^ q) ∧
      4 * (y / 2 ^ q) < (Rounding.of m q).upper) : (Rounding.of m q).Has y := by
  have hunit : (0 : ℚ) < 2 ^ (q - 2) := by positivity
  have hy : y = 4 * (y / 2 ^ q) * 2 ^ (q - 2) := by
    have hfour : (2 : ℚ) ^ q = 4 * 2 ^ (q - 2) := by
      rw [show (4 : ℚ) = 2 ^ (2 : ℤ) by norm_num, ← zpow_add₀ (by norm_num)]
      congr 1
      omega
    rw [hfour]
    field_simp
  rw [hy]
  unfold Rounding.Has
  split
  · exact ⟨mul_le_mul_of_nonneg_right hlow hunit.le, mul_le_mul_of_nonneg_right hhigh hunit.le⟩
  · next hclosed =>
      have hodd : ¬ m % 2 = 0 := fun heven => hclosed (beq_iff_eq.mpr heven)
      obtain ⟨hlow, hhigh⟩ := hopen.resolve_left hodd
      exact ⟨mul_lt_mul_of_pos_right hlow hunit, mul_lt_mul_of_pos_right hhigh hunit⟩

theorem has_of_nearest (h : Nearest m (y / 2 ^ q))
    (hfull : leastExponent < q → 2 ^ 52 ≤ y / 2 ^ q) (hy : 0 ≤ y) :
    (Rounding.of m q).Has y := by
  have ht : 0 ≤ y / 2 ^ q := by positivity
  generalize hscaled : y / 2 ^ q = t at *
  obtain ⟨hlow, hhigh⟩ := h.bounds
  have hupper : ((Rounding.of m q).upper : ℚ) = 4 * m + 2 := by
    simp only [Rounding.of]
    push_cast
    ring
  by_cases hpower : m = Nat.pow 2 52 ∧ leastExponent < q
  · have hlower : (Rounding.of m q).lower ≤ 4 * m := by
      simp only [Rounding.of]
      split <;> omega
    have hlower' : ((Rounding.of m q).lower : ℚ) ≤ 4 * m := by exact_mod_cast hlower
    have hm : (m : ℚ) = 2 ^ 52 := by
      rw [hpower.1, Nat.pow_eq]
      norm_num
    refine has_of_quarters ?_ ?_ (.inl (by rw [hpower.1])) <;> rw [hscaled]
    · linarith [hfull hpower.2]
    · linarith
  · have hlower : (Rounding.of m q).lower = 4 * m - 2 := by
      simp only [Rounding.of, if_neg hpower]
    rcases Nat.eq_zero_or_pos m with rfl | hm
    · refine has_of_quarters ?_ ?_ (.inl rfl) <;> rw [hscaled]
      · rw [hlower]
        simpa using ht
      · linarith
    · have hlower' : ((Rounding.of m q).lower : ℚ) = 4 * m - 2 := by
        rw [hlower, Nat.cast_sub (by omega)]
        push_cast
        ring
      refine has_of_quarters ?_ ?_ ?_ <;> rw [hscaled]
      · linarith
      · linarith
      · unfold Nearest at h
        split at h
        · next heven => exact .inl heven
        · exact .inr ⟨by linarith, by linarith⟩

/-- After a carry the lower end is the half that was rounded up. -/
theorem has_of_carry (h : Nearest (2 ^ 53) (y / 2 ^ q)) (hleast : leastExponent ≤ q) :
    (Rounding.of (2 ^ 52) (q + 1)).Has y := by
  obtain ⟨hlow, hhigh⟩ := h.bounds
  have hscaled : y / 2 ^ (q + 1) = y / 2 ^ q / 2 := by
    rw [zpow_add₀ (by norm_num), zpow_one, div_div]
  have hlower : (Rounding.of (2 ^ 52) (q + 1)).lower = 4 * 2 ^ 52 - 1 :=
    if_pos ⟨rfl, by omega⟩
  have hupper : (Rounding.of (2 ^ 52) (q + 1)).upper = 4 * 2 ^ 52 + 2 := rfl
  push_cast at hlow hhigh
  refine has_of_quarters ?_ ?_ (.inl rfl) <;> rw [hscaled]
  · rw [hlower]
    norm_num at hlow ⊢
    linarith
  · rw [hupper]
    norm_num at hhigh ⊢
    linarith

end

/-- A fraction is one of the numbers that round to what is read for it. -/
theorem ofRatio?_spec {negative : Bool} {n d : Nat} {x : Binary64} (hn : 0 < n) (hd : 0 < d)
    (h : Binary64.ofRatio? negative n d = some x) :
    (Rounding.of x.mantissa x.exponent).Has (n / d) ∧ x.mantissa ≤ 2 ^ 54 ∧
    leastExponent ≤ x.exponent ∧ x.exponent ≤ greatestExponent ∧ x.negative = negative := by
  have hy : (0 : ℚ) ≤ n / d := by positivity
  obtain ⟨hleast, hfull, hlt⟩ := unitPower_spec hn hd
  have hnear := nearest_roundDiv (n * powerBelow 2 (unitPower n d))
    (Nat.mul_pos hd (Nat.pow_pos (by decide)) : 0 < d * powerAbove 2 (unitPower n d))
  rw [scaled_ratio] at hnear
  unfold Binary64.ofRatio? at h
  dsimp only at h
  rw [← unitPower] at h
  generalize roundDiv (n * powerBelow 2 (unitPower n d))
    (d * powerAbove 2 (unitPower n d)) = m at *
  by_cases hcarry : m = Nat.pow 2 53
  · rw [if_pos hcarry] at h
    split at h
    · cases h
    · next hgreatest =>
        cases h
        rw [hcarry] at hnear
        refine ⟨has_of_carry hnear hleast, by norm_num, ?_, ?_, rfl⟩ <;> dsimp only at * <;> omega
  · rw [if_neg hcarry] at h
    split at h
    · cases h
    · next hgreatest =>
        cases h
        have hm : (m : ℚ) < 2 ^ 54 + 1 := by linarith [hnear.bounds.1]
        refine ⟨has_of_nearest hnear hfull hy, ?_, hleast, ?_, rfl⟩
        · exact Nat.lt_succ_iff.mp (by exact_mod_cast hm)
        · dsimp only at *
          omega

/-- The same of a decimal, unless so little is left of it that zero is read. -/
theorem ofDecimal?_spec {negative : Bool} {digits : Nat} {exponent : Int} {x : Binary64}
    (h : Binary64.ofDecimal? negative digits exponent = some x) :
    x.negative = negative ∧ (x.isZero = true ∨
      0 < x.mantissa ∧ x.mantissa ≤ 2 ^ 54 ∧ leastExponent ≤ x.exponent ∧
      x.exponent ≤ greatestExponent ∧
      (Rounding.of x.mantissa x.exponent).Has (digits * 10 ^ exponent)) := by
  unfold Binary64.ofDecimal? at h
  dsimp only at h
  split at h
  · cases h
    exact ⟨rfl, .inl rfl⟩
  · next hdigits =>
      split at h
      · cases h
        exact ⟨rfl, .inl rfl⟩
      · split at h
        · cases h
        · have h10 := powerBelow_pos (b := 10) (by decide) exponent
          have hratio : ((digits * powerAbove 10 exponent : ℕ) : ℚ) / powerBelow 10 exponent =
              digits * 10 ^ exponent := by
            push_cast
            rw [cast_ten]
            field_simp
          have hn : 0 < digits * powerAbove 10 exponent :=
            Nat.mul_pos (Nat.pos_of_ne_zero hdigits) (Nat.pow_pos (by decide))
          obtain ⟨hhas, hm, hleast, hgreatest, hsign⟩ := ofRatio?_spec hn (Nat.cast_pos.mp h10) h
          rw [hratio] at hhas
          refine ⟨hsign, ?_⟩
          rcases Nat.eq_zero_or_pos x.mantissa with hzero | hpos
          · exact .inl (beq_iff_eq.mpr hzero)
          · exact .inr ⟨hpos, hm, hleast, hgreatest, hhas⟩

end ScreenBridge.Number
