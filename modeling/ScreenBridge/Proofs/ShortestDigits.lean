import Mathlib.Algebra.Order.Field.Power
import Mathlib.Algebra.Order.Field.Rat
import Mathlib.Data.Nat.Cast.Order.Field
import Mathlib.Tactic.FieldSimp
import Mathlib.Tactic.Linarith
import Mathlib.Tactic.NormNum
import Mathlib.Tactic.Positivity
import Mathlib.Tactic.Ring
import ScreenBridge.Number.Shortest

/-!
# How many digits the shortest decimal has

The numbers that round to a binary number form an interval around it (`Rounding.Has`), read here
in rational numbers instead of over a common denominator. An interval has no gaps, so as soon as
any point of a grid lies in it, a neighbour of the number on that grid does, and the search stops
there (`neighbour?_isSome`). Two bounds follow. The search never goes below the seventeenth grid,
so there are seventeen digits at most; and a decimal of `p` digits that rounds to the number lies
on a grid at most `p` below the leading digit, so `p + 1` digits are enough for it.

One neighbour may be a power of ten with a digit more than its grid allows. Its zeros are dropped,
so that the number of digits never shows it.
-/

namespace ScreenBridge.Number

/-! ## Powers as fractions -/

theorem powerBelow_pos {b : Nat} (hb : 0 < b) (e : Int) : (0 : ℚ) < powerBelow b e :=
  Nat.cast_pos.mpr (Nat.pow_pos hb)

theorem cast_powerAbove {b : Nat} (hb : 0 < b) (e : Int) :
    (powerAbove b e : ℚ) = (b : ℚ) ^ e * powerBelow b e := by
  have hb' : (b : ℚ) ≠ 0 := by positivity
  rw [powerAbove, powerBelow, Nat.pow_eq, Nat.pow_eq, Nat.cast_pow, Nat.cast_pow,
    ← zpow_natCast, ← zpow_natCast, ← zpow_add₀ hb']
  congr 1
  omega

theorem cast_two (e : Int) : (powerAbove 2 e : ℚ) = 2 ^ e * powerBelow 2 e :=
  cast_powerAbove (by decide) e

theorem cast_ten (e : Int) : (powerAbove 10 e : ℚ) = 10 ^ e * powerBelow 10 e :=
  cast_powerAbove (by decide) e

/-! ## The numbers that round to a number -/

/-- The number itself. -/
def Rounding.value (r : Rounding) : ℚ :=
  r.middle * 2 ^ r.exponent

/-- A number between the ends. -/
def Rounding.Has (r : Rounding) (y : ℚ) : Prop :=
  if r.closed then r.lower * 2 ^ r.exponent ≤ y ∧ y ≤ r.upper * 2 ^ r.exponent
  else r.lower * 2 ^ r.exponent < y ∧ y < r.upper * 2 ^ r.exponent

theorem Rounding.contains_iff (r : Rounding) (d : Nat) (grid : Int) :
    r.contains d grid = true ↔ r.Has (d * 10 ^ grid) := by
  have h2 := powerBelow_pos (b := 2) (by decide) r.exponent
  have h10 := powerBelow_pos (b := 10) (by decide) grid
  have hscaled : ((d * powerAbove 10 grid * powerBelow 2 r.exponent : ℕ) : ℚ) =
      d * 10 ^ grid * (powerBelow 2 r.exponent * powerBelow 10 grid) := by
    push_cast
    rw [cast_ten]
    ring
  have hend : ∀ n : ℕ, ((n * (powerAbove 2 r.exponent * powerBelow 10 grid) : ℕ) : ℚ) =
      n * 2 ^ r.exponent * (powerBelow 2 r.exponent * powerBelow 10 grid) := by
    intro n
    push_cast
    rw [cast_two]
    ring
  have hunit : (0 : ℚ) < powerBelow 2 r.exponent * powerBelow 10 grid := mul_pos h2 h10
  unfold contains Has
  cases r.closed
  · simp only [Bool.false_eq_true, if_false, Bool.and_eq_true, decide_eq_true_iff]
    rw [← Nat.cast_lt (α := ℚ), ← Nat.cast_lt (α := ℚ), hscaled, hend, hend,
      mul_lt_mul_iff_of_pos_right hunit, mul_lt_mul_iff_of_pos_right hunit]
  · simp only [if_true, Bool.and_eq_true, decide_eq_true_iff]
    rw [← Nat.cast_le (α := ℚ), ← Nat.cast_le (α := ℚ), hscaled, hend, hend,
      mul_le_mul_iff_of_pos_right hunit, mul_le_mul_iff_of_pos_right hunit]

/-- The numbers that round to a number have no gaps. -/
theorem Rounding.Has.between {r : Rounding} {x y z : ℚ} (hx : r.Has x) (hy : r.Has y)
    (hxz : x ≤ z) (hzy : z ≤ y) : r.Has z := by
  unfold Has at *
  split at hx
  · next hclosed =>
      rw [if_pos hclosed] at hy ⊢
      exact ⟨hx.1.trans hxz, hzy.trans hy.2⟩
  · next hopen =>
      rw [if_neg hopen] at hy ⊢
      exact ⟨hx.1.trans_le hxz, hzy.trans_lt hy.2⟩

/-- The number `m * 2 ^ q`. -/
def binary (m : Nat) (q : Int) : ℚ :=
  m * 2 ^ q

theorem binary_four (m : Nat) (q : Int) : binary (4 * m) (q - 2) = binary m q := by
  have h : (2 : ℚ) ^ q = 2 ^ (q - 2) * 4 := by
    rw [show (4 : ℚ) = 2 ^ (2 : ℤ) by norm_num, ← zpow_add₀ (by norm_num)]
    congr 1
    omega
  rw [binary, binary, h]
  push_cast
  ring

theorem Rounding.has_self {m : Nat} (hm : 0 < m) (q : Int) :
    (Rounding.of m q).Has (binary m q) := by
  have hunit : (0 : ℚ) < 2 ^ (q - 2) := by positivity
  have hlower : (Rounding.of m q).lower < 4 * m := by
    simp only [Rounding.of]
    split <;> omega
  have hupper : 4 * m < (Rounding.of m q).upper := by
    simp only [Rounding.of]
    omega
  have hlow : (Rounding.of m q).lower * (2 : ℚ) ^ (q - 2) < binary m q := by
    rw [← binary_four, binary]
    exact mul_lt_mul_of_pos_right (Nat.cast_lt.mpr hlower) hunit
  have hhigh : binary m q < (Rounding.of m q).upper * (2 : ℚ) ^ (q - 2) := by
    rw [← binary_four, binary]
    exact mul_lt_mul_of_pos_right (Nat.cast_lt.mpr hupper) hunit
  unfold Has
  split
  · exact ⟨hlow.le, hhigh.le⟩
  · exact ⟨hlow, hhigh⟩

/-! ## Neighbours on a grid -/

theorem floor_bounds (n : Nat) {d : Nat} (hd : 0 < d) :
    ((n / d : ℕ) : ℚ) ≤ n / d ∧ (n : ℚ) / d < (n / d : ℕ) + 1 := by
  have hd' : (0 : ℚ) < d := Nat.cast_pos.mpr hd
  refine ⟨Nat.cast_div_le, ?_⟩
  rw [div_lt_iff₀ hd', ← Nat.cast_add_one, ← Nat.cast_mul, Nat.cast_lt]
  exact (Nat.div_lt_iff_lt_mul hd).mp (Nat.lt_succ_self _)

theorem roundDiv_cases (n d : Nat) : roundDiv n d = n / d ∨ roundDiv n d = n / d + 1 := by
  unfold roundDiv
  dsimp only
  split
  · exact .inl rfl
  · split
    · exact .inr rfl
    · omega

section
variable {r : Rounding} {grid : Int} {d k n : Nat}

/-- The neighbour below on a grid. -/
def Rounding.below (r : Rounding) (grid : Int) : Nat :=
  r.middle * powerAbove 2 r.exponent * powerBelow 10 grid /
    (powerBelow 2 r.exponent * powerAbove 10 grid)

theorem Rounding.below_bounds (r : Rounding) (grid : Int) :
    r.below grid * 10 ^ grid ≤ r.value ∧ r.value < (r.below grid + 1) * 10 ^ grid := by
  have h2 := powerBelow_pos (b := 2) (by decide) r.exponent
  have h10 := powerBelow_pos (b := 10) (by decide) grid
  have hgrid : (0 : ℚ) < 10 ^ grid := by positivity
  have hd : 0 < powerBelow 2 r.exponent * powerAbove 10 grid :=
    Nat.mul_pos (Nat.pow_pos (by decide)) (Nat.pow_pos (by decide))
  have hratio : ((r.middle * powerAbove 2 r.exponent * powerBelow 10 grid : ℕ) : ℚ) /
      (powerBelow 2 r.exponent * powerAbove 10 grid : ℕ) = r.value / 10 ^ grid := by
    push_cast
    rw [cast_two, cast_ten, Rounding.value]
    field_simp
  have hfloor := floor_bounds (r.middle * powerAbove 2 r.exponent * powerBelow 10 grid) hd
  rw [hratio, le_div_iff₀ hgrid, div_lt_iff₀ hgrid] at hfloor
  exact hfloor

theorem Rounding.neighbour?_eq_some (h : r.neighbour? grid = some d) :
    d = r.below grid ∨ d = r.below grid + 1 := by
  simp only [neighbour?] at h
  split at h <;> cases h
  · exact roundDiv_cases _ _
  · exact .inl rfl
  · exact .inr rfl

/-- If some point of a grid rounds to a number, then one of its neighbours does. -/
theorem Rounding.neighbour?_isSome (hself : r.Has r.value) (hk : r.Has (k * 10 ^ grid)) :
    (r.neighbour? grid).isSome = true := by
  obtain ⟨hbelow, habove⟩ := r.below_bounds grid
  have hgrid : (0 : ℚ) ≤ 10 ^ grid := by positivity
  have hnear : r.contains (r.below grid) grid = true ∨
      r.contains (r.below grid + 1) grid = true := by
    rw [contains_iff, contains_iff, Nat.cast_add_one]
    by_cases hle : k ≤ r.below grid
    · refine .inl (hk.between hself ?_ hbelow)
      exact mul_le_mul_of_nonneg_right (Nat.cast_le.mpr hle) hgrid
    · refine .inr (hself.between hk habove.le ?_)
      refine mul_le_mul_of_nonneg_right ?_ hgrid
      exact_mod_cast Nat.succ_le_of_lt (Nat.lt_of_not_le hle)
  simp only [neighbour?]
  rw [below] at hnear
  split
  · rfl
  · rfl
  · rfl
  · next hno hno' => simp [hno, hno'] at hnear

/-- Below a power of ten there are no more neighbours than that. -/
theorem Rounding.neighbour?_le (h : r.neighbour? grid = some d)
    (hvalue : r.value < 10 ^ (grid + n)) : d ≤ 10 ^ n := by
  obtain ⟨hbelow, -⟩ := r.below_bounds grid
  have hgrid : (0 : ℚ) < 10 ^ grid := by positivity
  have hlt := hbelow.trans_lt hvalue
  rw [zpow_add₀ (by norm_num), mul_comm (10 ^ grid), mul_lt_mul_iff_of_pos_right hgrid,
    zpow_natCast] at hlt
  have hnat : r.below grid < 10 ^ n := by exact_mod_cast hlt
  rcases neighbour?_eq_some h with rfl | rfl <;> omega

end

/-! ## The leading digit -/

theorem toDigits_bounds {n : Nat} (hn : 0 < n) :
    ∃ k, (Nat.toDigits 10 n).length = k + 1 ∧ 10 ^ k ≤ n ∧ n < 10 ^ (k + 1) := by
  have hpos : 0 < (Nat.toDigits 10 n).length := Nat.length_toDigits_pos
  obtain ⟨k, hk⟩ := Nat.exists_eq_succ_of_ne_zero hpos.ne'
  refine ⟨k, hk, ?_, (Nat.length_toDigits_le_iff (by decide) (Nat.succ_pos k)).mp hk.le⟩
  cases k with
  | zero => exact hn
  | succ k =>
      rw [← Nat.not_lt]
      intro hlt
      have := (Nat.length_toDigits_le_iff (by decide) (Nat.succ_pos k)).mpr hlt
      omega

/-- A positive fraction lies between the power of ten of its leading digit and the next. -/
theorem leadingPower_bounds {n d : Nat} (hn : 0 < n) (hd : 0 < d) :
    (10 : ℚ) ^ leadingPower n d ≤ n / d ∧ (n : ℚ) / d < 10 ^ (leadingPower n d + 1) := by
  have hn' : (0 : ℚ) < n := Nat.cast_pos.mpr hn
  have hd' : (0 : ℚ) < d := Nat.cast_pos.mpr hd
  unfold leadingPower
  split
  · next hle =>
      obtain ⟨k, hlen, hlow, hhigh⟩ := toDigits_bounds (Nat.div_pos hle hd)
      obtain ⟨hfloor, habove⟩ := floor_bounds n hd
      have hpower : ((Nat.toDigits 10 (n / d)).length : ℤ) - 1 = k := by omega
      rw [hpower, ← Nat.cast_succ, zpow_natCast, zpow_natCast]
      constructor
      · exact le_trans (by exact_mod_cast hlow) hfloor
      · exact habove.trans_le (by exact_mod_cast hhigh)
  · next hlt =>
      -- the quotient of the inverse fraction, rounded up, less one
      obtain ⟨c, hc, hbelow, habove⟩ : ∃ c, (d + n - 1) / n - 1 = c ∧ c * n < d ∧
          d ≤ (c + 1) * n := by
        have hsplit := Nat.div_add_mod (d + n - 1) n
        have hmod := Nat.mod_lt (d + n - 1) hn
        obtain ⟨c, hc⟩ : ∃ c, (d + n - 1) / n = c + 1 :=
          ⟨(d + n - 1) / n - 1, (Nat.sub_add_cancel (Nat.div_pos (by omega) hn)).symm⟩
        rw [hc, Nat.mul_succ, Nat.mul_comm] at hsplit
        refine ⟨c, by rw [hc, Nat.add_sub_cancel], by omega, ?_⟩
        rw [Nat.succ_mul]
        omega
      have hpos : 0 < c := by
        rcases Nat.eq_zero_or_pos c with rfl | hpos
        · omega
        · exact hpos
      obtain ⟨k, hlen, hlow, hhigh⟩ := toDigits_bounds hpos
      rw [hc, hlen]
      have hten : (0 : ℚ) < 10 ^ k := by positivity
      constructor
      · have hd10 : (d : ℚ) ≤ 10 ^ (k + 1) * n := by
          exact_mod_cast habove.trans (Nat.mul_le_mul_right n hhigh)
        rw [zpow_neg, zpow_natCast, le_div_iff₀ hd', inv_mul_le_iff₀ (by positivity)]
        exact hd10
      · have hd10 : (10 : ℚ) ^ k * n < d := by
          exact_mod_cast (Nat.mul_le_mul_right n hlow).trans_lt hbelow
        have hexp : -((k + 1 : ℕ) : ℤ) + 1 = -(k : ℤ) := by omega
        rw [hexp, zpow_neg, zpow_natCast, div_lt_iff₀ hd', lt_inv_mul_iff₀ hten]
        exact hd10

/-! ## The shortest digits -/

theorem dropTrailingZeros_zero (ds : List Char) :
    dropTrailingZeros (ds ++ ['0']) = dropTrailingZeros ds := by
  rw [dropTrailingZeros, List.reverse_append]
  rfl

theorem length_dropTrailingZeros_le (ds : List Char) :
    (dropTrailingZeros ds).length ≤ ds.length := by
  rw [dropTrailingZeros, List.length_reverse]
  exact (List.dropWhile_sublist _).length_le.trans_eq List.length_reverse

theorem dropTrailingZeros_ten_pow (n : Nat) :
    dropTrailingZeros (Nat.toDigits 10 (10 ^ n)) = ['1'] := by
  induction n with
  | zero => rfl
  | succ n ih =>
      have hten : 10 ≤ 10 ^ (n + 1) := Nat.le_self_pow (Nat.succ_ne_zero n) 10
      rw [Nat.toDigits_of_base_le (by decide) hten, Nat.pow_succ, Nat.mul_mod_left,
        Nat.mul_div_cancel _ (by decide)]
      exact (dropTrailingZeros_zero _).trans ih

/-- Up to a power of ten there are no more digits than its zeros, as its own are dropped. -/
theorem length_digits_le {d n : Nat} (h : d ≤ 10 ^ (n + 1)) :
    (dropTrailingZeros (Nat.toDigits 10 d)).length ≤ n + 1 ∧
      (Nat.toDigits 10 d).length ≤ n + 2 := by
  constructor
  · rcases Nat.eq_or_lt_of_le h with rfl | hlt
    · rw [dropTrailingZeros_ten_pow]
      exact Nat.succ_le_succ (Nat.zero_le n)
    · exact (length_dropTrailingZeros_le _).trans
        ((Nat.length_toDigits_le_iff (by decide) (Nat.succ_pos n)).mpr hlt)
  · exact (Nat.length_toDigits_le_iff (by decide) (Nat.succ_pos _)).mpr
      (h.trans_lt (Nat.pow_lt_pow_right (by decide) (by omega)))

section
variable {m : Nat} {q : Int}

/-- The power of ten of the leading digit of `m * 2 ^ q`. -/
def lead (m : Nat) (q : Int) : Int :=
  leadingPower (m * powerAbove 2 q) (powerBelow 2 q)

theorem lead_bounds (hm : 0 < m) (q : Int) :
    10 ^ lead m q ≤ binary m q ∧ binary m q < 10 ^ (lead m q + 1) := by
  have h2 := powerBelow_pos (b := 2) (by decide) q
  have hratio : ((m * powerAbove 2 q : ℕ) : ℚ) / powerBelow 2 q = binary m q := by
    push_cast
    rw [cast_two, binary]
    field_simp
  rw [← hratio]
  exact leadingPower_bounds (Nat.mul_pos hm (Nat.pow_pos (by decide))) (Nat.cast_pos.mp h2)

theorem findSome?_range {α : Type} {f : Nat → Option α} {bound : Nat} {a : α}
    (h : (List.range bound).findSome? f = some a) :
    ∃ n < bound, f n = some a ∧ ∀ k < n, f k = none := by
  obtain ⟨before, n, after, hsplit, hn, hbefore⟩ := List.findSome?_eq_some_iff.mp h
  have hget : ∀ i < bound, (before ++ n :: after)[i]? = some i := by
    intro i hi
    rw [← hsplit, List.getElem?_range hi]
  have hlen := congrArg List.length hsplit
  rw [List.length_range, List.length_append, List.length_cons] at hlen
  have heq : n = before.length := by
    have hat := hget before.length (by omega)
    rw [List.getElem?_append_right (Nat.le_refl _), Nat.sub_self] at hat
    exact Option.some.inj hat
  refine ⟨n, by omega, hn, fun k hk => hbefore k ?_⟩
  have hat := hget k (by omega)
  rw [List.getElem?_append_left (heq ▸ hk)] at hat
  exact List.mem_of_getElem? hat

/-- A number has the neighbour `d` on the grid `n` below its leading digit, and none on the
coarser ones. -/
structure Hit (m : Nat) (q : Int) (n d : Nat) : Prop where
  lt : n < 17
  found : (Rounding.of m q).neighbour? (lead m q - n) = some d
  first : ∀ k < n, (Rounding.of m q).neighbour? (lead m q - k) = none

theorem shortest_cases (m : Nat) (q : Int) :
    (∃ n d, Hit m q n d ∧ shortest m q = ⟨dropTrailingZeros (Nat.toDigits 10 d),
      lead m q - n + (Nat.toDigits 10 d).length - 1⟩) ∨
    ((∀ n : Nat, n < 17 → (Rounding.of m q).neighbour? (lead m q - n) = none) ∧
      shortest m q = ⟨[], 0⟩) := by
  unfold shortest
  dsimp only
  rw [← lead]
  cases h : (List.range 17).findSome? fun (n : Nat) =>
      ((Rounding.of m q).neighbour? (lead m q - n)).map fun d => (d, lead m q - n) with
  | none =>
      refine .inr ⟨fun n hn => ?_, rfl⟩
      exact Option.map_eq_none_iff.mp (List.findSome?_eq_none_iff.mp h n (List.mem_range.mpr hn))
  | some found =>
      obtain ⟨n, hn, hfound, hfirst⟩ := findSome?_range h
      obtain ⟨d, hd, rfl⟩ := Option.map_eq_some_iff.mp hfound
      exact .inl ⟨n, d, ⟨hn, hd, fun k hk => Option.map_eq_none_iff.mp (hfirst k hk)⟩, rfl⟩

theorem binary_value (m : Nat) (q : Int) : (Rounding.of m q).value = binary m q :=
  binary_four m q

/-- The digits of a hit are as many as its grid is below the leading digit, and one. -/
theorem Hit.bounds {n d : Nat} (hm : 0 < m) (h : Hit m q n d) :
    (dropTrailingZeros (Nat.toDigits 10 d)).length ≤ n + 1 ∧
    lead m q - n ≤ lead m q - n + (Nat.toDigits 10 d).length - 1 ∧
    lead m q - n + (Nat.toDigits 10 d).length - 1 ≤ lead m q + 1 := by
  have hvalue : (Rounding.of m q).value < 10 ^ (lead m q - n + (n + 1 : ℕ)) := by
    rw [binary_value]
    have hexp : lead m q - n + (n + 1 : ℕ) = lead m q + 1 := by omega
    rw [hexp]
    exact (lead_bounds hm q).2
  obtain ⟨hdigits, hlen⟩ := length_digits_le (Rounding.neighbour?_le h.found hvalue)
  have hpos : 0 < (Nat.toDigits 10 d).length := Nat.length_toDigits_pos
  exact ⟨hdigits, by omega, by omega⟩

/-- Seventeen digits are always enough, and the first of them stands near the leading one. -/
theorem shortest_bounds (hm : 0 < m) (q : Int) :
    (shortest m q).digits.length ≤ 17 ∧
    min 0 (lead m q - 16) ≤ (shortest m q).exponent ∧
    (shortest m q).exponent ≤ max 0 (lead m q + 1) := by
  rcases shortest_cases m q with ⟨n, d, hhit, heq⟩ | ⟨-, heq⟩
  · obtain ⟨hdigits, hlow, hhigh⟩ := hhit.bounds hm
    have hlt := hhit.lt
    rw [heq]
    exact ⟨by dsimp only; omega, by dsimp only; omega, by dsimp only; omega⟩
  · rw [heq]
    exact ⟨Nat.zero_le _, by dsimp only; omega, by dsimp only; omega⟩

theorem Rounding.Has.lower_le {r : Rounding} {y : ℚ} (h : r.Has y) :
    r.lower * 2 ^ r.exponent ≤ y := by
  unfold Has at h
  split at h
  · exact h.1
  · exact h.1.le

/-- What rounds to a number is at least half of it, which bounds its leading digit. -/
theorem lead_le_of_has {k : Int} {n p : Nat} (hm : 0 < m)
    (hhas : (Rounding.of m q).Has (n * 10 ^ k)) (hn : n < 10 ^ p) : lead m q ≤ p + k := by
  have hunit : (0 : ℚ) < 2 ^ (q - 2) := by positivity
  have hten : (0 : ℚ) < 10 ^ k := by positivity
  have hlower : 4 * m ≤ 2 * (Rounding.of m q).lower := by
    simp only [Rounding.of]
    split <;> omega
  have hhalf : binary m q ≤ 2 * (n * 10 ^ k) := by
    have hends : ((4 * m : ℕ) : ℚ) * 2 ^ (q - 2) ≤
        (2 * (Rounding.of m q).lower : ℕ) * 2 ^ (q - 2) :=
      mul_le_mul_of_nonneg_right (Nat.cast_le.mpr hlower) hunit.le
    have hhas := hhas.lower_le
    rw [← binary_four, binary]
    push_cast at hends ⊢
    simp only [Rounding.of] at hhas hends ⊢
    linarith
  have hsmall : 2 * (n * (10 : ℚ) ^ k) < 10 ^ ((p : ℤ) + k + 1) := by
    have hn' : (n : ℚ) < 10 ^ p := by exact_mod_cast hn
    rw [zpow_add₀ (by norm_num), zpow_add₀ (by norm_num), zpow_natCast, zpow_one]
    have := mul_lt_mul_of_pos_right hn' hten
    linarith [mul_pos (pow_pos (by norm_num : (0 : ℚ) < 10) p) hten]
  have hlt := ((lead_bounds hm q).1.trans hhalf).trans_lt hsmall
  have := (zpow_lt_zpow_iff_right₀ (by norm_num)).mp hlt
  omega

/-- A decimal of few digits that rounds to a number leaves it with few digits. -/
theorem shortest_bounds_of_has {k : Int} {n p : Nat} (hm : 0 < m)
    (hhas : (Rounding.of m q).Has (n * 10 ^ k)) (hn : n < 10 ^ p) (hp : p ≤ 16) :
    (shortest m q).digits.length ≤ p + 1 ∧
    (shortest m q).exponent ≤ max 0 (p + k + 1) := by
  have hlead := lead_le_of_has hm hhas hn
  rcases shortest_cases m q with ⟨i, d, hhit, heq⟩ | ⟨-, heq⟩
  · obtain ⟨hdigits, -, hhigh⟩ := hhit.bounds hm
    have hi : i ≤ p := by
      rw [← Nat.not_lt]
      intro hlt
      -- on the grid of the decimal, or on that of the leading digit, there is a neighbour
      obtain ⟨j, hj, hgrid⟩ : ∃ j : ℕ, j ≤ p ∧ lead m q - j ≤ k :=
        ⟨(lead m q - k).toNat, by omega, by omega⟩
      obtain ⟨t, ht⟩ := Int.eq_ofNat_of_zero_le (Int.sub_nonneg_of_le hgrid)
      have hfine : (n : ℚ) * 10 ^ k = (n * 10 ^ t : ℕ) * 10 ^ (lead m q - j) := by
        have hk : k = lead m q - j + t := by omega
        rw [Nat.cast_mul, Nat.cast_pow, hk, zpow_add₀ (by norm_num), zpow_natCast]
        push_cast
        ring
      have hself := Rounding.has_self hm q
      rw [← binary_value] at hself
      rw [hfine] at hhas
      have hsome := Rounding.neighbour?_isSome hself hhas
      rw [hhit.first j (by omega)] at hsome
      cases hsome
    rw [heq]
    exact ⟨by dsimp only; omega, by dsimp only; omega⟩
  · rw [heq]
    exact ⟨Nat.zero_le _, by dsimp only; omega⟩

end

end ScreenBridge.Number
