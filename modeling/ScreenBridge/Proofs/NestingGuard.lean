import ScreenBridge.Json.Limits

/-!
# The guard against nesting

The guard goes down a value member by member and stops at the first one that
stands too deep. Which one that is depends on the order of the members; whether
there is one, and what is said of it, depends on the height of the value alone
(`guard_by_height`). A scalar is a step of its own below the list it stands in,
and an empty list has no step below it: both come out of the height.

Going down, the guard leaves out no depth. So from a depth that is allowed it
first meets one that is not right below the limit, and that depth is what it
reports, however deep the value goes on. This is `verdict`, which is all that
the induction over the value has to carry.
-/

namespace ScreenBridge.Json

/-- What the guard says of a value that it may look into and whose innermost
member stands at a depth. -/
def verdict (limit innermost : Int) : Except LimitError Unit :=
  if limit < innermost then .error (.depth (limit + 1) limit) else .ok ()

section
variable {limit depth : Int}

theorem verdict_of_lt {innermost : Int} (h : limit < innermost) :
    verdict limit innermost = .error (.depth (limit + 1) limit) := if_pos h

theorem verdict_of_le {innermost : Int} (h : innermost ≤ limit) :
    verdict limit innermost = .ok () := if_neg (Int.not_lt.mpr h)

theorem verdict_eq_ok_iff {innermost : Int} :
    verdict limit innermost = .ok () ↔ innermost ≤ limit := by
  refine ⟨fun hok => Int.not_lt.mp fun hlt => ?_, verdict_of_le⟩
  rw [verdict_of_lt hlt] at hok
  cases hok

theorem verdict_eq_error {innermost : Int} {e : LimitError}
    (h : verdict limit innermost = .error e) : e = .depth (limit + 1) limit := by
  by_cases hlt : limit < innermost
  · rw [verdict_of_lt hlt] at h
    exact (Except.error.inj h).symm
  · rw [verdict_of_le (Int.not_lt.mp hlt)] at h
    cases h

/-- Of two members the one that reaches deeper decides. -/
theorem verdict_max (a b : Nat) :
    (match verdict limit (depth + a) with
      | .ok _ => verdict limit (depth + b)
      | .error e => .error e) = verdict limit (depth + (max a b : Nat)) := by
  by_cases ha : limit < depth + a
  · have hmax : limit < depth + (max a b : Nat) := by omega
    rw [verdict_of_lt ha, verdict_of_lt hmax]
  · rw [verdict_of_le (Int.not_lt.mp ha)]
    dsimp only
    by_cases hb : limit < depth + b
    · have hmax : limit < depth + (max a b : Nat) := by omega
      rw [verdict_of_lt hb, verdict_of_lt hmax]
    · have hmax : depth + (max a b : Nat) ≤ limit := by omega
      rw [verdict_of_le (Int.not_lt.mp hb), verdict_of_le hmax]

/-- Past the limit nothing is looked into. -/
theorem checkDepth_of_lt (h : limit < depth) (v : Json) :
    checkDepth limit depth v = .error (.depth depth limit) := by
  cases v <;> rw [checkDepth, if_pos h] <;> nofun

/-- A member stands a step below: at the limit that step is the one reported. -/
theorem checkDepth_member (h : depth ≤ limit) {v : Json}
    (hinside : depth + 1 ≤ limit →
      checkDepth limit (depth + 1) v = verdict limit (depth + 1 + v.height)) :
    checkDepth limit (depth + 1) v = verdict limit (depth + (v.height + 1 : Nat)) := by
  by_cases hnext : depth + 1 ≤ limit
  · rw [hinside hnext]
    congr 1
    omega
  · have hlimit : depth = limit := by omega
    rw [checkDepth_of_lt (by omega), verdict_of_lt (by omega), hlimit]

mutual

theorem checkDepth_eq : ∀ (v : Json) {depth : Int}, depth ≤ limit →
    checkDepth limit depth v = verdict limit (depth + v.height)
  | .arr items, depth, h => by
      rw [checkDepth, if_neg (Int.not_lt.mpr h), height]
      exact checkItemsDepth_eq items h
  | .obj members, depth, h => by
      rw [checkDepth, if_neg (Int.not_lt.mpr h), height]
      exact checkMembersDepth_eq members h
  | .null, depth, h | .bool _, depth, h | .int _, depth, h | .real _, depth, h
  | .str _, depth, h => by
      have hhere : depth + (0 : Nat) ≤ limit := by omega
      rw [checkDepth, if_neg (Int.not_lt.mpr h), height, verdict_of_le hhere] <;> nofun

theorem checkItemsDepth_eq : ∀ (items : List Json) {depth : Int}, depth ≤ limit →
    checkItemsDepth limit (depth + 1) items = verdict limit (depth + heightOfItems items)
  | [], depth, h => (verdict_of_le (by rw [heightOfItems]; omega)).symm
  | x :: rest, depth, h => by
      rw [checkItemsDepth, checkDepth_member h (checkDepth_eq x), checkItemsDepth_eq rest h,
        heightOfItems]
      exact verdict_max ..

theorem checkMembersDepth_eq : ∀ (members : List (String × Json)) {depth : Int}, depth ≤ limit →
    checkMembersDepth limit (depth + 1) members = verdict limit (depth + heightOfMembers members)
  | [], depth, h => (verdict_of_le (by rw [heightOfMembers]; omega)).symm
  | (_, v) :: rest, depth, h => by
      rw [checkMembersDepth, checkDepth_member h (checkDepth_eq v), checkMembersDepth_eq rest h,
        heightOfMembers]
      exact verdict_max ..

end

theorem checkDepth_eq_ok_iff {v : Json} :
    checkDepth limit depth v = .ok () ↔ depth ≤ limit ∧ depth + v.height ≤ limit := by
  by_cases h : depth ≤ limit
  · rw [checkDepth_eq v h, verdict_eq_ok_iff]
    exact (and_iff_right h).symm
  · rw [checkDepth_of_lt (Int.not_le.mp h)]
    exact ⟨fun hok => (nomatch hok), fun hboth => absurd hboth.1 h⟩

end

/-- The guard lets a value pass that stands at an allowed depth and does not
reach below the limit. Otherwise it reports the depth right below the limit, or
the one at which it should have started. -/
theorem guard_by_height (limit depth : Int) (v : Json) :
    (checkDepth limit depth v = .ok () ↔ depth ≤ limit ∧ depth + v.height ≤ limit) ∧
    (depth ≤ limit → ∀ e, checkDepth limit depth v = .error e → e = .depth (limit + 1) limit) ∧
    (limit < depth → checkDepth limit depth v = .error (.depth depth limit)) := by
  refine ⟨checkDepth_eq_ok_iff, fun h e he => ?_, fun h => checkDepth_of_lt h v⟩
  rw [checkDepth_eq v h] at he
  exact verdict_eq_error he

/-- A scalar in a list in an object, and next to it empty lists, one of them in
another. -/
def threeDeep : Json :=
  .obj [("a", .arr []), ("b", .arr [.arr [], .arr [.obj []]]), ("c", .int 0)]

/-- It may stand at depth one under the limit four, and under three the empty
object in it is reported. -/
theorem guard_by_height_atLimit :
    checkDepth 4 1 threeDeep = .ok () ∧ (1 : Int) ≤ 3 ∧
      checkDepth 3 1 threeDeep = .error (.depth 4 3) := by
  have hheight : threeDeep.height = 3 := by decide
  obtain ⟨hpasses, -, -⟩ := guard_by_height 4 1 threeDeep
  obtain ⟨hrefused, hreported, -⟩ := guard_by_height 3 1 threeDeep
  rw [hheight] at hpasses hrefused
  refine ⟨hpasses.mpr (by decide), by decide, ?_⟩
  cases hcheck : checkDepth 3 1 threeDeep with
  | ok => exact absurd (hrefused.mp hcheck) (by decide)
  | error e => rw [hreported (by decide) e hcheck]; rfl

end ScreenBridge.Json
