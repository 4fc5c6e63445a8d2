/-!
# Keyed lists

Values under distinct keys, in the order in which the keys first came. Writing to a key that is
there keeps its place and replaces its value; a new key goes to the end. The view of a keyed list
is the function `get?`, and each operation has its equation through that view.
-/

namespace ScreenBridge

/-- Values under keys, in order. -/
abbrev Keyed (α : Type) := List (String × α)

namespace Keyed

variable {α : Type}

def get? : Keyed α → String → Option α
  | [], _ => none
  | (k, v) :: rest, key => if k = key then some v else get? rest key

def has (xs : Keyed α) (key : String) : Bool :=
  (xs.get? key).isSome

def keys (xs : Keyed α) : List String :=
  xs.map Prod.fst

/-- A value put under a key: in its old place, or at the end. -/
def set : Keyed α → String → α → Keyed α
  | [], key, value => [(key, value)]
  | (k, v) :: rest, key, value =>
    if k = key then (k, value) :: rest else (k, v) :: set rest key value

/-- A value put under a key that is not there yet. -/
def setNew (xs : Keyed α) (key : String) (value : α) : Keyed α :=
  if xs.has key then xs else xs ++ [(key, value)]

def erase (xs : Keyed α) (key : String) : Keyed α :=
  xs.filter fun kv => kv.1 ≠ key

/-- All pairs of a second list written over a first one, one after the other. -/
def update (xs ys : Keyed α) : Keyed α :=
  ys.foldl (fun acc kv => acc.set kv.1 kv.2) xs

/-- A list of pairs read from the front, a later pair replacing an earlier one. -/
def ofPairs (ys : List (String × α)) : Keyed α :=
  update [] ys

/-! ## The operations through the view -/

@[simp] theorem get?_nil (key : String) : get? ([] : Keyed α) key = none := rfl

theorem get?_cons (k : String) (v : α) (rest : Keyed α) (key : String) :
    get? ((k, v) :: rest) key = if k = key then some v else rest.get? key := rfl

theorem get?_set (xs : Keyed α) (key : String) (value : α) (other : String) :
    (xs.set key value).get? other = if key = other then some value else xs.get? other := by
  induction xs with
  | nil => rfl
  | cons kv rest ih =>
    obtain ⟨k, v⟩ := kv
    by_cases hk : k = key <;> by_cases ho : key = other <;> grind [set, get?]

theorem get?_append (xs ys : Keyed α) (key : String) :
    get? (xs ++ ys) key = (xs.get? key).or (ys.get? key) := by
  induction xs with
  | nil => simp
  | cons kv rest ih =>
    obtain ⟨k, v⟩ := kv
    by_cases hk : k = key <;> simp [get?, hk, ih]

theorem get?_setNew (xs : Keyed α) (key : String) (value : α) (other : String) :
    (xs.setNew key value).get? other =
      (xs.get? other).or (if key = other then some value else none) := by
  unfold setNew has
  split
  · rename_i h
    by_cases ho : key = other
    · subst ho
      obtain ⟨v, hv⟩ := Option.isSome_iff_exists.1 h
      simp [hv]
    · simp [ho]
  · rw [get?_append, get?_cons, get?_nil]

theorem get?_erase (xs : Keyed α) (key other : String) :
    (xs.erase key).get? other = if key = other then none else xs.get? other := by
  induction xs with
  | nil => simp [erase]
  | cons kv rest ih =>
    obtain ⟨k, v⟩ := kv
    by_cases hk : k = key <;> by_cases ho : key = other <;> grind [erase, get?]

theorem keys_set (xs : Keyed α) (key : String) (value : α) :
    (xs.set key value).keys = if key ∈ xs.keys then xs.keys else xs.keys ++ [key] := by
  induction xs with
  | nil => simp [set, keys]
  | cons kv rest ih =>
    obtain ⟨k, v⟩ := kv
    by_cases hk : k = key <;> grind [set, keys]

theorem get?_isSome_iff (xs : Keyed α) (key : String) :
    (xs.get? key).isSome ↔ key ∈ xs.keys := by
  induction xs with
  | nil => simp [keys]
  | cons kv rest ih =>
    obtain ⟨k, v⟩ := kv
    by_cases hk : k = key <;> grind [get?, keys]

theorem nodup_keys_set {xs : Keyed α} (h : xs.keys.Nodup) (key : String) (value : α) :
    (xs.set key value).keys.Nodup := by
  rw [keys_set]
  split
  · exact h
  · rename_i hn
    exact List.nodup_append.2 ⟨h, by simp, by intro a ha b hb; grind⟩

theorem mem_of_get?_eq_some {xs : Keyed α} {key : String} {v : α}
    (h : xs.get? key = some v) : (key, v) ∈ xs := by
  induction xs with
  | nil => cases h
  | cons kv rest ih =>
      obtain ⟨k, u⟩ := kv
      rw [get?_cons] at h
      split at h
      · next hk =>
          cases h
          rw [hk]
          exact List.mem_cons_self
      · exact List.mem_cons_of_mem _ (ih h)

/-- Under distinct keys a pair in the list is what its key finds. -/
theorem get?_eq_some_of_mem {xs : Keyed α} (hnd : xs.keys.Nodup) {key : String}
    {v : α} (h : (key, v) ∈ xs) : xs.get? key = some v := by
  induction xs with
  | nil => cases h
  | cons kv rest ih =>
      obtain ⟨k, u⟩ := kv
      rw [keys, List.map_cons, List.nodup_cons] at hnd
      rw [get?_cons]
      rcases List.mem_cons.mp h with heq | hmem
      · cases heq
        rw [if_pos rfl]
      · have hne : k ≠ key := by
          intro hk
          exact hnd.1 (hk ▸ List.mem_map.mpr ⟨(key, v), hmem, rfl⟩)
        rw [if_neg hne]
        exact ih hnd.2 hmem

/-- Writing under a new key goes to the end. -/
theorem set_eq_append {xs : Keyed α} {key : String} (h : key ∉ xs.keys)
    (v : α) : xs.set key v = xs ++ [(key, v)] := by
  induction xs with
  | nil => rfl
  | cons kv rest ih =>
      obtain ⟨k, u⟩ := kv
      rw [keys, List.map_cons, List.mem_cons, not_or] at h
      rw [set, if_neg (Ne.symm h.1), ih h.2, List.cons_append]

theorem get?_filter (xs : Keyed α) (p : String → Bool) (key : String) :
    get? (xs.filter fun kv => p kv.1) key = if p key then xs.get? key else none := by
  induction xs with
  | nil => rw [List.filter_nil, get?_nil, ite_self]
  | cons kv rest ih =>
      obtain ⟨k, v⟩ := kv
      rw [List.filter_cons, get?_cons]
      by_cases hk : k = key
      · subst hk
        by_cases hp : p k = true
        · rw [if_pos hp, get?_cons, if_pos rfl, if_pos hp, if_pos rfl]
        · rw [if_neg hp, ih, if_neg hp, if_neg hp]
      · rw [if_neg hk, ← ih]
        split
        · rw [get?_cons, if_neg hk]
        · rfl

/-- What is written over a list comes first. -/
theorem get?_update {ys : Keyed α} (h : ys.keys.Nodup) (xs : Keyed α) (key : String) :
    (xs.update ys).get? key = (ys.get? key).or (xs.get? key) := by
  induction ys generalizing xs with
  | nil => rfl
  | cons kv rest ih =>
      obtain ⟨k, v⟩ := kv
      rw [keys, List.map_cons, List.nodup_cons] at h
      have hrest := ih h.2 (xs.set k v)
      rw [update] at hrest
      rw [update, List.foldl_cons, hrest, get?_set, get?_cons]
      split
      · next heq =>
          have hnone : get? rest key = none := by
            rw [← Option.not_isSome_iff_eq_none, get?_isSome_iff]
            exact heq ▸ h.1
          rw [hnone, Option.none_or, Option.some_or]
      · rfl

end Keyed

end ScreenBridge
