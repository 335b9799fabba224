import Mathlib

/-!
# Items gathered by a key

A map that remembers the order in which its keys were first named. Changing the value of
a key adds the key if it is new. Items gathered into their groups leave each group with
what its own items add, and with nothing of the others.
-/

namespace ErpBackend.Foundation

variable {κ V ι : Type}

abbrev Groups (κ V : Type) := List (κ × V)

namespace Groups

def keys (groups : Groups κ V) : List κ := groups.map Prod.fst

variable [DecidableEq κ]

def valueAt (groups : Groups κ V) (key : κ) : Option V :=
  (groups.find? (fun entry => entry.1 = key)).map Prod.snd

/-- The value of the key, which starts as `empty`, goes through `f`. -/
def change (groups : Groups κ V) (key : κ) (empty : V) (f : V → V) : Groups κ V :=
  if groups.any (fun entry => entry.1 = key) then
    groups.map (fun entry => if entry.1 = key then (entry.1, f entry.2) else entry)
  else groups ++ [(key, f empty)]

section Change

variable (groups : Groups κ V) (key : κ) (empty : V) (f : V → V)

theorem any_iff : groups.any (fun entry => entry.1 = key) = true ↔ key ∈ groups.keys := by
  simp [keys]

theorem keys_change :
    (groups.change key empty f).keys =
      if key ∈ groups.keys then groups.keys else groups.keys ++ [key] := by
  rw [change]
  by_cases present : key ∈ groups.keys
  · rw [if_pos ((any_iff groups key).mpr present), if_pos present, keys, keys, List.map_map]
    apply List.map_congr_left
    intro entry _
    dsimp only [Function.comp_apply]
    split <;> rfl
  · rw [if_neg (mt (any_iff groups key).mp present), if_neg present]
    simp [keys]

theorem mem_keys_change (other : κ) :
    other ∈ (groups.change key empty f).keys ↔ other = key ∨ other ∈ groups.keys := by
  rw [keys_change]
  split
  · next present =>
    constructor
    · exact .inr
    · rintro (rfl | member)
      · exact present
      · exact member
  · rw [List.mem_append, List.mem_singleton, or_comm]

theorem nodup_change (distinct : groups.keys.Nodup) :
    (groups.change key empty f).keys.Nodup := by
  rw [keys_change]
  split
  · exact distinct
  · next absent =>
    apply List.Nodup.append distinct (List.nodup_singleton key)
    intro other member single
    rw [List.mem_singleton] at single
    exact absent (single ▸ member)

theorem valueAt_isSome : (groups.valueAt key).isSome = true ↔ key ∈ groups.keys := by
  simp [valueAt, keys]

theorem valueAt_none : groups.valueAt key = none ↔ key ∉ groups.keys := by
  rw [← valueAt_isSome, Bool.not_eq_true, Option.isSome_eq_false_iff, Option.isNone_iff_eq_none]

theorem valueAt_cons (entry : κ × V) (rest : Groups κ V) :
    valueAt (entry :: rest) key = if entry.1 = key then some entry.2 else valueAt rest key := by
  rw [valueAt, List.find?_cons]
  by_cases own : entry.1 = key
  · simp [own]
  · simp [own, valueAt]

theorem valueAt_append (more : Groups κ V) :
    valueAt (groups ++ more) key = (valueAt groups key).or (valueAt more key) := by
  rw [valueAt, List.find?_append, Option.map_or]
  rfl

theorem valueAt_map (other : κ) :
    valueAt (groups.map (fun entry =>
        if entry.1 = key then (entry.1, f entry.2) else entry)) other =
      if other = key then (valueAt groups other).map f else valueAt groups other := by
  induction groups with
  | nil => simp [valueAt]
  | cons entry rest ih =>
    rw [List.map_cons, valueAt_cons, valueAt_cons, ih]
    by_cases own : entry.1 = key
    · by_cases same : entry.1 = other
      · simp [own, own.symm.trans same]
      · have apart : other ≠ key := fun equal => same (own.trans equal.symm)
        simp [own, apart, apart.symm]
    · by_cases same : entry.1 = other
      · have apart : other ≠ key := fun equal => own (same.trans equal)
        simp [same, apart]
      · simp [own, same]

theorem valueAt_change (other : κ) :
    (groups.change key empty f).valueAt other =
      if other = key then some (f ((groups.valueAt key).getD empty)) else groups.valueAt other := by
  rw [change]
  by_cases present : key ∈ groups.keys
  · rw [if_pos ((any_iff groups key).mpr present), valueAt_map]
    split
    · next same =>
      obtain ⟨value, held⟩ := Option.isSome_iff_exists.mp ((valueAt_isSome groups key).mpr present)
      simp [same, held]
    · rfl
  · rw [if_neg (mt (any_iff groups key).mp present), valueAt_append,
      (valueAt_none groups key).mpr present]
    split
    · next same =>
      rw [same, (valueAt_none groups key).mpr present]
      simp [valueAt]
    · next apart => simp [valueAt, Ne.symm apart]

theorem mem_iff (distinct : groups.keys.Nodup) (value : V) :
    (key, value) ∈ groups ↔ groups.valueAt key = some value := by
  induction groups with
  | nil => simp [valueAt]
  | cons entry rest ih =>
    rw [keys, List.map_cons, List.nodup_cons] at distinct
    obtain ⟨new, others⟩ := distinct
    rw [List.mem_cons, valueAt_cons, ih others]
    by_cases own : entry.1 = key
    · have absent : valueAt rest key = none := (valueAt_none rest key).mpr (own ▸ new)
      rw [if_pos own, absent, Option.some.injEq]
      constructor
      · rintro (rfl | none)
        · rfl
        · cases none
      · rintro rfl
        exact .inl (by rw [← own])
    · rw [if_neg own]
      constructor
      · rintro (rfl | held)
        · exact absurd rfl own
        · exact held
      · exact .inr

end Change

section Gather

variable (keyOf : ι → κ) (empty : V) (add : V → ι → V)

def gather (groups : Groups κ V) (items : List ι) : Groups κ V :=
  items.foldl (fun groups item => groups.change (keyOf item) empty (fun value => add value item))
    groups

theorem nodup_gather (items : List ι) (groups : Groups κ V) (distinct : groups.keys.Nodup) :
    (gather keyOf empty add groups items).keys.Nodup := by
  induction items generalizing groups with
  | nil => exact distinct
  | cons item rest ih => exact ih _ (nodup_change groups (keyOf item) empty _ distinct)

theorem mem_keys_gather (items : List ι) (groups : Groups κ V) (key : κ) :
    key ∈ (gather keyOf empty add groups items).keys ↔
      key ∈ groups.keys ∨ ∃ item ∈ items, keyOf item = key := by
  induction items generalizing groups with
  | nil => simp [gather]
  | cons item rest ih =>
    rw [gather, List.foldl_cons]
    refine (ih _).trans ?_
    rw [mem_keys_change, List.exists_mem_cons_iff, eq_comm (a := key)]
    tauto

theorem valueAt_gather (items : List ι) (groups : Groups κ V) (key : κ)
    (present : key ∈ (gather keyOf empty add groups items).keys) :
    (gather keyOf empty add groups items).valueAt key =
      some ((items.filter (fun item => keyOf item = key)).foldl add
        ((groups.valueAt key).getD empty)) := by
  induction items generalizing groups with
  | nil =>
    obtain ⟨value, held⟩ := Option.isSome_iff_exists.mp ((valueAt_isSome groups key).mpr present)
    simp [gather, held]
  | cons item rest ih =>
    have step := ih (groups.change (keyOf item) empty (fun value => add value item)) present
    rw [gather, List.foldl_cons]
    refine step.trans ?_
    rw [valueAt_change, List.filter_cons]
    by_cases own : keyOf item = key
    · simp [own]
    · simp [own, Ne.symm own]

theorem gather_perm [RightCommutative add] (first second : List ι) (same : first.Perm second)
    (groups : Groups κ V) (distinct : groups.keys.Nodup) :
    (gather keyOf empty add groups first).Perm (gather keyOf empty add groups second) := by
  have keysFirst := nodup_gather keyOf empty add first groups distinct
  have keysSecond := nodup_gather keyOf empty add second groups distinct
  have keysSame : ∀ key, key ∈ (gather keyOf empty add groups first).keys ↔
      key ∈ (gather keyOf empty add groups second).keys := by
    intro key
    simp only [mem_keys_gather, same.mem_iff]
  apply (List.perm_ext_iff_of_nodup keysFirst.of_map keysSecond.of_map).mpr
  rintro ⟨key, value⟩
  rw [mem_iff _ _ keysFirst, mem_iff _ _ keysSecond]
  by_cases present : key ∈ (gather keyOf empty add groups first).keys
  · rw [valueAt_gather keyOf empty add first groups key present,
      valueAt_gather keyOf empty add second groups key ((keysSame key).mp present),
      (same.filter _).foldl_eq]
  · rw [(valueAt_none _ key).mpr present, (valueAt_none _ key).mpr (mt (keysSame key).mpr present)]

section Total

variable {A : Type} [AddCommGroup A] (worth : V → A)

def total (groups : Groups κ V) : A := (groups.map (fun entry => worth entry.2)).sum

theorem total_map (groups : Groups κ V) (distinct : groups.keys.Nodup) (key : κ) (f : V → V)
    (gain : A) (gains : ∀ value, worth (f value) = worth value + gain) :
    total worth (groups.map (fun entry => if entry.1 = key then (entry.1, f entry.2) else entry)) =
      total worth groups + if key ∈ groups.keys then gain else 0 := by
  induction groups with
  | nil => simp [total, keys]
  | cons entry rest ih =>
    rw [keys, List.map_cons, List.nodup_cons] at distinct
    obtain ⟨new, others⟩ := distinct
    have later := ih others
    simp only [total, keys, List.map_cons, List.sum_cons, List.mem_cons] at later ⊢
    rw [later]
    by_cases own : entry.1 = key
    · have absent : key ∉ rest.map Prod.fst := own ▸ new
      simp only [own, if_true, gains, absent, if_false, true_or]
      abel
    · simp only [own, if_false, Ne.symm own, false_or]
      abel

theorem total_change (groups : Groups κ V) (distinct : groups.keys.Nodup) (key : κ)
    (f : V → V) (gain : A) (none : worth empty = 0)
    (gains : ∀ value, worth (f value) = worth value + gain) :
    total worth (groups.change key empty f) = total worth groups + gain := by
  rw [change]
  by_cases present : key ∈ groups.keys
  · rw [if_pos ((any_iff groups key).mpr present),
      total_map worth groups distinct key f gain gains, if_pos present]
  · rw [if_neg (mt (any_iff groups key).mp present)]
    simp [total, gains, none]

theorem total_gather (items : List ι) (groups : Groups κ V) (distinct : groups.keys.Nodup)
    (gain : ι → A) (none : worth empty = 0)
    (gains : ∀ value item, worth (add value item) = worth value + gain item) :
    total worth (gather keyOf empty add groups items) =
      total worth groups + (items.map gain).sum := by
  induction items generalizing groups with
  | nil => simp [gather]
  | cons item rest ih =>
    have step := total_change empty worth groups distinct (keyOf item) (fun value => add value item)
      (gain item) none (fun value => gains value item)
    have later :=
      ih _ (nodup_change groups (keyOf item) empty (fun value => add value item) distinct)
    rw [List.map_cons, List.sum_cons, ← add_assoc, ← step]
    exact later

end Total

end Gather

end Groups

end ErpBackend.Foundation
