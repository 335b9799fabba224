import Mathlib

/-!
# Weighted means

The mean of values with positive weights, over an ordered field. Merging one more lot
into the mean of the lots before it gives the mean of them all, so a running average
does not remember the order it was taken in.
-/

namespace ErpBackend.Foundation

variable {K : Type} [Field K] [LinearOrder K]

structure Lot (K : Type) [Field K] [LinearOrder K] where
  weight : K
  value : K
  positive : 0 < weight

namespace Lot

def totalWeight (lots : List (Lot K)) : K := (lots.map weight).sum

def worth (lots : List (Lot K)) : K := (lots.map (fun lot => lot.weight * lot.value)).sum

def mean (lots : List (Lot K)) : K := worth lots / totalWeight lots

variable (lots : List (Lot K)) (lot : Lot K)

@[simp]
theorem totalWeight_nil : totalWeight ([] : List (Lot K)) = 0 := rfl

@[simp]
theorem worth_nil : worth ([] : List (Lot K)) = 0 := rfl

@[simp]
theorem totalWeight_cons : totalWeight (lot :: lots) = lot.weight + totalWeight lots := by
  simp [totalWeight]

@[simp]
theorem worth_cons : worth (lot :: lots) = lot.weight * lot.value + worth lots := by
  simp [worth]

@[simp]
theorem totalWeight_append (more : List (Lot K)) :
    totalWeight (lots ++ more) = totalWeight lots + totalWeight more := by
  simp [totalWeight]

@[simp]
theorem worth_append (more : List (Lot K)) :
    worth (lots ++ more) = worth lots + worth more := by
  simp [worth]

section Order

variable {lots} {more : List (Lot K)}

theorem totalWeight_perm (same : lots.Perm more) : totalWeight lots = totalWeight more :=
  (same.map weight).sum_eq

theorem mean_perm (same : lots.Perm more) : mean lots = mean more := by
  rw [mean, mean, totalWeight_perm same]
  congr 1
  exact (same.map _).sum_eq

end Order

theorem exists_least (some : lots ≠ []) :
    ∃ least ∈ lots, ∀ lot ∈ lots, least.value ≤ lot.value := by
  cases found : lots.argmin value with
  | none => exact absurd (List.argmin_eq_none.mp found) some
  | some least =>
    exact ⟨least, List.argmin_mem found, fun lot member => List.le_of_mem_argmin member found⟩

theorem exists_greatest (some : lots ≠ []) :
    ∃ greatest ∈ lots, ∀ lot ∈ lots, lot.value ≤ greatest.value := by
  cases found : lots.argmax value with
  | none => exact absurd (List.argmax_eq_none.mp found) some
  | some greatest =>
    exact ⟨greatest, List.argmax_mem found, fun lot member => List.le_of_mem_argmax member found⟩

variable [IsStrictOrderedRing K]

theorem totalWeight_nonneg : 0 ≤ totalWeight lots := by
  induction lots with
  | nil => simp
  | cons lot rest ih =>
    rw [totalWeight_cons]
    exact add_nonneg lot.positive.le ih

theorem totalWeight_pos (some : lots ≠ []) : 0 < totalWeight lots := by
  cases lots with
  | nil => exact absurd rfl some
  | cons lot rest =>
    rw [totalWeight_cons]
    exact add_pos_of_pos_of_nonneg lot.positive (totalWeight_nonneg rest)

theorem totalWeight_mul_mean : totalWeight lots * mean lots = worth lots := by
  cases lots with
  | nil => simp
  | cons lot rest =>
    rw [mean, mul_div_cancel₀]
    exact (totalWeight_pos (lot :: rest) (List.cons_ne_nil lot rest)).ne'

theorem mean_le (some : lots ≠ []) (bound : K) (below : ∀ lot ∈ lots, lot.value ≤ bound) :
    mean lots ≤ bound := by
  have worthBelow : worth lots ≤ bound * totalWeight lots := by
    clear some
    induction lots with
    | nil => simp
    | cons lot rest ih =>
      have first := mul_le_mul_of_nonneg_left (below lot List.mem_cons_self) lot.positive.le
      have others := ih (fun other member => below other (List.mem_cons_of_mem lot member))
      calc worth (lot :: rest) = lot.weight * lot.value + worth rest := worth_cons rest lot
        _ ≤ lot.weight * bound + bound * totalWeight rest := add_le_add first others
        _ = bound * totalWeight (lot :: rest) := by rw [totalWeight_cons]; ring
  exact (div_le_iff₀ (totalWeight_pos lots some)).mpr worthBelow

theorem le_mean (some : lots ≠ []) (bound : K) (above : ∀ lot ∈ lots, bound ≤ lot.value) :
    bound ≤ mean lots := by
  have worthAbove : bound * totalWeight lots ≤ worth lots := by
    clear some
    induction lots with
    | nil => simp
    | cons lot rest ih =>
      have first := mul_le_mul_of_nonneg_left (above lot List.mem_cons_self) lot.positive.le
      have others := ih (fun other member => above other (List.mem_cons_of_mem lot member))
      calc bound * totalWeight (lot :: rest)
          = lot.weight * bound + bound * totalWeight rest := by rw [totalWeight_cons]; ring
        _ ≤ lot.weight * lot.value + worth rest := add_le_add first others
        _ = worth (lot :: rest) := (worth_cons rest lot).symm
  exact (le_div_iff₀ (totalWeight_pos lots some)).mpr worthAbove

theorem mean_between (some : lots ≠ []) :
    ∃ least ∈ lots, ∃ greatest ∈ lots,
      (∀ lot ∈ lots, least.value ≤ lot.value ∧ lot.value ≤ greatest.value) ∧
        least.value ≤ mean lots ∧ mean lots ≤ greatest.value := by
  obtain ⟨least, low, isLeast⟩ := exists_least lots some
  obtain ⟨greatest, high, isGreatest⟩ := exists_greatest lots some
  exact ⟨least, low, greatest, high, fun lot member => ⟨isLeast lot member, isGreatest lot member⟩,
    le_mean lots some least.value isLeast, mean_le lots some greatest.value isGreatest⟩

theorem mean_concat :
    mean (lots ++ [lot]) = (totalWeight lots * mean lots + lot.weight * lot.value) /
      (totalWeight lots + lot.weight) := by
  rw [totalWeight_mul_mean]
  simp [mean]

end Lot

end ErpBackend.Foundation
