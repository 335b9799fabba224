import Mathlib

/-!
# Histories that can be replayed

A log of changes, each with the value before and the value after, leads from one value to
another when every change starts where the last one ended.
-/

namespace ErpBackend.Foundation

variable {V : Type}

def Chain : V → List (V × V) → V → Prop
  | first, [], last => first = last
  | first, (before, after) :: rest, last => before = first ∧ Chain after rest last

instance decideChain [DecidableEq V] :
    (first : V) → (changes : List (V × V)) → (last : V) → Decidable (Chain first changes last)
  | first, [], last => inferInstanceAs (Decidable (first = last))
  | first, (before, after) :: rest, last =>
      have := decideChain after rest last
      inferInstanceAs (Decidable (before = first ∧ Chain after rest last))

namespace Chain

@[simp]
theorem nil_iff (first last : V) : Chain first [] last ↔ first = last := Iff.rfl

@[simp]
theorem cons_iff (first before after last : V) (rest : List (V × V)) :
    Chain first ((before, after) :: rest) last ↔ before = first ∧ Chain after rest last := Iff.rfl

theorem append_iff (first last : V) (changes more : List (V × V)) :
    Chain first (changes ++ more) last ↔
      ∃ middle, Chain first changes middle ∧ Chain middle more last := by
  induction changes generalizing first with
  | nil => simp
  | cons change rest ih =>
      obtain ⟨before, after⟩ := change
      simp only [List.cons_append, cons_iff, ih]
      constructor
      · rintro ⟨start, middle, left, right⟩
        exact ⟨middle, ⟨start, left⟩, right⟩
      · rintro ⟨middle, ⟨start, left⟩, right⟩
        exact ⟨start, middle, left, right⟩

theorem snoc {first middle : V} {changes : List (V × V)} (chain : Chain first changes middle)
    (last : V) : Chain first (changes ++ [(middle, last)]) last :=
  (append_iff _ _ _ _).mpr ⟨middle, chain, rfl, rfl⟩

theorem first_eq {first first' last last' : V} {changes : List (V × V)} (some' : changes ≠ [])
    (chain : Chain first changes last) (chain' : Chain first' changes last') : first = first' := by
  cases changes with
  | nil => exact absurd rfl some'
  | cons change rest =>
      obtain ⟨before, after⟩ := change
      exact chain.1.symm.trans chain'.1

end Chain

end ErpBackend.Foundation
