import Mathlib

/-!
# Texts joined by a separator

Two parts with a separator between them are told apart again when the separator does not occur
in the first. Where it may, one more thing can happen: a piece, with a separator of its own,
stands at the end of the first part or at the beginning of the second.
-/

namespace ErpBackend.Foundation

variable {α : Type}

def Moved (sep : α) (first rest first' rest' : List α) : Prop :=
  ∃ piece, first' = first ++ sep :: piece ∧ rest = piece ++ sep :: rest'

theorem Moved.joined {sep : α} {first rest first' rest' : List α}
    (moved : Moved sep first rest first' rest') :
    first ++ sep :: rest = first' ++ sep :: rest' := by
  obtain ⟨piece, rfl, rfl⟩ := moved
  simp

theorem Moved.ne {sep : α} {first rest first' rest' : List α}
    (moved : Moved sep first rest first' rest') : first ≠ first' := by
  obtain ⟨piece, rfl, -⟩ := moved
  intro same
  have shorter := congrArg List.length same
  simp at shorter

theorem Moved.mem {sep : α} {first rest first' rest' : List α}
    (moved : Moved sep first rest first' rest') : sep ∈ first' := by
  obtain ⟨piece, rfl, -⟩ := moved
  simp

/-- From one of the two second parts a piece has moved over to its first part. -/
def Shifted (sep : α) (first rest first' rest' : List α) : Prop :=
  Moved sep first rest first' rest' ∨ Moved sep first' rest' first rest

theorem Shifted.ne {sep : α} {first rest first' rest' : List α}
    (shifted : Shifted sep first rest first' rest') : first ≠ first' := by
  rcases shifted with moved | moved
  · exact moved.ne
  · exact moved.ne.symm

theorem joined_iff (sep : α) (first rest first' rest' : List α) :
    first ++ sep :: rest = first' ++ sep :: rest' ↔
      first = first' ∧ rest = rest' ∨ Shifted sep first rest first' rest' := by
  constructor
  · intro same
    rcases List.append_eq_append_iff.mp same with ⟨piece, longer, tail⟩ | ⟨piece, longer, tail⟩
    · cases piece with
      | nil =>
        rw [List.nil_append, List.cons.injEq] at tail
        exact .inl ⟨by simpa using longer.symm, tail.2⟩
      | cons c piece =>
        rw [List.cons_append, List.cons.injEq] at tail
        obtain ⟨rfl, tail⟩ := tail
        exact .inr (.inl ⟨piece, longer, tail⟩)
    · cases piece with
      | nil =>
        rw [List.nil_append, List.cons.injEq] at tail
        exact .inl ⟨by simpa using longer, tail.2.symm⟩
      | cons c piece =>
        rw [List.cons_append, List.cons.injEq] at tail
        obtain ⟨rfl, tail⟩ := tail
        exact .inr (.inr ⟨piece, longer, tail⟩)
  · rintro (⟨rfl, rfl⟩ | moved | moved)
    · rfl
    · exact moved.joined
    · exact moved.joined.symm

theorem joined_free (sep : α) (first rest first' rest' : List α) (free : sep ∉ first)
    (free' : sep ∉ first') :
    first ++ sep :: rest = first' ++ sep :: rest' ↔ first = first' ∧ rest = rest' := by
  rw [joined_iff]
  constructor
  · rintro (same | moved | moved)
    · exact same
    · exact absurd moved.mem free'
    · exact absurd moved.mem free
  · exact .inl

end ErpBackend.Foundation
