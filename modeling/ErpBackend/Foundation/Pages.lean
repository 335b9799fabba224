import Mathlib

/-!
# Pages

A page is the first `n` rows of an ordered answer. Dropping rows before the
limit and dropping them after it give different pages: what lies behind the
limit moves up.
-/

namespace ErpBackend.Foundation

variable {α β : Type}

theorem find?_filter_of_unique (p q : α → Bool) (rows : List α)
    (unique : ∀ a ∈ rows, ∀ b ∈ rows, q a = true → q b = true → a = b) :
    (rows.filter p).find? q = (rows.find? q).filter p := by
  rcases meant : rows.find? q with _ | a
  · rw [Option.filter_none, List.find?_eq_none]
    intro b member
    exact List.find?_eq_none.mp meant b (List.mem_of_mem_filter member)
  · have matched := List.find?_some meant
    have member := List.mem_of_find?_eq_some meant
    rw [Option.filter_some]
    rcases kept : (rows.filter p).find? q with _ | b
    · split
      · next passes =>
        have absent := List.find?_eq_none.mp kept a (List.mem_filter.mpr ⟨member, passes⟩)
        exact absurd matched absent
      · rfl
    · obtain ⟨inside, passes⟩ := List.mem_filter.mp (List.mem_of_find?_eq_some kept)
      have same := unique b inside a member (List.find?_some kept) matched
      rw [same] at passes
      rw [same, if_pos passes]

section Order

variable (r : α → α → Prop) [DecidableRel r]

theorem filter_orderedInsert [IsTrans α r] (p : α → Bool) (a : α) (rows : List α)
    (sorted : rows.Pairwise r) :
    (rows.orderedInsert r a).filter p =
      if p a then (rows.filter p).orderedInsert r a else rows.filter p := by
  induction rows with
  | nil =>
      rw [List.orderedInsert_nil, List.filter_cons]
      rfl
  | cons head tail ih =>
      obtain ⟨before, rest⟩ := List.pairwise_cons.mp sorted
      rw [List.orderedInsert_cons]
      by_cases first : r a head
      · -- all that follows is after the head, so the row stands before all that is kept
        have leads : ∀ b ∈ (head :: tail).filter p, r a b := by
          intro b member
          rcases List.mem_cons.mp (List.mem_of_mem_filter member) with rfl | later
          · exact first
          · exact IsTrans.trans _ _ _ first (before b later)
        rw [if_pos first, List.filter_cons]
        split
        · rcases kept : (head :: tail).filter p with _ | ⟨b, others⟩
          · rfl
          · rw [List.orderedInsert_cons, if_pos (leads b (by rw [kept]; simp))]
        · rfl
      · rw [if_neg first, List.filter_cons, ih rest, List.filter_cons]
        by_cases kept : p head = true
        · rw [if_pos kept, if_pos kept]
          split
          · rw [List.orderedInsert_cons, if_neg first]
          · rfl
        · rw [if_neg kept, if_neg kept]

theorem filter_insertionSort [IsTrans α r] [Std.Total r] (p : α → Bool) (rows : List α) :
    (rows.insertionSort r).filter p = (rows.filter p).insertionSort r := by
  induction rows with
  | nil => rfl
  | cons head tail ih =>
      rw [List.insertionSort_cons,
        filter_orderedInsert r p head _ (List.pairwise_insertionSort r tail), ih, List.filter_cons]
      split
      · rw [List.insertionSort_cons]
      · rfl

end Order

/-- The rows from behind the limit that fill the places of those dropped before it. -/
def movedUp (n : Nat) (p : α → Bool) (rows : List α) : List α :=
  ((rows.drop n).filter p).take ((rows.take n).filter (fun a => !p a)).length

theorem take_filter (n : Nat) (p : α → Bool) (rows : List α) :
    (rows.filter p).take n = (rows.take n).filter p ++ movedUp n p rows := by
  have parts : rows.filter p = (rows.take n).filter p ++ (rows.drop n).filter p := by
    rw [← List.filter_append, List.take_append_drop]
  have page := List.length_eq_length_filter_add (l := rows.take n) p
  have few : ((rows.take n).filter p).length ≤ n := by
    have bound := List.length_take_le n rows
    omega
  rw [parts, List.take_append, List.take_of_length_le few]
  unfold movedUp
  congr 1
  rcases Nat.lt_or_ge rows.length n with short | long
  · rw [List.drop_of_length_le (by omega)]
    simp
  · rw [List.length_take_of_le long] at page
    congr 1
    omega

/-- Dropping rows after the limit shows the same as dropping them before it, exactly when
nothing shown moves up. -/
theorem page_eq_iff (n : Nat) (p q : α → Bool) (g : α → β) (rows : List α) :
    (((rows.take n).filter p).filter q).map g = (((rows.filter p).take n).filter q).map g ↔
      ∀ a ∈ movedUp n p rows, q a = false := by
  rw [take_filter, List.filter_append, List.map_append, List.self_eq_append_right,
    List.map_eq_nil_iff, List.filter_eq_nil_iff]
  constructor
  · intro dropped a member
    exact Bool.not_eq_true _ ▸ dropped a member
  · intro dropped a member kept
    rw [dropped a member] at kept
    cases kept

/-- Rows that can be told apart show the same with and without those dropped, exactly when
none of them is on the page. -/
theorem shown_eq_iff (n : Nat) (p : α → Bool) (f g : α → β) (rows : List α)
    (apart : ∀ a ∈ rows, ∀ b ∈ rows, f a = f b → a = b)
    (same : ∀ a ∈ rows, p a = true → g a = f a) :
    (rows.take n).map f = ((rows.filter p).take n).map g ↔ ∀ a ∈ rows.take n, p a = true := by
  constructor
  · intro equal a member
    have shown : f a ∈ ((rows.filter p).take n).map g := by
      rw [← equal]
      exact List.mem_map_of_mem member
    obtain ⟨b, kept, value⟩ := List.mem_map.mp shown
    obtain ⟨inside, passes⟩ := List.mem_filter.mp (List.mem_of_mem_take kept)
    rw [same b inside passes] at value
    rw [apart a (List.mem_of_mem_take member) b inside value.symm]
    exact passes
  · intro all
    have whole : (rows.take n).filter p = rows.take n := List.filter_eq_self.mpr all
    have none : (rows.take n).filter (fun a => !p a) = [] := by
      rw [List.filter_eq_nil_iff]
      intro a member
      simp [all a member]
    rw [take_filter, whole, movedUp, none, List.length_nil, List.take_zero, List.append_nil]
    apply List.map_congr_left
    intro a member
    exact (same a (List.mem_of_mem_take member) (all a member)).symm

end ErpBackend.Foundation
