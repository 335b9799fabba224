import Mathlib

/-!
# Keyset pages

The keys that match are listed from the greatest down. A page after an anchor drops the first key
from the anchor on, which is the anchor where the anchor still matches.
-/

namespace ErpBackend.Foundation.Keyset

variable {κ : Type} [LinearOrder κ]

structure Asked (κ : Type) [LinearOrder κ] where
  keys : List κ
  sorted : keys.Pairwise (· > ·)
  anchor : Option κ
  limit : Nat
  positive : 0 < limit

namespace Asked

def rest (asked : Asked κ) : List κ :=
  match asked.anchor with
  | none => asked.keys
  | some a => (asked.keys.filter (· ≤ a)).drop 1

def page (asked : Asked κ) : List κ := asked.rest.take asked.limit

def next (asked : Asked κ) : Option κ :=
  if asked.limit < asked.rest.length then asked.page.getLast? else none

/-- The anchor no longer matches, and this is the first key below it. -/
def Drops (asked : Asked κ) (k : κ) : Prop :=
  ∃ a, asked.anchor = some a ∧ a ∉ asked.keys ∧ k < a ∧ ∀ j ∈ asked.keys, j < a → j ≤ k

variable (asked : Asked κ)

theorem rest_sublist : asked.rest.Sublist asked.keys := by
  rw [rest]
  split
  · exact List.Sublist.refl _
  · exact (List.drop_sublist 1 _).trans List.filter_sublist

theorem rest_sorted : asked.rest.Pairwise (· > ·) :=
  asked.sorted.sublist asked.rest_sublist

theorem rest_below (a : κ) (anchored : asked.anchor = some a) :
    ∀ k ∈ asked.rest, k < a := by
  intro k member
  have sorted := asked.sorted.sublist (List.filter_sublist (p := fun k => decide (k ≤ a)))
  rw [rest, anchored] at member
  dsimp only at member
  cases kept : asked.keys.filter (· ≤ a) with
  | nil => simp [kept] at member
  | cons first others =>
    rw [kept] at member sorted
    have below : k < first := (List.pairwise_cons.mp sorted).1 k member
    have reached : first ∈ asked.keys.filter (· ≤ a) := by simp [kept]
    exact below.trans_le (by simpa using (List.mem_filter.mp reached).2)

theorem mem_rest_iff (k : κ) (member : k ∈ asked.keys)
    (ahead : ∀ a, asked.anchor = some a → k < a) : k ∈ asked.rest ↔ ¬asked.Drops k := by
  cases anchored : asked.anchor with
  | none => simp [rest, Drops, anchored, member]
  | some a =>
    have below := ahead a anchored
    have sorted := asked.sorted.sublist (List.filter_sublist (p := fun k => decide (k ≤ a)))
    have found : k ∈ asked.keys.filter (· ≤ a) := by simp [member, below.le]
    have kept : ∀ j, j ∈ asked.keys.filter (· ≤ a) ↔ j ∈ asked.keys ∧ j ≤ a := by simp
    simp only [rest, Drops, anchored, Option.some.injEq, exists_eq_left']
    cases listed : asked.keys.filter (· ≤ a) with
    | nil => simp [listed] at found
    | cons first others =>
      rw [listed] at sorted found kept
      have greatest := (List.pairwise_cons.mp sorted).1
      have reached := (kept first).mp (List.mem_cons_self ..)
      rw [List.drop_one, List.tail_cons]
      constructor
      · intro later dropped
        have under : k < first := greatest k later
        have apart : first ≠ a := fun same => dropped.1 (same ▸ reached.1)
        have top := dropped.2.2 first reached.1 (lt_of_le_of_ne reached.2 apart)
        exact absurd under (not_lt.mpr top)
      · intro stays
        rcases List.mem_cons.mp found with rfl | later
        · have gone : a ∉ asked.keys := by
            intro matching
            rcases List.mem_cons.mp ((kept a).mpr ⟨matching, le_rfl⟩) with same | later
            · exact absurd below (same ▸ lt_irrefl a)
            · exact absurd below (not_lt.mpr (greatest a later).le)
          refine absurd ⟨gone, below, fun j matching under => ?_⟩ stays
          rcases List.mem_cons.mp ((kept j).mpr ⟨matching, under.le⟩) with rfl | later
          · exact le_rfl
          · exact (greatest j later).le
        · exact later

theorem page_nodup : asked.page.Nodup :=
  ((asked.rest_sorted.sublist (List.take_sublist _ _)).imp (fun above => ne_of_gt above))

theorem page_whole (last : asked.next = none) : asked.page = asked.rest := by
  have positive := asked.positive
  rw [page, List.take_of_length_le]
  by_contra more
  rw [next, if_pos (by omega), List.getLast?_eq_none_iff, page, List.take_eq_nil_iff] at last
  rcases last with none | empty
  · omega
  · simp [empty] at more

theorem next_mem (b : κ) (turned : asked.next = some b) : b ∈ asked.page := by
  rw [next] at turned
  split at turned
  · exact List.mem_of_getLast? turned
  · cases turned

theorem mem_page_iff (b k : κ) (turned : asked.next = some b)
    (member : k ∈ asked.rest) : k ∈ asked.page ↔ b ≤ k := by
  have sorted := asked.rest_sorted
  rw [← List.take_append_drop asked.limit asked.rest, List.pairwise_append] at sorted
  have last := asked.next_mem b turned
  constructor
  · intro inside
    rw [next] at turned
    split at turned
    · obtain ⟨front, split⟩ := List.getLast?_eq_some_iff.mp turned
      have order := sorted.1
      rw [← page, split, List.pairwise_append] at order
      rw [split] at inside
      rcases List.mem_append.mp inside with earlier | same
      · exact (order.2.2 k earlier b (List.mem_singleton_self b)).le
      · exact (List.mem_singleton.mp same).ge
    · cases turned
  · intro above
    rw [← List.take_append_drop asked.limit asked.rest] at member
    rcases List.mem_append.mp member with inside | behind
    · exact inside
    · exact absurd (sorted.2.2 b last k behind) (not_lt.mpr above)

end Asked

variable (asked : Asked κ)

/-- Every page is asked for after the last key of the one before, until there are no more. -/
inductive Scrolls : Option κ → List (Asked κ) → Prop
  | stop (asked : Asked κ) (last : asked.next = none) : Scrolls asked.anchor [asked]
  | turn (asked : Asked κ) (b : κ) (more : List (Asked κ)) (turned : asked.next = some b)
      (onward : Scrolls (some b) more) : Scrolls asked.anchor (asked :: more)

def returned (pages : List (Asked κ)) : List κ := pages.flatMap Asked.page

theorem behind_page (a k : κ) (anchored : asked.anchor = some a)
    (behind : a ≤ k) : k ∉ asked.page ∧ ¬asked.Drops k := by
  constructor
  · intro inside
    exact absurd (asked.rest_below a anchored k (List.mem_of_mem_take inside)) (not_lt.mpr behind)
  · intro dropped
    obtain ⟨b, other, -, below, -⟩ := dropped
    have same : b = a := Option.some.inj (other.symm.trans anchored)
    exact absurd (same ▸ below) (not_lt.mpr behind)

theorem behind_scroll (anchor : Option κ) (pages : List (Asked κ)) (scrolls : Scrolls anchor pages)
    (a k : κ) (anchored : anchor = some a) (behind : a ≤ k) :
    k ∉ returned pages ∧ ∀ asked ∈ pages, ¬asked.Drops k := by
  induction scrolls generalizing a with
  | stop asked last =>
    have own := behind_page asked a k anchored behind
    simpa [returned] using own
  | turn asked b more turned onward ih =>
    have own := behind_page asked a k anchored behind
    have nearer : b < a := asked.rest_below a anchored b
      (List.mem_of_mem_take (asked.next_mem b turned))
    have later := ih b rfl (nearer.le.trans behind)
    simp only [returned, List.flatMap_cons, List.mem_append, List.forall_mem_cons] at later ⊢
    exact ⟨fun inside => inside.elim own.1 later.1, own.2, later.2⟩

theorem returned_once_iff (anchor : Option κ) (pages : List (Asked κ))
    (scrolls : Scrolls anchor pages) (k : κ) (matching : ∀ asked ∈ pages, k ∈ asked.keys)
    (ahead : ∀ a, anchor = some a → k < a) :
    (returned pages).count k = 1 ↔ ∀ asked ∈ pages, ¬asked.Drops k := by
  induction scrolls with
  | stop asked last =>
    have listed := asked.mem_rest_iff k (matching asked (by simp)) ahead
    have whole := asked.page_whole last
    have counted : asked.page.count k = 1 ↔ k ∈ asked.page := by
      simp [asked.page_nodup.count]
    simp only [returned, List.flatMap_singleton, List.mem_singleton, forall_eq]
    rw [counted, whole, listed]
  | turn asked b more turned onward ih =>
    have listed := asked.mem_rest_iff k (matching asked (by simp)) ahead
    simp only [List.forall_mem_cons] at matching ⊢
    have parts : (returned (asked :: more)).count k =
        asked.page.count k + (returned more).count k := by
      simp [returned]
    rw [parts]
    by_cases dropped : asked.Drops k
    · -- the key is above the rest of the list, so no later page brings it back
      have ⟨a, anchored, _, _, first⟩ := dropped
      have last := List.mem_of_mem_take (asked.next_mem b turned)
      have passed : b ≤ k :=
        first b (asked.rest_sublist.subset last) (asked.rest_below a anchored b last)
      obtain ⟨absent, -⟩ := behind_scroll _ more onward b k rfl passed
      have here : k ∉ asked.page := fun inside =>
        listed.mp (List.mem_of_mem_take inside) dropped
      simp [List.count_eq_zero.mpr here, List.count_eq_zero.mpr absent, dropped]
    · have present := listed.mpr dropped
      have ends := asked.mem_page_iff b k turned present
      by_cases inside : k ∈ asked.page
      · have once := List.count_eq_one_of_mem asked.page_nodup inside
        obtain ⟨absent, kept⟩ := behind_scroll _ more onward b k rfl (ends.mp inside)
        rw [once, List.count_eq_zero.mpr absent]
        exact ⟨fun _ => ⟨dropped, kept⟩, fun _ => rfl⟩
      · have none : asked.page.count k = 0 := List.count_eq_zero.mpr inside
        have onwards : ∀ a, some b = some a → k < a := by
          intro a same
          rw [← Option.some.inj same]
          exact not_le.mp (fun above => inside (ends.mpr above))
        rw [none, Nat.zero_add, ih matching.2 onwards]
        exact ⟨fun kept => ⟨dropped, kept⟩, And.right⟩

end ErpBackend.Foundation.Keyset
