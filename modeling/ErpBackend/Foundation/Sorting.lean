import ErpBackend.Foundation.Pages

/-!
# What sorting forgets

Sorting by the items themselves forgets their order and nothing else. Sorting by a key keeps the
order of the items of one key.
-/

namespace ErpBackend.Foundation

theorem insertionSort_same {α : Type} (r : α → α → Prop) [DecidableRel r] [IsTrans α r]
    [Std.Total r] [Std.Antisymm r] (first second : List α) :
    first.insertionSort r = second.insertionSort r ↔ first.Perm second := by
  constructor
  · intro same
    have moved := List.perm_insertionSort r first
    rw [same] at moved
    exact moved.symm.trans (List.perm_insertionSort r second)
  · intro perm
    exact List.Perm.eq_of_pairwise' (List.pairwise_insertionSort _ _)
      (List.pairwise_insertionSort _ _)
      ((List.perm_insertionSort _ _).trans (perm.trans (List.perm_insertionSort _ _).symm))

instance string_isTrans : IsTrans String (· ≤ ·) := ⟨fun _ _ _ => String.le_trans⟩

instance string_total : Std.Total (α := String) (· ≤ ·) := ⟨String.le_total⟩

instance string_antisymm : Std.Antisymm (α := String) (· ≤ ·) := ⟨fun _ _ => String.le_antisymm⟩

theorem perm_map_of {α β γ : Type} (f : α → β) (g : α → γ)
    (tells : ∀ a b, f a = f b → g a = g b) (first second : List α)
    (perm : (first.map f).Perm (second.map f)) : (first.map g).Perm (second.map g) := by
  cases first with
  | nil =>
    have none := List.map_eq_nil_iff.mp (List.nil_perm.mp perm)
    rw [none]
  | cons a rest =>
    have extended : ∀ items : List α, (items.map f).map (Function.extend f g (fun _ => g a)) =
        items.map g := by
      intro items
      rw [List.map_map]
      apply List.map_congr_left
      intro b _
      exact Function.FactorsThrough.extend_apply (fun x y same => tells x y same) _ b
    have moved := perm.map (Function.extend f g (fun _ => g a))
    rwa [extended, extended] at moved

theorem perm_map_same {α β γ : Type} (f : α → β) (g : α → γ)
    (tells : ∀ a b, f a = f b ↔ g a = g b) (first second : List α) :
    (first.map f).Perm (second.map f) ↔ (first.map g).Perm (second.map g) :=
  ⟨perm_map_of f g (fun a b => (tells a b).mp) first second,
    perm_map_of g f (fun a b => (tells a b).mpr) first second⟩

section Keys

variable {α κ : Type} [LinearOrder κ] (key : α → κ)

abbrev ByKey (a b : α) : Prop := key a ≤ key b

instance : IsTrans α (ByKey key) := ⟨fun _ _ _ => le_trans⟩

instance : Std.Total (ByKey key) := ⟨fun a b => le_total (key a) (key b)⟩

def itemsOf (k : κ) (items : List α) : List α := items.filter (fun a => key a = k)

theorem itemsOf_insertionSort (k : κ) (items : List α) :
    itemsOf key k (items.insertionSort (ByKey key)) = itemsOf key k items := by
  rw [itemsOf, filter_insertionSort]
  apply List.Pairwise.insertionSort_eq
  apply List.pairwise_of_forall_mem_list
  intro a first b second
  have keys := (List.mem_filter.mp first).2
  have keys' := (List.mem_filter.mp second).2
  rw [decide_eq_true_eq] at keys keys'
  exact (keys.trans keys'.symm).le

theorem sorted_eq (first second : List α) (sorted : first.Pairwise (ByKey key))
    (sorted' : second.Pairwise (ByKey key))
    (same : ∀ k, itemsOf key k first = itemsOf key k second) : first = second := by
  induction first generalizing second with
  | nil =>
    cases second with
    | nil => rfl
    | cons b second =>
      have kept := same (key b)
      simp [itemsOf] at kept
  | cons a first ih =>
    cases second with
    | nil =>
      have kept := same (key a)
      simp [itemsOf] at kept
    | cons b second =>
      obtain ⟨least, rest⟩ := List.pairwise_cons.mp sorted
      obtain ⟨least', rest'⟩ := List.pairwise_cons.mp sorted'
      have keys : key a = key b := by
        apply le_antisymm
        · have member : b ∈ itemsOf key (key b) (a :: first) := by
            rw [same (key b)]
            simp [itemsOf]
          rcases List.mem_cons.mp (List.mem_of_mem_filter member) with rfl | later
          · exact le_refl _
          · exact least b later
        · have member : a ∈ itemsOf key (key a) (b :: second) := by
            rw [← same (key a)]
            simp [itemsOf]
          rcases List.mem_cons.mp (List.mem_of_mem_filter member) with rfl | later
          · exact le_refl _
          · exact least' a later
      have heads : a = b := by
        have kept := same (key a)
        simp only [itemsOf, List.filter_cons, keys, decide_true, if_true, List.cons.injEq] at kept
        exact kept.1
      subst heads
      congr 1
      refine ih second rest rest' (fun k => ?_)
      have kept := same k
      simp only [itemsOf, List.filter_cons] at kept ⊢
      split at kept
      · exact (List.cons.injEq _ _ _ _ ▸ kept).2
      · exact kept

theorem insertionSort_key_same (first second : List α) :
    first.insertionSort (ByKey key) = second.insertionSort (ByKey key) ↔
      ∀ k, itemsOf key k first = itemsOf key k second := by
  constructor
  · intro same k
    rw [← itemsOf_insertionSort key k first, same, itemsOf_insertionSort]
  · intro same
    apply sorted_eq key _ _ (List.pairwise_insertionSort _ _) (List.pairwise_insertionSort _ _)
    intro k
    rw [itemsOf_insertionSort, itemsOf_insertionSort, same k]

theorem perm_of_itemsOf (first second : List α)
    (same : ∀ k, itemsOf key k first = itemsOf key k second) : first.Perm second := by
  have sorted := (insertionSort_key_same key first second).mpr same
  have moved := List.perm_insertionSort (ByKey key) first
  rw [sorted] at moved
  exact moved.symm.trans (List.perm_insertionSort (ByKey key) second)

end Keys

end ErpBackend.Foundation
