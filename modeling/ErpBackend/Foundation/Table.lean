import Mathlib

/-!
# Tables with a primary key

Rows of a relational table, with the uniqueness of its key carried by the type.
`modify` is `UPDATE … WHERE`, `swap?` a guarded update of one row that reports
whether a row matched, and `insert?` fails on a duplicate key.
-/

namespace ErpBackend.Foundation

variable {α κ : Type}

theorem nodup_eraseDups [BEq α] [LawfulBEq α] (l : List α) : l.eraseDups.Nodup := by
  induction h : l.length using Nat.strong_induction_on generalizing l with
  | _ n ih =>
    cases l with
    | nil => exact .nil
    | cons a rest =>
      rw [List.eraseDups_cons, List.nodup_cons]
      constructor
      · simp [List.mem_eraseDups]
      · have shorter := List.length_filter_le (fun b => !b == a) rest
        rw [List.length_cons] at h
        exact ih _ (by omega) _ rfl

theorem sum_map_sub (l : List α) (g h : α → Int) :
    (l.map (fun a => g a - h a)).sum = (l.map g).sum - (l.map h).sum := by
  induction l with
  | nil => rfl
  | cons head tail ih =>
      simp only [List.map_cons, List.sum_cons, ih]
      omega

structure Table (α : Type) {κ : Type} (key : α → κ) where
  rows : List α
  unique : (rows.map key).Nodup

namespace Table

variable {key : α → κ}

@[ext]
theorem ext (left right : Table α key) (rows : left.rows = right.rows) : left = right := by
  cases left
  cases right
  cases rows
  rfl

instance [DecidableEq α] : DecidableEq (Table α key) :=
  fun left right =>
    if rows : left.rows = right.rows then .isTrue (ext left right rows)
    else .isFalse (fun equal => rows (congrArg Table.rows equal))

def empty : Table α key := ⟨[], List.nodup_nil⟩

instance : Inhabited (Table α key) := ⟨empty⟩

/-- The rows a `WHERE` clause keeps. -/
def filter (t : Table α key) (p : α → Bool) : List α := t.rows.filter p

variable (t : Table α key)

theorem mem_filter (p : α → Bool) (a : α) :
    a ∈ t.filter p ↔ a ∈ t.rows ∧ p a = true :=
  List.mem_filter

def any (t : Table α key) (p : α → Bool) : Bool := t.rows.any p

theorem any_eq_true (p : α → Bool) :
    t.any p = true ↔ ∃ a ∈ t.rows, p a = true :=
  List.any_eq_true

theorem any_eq_false (p : α → Bool) :
    t.any p = false ↔ ∀ a ∈ t.rows, p a = false := by
  simp [any]

theorem key_injective (a b : α)
    (ha : a ∈ t.rows) (hb : b ∈ t.rows) (same : key a = key b) : a = b :=
  List.inj_on_of_nodup_map t.unique ha hb same

end Table

/-- `findFirst` without an order: one of the rows that match, whichever it is. -/
structure Lookup (α : Type) where
  pick : List α → Option α
  mem : ∀ rows a, pick rows = some a → a ∈ rows
  total : ∀ rows, pick rows = none → rows = []

def Lookup.oldest : Lookup α where
  pick := List.head?
  mem _ _ := List.mem_of_mem_head?
  total _ := List.head?_eq_none_iff.mp

/-- Yields `a` wherever it matches. -/
def Lookup.prefer [DecidableEq α] (a : α) : Lookup α where
  pick rows := if a ∈ rows then some a else rows.head?
  mem rows b picked := by
    split at picked
    · next member =>
      cases picked
      exact member
    · exact List.mem_of_mem_head? picked
  total rows picked := by
    split at picked
    · cases picked
    · exact List.head?_eq_none_iff.mp picked

namespace Table

variable {key : α → κ} (t : Table α key)

section Find

variable [DecidableEq κ]

def find? (t : Table α key) (k : κ) : Option α :=
  t.rows.find? (fun a => decide (key a = k))

theorem find?_some (k : κ) (a : α) :
    t.find? k = some a ↔ a ∈ t.rows ∧ key a = k := by
  constructor
  · intro found
    exact ⟨List.mem_of_find?_eq_some found, by simpa using List.find?_some found⟩
  · rintro ⟨member, matched⟩
    rcases found : t.find? k with _ | b
    · have absent := List.find?_eq_none.mp found a member
      simp [matched] at absent
    · have present : b ∈ t.rows := List.mem_of_find?_eq_some found
      have keyed : key b = k := by simpa using List.find?_some found
      rw [t.key_injective b a present member (keyed.trans matched.symm)]

theorem find?_none (k : κ) :
    t.find? k = none ↔ ∀ a ∈ t.rows, key a ≠ k := by
  simp [find?]

theorem mem_of_find? (k : κ) (a : α) (found : t.find? k = some a) :
    a ∈ t.rows :=
  ((t.find?_some k a).mp found).1

theorem key_of_find? (k : κ) (a : α) (found : t.find? k = some a) :
    key a = k :=
  ((t.find?_some k a).mp found).2

end Find

/-- `UPDATE … SET f WHERE p`: the key of a row never changes. -/
def modify (t : Table α key) (p : α → Bool) (f : α → α)
    (keep : ∀ a, key (f a) = key a) : Table α key where
  rows := t.rows.map (fun a => if p a then f a else a)
  unique := by
    have same : (t.rows.map (fun a => if p a then f a else a)).map key = t.rows.map key := by
      rw [List.map_map]
      apply List.map_congr_left
      intro a _
      simp only [Function.comp_apply]
      split
      · exact keep a
      · rfl
    rw [same]
    exact t.unique

theorem modify_rows (p : α → Bool) (f : α → α)
    (keep : ∀ a, key (f a) = key a) :
    (t.modify p f keep).rows = t.rows.map (fun a => if p a then f a else a) := rfl

theorem mem_modify (p : α → Bool) (f : α → α)
    (keep : ∀ a, key (f a) = key a) (b : α) :
    b ∈ (t.modify p f keep).rows ↔ ∃ a ∈ t.rows, (if p a then f a else a) = b :=
  List.mem_map

theorem modify_of_none (p : α → Bool) (f : α → α)
    (keep : ∀ a, key (f a) = key a) (none_match : ∀ a ∈ t.rows, p a = false) :
    t.modify p f keep = t := by
  apply ext
  rw [modify_rows]
  conv_rhs => rw [← List.map_id t.rows]
  apply List.map_congr_left
  intro a member
  simp [none_match a member]

theorem filter_modify (p : α → Bool) (f : α → α)
    (keep : ∀ a, key (f a) = key a) (q : α → Bool) (same : ∀ a, q (f a) = q a) :
    (t.modify p f keep).filter q = (t.filter q).map (fun a => if p a then f a else a) := by
  unfold filter
  rw [modify_rows, List.filter_map]
  congr 1
  apply List.filter_congr
  intro a _
  simp only [Function.comp_apply]
  split
  · exact same a
  · rfl

theorem filter_modify_of_disjoint (p : α → Bool) (f : α → α)
    (keep : ∀ a, key (f a) = key a) (q : α → Bool) (same : ∀ a, q (f a) = q a)
    (apart : ∀ a ∈ t.rows, p a = true → q a = false) :
    (t.modify p f keep).filter q = t.filter q := by
  rw [filter_modify t p f keep q same]
  conv_rhs => rw [← List.map_id (t.filter q)]
  apply List.map_congr_left
  intro a member
  obtain ⟨present, kept⟩ := (t.mem_filter q a).mp member
  have untouched : p a = false := by
    by_contra touched
    have dropped := apart a present (by simpa using touched)
    rw [kept] at dropped
    cases dropped
  simp [untouched]

theorem filter_modify_of_uncounted (p : α → Bool) (f : α → α)
    (keep : ∀ a, key (f a) = key a) (q : α → Bool)
    (uncounted : ∀ a ∈ t.rows, p a = true → q a = false ∧ q (f a) = false) :
    (t.modify p f keep).filter q = t.filter q := by
  unfold filter
  rw [modify_rows]
  have across : ∀ rows : List α, (∀ a ∈ rows, p a = true → q a = false ∧ q (f a) = false) →
      (rows.map (fun a => if p a then f a else a)).filter q = rows.filter q := by
    intro rows each
    induction rows with
    | nil => rfl
    | cons head tail ih =>
        have rest := ih (fun a member => each a (List.mem_cons_of_mem _ member))
        rw [List.map_cons, List.filter_cons, List.filter_cons, rest]
        by_cases matched : p head = true
        · obtain ⟨before, after⟩ := each head (List.mem_cons_self ..) matched
          simp [matched, before, after]
        · simp [matched]
  exact across t.rows uncounted

theorem modify_modify (p q r : α → Bool) (f : α → α)
    (keep : ∀ a, key (f a) = key a)
    (both : ∀ a, (if q (if p a then f a else a) then f (if p a then f a else a)
      else (if p a then f a else a)) = if r a then f a else a) :
    (t.modify p f keep).modify q f keep = t.modify r f keep := by
  apply ext
  rw [modify_rows, modify_rows, modify_rows, List.map_map]
  apply List.map_congr_left
  intro a _
  exact both a

section Keyed

variable [DecidableEq κ]

theorem find?_modify (p : α → Bool) (f : α → α)
    (keep : ∀ a, key (f a) = key a) (k : κ) :
    (t.modify p f keep).find? k = (t.find? k).map (fun a => if p a then f a else a) := by
  rcases found : t.find? k with _ | a
  · rw [Option.map_none, find?_none]
    intro b member
    obtain ⟨a, present, rfl⟩ := (t.mem_modify p f keep b).mp member
    have absent := (t.find?_none k).mp found a present
    split
    · rw [keep]; exact absent
    · exact absent
  · obtain ⟨present, matched⟩ := (t.find?_some k a).mp found
    rw [Option.map_some, find?_some]
    refine ⟨(t.mem_modify p f keep _).mpr ⟨a, present, rfl⟩, ?_⟩
    split
    · rw [keep]; exact matched
    · exact matched

/-- `UPDATE … SET f WHERE id = k`. -/
def update (t : Table α key) (k : κ) (f : α → α)
    (keep : ∀ a, key (f a) = key a) : Table α key :=
  t.modify (fun a => decide (key a = k)) f keep

theorem modify_eq_update (k : κ) (p : α → Bool) (f : α → α)
    (keep : ∀ a, key (f a) = key a) (only : ∀ a ∈ t.rows, p a = decide (key a = k)) :
    t.modify p f keep = t.update k f keep := by
  apply ext
  rw [update, modify_rows, modify_rows]
  apply List.map_congr_left
  intro a member
  rw [only a member]

theorem find?_update (k : κ) (f : α → α)
    (keep : ∀ a, key (f a) = key a) (j : κ) :
    (t.update k f keep).find? j = if j = k then (t.find? k).map f else t.find? j := by
  rw [update, find?_modify]
  split
  · next same =>
    subst same
    rcases found : t.find? j with _ | a
    · rfl
    · simp [t.key_of_find? j a found]
  · next other =>
    rcases found : t.find? j with _ | a
    · rfl
    · simp [t.key_of_find? j a found, other]

theorem find?_update_of_found (k : κ) (f : α → α)
    (keep : ∀ a, key (f a) = key a) (j : κ) (a : α) (found : t.find? j = some a) :
    (t.update k f keep).find? j = some (if j = k then f a else a) := by
  rw [find?_update]
  split
  · next same => rw [← same, found]; rfl
  · exact found

theorem find?_update_some (k : κ) (f : α → α)
    (keep : ∀ a, key (f a) = key a) (j : κ) (b : α) (found : (t.update k f keep).find? j = some b) :
    ∃ a, t.find? j = some a ∧ b = if j = k then f a else a := by
  rw [find?_update] at found
  split at found
  · next same =>
    obtain ⟨a, present, image⟩ := Option.map_eq_some_iff.mp found
    exact ⟨a, by rw [same]; exact present, by rw [if_pos same, image]⟩
  · next other => exact ⟨b, found, by rw [if_neg other]⟩

theorem mem_update (k : κ) (f : α → α)
    (keep : ∀ a, key (f a) = key a) (b : α) :
    b ∈ (t.update k f keep).rows ↔
      (b ∈ t.rows ∧ key b ≠ k) ∨ ∃ a, t.find? k = some a ∧ f a = b := by
  rw [update, mem_modify]
  constructor
  · rintro ⟨a, member, image⟩
    by_cases matched : key a = k
    · refine .inr ⟨a, (t.find?_some k a).mpr ⟨member, matched⟩, ?_⟩
      simpa [matched] using image
    · refine .inl ?_
      simp only [matched, decide_false, Bool.false_eq_true, if_false] at image
      subst image
      exact ⟨member, matched⟩
  · rintro (⟨member, other⟩ | ⟨a, found, image⟩)
    · exact ⟨b, member, by simp [other]⟩
    · obtain ⟨member, matched⟩ := (t.find?_some k a).mp found
      exact ⟨a, member, by simpa [matched] using image⟩

/-- A search by columns the update leaves alone ends at the same row. -/
theorem find?_rows_update (k : κ) (f : α → α)
    (keep : ∀ a, key (f a) = key a) (p : α → Bool) (same : ∀ a, p (f a) = p a) :
    (t.update k f keep).rows.find? p =
      (t.rows.find? p).map (fun a => if key a = k then f a else a) := by
  unfold update
  simp only [modify_rows, decide_eq_true_eq, List.find?_map]
  congr 2
  funext a
  simp only [Function.comp_apply]
  split
  · exact same a
  · rfl

/-- One guarded update of the row keyed `k`; `none` when no row matched. -/
def swap? (t : Table α key) (k : κ) (guard : α → Bool) (f : α → α)
    (keep : ∀ a, key (f a) = key a) : Option (Table α key) :=
  match t.find? k with
  | none => none
  | some a => if guard a then some (t.update k f keep) else none

variable (t t' : Table α key)

theorem swap?_some (k : κ) (guard : α → Bool) (f : α → α)
    (keep : ∀ a, key (f a) = key a) :
    t.swap? k guard f keep = some t' ↔
      ∃ a, t.find? k = some a ∧ guard a = true ∧ t' = t.update k f keep := by
  unfold swap?
  rcases found : t.find? k with _ | a
  · simp
  · by_cases pass : guard a = true
    · simp only [pass, if_true, Option.some.injEq]
      constructor
      · rintro rfl
        exact ⟨a, rfl, pass, rfl⟩
      · rintro ⟨_, _, _, rfl⟩
        rfl
    · simp [pass]

theorem swap?_at {t t' : Table α key} {k : κ} {guard : α → Bool} {f : α → α}
    {keep : ∀ a, key (f a) = key a} {a : α} (found : t.find? k = some a)
    (done : t.swap? k guard f keep = some t') : guard a = true ∧ t' = t.update k f keep := by
  obtain ⟨b, present, passed, changed⟩ := (swap?_some _ _ _ _ _ _).mp done
  rw [found] at present
  cases present
  exact ⟨passed, changed⟩

/-- `DELETE … WHERE`. -/
def delete (t : Table α key) (p : α → Bool) : Table α key where
  rows := t.rows.filter (fun a => !p a)
  unique := t.unique.sublist (List.filter_sublist.map key)

/-- One guarded delete of the row keyed `k`; `none` when no row matched. -/
def remove? (t : Table α key) (k : κ) (guard : α → Bool) :
    Option (Table α key) :=
  match t.find? k with
  | none => none
  | some a => if guard a then some (t.delete (fun b => decide (key b = k))) else none

theorem remove?_some (k : κ) (guard : α → Bool)
    (done : t.remove? k guard = some t') :
    ∃ a, t.find? k = some a ∧ guard a = true ∧
      t' = t.delete (fun b => decide (key b = k)) := by
  unfold remove? at done
  split at done
  · cases done
  · next a found =>
    split at done
    · next pass =>
      cases done
      exact ⟨a, found, pass, rfl⟩
    · cases done

theorem remove?_at {t t' : Table α key} {k : κ} {guard : α → Bool} {a : α}
    (found : t.find? k = some a) (done : t.remove? k guard = some t') :
    guard a = true ∧ t' = t.delete (fun b => decide (key b = k)) := by
  obtain ⟨b, present, passed, gone⟩ := t.remove?_some t' k guard done
  rw [found] at present
  cases present
  exact ⟨passed, gone⟩

theorem find?_rows_delete (k : κ) (p : α → Bool)
    (sole : ∀ a ∈ t.rows, ∀ b ∈ t.rows, p a = true → p b = true → a = b) :
    (t.delete (fun b => decide (key b = k))).rows.find? p =
      (t.rows.find? p).filter (fun a => decide (key a ≠ k)) := by
  simp only [delete, List.find?_filter]
  rcases found : t.rows.find? p with _ | a
  · have none : ∀ b ∈ t.rows, ¬p b = true := by simpa using List.find?_eq_none.mp found
    simp only [Option.filter_none, List.find?_eq_none]
    intro b member both
    exact none b member (of_decide_eq_true both).2
  · have member := List.mem_of_find?_eq_some found
    have matched := List.find?_some found
    by_cases here : key a = k
    · simp only [Option.filter, here, ne_eq, not_true, decide_false, Bool.false_eq_true, if_false,
        List.find?_eq_none]
      intro b present both
      obtain ⟨apart, hit⟩ := of_decide_eq_true both
      have same := sole b present a member hit matched
      simp [same, here] at apart
    · rw [Option.filter, if_pos (by simpa using here)]
      rw [List.find?_eq_some_iff_append] at found ⊢
      obtain ⟨-, before, after, split, missed⟩ := found
      refine ⟨by simp [here, matched], before, after, split, fun b early => ?_⟩
      have no := missed b early
      simp only [Bool.not_eq_true'] at no
      simp [no]

/-- `INSERT`, refused on a duplicate key. -/
def insert? (t : Table α key) (a : α) : Option (Table α key) :=
  if fresh : key a ∈ t.rows.map key then none
  else some
    { rows := t.rows ++ [a]
      unique := by
        rw [List.map_append]
        apply List.Nodup.append t.unique (List.nodup_singleton _)
        intro k present single
        rw [List.mem_singleton] at single
        exact fresh (single ▸ present) }

theorem insert?_some (a : α) (done : t.insert? a = some t') :
    t'.rows = t.rows ++ [a] ∧ ∀ b ∈ t.rows, key b ≠ key a := by
  unfold insert? at done
  split at done
  · cases done
  · next fresh =>
    cases done
    refine ⟨rfl, fun b member same => fresh ?_⟩
    exact List.mem_map.mpr ⟨b, member, same⟩

/-- `INSERT`, and what is made of the table then. -/
def store {ε σ : Type} (t : Table α key) (a : α) (refusal : ε) (put : Table α key → σ) :
    Except ε σ :=
  match t.insert? a with
  | none => .error refusal
  | some stored => .ok (put stored)

theorem store_ok {ε σ : Type} (a : α) (refusal : ε) (put : Table α key → σ) (s : σ)
    (done : t.store a refusal put = .ok s) :
    ∃ stored, t.insert? a = some stored ∧ s = put stored := by
  unfold store at done
  split at done
  · cases done
  · next stored inserted =>
    cases done
    exact ⟨stored, inserted, rfl⟩

theorem insert?_of_fresh (a : α) (fresh : key a ∉ t.rows.map key) :
    ∃ t', t.insert? a = some t' := by
  unfold insert?
  rw [dif_neg fresh]
  exact ⟨_, rfl⟩

theorem find?_insert (a : α) (done : t.insert? a = some t') (k : κ) :
    t'.find? k = if k = key a then some a else t.find? k := by
  obtain ⟨rows, fresh⟩ := t.insert?_some t' a done
  split
  · next same =>
    subst same
    exact (t'.find?_some (key a) a).mpr ⟨by simp [rows], rfl⟩
  · next other =>
    have single : [a].find? (fun b => decide (key b = k)) = none := by
      simp [Ne.symm other]
    rw [find?, rows, List.find?_append, single, Option.or_none]
    rfl

/-- A search by columns finds a new row after the others. -/
theorem find?_rows_insert (a : α) (done : t.insert? a = some t')
    (p : α → Bool) : t'.rows.find? p = (t.rows.find? p).or (if p a then some a else none) := by
  obtain ⟨rows, -⟩ := t.insert?_some t' a done
  rw [rows, List.find?_append]
  simp only [List.find?_singleton]

theorem find?_insert_of_found (a : α) (done : t.insert? a = some t') (k : κ)
    (b : α) (found : t.find? k = some b) : t'.find? k = some b := by
  obtain ⟨present, keyed⟩ := (t.find?_some k b).mp found
  have apart : k ≠ key a := by
    rw [← keyed]
    exact (t.insert?_some t' a done).2 b present
  rw [find?_insert t t' a done, if_neg apart]
  exact found

end Keyed

section Sole

variable {γ : Type}

/-- No two rows agree on these columns. -/
def Sole (t : Table α key) (columns : α → γ) : Prop :=
  ∀ a ∈ t.rows, ∀ b ∈ t.rows, columns a = columns b → a = b

theorem Sole.update [DecidableEq κ] {t : Table α key} {columns : α → γ} (sole : t.Sole columns)
    (k : κ) (f : α → α) (keep : ∀ a, key (f a) = key a)
    (same : ∀ a, columns (f a) = columns a) : (t.update k f keep).Sole columns := by
  have image : ∀ b ∈ (t.update k f keep).rows, ∃ a ∈ t.rows,
      columns a = columns b ∧ b = if key a = k then f a else a := by
    intro b member
    obtain ⟨a, present, made⟩ := (t.mem_modify _ f keep b).mp member
    simp only [decide_eq_true_eq] at made
    refine ⟨a, present, ?_, made.symm⟩
    rw [← made]
    split
    · exact (same a).symm
    · rfl
  intro b member c member' agree
  obtain ⟨a, present, left, rfl⟩ := image b member
  obtain ⟨a', present', right, rfl⟩ := image c member'
  have one := sole a present a' present' (left.trans (agree.trans right.symm))
  rw [one]

theorem Sole.delete {t : Table α key} {columns : α → γ} (sole : t.Sole columns) (p : α → Bool) :
    (t.delete p).Sole columns :=
  fun a member b member' agree =>
    sole a (List.mem_of_mem_filter member) b (List.mem_of_mem_filter member') agree

theorem Sole.insert [DecidableEq κ] {t t' : Table α key} {columns : α → γ} (sole : t.Sole columns)
    (a : α) (done : t.insert? a = some t') (fresh : ∀ b ∈ t.rows, columns b ≠ columns a) :
    t'.Sole columns := by
  obtain ⟨rows, -⟩ := t.insert?_some t' a done
  intro b member c member' agree
  rw [rows, List.mem_append, List.mem_singleton] at member member'
  rcases member with old | rfl
  · rcases member' with old' | rfl
    · exact sole b old c old' agree
    · exact absurd agree (fresh b old)
  · rcases member' with old' | rfl
    · exact absurd agree.symm (fresh c old')
    · rfl

theorem Sole.of_columns {t : Table α key} {δ : Type} {columns : α → γ} {more : α → δ}
    (sole : t.Sole columns) (fewer : ∀ a b, more a = more b → columns a = columns b) :
    t.Sole more :=
  fun a member b member' agree => sole a member b member' (fewer a b agree)

/-- `findFirst` by the values of some columns. -/
def findBy [DecidableEq γ] (t : Table α key) (columns : α → γ) (x : γ) : Option α :=
  t.rows.find? (fun a => decide (columns a = x))

section FindBy

variable [DecidableEq γ] {t t' : Table α key} {columns : α → γ} {x : γ} {a : α}

theorem findBy_some (found : t.findBy columns x = some a) : a ∈ t.rows ∧ columns a = x :=
  ⟨List.mem_of_find?_eq_some found, by simpa using List.find?_some found⟩

theorem findBy_apart {y : γ} {b : α} (found : t.findBy columns x = some a)
    (found' : t.findBy columns y = some b) (same : key b = key a) : y = x := by
  obtain ⟨member, left⟩ := findBy_some found
  obtain ⟨member', right⟩ := findBy_some found'
  rw [← left, ← right, t.key_injective b a member' member same]

/-- A row is the one its columns lead to. -/
theorem findBy_of_mem (sole : t.Sole columns) (member : a ∈ t.rows) :
    t.findBy columns (columns a) = some a := by
  rcases found : t.findBy columns (columns a) with _ | b
  · have missed := List.find?_eq_none.mp found a member
    simp at missed
  · obtain ⟨present, same⟩ := findBy_some found
    rw [sole b present a member same]

variable [DecidableEq κ]

theorem find?_of_findBy (found : t.findBy columns x = some a) : t.find? (key a) = some a :=
  (t.find?_some _ _).mpr ⟨(findBy_some found).1, rfl⟩

theorem findBy_update (found : t.findBy columns x = some a) (f : α → α)
    (keep : ∀ a, key (f a) = key a) (same : ∀ a, columns (f a) = columns a) (y : γ) :
    (t.update (key a) f keep).findBy columns y =
      if y = x then some (f a) else t.findBy columns y := by
  rw [findBy, find?_rows_update _ _ _ _ _ (fun a => by rw [same]), ← findBy]
  split
  · next here => simp [here, found]
  · next apart =>
    rcases other : t.findBy columns y with _ | b
    · rfl
    · have different : key b ≠ key a := fun same => apart (findBy_apart found other same)
      simp [different]

theorem findBy_insert (done : t.insert? a = some t') (missing : t.findBy columns (columns a) = none)
    (y : γ) : t'.findBy columns y = if y = columns a then some a else t.findBy columns y := by
  rw [findBy, find?_rows_insert _ _ _ done]
  by_cases here : y = columns a
  · rw [here, show t.rows.find? (fun b => decide (columns b = columns a)) = none from missing]
    simp
  · have no : columns a ≠ y := Ne.symm here
    simp [findBy, no, here]

theorem findBy_delete (found : t.findBy columns x = some a) (sole : t.Sole columns) (y : γ) :
    (t.delete (fun b => decide (key b = key a))).findBy columns y =
      if y = x then none else t.findBy columns y := by
  have one : ∀ b ∈ t.rows, ∀ c ∈ t.rows, decide (columns b = y) = true →
      decide (columns c = y) = true → b = c := by
    intro b member c member' left right
    simp only [decide_eq_true_eq] at left right
    exact sole b member c member' (left.trans right.symm)
  rw [findBy, find?_rows_delete _ _ _ one, ← findBy]
  split
  · next here => simp [here, found]
  · next apart =>
    rcases other : t.findBy columns y with _ | b
    · rfl
    · have different : key b ≠ key a := fun same => apart (findBy_apart found other same)
      simp [different]

end FindBy

end Sole

theorem exists_unused {α : Type} {key : α → Nat} (t : Table α key) :
    ∃ k, k ∉ t.rows.map key := by
  have bounded : ∀ keys : List Nat, ∃ bound, ∀ k ∈ keys, k < bound := by
    intro keys
    induction keys with
    | nil => exact ⟨0, by simp⟩
    | cons first rest ih =>
        obtain ⟨bound, below⟩ := ih
        refine ⟨max bound (first + 1), ?_⟩
        intro k member
        rcases List.mem_cons.mp member with rfl | later
        · omega
        · have := below k later
          omega
  obtain ⟨bound, below⟩ := bounded (t.rows.map key)
  exact ⟨bound, fun present => Nat.lt_irrefl bound (below bound present)⟩

section Total

variable {M : Type} [AddCommMonoid M]

def total (t : Table α key) (g : α → M) : M := (t.rows.map g).sum

theorem total_insert [DecidableEq κ] (t t' : Table α key) (a : α)
    (done : t.insert? a = some t') (g : α → M) : t'.total g = t.total g + g a := by
  obtain ⟨rows, -⟩ := t.insert?_some t' a done
  simp [total, rows]

theorem total_congr (g h : α → M)
    (same : ∀ a ∈ t.rows, g a = h a) : t.total g = t.total h := by
  unfold total
  congr 1
  exact List.map_congr_left same

end Total

theorem total_le (g h : α → Int) (le : ∀ a ∈ t.rows, g a ≤ h a) :
    t.total g ≤ t.total h :=
  List.sum_le_sum le

theorem sum_eq_iff_of_le (l : List α) (g h : α → Int) (le : ∀ a ∈ l, g a ≤ h a) :
    (l.map g).sum = (l.map h).sum ↔ ∀ a ∈ l, g a = h a := by
  induction l with
  | nil => simp
  | cons head tail ih =>
      have first := le head (by simp)
      have rest : (tail.map g).sum ≤ (tail.map h).sum :=
        List.sum_le_sum (fun a member => le a (by simp [member]))
      have same := ih (fun a member => le a (by simp [member]))
      simp only [List.map_cons, List.sum_cons, List.forall_mem_cons, ← same]
      constructor
      · intro equal
        omega
      · rintro ⟨equal, others⟩
        rw [equal, others]

theorem total_add {M : Type} [AddCommMonoid M] (t : Table α key) (g h : α → M) :
    t.total (fun a => g a + h a) = t.total g + t.total h :=
  List.sum_map_add

theorem total_sub (g h : α → Int) :
    t.total (fun a => g a - h a) = t.total g - t.total h := by
  unfold total
  induction t.rows with
  | nil => rfl
  | cons head tail ih =>
      simp only [List.map_cons, List.sum_cons, ih]
      omega

/-- Where `other` is unique among the rows, the total over the rows that share a row's
`other` is that row's own value. -/
theorem total_of_unique {M κ' : Type} [AddCommMonoid M] [DecidableEq κ'] (t : Table α key)
    (other : α → κ') (unique : (t.rows.map other).Nodup) (g : α → M) (a : α)
    (member : a ∈ t.rows) : t.total (fun b => if other b = other a then g b else 0) = g a := by
  unfold total
  generalize t.rows = rows at unique member
  induction rows with
  | nil => cases member
  | cons head tail ih =>
      obtain ⟨fresh, distinct⟩ := List.nodup_cons.mp unique
      simp only [List.map_cons, List.sum_cons]
      rcases List.mem_cons.mp member with rfl | later
      · have none_else : tail.map (fun b => if other b = other a then g b else 0) =
            tail.map (fun _ => 0) := by
          apply List.map_congr_left
          intro b present
          rw [if_neg]
          intro same
          exact fresh (same ▸ List.mem_map.mpr ⟨b, present, rfl⟩)
        rw [if_pos rfl, none_else]
        simp
      · rw [if_neg, zero_add]
        · exact ih distinct later
        · intro same
          exact fresh (same ▸ List.mem_map.mpr ⟨a, later, rfl⟩)

section Groups

variable {β κ' M : Type} {key' : β → κ'} [AddCommMonoid M]

theorem sum_filter_ite (rows : List α) (p : α → Bool) (g : α → M) :
    ((rows.filter p).map g).sum = (rows.map (fun a => if p a then g a else 0)).sum := by
  induction rows with
  | nil => rfl
  | cons head tail ih =>
      cases passed : p head with
      | true => simp [passed, ih]
      | false => simp [passed, ih]

theorem sum_filter_key {κ' : Type} [DecidableEq κ'] (rows : List α) (read : α → κ') (g : α → M)
    (once : (rows.map read).Nodup) (a : α) (member : a ∈ rows) :
    ((rows.filter (fun b => read b = read a)).map g).sum = g a := by
  induction rows with
  | nil => cases member
  | cons head tail ih =>
      obtain ⟨apart, later⟩ := List.nodup_cons.mp once
      rcases List.mem_cons.mp member with rfl | there
      · have others : tail.filter (fun b => read b = read a) = [] := by
          rw [List.filter_eq_nil_iff]
          intro b inside same
          exact apart (List.mem_map.mpr ⟨b, inside, of_decide_eq_true same⟩)
        simp [others]
      · have other : read head ≠ read a := fun same =>
          apart (List.mem_map.mpr ⟨a, there, same.symm⟩)
        simpa [other] using ih later there

theorem sum_filter (p : α → Bool) (g : α → M) :
    ((t.filter p).map g).sum = t.total (fun a => if p a then g a else 0) :=
  sum_filter_ite t.rows p g

theorem sum_kept (p q : α → Bool) (g : α → M) :
    (((t.delete (fun a => !p a)).filter q).map g).sum =
      t.total (fun a => if p a ∧ q a then g a else 0) := by
  rw [sum_filter, total, delete, sum_filter_ite]
  apply congrArg List.sum
  apply List.map_congr_left
  intro a _
  cases kept : p a with
  | true => simp
  | false => simp

theorem total_zero : t.total (fun _ => (0 : M)) = 0 := by
  simp [total]

theorem total_eq_zero (g : α → M) (none_counts : ∀ a ∈ t.rows, g a = 0) :
    t.total g = 0 :=
  (t.total_congr g (fun _ => 0) none_counts).trans t.total_zero

theorem total_at [DecidableEq κ] (t : Table α key) (k : κ) (g : α → M) :
    t.total (fun a => if key a = k then g a else 0) = ((t.find? k).map g).getD 0 := by
  cases found : t.find? k with
  | none =>
      apply total_eq_zero
      intro a member
      rw [if_neg ((t.find?_none k).mp found a member)]
  | some a =>
      obtain ⟨member, keyed⟩ := (t.find?_some k a).mp found
      have single := t.total_of_unique key t.unique g a member
      rw [keyed] at single
      exact single

theorem total_comm (u : Table β key') (h : α → β → M) :
    t.total (fun a => u.total (h a)) = u.total (fun b => t.total (fun a => h a b)) := by
  have zero := u.total_zero (M := M)
  unfold total at zero ⊢
  induction t.rows with
  | nil => exact zero.symm
  | cons head tail ih =>
      simp only [List.map_cons, List.sum_cons, ih]
      exact List.sum_map_add.symm

theorem total_group [DecidableEq κ'] (children : Table α key) (parents : Table β key')
    (parent : α → κ') (passes : β → Bool) (g : α → M) :
    children.total (fun a => if (parents.find? (parent a)).any passes then g a else 0) =
      parents.total (fun b => if passes b then
        children.total (fun a => if parent a = key' b then g a else 0) else 0) := by
  have inward : ∀ b, (if passes b then
      children.total (fun a => if parent a = key' b then g a else 0) else 0) =
        children.total (fun a => if passes b ∧ parent a = key' b then g a else 0) := by
    intro b
    cases passes b with
    | true => simp
    | false => simpa using (children.total_zero (M := M)).symm
  simp only [inward]
  rw [total_comm]
  apply total_congr
  intro a _
  cases found : parents.find? (parent a) with
  | none =>
      have absent := (parents.find?_none (parent a)).mp found
      rw [parents.total_congr _ (fun _ => 0), total_zero]
      · rfl
      · intro b member
        rw [if_neg]
        rintro ⟨-, same⟩
        exact absent b member same.symm
  | some b =>
      obtain ⟨member, keyed⟩ := (parents.find?_some (parent a) b).mp found
      have single := parents.total_of_unique key' parents.unique
        (fun c => if passes c then g a else 0) b member
      rw [keyed] at single
      rw [Option.any_some, ← single]
      apply total_congr
      intro c _
      by_cases same : key' c = parent a
      · simp [same]
      · simp [same, Ne.symm same]

end Groups

private theorem sum_update [DecidableEq κ] {M : Type} [AddCommMonoid M]
    (rows : List α) (k : κ) (f : α → α) (g : α → M) (a : α)
    (unique : (rows.map key).Nodup) (member : a ∈ rows) (matched : key a = k) :
    ((rows.map (fun b => if decide (key b = k) then f b else b)).map g).sum + g a =
      (rows.map g).sum + g (f a) := by
  induction rows with
  | nil => cases member
  | cons head tail ih =>
      simp only [List.map_cons, List.nodup_cons, List.sum_cons] at unique ⊢
      by_cases first : key head = k
      · have tail_kept : ∀ b ∈ tail, key b ≠ k := by
          intro b present keyed
          exact unique.1 (first ▸ keyed ▸ List.mem_map.mpr ⟨b, present, rfl⟩)
        have head_eq : a = head := by
          rcases List.mem_cons.mp member with equal | present
          · exact equal
          · exact absurd matched (tail_kept a present)
        subst head_eq
        have same : tail.map (fun b => if decide (key b = k) then f b else b) = tail := by
          conv_rhs => rw [← List.map_id tail]
          apply List.map_congr_left
          intro b present
          simp [tail_kept b present]
        rw [same]
        simp only [matched, decide_true, if_true]
        abel
      · have present : a ∈ tail := by
          rcases List.mem_cons.mp member with equal | present
          · exact absurd (equal ▸ matched) first
          · exact present
        have rest := ih unique.2 present
        simp only [first, decide_false, Bool.false_eq_true, if_false]
        rw [add_assoc, rest, add_assoc]

/-- Updating one row moves a column total by that row's own change. -/
theorem total_update [DecidableEq κ] {M : Type} [AddCommMonoid M] (t : Table α key)
    (k : κ) (f : α → α) (keep : ∀ a, key (f a) = key a) (g : α → M) (a : α)
    (found : t.find? k = some a) :
    (t.update k f keep).total g + g a = t.total g + g (f a) :=
  sum_update t.rows k f g a t.unique (t.mem_of_find? k a found) (t.key_of_find? k a found)

end Table

end ErpBackend.Foundation
