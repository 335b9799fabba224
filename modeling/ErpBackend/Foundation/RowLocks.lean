import Mathlib

/-!
# Rows under locks

Rows by key, as transactions write them: a row that was written is locked until its transaction
ends, and its new value is the transaction's own until it commits. Who holds the lock of a row
reads what it wrote; what others read of it is some version, and nothing is said of which.
-/

namespace ErpBackend.Foundation

structure Rows (T κ V : Type) where
  committed : κ → Option V
  held : κ → Option (T × V)

namespace Rows

variable {T κ V : Type} [DecidableEq T]

def own (rows : Rows T κ V) (t : T) (k : κ) : Option V :=
  (rows.held k).bind (fun holder => if holder.1 = t then some holder.2 else none)

def Free (rows : Rows T κ V) (t : T) (k : κ) : Prop := ∀ holder ∈ rows.held k, holder.1 = t

instance (rows : Rows T κ V) (t : T) (k : κ) : Decidable (rows.Free t k) :=
  inferInstanceAs (Decidable (∀ holder ∈ rows.held k, holder.1 = t))

def newest (rows : Rows T κ V) (t : T) (k : κ) : Option V :=
  match rows.own t k with
  | some value => some value
  | none => rows.committed k

/-- A read without a lock: of a row the transaction wrote, what it wrote. -/
def Reads (rows : Rows T κ V) (t : T) (k : κ) (found : Option V) : Prop :=
  ∀ value, rows.own t k = some value → found = some value

def release (rows : Rows T κ V) (t : T) (k : κ) : Option (T × V) :=
  if (rows.own t k).isSome = true then none else rows.held k

def commit (rows : Rows T κ V) (t : T) : Rows T κ V :=
  { committed := rows.newest t, held := rows.release t }

def rollback (rows : Rows T κ V) (t : T) : Rows T κ V := { rows with held := rows.release t }

variable (rows : Rows T κ V) (t u : T) (k j : κ)

theorem own_some (value : V) : rows.own t k = some value ↔ rows.held k = some (t, value) := by
  unfold own
  cases held : rows.held k with
  | none => simp
  | some holder =>
    obtain ⟨who, written⟩ := holder
    simp only [Option.bind_some, Option.ite_none_right_eq_some, Option.some.injEq, Prod.mk.injEq]

theorem own_exclusive (value other : V) (mine : rows.own t k = some value)
    (theirs : rows.own u k = some other) : t = u := by
  rw [own_some] at mine theirs
  rw [mine] at theirs
  exact congrArg Prod.fst (Option.some.inj theirs)

theorem own_release (held' : κ → Option V) :
    (Rows.mk held' (rows.release t)).own u j = if u = t then none else rows.own u j := by
  unfold own release
  split
  · case isTrue same =>
    subst same
    cases held : rows.held j with
    | none => simp [own, held]
    | some holder =>
      by_cases mine : holder.1 = u
      · simp [own, held, mine]
      · simp [own, held, mine]
  · case isFalse other =>
    cases held : rows.held j with
    | none => simp [own, held]
    | some holder =>
      by_cases theirs : holder.1 = t
      · have notMine : holder.1 ≠ u := fun same => other (same.symm.trans theirs)
        simp [own, held, theirs, Ne.symm other]
      · simp [own, held, theirs]

@[simp]
theorem own_commit : (rows.commit t).own u j = if u = t then none else rows.own u j :=
  rows.own_release t u j _

@[simp]
theorem own_rollback : (rows.rollback t).own u j = if u = t then none else rows.own u j :=
  rows.own_release t u j _

@[simp]
theorem committed_commit : (rows.commit t).committed = rows.newest t := rfl

@[simp]
theorem committed_rollback : (rows.rollback t).committed = rows.committed := rfl

section Write

variable [DecidableEq κ] (f : Option V → V)

def write : Rows T κ V :=
  { rows with held := Function.update rows.held k (some (t, f (rows.newest t k))) }

@[simp]
theorem committed_write : (rows.write t k f).committed = rows.committed := rfl

@[simp]
theorem own_write : (rows.write t k f).own t k = some (f (rows.newest t k)) := by
  simp [own, write]

theorem own_write_key (other : j ≠ k) : (rows.write t k f).own u j = rows.own u j := by
  simp [own, write, Function.update_of_ne other]

theorem own_write_other (free : rows.Free t k) (other : u ≠ t) :
    (rows.write t k f).own u j = rows.own u j := by
  by_cases same : j = k
  · subst same
    have theirs : rows.own u j = none := by
      by_contra held
      obtain ⟨value, written⟩ := Option.ne_none_iff_exists'.mp held
      have holder := free _ ((own_some rows u j value).mp written)
      exact other holder
    rw [theirs]
    simp [own, write, other.symm]
  · exact rows.own_write_key t u k j f same

end Write

end Rows

end ErpBackend.Foundation
