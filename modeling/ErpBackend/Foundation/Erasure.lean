import Mathlib

/-!
# Erasing keys

Nested lists and records from which the fields under some keys are taken out, at every depth.
What is left has no such key, keeps whatever is reached without one, and is the same for two
values exactly when they differ nowhere else.
-/

namespace ErpBackend.Foundation

/-- A value of nested lists and records with keys in `κ` over the leaves `ν`. -/
inductive Tree (κ ν : Type) where
  | leaf (value : ν)
  | list (items : List (Tree κ ν))
  | record (fields : List (κ × Tree κ ν))

namespace Tree

variable {κ ν : Type}

mutual

@[induction_eliminator]
theorem induct {motive : Tree κ ν → Prop} (leaf : ∀ value, motive (.leaf value))
    (list : ∀ items, (∀ item ∈ items, motive item) → motive (.list items))
    (record : ∀ fields, (∀ field ∈ fields, motive field.2) → motive (.record fields)) :
    ∀ tree : Tree κ ν, motive tree
  | .leaf value => leaf value
  | .list items => list items (induct_items leaf list record items)
  | .record fields => record fields (induct_fields leaf list record fields)

theorem induct_items {motive : Tree κ ν → Prop} (leaf : ∀ value, motive (.leaf value))
    (list : ∀ items, (∀ item ∈ items, motive item) → motive (.list items))
    (record : ∀ fields, (∀ field ∈ fields, motive field.2) → motive (.record fields)) :
    ∀ items : List (Tree κ ν), ∀ item ∈ items, motive item
  | [], _, member => nomatch member
  | first :: rest, item, member =>
      (List.mem_cons.mp member).elim (fun own => own ▸ induct leaf list record first)
        (induct_items leaf list record rest item)

theorem induct_fields {motive : Tree κ ν → Prop} (leaf : ∀ value, motive (.leaf value))
    (list : ∀ items, (∀ item ∈ items, motive item) → motive (.list items))
    (record : ∀ fields, (∀ field ∈ fields, motive field.2) → motive (.record fields)) :
    ∀ fields : List (κ × Tree κ ν), ∀ field ∈ fields, motive field.2
  | [], _, member => nomatch member
  | (_, first) :: rest, field, member =>
      (List.mem_cons.mp member).elim (fun own => own ▸ induct leaf list record first)
        (induct_fields leaf list record rest field)

end

section Erase

variable (hidden : κ → Prop) [DecidablePred hidden]

mutual

def erase : Tree κ ν → Tree κ ν
  | .leaf value => .leaf value
  | .list items => .list (eraseItems items)
  | .record fields => .record (eraseFields fields)

def eraseItems : List (Tree κ ν) → List (Tree κ ν)
  | [] => []
  | item :: rest => erase item :: eraseItems rest

def eraseFields : List (κ × Tree κ ν) → List (κ × Tree κ ν)
  | [] => []
  | (key, value) :: rest =>
      if hidden key then eraseFields rest else (key, erase value) :: eraseFields rest

end

@[simp] theorem erase_leaf (value : ν) : erase hidden (.leaf value : Tree κ ν) = .leaf value := rfl

theorem eraseItems_eq (items : List (Tree κ ν)) :
    eraseItems hidden items = items.map (erase hidden) := by
  induction items with
  | nil => rfl
  | cons item rest ih => simp [eraseItems, ih]

@[simp] theorem erase_list (items : List (Tree κ ν)) :
    erase hidden (.list items) = .list (items.map (erase hidden)) := by
  rw [erase, eraseItems_eq]

def shown (fields : List (κ × Tree κ ν)) : List (κ × Tree κ ν) :=
  fields.filter (fun field => ¬hidden field.1)

@[simp] theorem shown_nil : shown hidden ([] : List (κ × Tree κ ν)) = [] := rfl

@[simp] theorem shown_cons (field : κ × Tree κ ν) (rest : List (κ × Tree κ ν)) :
    shown hidden (field :: rest) =
      if hidden field.1 then shown hidden rest else field :: shown hidden rest := by
  by_cases secret : hidden field.1 <;> simp [shown, secret]

variable (fields : List (κ × Tree κ ν))

theorem eraseFields_eq :
    eraseFields hidden fields = (shown hidden fields).map (Prod.map id (erase hidden)) := by
  induction fields with
  | nil => rfl
  | cons field rest ih =>
    obtain ⟨key, value⟩ := field
    by_cases secret : hidden key <;> simp [eraseFields, secret, ih]

@[simp] theorem erase_record :
    erase hidden (.record fields) =
      .record ((shown hidden fields).map (Prod.map id (erase hidden))) := by
  rw [erase, eraseFields_eq]

theorem mem_shown {fields : List (κ × Tree κ ν)} {field : κ × Tree κ ν} :
    field ∈ shown hidden fields ↔ field ∈ fields ∧ ¬hidden field.1 := by
  simp [shown]

theorem shown_erased :
    shown hidden ((shown hidden fields).map (Prod.map id (erase hidden))) =
      (shown hidden fields).map (Prod.map id (erase hidden)) := by
  rw [shown, List.filter_eq_self]
  intro field member
  obtain ⟨kept, inside, rfl⟩ := List.mem_map.mp member
  simpa using ((mem_shown hidden).mp inside).2

theorem erase_erase (tree : Tree κ ν) : erase hidden (erase hidden tree) = erase hidden tree := by
  induction tree with
  | leaf value => rfl
  | list items ih =>
    simp only [erase_list, List.map_map, list.injEq]
    exact List.map_congr_left ih
  | record fields ih =>
    simp only [erase_record, shown_erased, List.map_map, record.injEq]
    apply List.map_congr_left
    intro field member
    have same := ih field ((mem_shown hidden).mp member).1
    simp [Prod.map, same]

end Erase

inductive Part (part : Tree κ ν) : Tree κ ν → Prop where
  | whole : Part part part
  | item {items : List (Tree κ ν)} {item : Tree κ ν} :
      item ∈ items → Part part item → Part part (.list items)
  | field {fields : List (κ × Tree κ ν)} {field : κ × Tree κ ν} :
      field ∈ fields → Part part field.2 → Part part (.record fields)

theorem erase_hides (hidden : κ → Prop) [DecidablePred hidden] (tree : Tree κ ν)
    {fields : List (κ × Tree κ ν)} (inside : Part (.record fields) (erase hidden tree)) :
    ∀ field ∈ fields, ¬hidden field.1 := by
  induction tree with
  | leaf value => cases inside
  | list items ih =>
    rw [erase_list] at inside
    cases inside with
    | item member deeper =>
      obtain ⟨source, present, rfl⟩ := List.mem_map.mp member
      exact ih source present deeper
  | record own ih =>
    rw [erase_record] at inside
    cases inside with
    | whole =>
      intro field member
      obtain ⟨source, present, rfl⟩ := List.mem_map.mp member
      exact ((mem_shown hidden).mp present).2
    | field member deeper =>
      obtain ⟨source, present, rfl⟩ := List.mem_map.mp member
      exact ih source ((mem_shown hidden).mp present).1 deeper

inductive Step (κ : Type) where
  | index (i : Nat)
  | key (key : κ)

section Paths

variable [DecidableEq κ]

def child : Tree κ ν → Step κ → Option (Tree κ ν)
  | .list items, .index i => items[i]?
  | .record fields, .key key => fields.lookup key
  | _, _ => none

def reach (tree : Tree κ ν) : List (Step κ) → Option (Tree κ ν)
  | [] => some tree
  | step :: rest => (tree.child step).bind (fun inner => inner.reach rest)

variable (hidden : κ → Prop) [DecidablePred hidden]

def Open (path : List (Step κ)) : Prop := ∀ key, .key key ∈ path → ¬hidden key

theorem lookup_shown {key : κ} (plain : ¬hidden key) (fields : List (κ × Tree κ ν)) :
    ((shown hidden fields).map (Prod.map id (erase hidden))).lookup key =
      (fields.lookup key).map (erase hidden) := by
  induction fields with
  | nil => rfl
  | cons field rest ih =>
    obtain ⟨own, value⟩ := field
    by_cases secret : hidden own
    · have other : key ≠ own := fun same => plain (same ▸ secret)
      simp [secret, List.lookup_cons, beq_false_of_ne other, ih]
    · by_cases same : key = own
      · simp [secret, same]
      · simp [secret, List.lookup_cons, beq_false_of_ne same, ih]

theorem child_erase (tree : Tree κ ν) (step : Step κ)
    (plain : ∀ key, step = .key key → ¬hidden key) :
    (erase hidden tree).child step = (tree.child step).map (erase hidden) := by
  cases tree with
  | leaf value => cases step <;> rfl
  | list items => cases step <;> simp [child]
  | record fields =>
    cases step with
    | index i => simp [child]
    | key key => simp [child, lookup_shown hidden (plain key rfl)]

theorem reach_erase (tree : Tree κ ν) {path : List (Step κ)} (clear : Open hidden path) :
    (erase hidden tree).reach path = (tree.reach path).map (erase hidden) := by
  induction path generalizing tree with
  | nil => rfl
  | cons step rest ih =>
    have first := child_erase hidden tree step (fun key same => clear key (by simp [same]))
    have later : Open hidden rest := fun key member => clear key (List.mem_cons_of_mem _ member)
    rw [reach, reach, first]
    cases tree.child step with
    | none => rfl
    | some inner => exact ih inner later

end Paths

inductive Alike (hidden : κ → Prop) [DecidablePred hidden] : Tree κ ν → Tree κ ν → Prop where
  | leaf (value : ν) : Alike hidden (.leaf value) (.leaf value)
  | list {items items' : List (Tree κ ν)} :
      List.Forall₂ (Alike hidden) items items' → Alike hidden (.list items) (.list items')
  | record {fields fields' : List (κ × Tree κ ν)} :
      (shown hidden fields).map Prod.fst = (shown hidden fields').map Prod.fst →
      List.Forall₂ (Alike hidden) ((shown hidden fields).map Prod.snd)
        ((shown hidden fields').map Prod.snd) →
      Alike hidden (.record fields) (.record fields')

section Alike

variable {hidden : κ → Prop} [DecidablePred hidden]

theorem map_erase_eq {items items' : List (Tree κ ν)}
    (step : ∀ item ∈ items, ∀ item',
      erase hidden item = erase hidden item' ↔ Alike hidden item item') :
    items.map (erase hidden) = items'.map (erase hidden) ↔
      List.Forall₂ (Alike hidden) items items' := by
  induction items generalizing items' with
  | nil => cases items' <;> simp
  | cons item rest ih =>
    have tail := fun items' => @ih items' (fun inner member =>
      step inner (List.mem_cons_of_mem _ member))
    cases items' with
    | nil => simp
    | cons item' rest' => simp [step item (List.mem_cons_self ..), tail]

theorem map_fields_eq {fields fields' : List (κ × Tree κ ν)} :
    fields.map (Prod.map id (erase hidden)) = fields'.map (Prod.map id (erase hidden)) ↔
      fields.map Prod.fst = fields'.map Prod.fst ∧
        (fields.map Prod.snd).map (erase hidden) = (fields'.map Prod.snd).map (erase hidden) := by
  induction fields generalizing fields' with
  | nil => cases fields' <;> simp
  | cons field rest ih =>
    cases fields' with
    | nil => simp
    | cons field' rest' =>
      simp only [List.map_cons, List.cons.injEq, ih, Prod.map, Prod.mk.injEq, id]
      tauto

theorem erase_eq_iff (tree tree' : Tree κ ν) :
    erase hidden tree = erase hidden tree' ↔ Alike hidden tree tree' := by
  induction tree generalizing tree' with
  | leaf value =>
    constructor
    · intro same
      cases tree' with
      | leaf value' => simp at same; subst same; exact .leaf value
      | list items' => simp at same
      | record fields' => simp at same
    · intro alike
      cases alike
      rfl
  | list items ih =>
    constructor
    · intro same
      cases tree' with
      | leaf value' => simp at same
      | list items' => exact .list ((map_erase_eq ih).mp (by simpa using same))
      | record fields' => simp at same
    · intro alike
      cases alike with
      | list pairs => simpa using (map_erase_eq ih).mpr pairs
  | record fields ih =>
    have kept : ∀ inner ∈ (shown hidden fields).map Prod.snd, ∀ inner',
        erase hidden inner = erase hidden inner' ↔ Alike hidden inner inner' := by
      intro inner member
      obtain ⟨field, present, rfl⟩ := List.mem_map.mp member
      exact ih field ((mem_shown hidden).mp present).1
    constructor
    · intro same
      cases tree' with
      | leaf value' => simp at same
      | list items' => simp at same
      | record fields' =>
        simp only [erase_record, record.injEq] at same
        obtain ⟨keys, values⟩ := map_fields_eq.mp same
        exact .record keys ((map_erase_eq kept).mp values)
    · intro alike
      cases alike with
      | record keys values =>
        simp only [erase_record, record.injEq]
        exact map_fields_eq.mpr ⟨keys, (map_erase_eq kept).mpr values⟩

end Alike

end Tree

end ErpBackend.Foundation
