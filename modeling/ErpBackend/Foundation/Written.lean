import Mathlib

/-!
# Texts that are read back from the front

A writer is readable when what it writes can be told from whatever stands behind it, as long as
that begins with a mark the writer stops at. Readable writers are put together field by field
and item by item, and the text in the end is that of one value only.
-/

namespace ErpBackend.Foundation

variable {σ α β γ : Type} (stop : σ → Prop)

def Stops : List σ → Prop
  | [] => False
  | c :: _ => stop c

def Readable (write : α → List σ) : Prop :=
  ∀ a b rest rest', Stops stop rest → Stops stop rest' →
    write a ++ rest = write b ++ rest' → a = b ∧ rest = rest'

variable {stop}

theorem Stops.append {rest : List σ} (stops : Stops stop rest) (more : List σ) :
    Stops stop (rest ++ more) := by
  cases rest with
  | nil => exact stops.elim
  | cons c tail => exact stops

theorem marked_split (first first' rest rest' : List σ) (free : ∀ c ∈ first, ¬ stop c)
    (free' : ∀ c ∈ first', ¬ stop c) (stops : Stops stop rest) (stops' : Stops stop rest')
    (same : first ++ rest = first' ++ rest') : first = first' ∧ rest = rest' := by
  induction first generalizing first' with
  | nil =>
    cases first' with
    | nil => exact ⟨rfl, same⟩
    | cons c more =>
      rw [List.nil_append] at same
      subst same
      exact absurd stops (free' c (by simp))
  | cons c more ih =>
    cases first' with
    | nil =>
      rw [List.nil_append] at same
      subst same
      exact absurd stops' (free c (by simp))
    | cons d more' =>
      rw [List.cons_append, List.cons_append, List.cons.injEq] at same
      obtain ⟨equal, tails⟩ := ih more' (fun x member => free x (by simp [member]))
        (fun x member => free' x (by simp [member])) same.2
      exact ⟨by rw [same.1, equal], tails⟩

namespace Readable

variable {write : α → List σ}

theorem of_free (injective : ∀ a b, write a = write b → a = b)
    (free : ∀ a, ∀ c ∈ write a, ¬ stop c) : Readable stop write := by
  intro a b rest rest' stops stops' same
  obtain ⟨texts, tails⟩ := marked_split _ _ _ _ (free a) (free b) stops stops' same
  exact ⟨injective a b texts, tails⟩

theorem comp (readable : Readable stop write) (f : β → α)
    (injective : ∀ a b, f a = f b → a = b) : Readable stop (fun b => write (f b)) := by
  intro a b rest rest' stops stops' same
  obtain ⟨values, tails⟩ := readable _ _ _ _ stops stops' same
  exact ⟨injective a b values, tails⟩

theorem injective (readable : Readable stop write) (mark : σ)
    (marks : stop mark) (a b : α) (same : write a = write b) : a = b :=
  (readable a b [mark] [mark] marks marks (by rw [same])).1

theorem after (readable : Readable stop write) (lead : List σ) :
    Readable stop (fun a => lead ++ write a) := by
  intro a b rest rest' stops stops' same
  rw [List.append_assoc, List.append_assoc, List.append_cancel_left_eq] at same
  exact readable a b rest rest' stops stops' same

theorem andThen {others : β → List σ} (readable : Readable stop write)
    (readable' : Readable stop others) (between : List σ) (stops : Stops stop between) :
    Readable stop (fun fields : α × β => write fields.1 ++ (between ++ others fields.2)) := by
  intro a b rest rest' stopsRest stopsRest' same
  simp only [List.append_assoc] at same
  obtain ⟨first, tails⟩ := readable _ _ _ _ (stops.append _) (stops.append _) same
  rw [List.append_cancel_left_eq] at tails
  obtain ⟨second, rests⟩ := readable' _ _ _ _ stopsRest stopsRest' tails
  exact ⟨Prod.ext first second, rests⟩

theorem closed (readable : Readable stop write) (close : List σ)
    (stops : Stops stop close) : Readable stop (fun a => write a ++ close) := by
  intro a b rest rest' stopsRest stopsRest' same
  rw [List.append_assoc, List.append_assoc] at same
  obtain ⟨values, tails⟩ := readable _ _ _ _ (stops.append _) (stops.append _) same
  exact ⟨values, List.append_cancel_left_eq _ _ _ ▸ tails⟩

theorem option (readable : Readable stop write) (lead : σ)
    (missing : List σ) (others : ∀ a, ∃ c tail, write a = c :: tail ∧ c ≠ lead) :
    Readable stop (fun value : Option α => value.elim (lead :: missing) write) := by
  intro a b rest rest' stops stops' same
  cases a with
  | none =>
    cases b with
    | none => exact ⟨rfl, by simpa using same⟩
    | some value =>
      obtain ⟨c, tail, written, different⟩ := others value
      simp only [Option.elim, written, List.cons_append, List.cons.injEq] at same
      exact absurd same.1.symm different
  | some value =>
    cases b with
    | none =>
      obtain ⟨c, tail, written, different⟩ := others value
      simp only [Option.elim, written, List.cons_append, List.cons.injEq] at same
      exact absurd same.1 different
    | some value' =>
      obtain ⟨values, tails⟩ := readable value value' rest rest' stops stops' same
      exact ⟨congrArg some values, tails⟩

end Readable

def writeMore (sep : σ) (write : α → List σ) : List α → List σ
  | [] => []
  | a :: items => sep :: (write a ++ writeMore sep write items)

def writeItems (sep : σ) (write : α → List σ) : List α → List σ
  | [] => []
  | a :: items => write a ++ writeMore sep write items

theorem writeMore_map (sep : σ) (write : β → List σ) (f : α → β) (items : List α) :
    writeMore sep write (items.map f) = writeMore sep (fun a => write (f a)) items := by
  induction items with
  | nil => rfl
  | cons a items ih => simp [writeMore, ih]

theorem writeItems_map (sep : σ) (write : β → List σ) (f : α → β) (items : List α) :
    writeItems sep write (items.map f) = writeItems sep (fun a => write (f a)) items := by
  cases items with
  | nil => rfl
  | cons a items => simp [writeItems, writeMore_map]

theorem writeMore_stops {sep close : σ} {write : α → List σ} (separates : stop sep)
    (closes : stop close) (items : List α) (rest : List σ) :
    Stops stop (writeMore sep write items ++ close :: rest) := by
  cases items with
  | nil => exact closes
  | cons a items => exact separates

theorem writeMore_same {sep close : σ} {write : α → List σ} (readable : Readable stop write)
    (separates : stop sep) (closes : stop close) (apart : sep ≠ close) (items items' : List α)
    (rest rest' : List σ)
    (same : writeMore sep write items ++ close :: rest =
      writeMore sep write items' ++ close :: rest') : items = items' ∧ rest = rest' := by
  induction items generalizing items' with
  | nil =>
    cases items' with
    | nil => exact ⟨rfl, by simpa [writeMore] using same⟩
    | cons b items' =>
      simp only [writeMore, List.nil_append, List.cons_append, List.cons.injEq] at same
      exact absurd same.1.symm apart
  | cons a items ih =>
    cases items' with
    | nil =>
      simp only [writeMore, List.nil_append, List.cons_append, List.cons.injEq] at same
      exact absurd same.1 apart
    | cons b items' =>
      simp only [writeMore, List.cons_append, List.cons.injEq, List.append_assoc] at same
      obtain ⟨values, tails⟩ := readable a b _ _ (writeMore_stops separates closes items rest)
        (writeMore_stops separates closes items' rest') same.2
      obtain ⟨others, rests⟩ := ih items' tails
      exact ⟨by rw [values, others], rests⟩

theorem Readable.items {sep close : σ} {write : α → List σ} (readable : Readable stop write)
    (separates : stop sep) (closes : stop close) (apart : sep ≠ close)
    (others : ∀ a, ∃ c tail, write a = c :: tail ∧ c ≠ close) :
    Readable stop (fun items => writeItems sep write items ++ [close]) := by
  intro items items' rest rest' _ _ same
  simp only [List.append_assoc, List.singleton_append] at same
  cases items with
  | nil =>
    cases items' with
    | nil => exact ⟨rfl, by simpa [writeItems] using same⟩
    | cons b items' =>
      obtain ⟨c, tail, written, different⟩ := others b
      simp only [writeItems, written, List.nil_append, List.cons_append, List.cons.injEq] at same
      exact absurd same.1.symm different
  | cons a items =>
    cases items' with
    | nil =>
      obtain ⟨c, tail, written, different⟩ := others a
      simp only [writeItems, written, List.nil_append, List.cons_append, List.cons.injEq] at same
      exact absurd same.1 different
    | cons b items' =>
      simp only [writeItems, List.append_assoc] at same
      obtain ⟨values, tails⟩ := readable a b _ _ (writeMore_stops separates closes items rest)
        (writeMore_stops separates closes items' rest') same
      obtain ⟨others, rests⟩ := writeMore_same readable separates closes apart items items'
        rest rest' tails
      exact ⟨by rw [values, others], rests⟩

end ErpBackend.Foundation
