import ErpBackend.Common

/-!
# Trimming

What `trim` leaves, and that leaving it alone changes nothing.
-/

namespace ErpBackend

variable (text : List Char)

theorem trimChars_eq :
    trimChars text = (text.dropWhile jsSpace).rdropWhile jsSpace := rfl

theorem mem_trimChars (c : Char) (member : c ∈ trimChars text) : c ∈ text :=
  (List.dropWhile_sublist _).subset
    ((List.rdropWhile_prefix jsSpace _).subset (trimChars_eq text ▸ member))

theorem trimChars_idempotent : trimChars (trimChars text) = trimChars text := by
  have outer : (trimChars text).rdropWhile jsSpace = trimChars text :=
    List.rdropWhile_idempotent ..
  have inner : (trimChars text).dropWhile jsSpace = trimChars text := by
    cases start : trimChars text with
    | nil => rfl
    | cons head rest =>
        have front : (head :: rest) <+: text.dropWhile jsSpace :=
          start ▸ List.rdropWhile_prefix jsSpace _
        have solid : jsSpace head = false := by
          obtain ⟨more, same⟩ := front
          cases blank : jsSpace head with
          | false => rfl
          | true =>
              have again := List.dropWhile_idempotent (p := jsSpace) (l := text)
              rw [← same] at again
              simp [blank] at again
              have shorter := congrArg List.length again
              have bound := (List.dropWhile_sublist (p := jsSpace) (l := rest ++ more)).length_le
              simp at shorter bound
              omega
        simp [solid]
  conv_lhs => rw [trimChars_eq, inner]
  exact outer

theorem trimChars_solid (solid : ∀ c ∈ text, jsSpace c = false) :
    trimChars text = text := by
  have front : ∀ l : List Char, (∀ c ∈ l, jsSpace c = false) → l.dropWhile jsSpace = l := by
    intro l none
    cases l with
    | nil => rfl
    | cons head rest => simp [none head (List.mem_cons_self ..)]
  unfold trimChars
  rw [front text solid, front text.reverse (fun c member => solid c (List.mem_reverse.mp member)),
    List.reverse_reverse]

theorem trimOrNull_some (text : String) :
    trimOrNull (some text) = if trim text = "" then none else some (trim text) := by
  have empty : (trimChars text.toList).isEmpty = true ↔ trim text = "" := by
    unfold trim
    rw [List.isEmpty_iff, ← String.toList_eq_nil_iff, String.toList_ofList]
  unfold trimOrNull
  by_cases gone : trim text = ""
  · rw [if_pos gone, if_pos (show blank (some text) = true from empty.mpr gone)]
  · rw [if_neg gone, if_neg (show ¬blank (some text) = true from fun all => gone (empty.mp all))]
    rfl

theorem trimOrNull_eq (a b : Option String) :
    trimOrNull a = trimOrNull b ↔ trim (a.getD "") = trim (b.getD "") := by
  have none_ : trim "" = "" := by decide
  have stored : ∀ text, trimOrNull text =
      if trim (text.getD "") = "" then none else some (trim (text.getD "")) := by
    intro text
    cases text with
    | none => simp [none_, trimOrNull, blank]
    | some text => exact trimOrNull_some text
  rw [stored, stored]
  by_cases gone : trim (a.getD "") = "" <;> by_cases gone' : trim (b.getD "") = "" <;> grind

theorem trim_trim (text : String) : trim (trim text) = trim text := by
  unfold trim
  rw [String.toList_ofList, trimChars_idempotent]

theorem filter_trimChars (p : Char → Bool) (drops : ∀ c, jsSpace c = true → p c = false)
    (text : List Char) : (trimChars text).filter p = text.filter p := by
  have front : ∀ l : List Char, (l.dropWhile jsSpace).filter p = l.filter p := by
    intro l
    induction l with
    | nil => rfl
    | cons c rest ih =>
      cases blank : jsSpace c with
      | true => simp [blank, drops c blank, ih]
      | false => simp [blank]
  rw [trimChars, List.filter_reverse, front, List.filter_reverse, List.reverse_reverse, front]

end ErpBackend
