import ErpBackend.Foundation.Written
import ErpBackend.Replays.Rendering

/-!
# JSON texts

The strings, numbers, lists and objects of a canonical text are read back one by one.
-/

namespace ErpBackend.Replays

open Foundation

def jsonMark (c : Char) : Prop := c = ',' ∨ c = '\x7d' ∨ c = ']'

def hexValue (c : Char) : Nat := if c.isDigit then c.toNat - 48 else c.toNat - 87

def jsonUnescape : List Char → Option (Char × List Char)
  | '\\' :: 'u' :: _ :: _ :: high :: low :: rest =>
      some (Char.ofNat (16 * hexValue high + hexValue low), rest)
  | '\\' :: 'b' :: rest => some (Char.ofNat 8, rest)
  | '\\' :: 't' :: rest => some (Char.ofNat 9, rest)
  | '\\' :: 'n' :: rest => some (Char.ofNat 10, rest)
  | '\\' :: 'f' :: rest => some (Char.ofNat 12, rest)
  | '\\' :: 'r' :: rest => some (Char.ofNat 13, rest)
  | '\\' :: c :: rest => some (c, rest)
  | c :: rest => some (c, rest)
  | [] => none

theorem jsonUnescape_control (n : Nat) (small : n < 32) (rest : List Char) :
    jsonUnescape (jsonChar (Char.ofNat n) ++ rest) = some (Char.ofNat n, rest) := by
  interval_cases n <;> rfl

theorem jsonUnescape_jsonChar (c : Char) (rest : List Char) :
    jsonUnescape (jsonChar c ++ rest) = some (c, rest) := by
  by_cases small : c.toNat < 32
  · simpa using jsonUnescape_control c.toNat small rest
  · by_cases quote : c = '"'
    · subst quote
      rfl
    · by_cases slash : c = '\\'
      · subst slash
        rfl
      · have plainly : jsonChar c = [c] := by
          simp only [jsonChar, quote, slash, if_false, small]
          split_ifs <;> first | rfl | omega
        rw [plainly, List.singleton_append]
        unfold jsonUnescape
        split <;> simp_all

theorem jsonChar_begins (c : Char) : ∃ d tail, jsonChar c = d :: tail ∧ d ≠ '"' := by
  unfold jsonChar
  split_ifs <;> simp_all

theorem jsonText_same (text text' : List Char) (rest rest' : List Char)
    (same : text.flatMap jsonChar ++ '"' :: rest = text'.flatMap jsonChar ++ '"' :: rest') :
    text = text' ∧ rest = rest' := by
  induction text generalizing text' with
  | nil =>
    cases text' with
    | nil => exact ⟨rfl, by simpa using same⟩
    | cons d text' =>
      obtain ⟨e, tail, written, different⟩ := jsonChar_begins d
      simp only [List.flatMap_nil, List.nil_append, List.flatMap_cons, written, List.cons_append,
        List.cons.injEq] at same
      exact absurd same.1.symm different
  | cons c text ih =>
    cases text' with
    | nil =>
      obtain ⟨e, tail, written, different⟩ := jsonChar_begins c
      simp only [List.flatMap_nil, List.nil_append, List.flatMap_cons, written, List.cons_append,
        List.cons.injEq] at same
      exact absurd same.1 different
    | cons d text' =>
      rw [List.flatMap_cons, List.flatMap_cons, List.append_assoc, List.append_assoc] at same
      have read := congrArg jsonUnescape same
      rw [jsonUnescape_jsonChar, jsonUnescape_jsonChar, Option.some.injEq, Prod.mk.injEq] at read
      obtain ⟨others, rests⟩ := ih text' read.2
      exact ⟨by rw [read.1, others], rests⟩

theorem jsonString_toList (text : String) :
    (jsonString text).toList = '"' :: (text.toList.flatMap jsonChar ++ ['"']) := by
  simp [jsonString, String.toList_append]

theorem readable_string : Readable jsonMark (fun text => (jsonString text).toList) := by
  intro text text' rest rest' _ _ same
  simp only [jsonString_toList, List.cons_append, List.append_assoc, List.nil_append,
    List.cons.injEq, true_and] at same
  obtain ⟨texts, rests⟩ := jsonText_same _ _ _ _ same
  exact ⟨String.toList_injective texts, rests⟩

theorem plain_unmarked (c : Char) (plainly : plain c = true) : ¬ jsonMark c := by
  rintro (rfl | rfl | rfl) <;> exact absurd plainly (by decide)

theorem readable_nat : Readable jsonMark (fun n : Nat => (toString n).toList) :=
  .of_free (fun m n same => toString_injective m n (String.toList_injective same))
    (fun n c member => plain_unmarked c (plain_toString n c member))

theorem readable_amount : Readable jsonMark (fun n : Nat => (renderAmount n).toList) :=
  .of_free (fun m n same => renderAmount_injective m n (String.toList_injective same))
    (fun n c member => plain_unmarked c (plain_renderAmount n c member))

theorem readable_id : Readable jsonMark (fun id : Nat => (jsonString (toString id)).toList) :=
  readable_string.comp (fun id : Nat => toString id) toString_injective

theorem readable_cents {α : Type} (cents : α → Int) (nonneg : ∀ a, 0 ≤ cents a)
    (injective : ∀ a b, cents a = cents b → a = b) :
    Readable jsonMark (fun a => (renderAmount (cents a)).toList) := by
  have natural : (fun a => (renderAmount (cents a)).toList) =
      fun a => (renderAmount ((cents a).toNat : Nat)).toList := by
    funext a
    rw [Int.toNat_of_nonneg (nonneg a)]
  rw [natural]
  refine readable_amount.comp (fun a => (cents a).toNat) (fun a b same => injective a b ?_)
  have first := nonneg a
  have second := nonneg b
  omega

theorem readable_count :
    Readable jsonMark (fun count : Count => (toString count.value).toList) := by
  have natural : (fun count : Count => (toString count.value).toList) =
      fun count => (toString count.value.toNat).toList := by
    funext count
    obtain ⟨n, value⟩ := Int.eq_ofNat_of_zero_le count.positive.le
    rw [value]
    rfl
  rw [natural]
  refine readable_nat.comp (fun count : Count => count.value.toNat) (fun a b same => ?_)
  have first := a.positive
  have second := b.positive
  have values : a.value = b.value := by omega
  cases a
  cases b
  simpa using values

theorem amount_same (a b : Amount) (same : a.cents = b.cents) : a = b := by
  cases a
  cases b
  simpa using same

theorem money_same (a b : Money) (same : a.cents = b.cents) : a = b := by
  cases a
  cases b
  simpa using same

theorem null_toList (text : Option String) :
    (text.getD "null").toList = text.elim ('n' :: "ull".toList) String.toList := by
  cases text <;> rfl

theorem intercalate_items {α : Type} (write : α → String) (items : List α) :
    (String.intercalate "," (items.map write)).toList =
      writeItems ',' (fun a => (write a).toList) items := by
  have more : ∀ (first : String) (others : List α),
      (String.intercalate "," (first :: others.map write)).toList =
        first.toList ++ writeMore ',' (fun a => (write a).toList) others := by
    intro first others
    induction others generalizing first with
    | nil => simp [writeMore]
    | cons next others ih =>
      have later := ih (write next)
      simp only [String.toList_intercalate] at later ⊢
      simp [List.intercalate, writeMore] at later ⊢
      exact later
  cases items with
  | nil => rfl
  | cons first others => exact more (write first) others

theorem readable_strings : Readable jsonMark (fun texts => (jsonList texts).toList) := by
  have items := readable_string.items (.inl rfl : jsonMark ',') (.inr (.inr rfl) : jsonMark ']')
    (by decide) (fun text => ⟨'"', _, jsonString_toList text, by decide⟩)
  have written : (fun texts => (jsonList texts).toList) = fun texts =>
      '[' :: (writeItems ',' (fun text => (jsonString text).toList) texts ++ [']']) := by
    funext texts
    rw [jsonList, String.toList_append, String.toList_append, intercalate_items jsonString texts]
    rfl
  rw [written]
  exact items.after ['[']

end ErpBackend.Replays
