import ErpBackend.Imports.RowValidation
import ErpBackend.Trimming

/-!
# Written numbers

What `parseNumber` reads of an amount that was written out: in one of three scripts, its
thousands grouped or not, with a decimal mark and a currency word. The digits are taken
from the last to the first, as the groups are counted.
-/

namespace ErpBackend.Imports

open Foundation

section Groups

variable {α β : Type}

def group (mark : α) : List α → List α
  | a :: b :: c :: d :: rest => a :: b :: c :: mark :: group mark (d :: rest)
  | short => short

theorem group_map (f : α → β) (mark : α) (l : List α) :
    group (f mark) (l.map f) = (group mark l).map f := by
  fun_induction group mark l with
  | case1 a b c d rest ih =>
    simp only [List.map_cons, group] at ih ⊢
    rw [ih]
  | case2 short none =>
    match short with
    | [] | [_] | [_, _] | [_, _, _] => rfl
    | a :: b :: c :: d :: rest => exact absurd rfl (none a b c d rest)

theorem filter_group (p : α → Bool) (mark : α) (l : List α) (dropped : p mark = false) :
    (group mark l).filter p = l.filter p := by
  fun_induction group mark l with
  | case1 a b c d rest ih =>
    simp only [List.filter_cons, dropped, Bool.false_eq_true, if_false] at ih ⊢
    rw [ih]
  | case2 short none => rfl

theorem mem_group (mark : α) (l : List α) (x : α) (member : x ∈ group mark l) :
    x ∈ l ∨ x = mark := by
  fun_induction group mark l with
  | case1 a b c d rest ih =>
    simp only [List.mem_cons] at member ih ⊢
    tauto
  | case2 short none => exact .inl member

theorem takeWhile_group [DecidableEq α] (mark : α) (l : List α) (apart : mark ∉ l)
    (marked : mark ∈ group mark l) :
    ((group mark l).takeWhile (· ≠ mark)).length = 3 := by
  fun_induction group mark l with
  | case1 a b c d rest ih =>
    simp only [List.mem_cons, not_or] at apart
    obtain ⟨first, second, third, -⟩ := apart
    simp [Ne.symm first, Ne.symm second, Ne.symm third]
  | case2 short none => exact absurd marked apart

end Groups

inductive Script where
  | latin
  | arabicIndic
  | persian
  deriving DecidableEq

def Script.zero : Script → Nat
  | .latin => 48
  | .arabicIndic => 0x660
  | .persian => 0x6f0

def Script.digit (script : Script) (d : Nat) : Char := Char.ofNat (script.zero + d)

theorem asciiDigit_digit (script : Script) (d : Nat) (single : d < 10) :
    asciiDigit (script.digit d) = Script.latin.digit d := by
  cases script <;> interval_cases d <;> decide +kernel

theorem latin_toNat (d : Nat) (single : d < 10) : (Script.latin.digit d).toNat = 48 + d := by
  interval_cases d <;> rfl

theorem latin_isDigit (d : Nat) (single : d < 10) : (Script.latin.digit d).isDigit = true := by
  interval_cases d <;> rfl

def latins (ds : List Nat) : List Char := ds.map Script.latin.digit

theorem mem_latins (ds : List Nat) (single : ∀ d ∈ ds, d < 10) (c : Char) (member : c ∈ latins ds) :
    c.isDigit = true := by
  obtain ⟨d, listed, rfl⟩ := List.mem_map.mp member
  exact latin_isDigit d (single d listed)

theorem digitsValue_latins (ds : List Nat) (single : ∀ d ∈ ds, d < 10) :
    digitsValue (latins ds).reverse = Nat.ofDigits 10 ds := by
  rw [digitsValue, List.foldl_reverse]
  induction ds with
  | nil => rfl
  | cons d rest ih =>
    have inner := ih (fun e member => single e (List.mem_cons_of_mem _ member))
    rw [latins, List.map_cons, List.foldr_cons, Nat.ofDigits_cons]
    rw [latins] at inner
    rw [inner, latin_toNat d (single d List.mem_cons_self)]
    rw [Nat.add_sub_cancel_left, Nat.add_comm]

theorem replaceFirst_append (mark new : Char) (a b : List Char) (apart : mark ∉ a) :
    replaceFirst mark new (a ++ mark :: b) = a ++ new :: b := by
  induction a with
  | nil => simp [replaceFirst]
  | cons c rest ih =>
    rw [List.mem_cons, not_or] at apart
    rw [List.cons_append, replaceFirst, if_neg (Ne.symm apart.1), ih apart.2, List.cons_append]

theorem afterLast_reverse (mark : Char) (l : List Char) :
    afterLast mark l.reverse = (l.takeWhile (· ≠ mark)).length := by
  rw [afterLast, List.reverse_reverse]

section Shapes

variable {ds dd : List Nat}

theorem not_mem_latins (single : ∀ d ∈ ds, d < 10) (mark : Char) (other : mark.isDigit = false) :
    mark ∉ latins ds := by
  intro member
  rw [mem_latins ds single mark member] at other
  cases other

theorem decimal_digit (c : Char) (rest : List Char) (digit : c.isDigit = true) :
    decimal (c :: rest) = unsigned (c :: rest) := by
  rw [decimal]
  · exact fun same => by cases same
  · intro tail same
    cases same
    exact absurd digit (by decide)

theorem pointless (single : ∀ d ∈ ds, d < 10) : ∀ c ∈ (latins ds).reverse, (c ≠ '.') := by
  rintro c member rfl
  exact not_mem_latins single '.' (by decide) (List.mem_reverse.mp member)

theorem decimal_whole (single : ∀ d ∈ ds, d < 10) (some : ds ≠ []) :
    decimal (latins ds).reverse = .some ⟨(Nat.ofDigits 10 ds : Nat), 0⟩ := by
  have value := digitsValue_latins ds single
  have written : (latins ds).reverse ≠ [] := by simpa [latins] using some
  have all : ∀ c ∈ (latins ds).reverse, c.isDigit = true :=
    fun c member => mem_latins ds single c (List.mem_reverse.mp member)
  have pointless := pointless single
  generalize (latins ds).reverse = text at value written all pointless
  have whole : text.takeWhile (· ≠ '.') = text :=
    List.takeWhile_eq_self_iff.mpr (fun c member => decide_eq_true (pointless c member))
  have fraction : text.dropWhile (· ≠ '.') = [] :=
    List.dropWhile_eq_nil_iff.mpr (fun c member => decide_eq_true (pointless c member))
  have read : unsigned text = .some ⟨(Nat.ofDigits 10 ds : Nat), 0⟩ := by
    rw [unsigned, whole, fraction]
    simp only [List.drop_nil, List.append_nil]
    rw [if_pos ⟨written, List.all_eq_true.mpr all⟩, value]
    rfl
  match text, written with
  | c :: rest, _ => rw [decimal_digit c rest (all c List.mem_cons_self), read]

theorem decimal_point (single : ∀ d ∈ ds, d < 10) (some : ds ≠ []) (cents : ∀ d ∈ dd, d < 10) :
    decimal ((latins ds).reverse ++ '.' :: (latins dd).reverse) =
      .some ⟨(Nat.ofDigits 10 (dd ++ ds) : Nat), dd.length⟩ := by
  have both : ∀ d ∈ dd ++ ds, d < 10 := by
    intro d member
    rcases List.mem_append.mp member with right | left
    · exact cents d right
    · exact single d left
  have value := digitsValue_latins (dd ++ ds) both
  rw [latins, List.map_append, List.reverse_append] at value
  change digitsValue ((latins ds).reverse ++ (latins dd).reverse) = _ at value
  have written : (latins ds).reverse ≠ [] := by simpa [latins] using some
  have all : ∀ c ∈ (latins ds).reverse ++ (latins dd).reverse, c.isDigit = true := by
    intro c member
    rcases List.mem_append.mp member with left | right
    · exact mem_latins ds single c (List.mem_reverse.mp left)
    · exact mem_latins dd cents c (List.mem_reverse.mp right)
  have length : (latins dd).reverse.length = dd.length := by simp [latins]
  have pointless := pointless single
  generalize (latins ds).reverse = left at value written all pointless
  generalize (latins dd).reverse = right at value all length
  have read : unsigned (left ++ '.' :: right) =
      .some ⟨(Nat.ofDigits 10 (dd ++ ds) : Nat), dd.length⟩ := by
    have whole : (left ++ '.' :: right).takeWhile (· ≠ '.') = left := by
      rw [List.takeWhile_append_of_pos (fun c member => decide_eq_true (pointless c member))]
      simp
    have fraction : (left ++ '.' :: right).dropWhile (· ≠ '.') = '.' :: right := by
      rw [List.dropWhile_append_of_pos (fun c member => decide_eq_true (pointless c member))]
      simp
    rw [unsigned, whole, fraction]
    rw [List.drop_one, List.tail_cons]
    rw [if_pos ⟨by simp [written], List.all_eq_true.mpr all⟩, value, length]
  match left, written with
  | c :: rest, _ =>
    rw [List.cons_append, decimal_digit c _ (all c (by simp)), ← List.cons_append, read]

-- Texts are given from the last character to the first.

theorem mem_grouped (mark : Char) (c : Char) (member : c ∈ group mark (latins ds)) :
    c ∈ latins ds ∨ c = mark :=
  mem_group mark (latins ds) c member

theorem grouped_filter (single : ∀ d ∈ ds, d < 10) (mark : Char) (other : mark.isDigit = false) :
    (group mark (latins ds)).filter (· ≠ mark) = latins ds := by
  rw [filter_group _ mark (latins ds) (by simp)]
  apply List.filter_eq_self.mpr
  rintro c member
  refine decide_eq_true ?_
  rintro rfl
  exact not_mem_latins single c other member

theorem latins_filter (single : ∀ d ∈ ds, d < 10) (mark : Char) (other : mark.isDigit = false) :
    (latins ds).filter (· ≠ mark) = latins ds := by
  apply List.filter_eq_self.mpr
  rintro c member
  refine decide_eq_true ?_
  rintro rfl
  exact not_mem_latins single c other member

theorem separators_whole (single : ∀ d ∈ ds, d < 10) :
    separators (latins ds).reverse = (latins ds).reverse := by
  have none : ',' ∉ (latins ds).reverse := fun member =>
    not_mem_latins single ',' (by decide) (List.mem_reverse.mp member)
  rw [separators, if_neg (fun both => none both.1), if_neg none]

theorem separators_point (single : ∀ d ∈ ds, d < 10) (cents : ∀ d ∈ dd, d < 10) :
    separators (latins dd ++ '.' :: latins ds).reverse =
      (latins ds).reverse ++ '.' :: (latins dd).reverse := by
  have none : ',' ∉ (latins dd ++ '.' :: latins ds).reverse := by
    simp [not_mem_latins single ',' (by decide), not_mem_latins cents ',' (by decide)]
  rw [separators, if_neg (fun both => none both.1), if_neg none]
  simp

theorem separators_comma (single : ∀ d ∈ ds, d < 10) (cents : ∀ d ∈ dd, d < 10)
    (two : dd.length = 2) :
    separators (latins dd ++ ',' :: latins ds).reverse =
      (latins ds).reverse ++ '.' :: (latins dd).reverse := by
  have none : '.' ∉ (latins dd ++ ',' :: latins ds).reverse := by
    simp [not_mem_latins single '.' (by decide), not_mem_latins cents '.' (by decide)]
  have some : ',' ∈ (latins dd ++ ',' :: latins ds).reverse := by simp
  have behind : afterLast ',' (latins dd ++ ',' :: latins ds).reverse = 2 := by
    rw [afterLast_reverse, List.takeWhile_append_of_pos]
    · simp [latins, two]
    · rintro c member
      refine decide_eq_true ?_
      rintro rfl
      exact not_mem_latins cents ',' (by decide) member
  rw [separators, if_neg (fun both => none both.2), if_pos some, behind, if_neg (by decide)]
  rw [List.reverse_append, List.reverse_cons, List.append_assoc, List.singleton_append]
  apply replaceFirst_append
  exact fun member => not_mem_latins single ',' (by decide) (List.mem_reverse.mp member)

theorem separators_grouped (single : ∀ d ∈ ds, d < 10) :
    separators (group ',' (latins ds)).reverse = (latins ds).reverse := by
  have comma := not_mem_latins single ',' (by decide)
  have none : '.' ∉ (group ',' (latins ds)).reverse := by
    intro member
    rcases mem_grouped ',' '.' (List.mem_reverse.mp member) with digit | same
    · exact not_mem_latins single '.' (by decide) digit
    · exact absurd same (by decide)
  rw [separators, if_neg (fun both => none both.2)]
  have filtered : (group ',' (latins ds)).reverse.filter (· ≠ ',') = (latins ds).reverse := by
    rw [List.filter_reverse, grouped_filter single ',' (by decide)]
  split
  · next marked =>
    rw [afterLast_reverse, takeWhile_group ',' _ comma (List.mem_reverse.mp marked), if_pos rfl,
      filtered]
  · next unmarked =>
    rw [← filtered]
    refine (List.filter_eq_self.mpr (fun c member => decide_eq_true ?_)).symm
    rintro rfl
    exact unmarked member

theorem group_unmarked (single : ∀ d ∈ ds, d < 10) (mark : Char) (other : mark.isDigit = false)
    (unmarked : mark ∉ group mark (latins ds)) : group mark (latins ds) = latins ds := by
  have whole : (group mark (latins ds)).filter (· ≠ mark) = group mark (latins ds) := by
    refine List.filter_eq_self.mpr (fun c member => decide_eq_true ?_)
    rintro rfl
    exact unmarked member
  exact whole.symm.trans (grouped_filter single mark other)

theorem afterLast_both (mark point : Char) (apart : mark ≠ point) (other : mark.isDigit = false)
    (decimal : point.isDigit = false) (single : ∀ d ∈ ds, d < 10) (cents : ∀ d ∈ dd, d < 10)
    (two : dd.length = 2) (marked : mark ∈ group mark (latins ds)) :
    afterLast point (latins dd ++ point :: group mark (latins ds)).reverse = 2 ∧
      afterLast mark (latins dd ++ point :: group mark (latins ds)).reverse = 6 := by
  have grouped := takeWhile_group mark _ (not_mem_latins single mark other) marked
  have none : ∀ c : Char, c.isDigit = false → ∀ d ∈ latins dd, decide (d ≠ c) = true := by
    rintro c letter d member
    refine decide_eq_true ?_
    rintro rfl
    exact not_mem_latins cents d letter member
  constructor
  · rw [afterLast_reverse, List.takeWhile_append_of_pos (none point decimal)]
    simp [latins, two]
  · rw [afterLast_reverse, List.takeWhile_append_of_pos (none mark other),
      List.takeWhile_cons_of_pos (by simpa using apart.symm), List.length_append, List.length_cons,
      grouped]
    simp [latins, two]

theorem separators_both (mark point : Char) (kinds : mark = ',' ∧ point = '.' ∨
      mark = '.' ∧ point = ',') (single : ∀ d ∈ ds, d < 10) (cents : ∀ d ∈ dd, d < 10)
    (two : dd.length = 2) :
    separators (latins dd ++ point :: group mark (latins ds)).reverse =
      (latins ds).reverse ++ '.' :: (latins dd).reverse := by
  have other : mark.isDigit = false := by rcases kinds with ⟨rfl, -⟩ | ⟨rfl, -⟩ <;> decide
  have decimal : point.isDigit = false := by rcases kinds with ⟨-, rfl⟩ | ⟨-, rfl⟩ <;> decide
  have apart : mark ≠ point := by rcases kinds with ⟨rfl, rfl⟩ | ⟨rfl, rfl⟩ <;> decide
  by_cases marked : mark ∈ group mark (latins ds)
  · obtain ⟨behind, before⟩ := afterLast_both mark point apart other decimal single cents two marked
    have both : ',' ∈ (latins dd ++ point :: group mark (latins ds)).reverse ∧
        '.' ∈ (latins dd ++ point :: group mark (latins ds)).reverse := by
      rcases kinds with ⟨rfl, rfl⟩ | ⟨rfl, rfl⟩
      · exact ⟨by simp [marked], by simp⟩
      · exact ⟨by simp, by simp [marked]⟩
    have filtered : (latins dd ++ point :: group mark (latins ds)).reverse.filter (· ≠ mark) =
        (latins ds).reverse ++ point :: (latins dd).reverse := by
      rw [List.filter_reverse, List.filter_append, List.filter_cons_of_pos (by
        simpa using apart.symm), grouped_filter single mark other, latins_filter cents mark other]
      simp
    have replaced : replaceFirst point '.' ((latins ds).reverse ++ point :: (latins dd).reverse) =
        (latins ds).reverse ++ '.' :: (latins dd).reverse := by
      apply replaceFirst_append
      exact fun member => not_mem_latins single point decimal (List.mem_reverse.mp member)
    rw [separators, if_pos both]
    rcases kinds with ⟨rfl, rfl⟩ | ⟨rfl, rfl⟩
    · rw [behind, before, if_neg (by decide), filtered, replaced]
    · rw [behind, before, if_pos (by decide), filtered, replaced]
  · rw [group_unmarked single mark other marked]
    rcases kinds with ⟨-, rfl⟩ | ⟨-, rfl⟩
    · exact separators_point single cents
    · exact separators_comma single cents two

end Shapes

def significant (c : Char) : Bool := c.isDigit || c = '.' || c = ',' || c = '-'

theorem space_code (c : Char) (blank : jsSpace c = true) :
    c.toNat ≤ 32 ∨ c.toNat = 160 ∨ 5760 ≤ c.toNat := by
  rw [jsSpace, Bool.or_eq_true, decide_eq_true_eq, Bool.and_eq_true, decide_eq_true_eq] at blank
  rcases blank with listed | ⟨low, -⟩
  · have code : c.toNat ∈ [9, 10, 11, 12, 13, 32, 160, 5760, 8232, 8233, 8239, 8287,
      12288, 65279] :=
      List.mem_map_of_mem (f := UInt32.toNat) listed
    simp only [List.mem_cons, List.not_mem_nil, or_false] at code
    omega
  · have code : 8192 ≤ c.toNat := UInt32.le_iff_toNat_le.mp low
    omega

theorem asciiDigit_of_space (c : Char) (blank : jsSpace c = true) : asciiDigit c = c := by
  have code := space_code c blank
  rw [asciiDigit, if_neg (by omega), if_neg (by omega)]

structure QuietMark where
  char : Char
  quiet : jsSpace char = true ∨ char.toNat = 0x27 ∨ char.toNat = 0x66c

theorem significant_not_quiet (c : Char) (counts : significant c = true) :
    jsSpace c = false ∧ c.toNat ≠ 0x27 ∧ c.toNat ≠ 0x66c := by
  simp only [significant, Bool.or_eq_true, decide_eq_true_eq] at counts
  rcases counts with ((digit | rfl) | rfl) | rfl
  · have bounds : 48 ≤ c.toNat ∧ c.toNat ≤ 57 := by
      simpa [Char.isDigit, UInt32.le_iff_toNat_le] using digit
    refine ⟨?_, by omega, by omega⟩
    rw [Bool.eq_false_iff]
    intro blank
    have code := space_code c blank
    omega
  · decide
  · decide
  · decide

theorem QuietMark.dropped (mark : QuietMark) : significant (asciiDigit mark.char) = false := by
  rcases mark with ⟨c, quiet⟩
  have same : asciiDigit c = c := by
    rcases quiet with blank | apostrophe | thousands
    · exact asciiDigit_of_space c blank
    · rw [asciiDigit, if_neg (by omega), if_neg (by omega)]
    · rw [asciiDigit, if_neg (by omega), if_neg (by omega)]
  rw [Bool.eq_false_iff]
  intro counts
  have loud := significant_not_quiet _ counts
  dsimp only at loud
  rw [same] at loud
  rcases quiet with blank | apostrophe | thousands
  · rw [loud.1] at blank
    cases blank
  · exact loud.2.1 apostrophe
  · exact loud.2.2 thousands

theorem numberText_eq (raw : List Char) :
    numberText raw = (raw.map asciiDigit).filter significant := by
  have drops : ∀ c, jsSpace c = true → (significant ∘ asciiDigit) c = false := by
    intro c blank
    exact (QuietMark.mk c (.inl blank)).dropped
  have both : numberText raw = ((trimChars raw).map asciiDigit).filter significant := by
    rw [numberText, List.filter_filter]
    congr 1
    funext c
    cases counts : significant c with
    | true =>
      obtain ⟨solid, apostrophe, thousands⟩ := significant_not_quiet c counts
      unfold significant at counts
      simp [counts, solid, apostrophe, thousands]
    | false =>
      unfold significant at counts
      simp [counts]
  rw [both, List.filter_map, filter_trimChars _ drops, ← List.filter_map]

inductive DecimalMark where
  | dot
  | comma
  | arabic
  deriving DecidableEq

def DecimalMark.char : DecimalMark → Char
  | .dot => '.'
  | .comma => ','
  | .arabic => Char.ofNat 0x66b

/-- How the thousands are grouped, and where that leaves the choice, the decimal mark. -/
inductive Layout where
  | plain (decimal : DecimalMark)
  | quiet (mark : QuietMark) (decimal : DecimalMark)
  | commas
  | dots

def Layout.decimal : Layout → DecimalMark
  | .plain decimal => decimal
  | .quiet _ decimal => decimal
  | .commas => .dot
  | .dots => .comma

def Layout.grouped : Layout → List Char → List Char
  | .plain _, digits => digits
  | .quiet mark _, digits => group mark.char digits
  | .commas, digits => group ',' digits
  | .dots, digits => group '.' digits

/-- What follows an amount: anything without digits, separators and dashes. -/
structure CurrencyWord where
  letters : List Char
  silent : ∀ c ∈ letters, significant (asciiDigit c) = false

/-- An amount with zero or two decimals, written out. Dots group thousands where there are
decimals behind a comma. -/
structure Writing where
  whole : Nat
  decimals : Option (Fin 100)
  layout : Layout
  script : Script
  word : CurrencyWord
  dotted : layout = .dots → decimals ≠ none

def unitsFirst (n : Nat) : List Nat := if n = 0 then [0] else Nat.digits 10 n

def hundredths (cents : Fin 100) : List Nat := [cents.val % 10, cents.val / 10]

namespace Writing

variable (w : Writing)

def cents : Nat := 100 * w.whole + (w.decimals.map Fin.val).getD 0

/-- What stands behind the whole part, from the last character to the first. -/
def fraction : List Char :=
  match w.decimals with
  | none => []
  | some cents => (hundredths cents).map w.script.digit ++ [w.layout.decimal.char]

def text : String :=
  String.ofList ((w.fraction ++ w.layout.grouped ((unitsFirst w.whole).map w.script.digit)).reverse
    ++ w.word.letters)

end Writing

theorem unitsFirst_lt (n : Nat) : ∀ d ∈ unitsFirst n, d < 10 := by
  intro d member
  rw [unitsFirst] at member
  split at member
  · rw [List.mem_singleton.mp member]
    decide
  · exact Nat.digits_lt_base (by decide) member

theorem unitsFirst_ne (n : Nat) : unitsFirst n ≠ [] := by
  rw [unitsFirst]
  split
  · exact List.cons_ne_nil _ _
  · next some => exact Nat.digits_ne_nil_iff_ne_zero.mpr some

theorem ofDigits_unitsFirst (n : Nat) : Nat.ofDigits 10 (unitsFirst n) = n := by
  rw [unitsFirst]
  split
  · next none =>
    rw [none]
    rfl
  · exact Nat.ofDigits_digits 10 n

theorem hundredths_lt (cents : Fin 100) : ∀ d ∈ hundredths cents, d < 10 := by
  intro d member
  have bound := cents.isLt
  simp only [hundredths, List.mem_cons, List.not_mem_nil, or_false] at member
  omega

theorem ofDigits_hundredths (cents : Fin 100) (n : Nat) :
    Nat.ofDigits 10 (hundredths cents ++ unitsFirst n) = 100 * n + cents.val := by
  rw [Nat.ofDigits_append, ofDigits_unitsFirst, hundredths]
  simp only [Nat.ofDigits_cons, Nat.ofDigits_nil, List.length_cons, List.length_nil]
  have bound := cents.isLt
  omega

/-- The number there is for so many hundredths, and for no other: none is nearer to them, and it
is within half a hundredth. -/
structure Amount.Is (amount : Amount) (cents : Nat) : Prop where
  nearest : ∀ other : Double, amount.off cents 100 ≤ other.off cents 100
  told : 2 * amount.off cents 100 < Double.one

/-- `parseNumber` reads an amount of so many hundredths. -/
def ReadsAs (raw : String) (cents : Nat) : Prop :=
  ∃ amount, parseNumber (some raw) = some amount ∧ amount.Is cents

def Told (cents : Nat) : Prop := ∃ x : Double, 2 * x.off cents 100 < Double.one

section Told

theorem told_of_small (cents : Nat) (small : cents < 100 * 2 ^ 46) : Told cents := by
  have half := roundEven_half (cents * 2 ^ 7) 100 (by decide)
  generalize roundEven (cents * 2 ^ 7) 100 = digits at half
  unfold apart at half
  obtain ⟨place, finest⟩ : ∃ place, Double.finest = 7 + place :=
    ⟨1067, by unfold Double.finest; rfl⟩
  have unit : Double.one = 2 ^ 7 * 2 ^ place := by rw [Double.one, finest, Nat.pow_add]
  have low : place ≤ Double.top := by
    have := Double.finest_le_top
    omega
  refine ⟨⟨(digits * 2 ^ place : Nat), digits, place, by omega, low, Int.natAbs_natCast _⟩, ?_⟩
  have pos : 0 < 2 ^ place := Nat.two_pow_pos place
  unfold Double.off
  rw [unit]
  dsimp only
  generalize 2 ^ place = step at pos ⊢
  have scaled : ((digits * step : Nat) : Int) * (100 : Nat) - (cents : Int) * (2 ^ 7 * step : Nat) =
      step * ((digits * 100 : Nat) - (cents * 2 ^ 7 : Nat) : Int) := by
    push_cast
    ring
  rw [scaled, Int.natAbs_mul, Int.natAbs_natCast]
  calc 2 * (step * ((digits * 100 : Nat) - (cents * 2 ^ 7 : Nat) : Int).natAbs)
      = step * (2 * ((digits * 100 : Nat) - (cents * 2 ^ 7 : Nat) : Int).natAbs) := by ring
    _ ≤ step * 100 := Nat.mul_le_mul_left step half
    _ < 2 ^ 7 * step := by omega

variable {raw : String} {cents n d : Nat} {pos : 0 < d}

theorem off_scaled (x : Double) (k n d : Nat) :
    x.off (k * n : Nat) (k * d) = k * x.off n d := by
  have scaled : x.steps * (k * d : Nat) - (k * n : Nat) * Double.one =
      k * (x.steps * d - n * Double.one) := by
    push_cast
    ring
  unfold Double.off
  rw [scaled, Int.natAbs_mul, Int.natAbs_natCast]

theorem readsAs_iff_told (k : Nat) (places : k * d = 100) (same : k * n = cents)
    (parsed : parseNumber (some raw) = Double.nearest? n d pos) :
      ReadsAs raw cents ↔ Told cents := by
  have factor : 0 < k := by
    rcases Nat.eq_zero_or_pos k with rfl | some
    · omega
    · exact some
  have scaled : ∀ x : Double, x.off cents 100 = k * x.off n d := by
    intro x
    rw [← off_scaled, places, same]
  constructor
  · rintro ⟨amount, -, is⟩
    exact ⟨amount, is.told⟩
  · rintro ⟨other, near⟩
    have finite : Double.one ≤ d * 2 ^ Double.top := by
      calc Double.one = 2 ^ Double.finest := by rw [Double.one]
        _ ≤ 2 ^ Double.top := Nat.pow_le_pow_right (by decide) Double.finest_le_top
        _ ≤ d * 2 ^ Double.top := Nat.le_mul_of_pos_left _ pos
    have inner : other.off n d ≤ other.off cents 100 := by
      rw [scaled]
      exact Nat.le_mul_of_pos_left _ factor
    obtain ⟨x, read⟩ := Double.nearest?_finite (n := (n : Int)) pos other (by omega)
    have closest : ∀ other : Double, x.off cents 100 ≤ other.off cents 100 := by
      intro other
      rw [scaled, scaled]
      exact Nat.mul_le_mul_left k (Double.nearest?_closest read other)
    refine ⟨x, parsed.trans read, closest, ?_⟩
    have := closest other
    omega

theorem not_readsAs_hundredfold (some : cents ≠ 0)
    (parsed : parseNumber (.some raw) = Double.nearest? cents 1 Nat.one_pos) :
      ¬ReadsAs raw cents := by
  rintro ⟨amount, read, is⟩
  rw [parsed] at read
  obtain ⟨-, steps⟩ := Double.nearest?_some read
  rw [if_neg (by omega), Int.natAbs_natCast] at steps
  have unit : 0 < Double.one := by
    unfold Double.one
    exact Nat.two_pow_pos _
  have half := nearest_half 53 (cents * Double.one) 1 Nat.one_pos
  have place := lastPlace_le 52 (cents * Double.one) 1 (by
    rw [Nat.div_one]
    exact Nat.mul_ne_zero some unit.ne')
  have told := is.told
  unfold apart at half
  unfold Double.off at told
  rw [steps] at told
  unfold Double.magnitude at told
  have large : Double.one ≤ cents * Double.one := Nat.le_mul_of_pos_left _ (by omega)
  push_cast at told half
  generalize (nearest 53 (cents * Double.one) 1 : Nat) = read at told half
  generalize 2 ^ lastPlace 53 (cents * Double.one) 1 = step at half place
  omega

end Told

section Reading

variable {ds : List Nat}

theorem digits_ascii (single : ∀ d ∈ ds, d < 10) (script : Script) :
    (ds.map script.digit).map asciiDigit = latins ds := by
  rw [List.map_map, latins]
  exact List.map_congr_left (fun d member => asciiDigit_digit script d (single d member))

theorem latins_significant (single : ∀ d ∈ ds, d < 10) :
    (latins ds).filter significant = latins ds := by
  apply List.filter_eq_self.mpr
  intro c member
  simp [significant, mem_latins ds single c member]

def Layout.seen : Layout → List Char → List Char
  | .plain _, digits => digits
  | .quiet _ _, digits => digits
  | .commas, digits => group ',' digits
  | .dots, digits => group '.' digits

theorem loud_filter (single : ∀ d ∈ ds, d < 10) (mark : Char) (counts : significant mark = true) :
    (group mark (latins ds)).filter significant = group mark (latins ds) := by
  apply List.filter_eq_self.mpr
  intro c member
  rcases mem_grouped mark c member with digit | rfl
  · simp [significant, mem_latins ds single c digit]
  · exact counts

theorem grouped_seen (single : ∀ d ∈ ds, d < 10) (script : Script) (layout : Layout) :
    ((layout.grouped (ds.map script.digit)).map asciiDigit).filter significant =
      layout.seen (latins ds) := by
  have ascii := digits_ascii single script
  cases layout with
  | plain decimal => rw [Layout.grouped, ascii, latins_significant single, Layout.seen]
  | quiet mark decimal =>
    rw [Layout.grouped, ← group_map, ascii, filter_group _ _ _ mark.dropped,
      latins_significant single, Layout.seen]
  | commas =>
    rw [Layout.grouped, ← group_map, ascii, show asciiDigit ',' = ',' from rfl,
      loud_filter single ',' rfl, Layout.seen]
  | dots =>
    rw [Layout.grouped, ← group_map, ascii, show asciiDigit '.' = '.' from rfl,
      loud_filter single '.' rfl, Layout.seen]

def DecimalMark.seen : DecimalMark → List Char
  | .dot => ['.']
  | .comma => [',']
  | .arabic => []

variable (w : Writing)

theorem numberText_written :
    numberText w.text.toList = (match w.decimals with
      | none => w.layout.seen (latins (unitsFirst w.whole))
      | some cents => latins (hundredths cents) ++ w.layout.decimal.seen ++
          w.layout.seen (latins (unitsFirst w.whole))).reverse := by
  have word : (w.word.letters.map asciiDigit).filter significant = [] := by
    rw [List.filter_map, List.map_eq_nil_iff, List.filter_eq_nil_iff]
    intro c member
    rw [Function.comp_apply, w.word.silent c member]
    exact Bool.false_ne_true
  have mark : ([w.layout.decimal.char].map asciiDigit).filter significant =
      w.layout.decimal.seen := by
    cases w.layout.decimal <;> rfl
  have whole := grouped_seen (unitsFirst_lt w.whole) w.script w.layout
  rw [Writing.text, String.toList_ofList, numberText_eq, List.map_append, List.filter_append, word,
    List.append_nil, List.map_reverse, List.filter_reverse, List.map_append, List.filter_append,
    whole, Writing.fraction]
  cases w.decimals with
  | none => rfl
  | some cents =>
    dsimp only
    rw [List.map_append, List.filter_append, mark, digits_ascii (hundredths_lt cents),
      latins_significant (hundredths_lt cents)]

def Writing.ArabicPoint (w : Writing) : Prop :=
  w.decimals ≠ none ∧ w.layout.decimal = .arabic

theorem parseNumber_of (raw : String) (text : List Char) (amount : Decimal)
    (same : numberText raw.toList = text) (filled : text ≠ [])
    (read : decimal (separators text) = some amount) :
    parseNumber (some raw) = amount.double? := by
  subst same
  unfold parseNumber
  dsimp only
  rw [if_neg (by simpa using filled), number, read, Option.bind_some]

theorem reverse_ne {l : List Char} (filled : l ≠ []) : l.reverse ≠ [] := by simpa using filled

theorem latins_ne {ds : List Nat} (filled : ds ≠ []) : latins ds ≠ [] := by
  simpa [latins] using filled

theorem parseNumber_whole (none : w.decimals = none) :
    parseNumber (some w.text) = (Decimal.mk (w.whole : Nat) 0).double? := by
  have written := numberText_written w
  have single := unitsFirst_lt w.whole
  have filled := latins_ne (unitsFirst_ne w.whole)
  have whole := decimal_whole single (unitsFirst_ne w.whole)
  rw [ofDigits_unitsFirst] at whole
  rw [none] at written
  dsimp only at written
  have ungrouped : w.layout.seen (latins (unitsFirst w.whole)) = latins (unitsFirst w.whole) →
      parseNumber (some w.text) = (Decimal.mk (w.whole : Nat) 0).double? := by
    intro seen
    rw [seen] at written
    refine parseNumber_of _ _ _ written (reverse_ne filled) ?_
    rw [separators_whole single, whole]
  cases layout : w.layout with
  | plain decimal => exact ungrouped (by rw [layout]; rfl)
  | quiet mark decimal => exact ungrouped (by rw [layout]; rfl)
  | commas =>
    rw [layout] at written
    refine parseNumber_of _ _ _ written (reverse_ne ?_) ?_
    · intro empty
      rw [Layout.seen] at empty
      have digits := grouped_filter single ',' rfl
      rw [empty] at digits
      exact filled digits.symm
    · rw [Layout.seen, separators_grouped single, whole]
  | dots => exact absurd none (w.dotted layout)

theorem parseNumber_point (cents : Fin 100) (decimals : w.decimals = some cents)
    (told : w.layout.decimal ≠ .arabic) :
    parseNumber (some w.text) = (Decimal.mk (w.cents : Nat) 2).double? := by
  have written := numberText_written w
  have single := unitsFirst_lt w.whole
  have hundred := hundredths_lt cents
  have amount : w.cents = 100 * w.whole + cents.val := by
    rw [Writing.cents, decimals]
    rfl
  have point := decimal_point single (unitsFirst_ne w.whole) hundred
  rw [ofDigits_hundredths, ← amount] at point
  rw [decimals] at written
  dsimp only at written
  have shaped : ∀ text, numberText w.text.toList = text → text ≠ [] →
      separators text = (latins (unitsFirst w.whole)).reverse ++
        '.' :: (latins (hundredths cents)).reverse →
      parseNumber (some w.text) = (Decimal.mk (w.cents : Nat) 2).double? := by
    intro text same filled shape
    refine parseNumber_of _ _ _ same filled ?_
    rw [shape, point]
    rfl
  refine shaped _ written (reverse_ne (by simp [hundredths, latins])) ?_
  rw [List.append_assoc]
  cases layout : w.layout with
  | plain decimal =>
    rw [layout] at told
    cases decimal with
    | dot => exact separators_point single hundred
    | comma => exact separators_comma single hundred rfl
    | arabic => exact absurd rfl told
  | quiet mark decimal =>
    rw [layout] at told
    cases decimal with
    | dot => exact separators_point single hundred
    | comma => exact separators_comma single hundred rfl
    | arabic => exact absurd rfl told
  | commas => exact separators_both ',' '.' (.inl ⟨rfl, rfl⟩) single hundred rfl
  | dots => exact separators_both '.' ',' (.inr ⟨rfl, rfl⟩) single hundred rfl

theorem parseNumber_arabic (arabic : w.ArabicPoint) :
    parseNumber (some w.text) = (Decimal.mk (w.cents : Nat) 0).double? := by
  obtain ⟨written', mark⟩ := arabic
  obtain ⟨cents, decimals⟩ := Option.ne_none_iff_exists'.mp written'
  have written := numberText_written w
  have amount : w.cents = 100 * w.whole + cents.val := by
    rw [Writing.cents, decimals]
    rfl
  have single : ∀ d ∈ hundredths cents ++ unitsFirst w.whole, d < 10 := by
    intro d member
    rcases List.mem_append.mp member with right | left
    · exact hundredths_lt cents d right
    · exact unitsFirst_lt w.whole d left
  have ungrouped : w.layout.seen (latins (unitsFirst w.whole)) = latins (unitsFirst w.whole) := by
    cases layout : w.layout with
    | plain decimal => rfl
    | quiet sep decimal => rfl
    | commas =>
      rw [layout] at mark
      cases mark
    | dots =>
      rw [layout] at mark
      cases mark
  have together : latins (hundredths cents) ++ latins (unitsFirst w.whole) =
      latins (hundredths cents ++ unitsFirst w.whole) := (List.map_append ..).symm
  have filled : hundredths cents ++ unitsFirst w.whole ≠ [] := by simp [hundredths]
  have whole := decimal_whole single filled
  rw [ofDigits_hundredths, ← amount] at whole
  rw [decimals] at written
  dsimp only at written
  rw [mark, DecimalMark.seen, List.append_nil, ungrouped, together] at written
  refine parseNumber_of _ _ _ written (reverse_ne (latins_ne filled)) ?_
  rw [separators_whole single, whole]

/-- Every writing is read as its amount, exactly where a number tells the amount and no Arabic
decimal mark is written, or there is nothing to be read. -/
theorem reads_written_iff (w : Writing) :
    ReadsAs w.text w.cents ↔ (¬w.ArabicPoint ∧ Told w.cents) ∨ w.cents = 0 := by
  have nothing : Told 0 := told_of_small 0 (by decide)
  by_cases arabic : w.ArabicPoint
  · have read := parseNumber_arabic w arabic
    rcases eq_or_ne w.cents 0 with none | some
    · refine iff_of_true ?_ (.inr none)
      rw [none] at read ⊢
      exact (readsAs_iff_told 100 rfl rfl read).mpr nothing
    · refine iff_of_false (not_readsAs_hundredfold some read) ?_
      rintro (⟨unwritten, -⟩ | none)
      · exact unwritten arabic
      · exact some none
  · have told : ReadsAs w.text w.cents ↔ Told w.cents := by
      cases decimals : w.decimals with
      | none =>
        have cents : 100 * w.whole = w.cents := by
          rw [Writing.cents, decimals]
          rfl
        exact readsAs_iff_told 100 rfl cents (parseNumber_whole w decimals)
      | some cents =>
        have visible : w.layout.decimal ≠ .arabic := fun mark =>
          arabic ⟨by rw [decimals]; exact Option.some_ne_none cents, mark⟩
        exact readsAs_iff_told 1 rfl (Nat.one_mul _) (parseNumber_point w cents decimals visible)
    rw [told]
    constructor
    · exact fun holds => .inl ⟨arabic, holds⟩
    · rintro (⟨-, holds⟩ | none)
      · exact holds
      · rwa [none]

end Reading

def arabicPrice : Writing where
  whole := 12
  decimals := some 50
  layout := .plain .arabic
  script := .arabicIndic
  word := ⟨[], by simp⟩
  dotted := nofun

/-- The first whole number that is not a double, in digits alone. -/
def oddPrice : Writing where
  whole := 2 ^ 53 + 1
  decimals := none
  layout := .plain .dot
  script := .latin
  word := ⟨[], by simp⟩
  dotted := nofun

/-- With the Arabic mark twelve and a half is read as one thousand two hundred and fifty; and in
digits alone, what lies between two numbers is read as one of them, and what lies beyond all is not
read. -/
theorem arabic_decimal_unread :
    (arabicPrice.text = "١٢٫٥٠" ∧ arabicPrice.cents = 1250 ∧
      (parseNumber (some "١٢٫٥٠")).map Double.printed = some ⟨1250, 0⟩ ∧
        ¬ReadsAs arabicPrice.text arabicPrice.cents) ∧
    (oddPrice.text = "9007199254740993" ∧
      (parseNumber (some "9007199254740993")).map Double.printed = some ⟨9007199254740992, 0⟩ ∧
        ¬ReadsAs oddPrice.text oddPrice.cents) ∧
    parseNumber (some (String.ofList (List.replicate 309 '9'))) = none := by
  refine ⟨?_, ?_, by decide +kernel⟩
  · have text : arabicPrice.text = "١٢٫٥٠" := by decide +kernel
    have read : parseNumber (some "١٢٫٥٠") = (Decimal.mk 1250 0).double? := by decide +kernel
    refine ⟨text, rfl, by decide +kernel, ?_⟩
    rw [text]
    exact not_readsAs_hundredfold (by decide) read
  · have text : oddPrice.text = "9007199254740993" := by decide +kernel
    refine ⟨text, by decide +kernel, ?_⟩
    rintro ⟨amount, read, is⟩
    rw [text] at read
    have off : (parseNumber (some "9007199254740993")).all (fun amount =>
        Double.one ≤ 2 * amount.off oddPrice.cents 100) = true := by decide +kernel
    rw [read, Option.all_some, decide_eq_true_eq] at off
    exact absurd is.told (Nat.not_lt.mpr off)

end ErpBackend.Imports
