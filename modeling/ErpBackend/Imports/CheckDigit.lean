import ErpBackend.Purchasing.Rules
import ErpBackend.Imports.RowValidation

/-!
# The check digit of an IMEI

The import counts places from the right, the receiving side turns a flag over. The two checks
agree on every text, and a slip of one digit or of two neighbours does not pass.
-/

namespace ErpBackend.CheckDigit

open Purchasing (luhnSum isValidImei)
open Imports (luhnDigit)

def share (doubled : Bool) (digit : Nat) : Nat :=
  if doubled then (if 9 < digit * 2 then digit * 2 - 9 else digit * 2) else digit

variable (doubled : Bool)

@[simp] theorem luhnSum_nil : luhnSum doubled [] = 0 := by
  cases doubled <;> rfl

@[simp] theorem luhnSum_cons (digit : Nat) (rest : List Nat) :
    luhnSum doubled (digit :: rest) = share doubled digit + luhnSum (!doubled) rest := by
  cases doubled <;> rfl

theorem luhnDigit_eq (i digit : Nat) : luhnDigit i digit = share (decide (i % 2 = 1)) digit := by
  simp [luhnDigit, share]

theorem share_inj {x y : Nat} (hx : x < 10) (hy : y < 10)
    (same : share doubled x % 10 = share doubled y % 10) : x = y := by
  have pairs : ∀ doubled : Bool, ∀ x < 10, ∀ y < 10,
      share doubled x % 10 = share doubled y % 10 → x = y := by
    decide
  exact pairs doubled x hx y hy same

theorem share_swap {x y : Nat} (hx : x < 10) (hy : y < 10)
    (same : (share doubled x + share (!doubled) y) % 10 =
      (share doubled y + share (!doubled) x) % 10) :
    x = y ∨ x = 0 ∧ y = 9 ∨ x = 9 ∧ y = 0 := by
  have pairs : ∀ doubled : Bool, ∀ x < 10, ∀ y < 10,
      (share doubled x + share (!doubled) y) % 10 = (share doubled y + share (!doubled) x) % 10 →
        x = y ∨ x = 0 ∧ y = 9 ∨ x = 9 ∧ y = 0 := by
    decide
  exact pairs doubled x hx y hy same

theorem sum_luhnDigit (digits : List Char) (first : Nat) :
    ((digits.zipIdx first).map (fun (c, i) => luhnDigit i (c.toNat - 48))).sum =
      luhnSum (decide (first % 2 = 1)) (digits.map (fun c => c.toNat - 48)) := by
  induction digits generalizing first with
  | nil => simp
  | cons c rest ih =>
    have turned : decide ((first + 1) % 2 = 1) = !decide (first % 2 = 1) := by
      by_cases odd : first % 2 = 1
      · simp [odd]; omega
      · simp [odd]; omega
    simp only [List.zipIdx_cons, List.map_cons, List.sum_cons, luhnSum_cons, ih, turned]
    rw [luhnDigit_eq]

theorem luhnSum_append (before : List Nat) :
    ∃ flag, ∀ after,
      luhnSum doubled (before ++ after) = luhnSum doubled before + luhnSum flag after := by
  induction before generalizing doubled with
  | nil => exact ⟨doubled, fun after => by simp⟩
  | cons digit rest ih =>
    obtain ⟨flag, split⟩ := ih (!doubled)
    refine ⟨flag, fun after => ?_⟩
    simp only [List.cons_append, luhnSum_cons, split]
    omega

def value (c : Char) : Nat := c.toNat - '0'.toNat

def checkSum (digits : List Char) : Nat := luhnSum false (digits.reverse.map value)

theorem checkSum_place (before after : List Char) :
    ∃ flag others, ∀ c, checkSum (before ++ c :: after) = others + share flag (value c) := by
  obtain ⟨flag, split⟩ := luhnSum_append false (after.reverse.map value)
  refine ⟨flag, luhnSum false (after.reverse.map value) +
    luhnSum (!flag) (before.reverse.map value), fun c => ?_⟩
  simp only [checkSum, List.reverse_append, List.reverse_cons, List.append_assoc, List.map_append,
    List.map_cons, List.singleton_append, split, luhnSum_cons]
  omega

theorem checkSum_neighbours (before after : List Char) :
    ∃ flag others, ∀ c d, checkSum (before ++ c :: d :: after) =
      others + (share flag (value d) + share (!flag) (value c)) := by
  obtain ⟨flag, split⟩ := luhnSum_append false (after.reverse.map value)
  refine ⟨flag, luhnSum false (after.reverse.map value) +
    luhnSum flag (before.reverse.map value), fun c d => ?_⟩
  simp only [checkSum, List.reverse_append, List.reverse_cons, List.append_assoc, List.map_append,
    List.map_cons, List.cons_append, List.nil_append, split, luhnSum_cons, Bool.not_not]
  omega

theorem isValidImei_iff (imei : String) :
    isValidImei imei = true ↔
      imei.toList.length = 15 ∧ imei.toList.all Char.isDigit = true ∧
        checkSum imei.toList % 10 = 0 := by
  simp only [isValidImei, Purchasing.luhnValid, decide_eq_true_eq]
  exact Iff.rfl

theorem luhnValid_eq_isValidImei (imei : String) :
    Imports.luhnValid imei.toList = isValidImei imei := by
  have sum := sum_luhnDigit imei.toList.reverse 0
  rw [Bool.eq_iff_iff, isValidImei_iff, Imports.luhnValid, sum, decide_eq_true_eq]
  exact Iff.rfl

def replaced (imei : String) (i : Nat) (digit : Char) : String :=
  String.ofList (imei.toList.set i digit)

/-- The digit at the place `i` and the next one stand the other way round. -/
def swapped (imei : String) (i : Nat) : String :=
  match imei.toList.drop i with
  | c :: d :: after => String.ofList (imei.toList.take i ++ d :: c :: after)
  | _ => imei

theorem value_lt {c : Char} (digit : c.isDigit = true) : value c < 10 := by
  simp only [Char.isDigit, Bool.and_eq_true, decide_eq_true_eq] at digit
  have := UInt32.le_iff_toNat_le.mp digit.2
  simp only [value, Char.toNat]
  simp at this ⊢
  omega

theorem value_inj {c d : Char} (hc : c.isDigit = true) (hd : d.isDigit = true)
    (same : value c = value d) : c = d := by
  simp only [Char.isDigit, Bool.and_eq_true, decide_eq_true_eq] at hc hd
  have hc' := UInt32.le_iff_toNat_le.mp hc.1
  have hd' := UInt32.le_iff_toNat_le.mp hd.1
  simp only [value, Char.toNat] at same
  apply Char.ext
  apply UInt32.toNat_inj.mp
  simp at hc' hd' same ⊢
  omega

variable {before after : List Char}

theorem digit_at {c : Char}
    (digits : (before ++ c :: after).all Char.isDigit = true) : c.isDigit = true :=
  List.all_eq_true.mp digits c (by simp)

theorem replacement_detected {old new : Char}
    (valid : isValidImei (String.ofList (before ++ old :: after)) = true)
    (passes : isValidImei (String.ofList (before ++ new :: after)) = true) : new = old := by
  obtain ⟨-, oldDigits, oldSum⟩ := (isValidImei_iff _).mp valid
  obtain ⟨-, newDigits, newSum⟩ := (isValidImei_iff _).mp passes
  rw [String.toList_ofList] at oldDigits oldSum newDigits newSum
  obtain ⟨flag, others, split⟩ := checkSum_place before after
  rw [split] at oldSum newSum
  have oldDigit := digit_at oldDigits
  have newDigit := digit_at newDigits
  have same : share flag (value new) % 10 = share flag (value old) % 10 := by omega
  exact value_inj newDigit oldDigit (share_inj flag (value_lt newDigit) (value_lt oldDigit) same)

def ZeroNine (c d : Char) : Prop := c = '0' ∧ d = '9' ∨ c = '9' ∧ d = '0'

theorem swap_detected {c d : Char}
    (valid : isValidImei (String.ofList (before ++ c :: d :: after)) = true)
    (passes : isValidImei (String.ofList (before ++ d :: c :: after)) = true) :
    c = d ∨ ZeroNine c d := by
  obtain ⟨-, digits, sum⟩ := (isValidImei_iff _).mp valid
  obtain ⟨-, -, swappedSum⟩ := (isValidImei_iff _).mp passes
  rw [String.toList_ofList] at digits sum swappedSum
  obtain ⟨flag, others, split⟩ := checkSum_neighbours before after
  rw [split] at sum swappedSum
  have hc : c.isDigit = true := digit_at digits
  have hd : d.isDigit = true := List.all_eq_true.mp digits d (by simp)
  have same : (share flag (value c) + share (!flag) (value d)) % 10 =
      (share flag (value d) + share (!flag) (value c)) % 10 := by omega
  have zero : value '0' = 0 := rfl
  have nine : value '9' = 9 := rfl
  rcases share_swap flag (value_lt hc) (value_lt hd) same with
    equal | ⟨first, second⟩ | ⟨first, second⟩
  · exact .inl (value_inj hc hd equal)
  · exact .inr
      (.inl ⟨value_inj hc rfl (first.trans zero.symm), value_inj hd rfl (second.trans nine.symm)⟩)
  · exact .inr
      (.inr ⟨value_inj hc rfl (first.trans nine.symm), value_inj hd rfl (second.trans zero.symm)⟩)

/-- The import reads an IMEI as the receiving side does, and no slip of one digit or of two
neighbours leads from a valid IMEI to a valid one, but for 0 and 9. -/
structure SlipsDetected (imei : String) : Prop where
  agrees : Imports.luhnValid imei.toList = isValidImei imei
  replacement : isValidImei imei = true → ∀ i old new, imei.toList[i]? = some old → new ≠ old →
    isValidImei (replaced imei i new) = false
  swap : isValidImei imei = true → ∀ i c d,
    imei.toList[i]? = some c → imei.toList[i + 1]? = some d →
    c ≠ d → ¬ZeroNine c d → isValidImei (swapped imei i) = false

theorem imei_check_digit (imei : String) : SlipsDetected imei := by
  refine ⟨luhnValid_eq_isValidImei imei, ?_, ?_⟩
  · intro valid i old new present different
    obtain ⟨inside, rfl⟩ := List.getElem?_eq_some_iff.mp present
    obtain ⟨before, after, whole, -, written⟩ := @List.exists_of_set _ _ new _ inside
    rw [← Bool.not_eq_true]
    intro passes
    rw [replaced, written] at passes
    rw [← String.ofList_toList (s := imei), whole] at valid
    exact different (replacement_detected valid passes)
  · intro valid i c d first second different pair
    obtain ⟨inside, rfl⟩ := List.getElem?_eq_some_iff.mp first
    obtain ⟨next, rfl⟩ := List.getElem?_eq_some_iff.mp second
    have rest : imei.toList.drop i =
      imei.toList[i] :: imei.toList[i + 1] :: imei.toList.drop (i + 2) := by
      rw [List.drop_eq_getElem_cons inside, List.drop_eq_getElem_cons next]
    rw [← Bool.not_eq_true]
    intro passes
    rw [swapped, rest] at passes
    have whole := List.take_append_drop i imei.toList
    rw [rest] at whole
    rw [← String.ofList_toList (s := imei), ← whole] at valid
    rcases swap_detected valid passes with equal | zeroNine
    · exact different equal
    · exact pair zeroNine

/-- Two neighbours that are one digit may change places. -/
theorem equal_neighbours_pass :
    ¬ ∀ imei, isValidImei imei = true → ∀ i c d, imei.toList[i]? = some c →
      imei.toList[i + 1]? = some d → ¬ZeroNine c d → isValidImei (swapped imei i) = false := by
  intro all
  have passes : isValidImei (swapped "352099001761481" 4) = true := by decide +kernel
  rw [all "352099001761481" (by decide +kernel) 4 '9' '9' rfl rfl (by simp [ZeroNine])] at passes
  cases passes

end ErpBackend.CheckDigit
