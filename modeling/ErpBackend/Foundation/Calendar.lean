import Mathlib

/-!
# Calendar

The proleptic Gregorian calendar: an existing day carries that its month has it, and the days
are numbered from the first of January of year 0. The number and the day determine each other.
-/

namespace ErpBackend.Foundation

def locate : List Nat → Nat → Nat × Nat
  | [], count => (0, count)
  | span :: spans, count =>
    if count < span then (0, count)
    else
      let (index, rest) := locate spans (count - span)
      (index + 1, rest)

def spansBefore (spans : List Nat) (index : Nat) : Nat := (spans.take index).sum

variable (spans : List Nat)

@[simp]
theorem spansBefore_zero : spansBefore spans 0 = 0 := by simp [spansBefore]

@[simp]
theorem spansBefore_succ (span : Nat) (spans : List Nat) (index : Nat) :
    spansBefore (span :: spans) (index + 1) = span + spansBefore spans index := by
  simp [spansBefore]

theorem locate_spec (count : Nat) (within : count < spans.sum) :
    (locate spans count).1 < spans.length ∧
      (locate spans count).2 < spans.getD (locate spans count).1 0 ∧
      spansBefore spans (locate spans count).1 + (locate spans count).2 = count := by
  induction spans generalizing count with
  | nil => simp at within
  | cons span spans ih =>
    simp only [List.sum_cons] at within
    by_cases here : count < span
    · simp [locate, here]
    · have found := ih (count - span) (by omega)
      simp only [locate, here, if_false, List.length_cons, List.getD_cons_succ, spansBefore_succ]
      omega

theorem locate_eq (index rest : Nat) (inside : rest < spans.getD index 0) :
    locate spans (spansBefore spans index + rest) = (index, rest) := by
  induction spans generalizing index with
  | nil => simp at inside
  | cons span spans ih =>
    cases index with
    | zero =>
      have here : rest < span := by simpa using inside
      simp [locate, here]
    | succ index =>
      have later : ¬ span + spansBefore spans index + rest < span := by omega
      have found := ih index (by simpa using inside)
      have onward : span + spansBefore spans index + rest - span =
        spansBefore spans index + rest := by
        omega
      simp [locate, later, onward, found]

theorem spansBefore_lt (index rest : Nat) (inside : rest < spans.getD index 0) :
    spansBefore spans index + rest < spans.sum := by
  induction spans generalizing index with
  | nil => simp at inside
  | cons span spans ih =>
    cases index with
    | zero =>
      have here : rest < span := by simpa using inside
      simp only [spansBefore_zero, List.sum_cons]
      omega
    | succ index =>
      have later := ih index (by simpa using inside)
      simp only [spansBefore_succ, List.sum_cons]
      omega

def leap (year : Int) : Bool := year % 4 = 0 ∧ (year % 100 ≠ 0 ∨ year % 400 = 0)

def yearStart (year : Int) : Int :=
  365 * year + (year + 3) / 4 - (year + 99) / 100 + (year + 399) / 400

theorem yearStart_succ (year : Int) :
    yearStart (year + 1) = yearStart year + 365 + if leap year = true then 1 else 0 := by
  have fours : (year + 1 + 3) / 4 = (year + 3) / 4 + if year % 4 = 0 then 1 else 0 := by
    split <;> omega
  have centuries : (year + 1 + 99) / 100 = (year + 99) / 100 + if year % 100 = 0 then 1 else 0 := by
    split <;> omega
  have eras : (year + 1 + 399) / 400 = (year + 399) / 400 + if year % 400 = 0 then 1 else 0 := by
    split <;> omega
  simp only [yearStart, leap, decide_eq_true_eq, fours, centuries, eras]
  split <;> split <;> split <;> split <;> omega

theorem yearStart_le (a b : Int) (ordered : a ≤ b) : yearStart a ≤ yearStart b := by
  unfold yearStart
  omega

theorem yearStart_mean (year : Int) :
    146097 * year - 400 < 400 * yearStart year ∧ 400 * yearStart year < 146097 * year + 800 := by
  unfold yearStart
  omega

/-- The year is guessed by the mean length of a year; the guess is one off at most. -/
def yearOf (day : Int) : Int :=
  let guess := 400 * day / 146097
  if yearStart (guess + 1) ≤ day then guess + 1
  else if yearStart guess ≤ day then guess
  else guess - 1

theorem yearOf_spec (day : Int) :
    yearStart (yearOf day) ≤ day ∧ day < yearStart (yearOf day + 1) := by
  simp only [yearOf]
  generalize atGuess : 400 * day / 146097 = guess
  have earlier := (yearStart_mean (guess - 1)).2
  have later := (yearStart_mean (guess + 1 + 1)).1
  have back : guess - 1 + 1 = guess := by omega
  split
  · omega
  · split
    · omega
    · rw [back]
      omega

theorem yearOf_eq (year day : Int) (begun : yearStart year ≤ day)
    (before : day < yearStart (year + 1)) :
    yearOf day = year := by
  have own := yearOf_spec day
  by_contra other
  have sides : yearOf day + 1 ≤ year ∨ year + 1 ≤ yearOf day := by omega
  cases sides with
  | inl earlier =>
    have := yearStart_le _ _ earlier
    omega
  | inr later =>
    have := yearStart_le _ _ later
    omega

def monthSpans (year : Int) : List Nat :=
  [31, if leap year = true then 29 else 28, 31, 30, 31, 30, 31, 31, 30, 31, 30, 31]

theorem monthSpans_sum (year : Int) :
    (monthSpans year).sum = 365 + if leap year = true then 1 else 0 := by
  simp only [monthSpans, List.sum_cons, List.sum_nil]
  split <;> omega

def monthLength (year : Int) (month : Nat) : Nat := (monthSpans year).getD (month - 1) 0

/-- A day the calendar has; there is no month past December, as it would have no days. -/
@[ext]
structure CivilDate where
  year : Int
  month : Nat
  date : Nat
  named : 1 ≤ month
  begun : 1 ≤ date
  within : date ≤ monthLength year month
  deriving DecidableEq

namespace CivilDate

def number (day : CivilDate) : Int :=
  yearStart day.year + (spansBefore (monthSpans day.year) (day.month - 1) + (day.date - 1) : Nat)

variable (day : CivilDate)

theorem inside_year :
    spansBefore (monthSpans day.year) (day.month - 1) + (day.date - 1) <
      (monthSpans day.year).sum := by
  have begun := day.begun
  have within := day.within
  unfold monthLength at within
  exact spansBefore_lt _ _ _ (by omega)

theorem yearStart_le_number : yearStart day.year ≤ day.number := by
  unfold number
  omega

theorem number_lt_yearStart : day.number < yearStart (day.year + 1) := by
  have inside := day.inside_year
  have length := monthSpans_sum day.year
  have next := yearStart_succ day.year
  unfold number
  split at length <;> simp_all <;> omega

theorem yearOf_number : yearOf day.number = day.year :=
  yearOf_eq _ _ day.yearStart_le_number day.number_lt_yearStart

theorem month_le : day.month ≤ 12 := by
  have begun := day.begun
  have within := day.within
  by_contra late
  have past : (monthSpans day.year).getD (day.month - 1) 0 = 0 :=
    List.getD_eq_default _ _ (by simp only [monthSpans, List.length_cons, List.length_nil]; omega)
  unfold monthLength at within
  omega

theorem date_le : day.date ≤ 31 := by
  have within := day.within
  have months := day.month_le
  have most : ∀ span ∈ monthSpans day.year, span ≤ 31 := by
    intro span member
    simp only [monthSpans, List.mem_cons, List.not_mem_nil, or_false] at member
    split at member <;> omega
  have listed : day.month - 1 < (monthSpans day.year).length := by
    simp only [monthSpans, List.length_cons, List.length_nil]
    omega
  rw [monthLength, List.getD_eq_getElem _ _ listed] at within
  have short := most _ (List.getElem_mem listed)
  omega

end CivilDate

variable (day : CivilDate)

theorem dayOfYear_lt (day : Int) :
    (day - yearStart (yearOf day)).toNat < (monthSpans (yearOf day)).sum := by
  have bounds := yearOf_spec day
  have length := monthSpans_sum (yearOf day)
  have next := yearStart_succ (yearOf day)
  split at length <;> simp_all <;> omega

def civilDate (day : Int) : CivilDate where
  year := yearOf day
  month := (locate (monthSpans (yearOf day)) (day - yearStart (yearOf day)).toNat).1 + 1
  date := (locate (monthSpans (yearOf day)) (day - yearStart (yearOf day)).toNat).2 + 1
  named := by omega
  begun := by omega
  within := (locate_spec _ _ (dayOfYear_lt day)).2.1

@[simp]
theorem number_civilDate (day : Int) : (civilDate day).number = day := by
  have parts := (locate_spec _ _ (dayOfYear_lt day)).2.2
  have bounds := yearOf_spec day
  simp only [CivilDate.number, civilDate, Nat.add_sub_cancel, parts]
  omega

@[simp]
theorem civilDate_number : civilDate day.number = day := by
  have begun := day.begun
  have named := day.named
  have within := day.within
  have inYear : (day.number - yearStart day.year).toNat =
      spansBefore (monthSpans day.year) (day.month - 1) + (day.date - 1) := by
    unfold CivilDate.number
    omega
  have found := locate_eq (monthSpans day.year) (day.month - 1) (day.date - 1)
    (by unfold monthLength at within; omega)
  ext
  · exact day.yearOf_number
  · simp only [civilDate, day.yearOf_number, inYear, found]
    omega
  · simp only [civilDate, day.yearOf_number, inYear, found]
    omega

theorem year_lt_iff (bound : Int) (day : CivilDate) :
    day.year < bound ↔ day.number < yearStart bound := by
  have start := day.yearStart_le_number
  have ends := day.number_lt_yearStart
  constructor
  · intro before
    have := yearStart_le (day.year + 1) bound (by omega)
    omega
  · intro before
    by_contra later
    have := yearStart_le bound day.year (by omega)
    omega

theorem year_nonneg_iff : 0 ≤ day.year ↔ 0 ≤ day.number := by
  have before := year_lt_iff 0 day
  have zero : yearStart 0 = 0 := by decide
  omega

def padded : Nat → Nat → List Char
  | 0, _ => []
  | width + 1, n => padded width (n / 10) ++ [Nat.digitChar (n % 10)]

theorem value_append (text : List Char) (c : Char) :
    Nat.ofDigitChars 10 (text ++ [c]) 0 = 10 * Nat.ofDigitChars 10 text 0 + (c.toNat - 48) := by
  rw [Nat.ofDigitChars_append, Nat.ofDigitChars_cons, Nat.ofDigitChars_nil]
  rfl

@[simp]
theorem padded_length (width n : Nat) : (padded width n).length = width := by
  induction width generalizing n with
  | zero => rfl
  | succ width ih => simp [padded, ih]

theorem digitChar_digit (n : Nat) (small : n < 10) :
    (Nat.digitChar n).isDigit = true ∧ (Nat.digitChar n).toNat - 48 = n := by
  have every : ∀ d < 10, (Nat.digitChar d).isDigit = true ∧ (Nat.digitChar d).toNat - 48 = d := by
    decide
  exact every n small

theorem padded_digits (width n : Nat) : (padded width n).all Char.isDigit = true := by
  induction width generalizing n with
  | zero => rfl
  | succ width ih => simp [padded, ih, (digitChar_digit (n % 10) (by omega)).1]

theorem value_padded (width n : Nat) (fits : n < 10 ^ width) :
    Nat.ofDigitChars 10 (padded width n) 0 = n := by
  induction width generalizing n with
  | zero =>
    have zero : n = 0 := by simpa using fits
    simp [padded, zero]
  | succ width ih =>
    have shorter : n / 10 < 10 ^ width := by
      rw [pow_succ] at fits
      omega
    rw [padded, value_append, ih _ shorter, (digitChar_digit (n % 10) (by omega)).2]
    omega

end ErpBackend.Foundation
