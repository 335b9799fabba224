import ErpBackend.Foundation.Joined
import ErpBackend.Settlement

/-!
# What a rendering tells

Ids, amounts, days and counts are told apart by the way they are written, and none of them is
written with a character that separates fields.
-/

namespace ErpBackend.Replays

open Foundation

def plain (c : Char) : Bool := c.isDigit || c = '-' || c = '.'

variable (n : Nat)

variable (c : Char)

theorem toString_digits (member : c ∈ (toString n).toList) :
    c.isDigit = true := by
  have shown : (toString n).toList = Nat.toDigits 10 n := Nat.toList_repr
  rw [shown] at member
  exact Nat.isDigit_of_mem_toDigits (by omega) (by omega) member

theorem toString_injective (m n : Nat) (same : toString m = toString n) : m = n := by
  have shown : ∀ k : Nat, (toString k).toList = Nat.toDigits 10 k := fun k => Nat.toList_repr
  have digits : Nat.toDigits 10 m = Nat.toDigits 10 n := by rw [← shown, ← shown, same]
  rw [← Nat.ofDigitChars_toDigits (by omega : 1 < 10) (by omega) (n := m), digits,
    Nat.ofDigitChars_toDigits (by omega) (by omega)]

theorem toString_filled : (toString n).toList ≠ [] := by
  have shown : (toString n).toList = Nat.toDigits 10 n := Nat.toList_repr
  rw [shown]
  exact Nat.toDigits_ne_nil

theorem plain_toString (member : c ∈ (toString n).toList) :
    plain c = true := by
  simp [plain, toString_digits n c member]

theorem plain_bar (member : plain c = true) : c ≠ '|' ∧ c ≠ ' ' ∧ c ≠ '"' := by
  refine ⟨?_, ?_, ?_⟩ <;> rintro rfl <;> exact absurd member (by decide)

theorem digit_point (digit : c.isDigit = true) : c ≠ '.' ∧ c ≠ '-' := by
  refine ⟨?_, ?_⟩ <;> rintro rfl <;> exact absurd digit (by decide)

theorem two_value :
    Nat.ofDigitChars 10 (if n < 10 then "0" ++ toString n else toString n).toList 0 = n := by
  have shown : (toString n).toList = Nat.toDigits 10 n := Nat.toList_repr
  have value : Nat.ofDigitChars 10 (Nat.toDigits 10 n) 0 = n :=
    Nat.ofDigitChars_toDigits (by omega) (by omega)
  split
  · rw [String.toList_append, shown]
    change Nat.ofDigitChars 10 ('0' :: Nat.toDigits 10 n) 0 = n
    rw [Nat.ofDigitChars_cons]
    exact value
  · rw [shown, value]

theorem two_injective (m n : Nat)
    (same : (if m < 10 then "0" ++ toString m else toString m) =
      if n < 10 then "0" ++ toString n else toString n) : m = n := by
  rw [← two_value m, same, two_value n]

theorem two_digits (member : c ∈ (if n < 10 then "0" ++ toString n else toString n).toList) :
    c.isDigit = true := by
  split at member
  · rw [String.toList_append, List.mem_append] at member
    rcases member with zero | digit
    · have only : c = '0' := by simpa using zero
      subst only
      decide
    · exact toString_digits n c digit
  · exact toString_digits n c member

theorem renderFixed_toList :
    (renderFixed n).toList = (toString (n / 100)).toList ++ '.' ::
      (if n % 100 < 10 then "0" ++ toString (n % 100) else toString (n % 100)).toList := by
  have sign : ¬ (n : Int) < 0 := by omega
  simp [renderFixed, sign, String.toList_append]

theorem renderFixed_injective (m n : Nat) (same : renderFixed m = renderFixed n) : m = n := by
  have texts := congrArg String.toList same
  have point : ∀ k : Nat, '.' ∉ (toString k).toList := fun k member =>
    (digit_point '.' (toString_digits k '.' member)).1 rfl
  rw [renderFixed_toList, renderFixed_toList, joined_free '.' _ _ _ _ (point _) (point _)] at texts
  have whole := toString_injective _ _ (String.toList_injective texts.1)
  have cents := two_injective _ _ (String.toList_injective texts.2)
  omega

theorem plain_renderFixed (member : c ∈ (renderFixed n).toList) :
    plain c = true := by
  rw [renderFixed_toList, List.mem_append, List.mem_cons] at member
  rcases member with digit | rfl | digit
  · exact plain_toString _ c digit
  · decide
  · simp [plain, two_digits _ c digit]

theorem renderFixed_same (a b : Int) (first : 0 ≤ a) (second : 0 ≤ b) :
    renderFixed a = renderFixed b ↔ a = b := by
  constructor
  · intro same
    obtain ⟨m, rfl⟩ := Int.eq_ofNat_of_zero_le first
    obtain ⟨n, rfl⟩ := Int.eq_ofNat_of_zero_le second
    rw [renderFixed_injective m n same]
  · rintro rfl
    rfl

theorem plain_fixed (a : Int) (nonneg : 0 ≤ a) (c : Char)
    (member : c ∈ (renderFixed a).toList) : plain c = true := by
  obtain ⟨n, rfl⟩ := Int.eq_ofNat_of_zero_le nonneg
  exact plain_renderFixed n c member

/-- What stands behind the whole units of an amount: nothing, tenths or cents. -/
def centsText (rest : Nat) : List Char :=
  if rest = 0 then []
  else if rest % 10 = 0 then '.' :: (toString (rest / 10)).toList
  else if rest < 10 then '.' :: '0' :: (toString rest).toList
  else '.' :: (toString rest).toList

theorem renderAmount_toList :
    (renderAmount n).toList = (toString (n / 100)).toList ++ centsText (n % 100) := by
  have sign : ¬ (n : Int) < 0 := by omega
  simp only [renderAmount, centsText, sign, if_false, Int.natAbs_natCast]
  split
  · simp
  · split
    · simp [String.toList_append]
    · split <;> simp [String.toList_append]

def centsOf : List Char → Nat
  | [] => 0
  | [_, tenths] => 10 * Nat.ofDigitChars 10 [tenths] 0
  | _ :: digits => Nat.ofDigitChars 10 digits 0

theorem centsOf_centsText (rest : Nat) (small : rest < 100) : centsOf (centsText rest) = rest := by
  have all : ∀ rest < 100, centsOf (centsText rest) = rest := by decide +kernel
  exact all rest small

theorem centsText_cases (rest : Nat) :
    centsText rest = [] ∨ ∃ digits, centsText rest = '.' :: digits := by
  unfold centsText
  split
  · exact .inl rfl
  · split
    · exact .inr ⟨_, rfl⟩
    · split <;> exact .inr ⟨_, rfl⟩

theorem amount_split (left right : Nat) (cents cents' : Nat)
    (same : (toString left).toList ++ centsText cents =
      (toString right).toList ++ centsText cents') :
    left = right ∧ centsText cents = centsText cents' := by
  have point : ∀ k : Nat, '.' ∉ (toString k).toList := fun k member =>
    (digit_point '.' (toString_digits k '.' member)).1 rfl
  rcases centsText_cases cents with none | ⟨digits, some_⟩
  · rcases centsText_cases cents' with none' | ⟨digits', some'⟩
    · rw [none, none', List.append_nil, List.append_nil] at same
      exact ⟨toString_injective _ _ (String.toList_injective same), by rw [none, none']⟩
    · have inside : '.' ∈ (toString left).toList := by
        rw [none, List.append_nil] at same
        rw [same, some']
        simp
      exact absurd inside (point left)
  · rcases centsText_cases cents' with none' | ⟨digits', some'⟩
    · have inside : '.' ∈ (toString right).toList := by
        rw [none', List.append_nil] at same
        rw [← same, some_]
        simp
      exact absurd inside (point right)
    · rw [some_, some', joined_free '.' _ _ _ _ (point _) (point _)] at same
      exact ⟨toString_injective _ _ (String.toList_injective same.1), by rw [some_, some', same.2]⟩

theorem renderAmount_injective (m n : Nat) (same : renderAmount m = renderAmount n) : m = n := by
  have texts := congrArg String.toList same
  rw [renderAmount_toList, renderAmount_toList] at texts
  obtain ⟨whole, cents⟩ := amount_split _ _ _ _ texts
  have rest : m % 100 = n % 100 := by
    rw [← centsOf_centsText (m % 100) (by omega), cents, centsOf_centsText _ (by omega)]
  omega

theorem plain_centsText (rest : Nat) (c : Char) (member : c ∈ centsText rest) :
    plain c = true := by
  unfold centsText at member
  split_ifs at member
  · cases member
  · rcases List.mem_cons.mp member with rfl | digit
    · rfl
    · exact plain_toString _ c digit
  · rcases List.mem_cons.mp member with rfl | later
    · rfl
    · rcases List.mem_cons.mp later with rfl | digit
      · rfl
      · exact plain_toString _ c digit
  · rcases List.mem_cons.mp member with rfl | digit
    · rfl
    · exact plain_toString _ c digit

theorem plain_renderAmount (member : c ∈ (renderAmount n).toList) :
    plain c = true := by
  rw [renderAmount_toList, List.mem_append] at member
  rcases member with digit | cents
  · exact plain_toString _ c digit
  · exact plain_centsText _ c cents

/-- A day of the 400-year era falls into the year that is written, and less than 367 days after
its beginning. -/
theorem year_of_era (day year : Nat) (inside : day < 146097)
    (written : year = (day - day / 1460 + day / 36524 - day / 146096) / 365) :
    year < 400 ∧ 365 * year + year / 4 - year / 100 ≤ day ∧
      day < 365 * year + year / 4 - year / 100 + 367 := by
  obtain ⟨fours, atFours⟩ : ∃ fours, fours = day / 1460 := ⟨_, rfl⟩
  obtain ⟨centuries, atCenturies⟩ : ∃ centuries, centuries = day / 36524 := ⟨_, rfl⟩
  obtain ⟨last, atLast⟩ : ∃ last, last = day / 146096 := ⟨_, rfl⟩
  rw [← atFours, ← atCenturies, ← atLast] at written
  have few : centuries = 0 ∨ centuries = 1 ∨ centuries = 2 ∨ centuries = 3 ∨ centuries = 4 := by
    omega
  have leapsUp : year / 4 ≤ fours := by omega
  have leapsDown : fours ≤ year / 4 + 1 := by omega
  have centuriesUp : centuries ≤ year / 100 + last := by
    rcases few with at_ | at_ | at_ | at_ | at_ <;> omega
  have centuriesDown : year / 100 + last ≤ centuries := by
    rcases few with at_ | at_ | at_ | at_ | at_ <;> omega
  have within : day - fours + centuries - last < 365 * year + 365 := by omega
  exact ⟨by omega, by omega, by omega⟩

/-- A day by its era, the year in it (from March), the month of that year and the day before
which the month has so many. -/
structure Civil where
  era : Nat
  year : Nat
  month : Nat
  date : Nat

def civil (day : Nat) : Civil :=
  let shifted := day + 719468
  let dayOfEra := shifted % 146097
  let year := (dayOfEra - dayOfEra / 1460 + dayOfEra / 36524 - dayOfEra / 146096) / 365
  let dayOfYear := dayOfEra - (365 * year + year / 4 - year / 100)
  let month := (5 * dayOfYear + 2) / 153
  ⟨shifted / 146097, year, month, dayOfYear - (153 * month + 2) / 5 + 1⟩

def Civil.calendarMonth (c : Civil) : Nat := if c.month < 10 then c.month + 3 else c.month - 9

def Civil.calendarYear (c : Civil) : Nat :=
  c.year + c.era * 400 + if c.calendarMonth ≤ 2 then 1 else 0

def two (n : Nat) : String := if n < 10 then "0" ++ toString n else toString n

variable (day : Nat)

theorem renderDay_civil :
    renderDay day = toString (civil day).calendarYear ++ "-" ++ two (civil day).calendarMonth ++
      "-" ++ two (civil day).date := rfl

theorem civil_year : (civil day).year < 400 :=
  (year_of_era ((day + 719468) % 146097) _ (by omega) rfl).1

theorem civil_month : (civil day).month < 12 := by
  have bounds := year_of_era ((day + 719468) % 146097) _ (by omega) rfl
  simp only [civil]
  omega

theorem month_start (dayOfYear : Nat) :
    (153 * ((5 * dayOfYear + 2) / 153) + 2) / 5 ≤ dayOfYear := by
  omega

def Civil.days (c : Civil) : Nat :=
  c.era * 146097 + (365 * c.year + c.year / 4 - c.year / 100) + (153 * c.month + 2) / 5 +
    c.date - 1

theorem civil_days : day + 719468 = (civil day).days := by
  have bounds := year_of_era ((day + 719468) % 146097) _ (by omega) rfl
  simp only [civil, Civil.days]
  generalize ((day + 719468) % 146097 - (day + 719468) % 146097 / 1460 +
    (day + 719468) % 146097 / 36524 - (day + 719468) % 146097 / 146096) / 365 = year at bounds ⊢
  have started := month_start ((day + 719468) % 146097 - (365 * year + year / 4 - year / 100))
  omega

theorem Civil.written (c d : Civil) (monthC : c.month < 12) (monthD : d.month < 12)
    (yearC : c.year < 400) (yearD : d.year < 400) (year : c.calendarYear = d.calendarYear)
    (month : c.calendarMonth = d.calendarMonth) (date : c.date = d.date) : c = d := by
  have sameMonth : c.month = d.month := by
    unfold Civil.calendarMonth at month
    split at month <;> split at month <;> omega
  have years : c.year + c.era * 400 = d.year + d.era * 400 := by
    unfold Civil.calendarYear at year
    rw [month] at year
    split at year <;> omega
  have sameYear : c.year = d.year := by omega
  have sameEra : c.era = d.era := by omega
  cases c
  cases d
  simp_all

theorem civil_injective (a b : Nat) (same : civil a = civil b) : a = b :=
  Nat.add_right_cancel ((civil_days a).trans ((congrArg Civil.days same).trans (civil_days b).symm))

theorem dashed_toList (year month date : String) :
    (year ++ "-" ++ month ++ "-" ++ date).toList =
      year.toList ++ '-' :: (month.toList ++ '-' :: date.toList) := by
  simp [String.toList_append]

theorem renderDay_toList :
    (renderDay day).toList = (toString (civil day).calendarYear).toList ++ '-' ::
      ((two (civil day).calendarMonth).toList ++ '-' :: (two (civil day).date).toList) :=
  (congrArg String.toList (renderDay_civil day)).trans (dashed_toList _ _ _)

theorem renderDay_injective (a b : Day) (same : renderDay a = renderDay b) : a = b := by
  have texts := congrArg String.toList same
  have dash : ∀ k : Nat, '-' ∉ (toString k).toList := fun k member =>
    (digit_point '-' (toString_digits k '-' member)).2 rfl
  have dash' : ∀ k : Nat, '-' ∉ (two k).toList := fun k member =>
    (digit_point '-' (two_digits k '-' member)).2 rfl
  rw [renderDay_toList, renderDay_toList, joined_free '-' _ _ _ _ (dash _) (dash _),
    joined_free '-' _ _ _ _ (dash' _) (dash' _)] at texts
  obtain ⟨year, month, date⟩ := texts
  exact civil_injective a b (Civil.written _ _ (civil_month a) (civil_month b) (civil_year a)
    (civil_year b) (toString_injective _ _ (String.toList_injective year))
    (two_injective _ _ (String.toList_injective month))
    (two_injective _ _ (String.toList_injective date)))

theorem plain_renderDay (day : Day) (c : Char) (member : c ∈ (renderDay day).toList) :
    plain c = true := by
  rw [renderDay_toList] at member
  simp only [List.mem_append, List.mem_cons] at member
  rcases member with digit | rfl | digit | rfl | digit
  · exact plain_toString _ c digit
  · decide
  · simp [plain, two_digits _ c digit]
  · decide
  · simp [plain, two_digits _ c digit]

end ErpBackend.Replays
