import ErpBackend.Foundation.Calendar
import ErpBackend.Platform.Subscriptions
import ErpBackend.Replays.Rendering

/-!
# Adding months

`date.setMonth(date.getMonth() + n)` keeps the day of the month. Where the month it comes to is
shorter, the date runs on into the month after.
-/

namespace ErpBackend.Subscriptions

open Foundation

def lengthOf (months : Nat) : Nat := monthLength (months / 12 : Nat) (months % 12 + 1)

def daysBefore (months : Nat) : Nat :=
  let year := (months - 2) / 12
  let shiftedMonth := (months - 2) % 12
  year / 400 * 146097 + year % 400 * 365 + year % 400 / 4 - year % 400 / 100 +
    (153 * shiftedMonth + 2) / 5

theorem firstDay_eq (months : Nat) : firstDay months = daysBefore months - 719468 := rfl

variable (year month : Nat)

theorem daysBefore_parts (inYear : month < 12) :
    daysBefore (12 * year + month + 2) = year / 400 * 146097 + year % 400 * 365 +
      year % 400 / 4 - year % 400 / 100 + (153 * month + 2) / 5 := by
  have years : (12 * year + month + 2 - 2) / 12 = year := by omega
  have months : (12 * year + month + 2 - 2) % 12 = month := by omega
  simp only [daysBefore, years, months]

theorem lengthOf_parts (inYear : month < 12) :
    lengthOf (12 * year + month) = (monthSpans year).getD month 0 := by
  have years : (12 * year + month) / 12 = year := by omega
  have months : (12 * year + month) % 12 = month := by omega
  simp only [lengthOf, monthLength, years, months, Nat.add_sub_cancel]

theorem daysBefore_march (march : month < 10) :
    daysBefore (12 * year + month + 2 + 1) =
      daysBefore (12 * year + month + 2) + lengthOf (12 * year + month + 2) := by
  have length : lengthOf (12 * year + month + 2) = (monthSpans year).getD (month + 2) 0 :=
    lengthOf_parts year (month + 2) (by omega)
  have next : daysBefore (12 * year + month + 2 + 1) = _ :=
    daysBefore_parts year (month + 1) (by omega)
  rw [next, daysBefore_parts year month (by omega), length]
  interval_cases month <;> simp [monthSpans]

theorem daysBefore_january (year : Nat) :
    daysBefore (12 * year + 10 + 2 + 1) =
      daysBefore (12 * year + 10 + 2) + lengthOf (12 * year + 10 + 2) := by
  have length : lengthOf (12 * year + 10 + 2) = 31 := lengthOf_parts (year + 1) 0 (by omega)
  rw [length]
  exact (daysBefore_parts year 11 (by omega)).trans
    (congrArg (· + 31) (daysBefore_parts year 10 (by omega)).symm)

theorem daysBefore_february (year : Nat) :
    daysBefore (12 * year + 11 + 2 + 1) =
      daysBefore (12 * year + 11 + 2) + lengthOf (12 * year + 11 + 2) := by
  have length : lengthOf (12 * year + 11 + 2) = if leap (year + 1 : Nat) = true then 29 else 28 :=
    lengthOf_parts (year + 1) 1 (by omega)
  have next : daysBefore (12 * year + 11 + 2 + 1) = _ := daysBefore_parts (year + 1) 0 (by omega)
  rw [next, daysBefore_parts year 11 (by omega), length]
  simp only [leap, decide_eq_true_eq]
  split <;> omega

theorem daysBefore_succ (months : Nat) (fromMarch : 2 ≤ months) :
    daysBefore (months + 1) = daysBefore months + lengthOf months := by
  obtain ⟨shifted, rfl⟩ : ∃ shifted, months = shifted + 2 := ⟨months - 2, by omega⟩
  have parts : shifted = 12 * (shifted / 12) + shifted % 12 := by omega
  rw [parts]
  by_cases march : shifted % 12 < 10
  · exact daysBefore_march _ _ march
  · have last : shifted % 12 = 10 ∨ shifted % 12 = 11 := by omega
    cases last with
    | inl january =>
      rw [january]
      exact daysBefore_january _
    | inr february =>
      rw [february]
      exact daysBefore_february _

theorem lengthOf_bounds (months : Nat) : 28 ≤ lengthOf months ∧ lengthOf months ≤ 31 := by
  have parts : months = 12 * (months / 12) + months % 12 := by omega
  have inYear : months % 12 < 12 := by omega
  rw [parts, lengthOf_parts _ _ inYear]
  generalize months % 12 = month at inYear
  interval_cases month <;> simp [monthSpans]
  split <;> omega

variable (a b : Nat)

theorem daysBefore_le (fromMarch : 2 ≤ a) (ordered : a ≤ b) :
    daysBefore a ≤ daysBefore b := by
  induction b, ordered using Nat.le_induction with
  | base => exact Nat.le_refl _
  | succ b later ih =>
    have next := daysBefore_succ b (by omega)
    omega

def evened (day : Nat) : Nat := day - day / 1460 + day / 36524 - day / 146096

theorem evened_le (ordered : a ≤ b) (inside : b < 146096) : evened a ≤ evened b := by
  have lastA : a / 146096 = 0 := by omega
  have lastB : b / 146096 = 0 := by omega
  have fours : b / 1460 ≤ a / 1460 + (b - a) := by omega
  have centuries : a / 36524 ≤ b / 36524 := by omega
  unfold evened
  omega

theorem evened_start (year : Nat) (inside : year < 400) :
    evened (365 * year + year / 4 - year / 100) = 365 * year := by
  have fours : (365 * year + year / 4 - year / 100) / 1460 = year / 4 := by omega
  have centuries : (365 * year + year / 4 - year / 100) / 36524 = year / 100 := by omega
  have last : (365 * year + year / 4 - year / 100) / 146096 = 0 := by omega
  unfold evened
  omega

theorem before_next_year (day year : Nat) (inside : day < 146097) (own : year = evened day / 365) :
    day < 365 * (year + 1) + (year + 1) / 4 - (year + 1) / 100 ∨ year = 399 := by
  by_contra past
  have inEra : day < 146096 ∨ day = 146096 := by omega
  cases inEra with
  | inr ends =>
    have last : evened 146096 / 365 = 399 := by decide
    rw [ends] at own
    omega
  | inl inEra =>
    by_cases last : year + 1 < 400
    · have onward := evened_le (365 * (year + 1) + (year + 1) / 4 - (year + 1) / 100) day
        (by omega) inEra
      rw [evened_start _ last] at onward
      omega
    · have most : evened day ≤ day - day / 1460 + day / 36524 := Nat.sub_le _ _
      omega

variable (day : Nat)

theorem monthAndDay_civil :
    monthAndDay day = (12 * ((Replays.civil day).year + (Replays.civil day).era * 400) +
      (Replays.civil day).month + 2, (Replays.civil day).date) := rfl

theorem date_pos : 1 ≤ (monthAndDay day).2 := by
  rw [monthAndDay_civil]
  exact Nat.succ_pos _

theorem daysBefore_monthAndDay :
    daysBefore (monthAndDay day).1 + (monthAndDay day).2 = day + 719468 + 1 := by
  have whole := Replays.civil_days day
  have inEra := Replays.civil_year day
  have inYear := Replays.civil_month day
  have date := date_pos day
  rw [monthAndDay_civil] at date ⊢
  rw [daysBefore_parts _ _ inYear, whole]
  unfold Replays.Civil.days
  dsimp only at date ⊢
  omega

theorem before_next_start (era year dayOfYear : Nat) (inEra : year < 400)
    (inYear : (5 * dayOfYear + 2) / 153 < 12)
    (nextYear : 365 * year + year / 4 - year / 100 + dayOfYear <
      365 * (year + 1) + (year + 1) / 4 - (year + 1) / 100 ∨ year = 399)
    (whole : 365 * year + year / 4 - year / 100 + dayOfYear < 146097) :
    era * 146097 + (365 * year + year / 4 - year / 100) + dayOfYear <
      daysBefore (12 * (year + era * 400) + (5 * dayOfYear + 2) / 153 + 2 + 1) := by
  have eras : (year + era * 400) / 400 = era := by omega
  have years : (year + era * 400) % 400 = year := by omega
  generalize atMonth : (5 * dayOfYear + 2) / 153 = month at inYear
  by_cases february : month = 11
  · have same : 12 * (year + era * 400) + month + 2 + 1 = 12 * (year + 1 + era * 400) + 0 + 2 := by
      omega
    rw [same, daysBefore_parts (year + 1 + era * 400) 0 (by omega)]
    by_cases last : year = 399
    · have nextEra : (year + 1 + era * 400) / 400 = era + 1 := by omega
      have first : (year + 1 + era * 400) % 400 = 0 := by omega
      rw [nextEra, first]
      omega
    · have sameEra : (year + 1 + era * 400) / 400 = era := by omega
      have following : (year + 1 + era * 400) % 400 = year + 1 := by omega
      rw [sameEra, following]
      omega
  · have same : 12 * (year + era * 400) + month + 2 + 1 =
        12 * (year + era * 400) + (month + 1) + 2 := by omega
    rw [same, daysBefore_parts (year + era * 400) (month + 1) (by omega), eras, years]
    omega

theorem before_next_month : day + 719468 < daysBefore ((monthAndDay day).1 + 1) := by
  obtain ⟨dayOfEra, atEra⟩ : ∃ dayOfEra, dayOfEra = (day + 719468) % 146097 := ⟨_, rfl⟩
  obtain ⟨year, atYear⟩ : ∃ year, year = evened dayOfEra / 365 := ⟨_, rfl⟩
  obtain ⟨dayOfYear, atDay⟩ : ∃ dayOfYear,
    dayOfYear = dayOfEra - (365 * year + year / 4 - year / 100) :=
    ⟨_, rfl⟩
  have inside : dayOfEra < 146097 := by omega
  have bounds := Replays.year_of_era dayOfEra year inside (by rw [atYear, evened])
  have nextYear := before_next_year dayOfEra year inside atYear
  have own : (monthAndDay day).1 =
      12 * (year + (day + 719468) / 146097 * 400) + (5 * dayOfYear + 2) / 153 + 2 := by
    rw [atDay, atYear, atEra]
    simp only [monthAndDay, evened]
  have ownMonth : (Replays.civil day).month = (5 * dayOfYear + 2) / 153 := by
    rw [atDay, atYear, atEra]
    simp only [Replays.civil, evened]
  have inYear := Replays.civil_month day
  rw [ownMonth] at inYear
  have next := before_next_start ((day + 719468) / 146097) year dayOfYear bounds.1 inYear
    (by omega) (by omega)
  rw [own]
  omega

def epochMonth : Nat := 23640

theorem daysBefore_epoch : daysBefore epochMonth = 719468 := by decide

theorem epoch_le_month : epochMonth ≤ (monthAndDay day).1 := by
  have next := before_next_month day
  have first := daysBefore_epoch
  have fromMarch : 2 ≤ (monthAndDay day).1 := by
    rw [monthAndDay_civil]
    exact Nat.le_add_left 2 _
  by_contra earlier
  have before := daysBefore_le ((monthAndDay day).1 + 1) epochMonth (by omega) (by omega)
  omega

theorem date_le_length : (monthAndDay day).2 ≤ lengthOf (monthAndDay day).1 := by
  have stands := daysBefore_monthAndDay day
  have next := before_next_month day
  have epoch := epoch_le_month day
  have longer := daysBefore_succ (monthAndDay day).1 (by unfold epochMonth at epoch; omega)
  omega

theorem monthAndDay_firstDay (month date : Nat) (epoch : epochMonth ≤ month) (begun : 1 ≤ date)
    (fits : date ≤ lengthOf month) : monthAndDay (firstDay month + (date - 1)) = (month, date) := by
  have fromMarch : 2 ≤ month := by unfold epochMonth at epoch; omega
  have since := daysBefore_le epochMonth month (by decide) epoch
  rw [daysBefore_epoch] at since
  have next := daysBefore_succ month fromMarch
  obtain ⟨day, atDay⟩ : ∃ day : Nat, day = daysBefore month - 719468 + (date - 1) := ⟨_, rfl⟩
  have number : day + 719468 = daysBefore month + (date - 1) := by omega
  rw [firstDay_eq, ← atDay]
  have stands := daysBefore_monthAndDay day
  have ends := before_next_month day
  have ownDate := date_pos day
  have ownEpoch := epoch_le_month day
  have same : (monthAndDay day).1 = month := by
    by_contra other
    have sides : (monthAndDay day).1 + 1 ≤ month ∨ month + 1 ≤ (monthAndDay day).1 := by omega
    cases sides with
    | inl earlier =>
      have := daysBefore_le _ _ (by unfold epochMonth at ownEpoch; omega) earlier
      omega
    | inr later =>
      have := daysBefore_le _ _ (by omega) later
      omega
  rw [same] at stands
  ext
  · exact same
  · dsimp only
    omega

def monthOf (date : Time) : Nat := (monthAndDay (dayKey date)).1

def dateOf (date : Time) : Nat := (monthAndDay (dayKey date)).2

variable (date : Time)

theorem setMonth_eq (months : Nat) : setMonth date months =
    (firstDay (monthOf date + months) + (dateOf date - 1)) * 86400000 + date % 86400000 := rfl

theorem day_of_clock (day clock : Nat) : (day * 86400000 + clock % 86400000) / 86400000 = day := by
  omega

theorem clock_of_clock (day clock : Nat) :
    (day * 86400000 + clock % 86400000) % 86400000 = clock % 86400000 := by
  omega

theorem dayKey_setMonth (months : Nat) :
    dayKey (setMonth date months) = firstDay (monthOf date + months) + (dateOf date - 1) := by
  rw [setMonth_eq]
  exact day_of_clock _ date

def HasDate (date : Time) (months : Nat) : Prop := dateOf date ≤ lengthOf (monthOf date + months)

instance (date : Time) (months : Nat) : Decidable (HasDate date months) :=
  inferInstanceAs (Decidable (_ ≤ _))

theorem epoch_le_monthOf (months : Nat) : epochMonth ≤ monthOf date + months :=
  (epoch_le_month (dayKey date)).trans (Nat.le_add_right _ _)

theorem setMonth_parts (months : Nat) (has : HasDate date months) :
    monthOf (setMonth date months) = monthOf date + months ∧
      dateOf (setMonth date months) = dateOf date := by
  have parts := monthAndDay_firstDay _ _ (epoch_le_monthOf date months) (date_pos (dayKey date)) has
  constructor
  · rw [monthOf, dayKey_setMonth]
    exact congrArg Prod.fst parts
  · change (monthAndDay (dayKey (setMonth date months))).2 = dateOf date
    rw [dayKey_setMonth, dateOf, parts]

theorem past_length (start length date : Nat) (since : 719468 ≤ start) (past : length < date) :
    start - 719468 + (date - 1) = start + length - 719468 + (date - length - 1) := by
  omega

theorem setMonth_runs_on (months : Nat) (lacks : ¬ HasDate date months) :
    monthOf (setMonth date months) = monthOf date + months + 1 := by
  unfold HasDate at lacks
  have epoch := epoch_le_monthOf date months
  have fromMarch : 2 ≤ monthOf date + months := by unfold epochMonth at epoch; omega
  have shorter := lengthOf_bounds (monthOf date + months)
  have next := lengthOf_bounds (monthOf date + months + 1)
  have own : dateOf date ≤ 31 :=
    (date_le_length (dayKey date)).trans (lengthOf_bounds _).2
  have since := daysBefore_le epochMonth (monthOf date + months) (by decide) epoch
  rw [daysBefore_epoch] at since
  have longer := daysBefore_succ (monthOf date + months) fromMarch
  have past : firstDay (monthOf date + months) + (dateOf date - 1) =
      firstDay (monthOf date + months + 1) +
        (dateOf date - lengthOf (monthOf date + months) - 1) := by
    rw [firstDay_eq, firstDay_eq, longer]
    exact past_length _ _ _ since (Nat.lt_of_not_le lacks)
  have parts := monthAndDay_firstDay (monthOf date + months + 1)
    (dateOf date - lengthOf (monthOf date + months)) (by omega) (by omega) (by omega)
  rw [monthOf, dayKey_setMonth, past]
  exact congrArg Prod.fst parts

theorem setMonth_lands_iff (months : Nat) :
    monthOf (setMonth date months) = monthOf date + months ↔ HasDate date months := by
  constructor
  · intro lands
    by_contra lacks
    have ran := setMonth_runs_on date months lacks
    omega
  · exact fun has => (setMonth_parts date months has).1

theorem setMonth_add (a b : Nat) (has : HasDate date a) :
    setMonth (setMonth date a) b = setMonth date (a + b) := by
  have parts := setMonth_parts date a has
  have clock : setMonth date a % 86400000 = date % 86400000 := by
    rw [setMonth_eq]
    exact clock_of_clock _ date
  calc
    setMonth (setMonth date a) b =
        (firstDay (monthOf date + a + b) + (dateOf date - 1)) * 86400000 + date % 86400000 := by
      rw [setMonth_eq, parts.1, parts.2, clock]
    _ = setMonth date (a + b) := by
      rw [setMonth_eq, Nat.add_assoc]

theorem hasDate_add (a b : Nat) (has : HasDate date a) :
    HasDate (setMonth date a) b ↔ HasDate date (a + b) := by
  have parts := setMonth_parts date a has
  unfold HasDate
  rw [parts.1, parts.2, Nat.add_assoc]

end ErpBackend.Subscriptions
