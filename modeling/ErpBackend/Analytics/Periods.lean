import ErpBackend.Analytics.Summary
import ErpBackend.Dates

/-!
# Requested windows

`isoDay` and `precedingPeriod` of `accounting-rules.ts`, over the texts they are given. A day is
written `YYYY-MM-DD`; what is cut from a date outside the years of four digits is not a day.
-/

namespace ErpBackend.Analytics.Periods

open Foundation Dates

/-- `toISOString().slice(0, 10)`. -/
def isoDate (t : Instant) : Text := (toISOString t).take 10

/-- `/^\d{4}-\d{2}-\d{2}$/`. -/
def shaped : Text → Bool
  | [y, z, c, a, '-', m, n, '-', d, e] => [y, z, c, a, m, n, d, e].all Char.isDigit
  | _ => false

def dayNamed (raw : Text) : Option CivilDate :=
  let year := Nat.ofDigitChars 10 (raw.take 4) 0
  let month := Nat.ofDigitChars 10 ((raw.drop 5).take 2) 0
  let date := Nat.ofDigitChars 10 (raw.drop 8) 0
  if shaped raw = true then
    if real : 1 ≤ month ∧ 1 ≤ date ∧ date ≤ monthLength year month then
      some ⟨year, month, date, real.1, real.2.1, real.2.2⟩
    else none
  else none

/-- `new Date(raw + 'T00:00:00.000Z')`. What a text that names no existing day is read as is
left to the runtime. -/
def midnight (runtime : Text → Option Instant) (raw : Text) : Option Instant :=
  match dayNamed raw with
  | some day => newDate ((day.number - epochDay) * dayMs)
  | none => runtime raw

structure Period where
  first : Text
  last : Text
  deriving DecidableEq

/-- `Math.round(ms / 86_400_000)`. -/
def roundDays (ms : Int) : Int := (2 * ms + dayMs) / (2 * dayMs)

def precedingPeriod (runtime : Text → Option Instant) (fromISO toISO : Text) : Option Period := do
  let start ← midnight runtime fromISO
  let ends ← midnight runtime toISO
  let days := roundDays (ends.ms - start.ms) + 1
  let prevTo ← newDate (start.ms - dayMs)
  let prevFrom ← newDate (prevTo.ms - (days - 1) * dayMs)
  pure ⟨isoDate prevFrom, isoDate prevTo⟩

def isoDay (runtime : Text → Option Instant) (raw : Option Text) (today : Instant) : Text :=
  let fallback := isoDate today
  match raw with
  | none => fallback
  | some raw =>
    if shaped raw = true then
      match midnight runtime raw with
      | none => fallback
      | some parsed => if isoDate parsed = raw then raw else fallback
    else fallback

structure IsoDay where
  day : CivilDate
  years : 0 ≤ day.year ∧ day.year ≤ 9999

namespace IsoDay

def number (day : IsoDay) : Int := day.day.number

def text (day : IsoDay) : Text := dayText day.day

theorem number_bounds (day : IsoDay) : 0 ≤ day.number ∧ day.number < 3652425 := by
  have years := day.years
  have start := (year_nonneg_iff day.day).mp years.1
  have ends := (year_lt_iff 10000 day.day).mp (by omega)
  have length : yearStart 10000 = 3652425 := by decide
  unfold number
  omega

theorem text_eq (day : IsoDay) : day.text =
    padded 4 day.day.year.toNat ++ '-' ::
    (padded 2 day.day.month ++ '-' :: padded 2 day.day.date) := by
  simp [text, dayText, yearText, day.years]

theorem text_length (day : IsoDay) : day.text.length = 10 := by
  simp [text_eq]

end IsoDay

theorem padded_two (n : Nat) : ∃ tens ones, padded 2 n = [tens, ones] :=
  ⟨_, _, rfl⟩

theorem padded_four (n : Nat) : ∃ a b c d, padded 4 n = [a, b, c, d] :=
  ⟨_, _, _, _, rfl⟩

theorem dayNamed_text (day : IsoDay) : dayNamed day.text = some day.day := by
  have years := day.years
  have year := value_padded 4 day.day.year.toNat (by omega)
  have month := value_padded 2 day.day.month (by have := day.day.month_le; omega)
  have date := value_padded 2 day.day.date (by have := day.day.date_le; omega)
  have yearDigits := padded_digits 4 day.day.year.toNat
  have monthDigits := padded_digits 2 day.day.month
  have dateDigits := padded_digits 2 day.day.date
  obtain ⟨y, z, c, a, atYear⟩ := padded_four day.day.year.toNat
  obtain ⟨m, n, atMonth⟩ := padded_two day.day.month
  obtain ⟨d, e, atDate⟩ := padded_two day.day.date
  rw [atYear] at year yearDigits
  rw [atMonth] at month monthDigits
  rw [atDate] at date dateDigits
  have text : day.text = [y, z, c, a, '-', m, n, '-', d, e] := by
    rw [day.text_eq, atYear, atMonth, atDate]
    rfl
  have shape : shaped [y, z, c, a, '-', m, n, '-', d, e] = true := by
    simp only [List.all_cons, List.all_nil, Bool.and_true, Bool.and_eq_true]
      at yearDigits monthDigits dateDigits
    simp [shaped, yearDigits, monthDigits, dateDigits]
  have back : ((day.day.year.toNat : Nat) : Int) = day.day.year := by omega
  have named := day.day.named
  have begun := day.day.begun
  have within := day.day.within
  rw [text]
  simp only [dayNamed, shape, if_true, List.take, List.drop, year, month, date, back]
  rw [dif_pos ⟨named, begun, within⟩]

theorem IsoDay.text_injective (a b : IsoDay) (same : a.text = b.text) : a.day = b.day := by
  have read := dayNamed_text a
  rw [same, dayNamed_text b] at read
  exact (Option.some.inj read).symm

def InYears (t : Instant) : Prop := 0 ≤ (civilDate t.day).year ∧ (civilDate t.day).year ≤ 9999

variable (t : Instant)

theorem inYears_iff : InYears t ↔ 0 ≤ t.day ∧ t.day < 3652425 := by
  have length : yearStart 10000 = 3652425 := by decide
  have start := year_nonneg_iff (civilDate t.day)
  have ends := year_lt_iff 10000 (civilDate t.day)
  rw [number_civilDate] at start ends
  unfold InYears
  omega

theorem isoDate_iso (years : InYears t) :
    isoDate t = dayText (civilDate t.day) := by
  have length : (dayText (civilDate t.day)).length = 10 :=
    IsoDay.text_length ⟨civilDate t.day, years⟩
  rw [isoDate, toISOString, ← length, List.take_left]

theorem isoDate_signed (outside : ¬ InYears t) :
    (isoDate t).length = 10 ∧ (dayText (civilDate t.day)).length = 13 ∧
      ∃ sign rest, isoDate t = sign :: rest ∧ sign.isDigit = false := by
  have year : yearText (civilDate t.day).year =
      (if (civilDate t.day).year < 0 then '-' else '+') :: padded 6
        (civilDate t.day).year.natAbs := by
    unfold yearText
    exact if_neg outside
  have whole : (dayText (civilDate t.day)).length = 13 := by simp [dayText, year]
  have long : 10 ≤ (toISOString t).length := by
    simp only [toISOString, List.length_append, whole]
    omega
  have signed : ∃ rest, isoDate t = (if (civilDate t.day).year < 0 then '-' else '+') :: rest := by
    rw [isoDate, toISOString, dayText, year]
    exact ⟨_, rfl⟩
  obtain ⟨rest, signed⟩ := signed
  refine ⟨List.length_take_of_le long, whole, _, rest, signed, ?_⟩
  split <;> rfl

theorem isoDate_unwritten (outside : ¬ InYears t) (day : IsoDay) :
    isoDate t ≠ day.text := by
  intro same
  obtain ⟨-, -, sign, rest, signed, notDigit⟩ := isoDate_signed t outside
  have digits := padded_digits 4 day.day.year.toNat
  obtain ⟨y, z, c, a, atYear⟩ := padded_four day.day.year.toNat
  rw [day.text_eq, atYear, signed] at same
  have first : sign = y := (List.cons.inj same).1
  simp [atYear, ← first, notDigit] at digits

theorem isoDate_eq_text (day : IsoDay) (same : isoDate t = day.text) :
    t.day = day.number := by
  by_cases years : InYears t
  · rw [isoDate_iso t years] at same
    have days := IsoDay.text_injective ⟨civilDate t.day, years⟩ day same
    calc
      t.day = (civilDate t.day).number := (number_civilDate t.day).symm
      _ = day.number := congrArg CivilDate.number days
  · exact absurd same (isoDate_unwritten t years day)

structure Window where
  first : IsoDay
  last : IsoDay
  ordered : first.number ≤ last.number

namespace Window

def period (w : Window) : Period := ⟨w.first.text, w.last.text⟩

def days (w : Window) : Int := w.last.number - w.first.number + 1

def Precedes (before w : Window) : Prop :=
  before.last.number + 1 = w.first.number ∧ before.days = w.days

end Window

variable (runtime : Text → Option Instant)

theorem midnight_text (day : IsoDay) :
    ∃ t, midnight runtime day.text = some t ∧ t.ms = (day.number - epochDay) * dayMs := by
  have bounds := day.number_bounds
  have valid : -8640000000000000 ≤ (day.number - epochDay) * dayMs ∧
      (day.number - epochDay) * dayMs ≤ 8640000000000000 := by
    unfold epochDay dayMs
    omega
  refine ⟨⟨_, valid⟩, ?_, rfl⟩
  rw [midnight, dayNamed_text]
  exact newDate_valid _ valid

theorem precedingPeriod_window (w : Window) :
    ∃ first last : Instant,
      precedingPeriod runtime w.first.text w.last.text = some ⟨isoDate first, isoDate last⟩ ∧
        first.day = w.first.number - w.days ∧ last.day = w.first.number - 1 := by
  have firstBounds := w.first.number_bounds
  have lastBounds := w.last.number_bounds
  obtain ⟨start, startRead, startMs⟩ := midnight_text runtime w.first
  obtain ⟨ends, endsRead, endsMs⟩ := midnight_text runtime w.last
  have length : roundDays (ends.ms - start.ms) + 1 = w.days := by
    rw [startMs, endsMs]
    unfold roundDays Window.days epochDay dayMs
    omega
  have lastMs : start.ms - dayMs = (w.first.number - 1 - epochDay) * dayMs := by
    rw [startMs]
    unfold dayMs
    omega
  have firstMs : start.ms - dayMs - (w.days - 1) * dayMs =
      (w.first.number - w.days - epochDay) * dayMs := by
    rw [startMs]
    unfold dayMs
    omega
  have lastValid : -8640000000000000 ≤ start.ms - dayMs ∧ start.ms - dayMs ≤ 8640000000000000 := by
    rw [lastMs]
    unfold epochDay dayMs
    omega
  have firstValid : -8640000000000000 ≤ start.ms - dayMs - (w.days - 1) * dayMs ∧
      start.ms - dayMs - (w.days - 1) * dayMs ≤ 8640000000000000 := by
    rw [firstMs]
    unfold Window.days epochDay dayMs
    omega
  refine ⟨⟨_, firstValid⟩, ⟨_, lastValid⟩, ?_, ?_, ?_⟩
  · simp only [precedingPeriod, startRead, endsRead, length, newDate_valid _ lastValid,
      newDate_valid _ firstValid, Option.bind_eq_bind, Option.bind_some, Option.pure_def]
  · simp only [Instant.day, firstMs]
    unfold dayMs epochDay
    omega
  · simp only [Instant.day, lastMs]
    unfold dayMs epochDay
    omega

theorem precedingPeriod_days (w : Window) :
    Analytics.precedingPeriod w.first.number w.last.number =
      (w.first.number - w.days, w.first.number - 1) := by
  simp only [Analytics.precedingPeriod, Window.days, Prod.mk.injEq, and_true]
  omega

theorem preceding_found_iff (w : Window) :
    (∃ before : Window, precedingPeriod runtime w.first.text w.last.text = some before.period ∧
      before.Precedes w) ↔ w.days ≤ w.first.number := by
  obtain ⟨first, last, answered, firstDay, lastDay⟩ := precedingPeriod_window runtime w
  have bounds := w.first.number_bounds
  have ordered := w.ordered
  have length : w.days = w.last.number - w.first.number + 1 := rfl
  constructor
  · intro found
    obtain ⟨before, same, -, days⟩ := found
    rw [answered] at same
    have texts := congrArg Period.first (Option.some.inj same)
    have number := isoDate_eq_text first before.first texts
    have nonneg := before.first.number_bounds
    omega
  · intro room
    have firstYears : InYears first := (inYears_iff first).mpr (by omega)
    have lastYears : InYears last := (inYears_iff last).mpr (by omega)
    have firstNumber : IsoDay.number ⟨civilDate first.day, firstYears⟩ = first.day :=
      number_civilDate _
    have lastNumber : IsoDay.number ⟨civilDate last.day, lastYears⟩ = last.day := number_civilDate _
    refine ⟨⟨⟨_, firstYears⟩, ⟨_, lastYears⟩, by omega⟩, ?_, ?_, ?_⟩
    · rw [answered, isoDate_iso first firstYears, isoDate_iso last lastYears]
      rfl
    · change IsoDay.number ⟨civilDate last.day, lastYears⟩ + 1 = _
      omega
    · change IsoDay.number ⟨civilDate last.day, lastYears⟩ -
        IsoDay.number ⟨civilDate first.day, firstYears⟩ + 1 = _
      omega

structure Requested (raw : Option Text) (today : Instant) (answer : Text) : Prop where
  returned : raw = some answer ↔ ∃ day : IsoDay, raw = some day.text
  fallback : (¬ ∃ day : IsoDay, raw = some day.text) → answer = dayText (civilDate today.day)

theorem shaped_text (day : IsoDay) : shaped day.text = true := by
  have named := dayNamed_text day
  unfold dayNamed at named
  by_contra other
  simp [other] at named

theorem isoDay_text (day : IsoDay) (today : Instant) :
    isoDay runtime (some day.text) today = day.text := by
  obtain ⟨t, read, ms⟩ := midnight_text runtime day
  have number : t.day = day.number := by
    unfold Instant.day
    rw [ms]
    unfold dayMs
    omega
  have days : civilDate t.day = day.day := by
    rw [number]
    exact civilDate_number day.day
  have back : isoDate t = day.text := by
    have years : InYears t := by
      unfold InYears
      rw [days]
      exact day.years
    rw [isoDate_iso t years, days]
    rfl
  simp [isoDay, shaped_text, read, back]

/-- Whatever the runtime makes of a day that does not exist, it is not written as it was. -/
theorem isoDay_other (raw : Option Text) (today : Instant)
    (unwritten : ¬ ∃ day : IsoDay, raw = some day.text) :
    isoDay runtime raw today = isoDate today := by
  cases raw with
  | none => rfl
  | some raw =>
    simp only [isoDay]
    split
    · case isTrue shape =>
      split
      · rfl
      · case h_2 parsed read =>
        split
        · case isTrue same =>
          exfalso
          by_cases years : InYears parsed
          · have written := (isoDate_iso parsed years).symm.trans same
            exact unwritten ⟨⟨_, years⟩, congrArg some written.symm⟩
          · obtain ⟨-, -, sign, rest, signed, notDigit⟩ := isoDate_signed parsed years
            rw [same] at signed
            subst signed
            unfold shaped at shape
            split at shape
            · case h_1 y z c a m n d e atRaw =>
              have first : sign = y := (List.cons.inj atRaw).1
              simp [← first, notDigit] at shape
            · cases shape
        · rfl
    · rfl

theorem isoDay_requested_iff (raw : Option Text) (today : Instant) :
    Requested raw today (isoDay runtime raw today) ↔
      (∃ day : IsoDay, raw = some day.text) ∨ InYears today := by
  constructor
  · intro requested
    by_contra neither
    obtain ⟨unwritten, outside⟩ := not_or.mp neither
    have whole := requested.fallback unwritten
    obtain ⟨short, long, -⟩ := isoDate_signed today outside
    rw [isoDay_other runtime raw today unwritten] at whole
    have lengths := congrArg List.length whole
    omega
  · intro known
    constructor
    · constructor
      · intro same
        by_contra unwritten
        have years := known.resolve_left unwritten
        rw [isoDay_other runtime raw today unwritten, isoDate_iso today years] at same
        exact unwritten ⟨⟨_, years⟩, same⟩
      · intro written
        obtain ⟨day, given⟩ := written
        rw [given, isoDay_text]
    · intro unwritten
      rw [isoDay_other runtime raw today unwritten]
      exact isoDate_iso today (known.resolve_left unwritten)

/-- A window has the one before it exactly when that begins in year 0 or later; a requested day
is kept or today's, unless today's year has no four digits. -/
theorem windows_requested_iff :
    (∀ w : Window,
      (∃ before : Window, precedingPeriod runtime w.first.text w.last.text = some before.period ∧
        before.Precedes w) ↔ w.days ≤ w.first.number) ∧
    ∀ raw today,
      Requested raw today (isoDay runtime raw today) ↔
        (∃ day : IsoDay, raw = some day.text) ∨ InYears today :=
  ⟨preceding_found_iff runtime, isoDay_requested_iff runtime⟩

def openWindow : Window where
  first := ⟨⟨2026, 8, 18, by decide, by decide, by decide⟩, by decide⟩
  last := ⟨⟨9999, 12, 31, by decide, by decide, by decide⟩, by decide⟩
  ordered := by decide

theorem open_window_cut :
    precedingPeriod (fun _ => none) openWindow.first.text openWindow.last.text =
        some ⟨"-005947-04".toList, "2026-08-17".toList⟩ ∧
      ¬ ∃ before : Window,
        precedingPeriod (fun _ => none) openWindow.first.text openWindow.last.text =
          some before.period := by
  have answered : precedingPeriod (fun _ => none) openWindow.first.text openWindow.last.text =
      some ⟨"-005947-04".toList, "2026-08-17".toList⟩ := by
    decide +kernel
  refine ⟨answered, fun found => ?_⟩
  obtain ⟨before, same⟩ := found
  rw [answered] at same
  have texts : "-005947-04".toList = before.first.text :=
    congrArg Period.first (Option.some.inj same)
  have shape := shaped_text before.first
  rw [← texts] at shape
  exact absurd shape (by decide +kernel)

end ErpBackend.Analytics.Periods
