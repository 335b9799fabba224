import ErpBackend.Foundation.Calendar

/-!
# Date

The `Date` of the runtime: milliseconds since 1970, in the range of valid dates, and the text
`toISOString` writes for them.
-/

namespace ErpBackend.Dates

open Foundation

abbrev Text := List Char

/-- A valid `Date`. -/
structure Instant where
  ms : Int
  valid : -8640000000000000 ≤ ms ∧ ms ≤ 8640000000000000

/-- `new Date(ms)`; `none` is the invalid date. -/
def newDate (ms : Int) : Option Instant :=
  if valid : -8640000000000000 ≤ ms ∧ ms ≤ 8640000000000000 then some ⟨ms, valid⟩ else none

theorem newDate_valid (ms : Int) (valid : -8640000000000000 ≤ ms ∧ ms ≤ 8640000000000000) :
    newDate ms = some ⟨ms, valid⟩ := dif_pos valid

def dayMs : Int := 86400000

def epochDay : Int := 719528

def Instant.day (t : Instant) : Int := t.ms / dayMs + epochDay

def yearText (year : Int) : Text :=
  if 0 ≤ year ∧ year ≤ 9999 then padded 4 year.toNat
  else (if year < 0 then '-' else '+') :: padded 6 year.natAbs

def dayText (day : CivilDate) : Text :=
  yearText day.year ++ '-' :: (padded 2 day.month ++ '-' :: padded 2 day.date)

/-- `THH:mm:ss.sssZ`. -/
def clockText (ms : Nat) : Text :=
  'T' :: (padded 2 (ms / 3600000) ++ ':' :: (padded 2 (ms / 60000 % 60) ++ ':' ::
    (padded 2 (ms / 1000 % 60) ++ '.' :: (padded 3 (ms % 1000) ++ ['Z']))))

def toISOString (t : Instant) : Text :=
  dayText (civilDate t.day) ++ clockText (t.ms % dayMs).toNat

end ErpBackend.Dates
