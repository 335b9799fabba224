import ErpBackend.Dates
import ErpBackend.Platform.Subscriptions

/-!
# Entitlement rules

`entitlement-rules.ts`: what a business is entitled to at an instant. In the position
`activated` the grant and the paid period decide, each by the date it ends on; the other
positions do not look at the clock.
-/

namespace ErpBackend.EntitlementRules

open Foundation Dates
open Subscriptions (SubscriptionStatus EntitlementState)

/-- A date as a `DATETIME(3)` column stores it, at the end of 9999 at the latest. -/
structure Stamp where
  instant : Instant
  stored : instant.ms ≤ 253402300799999

def Stamp.ms (stamp : Stamp) : Int := stamp.instant.ms

/-- The column is an `ENUM`; a text that is none of the four was coerced by the server. -/
inductive Status where
  | position (status : SubscriptionStatus)
  | coerced (text : String)
  deriving DecidableEq

structure SubscriptionRecord where
  subscribedBranchCount : Int
  additionalSeats : Int
  /-- `none` was never paid. -/
  currentPeriodEnd : Option Stamp
  isComplimentary : Bool
  complimentaryUntil : Option Stamp
  /-- Absent reads as `activated`. -/
  status : Option Status := none

structure SeatUsage where
  seatsUsed : Nat
  activeBranchCount : Nat

def graceHours : Int := 72

def graceMs : Int := graceHours * 60 * 60 * 1000

def SubscriptionRecord.positioned (sub : SubscriptionRecord) : Status :=
  sub.status.getD (.position .activated)

def byDates (sub : SubscriptionRecord) (now : Instant) : EntitlementState :=
  if sub.isComplimentary = true ∧ sub.complimentaryUntil.any (fun ends => now.ms < ends.ms) then
    .complimentary
  else
    match sub.currentPeriodEnd with
    | none => .expired
    | some ends =>
      if now.ms < ends.ms then .active
      else if now.ms < ends.ms + graceMs then .grace
      else .expired

/-- A status that is none of the four refuses writes and shows what there is. -/
def stateOf (sub : SubscriptionRecord) (now : Instant) : EntitlementState :=
  match sub.positioned with
  | .position .cancelled => .cancelled
  | .position .suspended => .suspended
  | .position .pendingActivation => .pending
  | .coerced _ => .expired
  | .position .activated => byDates sub now

def canWrite (state : EntitlementState) : Bool :=
  state = .active ∨ state = .grace ∨ state = .complimentary

def canRead (state : EntitlementState) : Bool :=
  state ≠ .pending ∧ state ≠ .suspended ∧ state ≠ .cancelled

def Stamp.afterGrace (stamp : Stamp) : Instant where
  ms := stamp.ms + graceMs
  valid := by
    have stored := stamp.stored
    have valid := stamp.instant.valid
    unfold Stamp.ms graceMs graceHours
    omega

def graceEndsAt (sub : SubscriptionRecord) : Option Instant :=
  sub.currentPeriodEnd.map Stamp.afterGrace

def daysRemaining (sub : SubscriptionRecord) (now : Instant) : Option Int :=
  sub.currentPeriodEnd.map (fun ends => (ends.ms - now.ms) / dayMs)

/-- `Math.ceil(ms / (60 * 60 * 1000))`. -/
def ceilHours (ms : Int) : Int := -(-ms / (60 * 60 * 1000))

def graceHoursRemaining (sub : SubscriptionRecord) (now : Instant) : Int :=
  match graceEndsAt sub with
  | none => 0
  | some ends => max 0 (ceilHours (ends.ms - now.ms))

structure Entitlement where
  state : EntitlementState
  periodEnd : Option Text
  graceEnd : Option Text
  daysRemaining : Option Int
  graceHoursRemaining : Int
  subscribedBranchCount : Int
  activeBranchCount : Nat
  includedSeats : Int
  additionalSeats : Int
  seatLimit : Int
  seatsUsed : Int
  overLimit : Bool
  canRead : Bool
  canWrite : Bool
  isComplimentary : Bool
  status : Status
  calculatedAt : Text

def buildEntitlement (sub : SubscriptionRecord) (usage : SeatUsage) (now : Instant) : Entitlement :=
  let state := stateOf sub now
  let seats := Users.seatMath ⟨sub.subscribedBranchCount, sub.additionalSeats⟩ ⟨usage.seatsUsed⟩
  { state
    periodEnd := sub.currentPeriodEnd.map (fun ends => toISOString ends.instant)
    graceEnd := (graceEndsAt sub).map toISOString
    daysRemaining := daysRemaining sub now
    graceHoursRemaining := if state = .grace then graceHoursRemaining sub now else 0
    subscribedBranchCount := sub.subscribedBranchCount
    activeBranchCount := usage.activeBranchCount
    includedSeats := seats.includedSeats
    additionalSeats := seats.additionalSeats
    seatLimit := seats.seatLimit
    seatsUsed := seats.seatsUsed
    overLimit := seats.overLimit
    canRead := canRead state
    canWrite := canWrite state
    isComplimentary := state = .complimentary
    status := sub.positioned
    calculatedAt := toISOString now }

def Ahead (ends : Option Int) (now : Int) : Prop := ∃ instant ∈ ends, now < instant

instance (ends : Option Int) (now : Int) : Decidable (Ahead ends now) :=
  inferInstanceAs (Decidable (∃ instant ∈ ends, now < instant))

theorem Ahead.earlier (ends : Option Int) (t u : Int) (ordered : t ≤ u) (ahead : Ahead ends u) :
    Ahead ends t := by
  obtain ⟨instant, held, before⟩ := ahead
  exact ⟨instant, held, by omega⟩

def laterOf : Option Int → Option Int → Option Int
  | some a, some b => some (max a b)
  | some a, none => some a
  | none, b => b

theorem ahead_laterOf (a b : Option Int) (now : Int) :
    Ahead (laterOf a b) now ↔ Ahead a now ∨ Ahead b now := by
  cases a <;> cases b <;> simp [Ahead, laterOf]

def grantEnds (sub : SubscriptionRecord) : Option Int :=
  if sub.isComplimentary = true then sub.complimentaryUntil.map Stamp.ms else none

def paidEnds (sub : SubscriptionRecord) : Option Int := sub.currentPeriodEnd.map Stamp.ms

def withGrace (ends : Option Int) : Option Int := ends.map (· + graceMs)

theorem ahead_withGrace (ends : Option Int) (now : Int) (ahead : Ahead ends now) :
    Ahead (withGrace ends) now := by
  obtain ⟨instant, held, before⟩ := ahead
  have positive : 0 < graceMs := by decide
  exact ⟨instant + graceMs, Option.mem_map_of_mem _ held, by omega⟩

/-- What the dates say, of the end of the grant and the paid end alone. -/
def dated (grant paid : Option Int) (now : Int) : EntitlementState :=
  if Ahead grant now then .complimentary
  else if Ahead paid now then .active
  else if Ahead (withGrace paid) now then .grace
  else .expired

variable (sub : SubscriptionRecord)

variable (now : Instant)

theorem byDates_dated :
    byDates sub now = dated (grantEnds sub) (paidEnds sub) now.ms := by
  unfold byDates dated grantEnds paidEnds withGrace Ahead
  cases sub.isComplimentary <;> cases sub.complimentaryUntil <;> cases sub.currentPeriodEnd <;> simp

structure RecordOf (sub : Subscriptions.Subscription) (record : SubscriptionRecord) : Prop where
  status : record.status = some (.position sub.status)
  isComplimentary : record.isComplimentary = sub.isComplimentary
  complimentaryUntil : record.complimentaryUntil.map Stamp.ms = sub.complimentaryUntil.map Int.ofNat
  currentPeriodEnd : record.currentPeriodEnd.map Stamp.ms = sub.currentPeriodEnd.map Int.ofNat

theorem byDates_recordOf (sub : Subscriptions.Subscription) (record : SubscriptionRecord)
    (of : RecordOf sub record) (now : Instant) (time : Time) (clock : now.ms = time) :
    byDates record now = Subscriptions.byDates sub time := by
  have grant : grantEnds record =
      if sub.isComplimentary = true then sub.complimentaryUntil.map Int.ofNat else none := by
    rw [grantEnds, of.isComplimentary, of.complimentaryUntil]
  have paid : paidEnds record = sub.currentPeriodEnd.map Int.ofNat := of.currentPeriodEnd
  have hours : graceMs = (Subscriptions.graceMs : Int) := by decide
  rw [byDates_dated, grant, paid, clock]
  unfold dated withGrace Ahead Subscriptions.byDates
  cases sub.isComplimentary <;> cases sub.complimentaryUntil <;> cases sub.currentPeriodEnd <;>
    simp [hours] <;> norm_cast

theorem stateOf_recordOf (sub : Subscriptions.Subscription) (record : SubscriptionRecord)
    (of : RecordOf sub record) (now : Instant) (time : Time) (clock : now.ms = time) :
    stateOf record now = Subscriptions.stateOf sub time := by
  have positioned : record.positioned = .position sub.status := by
    simp [SubscriptionRecord.positioned, of.status]
  unfold stateOf Subscriptions.stateOf
  rw [positioned]
  cases sub.status with
  | activated => exact byDates_recordOf sub record of now time clock
  | _ => rfl

def stage : EntitlementState → Option Nat
  | .complimentary => some 0
  | .active => some 1
  | .grace => some 2
  | .expired => some 3
  | .pending | .suspended | .cancelled => none

/-- The state has moved on by the dates, or has stayed where an administrator put it. -/
def NotEarlier (before after : EntitlementState) : Prop :=
  match stage before, stage after with
  | some old, some new => old ≤ new
  | _, _ => after = before

theorem NotEarlier.refl (state : EntitlementState) : NotEarlier state state := by
  cases state <;> simp [NotEarlier, stage]

variable (grant paid : Option Int)

theorem dated_notEarlier (t u : Int) (ordered : t ≤ u) :
    NotEarlier (dated grant paid t) (dated grant paid u) := by
  have granted := Ahead.earlier grant t u ordered
  have running := Ahead.earlier paid t u ordered
  have late := Ahead.earlier (withGrace paid) t u ordered
  unfold dated
  split_ifs <;> simp_all [NotEarlier, stage]

theorem canWrite_dated (now : Int) :
    canWrite (dated grant paid now) = true ↔ Ahead (laterOf grant (withGrace paid)) now := by
  have graced := ahead_withGrace paid now
  rw [ahead_laterOf]
  unfold dated
  split_ifs <;> simp_all [canWrite]

theorem dated_grace (now : Int) (state : dated grant paid now = .grace) :
    Ahead (withGrace paid) now := by
  unfold dated at state
  split_ifs at state
  assumption

theorem stateOf_activated (activated : sub.positioned = .position .activated) :
    stateOf sub now = dated (grantEnds sub) (paidEnds sub) now.ms := by
  simp only [stateOf, activated, byDates_dated]

theorem stateOf_other (other : sub.positioned ≠ .position .activated)
    (t u : Instant) : stateOf sub t = stateOf sub u ∧ canWrite (stateOf sub t) = false := by
  unfold stateOf
  cases position : sub.positioned with
  | coerced text => exact ⟨rfl, rfl⟩
  | position status =>
    cases status with
    | activated => exact absurd position other
    | _ => exact ⟨rfl, rfl⟩

theorem stateOf_grace (state : stateOf sub now = .grace) :
    Ahead (withGrace (paidEnds sub)) now.ms := by
  by_cases activated : sub.positioned = .position .activated
  · rw [stateOf_activated sub now activated] at state
    exact dated_grace _ _ _ state
  · have blocked := (stateOf_other sub activated now now).2
    rw [state] at blocked
    cases blocked

theorem ceilHours_pos (ms : Int) : 0 < ceilHours ms ↔ 0 < ms := by
  unfold ceilHours
  omega

theorem graceHoursRemaining_pos :
    0 < graceHoursRemaining sub now ↔ Ahead (withGrace (paidEnds sub)) now.ms := by
  unfold graceHoursRemaining graceEndsAt Ahead withGrace paidEnds
  cases sub.currentPeriodEnd with
  | none => simp
  | some ends =>
    have hours := ceilHours_pos (ends.ms + graceMs - now.ms)
    simp only [Option.map_some, Stamp.afterGrace, Option.mem_some_iff, exists_eq_left', lt_max_iff,
      lt_irrefl, false_or, hours]
    omega

structure RunsOut (sub : SubscriptionRecord) : Prop where
  inOrder : ∀ t u : Instant, t.ms ≤ u.ms → NotEarlier (stateOf sub t) (stateOf sub u)
  writes : ∀ t, canWrite (stateOf sub t) = true ↔
    sub.positioned = .position .activated ∧
      Ahead (laterOf (grantEnds sub) (withGrace (paidEnds sub))) t.ms
  closed : ∀ t u : Instant, t.ms ≤ u.ms → canWrite (stateOf sub t) = false →
    canWrite (stateOf sub u) = false
  countdown : ∀ usage t, 0 < (buildEntitlement sub usage t).graceHoursRemaining ↔
    (buildEntitlement sub usage t).state = .grace

theorem canWrite_iff (t : Instant) :
    canWrite (stateOf sub t) = true ↔ sub.positioned = .position .activated ∧
      Ahead (laterOf (grantEnds sub) (withGrace (paidEnds sub))) t.ms := by
  by_cases activated : sub.positioned = .position .activated
  · rw [stateOf_activated sub t activated, canWrite_dated]
    simp [activated]
  · simp [(stateOf_other sub activated t t).2, activated]

theorem entitlement_runs_out (sub : SubscriptionRecord) : RunsOut sub where
  inOrder := by
    intro t u ordered
    by_cases activated : sub.positioned = .position .activated
    · rw [stateOf_activated sub t activated, stateOf_activated sub u activated]
      exact dated_notEarlier _ _ _ _ ordered
    · rw [(stateOf_other sub activated t u).1]
      exact NotEarlier.refl _
  writes := canWrite_iff sub
  closed := by
    intro t u ordered blocked
    by_contra open'
    have writes := (canWrite_iff sub u).mp (eq_true_of_ne_false open')
    have before := (canWrite_iff sub t).mpr ⟨writes.1, writes.2.earlier _ _ _ ordered⟩
    rw [before] at blocked
    cases blocked
  countdown := by
    intro usage t
    change 0 < (if stateOf sub t = .grace then graceHoursRemaining sub t else 0) ↔
      stateOf sub t = .grace
    constructor
    · intro counting
      by_contra other
      simp [other] at counting
    · intro grace
      rw [if_pos grace, graceHoursRemaining_pos]
      exact stateOf_grace sub t grace

end ErpBackend.EntitlementRules
