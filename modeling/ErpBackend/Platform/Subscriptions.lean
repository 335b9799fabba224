import ErpBackend.Billing.Assessment

/-!
# SubscriptionLifecycleService

A platform administrator puts a subscription in one of four positions; in `activated` the
dates decide what the business is entitled to. Provisioning moves the dates and leaves the
position. Times are those of a server in UTC.
-/

namespace ErpBackend.Subscriptions

open Foundation

inductive SubscriptionStatus where
  | pendingActivation
  | activated
  | suspended
  | cancelled
  deriving DecidableEq

inductive EntitlementState where
  | pending
  | active
  | grace
  | expired
  | complimentary
  | suspended
  | cancelled
  deriving DecidableEq

structure Subscription where
  id : Id
  companyId : Id
  status : SubscriptionStatus
  subscribedBranchCount : Nat
  additionalSeats : Nat
  currentPeriodEnd : Option Time
  isComplimentary : Bool
  complimentaryReason : Option String
  complimentaryUntil : Option Time
  version : Nat
  deriving DecidableEq

def graceMs : Time := 72 * 60 * 60 * 1000

/-- What the dates say: a grant that still runs, then the paid period and its grace. -/
def byDates (sub : Subscription) (now : Time) : EntitlementState :=
  if sub.isComplimentary = true ∧ sub.complimentaryUntil.any (fun ends => now < ends) then
    .complimentary
  else
    match sub.currentPeriodEnd with
    | none => .expired
    | some ends =>
      if now < ends then .active
      else if now < ends + graceMs then .grace
      else .expired

def stateOf (sub : Subscription) (now : Time) : EntitlementState :=
  match sub.status with
  | .cancelled => .cancelled
  | .suspended => .suspended
  | .pendingActivation => .pending
  | .activated => byDates sub now

def monthAndDay (day : Day) : Nat × Nat :=
  let shifted := day + 719468
  let dayOfEra := shifted % 146097
  let yearOfEra := (dayOfEra - dayOfEra / 1460 + dayOfEra / 36524 - dayOfEra / 146096) / 365
  let dayOfYear := dayOfEra - (365 * yearOfEra + yearOfEra / 4 - yearOfEra / 100)
  let shiftedMonth := (5 * dayOfYear + 2) / 153
  (12 * (yearOfEra + shifted / 146097 * 400) + shiftedMonth + 2,
    dayOfYear - (153 * shiftedMonth + 2) / 5 + 1)

def firstDay (months : Nat) : Day :=
  let year := (months - 2) / 12
  let shiftedMonth := (months - 2) % 12
  year / 400 * 146097 + year % 400 * 365 + year % 400 / 4 - year % 400 / 100 +
    (153 * shiftedMonth + 2) / 5 - 719468

/-- `date.setMonth(date.getMonth() + months)`: a day past the end of that month runs on
into the next. -/
def setMonth (date : Time) (months : Nat) : Time :=
  let (month, day) := monthAndDay (dayKey date)
  (firstDay (month + months) + (day - 1)) * 86400000 + date % 86400000

-- a month after 31 January 2026
example : renderDay (dayKey (setMonth 1769817600000 1)) = "2026-03-03" := by decide

inductive SubscriptionEventKind where
  | registered
  | administrativeGrant
  | extended
  | suspended
  | reinstated
  | cancelled
  | branchesChanged
  | seatsChanged
  | complimentaryGranted
  | complimentaryRevoked
  deriving DecidableEq

structure SubscriptionEvent where
  id : Id
  companyId : Id
  subscriptionId : Id
  kind : SubscriptionEventKind
  note : Option String
  periodEndAfter : Option Time
  branchesAfter : Option Nat
  seatsAfter : Option Nat
  actor : Option String
  deriving DecidableEq

/-- The business is the unique key of its subscription. -/
structure Store where
  subscriptions : Table Subscription Subscription.companyId
  events : Table SubscriptionEvent SubscriptionEvent.id
  billing : Billing.Store

/-- The `data` of the five transitions. -/
inductive Data where
  | grant (reason : String) (complimentaryUntil : Time)
  | extend (currentPeriodEnd : Time)
  | suspend
  | reinstate
  | cancel
  deriving DecidableEq

def Data.set (sub : Subscription) : Data → Subscription
  | .grant reason complimentaryUntil =>
      { sub with
        status := .activated
        isComplimentary := true
        complimentaryReason := some reason
        complimentaryUntil := some complimentaryUntil }
  | .extend currentPeriodEnd =>
      { sub with status := .activated, currentPeriodEnd := some currentPeriodEnd }
  | .suspend => { sub with status := .suspended }
  | .reinstate => { sub with status := .activated }
  | .cancel => { sub with status := .cancelled }

/-- `{ ...data, version: { increment: 1 } }`. -/
def Data.written (data : Data) (sub : Subscription) : Subscription :=
  { data.set sub with version := sub.version + 1 }

theorem Data.written_companyId (data : Data) (sub : Subscription) :
    (data.written sub).companyId = sub.companyId := by
  cases data <;> rfl

@[simp]
theorem Data.written_version (data : Data) (sub : Subscription) :
    (data.written sub).version = sub.version + 1 := rfl

inductive Mark where
  | other
  | transition (companyId : Id) (expectedVersion : Option Nat) (data : Data)

abbrev Request (α : Type) := Prog Store Mark Refusal α

def findSubscription (companyId : Id) (s : Store) : Option Subscription :=
  s.subscriptions.find? companyId

def Current (expectedVersion : Option Nat) (row : Subscription) : Prop :=
  ∀ version ∈ expectedVersion, row.version = version

instance (expectedVersion : Option Nat) (row : Subscription) :
    Decidable (Current expectedVersion row) :=
  inferInstanceAs (Decidable (∀ version ∈ expectedVersion, row.version = version))

def subscriptionChanged : Refusal :=
  (Refusal.conflict "Somebody else changed this subscription. Refresh and try again.").coded
    "subscription_changed"

def transition (companyId : Id) (expectedVersion : Option Nat) (data : Data) (s : Store) :
    Except Refusal (Store × Subscription) :=
  match findSubscription companyId s with
  | none => .error subscriptionChanged
  | some row =>
    if Current expectedVersion row then
      .ok ({ s with
        subscriptions := s.subscriptions.update companyId data.written data.written_companyId },
        data.written row)
    else .error subscriptionChanged

def createEvent (row : SubscriptionEvent) (s : Store) : Except Refusal Store :=
  match s.events.insert? row with
  | none => .error (.unique "PRIMARY")
  | some events => .ok { s with events }

def loadOrThrow (companyId : Id) : Request Subscription := do
  let sub ← .read .other (findSubscription companyId)
  .expect (.notFound "Unknown business") sub

/-- `text.slice(0, 255)`. -/
def slice255 (text : String) : String := String.ofList (text.toList.take 255)

structure Ctx where
  actor : String
  now : Time
  eventId : Id
  periodId : Id

/-- The event of a transition that left `after`. -/
def eventOf (ctx : Ctx) (before after : Subscription) (kind : SubscriptionEventKind)
    (note : Option String) : SubscriptionEvent where
  id := ctx.eventId
  companyId := before.companyId
  subscriptionId := before.id
  kind := kind
  note := note
  periodEndAfter := after.currentPeriodEnd
  branchesAfter := some after.subscribedBranchCount
  seatsAfter := some after.additionalSeats
  actor := some ctx.actor

structure Outcome where
  subscription : Subscription
  applied : Bool
  deriving DecidableEq

def apply (companyId : Id) (expectedVersion : Option Nat) (data : Data) (ctx : Ctx)
    (before : Subscription) (kind : SubscriptionEventKind) (note : Option String) :
    Request Subscription := do
  let after ← .transact (.transition companyId expectedVersion data)
    (transition companyId expectedVersion data)
  .commit .other (createEvent (eventOf ctx before after kind note))
  pure after

structure GrantInput where
  days : Int
  reason : String
  expectedVersion : Option Nat := none

def dayMs : Time := 24 * 60 * 60 * 1000

def GrantInput.until (input : GrantInput) (now : Time) : Time := now + input.days.toNat * dayMs

def AlreadyDone (before : Subscription) (ends : Time) : Prop :=
  before.status = .activated ∧ before.isComplimentary = true ∧
    ∃ granted ∈ before.complimentaryUntil, granted < ends + 60000 ∧ ends < granted + 60000

instance (before : Subscription) (ends : Time) : Decidable (AlreadyDone before ends) :=
  inferInstanceAs (Decidable (_ ∧ _ ∧ _))

def activateByGrant (companyId : Id) (input : GrantInput) (ctx : Ctx) : Request Outcome := do
  .require (1 ≤ input.days ∧ input.days ≤ 3650)
    (.badRequest "Give a duration between 1 and 3650 days.")
  .require (blank (some input.reason) = false)
    (.badRequest "A grant needs a reason — it is the whole record.")
  let before ← loadOrThrow companyId
  let ends := input.until ctx.now
  if AlreadyDone before ends then pure ⟨before, false⟩
  else
    let after ← apply companyId input.expectedVersion (.grant (slice255 input.reason) ends) ctx
      before .administrativeGrant (some (slice255 input.reason))
    (Billing.openPeriod ctx.periodId companyId before.id after.complimentaryUntil ctx.now).focus
      Store.billing (fun s billing => { s with billing }) (fun _ => .other)
    pure ⟨after, true⟩

structure ExtendInput where
  months : Int
  reason : Option String := none
  expectedVersion : Option Nat := none

def extendFrom (before : Subscription) (now : Time) : Time :=
  match before.currentPeriodEnd with
  | some ends => if now < ends then ends else now
  | none => now

def extend (companyId : Id) (input : ExtendInput) (ctx : Ctx) : Request Outcome := do
  .require (1 ≤ input.months ∧ input.months ≤ 60)
    (.badRequest "Extend by between 1 and 60 months.")
  let before ← loadOrThrow companyId
  let ends := setMonth (extendFrom before ctx.now) input.months.toNat
  let after ← apply companyId input.expectedVersion (.extend ends) ctx before .extended
    (input.reason.map slice255)
  pure ⟨after, true⟩

structure ReasonInput where
  reason : String
  expectedVersion : Option Nat := none

def suspend (companyId : Id) (input : ReasonInput) (ctx : Ctx) : Request Outcome := do
  .require (blank (some input.reason) = false) (.badRequest "A suspension needs a reason.")
  let before ← loadOrThrow companyId
  if before.status = .suspended then pure ⟨before, false⟩
  else
    let after ← apply companyId input.expectedVersion .suspend ctx before .suspended
      (some (slice255 input.reason))
    pure ⟨after, true⟩

structure ReinstateInput where
  reason : Option String := none
  expectedVersion : Option Nat := none

def reinstate (companyId : Id) (input : ReinstateInput) (ctx : Ctx) : Request Outcome := do
  let before ← loadOrThrow companyId
  if before.status ≠ .suspended then pure ⟨before, false⟩
  else
    let after ← apply companyId input.expectedVersion .reinstate ctx before .reinstated
      (input.reason.map slice255)
    pure ⟨after, true⟩

def cancel (companyId : Id) (input : ReasonInput) (ctx : Ctx) : Request Outcome := do
  .require (blank (some input.reason) = false) (.badRequest "A cancellation needs a reason.")
  let before ← loadOrThrow companyId
  if before.status = .cancelled then pure ⟨before, false⟩
  else
    let after ← apply companyId input.expectedVersion .cancel ctx before .cancelled
      (some (slice255 input.reason))
    pure ⟨after, true⟩

def registered (companyId : Id) (ctx : Ctx) (s : Store) : Except Refusal Store :=
  let row : Subscription :=
    ⟨ctx.periodId, companyId, .pendingActivation, 1, 0, none, false, none, none, 0⟩
  match s.subscriptions.insert? row with
  | none => .error (.unique "ux_subscriptions_company")
  | some subscriptions =>
    createEvent
      { id := ctx.eventId
        companyId
        subscriptionId := row.id
        kind := .registered
        note := some "Self-service registration. Awaiting activation."
        periodEndAfter := none
        branchesAfter := none
        seatsAfter := none
        actor := some "self-service" }
      { s with subscriptions }

def register (companyId : Id) (ctx : Ctx) : Request Unit :=
  .commit .other (registered companyId ctx)

structure ProvisionDto where
  months : Option Nat := none
  subscribedBranchCount : Option Nat := none
  additionalSeats : Option Nat := none
  complimentary : Option Bool := none
  reason : Option String := none

/-- The dates and counts `data` sets; the position is not among them. -/
def ProvisionDto.set (dto : ProvisionDto) (existing : Subscription) (now : Time)
    (sub : Subscription) : Subscription :=
  { sub with
    currentPeriodEnd :=
      match dto.months with
      | some (months + 1) => some (setMonth (extendFrom existing now) (months + 1))
      | _ => sub.currentPeriodEnd
    subscribedBranchCount := dto.subscribedBranchCount.getD sub.subscribedBranchCount
    additionalSeats := dto.additionalSeats.getD sub.additionalSeats
    isComplimentary := dto.complimentary.getD sub.isComplimentary
    complimentaryReason :=
      match dto.complimentary with
      | some true => dto.reason
      | some false => none
      | none => sub.complimentaryReason
    complimentaryUntil :=
      match dto.complimentary with
      | some true => some (setMonth now (dto.months.getD 1))
      | some false => none
      | none => sub.complimentaryUntil
    version := sub.version + 1 }

theorem ProvisionDto.set_companyId (dto : ProvisionDto) (existing : Subscription) (now : Time)
    (sub : Subscription) : (dto.set existing now sub).companyId = sub.companyId := rfl

@[simp]
theorem ProvisionDto.set_status (dto : ProvisionDto) (existing : Subscription) (now : Time)
    (sub : Subscription) : (dto.set existing now sub).status = sub.status := rfl

def ProvisionDto.kind (dto : ProvisionDto) : SubscriptionEventKind :=
  match dto.complimentary with
  | some true => .complimentaryGranted
  | some false => .complimentaryRevoked
  | none =>
    if dto.additionalSeats.isSome = true then .seatsChanged
    else if dto.subscribedBranchCount.isSome = true then .branchesChanged
    else .extended

def ProvisionDto.Empty (dto : ProvisionDto) : Prop :=
  dto.months.getD 0 = 0 ∧ dto.subscribedBranchCount = none ∧ dto.additionalSeats = none ∧
    dto.complimentary = none

instance (dto : ProvisionDto) : Decidable dto.Empty := inferInstanceAs (Decidable (_ ∧ _ ∧ _ ∧ _))

def provisioned (dto : ProvisionDto) (existing : Subscription) (now : Time) (s : Store) :
    Except Refusal (Store × Subscription) :=
  match findSubscription existing.companyId s with
  | none => .error (.notFound "Record to update not found.")
  | some row =>
    if row.id = existing.id then
      .ok ({ s with
        subscriptions := s.subscriptions.update existing.companyId (dto.set existing now)
          (dto.set_companyId existing now) }, dto.set existing now row)
    else .error (.notFound "Record to update not found.")

def provision (companyId : Id) (dto : ProvisionDto) (ctx : Ctx) : Request Subscription := do
  let existing ← .read .other (findSubscription companyId)
  let existing ← .expect (.badRequest "No such company") existing
  .require (dto.complimentary ≠ some true ∨ (dto.reason.getD "") ≠ "")
    (.badRequest "A complimentary grant needs a reason")
  .require (¬dto.Empty) (.badRequest "Nothing to change")
  let updated ← .transact .other (provisioned dto existing ctx.now)
  .commit .other (createEvent (eventOf ctx existing updated dto.kind dto.reason))
  pure updated

end ErpBackend.Subscriptions
