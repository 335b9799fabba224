import ErpBackend.Foundation.Program
import ErpBackend.Foundation.Table
import ErpBackend.Common

/-!
# OtpService

The lifecycle of a challenge. Every transition is an update on the rows that are still
pending; the attempts are counted after a code was compared.
-/

namespace ErpBackend.Auth.Otp

open Foundation

inductive OtpPurpose where
  | phoneVerification
  | deviceVerification
  | logoutReauth
  | portalHandoff
  | registrationContinuation
  deriving DecidableEq

inductive OtpStatus where
  | pending
  | verified
  | expired
  | cancelled
  | locked
  deriving DecidableEq

inductive OtpDeliveryState where
  | notSent
  | accepted
  | channelUnavailable
  | rejected
  | temporaryFailure
  | notAuthorized
  deriving DecidableEq

/-- `<user>:<purpose>:<device or none>`, each part of a fixed shape. -/
structure ActiveKey where
  userId : Id
  purpose : OtpPurpose
  deviceId : Option Id
  deriving DecidableEq

structure OtpChallenge where
  id : Id
  companyId : Id
  userId : Id
  purpose : OtpPurpose
  deviceId : Option Id
  destination : String
  candidatePhone : Option String
  codeHash : String
  status : OtpStatus := .pending
  activeKey : Option ActiveKey
  createdAt : Time
  expiresAt : Time
  attemptCount : Int := 0
  maxAttempts : Int
  lastAttemptAt : Option Time := none
  sendCount : Nat := 0
  lastSentAt : Option Time := none
  resendNotBefore : Option Time := none
  verifiedAt : Option Time := none
  consumedAt : Option Time := none
  cancelledAt : Option Time := none
  lockedAt : Option Time := none
  provider : Option String := none
  providerMessageId : Option String := none
  deliveryState : OtpDeliveryState := .notSent
  deliveryDetail : Option String := none
  idempotencyKey : Option String
  deriving DecidableEq

/-- The last two are what happened, for statements only: the challenge of each comparison made
while it was pending, and of each of these that is still to be counted. -/
structure Store where
  otpChallenges : Table OtpChallenge OtpChallenge.id
  compared : List Id := []
  comparing : List Id := []

inductive Mark where
  | other
  | finish
  | supersede
  | deliver
  | compare (challenge : OtpChallenge)
  | count (challengeId : Id)
  | consume (challengeId : Id)
  deriving DecidableEq

abbrev Request (α : Type) := Prog Store Mark Refusal α

/-- What the deployment fixes, with HMAC-SHA256 (of the code, the challenge and the pepper) and
SHA-256. -/
structure Config where
  otpPepper : Option String
  otpTtlSeconds : Nat
  otpMaxAttempts : Nat
  otpResendCooldownSeconds : Nat
  otpMaxSendsPerWindow : Nat
  otpSendWindowSeconds : Nat
  otpMaxSendsPerDay : Nat
  hmac : String → Id → String → String
  sha256 : String → String

def isWellFormedCode (code : String) : Bool :=
  code.toList.length = 6 ∧ code.toList.all (fun c => '0' ≤ c && c ≤ '9')

def codeMatches (config : Config) (submitted storedHash : String) (challengeId : Id)
    (pepper : String) : Bool :=
  isWellFormedCode submitted &&
    config.sha256 (config.hmac submitted challengeId pepper) = config.sha256 storedHash

def maskPhone (e164 : String) : String :=
  let digits := e164.toList.filter (fun c => '0' ≤ c && c ≤ '9')
  if digits.length ≤ 4 then "***"
  else String.ofList (e164.toList.take 4 ++ "***".toList ++ digits.drop (digits.length - 2))

structure ChallengeView where
  challengeId : Id
  purpose : OtpPurpose
  status : OtpStatus
  destinationMasked : String
  expiresAt : Time
  attemptsRemaining : Int
  resendAvailableAt : Option Time
  delivery : OtpDeliveryState
  delivered : Bool
  deriving DecidableEq

inductive RequestRefused where
  | otpDisabled
  | rateLimited
  | noDestination
  deriving DecidableEq

inductive RequestOutcome where
  | ok (challenge : ChallengeView)
  | refused (reason : RequestRefused) (detail : String)
  deriving DecidableEq

inductive VerifyRefused where
  | invalidCode
  | notFound
  | expired
  | locked
  | alreadyUsed
  | cancelled
  deriving DecidableEq

inductive VerifyOutcome where
  | ok (challengeId : Id) (purpose : OtpPurpose) (deviceId : Option Id)
  | refused (reason : VerifyRefused) (attemptsRemaining : Int)
  deriving DecidableEq

def toView (c : OtpChallenge) : ChallengeView where
  challengeId := c.id
  purpose := c.purpose
  status := c.status
  destinationMasked := maskPhone c.destination
  expiresAt := c.expiresAt
  attemptsRemaining := max 0 (c.maxAttempts - c.attemptCount)
  resendAvailableAt := c.resendNotBefore
  delivery := c.deliveryState
  delivered := c.deliveryState = .accepted

namespace OtpChallenge

def cancelled (now : Time) (c : OtpChallenge) : OtpChallenge :=
  { c with status := .cancelled, cancelledAt := some now, activeKey := none }

def expired (c : OtpChallenge) : OtpChallenge := { c with status := .expired, activeKey := none }

def locked (now : Time) (c : OtpChallenge) : OtpChallenge :=
  { c with status := .locked, lockedAt := some now, activeKey := none }

def verified (now : Time) (c : OtpChallenge) : OtpChallenge :=
  { c with
    status := .verified
    verifiedAt := some now
    consumedAt := some now
    activeKey := none
    attemptCount := c.attemptCount + 1
    lastAttemptAt := some now }

def attempted (now : Time) (c : OtpChallenge) : OtpChallenge :=
  { c with attemptCount := c.attemptCount + 1, lastAttemptAt := some now }

theorem cancelled_id (now : Time) (c : OtpChallenge) : (c.cancelled now).id = c.id := rfl

theorem expired_id (c : OtpChallenge) : c.expired.id = c.id := rfl

theorem locked_id (now : Time) (c : OtpChallenge) : (c.locked now).id = c.id := rfl

theorem verified_id (now : Time) (c : OtpChallenge) : (c.verified now).id = c.id := rfl

theorem attempted_id (now : Time) (c : OtpChallenge) : (c.attempted now).id = c.id := rfl

end OtpChallenge

/-- `updateMany({ where: { …, status: pending } })`, and how many rows that was. -/
def finish (mark : Mark) (p : OtpChallenge → Bool) (f : OtpChallenge → OtpChallenge)
    (keep : ∀ c, (f c).id = c.id) : Request Nat :=
  .transact mark (fun s => .ok
    ({ s with otpChallenges := s.otpChallenges.modify (fun c => p c ∧ c.status = .pending) f keep },
      (s.otpChallenges.filter (fun c => p c ∧ c.status = .pending)).length))

section Service

variable (config : Config) (now : Time)

def markExpired (id : Id) : Request Unit :=
  (finish .finish (fun c => c.id = id) OtpChallenge.expired OtpChallenge.expired_id).void

def lock (id : Id) : Request Unit :=
  (finish .finish (fun c => c.id = id) (OtpChallenge.locked now) (OtpChallenge.locked_id now)).void

def cancel (challengeId : Id) : Request Unit :=
  (finish .finish (fun c => c.id = challengeId) (OtpChallenge.cancelled now)
    (OtpChallenge.cancelled_id now)).void

def expireOverdue : Request Nat :=
  finish .finish (fun c => c.expiresAt ≤ now) OtpChallenge.expired OtpChallenge.expired_id

structure RequestParams where
  companyId : Id
  userId : Id
  purpose : OtpPurpose
  destination : String
  deviceId : Option Id := none
  candidatePhone : Option String := none
  idempotencyKey : Option String := none

def activeKeyFor (userId : Id) (purpose : OtpPurpose) (deviceId : Option Id) : ActiveKey :=
  ⟨userId, purpose, deviceId⟩

/-- Per user in the window, and per user or destination in a day. -/
def checkSendLimits (userId : Id) (destination : String) : Request (Option RequestOutcome) := do
  let inWindow ← .read .other (fun s => (s.otpChallenges.filter (fun c =>
    c.userId = userId ∧ now - config.otpSendWindowSeconds * 1000 ≤ c.createdAt)).length)
  if config.otpMaxSendsPerWindow ≤ inWindow then
    pure (some (.refused .rateLimited "Too many codes requested just now"))
  else do
    let perDay ← .read .other (fun s => (s.otpChallenges.filter (fun c =>
      (c.userId = userId ∨ c.destination = destination) ∧
        now - 24 * 60 * 60 * 1000 ≤ c.createdAt)).length)
    if config.otpMaxSendsPerDay ≤ perDay then
      pure (some (.refused .rateLimited "Daily code limit reached"))
    else pure none

def newChallenge (params : RequestParams) (id : Id) (codeHash : String) : OtpChallenge where
  id := id
  companyId := params.companyId
  userId := params.userId
  purpose := params.purpose
  deviceId := params.deviceId
  destination := params.destination
  candidatePhone := params.candidatePhone
  codeHash := codeHash
  activeKey := some (activeKeyFor params.userId params.purpose params.deviceId)
  createdAt := now
  expiresAt := now + config.otpTtlSeconds * 1000
  maxAttempts := config.otpMaxAttempts
  idempotencyKey := params.idempotencyKey

/-- The unique indexes on `active_key` and on the company with its `idempotency_key`. -/
def clashes (c row : OtpChallenge) : Bool :=
  (c.activeKey.isSome && c.activeKey = row.activeKey) ||
    (c.idempotencyKey.isSome && c.companyId = row.companyId &&
      c.idempotencyKey = row.idempotencyKey)

/-- Supersede a live challenge of the same question, and insert, in one transaction. -/
def supersedeTx (challenge : OtpChallenge) (s : Store) : Except Refusal Store :=
  let superseded := s.otpChallenges.modify
    (fun c => c.activeKey = challenge.activeKey ∧ c.status = .pending)
    (OtpChallenge.cancelled now) (OtpChallenge.cancelled_id now)
  if superseded.any (clashes challenge) then .error (.unique "otp_challenges")
  else match superseded.insert? challenge with
    | none => .error (.unique "PRIMARY")
    | some otpChallenges => .ok { s with otpChallenges }

inductive DeliveryFailureReason where
  | channelUnavailable
  | rejected
  | temporary
  | notAuthorized
  deriving DecidableEq

/-- What the channel says of the message; an adapter that throws counts as `temporary`. -/
inductive DeliveryResult where
  | accepted (provider : String) (providerMessageId : Option String)
  | failed (provider : String) (reason : DeliveryFailureReason) (detail : String)

def mapFailure : DeliveryFailureReason → OtpDeliveryState
  | .channelUnavailable => .channelUnavailable
  | .rejected => .rejected
  | .notAuthorized => .notAuthorized
  | .temporary => .temporaryFailure

/-- The outcome columns of a delivery. -/
def delivered (result : DeliveryResult) (c : OtpChallenge) : OtpChallenge :=
  let sent := { c with
    sendCount := c.sendCount + 1
    lastSentAt := some now
    resendNotBefore := some (now + config.otpResendCooldownSeconds * 1000) }
  match result with
  | .accepted provider providerMessageId =>
      { sent with
        provider := some provider
        providerMessageId := providerMessageId
        deliveryState := .accepted
        deliveryDetail := none }
  | .failed provider reason detail =>
      { sent with
        provider := some provider
        providerMessageId := none
        deliveryState := mapFailure reason
        deliveryDetail := some (String.ofList (detail.toList.take 200)) }

theorem delivered_id (result : DeliveryResult) (c : OtpChallenge) :
    (delivered config now result c).id = c.id := by
  unfold delivered
  cases result with
  | accepted provider providerMessageId => rfl
  | failed provider reason detail => rfl

def deliverTx (result : DeliveryResult) (challengeId : Id) (s : Store) : Except Refusal Store :=
  match s.otpChallenges.find? challengeId with
  | none => .error (.internal "An operation failed because it depends on one or more records")
  | some _ => .ok { s with
      otpChallenges := s.otpChallenges.update challengeId (delivered config now result)
        (delivered_id config now result) }

/-- What a request draws and is told: the key of the row, the code, the fate of the message. -/
structure Draw where
  id : Id
  code : String
  result : DeliveryResult

def create (params : RequestParams) (draw : Draw) (pepper : String) : Request RequestOutcome := do
  let limit ← checkSendLimits config now params.userId params.destination
  match limit with
  | some refused => pure refused
  | none => do
      let challenge := newChallenge config now params draw.id (config.hmac draw.code draw.id pepper)
      .commit .supersede (supersedeTx now challenge)
      .commit .deliver (deliverTx config now draw.result draw.id)
      let fresh ← .read .other (fun s => s.otpChallenges.find? draw.id)
      let fresh ← .expect (.internal "Cannot read properties of null") fresh
      pure (.ok (toView fresh))

def request (params : RequestParams) (draw : Draw) : Request RequestOutcome :=
  match config.otpPepper with
  | none => pure (.refused .otpDisabled "OTP is not configured for this deployment (no pepper set)")
  | some pepper =>
      if params.destination = "" then
        pure (.refused .noDestination "This account has no phone number")
      else match params.idempotencyKey.filter (· ≠ "") with
        | none => create config now params draw pepper
        | some key => do
            let existing ← .read .other (fun s => s.otpChallenges.rows.find? (fun c =>
              c.companyId = params.companyId ∧ c.idempotencyKey = some key))
            match existing with
            | some challenge => pure (.ok (toView challenge))
            | none => create config now params draw pepper

structure ChallengeParams where
  companyId : Id
  userId : Id
  challengeId : Id

def ownChallenge (params : ChallengeParams) (s : Store) : Option OtpChallenge :=
  (s.otpChallenges.find? params.challengeId).filter (fun c =>
    c.companyId = params.companyId ∧ c.userId = params.userId)

def resent (challenge : OtpChallenge) : RequestParams where
  companyId := challenge.companyId
  userId := challenge.userId
  purpose := challenge.purpose
  destination := challenge.destination
  deviceId := challenge.deviceId
  candidatePhone := challenge.candidatePhone

def resend (params : ChallengeParams) (draw : Draw) : Request RequestOutcome := do
  let found ← .read .other (ownChallenge params)
  match found.filter (fun c => c.status = .pending) with
  | none => pure (.refused .otpDisabled "No challenge to resend")
  | some challenge =>
      if challenge.resendNotBefore.any (now < ·) then
        pure (.refused .rateLimited "Please wait before asking for another code")
      else request config now (resent challenge) draw

def live (s : Store) (challengeId : Id) : Bool :=
  (s.otpChallenges.find? challengeId).any (fun c => c.status = .pending)

/-- The code meets the stored hash: nothing is written, but it happened. -/
def compare (challenge : OtpChallenge) : Request Unit :=
  .execute (.compare challenge) (fun s =>
    if live s challenge.id then
      { s with compared := challenge.id :: s.compared, comparing := challenge.id :: s.comparing }
    else s)

/-- `update({ where: { id }, data: { attemptCount: { increment: 1 } } })`. -/
def countTx (challengeId : Id) (s : Store) : Except Refusal (Store × OtpChallenge) :=
  match s.otpChallenges.find? challengeId with
  | none => .error (.internal "An operation failed because it depends on one or more records")
  | some c => .ok
      ({ s with
          otpChallenges := s.otpChallenges.update challengeId (OtpChallenge.attempted now)
            (OtpChallenge.attempted_id now)
          comparing := s.comparing.erase challengeId }, c.attempted now)

def consumeTx (challengeId : Id) (s : Store) : Except Refusal (Store × Nat) :=
  let wins := fun (c : OtpChallenge) => c.id = challengeId ∧ c.status = .pending
  .ok ({ s with
      otpChallenges := s.otpChallenges.modify (fun c => wins c) (OtpChallenge.verified now)
        (OtpChallenge.verified_id now)
      comparing := s.comparing.erase challengeId },
    (s.otpChallenges.filter (fun c => wins c)).length)

def miss (challenge : OtpChallenge) : Request VerifyOutcome := do
  let after ← .transact (.count challenge.id) (countTx now challenge.id)
  let left := after.maxAttempts - after.attemptCount
  if left ≤ 0 then do
    lock now challenge.id
    pure (.refused .locked 0)
  else pure (.refused .invalidCode left)

def hit (challenge : OtpChallenge) : Request VerifyOutcome := do
  let count ← .transact (.consume challenge.id) (consumeTx now challenge.id)
  if count = 0 then pure (.refused .alreadyUsed 0)
  else pure (.ok challenge.id challenge.purpose challenge.deviceId)

def attempt (challenge : OtpChallenge) (code pepper : String) : Request VerifyOutcome :=
  if challenge.maxAttempts - challenge.attemptCount ≤ 0 then do
    lock now challenge.id
    pure (.refused .locked 0)
  else do
    compare challenge
    if codeMatches config code challenge.codeHash challenge.id pepper then hit now challenge
    else miss now challenge

def verifyChallenge (challenge : OtpChallenge) (code pepper : String) : Request VerifyOutcome :=
  match challenge.status with
  | .verified => pure (.refused .alreadyUsed 0)
  | .locked => pure (.refused .locked 0)
  | .cancelled => pure (.refused .cancelled 0)
  | .expired => do
      markExpired challenge.id
      pure (.refused .expired 0)
  | .pending =>
      if challenge.expiresAt ≤ now then do
        markExpired challenge.id
        pure (.refused .expired 0)
      else attempt config now challenge code pepper

def verify (params : ChallengeParams) (code : String) : Request VerifyOutcome :=
  match config.otpPepper with
  | none => pure (.refused .notFound 0)
  | some pepper => do
      let found ← .read .other (ownChallenge params)
      match found with
      | none => pure (.refused .notFound 0)
      | some challenge => verifyChallenge config now challenge code pepper

end Service

end ErpBackend.Auth.Otp
