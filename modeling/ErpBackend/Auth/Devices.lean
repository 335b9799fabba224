import ErpBackend.Auth.Sessions

/-!
# DevicesService and AuthService.completeLogin

A login recognises the device first, creates its session, and binds the two last, each
in a transaction of its own. An adoption reads the session, and enrolls a device for it
in a later transaction.
-/

namespace ErpBackend.Auth

open Foundation

/-- What a step is about to do. After a login has created its session, its steps name it. A binding
carries what its call has read: the row of the device, or the binding of the session. -/
inductive DeviceMark where
  | other
  | create (sessionId : Id)
  | touch (sessionId : Id)
  | attach (sessionId : Id) (read : UserDevice)
  | enroll (sessionId deviceId : Id) (read : Option Id)
  | revoke (deviceId : Id)
  deriving DecidableEq

abbrev DeviceRequest (α : Type) := Prog Store DeviceMark Refusal α

/-- `Boolean(text)`. -/
def truthy : Option String → Bool
  | none => false
  | some text => text ≠ ""

structure DeviceEnrollment where
  deviceId : Id
  deviceSecret : String
  trustMethod : DeviceTrustMethod
  deriving DecidableEq

namespace UserDevice

def touched (now : Time) (device : UserDevice) : UserDevice :=
  { device with lastSeenAt := some now }

def revoked (now : Time) (ownerUserId : Id) (device : UserDevice) : UserDevice :=
  { device with revokedAt := some now, revokedById := some ownerUserId }

theorem touched_id (now : Time) (device : UserDevice) : (device.touched now).id = device.id := rfl

theorem revoked_id (now : Time) (ownerUserId : Id) (device : UserDevice) :
    (device.revoked now ownerUserId).id = device.id := rfl

end UserDevice

section Service

variable (hashing : Hashing) (now : Time)

/-- `LAST_SEEN_THROTTLE_MS`. -/
def lastSeenThrottleMs : Time := 15 * 60 * 1000

/-- `randomBytes`: the number of the draw. -/
def drawSecret : DeviceRequest Nat :=
  .transact .other (fun s => .ok ({ s with drawn := s.drawn + 1 }, s.drawn))

structure EnrollParams where
  companyId : Id
  userId : Id
  sessionId : Id
  trustMethod : DeviceTrustMethod

/-- The device and the binding of the session, in one transaction. -/
def enrollTx (params : EnrollParams) (id : Id) (secret : Nat) (s : Store) : Except Refusal Store :=
  let device : UserDevice :=
    { id
      companyId := params.companyId
      userId := params.userId
      secretHash := hashing.hash secret (hashing.generate secret)
      trustMethod := params.trustMethod }
  match s.devices.insert? device with
  | none => .error (.constraint "PRIMARY")
  | some devices =>
      match s.sessions.find? params.sessionId with
      | none => .error recordNotFound
      | some _ => .ok { s with
          devices
          sessions := s.sessions.update params.sessionId (AuthSession.bound id)
            (AuthSession.bound_id id)
          enrolled := s.enrolled ++ [(params.sessionId, id)] }

/-- `read` is the device that the caller knows the session to have. -/
def enroll (params : EnrollParams) (id : Id) (read : Option Id) :
    DeviceRequest DeviceEnrollment := do
  let secret ← drawSecret
  .commit (.enroll params.sessionId id read) (enrollTx hashing params id secret)
  pure ⟨id, hashing.generate secret, params.trustMethod⟩

/-- The row of the device, where the pair is one that was issued to this user and still stands. -/
def recognised (userId deviceId : Id) (secret : String) (s : Store) : Option UserDevice :=
  match s.devices.find? deviceId with
  | none => none
  | some device =>
      if device.revokedAt.isSome ∨ device.userId ≠ userId then none
      else if hashing.verify device.secretHash secret then some device
      else none

def recognise (userId : Id) (deviceId secret : String) : DeviceRequest (Option UserDevice) :=
  if ¬isUuid deviceId ∨ secret = "" then pure none
  else .read .other (recognised hashing userId (uuidToBin deviceId) secret)

def unseenSince (device : UserDevice) : Bool :=
  match device.lastSeenAt with
  | none => true
  | some seen => seen < now - lastSeenThrottleMs

/-- The session is bound, and the device touched, in one transaction. -/
def attachTx (sessionId deviceId : Id) (s : Store) : Except Refusal Store :=
  match s.sessions.find? sessionId with
  | none => .error recordNotFound
  | some _ => .ok { s with
      sessions := s.sessions.update sessionId (AuthSession.bound deviceId)
        (AuthSession.bound_id deviceId)
      devices := s.devices.modify (fun device => device.id = deviceId ∧ unseenSince now device)
        (UserDevice.touched now) (UserDevice.touched_id now) }

def attach (sessionId : Id) (device : UserDevice) : DeviceRequest Unit :=
  .commit (.attach sessionId device) (attachTx now sessionId device.id)

inductive Adoption where
  | alreadyBound (deviceId : Id)
  | enrolled (enrollment : DeviceEnrollment)
  deriving DecidableEq

def adoptLegacy (companyId userId sessionId newDeviceId : Id) : DeviceRequest Adoption := do
  let found ← .read .other (fun s => s.sessions.find? sessionId)
  let session ← .expect (.unauthorized "Unauthorized")
    (found.filter (fun session => session.userId = userId))
  match session.deviceRecordId with
  | some deviceId => pure (.alreadyBound deviceId)
  | none => do
      let enrollment ← enroll hashing ⟨companyId, userId, sessionId, .legacy⟩ newDeviceId
        session.deviceRecordId
      pure (.enrolled enrollment)

structure RevokeParams where
  companyId : Id
  ownerUserId : Id
  targetUserId : Id
  deviceId : String

structure RevokedDevice where
  deviceId : String
  sessionsRevoked : Nat
  wasCurrent : Bool
  alreadyRevoked : Bool
  deriving DecidableEq

def liveOn (deviceId : Id) (session : AuthSession) : Bool :=
  session.deviceRecordId = some deviceId ∧ session.revokedAt = none

def revokeTx (ownerUserId deviceId : Id) (s : Store) : Except Refusal (Store × Nat) :=
  match s.devices.find? deviceId with
  | none => .error recordNotFound
  | some _ => .ok
      ({ s with
          devices := s.devices.update deviceId (UserDevice.revoked now ownerUserId)
            (UserDevice.revoked_id now ownerUserId)
          sessions := s.sessions.modify (liveOn deviceId) (AuthSession.revoked now)
            (AuthSession.revoked_id now) },
        (s.sessions.filter (liveOn deviceId)).length)

def revokeDevice (params : RevokeParams) : DeviceRequest RevokedDevice := do
  .require (isUuid params.deviceId) (.notFound "Device not found")
  let deviceId := uuidToBin params.deviceId
  let found ← .read .other (fun s => s.devices.find? deviceId)
  let device ← .expect (.notFound "Device not found") (found.filter (fun device =>
    device.companyId = params.companyId ∧ device.userId = params.targetUserId))
  if device.revokedAt.isSome then pure ⟨params.deviceId, 0, false, true⟩
  else do
    let sessions ← .transact (.revoke deviceId) (revokeTx now params.ownerUserId deviceId)
    pure ⟨params.deviceId, sessions, false, false⟩

structure DeviceCredentialDto where
  deviceId : Option String := none
  deviceSecret : Option String := none

def deviceUnrecognized : Refusal :=
  .coded "device_unrecognized" (.unauthorized
    ("This device could not be verified. " ++
      "Clear the saved device and sign in again to enroll it fresh."))

def newSession (ttlDays : Nat) (user : User) (id : Id) (secret : Nat) : AuthSession where
  id := id
  companyId := user.companyId
  userId := user.id
  refreshTokenHash := hashing.hash secret (hashing.generate secret)
  expiresAt := now + ttlDays * 86400000
  lastUsedAt := now

def createSession (ttlDays : Nat) (user : User) (id : Id) (secret : Nat) (s : Store) :
    Except Refusal Store :=
  match s.sessions.insert? (newSession hashing now ttlDays user id secret) with
  | none => .error (.constraint "PRIMARY")
  | some sessions => .ok { s with sessions }

def setLastLogin (userId : Id) (s : Store) : Except Refusal Store :=
  match s.users.find? userId with
  | none => .error recordNotFound
  | some _ => .ok { s with
      users := s.users.update userId (fun user => { user with lastLoginAt := some now })
        (fun _ => rfl) }

/-- Nothing claimed is `none`; a claim that fails is refused. -/
def claimedDevice (user : User) (presented : Option DeviceCredentialDto) :
    DeviceRequest (Option UserDevice) :=
  let deviceId := presented.bind (·.deviceId)
  let deviceSecret := presented.bind (·.deviceSecret)
  if truthy deviceId ∨ truthy deviceSecret then do
    let known ←
      if truthy deviceId ∧ truthy deviceSecret then
        recognise hashing user.id (deviceId.getD "") (deviceSecret.getD "")
      else pure none
    let known ← .expect deviceUnrecognized known
    pure (some known)
  else pure none

/-- The keys `newUuidV7Bin` hands to one login. -/
structure LoginIds where
  sessionId : Id
  deviceId : Id

structure LoginResponse where
  tokens : AuthTokenResponse
  device : Option DeviceEnrollment
  deriving DecidableEq

/-- How the new session, which was created without one, comes by its device. -/
def bindDevice (user : User) (ids : LoginIds) (recognisedDevice : Option UserDevice)
    (presented : Option DeviceCredentialDto) : DeviceRequest (Option DeviceEnrollment) :=
  match recognisedDevice, presented with
  | some device, _ => do
      attach now ids.sessionId device
      pure none
  | none, some _ => do
      let enrollment ← enroll hashing ⟨user.companyId, user.id, ids.sessionId, .password⟩
        ids.deviceId none
      pure (some enrollment)
  | none, none => pure none

def completeLogin (ttlDays : Nat) (user : User) (ids : LoginIds)
    (deviceCredential : Option DeviceCredentialDto) : DeviceRequest LoginResponse := do
  let found ← .read .other (fun s => s.companies.find? user.companyId)
  let company ← .expect (.unauthorized "Invalid credentials") (found.filter (·.isActive))
  let recognisedDevice ← claimedDevice hashing user deviceCredential
  let secret ← drawSecret
  .commit (.create ids.sessionId) (createSession hashing now ttlDays user ids.sessionId secret)
  .commit (.touch ids.sessionId) (setLastLogin now user.id)
  let device ← bindDevice hashing now user ids recognisedDevice deviceCredential
  pure ⟨buildResponse user ids.sessionId (hashing.generate secret) company.publicStoreId, device⟩

end Service

end ErpBackend.Auth
