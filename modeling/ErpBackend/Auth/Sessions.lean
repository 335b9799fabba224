import ErpBackend.Auth.Tokens
import ErpBackend.Foundation.Program
import ErpBackend.Foundation.Table

/-!
# SessionsService, and AuthService.refresh and logout

Rotation reads the session, checks the hash it read, and writes the next hash in a
statement of its own, which names the row and nothing else.
-/

namespace ErpBackend.Auth

open Foundation

structure Company where
  id : Id
  publicStoreId : String
  isActive : Bool
  deriving DecidableEq

structure User where
  id : Id
  companyId : Id
  name : String
  login : String
  personalId : String
  isActive : Bool
  lastLoginAt : Option Time := none
  deriving DecidableEq

structure AuthSession where
  id : Id
  companyId : Id
  userId : Id
  refreshTokenHash : String
  expiresAt : Time
  lastUsedAt : Time
  revokedAt : Option Time := none
  deviceRecordId : Option Id := none
  deriving DecidableEq

inductive DeviceTrustMethod where
  | legacy
  | password
  | otp
  deriving DecidableEq

structure UserDevice where
  id : Id
  companyId : Id
  userId : Id
  secretHash : String
  trustMethod : DeviceTrustMethod
  reverifyRequired : Bool := false
  lastSeenAt : Option Time := none
  revokedAt : Option Time := none
  revokedById : Option Id := none
  deriving DecidableEq

/-- `drawn` is how often the random source was asked. The last two are what happened, for
statements only: each secret that bought a rotation of its session, and the session each
device was enrolled for. -/
structure Store where
  companies : Table Company Company.id
  users : Table User User.id
  sessions : Table AuthSession AuthSession.id
  devices : Table UserDevice UserDevice.id
  drawn : Nat := 0
  redeemed : List (Id × String) := []
  enrolled : List (Id × Id) := []

/-- `P2025`: the row a statement names is not there. -/
def recordNotFound : Refusal :=
  .internal "An operation failed because it depends on one or more records"

namespace AuthSession

def rotated (hash : String) (now : Time) (session : AuthSession) : AuthSession :=
  { session with refreshTokenHash := hash, lastUsedAt := now }

def revoked (now : Time) (session : AuthSession) : AuthSession :=
  { session with revokedAt := some now }

def bound (deviceId : Id) (session : AuthSession) : AuthSession :=
  { session with deviceRecordId := some deviceId }

theorem bound_id (deviceId : Id) (session : AuthSession) :
    (session.bound deviceId).id = session.id := rfl

theorem rotated_id (hash : String) (now : Time) (session : AuthSession) :
    (session.rotated hash now).id = session.id := rfl

theorem revoked_id (now : Time) (session : AuthSession) :
    (session.revoked now).id = session.id := rfl

end AuthSession

/-- What a step is about to do. A step between drawing a secret and storing it carries
the number of the draw. -/
inductive Mark where
  | other
  | draw
  | fetch (newSecret : Nat)
  | revoke
  | rotate (session : AuthSession) (presentedSecret : String) (newSecret : Nat)
  deriving DecidableEq

abbrev Request (α : Type) := Prog Store Mark Refusal α

section Service

variable (hashing : Hashing) (now : Time)

def generateRefreshSecret : Request Nat :=
  .transact .draw (fun s => .ok ({ s with drawn := s.drawn + 1 }, s.drawn))

/-- `update({ where: { id }, data: { revokedAt } })`. -/
def revokeSession (sessionId : Id) (s : Store) : Except Refusal Store :=
  match s.sessions.find? sessionId with
  | none => .error recordNotFound
  | some _ => .ok { s with
      sessions :=
        s.sessions.update sessionId (AuthSession.revoked now) (AuthSession.revoked_id now) }

/-- `update({ where: { id }, data: { refreshTokenHash, lastUsedAt } })`. -/
def rotateSession (sessionId : Id) (presentedSecret : String) (newSecret : Nat) (s : Store) :
    Except Refusal Store :=
  match s.sessions.find? sessionId with
  | none => .error recordNotFound
  | some _ =>
      let hash := hashing.hash newSecret (hashing.generate newSecret)
      .ok { s with
        sessions := s.sessions.update sessionId (AuthSession.rotated hash now)
          (AuthSession.rotated_id hash now)
        redeemed := s.redeemed ++ [(sessionId, presentedSecret)] }

structure Owner where
  userId : Id
  companyId : Id

/-- Validate and rotate. A secret that does not match revokes the session. -/
def rotate (sessionId : Id) (presentedSecret : String) (newSecret : Nat) :
    Request (Option Owner) := do
  let found ← .read (.fetch newSecret) (fun s => s.sessions.find? sessionId)
  match found with
  | none => pure none
  | some session =>
      if session.revokedAt.isSome ∨ session.expiresAt ≤ now then pure none
      else if hashing.verify session.refreshTokenHash presentedSecret then do
        .commit (.rotate session presentedSecret newSecret)
          (rotateSession hashing now sessionId presentedSecret newSecret)
        pure (some ⟨session.userId, session.companyId⟩)
      else do
        .commit .revoke (revokeSession now sessionId)
        pure none

def deviceOf (sessionId userId : Id) (s : Store) : Option Id :=
  match s.sessions.find? sessionId with
  | none => none
  | some session => if session.userId = userId then session.deviceRecordId else none

def liveOf (userId : Id) (session : AuthSession) : Bool :=
  session.userId = userId ∧ session.revokedAt = none

def revoke (userId sessionId : Id) : Request Unit :=
  .execute .revoke (fun s => { s with
    sessions := s.sessions.modify (fun session => session.id = sessionId ∧ liveOf userId session)
      (AuthSession.revoked now) (AuthSession.revoked_id now) })

def revokeAll (userId : Id) : Request Nat :=
  .transact .revoke (fun s => .ok ({ s with
    sessions := s.sessions.modify (liveOf userId) (AuthSession.revoked now)
      (AuthSession.revoked_id now) }, (s.sessions.filter (liveOf userId)).length))

structure UserView where
  id : Id
  name : String
  login : String
  personalId : String
  companyId : Id
  publicStoreId : String
  deriving DecidableEq

structure AuthTokenResponse where
  accessToken : AccessTokenPayload
  refreshToken : String
  user : UserView
  deriving DecidableEq

def buildResponse (user : User) (sessionId : Id) (secret publicStoreId : String) :
    AuthTokenResponse where
  accessToken := ⟨user.id, user.companyId, sessionId⟩
  refreshToken := buildRefreshToken (binToUuid sessionId) secret
  user :=
    { id := user.id
      name := user.name
      login := user.login
      personalId := user.personalId
      companyId := user.companyId
      publicStoreId }

def refresh (refreshToken : String) : Request AuthTokenResponse := do
  let parsed ← .expect (.unauthorized "Invalid refresh token") (parseRefreshToken refreshToken)
  let sessionId ← .expect (.unauthorized "Invalid refresh token") (uuidToBin? parsed.sessionId)
  let newSecret ← generateRefreshSecret
  let rotated ← rotate hashing now sessionId parsed.secret newSecret
  let owner ← .expect (.unauthorized "Invalid or expired session") rotated
  let found ← .read .other (fun s => s.users.find? owner.userId)
  let user ← .expect (.unauthorized "Invalid credentials") (found.filter (·.isActive))
  let store ← .read .other (fun s => s.companies.find? user.companyId)
  let company ← .expect (.unauthorized "Invalid credentials") store
  pure (buildResponse user sessionId (hashing.generate newSecret) company.publicStoreId)

def markReverifyRequired (deviceId : Id) : Request Unit :=
  .execute .other (fun s => { s with
    devices := s.devices.modify (fun device => device.id = deviceId)
      (fun device => { device with reverifyRequired := true }) (fun _ => rfl) })

def logout (userId : Id) (refreshToken : String) : Request Unit :=
  match (parseRefreshToken refreshToken).bind (fun parsed => uuidToBin? parsed.sessionId) with
  | none => pure ()
  | some sessionId => do
      let deviceId ← .read .other (deviceOf sessionId userId)
      revoke now userId sessionId
      match deviceId with
      | none => pure ()
      | some deviceId => markReverifyRequired deviceId

def logoutAll (userId : Id) : Request Nat := revokeAll now userId

end Service

end ErpBackend.Auth
