import ErpBackend.Foundation.Table
import ErpBackend.Foundation.Protocol
import ErpBackend.Users.Contacts

/-!
# UserManagementService

The Owner's edit of a user. The user is read first, and what changed against
that reading is written in one transaction, with the sessions it ends.
-/

namespace ErpBackend.Users

open Foundation

structure User where
  id : Id
  companyId : Id
  name : String
  login : String
  passwordHash : String
  phone : Option String := none
  phoneVerifiedAt : Option Time := none
  email : Option String := none
  emailVerifiedAt : Option Time := none
  isActive : Bool := true
  lastLoginAt : Option Time := none
  deletedAt : Option Time := none
  deriving DecidableEq

structure AuthSession where
  id : Id
  companyId : Id
  userId : Id
  revokedAt : Option Time := none
  deriving DecidableEq

structure Team where
  users : Table User User.id
  sessions : Table AuthSession AuthSession.id

structure UpdateUserDto where
  name : Option String := none
  phone : Option String := none
  email : Option String := none
  isActive : Option Bool := none
  currentPassword : Option String := none

/-- The `data` of the update: the fields that changed. -/
structure UserData where
  name : Option String := none
  phone : Option (Option String) := none
  email : Option (Option String) := none
  isActive : Option Bool := none
  deriving DecidableEq

namespace UserData

def changes (data : UserData) : Bool :=
  data.name.isSome || data.phone.isSome || data.email.isSome || data.isActive.isSome

def contactChanged (data : UserData) : Bool := data.phone.isSome || data.email.isSome

def deactivating (data : UserData) : Bool := data.isActive = some false

def revoking (data : UserData) : Bool := data.deactivating || data.contactChanged

def apply (data : UserData) (user : User) : User :=
  { user with
    name := data.name.getD user.name
    phone := data.phone.getD user.phone
    phoneVerifiedAt := if data.phone.isSome then none else user.phoneVerifiedAt
    email := data.email.getD user.email
    emailVerifiedAt := if data.email.isSome then none else user.emailVerifiedAt
    isActive := data.isActive.getD user.isActive }

theorem apply_id (data : UserData) (user : User) : (data.apply user).id = user.id := rfl

end UserData

/-- What a step is about to do, the row the call holds, and whether it was given a seat. -/
inductive Mark where
  | other
  | holding (before : User) (seated : Bool)
  | write (ctx : Ctx) (id : Id) (before : User) (data : UserData)
  deriving DecidableEq

abbrev Request (α : Type) := Prog Team Mark Refusal α

/-- `EntitlementService.maySeat`, `HashingService.verify`, and `toLowerCase`. -/
structure Services where
  maySeat : Team → Id → Bool
  seatLimit : Team → Id → Nat
  verify : String → String → Bool
  lowerCase : List Char → List Char

inductive UserStatus where
  | active
  | inactive
  | pendingContact
  deriving DecidableEq

structure UserView where
  id : Id
  name : String
  login : String
  phone : Option String
  email : Option String
  phoneVerifiedAt : Option Time
  emailVerifiedAt : Option Time
  isActive : Bool
  status : UserStatus
  lastLoginAt : Option Time
  deriving DecidableEq

def toView (row : User) : UserView where
  id := row.id
  name := row.name
  login := row.login
  phone := row.phone
  email := row.email
  phoneVerifiedAt := row.phoneVerifiedAt
  emailVerifiedAt := row.emailVerifiedAt
  isActive := row.isActive
  status := if !row.isActive then .inactive else if present row.phone then .active
    else .pendingContact
  lastLoginAt := row.lastLoginAt

def rowInCompany (ctx : Ctx) (id : Id) (team : Team) : Option User :=
  (team.users.find? id).filter (fun user => user.companyId = ctx.companyId ∧ user.deletedAt = none)

def findInCompany (ctx : Ctx) (id : Id) : Request User := do
  let row ← .read .other (rowInCompany ctx id)
  .expect (.notFound "User not found") row

/-- Proof that the person at the keyboard is still the person who signed in. -/
def confirmActorPassword (services : Services) (ctx : Ctx) (before : User) (seated : Bool)
    (password : Option String) : Request Unit := do
  let actorId ← .expect (.forbidden "Sign in again to change a login contact") ctx.userId
  let typed ← .expect (.coded "password_confirmation_required"
    (.forbidden "Confirm your password to change a login contact.")) (password.filter (· ≠ ""))
  let actor ← .read (.holding before seated) (fun team =>
    (team.users.find? actorId).filter (fun user => user.companyId = ctx.companyId))
  .require (actor.any (fun user => services.verify user.passwordHash typed))
    (.coded "password_confirmation_failed" (.forbidden "That password did not match."))

def changedPhone (dto : UpdateUserDto) (before : User) :
    Except Refusal (Option (Option String)) :=
  match dto.phone with
  | none => .ok none
  | some raw => (resolvePhone raw).map (fun next => if next = before.phone then none else some next)

def changedEmail (services : Services) (dto : UpdateUserDto) (before : User) :
    Except Refusal (Option (Option String)) :=
  match dto.email with
  | none => .ok none
  | some raw => (resolveEmail services.lowerCase raw).map (fun next =>
      if next = before.email then none else some next)

def takeSeat (services : Services) (ctx : Ctx) (before : User) (isActive : Option Bool) :
    Request Unit :=
  if isActive = some true then do
    let seats ← .read (.holding before false) (fun team =>
      (services.maySeat team ctx.companyId, services.seatLimit team ctx.companyId))
    .require seats.1 (.coded "SEAT_LIMIT_REACHED" (.conflict
      ("All " ++ toString seats.2 ++ " staff places are in use. Deactivate somebody, or add " ++
        "places, before re-enabling this account.")))
  else pure ()

/-- `before.phone || before.email`. -/
def hasContact (user : User) : Bool := present user.phone || present user.email

def keepsContact (before : User) (data : UserData) : Bool :=
  !hasContact before || present (data.phone.getD before.phone) ||
    present (data.email.getD before.email)

def confirmContact (services : Services) (ctx : Ctx) (dto : UpdateUserDto) (before : User)
    (data : UserData) : Request Unit :=
  if data.contactChanged then do
    .require (keepsContact before data) (.badRequest
      ("This person needs an email or a WhatsApp number to sign in. " ++
        "Add one before removing the other."))
    confirmActorPassword services ctx before (data.isActive = some true) dto.currentPassword
  else pure ()

def taken (team : Team) (user : User) (contact : User → Option String) (data : UserData) : Bool :=
  (contact (data.apply user)).isSome ∧ team.users.any (fun row =>
    row.id ≠ user.id ∧ row.companyId = user.companyId ∧ contact row = contact (data.apply user))

def ended (now : Time) (session : AuthSession) : AuthSession :=
  { session with revokedAt := some now }

theorem ended_id (now : Time) (session : AuthSession) : (ended now session).id = session.id := rfl

def standing (ctx : Ctx) (id : Id) (session : AuthSession) : Bool :=
  session.companyId = ctx.companyId ∧ session.userId = id ∧ session.revokedAt = none

/-- `users_company_id_phone_key` and `ux_users_company_email`, named by what clashed. -/
def updateTx (ctx : Ctx) (id : Id) (data : UserData) (team : Team) : Except Refusal Team :=
  match (team.users.find? id).filter (fun user => user.companyId = ctx.companyId) with
  | none => .error (.internal "An operation failed because it depends on one or more records")
  | some user =>
      if taken team user User.email data then
        .error (.conflict "Another user in this company already uses that email address")
      else if taken team user User.phone data then
        .error (.conflict "Another user in this company already uses that WhatsApp number")
      else .ok
        { users := team.users.update id data.apply data.apply_id
          sessions :=
            if data.revoking then
              team.sessions.modify (standing ctx id) (ended ctx.now) (ended_id ctx.now)
            else team.sessions }

def update (services : Services) (ctx : Ctx) (id : Id) (dto : UpdateUserDto) :
    Request UserView := do
  let before ← findInCompany ctx id
  let phone ← .liftExcept (changedPhone dto before)
  let email ← .liftExcept (changedEmail services dto before)
  let name := dto.name.filter (· ≠ before.name)
  let isActive := dto.isActive.filter (· ≠ before.isActive)
  .require (¬(isActive = some false ∧ ctx.userId = some id))
    (.badRequest "You cannot deactivate your own account")
  takeSeat services ctx before isActive
  let data : UserData := { name, phone, email, isActive }
  .require data.changes (.badRequest "No changes were provided")
  confirmContact services ctx dto before data
  .commit (.write ctx id before data) (updateTx ctx id data)
  let after ← findInCompany ctx id
  pure (toView after)

end ErpBackend.Users
