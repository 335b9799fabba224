import ErpBackend.Foundation.Program
import ErpBackend.Connections.Discovery

/-!
# ConnectionsService

Search, requests, decisions and blocks between companies. Every read and every
write is a step of its own: no call opens a transaction.
-/

namespace ErpBackend.Connections

open Foundation

structure Network where
  companies : Table Company Company.id
  db : Db

inductive Mark where
  | other
  | request (me them : Id)
  | decide (me : Id) (accept : Bool) (conn : StoreConnection)
  | setBlocked (me : Id) (blocked : Bool) (conn : StoreConnection)
  /-- The counterparties still to see to; `missing` when the first was looked up in vain. -/
  | ensure (pairs : List (Id × Id)) (missing : Bool)
  deriving DecidableEq

abbrev Request (α : Type) := Prog Network Mark Refusal α

def Network.connections (network : Network) : Table StoreConnection StoreConnection.id :=
  network.db.storeConnections

def involves (conn : StoreConnection) (companyId : Id) : Bool :=
  conn.requesterCompanyId = companyId ∨ conn.addresseeCompanyId = companyId

/-- `pair_key`: the two, whichever of them asked. -/
def samePair (a b : StoreConnection) : Bool :=
  (a.requesterCompanyId = b.requesterCompanyId ∧ a.addresseeCompanyId = b.addresseeCompanyId) ∨
    (a.requesterCompanyId = b.addresseeCompanyId ∧ a.addresseeCompanyId = b.requesterCompanyId)

/-- Every company in a blocked relationship with me, in either direction. -/
def blockedCompanyIds (network : Network) (me : Id) : List Id :=
  ((network.connections.filter (fun conn => conn.status = .blocked ∧ involves conn me)).flatMap
    (fun conn => [conn.requesterCompanyId, conn.addresseeCompanyId])).filter (· ≠ me)

def found (collation : Collation) (network : Network) (parsed : ParsedQuery) : List Company :=
  (network.companies.filter (fun company =>
    collation.accepts parsed company ∧ company.isDiscoverable ∧ company.isActive)).insertionSort
      (fun a b => collation.upTo a.name b.name = true)

def search (collation : Collation) (ctx : Ctx) (rawQuery : String) :
    Request (List PublicStorePreview) := do
  let parsed ← .liftExcept (parseQuery rawQuery)
  let page ← .read .other (fun network => (found collation network parsed).take maxResults)
  if page.isEmpty then pure []
  else
    let blocked ← .read .other (fun network => blockedCompanyIds network ctx.companyId)
    pure ((page.filter (fun company =>
      isVisibleInSearch true true (company.id ∈ blocked) (company.id = ctx.companyId))).map
        toPublicPreview)

inductive Direction where
  | outgoing
  | incoming
  deriving DecidableEq

structure ConnectionView where
  id : Id
  status : ConnectionStatus
  direction : Direction
  canDecide : Bool
  blockedByMe : Bool
  blockReason : Option String
  note : Option String
  store : Option ConnectedStoreDetail
  version : Nat
  deriving DecidableEq

def viewOf (network : Network) (me : Id) (conn : StoreConnection) : ConnectionView :=
  let iAmRequester : Bool := conn.requesterCompanyId = me
  let them := if iAmRequester then conn.addresseeCompanyId else conn.requesterCompanyId
  { id := conn.id
    status := conn.status
    direction := if iAmRequester then .outgoing else .incoming
    canDecide := !iAmRequester && conn.status = .pending
    blockedByMe := conn.blockedByCompanyId = some me
    blockReason := conn.blockReason
    note := conn.note
    store := (network.companies.find? them).map (fun company =>
      toConnectedDetail company (conn.status = .accepted))
    version := conn.version }

def listed (network : Network) (me : Id) : List StoreConnection :=
  (network.connections.filter (involves · me)).reverse.take 200

def list (ctx : Ctx) : Request (List ConnectionView) :=
  .read .other (fun network =>
    (listed network ctx.companyId).map (viewOf network ctx.companyId))

def noSuchStore : Refusal := .notFound "No such store"

def findStore (collation : Collation) (network : Network) (publicStoreId : String) :
    Option Company :=
  network.companies.rows.find? (fun company =>
    collation.same company.publicStoreId
      (String.ofList (upperText (trimChars publicStoreId.toList))) ∧
        company.isDiscoverable ∧ company.isActive)

def between (me them : Id) (conn : StoreConnection) : Bool :=
  (conn.requesterCompanyId = me ∧ conn.addresseeCompanyId = them) ∨
    (conn.requesterCompanyId = them ∧ conn.addresseeCompanyId = me)

def newConnection (ctx : Ctx) (id them : Id) (note : Option String) : StoreConnection where
  id := id
  requesterCompanyId := ctx.companyId
  addresseeCompanyId := them
  status := .pending
  requestedById := ctx.userId
  note := trimOrNull note

/-- `ck_conn_not_self` and `ux_store_connections_pair`. -/
def insertConnection (conn : StoreConnection) (network : Network) : Except Refusal Network :=
  if conn.requesterCompanyId = conn.addresseeCompanyId then
    .error (.constraint "ck_conn_not_self")
  else if network.connections.any (samePair conn) then
    .error (.unique "ux_store_connections_pair")
  else match network.connections.insert? conn with
    | none => .error (.unique "PRIMARY")
    | some storeConnections =>
        .ok { network with db := { network.db with storeConnections } }

def alreadyThere (status : ConnectionStatus) : Refusal :=
  if status = .blocked then noSuchStore
  else .conflict (if status = .accepted then "You are already connected to that store"
    else "There is already a request between you and that store")

def request (collation : Collation) (ctx : Ctx) (newId : Id) (publicStoreId : String)
    (note : Option String) : Request (List ConnectionView) := do
  let store ← .read .other (fun network => findStore collation network publicStoreId)
  let them ← .expect noSuchStore (store.filter (fun company => company.id ≠ ctx.companyId))
  let existing ← .read .other (fun network =>
    network.connections.rows.find? (between ctx.companyId them.id))
  match existing with
  | some conn => .refuse (alreadyThere conn.status)
  | none =>
      .commit (.request ctx.companyId them.id)
        (insertConnection (newConnection ctx newId them.id note))
      list ctx

/-- `newUuidV7Bin()` never yields an id that is there. -/
structure IdSource where
  next : Table Counterparty Counterparty.id → Id
  fresh : ∀ counterparties, next counterparties ∉ counterparties.rows.map Counterparty.id

def IdSource.counting : IdSource where
  next counterparties := (counterparties.rows.map Counterparty.id).sum + 1
  fresh _ member :=
    Nat.not_succ_le_self _ (List.le_sum_of_mem member)

def naming (owner other : Id) (counterparty : Counterparty) : Bool :=
  counterparty.companyId = owner ∧ counterparty.connectedCompanyId = some other

def newCounterparty (id owner other connectionId : Id) (company : Option Company) :
    Counterparty where
  id := id
  companyId := owner
  kind := .connectedStore
  connectedCompanyId := some other
  connectionId := some connectionId
  isActive := true
  name := (company.map Company.name).getD "Connected store"
  phone := company.bind Company.publicPhone
  city := company.bind Company.city

/-- `ck_cp_not_self`, `ck_cp_name` and `ux_counterparties_connected`. -/
def insertCounterparty (counterparty : Counterparty) (network : Network) :
    Except Refusal Network :=
  if counterparty.connectedCompanyId = some counterparty.companyId then
    .error (.constraint "ck_cp_not_self")
  else if counterparty.name.toList.all (· = ' ') then .error (.constraint "ck_cp_name")
  else if counterparty.connectedCompanyId.any (fun other =>
      network.db.counterparties.any (naming counterparty.companyId other)) then
    .error (.unique "ux_counterparties_connected")
  else match network.db.counterparties.insert? counterparty with
    | none => .error (.unique "PRIMARY")
    | some counterparties => .ok { network with db := { network.db with counterparties } }

def ensureCounterparty (uuid : IdSource) (connectionId : Id) : List (Id × Id) → Request Unit
  | [] => pure ()
  | (owner, other) :: rest => do
      let existing ← .read (.ensure ((owner, other) :: rest) false) (fun network =>
        network.db.counterparties.any (naming owner other))
      if existing then ensureCounterparty uuid connectionId rest
      else
        let company ← .read (.ensure ((owner, other) :: rest) true) (fun network =>
          network.companies.find? other)
        .commit (.ensure ((owner, other) :: rest) true) (fun network =>
          insertCounterparty (newCounterparty (uuid.next network.db.counterparties) owner other
            connectionId company) network)
        ensureCounterparty uuid connectionId rest

def mine (ctx : Ctx) (id : Id) : Request StoreConnection := do
  let conn ← .read .other (fun network =>
    (network.connections.find? id).filter (involves · ctx.companyId))
  .expect (.notFound "No such connection") conn

def changedMeanwhile : Refusal :=
  .conflict "refresh_required: this request changed while you were deciding it"

def decidedConn (ctx : Ctx) (accept : Bool) (conn : StoreConnection) : StoreConnection :=
  { conn with
    status := if accept then .accepted else .rejected
    decidedById := ctx.userId
    decidedAt := some ctx.now
    version := conn.version + 1 }

theorem decidedConn_id (ctx : Ctx) (accept : Bool) (conn : StoreConnection) :
    (decidedConn ctx accept conn).id = conn.id := rfl

def decideTx (ctx : Ctx) (accept : Bool) (conn : StoreConnection) (network : Network) :
    Except Refusal Network :=
  match network.connections.swap? conn.id (fun current =>
      current.version = conn.version ∧ current.status = .pending) (decidedConn ctx accept)
        (decidedConn_id ctx accept) with
  | none => .error changedMeanwhile
  | some storeConnections => .ok { network with db := { network.db with storeConnections } }

def bothWays (me them : Id) : List (Id × Id) := [(me, them), (them, me)]

def decide (uuid : IdSource) (ctx : Ctx) (id : Id) (accept : Bool)
    (expectedVersion : Option Nat) : Request (List ConnectionView) := do
  let conn ← mine ctx id
  .require (conn.addresseeCompanyId = ctx.companyId) (.notFound "No such request")
  .require (conn.status = .pending) (.conflict "That request has already been decided")
  .require (∀ version ∈ expectedVersion, version = conn.version) changedMeanwhile
  .commit (.decide ctx.companyId accept conn) (decideTx ctx accept conn)
  if accept then
    ensureCounterparty uuid conn.id (bothWays ctx.companyId conn.requesterCompanyId)
    list ctx
  else list ctx

def blockedConn (ctx : Ctx) (reason : Option String) (conn : StoreConnection) :
    StoreConnection :=
  { conn with
    status := .blocked
    blockedByCompanyId := some ctx.companyId
    blockedAt := some ctx.now
    blockReason := trimOrNull reason
    version := conn.version + 1 }

/-- Back to pending: unblocking restores the conversation, not the trust. -/
def liftedConn (conn : StoreConnection) : StoreConnection :=
  { conn with
    status := .pending
    blockedByCompanyId := none
    blockedAt := none
    blockReason := none
    version := conn.version + 1 }

def markedConn (ctx : Ctx) (blocked : Bool) (reason : Option String) (conn : StoreConnection) :
    StoreConnection :=
  if blocked then blockedConn ctx reason conn else liftedConn conn

theorem markedConn_id (ctx : Ctx) (blocked : Bool) (reason : Option String)
    (conn : StoreConnection) : (markedConn ctx blocked reason conn).id = conn.id := by
  cases blocked with
  | true => rfl
  | false => rfl

/-- `update` by id alone. -/
def setBlockedTx (ctx : Ctx) (blocked : Bool) (reason : Option String) (conn : StoreConnection)
    (network : Network) : Except Refusal Network :=
  match network.connections.find? conn.id with
  | none => .error (.internal "An operation failed because it depends on one or more records")
  | some _ => .ok { network with
      db := { network.db with
        storeConnections := network.connections.update conn.id (markedConn ctx blocked reason)
          (markedConn_id ctx blocked reason) } }

def mayBlock (me : Id) (blocked : Bool) (conn : StoreConnection) : Except Refusal Unit :=
  if blocked then
    if conn.status = .blocked then .error (.conflict "That store is already blocked") else .ok ()
  else if conn.status ≠ .blocked then .error (.conflict "That store is not blocked")
  else if conn.blockedByCompanyId ≠ some me then
    .error (.conflict "Only the store that blocked can unblock")
  else .ok ()

def setBlocked (ctx : Ctx) (id : Id) (blocked : Bool) (reason : Option String) :
    Request (List ConnectionView) := do
  let conn ← mine ctx id
  .liftExcept (mayBlock ctx.companyId blocked conn)
  .commit (.setBlocked ctx.companyId blocked conn) (setBlockedTx ctx blocked reason conn)
  list ctx

end ErpBackend.Connections
