import ErpBackend.Transfers.Service

/-!
# What the view offers

`computeActions` says of each action whether it is allowed, and why not; the guard of the route
and the service method decide the same again when the request comes.
-/

namespace ErpBackend.Transfers

open Foundation Inventory

inductive ActionReason where
  | status
  | permission
  | branch
  | ownership
  deriving DecidableEq

structure TransferAction where
  allowed : Bool
  reason : Option ActionReason
  branchId : Id
  branchName : String

structure TransferActions where
  approve : TransferAction
  reject : TransferAction
  ship : TransferAction
  receive : TransferAction
  cancel : TransferAction

structure Branchish where
  id : Id
  name : String

structure ActionInputs where
  status : TransferStatus
  requestedById : Option Id
  source : Branchish
  target : Branchish
  activeBranchId : Id
  userId : Option Id
  permissions : String → Bool

/-- `decide`: the first reason an action is unavailable. -/
def decideAction (ok permitted : Bool) (requiredBranch : Branchish) (activeBranchId : Id)
    (extra : Bool × Option ActionReason := (true, none)) : TransferAction :=
  let refused := fun reason => ⟨false, reason, requiredBranch.id, requiredBranch.name⟩
  if !ok then refused (some .status)
  else if !permitted then refused (some .permission)
  else if !extra.1 then refused extra.2
  else if requiredBranch.id ≠ activeBranchId then refused (some .branch)
  else ⟨true, none, requiredBranch.id, requiredBranch.name⟩

def computeActions (input : ActionInputs) : TransferActions :=
  let has := input.permissions
  let pending : Bool := input.status = .pendingApproval
  let preShipment := pending || input.status = .approved
  let isRequester : Bool := input.userId ≠ none ∧ input.requestedById = input.userId
  let cancelBreadth :=
    if has "transfer.cancel" then (true, none)
    else (isRequester && pending, some ActionReason.ownership)
  { approve := decideAction pending (has "transfer.approve") input.source input.activeBranchId
    reject := decideAction pending (has "transfer.approve") input.source input.activeBranchId
    ship := decideAction (input.status = .approved) (has "transfer.ship") input.source
      input.activeBranchId
    receive := decideAction (input.status = .inTransit) (has "transfer.receive") input.target
      input.activeBranchId
    cancel := decideAction preShipment (has "transfer.cancel_own") input.source
      input.activeBranchId cancelBreadth }

theorem decideAction_allowed (ok permitted : Bool) (requiredBranch : Branchish)
    (activeBranchId : Id) (extra : Bool × Option ActionReason) :
    (decideAction ok permitted requiredBranch activeBranchId extra).allowed = true ↔
      ok = true ∧ permitted = true ∧ extra.1 = true ∧ requiredBranch.id = activeBranchId := by
  cases ok <;> cases permitted <;> cases first : extra.1 <;>
    by_cases here : requiredBranch.id = activeBranchId <;>
      simp [decideAction, first, here]

inductive TransferCall where
  | approve (dto : TransferDecisionDto)
  | reject (dto : TransferDecisionDto)
  | ship (dto : TransferDecisionDto)
  | receive (dto : ReceiveTransferDto)
  | cancel (dto : TransferDecisionDto)

/-- `@RequirePermissions`: the guard in front of a route. -/
def requirePermissions (ctx : Ctx) (permissions : String → Bool) (required : List String) :
    Request Unit :=
  if required = [] then pure ()
  else do
    .require (ctx.userId ≠ none) (.forbidden "Forbidden")
    let missing := required.filter (fun key => !permissions key)
    .require (missing = [])
      (.forbidden ("Missing permission(s): " ++ String.intercalate ", " missing))

/-- `cls.get('permissions').has`, for the one key the service asks about itself. -/
def holds (permissions : String → Bool) : Permission → Bool
  | .transferCancel => permissions "transfer.cancel"
  | _ => false

def TransferCall.program (ctx : Ctx) (permissions : String → Bool) (id : Id) :
    TransferCall → Request Unit
  | .approve dto => do
    requirePermissions ctx permissions ["transfer.approve"]
    let _ ← Transfers.approve ctx id dto
  | .reject dto => do
    requirePermissions ctx permissions ["transfer.approve"]
    let _ ← Transfers.reject ctx id dto
  | .ship dto => do
    requirePermissions ctx permissions ["transfer.ship"]
    Transfers.ship ctx id dto
  | .receive dto => do
    requirePermissions ctx permissions ["transfer.receive"]
    let _ ← Transfers.receiveConfirm ctx id dto
  | .cancel dto => do
    requirePermissions ctx permissions ["transfer.cancel_own"]
    let _ ← Transfers.cancel ctx (holds permissions) id dto

def TransferCall.action (actions : TransferActions) : TransferCall → TransferAction
  | .approve _ => actions.approve
  | .reject _ => actions.reject
  | .ship _ => actions.ship
  | .receive _ => actions.receive
  | .cancel _ => actions.cancel

def TransferCall.reasoned : TransferCall → Bool
  | .reject dto => !blank dto.reason
  | .cancel dto => !blank dto.reason
  | _ => true

/-- The refusals of the permission, branch, ownership and status checks. -/
inductive Denial : Refusal → Prop
  | forbidden (refusal : Refusal) (kind : refusal.kind = .forbidden) : Denial refusal
  | transition (source target : TransferStatus) (refusal : Refusal)
      (refused : assertTransferTransition source target = .error refusal) : Denial refusal
  | shipped :
      Denial (.conflict "This transfer has already been shipped and cannot be cancelled")

def Undenied {α : Type} (answer : Except Refusal α) : Prop :=
  ∀ refusal, answer = .error refusal → ¬ Denial refusal

def Passes (call : TransferCall) (ctx : Ctx) (permissions : String → Bool) (id : Id) (db : Db) :
    Prop :=
  Undenied ((call.program ctx permissions id).run db).2

variable (refusal : Refusal)

theorem Denial.text (denied : Denial refusal) :
    refusal.kind = .forbidden ∨ refusal.kind = .conflict ∧
      (refusal.message.toList.take 3 = "A t".toList ∨
        refusal.message.toList.take 3 = "Thi".toList) := by
  cases denied with
  | forbidden _ kind => exact .inl kind
  | transition source target _ refused =>
    by_cases allowed : target ∈ transitions source
    · simp [assertTransferTransition, allowed] at refused
    · simp only [assertTransferTransition, allowed, if_false, Except.error.injEq] at refused
      subst refused
      exact .inr ⟨rfl, .inl (by simp [Refusal.conflict, String.toList_append])⟩
  | shipped => exact .inr ⟨rfl, .inr (by decide)⟩

theorem undenied_ok {α : Type} (a : α) : Undenied (.ok a : Except Refusal α) := by
  simp [Undenied]

theorem undenied_error {α : Type} (refusal : Refusal) :
    Undenied (.error refusal : Except Refusal α) ↔ ¬ Denial refusal := by
  simp [Undenied]

theorem undenied_bind {α β : Type} (answer : Except Refusal α) (next : α → Except Refusal β)
    (first : Undenied answer) (rest : ∀ a, answer = .ok a → Undenied (next a)) :
    Undenied (answer >>= next) := by
  cases answer with
  | ok a => exact rest a rfl
  | error refusal =>
    intro other same
    cases same
    exact first refusal rfl

theorem not_denial_kind (kind : refusal.kind ≠ .forbidden)
    (other : refusal.kind ≠ .conflict) : ¬ Denial refusal := by
  intro denied
  rcases denied.text with same | ⟨same, -⟩
  · exact kind same
  · exact other same

theorem not_denial_text (text : String) (kind : refusal.kind = .conflict)
    (told : refusal.message = text)
    (other : text.toList.take 3 ≠ "A t".toList ∧ text.toList.take 3 ≠ "Thi".toList) :
    ¬ Denial refusal := by
  intro denied
  rcases denied.text with same | ⟨-, same | same⟩
  · rw [kind] at same
    cases same
  · exact other.1 (told ▸ same)
  · exact other.2 (told ▸ same)

theorem checkStock_undenied (item : StockItem) : Undenied (checkStock item) := by
  unfold checkStock
  split
  · exact (undenied_error _).mpr (not_denial_kind _ (by decide) (by decide))
  · split
    · exact (undenied_error _).mpr (not_denial_kind _ (by decide) (by decide))
    · split
      · exact (undenied_error _).mpr (not_denial_kind _ (by decide) (by decide))
      · exact undenied_ok _

variable (companyId productId branchId : Id)

theorem updateStock_undenied (guard : StockItem → Bool)
    (f : StockItem → StockItem) (keep : ∀ item, (f item).key = item.key) (db : Db) :
    Undenied (updateStock companyId productId branchId guard f keep db) := by
  unfold updateStock
  split
  · exact undenied_ok _
  · split
    · next refused => exact (undenied_error _).mpr (checkStock_undenied _ _ refused)
    · exact undenied_ok _

theorem receiveQuantityAtCost_undenied (received unitCost : Int) (priceIfNew : Option Int)
    (db : Db) :
    Undenied (receiveQuantityAtCost companyId productId branchId received unitCost priceIfNew
      db) := by
  unfold receiveQuantityAtCost
  split
  · exact (undenied_error _).mpr (not_denial_kind _ (by simp [Refusal.internal])
      (by simp [Refusal.internal]))
  · split
    · dsimp only
      split
      · next refused => exact (undenied_error _).mpr (checkStock_undenied _ _ refused)
      · exact undenied_ok _
    · split
      · exact (undenied_error _).mpr (not_denial_kind _ (by decide) (by decide))
      · exact undenied_ok _

theorem releaseQuantity_undenied (amount : Int) (db : Db) :
    Undenied (releaseQuantity companyId productId branchId amount db) :=
  updateStock_undenied companyId productId branchId _ _ _ db

theorem shipQuantity_undenied (amount : Int) (db : Db) :
    Undenied (shipQuantity companyId productId branchId amount db) :=
  updateStock_undenied companyId productId branchId _ _ _ db

theorem releaseLines_undenied (companyId fromBranchId : Id) (items : List TransferItem) (db : Db) :
    Undenied (releaseLines companyId fromBranchId items db) := by
  induction items generalizing db with
  | nil => exact undenied_ok _
  | cons item rest ih =>
    unfold releaseLines
    split
    · exact ih db
    · exact undenied_bind _ _ (releaseQuantity_undenied _ _ _ _ _) (fun released _ => ih released.1)

theorem shipUnits_undenied (companyId : Id) (items : List Loaded) (db : Db) :
    Undenied (shipUnits companyId items db) := by
  induction items generalizing db with
  | nil => exact undenied_ok _
  | cons loaded rest ih =>
    unfold shipUnits
    split
    · exact ih db
    · split
      · exact (undenied_error _).mpr (not_denial_text _
          "Some units are no longer reserved for this transfer" rfl rfl
          (by decide))
      · exact ih _

theorem shipLines_undenied (companyId fromBranchId : Id) (items : List TransferItem) (db : Db) :
    Undenied (shipLines companyId fromBranchId items db) := by
  induction items generalizing db with
  | nil => exact undenied_ok _
  | cons item rest ih =>
    unfold shipLines
    split
    · exact ih db
    · split
      · exact (undenied_error _).mpr (not_denial_text _
          "That stock has no recorded cost, so it cannot be shipped" rfl rfl
          (by decide))
      · refine undenied_bind _ _ (shipQuantity_undenied _ _ _ _ _) (fun shipped _ => ?_)
        dsimp only
        split
        · exact (undenied_error _).mpr (not_denial_text _
            "That stock is no longer reserved for this transfer" rfl rfl
            (by decide))
        · exact ih _

theorem receiveLines_undenied (companyId toBranchId : Id) (items : List TransferItem) (db : Db) :
    Undenied (receiveLines companyId toBranchId items db) := by
  induction items generalizing db with
  | nil => exact undenied_ok _
  | cons item rest ih =>
    unfold receiveLines
    split
    · exact ih db
    · exact (undenied_error _).mpr (not_denial_text _
        "That line has no shipped cost recorded, so it cannot be received" rfl rfl
        (by decide))
    · exact undenied_bind _ _ (receiveQuantityAtCost_undenied _ _ _ _ _ _ _) (fun received _ =>
        ih received)

theorem assertTransferTransition_undenied (source target : TransferStatus) :
    Undenied (assertTransferTransition source target) ↔ target ∈ transitions source := by
  by_cases allowed : target ∈ transitions source
  · simp [assertTransferTransition, allowed, undenied_ok]
  · rcases refused : assertTransferTransition source target with refusal | _
    · simp [allowed, undenied_error, Denial.transition source target refusal refused]
    · simp [assertTransferTransition, allowed] at refused

theorem transitionTx_undenied (companyId : Id) (transfer : StockTransfer) (target : TransferStatus)
    (expectedVersion : Nat) (f : StockTransfer → StockTransfer) (db : Db) :
    Undenied (transitionTx companyId transfer target expectedVersion f db) ↔
      target ∈ transitions transfer.status := by
  rw [← assertTransferTransition_undenied]
  unfold transitionTx
  split
  · next refused => rw [refused, undenied_error, undenied_error]
  · next passed =>
    rw [passed]
    refine iff_of_true ?_ (undenied_ok _)
    split
    · exact (undenied_error _).mpr (not_denial_text _
        "Someone else acted on this transfer. Refresh and try again." rfl rfl
        (by decide))
    · exact undenied_ok _

variable (status : TransferStatus)

theorem transitions_approved :
    .approved ∈ transitions status ↔ status = .pendingApproval := by
  cases status <;> simp [transitions]

theorem transitions_rejected :
    .rejected ∈ transitions status ↔ status = .pendingApproval := by
  cases status <;> simp [transitions]

theorem transitions_inTransit :
    .inTransit ∈ transitions status ↔ status = .approved := by
  cases status <;> simp [transitions]

theorem transitions_received :
    .received ∈ transitions status ↔ status = .inTransit := by
  cases status <;> simp [transitions]

theorem transitions_cancelled :
    .cancelled ∈ transitions status ↔ status = .pendingApproval ∨ status = .approved := by
  cases status <;> simp [transitions]

theorem withdraw_undenied (ctx : Ctx) (transfer : StockTransfer) (target : TransferStatus)
    (dto : TransferDecisionDto) (db : Db) :
    Undenied (withdraw ctx transfer target dto db) ↔ target ∈ transitions transfer.status := by
  rw [← transitionTx_undenied ctx.companyId transfer target dto.expectedVersion
    (decidedBy ctx dto.reason) db]
  unfold withdraw
  constructor
  · intro undenied refusal refused
    exact undenied refusal (by rw [refused]; rfl)
  · intro undenied
    exact undenied_bind _ _ undenied (fun moved _ => releaseLines_undenied _ _ _ _)

theorem writeShipment_undenied (ctx : Ctx) (transfer : StockTransfer) (items : List Loaded)
    (expectedVersion : Nat) (db : Db) (moves : .inTransit ∈ transitions transfer.status) :
    Undenied (writeShipment ctx transfer items expectedVersion db) :=
  undenied_bind _ _ (shipUnits_undenied _ _ _) (fun _ _ =>
    undenied_bind _ _ (shipLines_undenied _ _ _ _) (fun _ _ =>
      (transitionTx_undenied _ _ _ _ _ _).mpr moves))

theorem writeReceipt_undenied (ctx : Ctx) (transfer : StockTransfer) (toBranchId : Id)
    (items : List Loaded) (units : List StockUnit) (expectedVersion : Nat) (db : Db)
    (moves : .received ∈ transitions transfer.status) :
    Undenied (writeReceipt ctx transfer toBranchId items units expectedVersion db) :=
  undenied_bind _ _ (receiveLines_undenied _ _ _ _) (fun _ _ =>
    (transitionTx_undenied _ _ _ _ _ _).mpr moves)

abbrev Passing {α : Type} (program : Request α) (db : Db) : Prop :=
  program.Ensures (fun _ answer => Undenied answer) db

section Passing

variable {α β : Type} (db : Db)

theorem passing_checked (c : Prop) [Decidable c] (refusal : Refusal) (denied : Denial refusal)
    (f : Unit → Request β) :
    Passing (.require c refusal >>= f) db ↔ c ∧ Passing (f ()) db := by
  rw [Passing, Prog.ensures_require, undenied_error]
  by_cases holds : c
  · simp [holds]
  · simp [holds, denied]

theorem passing_held (c : Prop) [Decidable c] (refusal : Refusal) (held : c)
    (f : Unit → Request β) : Passing (.require c refusal >>= f) db ↔ Passing (f ()) db := by
  rw [Passing, Prog.ensures_require]
  simp [held]

theorem passing_some (a : α) (f : α → Request β) :
    Passing (.expect refusal (some a) >>= f) db ↔ Passing (f a) db := Iff.rfl

theorem passing_pure (b : β) : Passing (pure b) db := undenied_ok b

theorem passing_read (mark : Mark) (query : Db → α) (f : α → Request β) :
    Passing (.read mark query >>= f) db ↔ Passing (f (query db)) db := Iff.rfl

theorem passing_unchecked (c : Prop) [Decidable c] (refusal : Refusal) (other : ¬ Denial refusal)
    (f : Unit → Request β) (rest : Passing (f ()) db) :
    Passing (.require c refusal >>= f) db := by
  rw [Passing, Prog.ensures_require]
  exact ⟨fun _ => rest, fun _ => (undenied_error _).mpr other⟩

theorem passing_lift (source target : TransferStatus) (f : Unit → Request β)
    (rest : target ∈ transitions source → Passing (f ()) db) :
    Passing (.liftExcept (assertTransferTransition source target) >>= f) db ↔
      target ∈ transitions source := by
  rw [Passing, Prog.ensures_liftExcept]
  constructor
  · rintro ⟨-, refused⟩
    exact (assertTransferTransition_undenied source target).mp
      (fun refusal same => (undenied_error _).mp (refused refusal same))
  · intro moves
    have undenied := (assertTransferTransition_undenied source target).mpr moves
    exact ⟨fun _ _ => rest moves, fun refusal same =>
      (undenied_error _).mpr (undenied refusal same)⟩

theorem passing_load (ctx : Ctx) (id : Id) (transfer : StockTransfer)
    (found : db.stockTransfers.find? id = some transfer)
    (own : transfer.companyId = ctx.companyId) (f : StockTransfer → Request β) :
    Passing (load ctx id >>= f) db ↔ Passing (f transfer) db := by
  have shape : load ctx id >>= f = (.read .other (fun db =>
      (db.stockTransfers.find? id).filter (fun transfer => transfer.companyId = ctx.companyId)) >>=
        fun found => .expect (.notFound "Transfer not found") found >>= f) := rfl
  rw [shape]
  simp [Passing, found, own]

theorem passing_commit (mark : Mark) (body : Db → Except Refusal Db) (f : Unit → Request β)
    (rest : ∀ db', Passing (f ()) db') :
    Passing (.commit mark body >>= f) db ↔ Undenied (body db) := by
  rw [Passing, Prog.ensures_commit]
  constructor
  · intro both refusal refused
    exact (undenied_error _).mp (both.2 refusal refused)
  · intro undenied
    exact ⟨fun db' _ => rest db', fun refusal refused =>
      (undenied_error _).mpr (undenied refusal refused)⟩

theorem passing_discard (program : Request α) :
    Passing (do let _ ← program) db ↔ Passing program db := by
  have first : Passing (program >>= fun _ => pure ()) db ↔ Undenied (program.run db).2 := by
    rw [Passing, Prog.ensures_bind]
    unfold Prog.Ensures
    rcases program.run db with ⟨db', refusal | a⟩
    · exact (undenied_error _).trans (undenied_error _).symm
    · exact iff_of_true (undenied_ok _) (undenied_ok _)
  exact first

theorem loaded_passing (ctx : Ctx) (id : Id) : Passing (load ctx id) db := by
  have missing : ¬ Denial (Refusal.notFound "Transfer not found") :=
    not_denial_kind _ (by decide) (by decide)
  rcases read : (load ctx id).run db with ⟨db', refusal | transfer⟩
  · have refused : refusal = .notFound "Transfer not found" := by
      have answered := congrArg Prod.snd read
      simp only [load, Prog.run_bind, Prog.read, Prog.run] at answered
      rcases found : (db.stockTransfers.find? id).filter
          (fun transfer => transfer.companyId = ctx.companyId) with _ | transfer
      · simp [found, Prog.expect, Prog.refuse, Prog.run] at answered
        exact answered.symm
      · simp [found, Prog.expect, Prog.run, pure] at answered
    subst refused
    simp [Passing, Prog.Ensures, read, undenied_error, missing]
  · simp [Passing, Prog.Ensures, read, undenied_ok]

theorem passing_guard (ctx : Ctx) (permissions : String → Bool) (key : String)
    (known : ctx.userId ≠ none) (f : Unit → Request β) :
    Passing (requirePermissions ctx permissions [key] >>= f) db ↔
      permissions key = true ∧ Passing (f ()) db := by
  have shape : requirePermissions ctx permissions [key] >>= f =
      (.require (ctx.userId ≠ none) (.forbidden "Forbidden") >>= fun _ =>
        .require ([key].filter (fun key => !permissions key) = [])
          (.forbidden ("Missing permission(s): " ++
            String.intercalate ", " ([key].filter (fun key => !permissions key)))) >>= f) := by
    simp only [requirePermissions, List.cons_ne_nil, if_false, Prog.bind_assoc]
  rw [shape, passing_held _ _ _ known, passing_checked _ _ _ (.forbidden _ rfl)]
  cases held : permissions key <;> simp [held]

end Passing

section Calls

variable (ctx : Ctx) (permissions : String → Bool) (db : Db) (transfer : StockTransfer)
  (activeBranch : Id) (found : db.stockTransfers.find? transfer.id = some transfer)
  (own : transfer.companyId = ctx.companyId) (here : ctx.branchId = some activeBranch)

include found own here

variable (dto : TransferDecisionDto)

theorem approve_passing :
    Passing (approve ctx transfer.id dto) db ↔
      transfer.fromBranchId = activeBranch ∧ .approved ∈ transitions transfer.status := by
  unfold approve
  rw [here, passing_some, passing_load db ctx transfer.id transfer found own,
    passing_checked db _ _ (.forbidden _ rfl),
    passing_commit db _ _ _ (fun db' => loaded_passing db' ctx transfer.id),
    transitionTx_undenied]

theorem reject_passing (reasoned : blank dto.reason = false) :
    Passing (reject ctx transfer.id dto) db ↔
      transfer.fromBranchId = activeBranch ∧ .rejected ∈ transitions transfer.status := by
  unfold reject
  rw [here, passing_some, passing_load db ctx transfer.id transfer found own,
    passing_checked db _ _ (.forbidden _ rfl), passing_held db _ _ reasoned,
    passing_commit db _ _ _ (fun db' => loaded_passing db' ctx transfer.id),
    withdraw_undenied]

theorem ship_passing :
    Passing (ship ctx transfer.id dto) db ↔
      transfer.fromBranchId = activeBranch ∧ .inTransit ∈ transitions transfer.status := by
  unfold ship
  rw [here, passing_some, passing_load db ctx transfer.id transfer found own,
    passing_checked db _ _ (.forbidden _ rfl), passing_lift]
  intro moves
  rw [passing_read]
  refine passing_unchecked db _ _ (not_denial_text _
    "Some units are no longer in stock at this branch" rfl rfl (by decide)) _ ?_
  rw [← Prog.bind_pure (Prog.commit _ _)]
  exact (passing_commit db _ _ _ (fun db' => passing_pure db' _)).mpr
    (writeShipment_undenied _ _ _ _ _ moves)

theorem receiveConfirm_passing (dto : ReceiveTransferDto) :
    Passing (receiveConfirm ctx transfer.id dto) db ↔
      transfer.toBranchId = activeBranch ∧ .received ∈ transitions transfer.status := by
  unfold receiveConfirm
  rw [here, passing_some, passing_load db ctx transfer.id transfer found own,
    passing_checked db _ _ (.forbidden _ rfl), passing_lift]
  intro moves
  rw [passing_read]
  dsimp only
  refine (passing_commit db _ _ _ (fun db' => ?_)).mpr (writeReceipt_undenied _ _ _ _ _ _ _ moves)
  exact passing_pure db' _

theorem cancel_passing (has : Permission → Bool) (dto : TransferDecisionDto)
    (reasoned : blank dto.reason = false) :
    Passing (cancel ctx has transfer.id dto) db ↔
      transfer.fromBranchId = activeBranch ∧
        (has .transferCancel ∨ transfer.requestedById ≠ none ∧
          transfer.requestedById = ctx.userId) ∧
        (has .transferCancel ∨ transfer.status = .pendingApproval) ∧
        transfer.status ≠ .inTransit ∧ .cancelled ∈ transitions transfer.status := by
  unfold cancel
  rw [here, passing_some, passing_load db ctx transfer.id transfer found own,
    passing_checked db _ _ (.forbidden _ rfl), passing_held db _ _ reasoned,
    passing_checked db _ _ (.forbidden _ rfl), passing_checked db _ _ (.forbidden _ rfl),
    passing_checked db _ _ .shipped,
    passing_commit db _ _ _ (fun db' => loaded_passing db' ctx transfer.id),
    withdraw_undenied]

abbrev inputsOf (ctx : Ctx) (permissions : String → Bool) (transfer : StockTransfer)
    (activeBranch : Id) (sourceName targetName : String) : ActionInputs where
  status := transfer.status
  requestedById := transfer.requestedById
  source := ⟨transfer.fromBranchId, sourceName⟩
  target := ⟨transfer.toBranchId, targetName⟩
  activeBranchId := activeBranch
  userId := ctx.userId
  permissions := permissions

/-- An action is offered exactly when its call passes the guard and the service's checks. -/
theorem computeActions_iff_passes (sourceName targetName : String) (call : TransferCall)
    (known : ctx.userId ≠ none) (reasoned : call.reasoned = true) :
    (call.action (computeActions
        (inputsOf ctx permissions transfer activeBranch sourceName targetName))).allowed = true ↔
      Passes call ctx permissions transfer.id db := by
  change _ ↔ Passing (call.program ctx permissions transfer.id) db
  cases call with
  | approve dto =>
    have passes := approve_passing ctx db transfer activeBranch found own here dto
    rw [TransferCall.program, passing_guard _ _ _ _ known, passing_discard, passes,
      transitions_approved]
    simp only [TransferCall.action, computeActions, decideAction_allowed, decide_eq_true_eq]
    tauto
  | reject dto =>
    have given : blank dto.reason = false := by simpa [TransferCall.reasoned] using reasoned
    have passes := reject_passing ctx db transfer activeBranch found own here dto given
    rw [TransferCall.program, passing_guard _ _ _ _ known, passing_discard, passes,
      transitions_rejected]
    simp only [TransferCall.action, computeActions, decideAction_allowed, decide_eq_true_eq]
    tauto
  | ship dto =>
    have passes := ship_passing ctx db transfer activeBranch found own here dto
    rw [TransferCall.program, passing_guard _ _ _ _ known, passes, transitions_inTransit]
    simp only [TransferCall.action, computeActions, decideAction_allowed, decide_eq_true_eq]
    tauto
  | receive dto =>
    have passes := receiveConfirm_passing ctx db transfer activeBranch found own here dto
    rw [TransferCall.program, passing_guard _ _ _ _ known, passing_discard, passes,
      transitions_received]
    simp only [TransferCall.action, computeActions, decideAction_allowed, decide_eq_true_eq]
    tauto
  | cancel dto =>
    have given : blank dto.reason = false := by simpa [TransferCall.reasoned] using reasoned
    have passes := cancel_passing ctx db transfer activeBranch found own here
      (holds permissions) dto given
    have breadth : ((if permissions "transfer.cancel" = true then (true, none)
        else ((decide (ctx.userId ≠ none ∧ transfer.requestedById = ctx.userId) &&
          decide (transfer.status = .pendingApproval)), some ActionReason.ownership) :
          Bool × Option ActionReason)).1 = true ↔
        (permissions "transfer.cancel" = true ∨
          (ctx.userId ≠ none ∧ transfer.requestedById = ctx.userId) ∧
            transfer.status = .pendingApproval) := by
      cases permissions "transfer.cancel" <;> simp
    have requester : ctx.userId ≠ none ∧ transfer.requestedById = ctx.userId ↔
        transfer.requestedById ≠ none ∧ transfer.requestedById = ctx.userId := by
      constructor <;> rintro ⟨known, same⟩ <;> simp_all
    rw [TransferCall.program, passing_guard _ _ _ _ known, passing_discard, passes,
      transitions_cancelled]
    simp only [TransferCall.action, computeActions, decideAction_allowed, breadth, holds,
      Bool.or_eq_true, decide_eq_true_eq, ← requester]
    constructor
    · rintro ⟨unshipped, held, own, place⟩
      have still : transfer.status ≠ .inTransit := by
        rcases unshipped with same | same <;> simp [same]
      obtain ⟨mine, pending⟩ := or_and_left.mp own
      exact ⟨held, place, mine, pending, still, unshipped⟩
    · rintro ⟨held, place, mine, pending, -, unshipped⟩
      exact ⟨unshipped, held, or_and_left.mpr ⟨mine, pending⟩, place⟩

end Calls

def asked : StockTransfer where
  id := 70
  companyId := 10
  fromBranchId := 1
  toBranchId := 2
  transferNo := none
  status := .pendingApproval
  sentById := none
  receivedById := none
  sentAt := 0
  receivedAt := none
  clientUuid := none
  clientRequestHash := none
  version := 0
  requestedById := some 5
  approvedById := none
  approvedAt := none
  autoApproved := false
  decisionReason := none
  decidedById := none
  decidedAt := none

def ownOnly (key : String) : Bool := key = "transfer.cancel_own"

theorem computeActions_iff_passes_own :
    Passes (.cancel { expectedVersion := 0, reason := some "wrong shop" }) ⟨10, some 1, some 5, 0⟩
      ownOnly 70 { stockTransfers := ⟨[asked], by decide⟩ } :=
  (computeActions_iff_passes ⟨10, some 1, some 5, 0⟩ ownOnly
    { stockTransfers := ⟨[asked], by decide⟩ } asked 1 rfl rfl rfl "Main" "Mall"
    (.cancel { expectedVersion := 0, reason := some "wrong shop" }) (by decide)
    (by decide +kernel)).mp (by decide +kernel)

end ErpBackend.Transfers
