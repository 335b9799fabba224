import ErpBackend.Returns.Effects

/-!
# Deciding a pending return

The return workflow moves the phone by the table of the inventory. Receiving a
phone and retaining it are edges of that table; handing it back is not.
-/

namespace ErpBackend.Returns

open Foundation Inventory

def ByMachine (refusal : Refusal) : Prop :=
  ∃ source target, refusal = illegalMove source target

theorem not_byMachine_of_kind (refusal : Refusal) (other : refusal.kind ≠ .conflict) :
    ¬ ByMachine refusal := by
  rintro ⟨source, target, rfl⟩
  exact other rfl

theorem not_byMachine_of_code (refusal : Refusal) (coded : refusal.code ≠ none) :
    ¬ ByMachine refusal := by
  rintro ⟨source, target, rfl⟩
  exact coded rfl

/-- Run alone from `db`, the request is not refused by the unit state machine. -/
def Unhindered {α : Type} (p : Request α) (db : Db) : Prop :=
  Prog.Ensures p (fun _ result => ∀ refusal, result = .error refusal → ¬ ByMachine refusal) db

/-- A check of `x` that never answers with a refusal of the machine. -/
def Clear {α : Type} (x : Except Refusal α) : Prop :=
  ∀ refusal, x = .error refusal → ¬ ByMachine refusal

section Rules

variable {α β : Type} {db : Db}

theorem unhindered_pure (a : α) : Unhindered (pure a : Request α) db :=
  fun _ failed => by cases failed

theorem unhindered_expect (e : Refusal) (x : Option α) (f : α → Request β) (clear : ¬ ByMachine e)
    (rest : ∀ a, x = some a → Unhindered (f a) db) : Unhindered (Prog.expect e x >>= f) db := by
  refine (Prog.ensures_expect _ db e x f).mpr ⟨rest, ?_⟩
  intro _ refusal same
  cases same
  exact clear

theorem unhindered_require (c : Prop) [Decidable c] (e : Refusal) (f : Unit → Request β)
    (clear : ¬ ByMachine e) (rest : c → Unhindered (f ()) db) :
    Unhindered (Prog.require c e >>= f) db := by
  refine (Prog.ensures_require _ db c e f).mpr ⟨rest, ?_⟩
  intro _ refusal same
  cases same
  exact clear

theorem unhindered_liftExcept (x : Except Refusal α) (f : α → Request β) (clear : Clear x)
    (rest : ∀ a, x = .ok a → Unhindered (f a) db) :
    Unhindered (Prog.liftExcept x >>= f) db := by
  refine (Prog.ensures_liftExcept _ db x f).mpr ⟨rest, ?_⟩
  intro e failed refusal same
  cases same
  exact clear e failed

theorem unhindered_read (query : Db → α) (f : α → Request β)
    (rest : Unhindered (f (query db)) db) : Unhindered (Prog.read .other query >>= f) db :=
  rest

theorem unhindered_commit (body : Db → Except Refusal Db) (f : Unit → Request β)
    (clear : Clear (body db)) (rest : ∀ db', body db = .ok db' → Unhindered (f ()) db') :
    Unhindered (Prog.commit .other body >>= f) db := by
  refine (Prog.ensures_commit _ db .other body f).mpr ⟨rest, ?_⟩
  intro e failed refusal same
  cases same
  exact clear e failed

theorem clear_bind (x : Except Refusal α) (f : α → Except Refusal β) (first : Clear x)
    (second : ∀ a, x = .ok a → Clear (f a)) : Clear (x >>= f) := by
  intro refusal failed
  cases x with
  | error e =>
      cases failed
      exact first _ rfl
  | ok a => exact second a rfl refusal failed

theorem clear_ok (a : α) : Clear (.ok a) := by
  intro refusal failed
  cases failed

theorem clear_error (e : Refusal) (clear : ¬ ByMachine e) :
    Clear (.error e : Except Refusal α) := by
  intro refusal same
  cases same
  exact clear

theorem clear_ite (c : Prop) [Decidable c] (x y : Except Refusal α) (left : c → Clear x)
    (right : ¬ c → Clear y) : Clear (if c then x else y) := by
  split
  · next holds => exact left holds
  · next fails => exact right fails

end Rules

theorem clear_assertEditable (status : ReturnStatus) : Clear (assertEditable status) :=
  clear_ite _ _ _ (fun _ => clear_error _ (not_byMachine_of_code _ (by simp [Refusal.coded])))
    (fun _ => clear_ok _)

theorem clear_assertTransition (source target : ReturnStatus) :
    Clear (assertTransition source target) := by
  unfold assertTransition
  apply clear_ite
  · exact fun _ => clear_ok _
  · intro _
    apply clear_ite
    · exact fun _ => clear_error _ (not_byMachine_of_code _ (by simp [Refusal.coded]))
    · exact fun _ => clear_error _ (not_byMachine_of_code _ (by simp [Refusal.coded]))

theorem clear_swapRequest (companyId id : Id) (expectedVersion : Nat)
    (status : Option ReturnStatus) (f : ReturnRequest → ReturnRequest) (db : Db) :
    Clear (swapRequest companyId id expectedVersion status f db) := by
  unfold swapRequest
  split
  · exact clear_error _ (not_byMachine_of_code _ (by simp [staleWrite, Refusal.coded]))
  · exact clear_ok _

theorem clear_moveUnitForCustody (companyId unitId : Id) (source target : UnitStatus) (db : Db)
    (legal : target ∈ unitTransitions source) :
    Clear (moveUnitForCustody companyId unitId source target db) := by
  unfold moveUnitForCustody assertUnitTransition
  rw [if_pos legal]
  apply clear_bind _ _ (clear_ok _)
  intro _ _
  split
  · exact clear_error _ (not_byMachine_of_code _ (by simp [Refusal.coded]))
  · exact clear_ok _

theorem clear_insertReversal (row : ReturnReversal) (db : Db) : Clear (insertReversal row db) := by
  intro refusal failed
  apply not_byMachine_of_kind
  unfold insertReversal at failed
  split_ifs at failed
  all_goals try split at failed
  all_goals cases failed
  all_goals simp [Refusal.constraint, Refusal.unique]

theorem clear_assertMayApprove (requiresException : Bool) (responsibility : ReturnResponsibility)
    (has : Permission → Bool) (exceptionReason : Option String) :
    Clear (assertMayApprove requiresException responsibility has exceptionReason) := by
  unfold assertMayApprove
  apply clear_ite
  · exact fun _ => clear_error _ (not_byMachine_of_kind _ (by simp [Refusal.forbidden]))
  · intro _
    apply clear_ite
    · exact fun _ => clear_error _ (not_byMachine_of_kind _ (by simp [Refusal.badRequest]))
    · intro _
      apply clear_ite
      · intro _
        apply clear_ite
        · exact fun _ => clear_error _ (not_byMachine_of_kind _ (by simp [Refusal.forbidden]))
        · intro _
          apply clear_ite
          · exact fun _ => clear_error _ (not_byMachine_of_kind _ (by simp [Refusal.badRequest]))
          · exact fun _ => clear_ok _
      · exact fun _ => clear_ok _

theorem clear_settleRefund (gross : Int) (adjustments : List Int) :
    Clear (settleRefund gross adjustments) :=
  clear_ite _ _ _ (fun _ => clear_error _ (not_byMachine_of_kind _ (by simp [Refusal.badRequest])))
    (fun _ => clear_ok _)

variable (first : Lookup RefundPayout)

variable (ctx : Ctx)

theorem unhindered_detail (id : Id) (db : Db) :
    Unhindered (detail first ctx id) db := by
  unfold detail load
  apply unhindered_expect _ _ _
    (not_byMachine_of_kind _ (by simp [branchRequired, Refusal.badRequest]))
  intro branchId _
  rw [Prog.bind_assoc]
  apply unhindered_read
  apply unhindered_expect _ _ _ (not_byMachine_of_kind _ (by simp [Refusal.notFound]))
  intro loaded _
  apply unhindered_read
  apply unhindered_read
  apply unhindered_read
  exact unhindered_pure _

theorem unhindered_load {β : Type} (ctx : Ctx) (branchId id : Id) (f : LoadedReturn → Request β)
    (db : Db) (rest : ∀ loaded, findReturn db ctx.companyId branchId id = some loaded →
      Unhindered (f loaded) db) : Unhindered (load ctx branchId id >>= f) db := by
  unfold load
  rw [Prog.bind_assoc]
  apply unhindered_read
  exact unhindered_expect _ _ _ (not_byMachine_of_kind _ (by simp [Refusal.notFound])) rest

theorem unhindered_recompute {β : Type} (companyId branchId : Id) (day : Day) (now : Time)
    (rollupId : Id) (f : Unit → Request β) (db : Db) (rest : ∀ db', Unhindered (f ()) db') :
    Unhindered (Analytics.recomputeDaily .other companyId branchId day now rollupId >>= f) db := by
  unfold Analytics.recomputeDaily
  simp only [Prog.bind_assoc]
  apply unhindered_read
  apply unhindered_read
  apply unhindered_read
  apply unhindered_read
  apply unhindered_read
  apply unhindered_commit
  · unfold Analytics.upsertRollup
    split
    · exact clear_ok _
    · split
      · exact clear_error _ (not_byMachine_of_kind _ (by simp [Refusal.unique]))
      · exact clear_ok _
  · exact fun db' _ => rest db'

theorem unhindered_receiveCustody (id : Id)
    (dto : ReceiveCustodyDto) (db : Db) : Unhindered (receiveCustody first ctx id dto) db := by
  unfold receiveCustody
  apply unhindered_expect _ _ _
    (not_byMachine_of_kind _ (by simp [branchRequired, Refusal.badRequest]))
  intro branchId _
  apply unhindered_load
  intro loaded _
  apply unhindered_liftExcept _ _ (clear_assertEditable _)
  intro _ _
  apply unhindered_liftExcept
  · unfold custodyIntakeNeeded
    split
    · exact clear_ok _
    · exact clear_ok _
    · exact clear_error _ (not_byMachine_of_code _ (by simp [Refusal.coded]))
    · exact clear_error _ (not_byMachine_of_code _ (by simp [Refusal.coded]))
  intro needed _
  split
  · apply unhindered_require _ _ _ (not_byMachine_of_code _ (by simp [Refusal.coded]))
    intro _
    apply unhindered_commit
    · apply clear_bind _ _ (clear_swapRequest _ _ _ _ _ _)
      intro moved _
      exact clear_moveUnitForCustody _ _ _ _ _ (by decide)
    · exact fun db' _ => unhindered_detail first ctx id db'
  · exact unhindered_detail first ctx id db

theorem unhindered_approve (has : Permission → Bool)
    (ids : ApprovalIds) (id : Id) (dto : ApproveReturnDto) (db : Db) :
    Unhindered (approve first ctx has ids id dto) db := by
  unfold approve
  apply unhindered_expect _ _ _
    (not_byMachine_of_kind _ (by simp [branchRequired, Refusal.badRequest]))
  intro branchId _
  apply unhindered_load
  intro loaded _
  apply unhindered_liftExcept _ _ (clear_assertEditable _)
  intro _ _
  apply unhindered_liftExcept _ _ (clear_assertTransition _ _)
  intro _ _
  apply unhindered_require _ _ _ (not_byMachine_of_code _ (by simp [Refusal.coded]))
  intro _
  apply unhindered_liftExcept _ _ (clear_assertMayApprove _ _ _ _)
  intro isException _
  apply unhindered_read
  apply unhindered_liftExcept _ _ (clear_settleRefund _ _)
  intro settled _
  apply unhindered_read
  apply unhindered_require _ _ _
    (not_byMachine_of_code _ (by simp [dayAlreadyClosed, Refusal.coded]))
  intro _
  apply unhindered_commit
  · apply clear_bind _ _ (clear_swapRequest _ _ _ _ _ _)
    intro moved _
    apply clear_bind _ _ (clear_insertReversal _ _)
    intro reversed _
    exact clear_moveUnitForCustody _ _ _ _ _ (by decide)
  · intro db' _
    apply unhindered_recompute
    exact fun db'' => unhindered_detail first ctx id db''

theorem unhindered_reject (id : Id)
    (dto : RejectReturnDto) (db : Db)
    (away : ∀ request, db.returnRequests.find? id = some request →
      request.custody ≠ .storeHolds) : Unhindered (reject first ctx id dto) db := by
  unfold reject
  apply unhindered_expect _ _ _
    (not_byMachine_of_kind _ (by simp [branchRequired, Refusal.badRequest]))
  intro branchId _
  apply unhindered_load
  intro loaded found
  have outside := away loaded.request ((findReturn_some _ _ _ _ _).mp found).1
  apply unhindered_liftExcept _ _ (clear_assertEditable _)
  intro _ _
  apply unhindered_liftExcept _ _ (clear_assertTransition _ _)
  intro _ _
  apply unhindered_require _ _ _ (not_byMachine_of_kind _ (by simp [Refusal.badRequest]))
  intro _
  apply unhindered_commit
  · apply clear_bind _ _ (clear_swapRequest _ _ _ _ _ _)
    intro moved _
    rw [if_neg outside]
    exact clear_ok _
  · exact fun db' _ => unhindered_detail first ctx id db'

def MovesPermitted (db : Db) (id : Id) : Prop :=
  (∀ first ctx dto, Unhindered (receiveCustody first ctx id dto) db) ∧
  (∀ first ctx has ids dto, Unhindered (approve first ctx has ids id dto) db) ∧
  (∀ first ctx dto, Unhindered (reject first ctx id dto) db)

/-- Whoever may reject at the branch does so on the stored version with a reason; a phone
the store holds goes back to the customer as sold. -/
def Rejectable (db : Db) (request : ReturnRequest) : Prop :=
  ∀ first ctx dto, ctx.companyId = request.companyId → ctx.branchId = some request.branchId →
    dto.expectedVersion = request.version → blank (some dto.reason) = false →
    ∃ db' request', Prog.Grants (reject first ctx request.id dto) db db' ∧
      db'.returnRequests.find? request.id = some request' ∧ request'.status = .rejected ∧
      (request.custody = .storeHolds → request'.custody = .handedBack ∧
        (db'.units.find? request.unitId).map StockUnit.status = some .sold)

/-- The machine has no edge back to the customer, so no rejection of a phone the store
holds goes through, whoever asks. -/
theorem reject_refused (id : Id) (dto : RejectReturnDto)
    (db : Db) (here : ∀ request, db.returnRequests.find? id = some request →
      request.custody = .storeHolds) :
    Prog.Ensures (reject first ctx id dto)
      (fun db' result => db' = db ∧ ∃ refusal, result = .error refusal) db := by
  unfold reject load
  simp only [Prog.bind_assoc, Prog.ensures_expect, Prog.ensures_read, Prog.ensures_liftExcept,
    Prog.ensures_require, Prog.ensures_commit]
  refine ⟨fun branchId _ => ⟨fun loaded found => ⟨fun _ _ => ⟨fun _ _ => ⟨fun _ => ⟨?_, ?_⟩,
    ?_⟩, ?_⟩, ?_⟩, ?_⟩, ?_⟩
  · intro db' done
    obtain ⟨moved, swapped, done⟩ := (except_bind_ok _ _ _).mp done
    have held := here loaded.request ((findReturn_some _ _ _ _ _).mp found).1
    rw [if_pos held] at done
    exact absurd (moveUnitForCustody_ok _ _ _ _ _ _ done).1 (by decide)
  all_goals simp

theorem writeRejection_away (request : ReturnRequest) (dto : RejectReturnDto)
    (db : Db) (stored : db.returnRequests.find? request.id = some request)
    (company : request.companyId = ctx.companyId) (version : request.version = dto.expectedVersion)
    (away : request.custody ≠ .storeHolds) :
    writeRejection ctx request dto db = .ok { db with
      returnRequests := db.returnRequests.update request.id
        (bumped (refused ctx request.custody (trim dto.reason)))
        (bumped_id (refused ctx request.custody (trim dto.reason))) } := by
  have swapped := (swapRequest_ok ctx.companyId request.id dto.expectedVersion
    (some request.status) (refused ctx request.custody (trim dto.reason)) db _).mpr
    ⟨request, stored, company, version, fun expected named => Option.some.inj named, rfl⟩
  unfold writeRejection
  rw [swapped]
  show (if request.custody = .storeHolds then _ else _) = _
  rw [if_neg away]

theorem grants_reject (dto : RejectReturnDto) (db : Db)
    (loaded : LoadedReturn)
    (found : findReturn db loaded.request.companyId loaded.request.branchId loaded.request.id =
      some loaded)
    (company : ctx.companyId = loaded.request.companyId)
    (branch : ctx.branchId = some loaded.request.branchId)
    (open' : pending loaded.request.status = true)
    (version : dto.expectedVersion = loaded.request.version)
    (reason : blank (some dto.reason) = false) (away : loaded.request.custody ≠ .storeHolds) :
    Prog.Grants (reject first ctx loaded.request.id dto) db
      { db with
        returnRequests := db.returnRequests.update loaded.request.id
          (bumped (refused ctx loaded.request.custody (trim dto.reason)))
          (bumped_id (refused ctx loaded.request.custody (trim dto.reason))) } := by
  obtain ⟨stored, -, -, listed, kept⟩ := (findReturn_some _ _ _ _ _).mp found
  unfold reject load
  apply Prog.grants_expect _ _ _ _ branch
  rw [Prog.bind_assoc, company]
  apply Prog.grants_read
  apply Prog.grants_expect _ _ loaded _ found
  apply Prog.grants_liftExcept _ () _ (assertEditable_of _ open')
  apply Prog.grants_liftExcept _ () _ (assertTransition_of _ _ open' (.inr rfl))
  apply Prog.grants_require _ _ _ reason
  apply Prog.grants_commit
  · exact writeRejection_away ctx loaded.request dto db stored company.symm version.symm away
  · apply grants_detail first ctx _ loaded.request.branchId _
      { loaded with
        request := bumped (refused ctx loaded.request.custody (trim dto.reason)) loaded.request }
      branch
    refine (findReturn_some _ _ _ _ _).mpr ⟨?_, company.symm, rfl, listed, kept⟩
    rw [Table.find?_update, if_pos rfl, stored]
    rfl

/-- A pending return can be decided either way exactly when the store does not hold the
phone. -/
theorem decisions_open_iff (db : Db) (loaded : LoadedReturn)
    (found : findReturn db loaded.request.companyId loaded.request.branchId loaded.request.id =
      some loaded)
    (open' : pending loaded.request.status = true) :
    (MovesPermitted db loaded.request.id ∧ Rejectable db loaded.request) ↔
      loaded.request.custody ≠ .storeHolds := by
  have stored := ((findReturn_some _ _ _ _ _).mp found).1
  have only : ∀ request, db.returnRequests.find? loaded.request.id = some request →
      request = loaded.request := by
    intro request present
    rw [stored] at present
    exact (Option.some.inj present).symm
  constructor
  · rintro ⟨-, rejectable⟩ here
    have stated : blank (some "water damage") = false := by decide
    obtain ⟨db', request', ⟨-, answer, answered⟩, -⟩ := rejectable .oldest
      ⟨loaded.request.companyId, some loaded.request.branchId, none, 0⟩
      ⟨loaded.request.version, "water damage"⟩ rfl rfl rfl stated
    obtain ⟨-, refusal, failed⟩ := reject_refused _ _ _ _ db
      (fun request present => by rw [only request present]; exact here)
    rw [failed] at answered
    cases answered
  · intro away
    refine ⟨⟨?_, ?_, ?_⟩, ?_⟩
    · exact fun first ctx dto => unhindered_receiveCustody first ctx _ dto db
    · exact fun first ctx has ids dto => unhindered_approve first ctx has ids _ dto db
    · intro first ctx dto
      apply unhindered_reject
      intro request present
      rw [only request present]
      exact away
    · intro first ctx dto company branch version reason
      refine ⟨_, bumped (refused ctx loaded.request.custody (trim dto.reason)) loaded.request,
        grants_reject first ctx dto db loaded found company branch open' version reason away,
        ?_, rfl, fun here => absurd here away⟩
      rw [Table.find?_update, if_pos rfl, stored]
      rfl

/-- A phone sold at branch 1 and brought back: `custody` says who has it. -/
def broughtBack (custody : ReturnCustody) : LoadedReturn where
  request :=
    { id := 500
      companyId := 10
      branchId := 1
      saleId := 900
      saleItemId := 910
      unitId := 301
      status := .underReview
      clientUuid := 60
      clientRequestHash := ""
      requestedById := some 7
      requestReason := "screen flickers"
      conditionNotes := none
      responsibility := .customerDamage
      responsibilityNotes := none
      custody
      custodyReceivedAt := none
      custodyReturnedAt := none
      policyWindowHours := 48
      policyDeadlineAt := some 172800000
      policyReason := .withinWindow
      requiresException := false
      reviewedById := some 7
      reviewedAt := some 1000
      decidedById := none
      decidedAt := none
      decisionReason := none
      exceptionReason := none
      version := 1 }
  saleItem :=
    { id := 910
      companyId := 10
      saleId := 900
      unitId := some 301
      productId := none
      quantity := 1
      price := 100000
      cost := 60000
      discount := 0
      voided := false }
  unit :=
    { id := 301
      companyId := 10
      productId := 3
      branchId := 1
      imeiPrimary := some "356938035643809"
      imeiSecondary := none
      serialNo := none
      cost := 60000
      status := if custody = .storeHolds then .returned else .sold
      dateSold := some 500 }

def shopWith (loaded : LoadedReturn) : Db where
  units := ⟨[loaded.unit], List.nodup_singleton _⟩
  saleItems := ⟨[loaded.saleItem], List.nodup_singleton _⟩
  returnRequests := ⟨[loaded.request], List.nodup_singleton _⟩

theorem store_held_phone_not_handed_back :
    ¬ ∀ (db : Db) (loaded : LoadedReturn), findReturn db loaded.request.companyId
        loaded.request.branchId loaded.request.id = some loaded →
      pending loaded.request.status = true →
      MovesPermitted db loaded.request.id ∧ Rejectable db loaded.request := by
  intro claim
  have found : findReturn (shopWith (broughtBack .storeHolds)) 10 1 500 =
      some (broughtBack .storeHolds) := by decide
  obtain ⟨-, rejectable⟩ := claim (shopWith (broughtBack .storeHolds)) (broughtBack .storeHolds)
    found rfl
  have stated : blank (some "water damage") = false := by decide
  obtain ⟨db', request', ⟨-, answer, answered⟩, -⟩ := rejectable .oldest
    ⟨10, some 1, some 7, 2000⟩ ⟨1, "water damage"⟩ rfl rfl rfl stated
  have refused : ((reject .oldest ⟨10, some 1, some 7, 2000⟩ 500 ⟨1, "water damage"⟩).run
      (shopWith (broughtBack .storeHolds))).2 = .error (illegalMove .returned .sold) := by decide
  have same : (.error (illegalMove .returned .sold) : Except Refusal ReturnDetail) = .ok answer :=
    refused.symm.trans answered
  cases same

theorem decisions_open_iff_at_home :
    findReturn (shopWith (broughtBack .customerHolds)) 10 1 500 =
        some (broughtBack .customerHolds) ∧
      MovesPermitted (shopWith (broughtBack .customerHolds)) 500 ∧
      Rejectable (shopWith (broughtBack .customerHolds)) (broughtBack .customerHolds).request := by
  have found : findReturn (shopWith (broughtBack .customerHolds)) 10 1 500 =
      some (broughtBack .customerHolds) := by decide
  exact ⟨found, (decisions_open_iff (shopWith (broughtBack .customerHolds))
    (broughtBack .customerHolds) found rfl).mpr (by decide)⟩

end ErpBackend.Returns
