import ErpBackend.Sales.Effects
import ErpBackend.Transfers.Balance
import ErpBackend.Transfers.Transactions

/-!
# Concurrent transfers and sales

The reservations balance in every interleaving: each transaction re-checks what
it takes. What a sale does not re-check is where the phone stands; that holds
at the commit whenever no phone on a drafted sale is put on another shelf.
-/

namespace ErpBackend.Inventory

open Foundation Transfers Sales

def acting {α : Type} (id : Id) (act : Nat → Request α) : Request Unit := do
  let shown ← .read .other (fun db => db.stockTransfers.find? id)
  let transfer ← .expect (.notFound "Transfer not found") shown
  .require (0 ≤ transfer.version) (.badRequest "expectedVersion must not be less than 0")
  (act transfer.version.toNat).void

inductive IsRequest : Request Unit → Prop
  | createSale (ctx : Ctx) (has : Permission → Bool) (ids : SaleIds) (dto : CreateSaleDto) :
      IsRequest (createSale ctx has ids dto).void
  | create (ctx : Ctx) (has : Permission → Bool) (ids : TransferIds) (dto : CreateTransferDto) :
      IsRequest (create ctx has ids dto).void
  | approve (ctx : Ctx) (id : Id) (reason : Option String) :
      IsRequest (acting id (fun version => approve ctx id ⟨version, reason⟩))
  | reject (ctx : Ctx) (id : Id) (reason : Option String) :
      IsRequest (acting id (fun version => reject ctx id ⟨version, reason⟩))
  | cancel (ctx : Ctx) (has : Permission → Bool) (id : Id) (reason : Option String) :
      IsRequest (acting id (fun version => cancel ctx has id ⟨version, reason⟩))
  | ship (ctx : Ctx) (id : Id) (reason : Option String) :
      IsRequest (acting id (fun version => ship ctx id ⟨version, reason⟩))
  | receiveConfirm (ctx : Ctx) (id : Id) (identifiers : List String) :
      IsRequest (acting id (fun version => receiveConfirm ctx id ⟨identifiers, version⟩))

/-- No phone in transit is received while a sale that drafted it waits to commit. -/
def isolated (db : Db) : Mark → Mark → Prop
  | .arrive arriving, .claim drafted =>
      ∀ unitId ∈ arriving, unitId ∈ drafted →
        (db.units.find? unitId).any (fun unit => unit.status = .inTransit) = false
  | _, _ => True

def movedBy : Mark → StockUnit → Prop
  | .arrive unitIds => Arriving unitIds
  | _ => Nobody

/-- Every phone on an item the step added stands in the branch of its sale. -/
def StoodHere (db db' : Db) : Prop :=
  ∀ item ∈ db'.saleItems.rows, item ∉ db.saleItems.rows →
    ∀ sale, db'.sales.find? item.saleId = some sale →
      ∀ unitId, item.unitId = some unitId →
        ∃ unit, db'.units.find? unitId = some unit ∧ unit.branchId = sale.branchId

theorem StoodHere.congr {db db' : Db} (items : db'.saleItems = db.saleItems) :
    StoodHere db db' := by
  intro item member new
  rw [items] at member
  exact absurd member new

def Unmoved : Mark → Db → Db → Prop
  | .claim unitIds, db, db' =>
      ∀ unitId ∈ unitIds, ∀ unit, db.units.find? unitId = some unit →
        ∃ unit', db'.units.find? unitId = some unit' ∧ unit'.branchId = unit.branchId
  | _, _, _ => True

theorem Unmoved.refl (m : Mark) (db : Db) : Unmoved m db db := by
  cases m with
  | other => trivial
  | arrive unitIds => trivial
  | supersede correctionId => trivial
  | claim unitIds => exact fun _ _ unit found => ⟨unit, found, rfl⟩

theorem Unmoved.trans {m : Mark} {db db' db'' : Db} (first : Unmoved m db db')
    (second : Unmoved m db' db'') : Unmoved m db db'' := by
  cases m with
  | other => trivial
  | arrive unitIds => trivial
  | supersede correctionId => trivial
  | claim unitIds =>
      intro unitId member unit found
      obtain ⟨unit', found', branch'⟩ := first unitId member unit found
      obtain ⟨unit'', found'', branch''⟩ := second unitId member unit' found'
      exact ⟨unit'', found'', branch''.trans branch'⟩

theorem Unmoved.of_stands {m m' : Mark} {db db' : Db} (allowed : isolated db m m')
    (stands : Stands (movedBy m) db db') : Unmoved m' db db' := by
  cases m' with
  | other => trivial
  | arrive unitIds => trivial
  | supersede correctionId => trivial
  | claim unitIds =>
      intro unitId member unit found
      obtain ⟨unit', found', -, outcome⟩ := stands unitId unit found
      refine ⟨unit', found', ?_⟩
      rcases outcome with same | gone
      · exact same
      · cases m with
        | other => exact gone.elim
        | claim _ => exact gone.elim
        | supersede _ => exact gone.elim
        | arrive arriving =>
            obtain ⟨named, status⟩ := gone
            rw [Table.key_of_find? _ _ _ found] at named
            have settled := allowed unitId named member
            simp [found, status] at settled

/-- With `strict` the discipline also answers for where sold phones stand. -/
def discipline (strict : Prop) : Discipline Db Mark where
  inv := Reserved
  guar m db db' := Later db db' ∧ Stands (movedBy m) db db' ∧ (strict → StoodHere db db')
  rely m db db' := Later db db' ∧ (strict → Unmoved m db db')
  rely_refl m db := ⟨.refl db, fun _ => .refl m db⟩
  rely_trans _ _ _ _ first second :=
    ⟨first.1.trans second.1, fun isolation => (first.2 isolation).trans (second.2 isolation)⟩

section Safety

variable (strict : Prop) {α β : Type}

theorem guar_self (m : Mark) (db : Db) : (discipline strict).guar m db db :=
  ⟨.refl db, .refl db db rfl, fun _ => .congr rfl⟩

theorem guar_advanced {m : Mark} {db db' : Db} (advanced : Advanced (movedBy m) db db') :
    (discipline strict).inv db' ∧ (discipline strict).guar m db db' :=
  ⟨advanced.reserved, advanced.later, advanced.stands, fun _ => .congr advanced.sales⟩

theorem safe_query (m : Mark) (query : Db → α) (f : α → Request β) (db : Db)
    (rest : ∀ db', Later db db' → (discipline strict).Safe (f (query db')) db') :
    (discipline strict).Safe (Prog.read m query >>= f) db :=
  (discipline strict).safe_read db m query f
    (fun db' relied _ => ⟨guar_self strict m db', rest db' relied.1⟩)

theorem safe_write (m : Mark) (body : Db → Except Refusal Db) (f : Unit → Request β) (db : Db)
    (commits : ∀ db', Later db db' → Reserved db' → ∀ db'', body db' = .ok db'' →
      Advanced (movedBy m) db' db'')
    (rest : ∀ db', (discipline strict).Safe (f ()) db') :
    (discipline strict).Safe (Prog.commit m body >>= f) db := by
  apply Discipline.safe_commit
  · intro db' relied invariant db'' done
    obtain ⟨kept, guaranteed⟩ := guar_advanced strict (commits db' relied.1 invariant db'' done)
    exact ⟨kept, guaranteed, rest db''⟩
  · exact fun db' => guar_self strict m db'

/-- The transfer is there, no older than the version the client holds. -/
def Shown (id : Id) (version : Nat) (db : Db) : Prop :=
  ∃ row, db.stockTransfers.find? id = some row ∧ (version : Int) ≤ row.version

theorem safe_acting (id : Id) (act : Nat → Request α) (db : Db)
    (safe : ∀ version db', Shown id version db' → (discipline strict).Safe (act version) db') :
    (discipline strict).Safe (acting id act) db := by
  unfold acting
  apply safe_query
  intro db' _
  apply Discipline.safe_expect
  intro transfer found
  apply Discipline.safe_require
  intro nonneg
  apply Discipline.safe_void
  exact safe _ db' ⟨transfer, found, by omega⟩

variable (ctx : Ctx)

/-- The transfer the service loads, and why its row is the one a swap on the
client's version would find. -/
theorem safe_load (id : Id) (version : Nat) (f : StockTransfer → Request β) (db : Db)
    (shown : Shown id version db)
    (rest : ∀ transfer db', db'.stockTransfers.find? transfer.id = some transfer →
      (∀ db'', Later db' db'' → Current transfer version db'') →
      (discipline strict).Safe (f transfer) db') :
    (discipline strict).Safe (load ctx id >>= f) db := by
  unfold load
  rw [Prog.bind_assoc]
  apply safe_query
  intro db' later
  apply Discipline.safe_expect
  intro transfer found
  have stored := (Option.filter_eq_some_iff.mp found).1
  have keyed := Table.key_of_find? _ _ _ stored
  rw [← keyed] at stored
  refine rest transfer db' stored ?_
  intro db'' after row present same
  obtain ⟨first, read, bound⟩ := shown
  obtain ⟨second, reread, newer, -⟩ := later.row id first read
  obtain ⟨third, current, latest, equal⟩ := after.row transfer.id transfer stored
  rw [← keyed, stored] at reread
  rw [present] at current
  cases reread
  cases current
  exact equal (by omega)

theorem safe_reload (id : Id) (db : Db) :
    (discipline strict).Safe (load ctx id) db := by
  unfold load
  apply safe_query
  intro db' _
  rcases (db'.stockTransfers.find? id).filter _ with _ | transfer
  · trivial
  · trivial

theorem safe_approve (id : Id) (version : Nat) (reason : Option String) (db : Db)
    (shown : Shown id version db) :
    (discipline strict).Safe (Transfers.approve ctx id ⟨version, reason⟩) db := by
  unfold Transfers.approve
  apply Discipline.safe_expect
  intro fromBranchId _
  apply safe_load strict ctx id version _ db shown
  intro transfer db' _ current
  apply Discipline.safe_require
  intro _
  apply safe_write
  · intro db₁ later reserved db₂ done
    refine approve_ok ctx.companyId transfer version _ ?_ db₁ db₂ reserved (current db₁ later) done
    exact fun _ => ⟨rfl, rfl⟩
  · exact fun db₁ => safe_reload strict ctx id db₁

theorem safe_withdraw (id : Id) (transfer : StockTransfer) (target : TransferStatus)
    (dto : TransferDecisionDto) (ends : reserving target = false) (kept : target ≠ .received)
    (db : Db) (current : ∀ db', Later db db' → Current transfer dto.expectedVersion db') :
    (discipline strict).Safe
      (Prog.commit .other (withdraw ctx transfer target dto) >>= fun _ => load ctx id) db := by
  apply safe_write
  · intro db₁ later reserved db₂ done
    exact withdraw_ok ctx transfer target dto ends kept db₁ db₂ reserved (current db₁ later) done
  · exact fun db₁ => safe_reload strict ctx id db₁

theorem safe_reject (id : Id) (version : Nat) (reason : Option String) (db : Db)
    (shown : Shown id version db) :
    (discipline strict).Safe (Transfers.reject ctx id ⟨version, reason⟩) db := by
  unfold Transfers.reject
  apply Discipline.safe_expect
  intro fromBranchId _
  apply safe_load strict ctx id version _ db shown
  intro transfer db' _ current
  apply Discipline.safe_require
  intro _
  apply Discipline.safe_require
  intro _
  exact safe_withdraw strict ctx id transfer .rejected ⟨version, reason⟩ rfl (by decide) db' current

variable (has : Permission → Bool)

theorem safe_cancel (id : Id) (version : Nat)
    (reason : Option String) (db : Db) (shown : Shown id version db) :
    (discipline strict).Safe (Transfers.cancel ctx has id ⟨version, reason⟩) db := by
  unfold Transfers.cancel
  apply Discipline.safe_expect
  intro activeBranch _
  apply safe_load strict ctx id version _ db shown
  intro transfer db' _ current
  apply Discipline.safe_require
  intro _
  apply Discipline.safe_require
  intro _
  apply Discipline.safe_require
  intro _
  apply Discipline.safe_require
  intro _
  apply Discipline.safe_require
  intro _
  exact safe_withdraw strict ctx id transfer .cancelled ⟨version, reason⟩ rfl
    (by decide) db' current

theorem loadItems_lines (db : Db) (transferId : Id) :
    ((loadItems db transferId).map Prod.fst).map bare = linesOf db transferId := by
  unfold loadItems linesOf
  rw [List.map_map]
  simp

theorem safe_ship (id : Id) (version : Nat) (reason : Option String) (db : Db)
    (shown : Shown id version db) :
    (discipline strict).Safe (Transfers.ship ctx id ⟨version, reason⟩) db := by
  unfold Transfers.ship
  apply Discipline.safe_expect
  intro fromBranchId _
  apply safe_load strict ctx id version _ db shown
  intro transfer db' stored current
  apply Discipline.safe_require
  intro _
  apply Discipline.safe_liftExcept
  intro _ _
  apply safe_query
  intro db₁ first
  obtain ⟨row, stored₁, -, -⟩ := first.row transfer.id transfer stored
  apply Discipline.safe_require
  intro _
  rw [← Prog.bind_pure (Prog.commit _ _)]
  apply safe_write
  · intro db₂ second reserved db₃ done
    refine writeShipment_ok ctx transfer _ version db₂ db₃ reserved
      (current db₂ (first.trans second)) ?_ done
    rw [loadItems_lines, second.lines transfer.id row stored₁]
  · exact fun _ => trivial

theorem safe_receiveConfirm (id : Id) (version : Nat) (identifiers : List String)
    (db : Db) (shown : Shown id version db) :
    (discipline strict).Safe (Transfers.receiveConfirm ctx id ⟨identifiers, version⟩) db := by
  unfold Transfers.receiveConfirm
  apply Discipline.safe_expect
  intro toBranchId _
  apply safe_load strict ctx id version _ db shown
  intro transfer db' _ current
  apply Discipline.safe_require
  intro _
  apply Discipline.safe_liftExcept
  intro _ _
  apply safe_query
  intro db₁ first
  apply safe_write
  · intro db₂ second reserved db₃ done
    exact writeReceipt_ok ctx transfer toBranchId _ _ version db₂ db₃ reserved
      (current db₂ (first.trans second)) done
  · exact fun _ => trivial

theorem safe_recover (companyId : Id) (dto : CreateTransferDto) (lines : NormalizedLines)
    (refusal : Refusal) (db : Db) :
    (discipline strict).Safe (recover companyId dto lines refusal) db := by
  unfold recover
  split
  · apply safe_query
    intro db' _
    apply Discipline.safe_liftExcept
    intro winner _
    cases winner with
    | none => trivial
    | some summary => trivial
  · trivial

theorem safe_create (ids : TransferIds)
    (dto : CreateTransferDto) (db : Db) :
    (discipline strict).Safe (Transfers.create ctx has ids dto) db := by
  unfold Transfers.create
  apply Discipline.safe_expect
  intro fromBranchId _
  apply Discipline.safe_require
  intro _
  apply Discipline.safe_liftExcept
  intro lines _
  apply safe_query
  intro db₁ _
  apply Discipline.safe_liftExcept
  intro prior _
  cases prior with
  | some summary => trivial
  | none =>
      dsimp only
      apply safe_query
      intro db₂ _
      apply Discipline.safe_require
      intro _
      apply safe_query
      intro db₃ _
      apply safe_query
      intro db₄ _
      apply Discipline.safe_liftExcept
      intro planned _
      apply safe_query
      intro db₅ _
      apply Discipline.safe_require
      intro _
      apply safe_query
      intro db₆ _
      apply Discipline.safe_attempt
      · intro db₇ _ reserved db₈ summary done
        obtain ⟨kept, guaranteed⟩ := guar_advanced strict (m := .other)
          (writeTransfer_ok _ _ _ _ _ _ db₇ db₈ summary reserved done)
        exact ⟨kept, guaranteed, trivial⟩
      · intro db₇ refusal
        exact ⟨guar_self strict .other db₇, safe_recover strict _ _ _ refusal db₇⟩

/-- The items of the sale name phones that stood in the branch in the snapshot
and have not moved since. -/
theorem soldAt_stood (branchId saleId : Id) (unitIds : List Id) (snapshot db db' : Db)
    (stood : ∀ unitId ∈ unitIds, ∃ unit, snapshot.units.find? unitId = some unit ∧
      unit.branchId = branchId)
    (unmoved : Unmoved (.claim unitIds) snapshot db)
    (sold : SoldAt branchId saleId unitIds db db') : StoodHere db db' := by
  intro item member new sale stored unitId named
  rcases sold.items item member with old | ⟨owner, listed⟩
  · exact absurd old new
  · obtain ⟨unit, found, branch⟩ := stood unitId (listed unitId named)
    obtain ⟨unit', found', branch'⟩ := unmoved unitId (listed unitId named) unit found
    obtain ⟨unit'', found'', -, branch''⟩ := sold.stands unitId unit' found'
    refine ⟨unit'', found'', ?_⟩
    rw [owner] at stored
    rcases branch'' with same | nobody
    · rw [sold.sale sale stored, same, branch', branch]
    · exact nobody.elim

theorem safe_createSale (ids : SaleIds)
    (dto : CreateSaleDto) (db : Db) :
    (discipline strict).Safe (Sales.createSale ctx has ids dto) db := by
  unfold Sales.createSale
  apply Discipline.safe_expect
  intro branchId _
  apply Discipline.safe_expect
  intro userId _
  apply safe_query
  intro db₁ _
  split
  · trivial
  · apply Discipline.safe_require
    intro _
    apply safe_query
    intro snapshot _
    apply Discipline.safe_liftExcept
    intro draft drafted
    apply Discipline.safe_transact
    · intro db₂ relied reserved db₃ sale done
      have sold := writeSale_ok ctx branchId userId ids dto draft db₂ db₃ sale
        ((except_mapError_ok _ _ _).mp done)
      have same : db₃.stockTransfers = db₂.stockTransfers ∧
          db₃.transferItems = db₂.transferItems := by
        obtain ⟨_, _, _, _, _, _, _, equal⟩ := sold.frame
        rw [equal]
        exact ⟨rfl, rfl⟩
      refine ⟨?_, ⟨.congr same.1 same.2, sold.stands, fun isolation => ?_⟩, trivial⟩
      · exact reserved.congr same.1 same.2 sold.stands (sold.bounded reserved.bounded) sold.account
      · exact soldAt_stood branchId ids.sale (soldUnits draft) snapshot db₂ db₃
          (draftSale_stood ctx has branchId dto snapshot draft drafted) (relied.2 isolation) sold
    · exact fun db₂ => guar_self strict _ db₂

theorem safe_request (p : Request Unit) (issued : IsRequest p) (db : Db) :
    (discipline strict).Safe p db := by
  cases issued with
  | createSale ctx has ids dto =>
      exact (discipline strict).safe_void db _ (safe_createSale strict ctx has ids dto db)
  | create ctx has ids dto =>
      exact (discipline strict).safe_void db _ (safe_create strict ctx has ids dto db)
  | approve ctx id reason =>
      exact safe_acting strict id _ db (fun version db' =>
        safe_approve strict ctx id version reason db')
  | reject ctx id reason =>
      exact safe_acting strict id _ db (fun version db' =>
        safe_reject strict ctx id version reason db')
  | cancel ctx has id reason =>
      exact safe_acting strict id _ db (fun version db' =>
        safe_cancel strict ctx has id version reason db')
  | ship ctx id reason =>
      exact safe_acting strict id _ db (fun version db' =>
        safe_ship strict ctx id version reason db')
  | receiveConfirm ctx id identifiers =>
      exact safe_acting strict id _ db (fun version db' =>
        safe_receiveConfirm strict ctx id version identifiers db')

theorem run_disciplined (allowed : Db → Mark → Mark → Prop)
    (isolation : strict → ∀ db m m', allowed db m m' → isolated db m m') (db : Db)
    (c : Config Db Mark Refusal Unit) (start : Reserved db)
    (run : Run IsRequest allowed (Config.idle db) c) : (discipline strict).Sound c :=
  (discipline strict).run_sound IsRequest allowed
    (fun p issued db _ => safe_request strict p issued db)
    (fun db m m' _ permitted _ own =>
      ⟨own.1, fun asked => .of_stands (isolation asked db m m' permitted) own.2.1⟩)
    (Config.idle db) c run ((discipline strict).sound_idle db start)

end Safety

structure AtRest (db : Db) : Prop where
  closed : ∀ transfer ∈ db.stockTransfers.rows, reserving transfer.status = false
  units : ∀ unit ∈ db.units.rows, unit.status ≠ .reserved
  stock : ∀ item ∈ db.stockItems.rows, item.reservedQuantity = 0 ∧ 0 ≤ item.quantity
  owned : ∀ item ∈ db.transferItems.rows,
    ∃ transfer, db.stockTransfers.find? item.transferId = some transfer

theorem AtRest.reserved {db : Db} (rest : AtRest db) : Reserved db := by
  refine ⟨?_, ?_, ?_, ?_⟩
  · have nothing : held db = 0 := by
      have none : ∀ transfer ∈ db.stockTransfers.rows, demand db transfer = 0 := by
        intro transfer member
        unfold demand
        rw [rest.closed transfer member]
        rfl
      unfold held Table.total
      rw [List.map_congr_left none]
      simp
    rw [nothing]
    funext resource
    cases resource with
    | unit id =>
        rcases found : db.units.find? id with _ | unit
        · simp [reservedOf, found]
        · have free := rest.units unit (Table.mem_of_find? _ _ _ found)
          simp [reservedOf, found, marked, free]
    | stock companyId productId branchId =>
        rcases found : db.stockItems.find? (companyId, productId, branchId) with _ | item
        · simp [reservedOf, found]
        · have free := (rest.stock item (Table.mem_of_find? _ _ _ found)).1
          simp [reservedOf, found, free]
  · intro item member
    obtain ⟨free, nonneg⟩ := rest.stock item member
    omega
  · intro transfer member waiting
    rw [rest.closed transfer member] at waiting
    cases waiting
  · intro line member
    obtain ⟨item, present, rfl⟩ := List.mem_map.mp member
    exact rest.owned item present

/-- In every interleaving the reservations balance. In every interleaving where
no phone in transit is received while a sale that drafted it waits to commit,
each sale also commits only phones of its own branch. -/
theorem reservations_hold (db : Db) (rest : AtRest db) (c : Config Db Mark Refusal Unit) :
    (Run IsRequest anyOrder (Config.idle db) c → Balanced c.store) ∧
      (Run IsRequest isolated (Config.idle db) c →
        Balanced c.store ∧
          ∀ c', Step IsRequest isolated c c' → StoodHere c.store c'.store) := by
  constructor
  · intro run
    have sound := run_disciplined False anyOrder (fun absurd => absurd.elim) db c rest.reserved run
    exact sound.1.balanced
  · intro run
    have sound := run_disciplined True isolated (fun _ _ _ _ allowed => allowed) db c
      rest.reserved run
    refine ⟨sound.1.balanced, fun c' taken => ?_⟩
    cases taken with
    | arrive s inFlight p issued => exact .congr rfl
    | advance s before after m write next others => exact (sound.guar).2.2 trivial

instance (db : Db) : (m m' : Mark) → Decidable (isolated db m m')
  | .other, _ => .isTrue trivial
  | .claim _, _ => .isTrue trivial
  | .supersede _, _ => .isTrue trivial
  | .arrive _, .other => .isTrue trivial
  | .arrive _, .arrive _ => .isTrue trivial
  | .arrive _, .supersede _ => .isTrue trivial
  | .arrive arriving, .claim drafted => inferInstanceAs (Decidable (∀ unitId ∈ arriving,
      unitId ∈ drafted → (db.units.find? unitId).any
        (fun unit => unit.status = .inTransit) = false))

def phone (id : Id) (imei : String) : StockUnit where
  id := id
  companyId := 10
  productId := 5
  branchId := 1
  imeiPrimary := some imei
  imeiSecondary := none
  serialNo := none
  cost := 80000
  status := .inStock
  dateSold := none

def twoBranches : Db where
  branches := ⟨[⟨1, 10⟩, ⟨2, 10⟩], by decide⟩
  units := ⟨[phone 301 "356938035643809", phone 302 "356938035643817"], by decide⟩

theorem atRest_twoBranches : AtRest twoBranches where
  closed _ member := by cases member
  units := by decide
  stock _ member := by cases member
  owned _ member := by cases member

def atBranch (branchId : Id) : Ctx where
  companyId := 10
  branchId := some branchId
  userId := some 7
  now := 1000

def manager : Permission → Bool := fun _ => true

def sellFirst : Request Unit :=
  (createSale (atBranch 1) manager ⟨900, fun index => 910 + index, fun index => 920 + index⟩
    { lines := [{ identifier := some "356938035643809", price := some 100000 }]
      payments := [{ method := .cash, amount := 100000 }] }).void

def sendPhone (imei : String) : Request Unit :=
  (create (atBranch 1) manager ⟨400, fun index => 410 + index⟩
    { clientUuid := 50
      toBranchId := "00000000-0000-0000-0000-000000000002"
      lines := some [.unit imei] }).void

/-- The sale is drafted; its phone goes to the other branch and is received
there; the sale is still to commit. -/
def draftedThenMoved : List (Move Db Mark Refusal Unit) :=
  [.arrive sellFirst, .advance 0, .advance 0, .arrive (sendPhone "356938035643809")] ++
    List.replicate 7 (.advance 1) ++
  [.arrive (acting 400 (fun version => ship (atBranch 1) 400 ⟨version, none⟩))] ++
    List.replicate 4 (.advance 2) ++
  [.arrive (acting 400 (fun version =>
    receiveConfirm (atBranch 2) 400 ⟨["356938035643809"], version⟩))] ++
    List.replicate 4 (.advance 3)

def draftedBeside : List (Move Db Mark Refusal Unit) :=
  [.arrive sellFirst, .advance 0, .advance 0, .arrive (sendPhone "356938035643817")] ++
    List.replicate 7 (.advance 1)

private theorem drafted_requests (p : Request Unit)
    (member : .arrive p ∈ draftedThenMoved ∨ .arrive p ∈ draftedBeside) : IsRequest p := by
  simp only [draftedThenMoved, draftedBeside, List.mem_append, List.mem_cons, List.not_mem_nil,
    List.mem_replicate, Move.arrive.injEq, reduceCtorEq, and_false, or_false, false_or] at member
  rcases member with (((rfl | rfl) | rfl) | rfl) | rfl | rfl
  · exact .createSale _ _ _ _
  · exact .create _ _ _ _
  · exact .ship _ _ _
  · exact .receiveConfirm _ _ _
  · exact .createSale _ _ _ _
  · exact .create _ _ _ _

theorem sale_commits_phone_elsewhere :
    ¬ ∀ (db : Db) (c c' : Config Db Mark Refusal Unit), AtRest db →
      Run IsRequest anyOrder (Config.idle db) c → Step IsRequest anyOrder c c' →
        Balanced c'.store ∧ StoodHere c.store c'.store := by
  intro claim
  have taken : Step IsRequest anyOrder _ _ :=
    advance_step IsRequest anyOrder ((Config.idle twoBranches).schedule draftedThenMoved) 0
      (by decide) (fun m _ q _ => by cases q <;> trivial)
  have stood := (claim twoBranches _ _ atRest_twoBranches
    (schedule_run IsRequest anyOrder _ draftedThenMoved
      (fun p member => drafted_requests p (.inl member)) (admits_anyOrder _ _)) taken).2
  have item : (((Config.idle twoBranches).schedule draftedThenMoved).move
      (.advance 0)).store.saleItems.rows.map (fun item => (item.saleId, item.unitId)) =
        [(900, some 301)] := by decide
  have before : ((Config.idle twoBranches).schedule draftedThenMoved).store.saleItems.rows =
      [] := by decide
  have sale : ((((Config.idle twoBranches).schedule draftedThenMoved).move
      (.advance 0)).store.sales.find? 900).map Sale.branchId = some 1 := by decide
  have unit : ((((Config.idle twoBranches).schedule draftedThenMoved).move
      (.advance 0)).store.units.find? 301).map StockUnit.branchId = some 2 := by decide
  obtain ⟨line, listed, named⟩ := List.mem_map.mp (item ▸ List.mem_singleton_self (900, some 301))
  obtain ⟨invoice, stored, own⟩ := Option.map_eq_some_iff.mp sale
  obtain ⟨saleId, unitId⟩ := Prod.mk.inj named
  obtain ⟨found, present, here⟩ := stood line listed (by rw [before]; simp) invoice
    (by rw [saleId]; exact stored) 301 unitId
  rw [present, Option.map_some, here, own] at unit
  cases unit

theorem reservations_hold_beside :
    AtRest twoBranches ∧ (Config.idle twoBranches).Admits isolated draftedBeside ∧
      ((Config.idle twoBranches).schedule draftedBeside).store.units.rows.map StockUnit.status =
        [.inStock, .reserved] ∧
      Balanced ((Config.idle twoBranches).schedule draftedBeside).store ∧
      StoodHere ((Config.idle twoBranches).schedule draftedBeside).store
        (((Config.idle twoBranches).schedule draftedBeside).move (.advance 0)).store := by
  have admitted : (Config.idle twoBranches).Admits isolated draftedBeside := by decide
  have run := schedule_run IsRequest isolated _ draftedBeside
    (fun p member => drafted_requests p (.inr member)) admitted
  have taken : Step IsRequest isolated _ _ :=
    advance_step IsRequest isolated ((Config.idle twoBranches).schedule draftedBeside) 0
      (by decide) (by decide)
  obtain ⟨balanced, stood⟩ :=
    (reservations_hold twoBranches atRest_twoBranches _).2 run
  exact ⟨atRest_twoBranches, admitted, by decide, balanced, stood _ taken⟩

end ErpBackend.Inventory
