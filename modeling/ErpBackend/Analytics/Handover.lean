import ErpBackend.Analytics.CostShares
import ErpBackend.Returns.Refundable

/-!
# Cost of goods and goods in hand

A phone that is sold costs the shop what it cost; a phone that came back is owned again.
The rollups credit its cost when the return is approved, the report of what is owned
follows its status: in between the phone is in both.
-/

namespace ErpBackend.Analytics

open Foundation Inventory Returns

inductive Trading : Request Unit → Prop
  | createSale (ctx : Ctx) (has : Permission → Bool) (ids : Sales.SaleIds)
      (dto : Sales.CreateSaleDto) : Trading (Sales.createSale ctx has ids dto).void
  | create (first : Lookup RefundPayout) (ctx : Ctx) (id : Id) (dto : CreateReturnRequestDto) :
      Trading (create first ctx id dto).void
  | receiveCustody (first : Lookup RefundPayout) (ctx : Ctx) (id : Id) (dto : ReceiveCustodyDto) :
      Trading (receiveCustody first ctx id dto).void
  | investigate (first : Lookup RefundPayout) (ctx : Ctx) (id : Id) (dto : InvestigateDto) :
      Trading (investigate first ctx id dto).void
  | addAdjustment (first : Lookup RefundPayout) (ctx : Ctx) (id adjustmentId : Id)
      (dto : AdjustmentDto) : Trading (addAdjustment first ctx id adjustmentId dto).void
  | removeAdjustment (first : Lookup RefundPayout) (ctx : Ctx) (id adjustmentId : Id)
      (expectedVersion : Nat) :
      Trading (removeAdjustment first ctx id adjustmentId expectedVersion).void
  | approve (first : Lookup RefundPayout) (ctx : Ctx) (has : Permission → Bool)
      (ids : ApprovalIds) (id : Id) (dto : ApproveReturnDto) :
      Trading (approve first ctx has ids id dto).void
  | reject (first : Lookup RefundPayout) (ctx : Ctx) (id : Id) (dto : RejectReturnDto) :
      Trading (reject first ctx id dto).void

section Runs

variable (companyId unitId : Id) (cost : Int)

def LinesStay (db db' : Db) : Prop :=
  ∀ id item, db.saleItems.find? id = some item → db'.saleItems.find? id = some item

theorem LinesStay.of_eq {db db' : Db} (same : db'.saleItems = db.saleItems) : LinesStay db db' :=
  fun id item found => by rw [same]; exact found

def counting : Discipline Db Mark where
  inv := Accounted companyId unitId cost
  guar _ := LinesStay
  rely _ := LinesStay
  rely_refl _ _ _ _ found := found
  rely_trans _ _ _ _ first second id item found := second id item (first id item found)

section Rules

variable {companyId unitId : Id} {cost : Int} {α β : Type} (db : Db)

theorem counts_read (query : Db → α) (f : α → Request β)
    (rest : ∀ db', Accounted companyId unitId cost db' →
      (counting companyId unitId cost).Safe (f (query db')) db') :
    (counting companyId unitId cost).Safe (Prog.read .other query >>= f) db := by
  apply Discipline.safe_read
  exact fun db' _ accounted => ⟨fun _ _ found => found, rest db' accounted⟩

theorem counts_commit (body : Db → Except Refusal Db) (f : Unit → Request β)
    (commits : ∀ db', LinesStay db db' → Accounted companyId unitId cost db' → ∀ db'',
      body db' = .ok db'' → Accounted companyId unitId cost db'' ∧ db''.saleItems = db'.saleItems)
    (rest : ∀ db', (counting companyId unitId cost).Safe (f ()) db') :
    (counting companyId unitId cost).Safe (Prog.commit .other body >>= f) db := by
  apply Discipline.safe_commit
  · intro db' stay accounted db'' done
    obtain ⟨kept, same⟩ := commits db' stay accounted db'' done
    exact ⟨kept, .of_eq same, rest db''⟩
  · exact fun db' _ _ found => found

theorem counts_load (ctx : Ctx) (branchId id : Id) (f : LoadedReturn → Request β)
    (rest : ∀ loaded db', (loaded.request.unitId = unitId → lineCost loaded.saleItem = cost) →
      (counting companyId unitId cost).Safe (f loaded) db') :
    (counting companyId unitId cost).Safe (load ctx branchId id >>= f) db := by
  unfold load
  rw [Prog.bind_assoc]
  apply counts_read
  intro db' accounted
  apply Discipline.safe_expect
  intro loaded found
  obtain ⟨stored, -, -, line, -⟩ := (findReturn_some _ _ _ _ _).mp found
  apply rest loaded db'
  intro own
  obtain ⟨item, present, named⟩ :=
    accounted.claims _ (Table.mem_of_find? _ _ _ stored) own
  rw [line] at present
  cases present
  exact accounted.lines _ (Table.mem_of_find? _ _ _ line) named

variable (first : Lookup RefundPayout)

theorem counts_detail (ctx : Ctx) (id : Id) :
    (counting companyId unitId cost).Safe (detail first ctx id) db := by
  unfold detail
  apply Discipline.safe_expect
  intro branchId _
  apply counts_load
  intro loaded db' _
  apply counts_read
  intro _ _
  apply counts_read
  intro _ _
  apply counts_read
  intro _ _
  exact (counting companyId unitId cost).safe_pure _ _

theorem counts_recompute (ownId branchId : Id) (day : Day) (now : Time) (rollupId : Id)
    (f : Unit → Request β)
    (rest : ∀ db', (counting companyId unitId cost).Safe (f ()) db') :
    (counting companyId unitId cost).Safe
      (recomputeDaily .other ownId branchId day now rollupId >>= f) db := by
  unfold recomputeDaily
  simp only [Prog.bind_assoc]
  apply counts_read
  intro _ _
  apply counts_read
  intro _ _
  apply counts_read
  intro _ _
  apply counts_read
  intro _ _
  apply counts_read
  intro _ _
  apply counts_commit
  · intro db₁ _ accounted db₂ done
    obtain ⟨dailyRollups, rfl⟩ := upsertRollup_ok _ _ _ _ _ _ _ _ done
    obtain ⟨unit, stands⟩ := accounted.stands
    exact ⟨⟨⟨accounted.filed, accounted.lines, accounted.claims⟩, unit, stands.found,
      stands.company, stands.worth, stands.placed⟩, rfl⟩
  · exact rest

theorem counts_createSale (ctx : Ctx) (has : Permission → Bool) (ids : Sales.SaleIds)
    (dto : Sales.CreateSaleDto) :
    (counting companyId unitId cost).Safe (Sales.createSale ctx has ids dto) db := by
  unfold Sales.createSale
  apply Discipline.safe_expect
  intro branchId _
  apply Discipline.safe_expect
  intro userId _
  apply counts_read
  intro db₁ _
  split
  · exact (counting companyId unitId cost).safe_pure _ _
  · apply Discipline.safe_require
    intro _
    apply counts_read
    intro db₂ accounted
    apply Discipline.safe_liftExcept
    intro draft drafted
    have priced := draftSale_priced ctx has branchId dto draft accounted drafted
    apply Discipline.safe_transact
    · intro db₃ _ accounted db₄ sale done
      rw [except_mapError_ok] at done
      have totals := Sales.draftSale_totals _ _ _ _ _ _ drafted
      have filled := Sales.draftSale_filled _ _ _ _ _ _ drafted
      refine ⟨accounted.writeSale ctx branchId userId ids dto draft priced db₄ sale done, ?_,
        (counting companyId unitId cost).safe_pure _ _⟩
      cases Sales.writeSale_enters _ _ _ _ _ _ _ _ _ totals filled done with
      | enter items entered counters sales saleItems units stockItems payments customers inserted
          listed => exact kept_line listed
    · exact fun db₃ _ _ found => found

theorem counts_create (ctx : Ctx) (id : Id)
    (dto : CreateReturnRequestDto) :
    (counting companyId unitId cost).Safe (create first ctx id dto) db := by
  unfold create
  apply Discipline.safe_expect
  intro branchId _
  apply Discipline.safe_expect
  intro userId _
  apply counts_read
  intro db₁ _
  split
  · apply Discipline.safe_require
    intro _
    exact counts_detail db₁ first ctx _
  · apply counts_read
    intro db₂ _
    apply Discipline.safe_expect
    intro line found
    obtain ⟨listed, carried⟩ := findLine_some _ _ _ _ _ found
    apply Discipline.safe_expect
    intro unit phone
    apply Discipline.safe_require
    intro _
    apply Discipline.safe_require
    intro _
    have known : line.saleItem.id = dto.saleItemId := Table.key_of_find? _ _ _ listed
    have named : line.saleItem.unitId = some unit.id := by
      obtain ⟨own, sold, present⟩ := Option.bind_eq_some_iff.mp (carried.symm.trans phone)
      rw [sold, Table.key_of_find? _ _ _ present]
    apply counts_commit
    · intro db₃ stay accounted db₄ done
      rw [except_mapError_ok] at done
      refine accounted.writeRequest ctx.companyId dto.storeHolds _ ?_ db₄ done
      intro own
      refine ⟨line.saleItem, ?_, named.trans (congrArg some own)⟩
      apply stay
      change db₂.saleItems.find? line.saleItem.id = some line.saleItem
      rw [known]
      exact listed
    · exact fun db₄ => counts_detail db₄ first ctx id

theorem counts_receiveCustody (ctx : Ctx) (id : Id)
    (dto : ReceiveCustodyDto) :
    (counting companyId unitId cost).Safe (receiveCustody first ctx id dto) db := by
  unfold receiveCustody
  apply Discipline.safe_expect
  intro branchId _
  apply counts_load
  intro loaded db₁ _
  apply Discipline.safe_liftExcept
  intro _ _
  apply Discipline.safe_liftExcept
  intro needed _
  split
  · apply Discipline.safe_require
    intro _
    apply counts_commit
    · exact fun db₂ _ accounted db₃ done => accounted.writeCustody ctx _ _ db₃ done
    · exact fun db₃ => counts_detail db₃ first ctx id
  · exact counts_detail db₁ first ctx id

theorem counts_investigate (ctx : Ctx) (id : Id)
    (dto : InvestigateDto) :
    (counting companyId unitId cost).Safe (investigate first ctx id dto) db := by
  unfold investigate
  apply Discipline.safe_expect
  intro branchId _
  apply counts_load
  intro loaded db₁ _
  apply Discipline.safe_liftExcept
  intro _ _
  apply Discipline.safe_require
  intro _
  apply Discipline.safe_liftExcept
  intro _ _
  apply counts_commit
  · exact fun db₂ _ accounted db₃ done =>
      accounted.swap _ _ _ _ _ db₃ done (fun _ => rfl)
  · exact fun db₃ => counts_detail db₃ first ctx id

theorem counts_addAdjustment (ctx : Ctx) (id adjustmentId : Id)
    (dto : AdjustmentDto) :
    (counting companyId unitId cost).Safe (addAdjustment first ctx id adjustmentId dto) db := by
  unfold addAdjustment
  apply Discipline.safe_expect
  intro branchId _
  apply counts_load
  intro loaded db₁ _
  apply Discipline.safe_liftExcept
  intro _ _
  apply Discipline.safe_liftExcept
  intro totalAmount _
  apply counts_read
  intro _ _
  apply Discipline.safe_liftExcept
  intro _ _
  apply counts_commit
  · intro db₂ _ accounted db₃ done
    obtain ⟨moved, swapped, added⟩ := (except_bind_ok _ _ _).mp done
    obtain ⟨kept, same⟩ := accounted.swap _ _ _ _ _ moved swapped (fun _ => rfl)
    obtain ⟨returnAdjustments, -, rfl⟩ := insertAdjustment_ok _ _ _ added
    obtain ⟨unit, stands⟩ := kept.stands
    exact ⟨⟨⟨kept.filed, kept.lines, kept.claims⟩, unit, stands.found, stands.company,
      stands.worth, stands.placed⟩, same⟩
  · exact fun db₃ => counts_detail db₃ first ctx id

theorem counts_removeAdjustment (ctx : Ctx) (id adjustmentId : Id)
    (expectedVersion : Nat) : (counting companyId unitId cost).Safe
      (removeAdjustment first ctx id adjustmentId expectedVersion) db := by
  unfold removeAdjustment
  apply Discipline.safe_expect
  intro branchId _
  apply counts_load
  intro loaded db₁ _
  apply Discipline.safe_liftExcept
  intro _ _
  apply counts_read
  intro _ _
  apply Discipline.safe_expect
  intro adjustment _
  apply counts_commit
  · intro db₂ _ accounted db₃ done
    obtain ⟨moved, swapped, dropped⟩ := (except_bind_ok _ _ _).mp done
    cases dropped
    obtain ⟨kept, same⟩ := accounted.swap _ _ _ _ _ moved swapped (fun _ => rfl)
    obtain ⟨unit, stands⟩ := kept.stands
    exact ⟨⟨⟨kept.filed, kept.lines, kept.claims⟩, unit, stands.found, stands.company,
      stands.worth, stands.placed⟩, same⟩
  · exact fun db₃ => counts_detail db₃ first ctx id

theorem counts_approve (ctx : Ctx) (has : Permission → Bool)
    (ids : ApprovalIds) (id : Id) (dto : ApproveReturnDto) :
    (counting companyId unitId cost).Safe (approve first ctx has ids id dto) db := by
  unfold approve
  apply Discipline.safe_expect
  intro branchId _
  apply counts_load
  intro loaded db₁ worth
  apply Discipline.safe_liftExcept
  intro _ _
  apply Discipline.safe_liftExcept
  intro _ _
  apply Discipline.safe_require
  intro _
  apply Discipline.safe_liftExcept
  intro isException _
  apply counts_read
  intro _ _
  apply Discipline.safe_liftExcept
  intro settled _
  apply counts_read
  intro _ _
  apply Discipline.safe_require
  intro _
  apply counts_commit
  · exact fun db₂ _ accounted db₃ done => accounted.writeApproval ctx branchId ids.reversal
      loaded settled isException dto worth db₃ done
  · intro db₃
    apply counts_recompute
    exact fun db₄ => counts_detail db₄ first ctx id

theorem counts_reject (ctx : Ctx) (id : Id) (dto : RejectReturnDto) :
    (counting companyId unitId cost).Safe (reject first ctx id dto) db := by
  unfold reject
  apply Discipline.safe_expect
  intro branchId _
  apply counts_load
  intro loaded db₁ _
  apply Discipline.safe_liftExcept
  intro _ _
  apply Discipline.safe_liftExcept
  intro _ _
  apply Discipline.safe_require
  intro _
  apply counts_commit
  · exact fun db₂ _ accounted db₃ done => accounted.writeRejection ctx _ dto db₃ done
  · exact fun db₃ => counts_detail db₃ first ctx id

theorem Trading.safe {p : Request Unit} (issued : Trading p) :
    (counting companyId unitId cost).Safe p db := by
  cases issued with
  | createSale ctx has ids dto =>
      exact Discipline.safe_void _ _ _ (counts_createSale db ctx has ids dto)
  | create first ctx id dto =>
      exact Discipline.safe_void _ _ _ (counts_create db first ctx id dto)
  | receiveCustody first ctx id dto =>
      exact Discipline.safe_void _ _ _ (counts_receiveCustody db first ctx id dto)
  | investigate first ctx id dto =>
      exact Discipline.safe_void _ _ _ (counts_investigate db first ctx id dto)
  | addAdjustment first ctx id adjustmentId dto =>
      exact Discipline.safe_void _ _ _ (counts_addAdjustment db first ctx id adjustmentId dto)
  | removeAdjustment first ctx id adjustmentId expectedVersion =>
      exact Discipline.safe_void _ _ _
        (counts_removeAdjustment db first ctx id adjustmentId expectedVersion)
  | approve first ctx has ids id dto =>
      exact Discipline.safe_void _ _ _ (counts_approve db first ctx has ids id dto)
  | reject first ctx id dto =>
      exact Discipline.safe_void _ _ _ (counts_reject db first ctx id dto)

end Rules

theorem run_accounted (db : Db) (start : Accounted companyId unitId cost db)
    (c : Config Db Mark Refusal Unit) (run : Run Trading anyOrder (.idle db) c) :
    Accounted companyId unitId cost c.store :=
  ((counting companyId unitId cost).run_sound Trading anyOrder
    (fun _ issued db' _ => issued.safe db') (fun _ _ _ _ _ _ stay => stay) _ _ run
    ((counting companyId unitId cost).sound_idle db start)).1

theorem counted_once_iff (db : Db) (start : Accounted companyId unitId cost db)
    (c : Config Db Mark Refusal Unit) (run : Run Trading anyOrder (.idle db) c) :
    ∃ unit, c.store.units.find? unitId = some unit ∧
      (CountedOnce c.store unit ↔ unit.cost = 0 ∨ unit.status ≠ .returned) ∧
      (unit.status = .returned → bookedCost c.store unit.companyId unit.id = unit.cost ∧
        ownedCost c.store unit.companyId unit = unit.cost) :=
  (run_accounted companyId unitId cost db start c run).counted_iff

end Runs

theorem Accounted.shelf (db : Db) (unit : StockUnit) (found : db.units.find? unit.id = some unit)
    (status : unit.status = .inStock)
    (filed : ∀ item ∈ db.saleItems.rows, (db.sales.find? item.saleId).isSome)
    (unsold : ∀ item ∈ db.saleItems.rows, item.unitId ≠ some unit.id)
    (unclaimed : ∀ request ∈ db.returnRequests.rows, request.unitId ≠ unit.id)
    (uncredited : ∀ reversal ∈ db.returnReversals.rows, reversal.unitId ≠ unit.id)
    (home : ∀ item ∈ db.transferItems.rows, item.unitId = some unit.id →
      onTheRoad db unit.companyId item = false) :
    Accounted unit.companyId unit.id unit.cost db where
  filed := filed
  lines item member named := absurd named (unsold item member)
  claims request member own := absurd own (unclaimed request member)
  stands := by
    refine ⟨unit, found, rfl, rfl, ?_⟩
    rw [status]
    constructor
    · unfold bookedCost
      rw [Table.total_eq_zero _ _ (fun item member => soldCost_other item (unsold item member)),
        Table.total_eq_zero _ _ (fun reversal member =>
          creditedCost_other reversal (uncredited reversal member)), sub_self]
    · apply Table.total_eq_zero
      intro item member
      rw [if_neg]
      rintro ⟨travels, named⟩
      rw [home item member named] at travels
      cases travels

def counter : Db :=
  { stall with
    products := ⟨[
      { id := 4
        companyId := 10
        brand := "Apple"
        model := "iPhone 12"
        variant := none
        trackingType := .imei
        defaultPrice := some 100000 }], List.nodup_singleton _⟩ }

def counterPhone : StockUnit where
  id := 301
  companyId := 10
  productId := 4
  branchId := 1
  imeiPrimary := some "356938035643809"
  imeiSecondary := none
  serialNo := none
  cost := 60000
  status := .inStock
  dateSold := none

theorem counter_accounted : Accounted 10 301 60000 counter :=
  Accounted.shelf counter counterPhone rfl rfl (fun _ member => by cases member)
    (fun _ member => by cases member) (fun _ member => by cases member)
    (fun _ member => by cases member) (fun _ member => by cases member)

def broughtBack : List (Move Db Mark Refusal Unit) :=
  served 0 (Sales.createSale atCounter (fun _ => false)
    ⟨900, fun index => 910 + index, fun index => 920 + index⟩
    { lines := [phoneLine]
      payments := [{ method := .cash, amount := 100000 }] }).void ++
  served 1 (create .oldest atCounter 500
    { saleItemId := 910, identifier := "356938035643809", requestReason := "screen flickers",
      storeHolds := true, clientUuid := 60 }).void

theorem broughtBack_run :
    Run Trading anyOrder (.idle counter) ((Config.idle counter).schedule broughtBack) := by
  apply schedule_run _ _ _ _ _ (admits_anyOrder _ _)
  intro p member
  simp only [broughtBack, served, List.mem_append, List.mem_cons, List.mem_replicate,
    Move.arrive.injEq, reduceCtorEq, and_false, or_false] at member
  rcases member with rfl | rfl
  · exact .createSale _ _ _ _
  · exact .create _ _ _ _

theorem brought_back_counted_twice :
    ¬ ∀ (companyId unitId : Id) (cost : Int) (db : Db) (c : Config Db Mark Refusal Unit),
      Accounted companyId unitId cost db → Run Trading anyOrder (.idle db) c →
      ∀ unit, c.store.units.find? unitId = some unit → CountedOnce c.store unit := by
  intro claim
  have returned : (((Config.idle counter).schedule broughtBack).store.units.find? 301).map
      (fun unit => (unit.id, unit.companyId, unit.cost, unit.status)) =
        some (301, 10, 60000, .returned) := by decide +kernel
  have booked : bookedCost ((Config.idle counter).schedule broughtBack).store 10 301 = 60000 := by
    decide +kernel
  obtain ⟨unit, found, fields⟩ := Option.map_eq_some_iff.mp returned
  simp only [Prod.mk.injEq] at fields
  obtain ⟨id, company, cost, status⟩ := fields
  have owned : 60000 ≤ ownedCost ((Config.idle counter).schedule broughtBack).store 10 unit := by
    have road : roadCost ((Config.idle counter).schedule broughtBack).store 10 301 60000 = 0 := by
      decide +kernel
    have held : faultyUnit 10 none unit = true := by
      simp [faultyUnit, company, status, inBranch]
    unfold ownedCost
    rw [id, cost, road, if_pos held]
    split <;> omega
  rcases claim 10 301 60000 counter _ counter_accounted broughtBack_run unit found with
    ⟨-, none⟩ | ⟨none, -⟩
  · rw [company] at none
    omega
  · rw [company, id, booked] at none
    omega

theorem counted_once_iff_broughtBack :
    ∃ unit, ((Config.idle counter).schedule broughtBack).store.units.find? 301 = some unit ∧
      (CountedOnce ((Config.idle counter).schedule broughtBack).store unit ↔
        unit.cost = 0 ∨ unit.status ≠ .returned) ∧
      (unit.status = .returned →
        bookedCost ((Config.idle counter).schedule broughtBack).store unit.companyId unit.id =
          unit.cost ∧
        ownedCost ((Config.idle counter).schedule broughtBack).store unit.companyId unit =
          unit.cost) :=
  counted_once_iff 10 301 60000 counter counter_accounted _ broughtBack_run

end ErpBackend.Analytics
