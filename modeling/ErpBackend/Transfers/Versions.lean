import ErpBackend.Transfers.Transactions

/-!
# Acting on any version

A client may send any `expectedVersion`. The status is checked on the row the
service loads and the write swaps on the version alone, so a version that is
not stored yet lets a stale check through.
-/

namespace ErpBackend.Transfers

open Foundation Inventory

def Moves (transfer : StockTransfer) (target : TransferStatus) (expectedVersion : Nat)
    (db db' : Db) : Prop :=
  target ∈ transitions transfer.status ∧ ∃ row f,
    db.stockTransfers.find? transfer.id = some row ∧ row.version = expectedVersion ∧
    db'.stockTransfers =
      db.stockTransfers.update transfer.id (movedTo target f) (movedTo_id target f)

section Moves

variable (ctx : Ctx) (transfer : StockTransfer) (db db' : Db)

theorem transitionTx_moves (target : TransferStatus) (expectedVersion : Nat)
    (f : StockTransfer → StockTransfer)
    (done : transitionTx ctx.companyId transfer target expectedVersion f db = .ok db') :
    Moves transfer target expectedVersion db db' := by
  obtain ⟨legal, row, found, -, version, equal⟩ := transitionTx_ok _ _ _ _ _ _ _ done
  exact ⟨legal, row, f, found, version, by rw [equal]; rfl⟩

theorem Moves.congr {target : TransferStatus} {expectedVersion : Nat} {start stop : Db}
    (moves : Moves transfer target expectedVersion start stop)
    (before : start.stockTransfers = db.stockTransfers)
    (after : db'.stockTransfers = stop.stockTransfers) :
    Moves transfer target expectedVersion db db' := by
  obtain ⟨legal, row, f, found, version, equal⟩ := moves
  rw [before] at found equal
  exact ⟨legal, row, f, found, version, after.trans equal⟩

theorem releaseUnits_transfers (companyId : Id) (unitIds : List Id) :
    (unitIds.foldl (releaseUnit companyId) db).stockTransfers = db.stockTransfers := by
  induction unitIds generalizing db with
  | nil => rfl
  | cons unitId rest ih =>
      rw [List.foldl_cons, ih]
      rfl

theorem releaseLines_transfers (companyId fromBranchId : Id) (items : List TransferItem)
    (done : releaseLines companyId fromBranchId items db = .ok db') :
    db'.stockTransfers = db.stockTransfers := by
  induction items generalizing db with
  | nil =>
      cases done
      rfl
  | cons item rest ih =>
      unfold releaseLines at done
      split at done
      · exact ih db done
      · obtain ⟨⟨released, found⟩, stored, done⟩ := (except_bind_ok _ _ _).mp done
        rw [ih released done]
        rcases updateStock_ok _ _ _ _ _ _ db released found stored with
          ⟨-, rfl, -⟩ | ⟨-, item, -, -, moved⟩
        · rfl
        · obtain ⟨stockItems, equal⟩ := moved.frame
          rw [equal]

theorem withdraw_moves (target : TransferStatus) (dto : TransferDecisionDto)
    (done : withdraw ctx transfer target dto db = .ok db') :
    Moves transfer target dto.expectedVersion db db' := by
  obtain ⟨moved, transition, released⟩ := (except_bind_ok _ _ _).mp done
  apply (transitionTx_moves ctx transfer db moved _ _ _ transition).congr transfer db db' rfl
  rw [releaseLines_transfers _ _ _ _ _ released, releaseUnits_transfers]

theorem writeShipment_moves (items : List Loaded) (expectedVersion : Nat)
    (done : writeShipment ctx transfer items expectedVersion db = .ok db') :
    Moves transfer .inTransit expectedVersion db db' := by
  obtain ⟨moved, shippedUnits, done⟩ := (except_bind_ok _ _ _).mp done
  obtain ⟨shipped, shippedLines, transition⟩ := (except_bind_ok _ _ _).mp done
  obtain ⟨units, movedEq⟩ := (shipUnits_ok _ _ _ _ shippedUnits).frame
  obtain ⟨⟨stockItems, transferItems, shippedEq⟩, -⟩ := shipLines_ok _ _ _ _ _ shippedLines
  apply (transitionTx_moves ctx transfer shipped db' _ _ _ transition).congr transfer db db' ?_ rfl
  rw [shippedEq, movedEq]

theorem writeReceipt_moves (toBranchId : Id) (items : List Loaded) (units : List StockUnit)
    (expectedVersion : Nat)
    (done : writeReceipt ctx transfer toBranchId items units expectedVersion db = .ok db') :
    Moves transfer .received expectedVersion db db' := by
  obtain ⟨received, receivedLines, transition⟩ := (except_bind_ok _ _ _).mp done
  obtain ⟨stockItems, receivedEq⟩ := (receiveLines_ok _ _ _ _ _ receivedLines).frame
  obtain ⟨rows, arrivedEq⟩ := receiveUnits_frame ctx.companyId toBranchId
    (units.map StockUnit.id) db
  apply (transitionTx_moves ctx transfer received db' _ _ _ transition).congr transfer db db' ?_ rfl
  rw [receivedEq, invalidateOnBranchMove, arrivedEq]

end Moves

/-- Each transfer stays as it is or moves along an edge, to the next version. -/
structure Follows (db db' : Db) : Prop where
  absent : ∀ id, db.stockTransfers.find? id = none → db'.stockTransfers.find? id = none
  row : ∀ id transfer, db.stockTransfers.find? id = some transfer →
    ∃ transfer', db'.stockTransfers.find? id = some transfer' ∧
      (transfer' = transfer ∨ transfer'.status ∈ transitions transfer.status ∧
        transfer'.version = transfer.version + 1)

structure Newer (db db' : Db) : Prop where
  absent : ∀ id, db.stockTransfers.find? id = none → db'.stockTransfers.find? id = none
  row : ∀ id transfer, db.stockTransfers.find? id = some transfer →
    ∃ transfer', db'.stockTransfers.find? id = some transfer' ∧
      transfer.version ≤ transfer'.version ∧
      (transfer'.version = transfer.version → transfer' = transfer)

theorem Follows.refl (db : Db) : Follows db db :=
  ⟨fun _ missing => missing, fun _ transfer found => ⟨transfer, found, .inl rfl⟩⟩

theorem Newer.refl (db : Db) : Newer db db :=
  ⟨fun _ missing => missing,
    fun _ transfer found => ⟨transfer, found, Int.le_refl _, fun _ => rfl⟩⟩

theorem Newer.trans {db db' db'' : Db} (first : Newer db db') (second : Newer db' db'') :
    Newer db db'' := by
  constructor
  · intro id missing
    exact second.absent id (first.absent id missing)
  · intro id transfer found
    obtain ⟨transfer', found', newer', same'⟩ := first.row id transfer found
    obtain ⟨transfer'', found'', newer'', same''⟩ := second.row id transfer' found'
    refine ⟨transfer'', found'', Int.le_trans newer' newer'', ?_⟩
    intro version
    rw [same'' (by omega), same' (by omega)]

theorem Follows.newer {db db' : Db} (follows : Follows db db') : Newer db db' := by
  constructor
  · exact follows.absent
  · intro id transfer found
    obtain ⟨transfer', found', moved⟩ := follows.row id transfer found
    refine ⟨transfer', found', ?_⟩
    rcases moved with rfl | ⟨-, version⟩
    · exact ⟨Int.le_refl _, fun _ => rfl⟩
    · exact ⟨by omega, fun same => by omega⟩

theorem Moves.follows {transfer : StockTransfer} {target : TransferStatus}
    {expectedVersion : Nat} {db db' : Db} (moves : Moves transfer target expectedVersion db db')
    (current : Current transfer expectedVersion db) : Follows db db' := by
  obtain ⟨legal, row, f, found, version, equal⟩ := moves
  obtain rfl := current row found version
  constructor
  · intro id missing
    rw [equal, Table.find?_update]
    split
    · next same => rw [← same, missing]; rfl
    · exact missing
  · intro id other present
    rw [equal, Table.find?_update]
    by_cases same : id = row.id
    · subst same
      rw [found] at present
      cases present
      exact ⟨movedTo target f row, by rw [if_pos rfl, found]; rfl, .inr ⟨legal, rfl⟩⟩
    · exact ⟨other, by rw [if_neg same]; exact present, .inl rfl⟩

/-- The stored transfer is at `version` already, or past it. -/
def Reached (db : Db) (id : Id) (version : Nat) : Prop :=
  ∀ transfer, db.stockTransfers.find? id = some transfer → (version : Int) ≤ transfer.version

/-- The requests that move a transfer, with the versions the client may send. -/
inductive Issued (admits : Id → Nat → Prop) : Request Unit → Prop
  | approve (ctx : Ctx) (id : Id) (dto : TransferDecisionDto)
      (sent : admits id dto.expectedVersion) : Issued admits (approve ctx id dto).void
  | reject (ctx : Ctx) (id : Id) (dto : TransferDecisionDto)
      (sent : admits id dto.expectedVersion) : Issued admits (reject ctx id dto).void
  | cancel (ctx : Ctx) (has : Permission → Bool) (id : Id) (dto : TransferDecisionDto)
      (sent : admits id dto.expectedVersion) : Issued admits (cancel ctx has id dto).void
  | ship (ctx : Ctx) (id : Id) (dto : TransferDecisionDto)
      (sent : admits id dto.expectedVersion) : Issued admits (ship ctx id dto).void
  | receiveConfirm (ctx : Ctx) (id : Id) (dto : ReceiveTransferDto)
      (sent : admits id dto.expectedVersion) : Issued admits (receiveConfirm ctx id dto).void

/-- A step in which a request that comes in carries a version `admits` allows of
the store as it then is. -/
def Taken (admits : Db → Id → Nat → Prop) (c c' : Config Db Mark Refusal Unit) : Prop :=
  Step (Issued (admits c.store)) anyOrder c c'

abbrev Course (admits : Db → Id → Nat → Prop) :
    Config Db Mark Refusal Unit → Config Db Mark Refusal Unit → Prop :=
  Relation.ReflTransGen (Taken admits)

/-- What the DTO checks of `expectedVersion` is that it is a natural number. -/
def anyVersion : Db → Id → Nat → Prop := fun _ _ _ => True

theorem Reached.newer {db db' : Db} {id : Id} {version : Nat} (reached : Reached db id version)
    (newer : Newer db db') : Reached db' id version := by
  intro transfer' found'
  rcases found : db.stockTransfers.find? id with _ | transfer
  · rw [newer.absent id found] at found'
    cases found'
  · obtain ⟨later, present, grown, -⟩ := newer.row id transfer found
    rw [found'] at present
    cases present
    have bound := reached transfer found
    omega

def versioned : Discipline Db Mark where
  inv _ := True
  guar _ := Follows
  rely _ := Newer
  rely_refl _ := .refl
  rely_trans _ _ _ _ first second := first.trans second

variable (c c' : Config Db Mark Refusal Unit)

section Safety

variable {α β : Type}

theorem versioned_read (query : Db → α) (f : α → Request β) (db : Db)
    (rest : ∀ db', Newer db db' → versioned.Safe (f (query db')) db') :
    versioned.Safe (Prog.read .other query >>= f) db := by
  apply versioned.safe_read
  intro db' newer _
  exact ⟨.refl db', rest db' newer⟩

theorem versioned_commit (m : Mark) (body : Db → Except Refusal Db) (f : Unit → Request β)
    (db : Db) (commits : ∀ db', Newer db db' → ∀ db'', body db' = .ok db'' → Follows db' db'')
    (rest : ∀ db', versioned.Safe (f ()) db') :
    versioned.Safe (Prog.commit m body >>= f) db := by
  apply versioned.safe_commit
  · intro db' newer _ db'' done
    exact ⟨trivial, commits db' newer db'' done, rest db''⟩
  · exact Follows.refl

variable (ctx : Ctx)

variable (id : Id)

theorem versioned_load (version : Nat) (f : StockTransfer → Request β)
    (db : Db) (reached : Reached db id version)
    (rest : ∀ transfer db', (∀ db'', Newer db' db'' → Current transfer version db'') →
      versioned.Safe (f transfer) db') :
    versioned.Safe (load ctx id >>= f) db := by
  unfold load
  rw [Prog.bind_assoc]
  apply versioned_read
  intro db' newer
  apply versioned.safe_expect
  intro transfer found
  have stored := (Option.filter_eq_some_iff.mp found).1
  have bound := reached.newer newer transfer stored
  rw [← Table.key_of_find? _ _ _ stored] at stored
  apply rest transfer db'
  intro db'' later row present same
  obtain ⟨row', current, grown, equal⟩ := later.row transfer.id transfer stored
  rw [present] at current
  cases current
  exact equal (by omega)

theorem versioned_reload (db : Db) : versioned.Safe (load ctx id) db := by
  unfold load
  apply versioned_read
  intro db' _
  rcases (db'.stockTransfers.find? id).filter _ with _ | transfer
  · trivial
  · trivial

theorem versioned_approve (dto : TransferDecisionDto) (db : Db)
    (reached : Reached db id dto.expectedVersion) : versioned.Safe (approve ctx id dto) db := by
  unfold approve
  apply versioned.safe_expect
  intro fromBranchId _
  apply versioned_load ctx id _ _ db reached
  intro transfer db' current
  apply versioned.safe_require
  intro _
  apply versioned_commit
  · intro db₁ newer db₂ done
    exact (transitionTx_moves ctx transfer db₁ db₂ _ _ _ done).follows (current db₁ newer)
  · exact versioned_reload ctx id

theorem versioned_reject (dto : TransferDecisionDto) (db : Db)
    (reached : Reached db id dto.expectedVersion) : versioned.Safe (reject ctx id dto) db := by
  unfold reject
  apply versioned.safe_expect
  intro fromBranchId _
  apply versioned_load ctx id _ _ db reached
  intro transfer db' current
  apply versioned.safe_require
  intro _
  apply versioned.safe_require
  intro _
  apply versioned_commit
  · intro db₁ newer db₂ done
    exact (withdraw_moves ctx transfer db₁ db₂ _ _ done).follows (current db₁ newer)
  · exact versioned_reload ctx id

theorem versioned_cancel (has : Permission → Bool) (id : Id)
    (dto : TransferDecisionDto) (db : Db) (reached : Reached db id dto.expectedVersion) :
    versioned.Safe (cancel ctx has id dto) db := by
  unfold cancel
  apply versioned.safe_expect
  intro activeBranch _
  apply versioned_load ctx id _ _ db reached
  intro transfer db' current
  apply versioned.safe_require
  intro _
  apply versioned.safe_require
  intro _
  apply versioned.safe_require
  intro _
  apply versioned.safe_require
  intro _
  apply versioned.safe_require
  intro _
  apply versioned_commit
  · intro db₁ newer db₂ done
    exact (withdraw_moves ctx transfer db₁ db₂ _ _ done).follows (current db₁ newer)
  · exact versioned_reload ctx id

theorem versioned_ship (dto : TransferDecisionDto) (db : Db)
    (reached : Reached db id dto.expectedVersion) : versioned.Safe (ship ctx id dto) db := by
  unfold ship
  apply versioned.safe_expect
  intro fromBranchId _
  apply versioned_load ctx id _ _ db reached
  intro transfer db' current
  apply versioned.safe_require
  intro _
  apply versioned.safe_liftExcept
  intro _ _
  apply versioned_read
  intro db₁ newer
  apply versioned.safe_require
  intro _
  rw [← Prog.bind_pure (Prog.commit _ _)]
  apply versioned_commit
  · intro db₂ later db₃ done
    exact (writeShipment_moves ctx transfer db₂ db₃ _ _ done).follows
      (current db₂ (newer.trans later))
  · exact fun _ => trivial

theorem versioned_receiveConfirm (dto : ReceiveTransferDto) (db : Db)
    (reached : Reached db id dto.expectedVersion) :
    versioned.Safe (receiveConfirm ctx id dto) db := by
  unfold receiveConfirm
  apply versioned.safe_expect
  intro toBranchId _
  apply versioned_load ctx id _ _ db reached
  intro transfer db' current
  apply versioned.safe_require
  intro _
  apply versioned.safe_liftExcept
  intro _ _
  apply versioned_read
  intro db₁ newer
  apply versioned_commit
  · intro db₂ later db₃ done
    exact (writeReceipt_moves ctx transfer db₂ db₃ _ _ _ _ done).follows
      (current db₂ (newer.trans later))
  · exact fun _ => trivial

theorem versioned_issued (db : Db) (p : Request Unit) (issued : Issued (Reached db) p) :
    versioned.Safe p db := by
  cases issued with
  | approve ctx id dto sent =>
      exact versioned.safe_void db _ (versioned_approve ctx id dto db sent)
  | reject ctx id dto sent =>
      exact versioned.safe_void db _ (versioned_reject ctx id dto db sent)
  | cancel ctx has id dto sent =>
      exact versioned.safe_void db _ (versioned_cancel ctx has id dto db sent)
  | ship ctx id dto sent =>
      exact versioned.safe_void db _ (versioned_ship ctx id dto db sent)
  | receiveConfirm ctx id dto sent =>
      exact versioned.safe_void db _ (versioned_receiveConfirm ctx id dto db sent)

theorem course_sound (course : Course Reached c c')
    (sound : versioned.Sound c) : versioned.Sound c' := by
  induction course with
  | refl => exact sound
  | @tail before after _ last ih =>
      exact versioned.step_sound _ anyOrder before after
        (fun p issued _ => versioned_issued before.store p issued)
        (fun _ _ _ _ _ _ follows => follows.newer) last ih

end Safety

theorem taken_follows (taken : Taken Reached c c')
    (sound : versioned.Sound c) : Follows c.store c'.store := by
  cases taken with
  | arrive s inFlight p issued => exact .refl s
  | advance s before after m write next others => exact sound.guar

/-- Nothing leaves `inTransit` but to `received`; what is final stays as it is. -/
structure Final (db db' : Db) : Prop where
  shipped : ∀ id transfer, db.stockTransfers.find? id = some transfer →
    transfer.status = .inTransit → ∃ transfer', db'.stockTransfers.find? id = some transfer' ∧
      (transfer'.status = .inTransit ∨ transfer'.status = .received)
  ended : ∀ id transfer, db.stockTransfers.find? id = some transfer →
    transitions transfer.status = [] → db'.stockTransfers.find? id = some transfer

theorem Final.refl (db : Db) : Final db db :=
  ⟨fun _ transfer found status => ⟨transfer, found, .inl status⟩, fun _ _ found _ => found⟩

theorem Final.follows {db db' db'' : Db} (final : Final db db') (follows : Follows db' db'') :
    Final db db'' := by
  have ended : ∀ id transfer, db'.stockTransfers.find? id = some transfer →
      transitions transfer.status = [] → db''.stockTransfers.find? id = some transfer := by
    intro id transfer found finished
    obtain ⟨transfer', found', rfl | ⟨edge, -⟩⟩ := follows.row id transfer found
    · exact found'
    · rw [finished] at edge
      cases edge
  constructor
  · intro id transfer found status
    obtain ⟨transfer', found', shipped | received⟩ := final.shipped id transfer found status
    · obtain ⟨transfer'', found'', rfl | ⟨edge, -⟩⟩ := follows.row id transfer' found'
      · exact ⟨transfer'', found'', .inl shipped⟩
      · rw [shipped] at edge
        exact ⟨transfer'', found'', .inr (List.mem_singleton.mp edge)⟩
    · exact ⟨transfer', ended id transfer' found' (by rw [received]; rfl), .inr received⟩
  · intro id transfer found finished
    exact ended id transfer (final.ended id transfer found finished) finished

theorem course_final (course : Course Reached c c')
    (sound : versioned.Sound c) : Final c.store c'.store := by
  induction course with
  | refl => exact .refl _
  | tail earlier last ih =>
      exact ih.follows (taken_follows _ _ last (course_sound _ _ earlier sound))

/-- As long as no request comes in with a version its transfer has not reached, every
change of a transfer is an edge from the status stored at that moment. -/
theorem course_follows_edges (db : Db) (c c' : Config Db Mark Refusal Unit)
    (before : Course Reached (.idle db) c) :
    (Taken Reached c c' → ∀ id transfer, c.store.stockTransfers.find? id = some transfer →
      ∃ transfer', c'.store.stockTransfers.find? id = some transfer' ∧
        (transfer' = transfer ∨ transfer'.status ∈ transitions transfer.status)) ∧
    (Course Reached c c' → Final c.store c'.store) := by
  have sound := course_sound _ c before (versioned.sound_idle db trivial)
  constructor
  · intro taken id transfer found
    obtain ⟨transfer', found', moved⟩ := (taken_follows c c' taken sound).row id transfer found
    exact ⟨transfer', found', moved.imp_right And.left⟩
  · intro course
    exact course_final c c' course sound

def phoneWaiting : Db where
  units := ⟨[
    { id := 301
      companyId := 10
      productId := 3
      branchId := 1
      imeiPrimary := some "356938035643809"
      imeiSecondary := none
      serialNo := none
      cost := 50000
      status := .reserved
      dateSold := none }], by decide⟩
  stockTransfers := ⟨[
    { id := 400
      companyId := 10
      fromBranchId := 1
      toBranchId := 2
      transferNo := some "TRF-000001"
      status := .pendingApproval
      sentById := none
      receivedById := none
      sentAt := 900
      receivedAt := none
      clientUuid := some 50
      clientRequestHash := none
      version := 0
      requestedById := some 8
      approvedById := none
      approvedAt := none
      autoApproved := false
      decisionReason := none
      decidedById := none
      decidedAt := none }], by decide⟩
  transferItems := ⟨[⟨410, 10, 400, some 301, none, 1, none⟩], by decide⟩

def atOrigin : Ctx where
  companyId := 10
  branchId := some 1
  userId := some 7
  now := 1000

/-- The cancellation reads the waiting transfer and names version 2; the transfer is
approved and shipped before it writes. -/
def shippedMeanwhile : List (Move Db Mark Refusal Unit) :=
  [.arrive (cancel atOrigin (fun _ => true) 400 ⟨2, some "not needed"⟩).void, .advance 0] ++
  [.arrive (approve atOrigin 400 ⟨0, none⟩).void, .advance 1, .advance 1] ++
  [.arrive (ship atOrigin 400 ⟨1, none⟩).void, .advance 2, .advance 2, .advance 2]

private theorem meanwhile_requests (p : Request Unit) (member : .arrive p ∈ shippedMeanwhile) :
    Issued (fun _ _ => True) p := by
  simp only [shippedMeanwhile, List.mem_append, List.mem_cons, List.not_mem_nil,
    Move.arrive.injEq, reduceCtorEq, or_false] at member
  rcases member with (rfl | rfl) | rfl
  · exact .cancel _ _ _ _ trivial
  · exact .approve _ _ _ trivial
  · exact .ship _ _ _ trivial

theorem shipped_transfer_cancelled :
    ¬ ∀ (db : Db) (c c' : Config Db Mark Refusal Unit), Course anyVersion (.idle db) c →
      Taken anyVersion c c' → ∀ id transfer, c.store.stockTransfers.find? id = some transfer →
        ∃ transfer', c'.store.stockTransfers.find? id = some transfer' ∧
          (transfer' = transfer ∨ transfer'.status ∈ transitions transfer.status) := by
  intro claim
  have before := schedule_run (Issued fun _ _ => True) anyOrder (Config.idle phoneWaiting)
    shippedMeanwhile meanwhile_requests (admits_anyOrder _ _)
  have taken := advance_step (Issued fun _ _ => True) anyOrder
    ((Config.idle phoneWaiting).schedule shippedMeanwhile) 0 (by decide)
    (fun m _ q _ => by cases q <;> trivial)
  have shipped : (((Config.idle phoneWaiting).schedule
      shippedMeanwhile).store.stockTransfers.find? 400).map StockTransfer.status =
        some .inTransit := by decide
  have cancelled : ((((Config.idle phoneWaiting).schedule shippedMeanwhile).move
      (.advance 0)).store.stockTransfers.find? 400).map StockTransfer.status =
        some .cancelled := by decide
  obtain ⟨transfer, found, status⟩ := Option.map_eq_some_iff.mp shipped
  obtain ⟨transfer', found', moved⟩ := claim phoneWaiting _ _ before taken 400 transfer found
  rw [found'] at cancelled
  have status' : transfer'.status = .cancelled := Option.some.inj cancelled
  rcases moved with rfl | edge
  · rw [status] at status'
    cases status'
  · rw [status, status'] at edge
    cases edge with
    | tail _ rest => cases rest

def approvalLoaded : Config Db Mark Refusal Unit :=
  (Config.idle phoneWaiting).schedule
    [.arrive (approve atOrigin 400 ⟨0, none⟩).void, .advance 0]

theorem course_follows_edges_approval :
    Course Reached (.idle phoneWaiting) approvalLoaded ∧
      ((approvalLoaded.move (.advance 0)).store.stockTransfers.find? 400).map
        StockTransfer.status = some .approved ∧
      (∀ id transfer, approvalLoaded.store.stockTransfers.find? id = some transfer →
        ∃ transfer',
          (approvalLoaded.move (.advance 0)).store.stockTransfers.find? id = some transfer' ∧
            (transfer' = transfer ∨ transfer'.status ∈ transitions transfer.status)) ∧
      Final approvalLoaded.store (approvalLoaded.move (.advance 0)).store := by
  have stored : Reached phoneWaiting 400 0 := by
    intro transfer found
    have version : (phoneWaiting.stockTransfers.find? 400).map StockTransfer.version = some 0 := by
      decide
    rw [found] at version
    have zero : transfer.version = 0 := Option.some.inj version
    omega
  have arrived : Taken Reached (.idle phoneWaiting)
      ⟨phoneWaiting, [(approve atOrigin 400 ⟨0, none⟩).void]⟩ :=
    .arrive phoneWaiting [] _ (.approve _ _ _ stored)
  have loaded : Taken Reached ⟨phoneWaiting, [(approve atOrigin 400 ⟨0, none⟩).void]⟩
      approvalLoaded :=
    advance_step _ anyOrder ⟨phoneWaiting, [(approve atOrigin 400 ⟨0, none⟩).void]⟩ 0 (by decide)
      (fun m _ q _ => by cases q <;> trivial)
  have written : Taken Reached approvalLoaded (approvalLoaded.move (.advance 0)) :=
    advance_step _ anyOrder approvalLoaded 0 (by decide) (fun m _ q _ => by cases q <;> trivial)
  have course : Course Reached (.idle phoneWaiting) approvalLoaded :=
    (Relation.ReflTransGen.single arrived).tail loaded
  obtain ⟨edges, final⟩ := course_follows_edges phoneWaiting approvalLoaded
    (approvalLoaded.move (.advance 0)) course
  exact ⟨course, by decide, edges written, final (.single written)⟩

end ErpBackend.Transfers
