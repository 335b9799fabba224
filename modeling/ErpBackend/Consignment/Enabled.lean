import ErpBackend.Consignment.Standing

/-!
# Requests the service accepts

The other direction of `exec_outcome`: what is enough for a request to go
through, and the state it leaves.
-/

namespace ErpBackend.Consignments

open Foundation

/-- The service answers the call and leaves `db'`. -/
structure Goes (call : Call) (db db' : Db) : Prop where
  accepted : call.accepted db = true
  reached : (call.exec db).1 = db'

theorem goes_of_grants (call : Call) (db db' : Db) (grants : Prog.Grants call.program db db') :
    Goes call db db' := by
  obtain ⟨reached, view, ok⟩ := grants
  refine ⟨?_, reached⟩
  unfold Call.accepted Call.exec
  rw [ok]

variable (ctx : Ctx)

theorem grants_get (id : Id) (db : Db) (c : Consignment) (side : Side)
    (reads : Reads ctx db id c side) : Prog.Grants (get ctx id) db db := by
  have visible : findVisible db ctx.companyId id = some c :=
    (findVisible_some db ctx.companyId id c).mpr
      ⟨reads.found, (visible_iff_side ctx.companyId c).mpr ⟨side, reads.side⟩⟩
  have found : (findVisible db ctx.companyId id).bind (fun c =>
      (sideOf c ctx.companyId).map (viewOf db ctx.companyId c)) =
        some (viewOf db ctx.companyId c side) := by
    rw [visible, Option.bind_some, reads.side]
    rfl
  unfold get
  apply Prog.grants_read
  rw [found]
  exact ⟨rfl, _, rfl⟩

variable {α : Type}

theorem grants_mine (id : Id) (db db' : Db) (c : Consignment) (side : Side)
    (f : Consignment → Request α) (reads : Reads ctx db id c side)
    (rest : Prog.Grants (f c) db db') : Prog.Grants (mine ctx id >>= f) db db' := by
  have visible : findVisible db ctx.companyId id = some c :=
    (findVisible_some db ctx.companyId id c).mpr
      ⟨reads.found, (visible_iff_side ctx.companyId c).mpr ⟨side, reads.side⟩⟩
  unfold mine
  rw [Prog.bind_assoc]
  apply Prog.grants_read
  exact Prog.grants_expect _ _ c _ visible rest

variable (c : Consignment)

theorem grants_requireSide (me : Id) (db db' : Db) (side : Side)
    (f : Side → Request α) (acts : sideOf c me = some side)
    (rest : Prog.Grants (f side) db db') : Prog.Grants (requireSide c me >>= f) db db' :=
  Prog.grants_expect _ _ side _ acts rest

theorem grants_assertSource (me : Id) (db db' : Db) (f : Unit → Request α)
    (acts : sideOf c me = some .source) (rest : Prog.Grants (f ()) db db') :
    Prog.Grants (assertSource c me >>= f) db db' := by
  unfold assertSource
  rw [Prog.bind_assoc]
  exact grants_requireSide c me db db' .source _ acts (Prog.grants_require _ _ _ rfl rest)

theorem grants_assertDestination (me : Id) (db db' : Db) (f : Unit → Request α)
    (acts : sideOf c me = some .destination) (rest : Prog.Grants (f ()) db db') :
    Prog.Grants (assertDestination c me >>= f) db db' := by
  unfold assertDestination
  rw [Prog.bind_assoc]
  exact grants_requireSide c me db db' .destination _ acts (Prog.grants_require _ _ _ rfl rest)

theorem decide_goes (dto : DecideConsignmentDto) (c : Consignment) (side : Side)
    (next : ConsignmentStatus) (db : Db) (reads : Reads ctx db c.id c side)
    (reason : dto.action = .dispute → blank dto.reason = false)
    (counter : dto.action = .counter → dto.amount ≠ none)
    (moved : assertTransition dto.action.action c.status side (lastProposalBy c) = .ok next)
    (version : dto.expectedVersion = none ∨ dto.expectedVersion = some (c.version : Int))
    (offer : dto.action = .accept → 0 < offered c) :
    ∃ db', commitDecision ctx dto c next db = .ok db' ∧
      Goes ⟨ctx, .decide c.id dto⟩ db db' := by
  have swapped := swapConsignment_of db c (decided ctx dto c next) (decided_id ctx dto c next)
    "refresh_required: somebody else answered first" reads.found
  have commits : ∃ db', commitDecision ctx dto c next db = .ok db' := by
    unfold commitDecision
    rw [swapped]
    exact ⟨_, rfl⟩
  obtain ⟨db', committed⟩ := commits
  have becomes := decide_becomes ctx dto c next db db' reads.found committed
  refine ⟨db', committed, goes_of_grants _ db db' ?_⟩
  change Prog.Grants (Consignments.decide ctx c.id dto) db db'
  unfold Consignments.decide
  apply grants_mine ctx c.id db db' c side _ reads
  apply grants_requireSide c _ db db' side _ reads.side
  apply Prog.grants_require _ _ _ reason
  apply Prog.grants_require _ _ _ counter
  apply Prog.grants_liftExcept _ next _ ((except_mapError_ok _ _ _).mpr moved)
  apply Prog.grants_require _ _ _ version
  apply Prog.grants_require _ _ _ offer
  apply Prog.grants_commit _ _ _ committed
  exact grants_get ctx c.id db' _ side ⟨becomes.found, reads.side⟩

theorem send_goes (db : Db) (reads : Reads ctx db c.id c .source)
    (status : c.status = .acceptedAwaitingCustody) :
    ∃ db', Becomes db db' c.id (sent ctx .custodyAwaitingConfirmation c) (linesOf db c.id)
        (ledgerOf db c.id) ∧
      Goes ⟨ctx, .custody c.id { action := .send }⟩ db db' := by
  have moved : assertTransition .sendCustody c.status .source none =
      .ok .custodyAwaitingConfirmation := by
    rw [status]
    rfl
  have committed := swapConsignment_of db c (sent ctx .custodyAwaitingConfirmation)
    (fun _ => by rfl) changedWhileReading reads.found
  have becomes := send_becomes ctx c .custodyAwaitingConfirmation db _ reads.found committed
  refine ⟨_, becomes, goes_of_grants _ db _ ?_⟩
  change Prog.Grants (custody ctx c.id { action := .send }) db _
  unfold custody
  apply grants_mine ctx c.id db _ c .source _ reads
  apply grants_requireSide c _ db _ .source _ reads.side
  apply Prog.grants_liftExcept _ _ _ ((except_mapError_ok _ _ _).mpr moved)
  apply grants_assertSource c _ db _ _ reads.side
  apply Prog.grants_commit _ _ _ committed
  exact grants_get ctx c.id _ _ .source ⟨becomes.found, reads.side⟩

theorem receive_goes (db : Db)
    (reads : Reads ctx db c.id c .destination) (user : ctx.userId ≠ none)
    (status : c.status = .custodyAwaitingConfirmation) (agreed : c.agreedAmount ≠ none) :
    ∃ db' lines, Becomes db db' c.id (received ctx .inCustody c) lines (ledgerOf db c.id) ∧
      Goes ⟨ctx, .custody c.id { action := .confirm }⟩ db db' := by
  have moved : assertTransition .confirmCustody c.status .destination none = .ok .inCustody := by
    rw [status]
    rfl
  have swapped := swapConsignment_of db c (received ctx .inCustody) (fun _ => by rfl)
    changedWhileReading reads.found
  have commits : ∃ db', commitReceipt ctx c .inCustody db = .ok db' := by
    unfold commitReceipt
    rw [if_neg user, swapped]
    exact ⟨_, rfl⟩
  obtain ⟨db', committed⟩ := commits
  have becomes := receipt_becomes ctx c .inCustody db db' reads.found committed
  refine ⟨db', _, becomes, goes_of_grants _ db _ ?_⟩
  change Prog.Grants (custody ctx c.id { action := .confirm }) db _
  unfold custody
  apply grants_mine ctx c.id db _ c .destination _ reads
  apply grants_requireSide c _ db _ .destination _ reads.side
  apply Prog.grants_liftExcept _ _ _ ((except_mapError_ok _ _ _).mpr moved)
  apply grants_assertDestination c _ db _ _ reads.side
  apply Prog.grants_require _ _ _ agreed
  apply Prog.grants_read
  apply Prog.grants_liftExcept _ () _ rfl
  apply Prog.grants_commit _ _ _ committed
  exact grants_get ctx c.id _ _ .destination ⟨becomes.found, reads.side⟩

theorem return_goes (dto : ReturnDto) (c : Consignment) (side : Side)
    (next : ConsignmentStatus) (db : Db) (reads : Reads ctx db c.id c side)
    (moved : assertTransition dto.action.action c.status side none = .ok next)
    (condition : dto.action = .confirm → dto.condition ≠ none) :
    ∃ db', Becomes db db' c.id (advanced next c)
        ((linesOf db c.id).map (lineReturned ctx.now dto)) (ledgerOf db c.id) ∧
      Goes ⟨ctx, .returnFlow c.id dto⟩ db db' := by
  have swapped := swapConsignment_of db c (advanced next) (fun _ => by rfl)
    changedWhileReading reads.found
  have commits : ∃ db', commitReturn ctx dto c next db = .ok db' := by
    unfold commitReturn
    rw [swapped]
    dsimp only
    split
    · exact ⟨_, rfl⟩
    · exact ⟨_, rfl⟩
  obtain ⟨db', committed⟩ := commits
  have becomes := return_becomes ctx dto c next db db' reads.found committed
  refine ⟨db', becomes, goes_of_grants _ db _ ?_⟩
  change Prog.Grants (returnFlow ctx c.id dto) db _
  unfold returnFlow
  apply grants_mine ctx c.id db _ c side _ reads
  apply grants_requireSide c _ db _ side _ reads.side
  apply Prog.grants_liftExcept _ _ _ ((except_mapError_ok _ _ _).mpr moved)
  apply Prog.grants_require _ _ _ condition
  apply Prog.grants_commit _ _ _ committed
  exact grants_get ctx c.id _ _ side ⟨becomes.found, reads.side⟩

theorem insertEntry_of (fresh : Id) (c : Consignment) (kind : LedgerKind)
    (amount : Int) (reason : Option String) (db : Db)
    (found : db.consignments.find? c.id = some c) (positive : 0 < amount)
    (unused : fresh ∉ db.consignmentLedger.rows.map ConsignmentLedgerEntry.id) :
    ∃ db', insertEntry db { entryFor ctx fresh c kind amount with reason } = .ok db' := by
  obtain ⟨ledger, inserted⟩ := db.consignmentLedger.insert?_of_fresh
    { entryFor ctx fresh c kind amount with reason } unused
  unfold insertEntry
  rw [if_neg (by simpa [entryFor] using positive), if_neg (by simp [entryFor]),
    if_neg (by simp [entryFor, found]), if_neg (by simp [entryFor]), inserted]
  exact ⟨_, rfl⟩

theorem forgive_goes (db : Db)
    (reads : Reads ctx db c.id c .source)
    (status : c.status = .soldAwaitingSettlement ∨ c.status = .partiallyPaid)
    (owes : 0 < owed db c.id) :
    ∃ fresh dto db' c' ledger, Becomes db db' c.id c' (linesOf db c.id) ledger ∧
      c'.status = .forgivenSettled ∧ Goes ⟨ctx, .forgive fresh c.id dto⟩ db db' := by
  obtain ⟨fresh, unused⟩ := db.consignmentLedger.exists_unused
  let dto : ForgiveDto := ⟨⟨owed db c.id, owes⟩, "written off"⟩
  obtain ⟨db₁, inserted⟩ := insertEntry_of ctx fresh c .forgiven (owed db c.id)
    (some (trim dto.reason)) db reads.found owes unused
  have first := entry_becomes db db₁ c _ reads.found rfl inserted
  have second := settled_becomes ctx.now db₁ c .forgivenSettled first.found
  have clear : owed db₁ c.id = 0 := by
    rw [owed_eq_balance, first.ledger, balance_append]
    simp [entryFor, balanceEffect, owed_eq_balance]
  rw [clear, if_neg (Int.lt_irrefl 0), first.lines] at second
  have member : c.status ∈ [ConsignmentStatus.soldAwaitingSettlement, .partiallyPaid] := by
    simpa using status
  have stated : blank (some "written off") = false := by decide
  have same : sideOf (restated [.soldAwaitingSettlement, .partiallyPaid] .forgivenSettled
      (fun _ => some ctx.now) c) ctx.companyId = sideOf c ctx.companyId := by
    rw [restated, if_pos member]
    rfl
  refine ⟨fresh, dto, _, _, _, first.trans second, by simp [restated, status],
    goes_of_grants _ db _ ?_⟩
  change Prog.Grants (forgive ctx fresh c.id dto) db _
  unfold forgive append
  apply grants_mine ctx c.id db _ c .source _ reads
  apply grants_assertSource c _ db _ _ reads.side
  apply Prog.grants_read
  apply Prog.grants_liftExcept _ () _ ((except_mapError_ok _ _ _).mpr
    (Settlement.assertForgivenessAllowed_of _ _ _ stated owes (Int.le_refl _)))
  apply Prog.grants_commit _ _ _ inserted
  apply ensures_settleIfClear
  exact grants_get ctx c.id _ _ .source ⟨second.found, by rw [same, reads.side]⟩

end ErpBackend.Consignments
