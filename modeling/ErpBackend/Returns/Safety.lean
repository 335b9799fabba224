import ErpBackend.Corrections.Effects
import ErpBackend.Returns.Movements

/-!
# The workflow under interleaving

Every statement of every request is a movement, whatever the other requests of the
workflow write in between. What a request has read may be stale; what it relies on is
only what is never undone.
-/

namespace ErpBackend.Returns

open Foundation Inventory

def workflow (approvals : Prop) : Discipline Db Mark where
  inv _ := True
  guar m db db' := Movement approvals db db' ∧ ∀ id, m = .supersede id → approvals
  rely _ := Later
  rely_refl _ := .refl
  rely_trans _ _ _ _ first second := first.trans second

variable (approvals : Prop)

theorem Movement.refl (db : Db) : Movement approvals db db :=
  .handle db.returnRequests db.units db.returnAdjustments db.dailyRollups (.refl _)

theorem guar_other {approvals : Prop} {db db' : Db} (moved : Movement approvals db db') :
    (workflow approvals).guar .other db db' :=
  ⟨moved, fun _ marked => by cases marked⟩

section Rules

variable (approvals : Prop) {α β : Type} (db : Db)

theorem moves_read (query : Db → α) (f : α → Request β)
    (rest : ∀ db', Later db db' → (workflow approvals).Safe (f (query db')) db') :
    (workflow approvals).Safe (Prog.read .other query >>= f) db := by
  apply Discipline.safe_read
  intro db' later _
  exact ⟨guar_other (.refl approvals db'), rest db' later⟩

theorem moves_commit (body : Db → Except Refusal Db) (f : Unit → Request β)
    (commits : ∀ db', Later db db' → ∀ db'', body db' = .ok db'' → Movement approvals db' db'')
    (rest : ∀ db' db'', Later db db' → body db' = .ok db'' →
      (workflow approvals).Safe (f ()) db'') :
    (workflow approvals).Safe (Prog.commit .other body >>= f) db := by
  apply Discipline.safe_commit
  · intro db' later _ db'' done
    exact ⟨trivial, guar_other (commits db' later db'' done), rest db' db'' later done⟩
  · exact fun db' => guar_other (.refl approvals db')

theorem moves_load (ctx : Ctx) (branchId id : Id) (f : LoadedReturn → Request β)
    (rest : ∀ loaded db', Later db db' → findReturn db' ctx.companyId branchId id = some loaded →
      (workflow approvals).Safe (f loaded) db') :
    (workflow approvals).Safe (load ctx branchId id >>= f) db := by
  unfold load
  rw [Prog.bind_assoc]
  apply moves_read
  intro db' later
  apply Discipline.safe_expect
  exact fun loaded found => rest loaded db' later found

theorem moves_detail (first : Lookup RefundPayout) (ctx : Ctx) (id : Id) :
    (workflow approvals).Safe (detail first ctx id) db := by
  unfold detail
  apply Discipline.safe_expect
  intro branchId _
  apply moves_load
  intro loaded db' _ _
  apply moves_read
  intro _ _
  apply moves_read
  intro _ _
  apply moves_read
  intro _ _
  exact (workflow approvals).safe_pure _ _

theorem moves_recompute (companyId branchId : Id) (day : Day) (now : Time) (rollupId : Id)
    (f : Unit → Request β) (rest : ∀ db', (workflow approvals).Safe (f ()) db') :
    (workflow approvals).Safe
      (Analytics.recomputeDaily .other companyId branchId day now rollupId >>= f) db := by
  unfold Analytics.recomputeDaily
  simp only [Prog.bind_assoc]
  apply moves_read
  intro _ _
  apply moves_read
  intro _ _
  apply moves_read
  intro _ _
  apply moves_read
  intro _ _
  apply moves_read
  intro _ _
  apply moves_commit
  · intro db₁ _ db₂ done
    obtain ⟨dailyRollups, rfl⟩ := Analytics.upsertRollup_ok _ _ _ _ _ _ _ _ done
    exact .handle db₁.returnRequests db₁.units db₁.returnAdjustments dailyRollups (.refl _)
  · exact fun _ db₂ _ _ => rest db₂

end Rules

theorem handle_of_swap {companyId id : Id} {expectedVersion : Nat}
    {status : Option ReturnStatus} {f : ReturnRequest → ReturnRequest} {db moved : Db}
    (swapped : swapRequest companyId id expectedVersion status f db = .ok moved)
    (same : ∀ row, lineage (f row) = lineage row) (units : Table StockUnit StockUnit.id)
    (returnAdjustments : Table ReturnAdjustment ReturnAdjustment.id) :
    Movement approvals db { moved with units, returnAdjustments } := by
  obtain ⟨row, found, -, -, -, rfl⟩ := (swapRequest_ok _ _ _ _ _ _ _).mp swapped
  exact .handle _ units returnAdjustments db.dailyRollups
    (.update _ _ (bumped f) (bumped_id f) (fun row => same row))

theorem move_of_swap {companyId id unitId : Id} {expectedVersion : Nat}
    {status : Option ReturnStatus} {f : ReturnRequest → ReturnRequest} {source target : UnitStatus}
    {db moved db' : Db}
    (swapped : swapRequest companyId id expectedVersion status f db = .ok moved)
    (same : ∀ row, lineage (f row) = lineage row)
    (placed : moveUnitForCustody companyId unitId source target moved = .ok db') :
    Movement approvals db db' := by
  obtain ⟨-, unit, -, -, -, rfl⟩ := moveUnitForCustody_ok _ _ _ _ _ _ placed
  exact handle_of_swap approvals swapped same _ moved.returnAdjustments

section Requests

variable (approvals : Prop) (first : Lookup RefundPayout) (ctx : Ctx) (db : Db)

theorem safe_receiveCustody (id : Id) (dto : ReceiveCustodyDto) :
    (workflow approvals).Safe (receiveCustody first ctx id dto) db := by
  unfold receiveCustody
  apply Discipline.safe_expect
  intro branchId _
  apply moves_load
  intro loaded db' _ _
  apply Discipline.safe_liftExcept
  intro _ _
  apply Discipline.safe_liftExcept
  intro needed _
  split
  · apply Discipline.safe_require
    intro _
    apply moves_commit
    · intro db₁ _ db₂ done
      obtain ⟨moved, swapped, placed⟩ := (except_bind_ok _ _ _).mp done
      exact move_of_swap approvals swapped (fun _ => rfl) placed
    · exact fun _ db₂ _ _ => moves_detail approvals db₂ first ctx id
  · exact moves_detail approvals db' first ctx id

theorem safe_investigate (id : Id) (dto : InvestigateDto) :
    (workflow approvals).Safe (investigate first ctx id dto) db := by
  unfold investigate
  apply Discipline.safe_expect
  intro branchId _
  apply moves_load
  intro loaded db' _ _
  apply Discipline.safe_liftExcept
  intro _ _
  apply Discipline.safe_require
  intro _
  apply Discipline.safe_liftExcept
  intro _ _
  apply moves_commit
  · intro db₁ _ db₂ done
    exact handle_of_swap approvals done (fun _ => rfl) db₂.units db₂.returnAdjustments
  · exact fun _ db₂ _ _ => moves_detail approvals db₂ first ctx id

theorem safe_addAdjustment (id adjustmentId : Id) (dto : AdjustmentDto) :
    (workflow approvals).Safe (addAdjustment first ctx id adjustmentId dto) db := by
  unfold addAdjustment
  apply Discipline.safe_expect
  intro branchId _
  apply moves_load
  intro loaded db' _ _
  apply Discipline.safe_liftExcept
  intro _ _
  apply Discipline.safe_liftExcept
  intro totalAmount _
  apply moves_read
  intro _ _
  apply Discipline.safe_liftExcept
  intro _ _
  apply moves_commit
  · intro db₁ _ db₂ done
    obtain ⟨moved, swapped, added⟩ := (except_bind_ok _ _ _).mp done
    obtain ⟨returnAdjustments, -, rfl⟩ := insertAdjustment_ok _ _ _ added
    exact handle_of_swap approvals swapped (fun _ => rfl) moved.units returnAdjustments
  · exact fun _ db₂ _ _ => moves_detail approvals db₂ first ctx id

theorem safe_removeAdjustment (id adjustmentId : Id) (expectedVersion : Nat) :
    (workflow approvals).Safe (removeAdjustment first ctx id adjustmentId expectedVersion) db := by
  unfold removeAdjustment
  apply Discipline.safe_expect
  intro branchId _
  apply moves_load
  intro loaded db' _ _
  apply Discipline.safe_liftExcept
  intro _ _
  apply moves_read
  intro _ _
  apply Discipline.safe_expect
  intro adjustment _
  apply moves_commit
  · intro db₁ _ db₂ done
    obtain ⟨moved, swapped, dropped⟩ := (except_bind_ok _ _ _).mp done
    cases dropped
    exact handle_of_swap approvals swapped (fun _ => rfl) moved.units _
  · exact fun _ db₂ _ _ => moves_detail approvals db₂ first ctx id

theorem safe_reject (id : Id) (dto : RejectReturnDto) :
    (workflow approvals).Safe (reject first ctx id dto) db := by
  unfold reject
  apply Discipline.safe_expect
  intro branchId _
  apply moves_load
  intro loaded db' _ _
  apply Discipline.safe_liftExcept
  intro _ _
  apply Discipline.safe_liftExcept
  intro _ _
  apply Discipline.safe_require
  intro _
  apply moves_commit
  · intro db₁ _ db₂ done
    obtain ⟨moved, swapped, placed⟩ := (except_bind_ok _ _ _).mp done
    split at placed
    · exact move_of_swap approvals swapped (fun _ => rfl) placed
    · cases placed
      exact handle_of_swap approvals swapped (fun _ => rfl) db₂.units db₂.returnAdjustments
  · exact fun _ db₂ _ _ => moves_detail approvals db₂ first ctx id

theorem insertReturnRequest_ok (row : ReturnRequest) (db db' : Db)
    (done : insertReturnRequest row db = .ok db') :
    ∃ returnRequests, db.returnRequests.insert? row = some returnRequests ∧
      db' = { db with returnRequests } := by
  unfold insertReturnRequest at done
  split_ifs at done
  exact Table.store_ok _ _ _ _ _ done

theorem findLine_some (db : Db) (companyId branchId saleItemId : Id) (line : SoldLine)
    (found : findLine db companyId branchId saleItemId = some line) :
    db.saleItems.find? saleItemId = some line.saleItem ∧
      line.unit = line.saleItem.unitId.bind db.units.find? := by
  unfold findLine at found
  obtain ⟨saleItem, listed, found⟩ := Option.bind_eq_some_iff.mp found
  obtain ⟨sale, _, found⟩ := Option.bind_eq_some_iff.mp found
  cases found
  exact ⟨(Option.filter_eq_some_iff.mp listed).1, rfl⟩

theorem raise_of_write {companyId : Id} {storeHolds : Bool}
    {row : ReturnRequest} {db db' : Db} (item : SaleItem)
    (written : writeRequest companyId storeHolds row db = .ok db')
    (line : db.saleItems.find? row.saleItemId = some item) (sale : item.saleId = row.saleId)
    (phone : item.unitId ≠ none) : Movement approvals db db' := by
  obtain ⟨opened, inserted, placed⟩ := (except_bind_ok _ _ _).mp written
  obtain ⟨returnRequests, added, rfl⟩ := insertReturnRequest_ok row db opened inserted
  split at placed
  · obtain ⟨-, unit, -, -, -, rfl⟩ := moveUnitForCustody_ok _ _ _ _ _ _ placed
    exact .raise row item returnRequests _ line sale phone added
  · cases placed
    exact .raise row item returnRequests db.units line sale phone added

theorem safe_create (id : Id) (dto : CreateReturnRequestDto) :
    (workflow approvals).Safe (create first ctx id dto) db := by
  unfold create
  apply Discipline.safe_expect
  intro branchId _
  apply Discipline.safe_expect
  intro userId _
  apply moves_read
  intro db₁ _
  split
  · apply Discipline.safe_require
    intro _
    exact moves_detail approvals db₁ first ctx _
  · apply moves_read
    intro db₂ _
    apply Discipline.safe_expect
    intro line found
    obtain ⟨listed, carried⟩ := findLine_some _ _ _ _ _ found
    apply Discipline.safe_expect
    intro unit phone
    apply Discipline.safe_require
    intro _
    apply Discipline.safe_require
    intro _
    have known : line.saleItem.id = dto.saleItemId := Table.key_of_find? _ _ _ listed
    have sold : line.saleItem.unitId ≠ none := by
      intro empty
      rw [carried, empty] at phone
      cases phone
    apply moves_commit
    · intro db₃ later db₄ done
      rw [except_mapError_ok] at done
      refine raise_of_write approvals line.saleItem done ?_ rfl sold
      change db₃.saleItems.find? line.saleItem.id = some line.saleItem
      rw [known]
      exact later.line _ _ listed
    · exact fun _ db₄ _ _ => moves_detail approvals db₄ first ctx id

theorem insertReversal_ok (row : ReturnReversal) (db db' : Db)
    (done : insertReversal row db = .ok db') :
    0 ≤ row.grossRefund ∧ 0 ≤ row.adjustmentTotal ∧
      row.netRefundDue = row.grossRefund - row.adjustmentTotal ∧
      (∀ other ∈ db.returnReversals.rows, other.saleItemId ≠ row.saleItemId ∧
        other.returnRequestId ≠ row.returnRequestId) ∧
      ∃ returnReversals, db.returnReversals.insert? row = some returnReversals ∧
        db' = { db with returnReversals } := by
  unfold insertReversal at done
  split_ifs at done with grossNegative adjustmentNegative netNegative netWrong lineTaken
    requestTaken
  split at done
  · cases done
  · next returnReversals inserted =>
    cases done
    refine ⟨by omega, by omega, not_not.mp netWrong, ?_, returnReversals, inserted, rfl⟩
    intro other member
    constructor
    · exact of_decide_eq_false ((Table.any_eq_false _ _).mp (Bool.not_eq_true _ ▸ lineTaken)
        other member)
    · exact of_decide_eq_false ((Table.any_eq_false _ _).mp (Bool.not_eq_true _ ▸ requestTaken)
        other member)

theorem reverse_of_write {ctx : Ctx} {branchId reversalId : Id}
    {loaded : LoadedReturn} {settled : SettledRefund} {isException : Bool} {dto : ApproveReturnDto}
    {db db' : Db}
    (line : db.saleItems.find? loaded.request.saleItemId = some loaded.saleItem)
    (known : (db.returnRequests.find? loaded.request.id).map lineage =
      some (lineage loaded.request))
    (written : writeApproval ctx loaded isException dto
      (newReversal ctx branchId reversalId loaded settled) db = .ok db') :
    Movement approvals db db' := by
  obtain ⟨moved, swapped, written⟩ := (except_bind_ok _ _ _).mp written
  obtain ⟨reversed, added, placed⟩ := (except_bind_ok _ _ _).mp written
  obtain ⟨row, found, -, -, -, rfl⟩ := (swapRequest_ok _ _ _ _ _ _ _).mp swapped
  obtain ⟨nonneg, fits, net, once, returnReversals, inserted, rfl⟩ := insertReversal_ok _ _ _ added
  obtain ⟨-, unit, -, -, -, rfl⟩ := moveUnitForCustody_ok _ _ _ _ _ _ placed
  obtain ⟨request, requested, same⟩ := Option.map_eq_some_iff.mp known
  have sale : request.saleId = loaded.request.saleId := congrArg (fun l => l.2.2.1) same
  have claimed : request.saleItemId = loaded.request.saleItemId :=
    congrArg (fun l => l.2.2.2.1) same
  exact .reverse (newReversal ctx branchId reversalId loaded settled) request loaded.saleItem _
    returnReversals _ (.update _ _ (bumped _) (bumped_id _) (fun _ => rfl)) requested sale claimed
    line rfl nonneg fits net rfl once inserted

theorem safe_approve (has : Permission → Bool) (ids : ApprovalIds) (id : Id)
    (dto : ApproveReturnDto) :
    (workflow approvals).Safe (approve first ctx has ids id dto) db := by
  unfold approve
  apply Discipline.safe_expect
  intro branchId _
  apply moves_load
  intro loaded db₁ _ found
  obtain ⟨present, -, -, line, -⟩ := (findReturn_some _ _ _ _ _).mp found
  have key : loaded.request.id = id := Table.key_of_find? _ _ _ present
  apply Discipline.safe_liftExcept
  intro _ _
  apply Discipline.safe_liftExcept
  intro _ _
  apply Discipline.safe_require
  intro _
  apply Discipline.safe_liftExcept
  intro isException _
  apply moves_read
  intro db₂ later₁
  apply Discipline.safe_liftExcept
  intro settled _
  apply moves_read
  intro db₃ later₂
  apply Discipline.safe_require
  intro _
  apply moves_commit
  · intro db₄ later₃ db₅ done
    have later := (later₁.trans later₂).trans later₃
    refine reverse_of_write approvals (later.line _ _ line) ?_ done
    rw [key]
    exact later.request _ _ present
  · intro _ db₅ _ _
    apply moves_recompute
    exact fun db₆ => moves_detail approvals db₆ first ctx id

theorem insertPayout_ok (row : RefundPayout) (db db' : Db)
    (done : insertPayout row db = .ok db') :
    (∀ other ∈ db.refundPayouts.rows, row.correctedById = none → other.correctedById = none →
      other.returnRequestId ≠ row.returnRequestId) ∧
      ∃ refundPayouts, db.refundPayouts.insert? row = some refundPayouts ∧
        db' = { db with refundPayouts } := by
  unfold insertPayout at done
  split_ifs at done with dueNegative reportedNegative mismatch stamps requestTaken reversalTaken
    keyTaken
  split at done
  · cases done
  · next refundPayouts inserted =>
    cases done
    refine ⟨?_, refundPayouts, inserted, rfl⟩
    intro other member live standing same
    apply requestTaken
    exact ⟨live, (Table.any_eq_true _ _).mpr ⟨other, member, decide_eq_true ⟨standing, same⟩⟩⟩

theorem reversalOf_some (db : Db) (companyId returnId : Id) (reversal : ReturnReversal)
    (found : reversalOf db companyId returnId = some reversal) :
    db.returnReversals.find? reversal.id = some reversal ∧
      reversal.returnRequestId = returnId := by
  unfold reversalOf at found
  have passed := List.find?_some found
  obtain ⟨_, same⟩ := of_decide_eq_true passed
  exact ⟨(Table.find?_some _ _ _).mpr ⟨List.mem_of_find?_eq_some found, rfl⟩, same⟩

theorem moves_activeAccount {β : Type} (accountId : Option Id)
    (f : Option ReceivingAccount → Request β)
    (rest : ∀ account db', Later db db' → (workflow approvals).Safe (f account) db') :
    (workflow approvals).Safe (activeAccount ctx accountId >>= f) db := by
  unfold activeAccount
  split
  · exact rest none db (.refl db)
  · rw [Prog.bind_assoc]
    apply moves_read
    intro db₁ later
    rw [Prog.bind_assoc]
    apply Discipline.safe_expect
    exact fun account _ => rest (some account) db₁ later

theorem safe_reportRefund (id payoutId : Id) (dto : ReportRefundDto) :
    (workflow approvals).Safe (reportRefund first ctx id payoutId dto) db := by
  unfold reportRefund
  apply Discipline.safe_expect
  intro branchId _
  apply moves_load
  intro loaded db₁ _ _
  apply moves_read
  intro db₂ _
  apply Discipline.safe_liftExcept
  intro _ _
  apply Discipline.safe_expect
  intro reversal found
  obtain ⟨owed, own⟩ := reversalOf_some _ _ _ _ found
  apply Discipline.safe_liftExcept
  intro _ _
  apply Discipline.safe_liftExcept
  intro _ _
  apply Discipline.safe_liftExcept
  intro _ _
  apply moves_read
  intro db₃ later₁
  split
  · apply Discipline.safe_require
    intro _
    exact moves_detail approvals db₃ first ctx id
  · apply moves_activeAccount
    intro account db₄ later₂
    apply moves_commit
    · intro db₅ later₃ db₆ done
      have later := (later₁.trans later₂).trans later₃
      rw [except_mapError_ok] at done
      obtain ⟨alone, refundPayouts, inserted, rfl⟩ := insertPayout_ok _ _ _ done
      exact .report _ reversal refundPayouts (later.reversal _ _ owed) own rfl rfl
        (fun other member live => alone other member rfl live) inserted
    · exact fun _ db₆ _ _ => moves_detail approvals db₆ first ctx id

theorem moves_findPayout {β : Type} (returnId : Id) (f : RefundPayout → Request β)
    (rest : ∀ payout db', Later db db' → (workflow approvals).Safe (f payout) db') :
    (workflow approvals).Safe (findPayout first ctx returnId >>= f) db := by
  unfold findPayout
  rw [Prog.bind_assoc]
  apply moves_read
  intro db₁ later
  apply Discipline.safe_expect
  exact fun payout _ => rest payout db₁ later

theorem safe_correctRefund (id : Id) (dto : CorrectRefundDto) :
    (workflow approvals).Safe (correctRefund first ctx id dto) db := by
  unfold correctRefund
  apply Discipline.safe_expect
  intro branchId _
  apply moves_load
  intro loaded db₁ _ _
  apply moves_findPayout
  intro payout db₂ _
  apply Discipline.safe_liftExcept
  intro _ _
  apply Discipline.safe_liftExcept
  intro _ _
  apply moves_activeAccount
  intro account db₃ _
  apply moves_commit
  · intro db₄ _ db₅ done
    obtain ⟨row, found, -, -, -, rfl⟩ := (swapPayout_ok _ _ _ _ _ _ _).mp done
    exact .amend payout.id _ (amended_id _ account dto) (fun _ => ⟨rfl, rfl, rfl⟩)
  · exact fun _ db₅ _ _ => moves_detail approvals db₅ first ctx id

theorem safe_confirmRefund (rollupId id : Id) (dto : ConfirmRefundDto) :
    (workflow approvals).Safe (confirmRefund first ctx rollupId id dto) db := by
  unfold confirmRefund
  apply Discipline.safe_expect
  intro branchId _
  apply moves_load
  intro loaded db₁ _ _
  apply moves_read
  intro db₂ _
  apply Discipline.safe_expect
  rintro ⟨payout, label⟩ _
  dsimp only
  split
  · exact moves_detail approvals db₂ first ctx id
  · apply moves_read
    intro db₃ _
    apply Discipline.safe_require
    intro _
    apply moves_commit
    · intro db₄ _ db₅ done
      obtain ⟨row, found, -, -, pending, rfl⟩ := (swapPayout_ok _ _ _ _ _ _ _).mp done
      have key : row.id = payout.id := Table.key_of_find? _ _ _ found
      rw [← key] at found ⊢
      exact .confirm row _ (confirmed_id ctx _) found pending (fun _ => ⟨rfl, rfl, rfl⟩)
    · intro _ db₅ _ _
      apply moves_recompute
      exact fun db₆ => moves_detail approvals db₆ first ctx id

end Requests

section Corrections

open Corrections

variable (approvals : Prop) (ctx : Ctx) (db : Db)

theorem moves_loadCorrection {β : Type} (id : Id) (f : FinancialCorrection → Request β)
    (rest : ∀ correction db', Later db db' →
      db'.financialCorrections.find? id = some correction →
      correction.companyId = ctx.companyId → (workflow approvals).Safe (f correction) db') :
    (workflow approvals).Safe (Corrections.load ctx id >>= f) db := by
  unfold Corrections.load
  rw [Prog.bind_assoc]
  apply moves_read
  intro db₁ later
  apply Discipline.safe_expect
  intro correction found
  obtain ⟨present, company⟩ := findCorrection_some _ _ _ _ found
  exact rest correction db₁ later present company

theorem safe_loadCorrection (id : Id) :
    (workflow approvals).Safe (Corrections.load ctx id) db := by
  rw [← Prog.bind_pure (Corrections.load ctx id)]
  apply moves_loadCorrection
  exact fun _ _ _ _ _ => (workflow approvals).safe_pure _ _

theorem safe_requestCorrection (id : Id) (dto : RequestCorrectionDto) :
    (workflow approvals).Safe (Corrections.request ctx id dto) db := by
  unfold Corrections.request
  apply Discipline.safe_expect
  intro _ _
  apply Discipline.safe_liftExcept
  intro reason _
  apply moves_read
  intro db₁ _
  split
  · apply Discipline.safe_require
    intro _
    exact safe_loadCorrection approvals ctx db₁ _
  · apply moves_read
    intro db₂ _
    apply Discipline.safe_liftExcept
    intro target loaded
    obtain ⟨found, confirmed⟩ := assertTargetCorrectable_ok _ _ loaded
    apply moves_read
    intro db₃ later₁
    apply Discipline.safe_liftExcept
    intro _ _
    apply Discipline.safe_liftExcept
    intro _ _
    apply moves_commit
    · intro db₄ later₂ db₅ done
      obtain ⟨financialCorrections, inserted, rfl⟩ := insertCorrection_ok _ _ _ done
      refine .request _ financialCorrections rfl ?_ inserted
      intro payoutId aimed
      have refund : dto.targetKind = .refundPayout := by
        by_contra other
        simp [newCorrection, other] at aimed
      obtain rfl : dto.targetId = payoutId := by simpa [newCorrection, refund] using aimed
      rw [refund] at found
      obtain ⟨payout, present, status, company⟩ := loadTarget_payout _ _ _ _ found confirmed
      obtain ⟨row, kept, same, stays⟩ := (later₁.trans later₂).payout _ _ present
      exact ⟨row, kept, stays status, (congrArg Prod.fst same).trans company⟩
    · exact fun _ db₅ _ _ => safe_loadCorrection approvals ctx db₅ id

theorem safe_rejectCorrection (id : Id) (dto : DecideCorrectionDto) :
    (workflow approvals).Safe (Corrections.reject ctx id dto) db := by
  unfold Corrections.reject
  apply moves_loadCorrection
  intro correction db₁ _ _ _
  apply Discipline.safe_liftExcept
  intro _ _
  apply moves_commit
  · intro db₂ _ db₃ done
    obtain ⟨row, found, -, requested, -, rfl⟩ := writeDecision_ok _ _ _ _ _ _ done
    have key : row.id = correction.id := Table.key_of_find? _ _ _ found
    rw [← key] at found ⊢
    exact .decide row _ (decided_id ctx .rejected) found requested (fun _ => rfl)
      (.inl (fun _ => rfl))
  · exact fun _ db₃ _ _ => safe_loadCorrection approvals ctx db₃ id

theorem moves_supersedeTarget {β : Type} (granted : approvals)
    (correction row : FinancialCorrection) (f : Unit → Request β)
    (found : db.financialCorrections.find? correction.id = some row)
    (approved : row.status = .approved) (same : aim row = aim correction)
    (company : correction.companyId = ctx.companyId)
    (rest : ∀ db', (workflow approvals).Safe (f ()) db') :
    (workflow approvals).Safe (supersedeTarget ctx correction >>= f) db := by
  unfold supersedeTarget
  split
  · exact rest db
  · next payoutId target =>
    apply Discipline.safe_execute
    intro db₁ later _
    obtain ⟨row', found', same', stays⟩ := later.correction _ _ found
    have alike : aim row' = aim correction := same'.trans same
    have key : row'.id = correction.id := Table.key_of_find? _ _ _ found'
    have owner : row'.companyId = ctx.companyId := (congrArg Prod.fst alike).trans company
    have aimed : row'.targetRefundPayoutId = some payoutId :=
      (congrArg (fun a => a.2.1) alike).trans target
    rw [← key] at found' ⊢
    rw [← owner]
    exact ⟨trivial, ⟨.supersede granted row' payoutId found' (stays approved) aimed,
      fun _ _ => granted⟩, rest _⟩

theorem safe_approveCorrection (rollupId id : Id) (dto : DecideCorrectionDto)
    (granted : approvals) :
    (workflow approvals).Safe (Corrections.approve ctx rollupId id dto) db := by
  unfold Corrections.approve
  apply moves_loadCorrection
  intro correction db₁ _ present company
  have key : correction.id = id := Table.key_of_find? _ _ _ present
  rw [← key] at present
  apply Discipline.safe_liftExcept
  intro _ _
  apply moves_read
  intro db₂ later₁
  apply Discipline.safe_liftExcept
  intro _ _
  apply moves_commit
  · intro db₃ _ db₄ done
    obtain ⟨row, found, -, requested, free, rfl⟩ := writeDecision_ok _ _ _ _ _ _ done
    have same : row.id = correction.id := Table.key_of_find? _ _ _ found
    rw [← same] at found ⊢
    refine .decide row _ (decided_id ctx .approved) found requested (fun _ => rfl)
      (.inr ⟨granted, fun _ => rfl, ?_⟩)
    intro other member approved aimed alike
    have distinct : other.id ≠ row.id := by
      intro equal
      obtain rfl := Table.key_injective _ _ _ member (Table.mem_of_find? _ _ _ found) equal
      rw [requested] at approved
      cases approved
    have taken : targetTaken db₃ .refundPayout (decided ctx .approved row) = true :=
      decide_eq_true ⟨Option.isSome_iff_ne_none.mpr aimed, (Table.any_eq_true _ _).mpr
        ⟨other, member, decide_eq_true ⟨distinct, approved, alike⟩⟩⟩
    rw [free rfl] at taken
    cases taken
  · intro db₃ db₄ later₂ done
    obtain ⟨row, found, -, -, -, rfl⟩ := writeDecision_ok _ _ _ _ _ _ done
    obtain ⟨row', found', same, -⟩ := (later₁.trans later₂).correction _ _ present
    obtain rfl : row' = row := Option.some.inj (found'.symm.trans found)
    refine moves_supersedeTarget approvals ctx _ granted correction (decided ctx .approved row') _
      ?_ rfl same company ?_
    · rw [Table.find?_update, if_pos rfl, found]
      rfl
    · intro db₅
      apply moves_recompute
      exact fun db₆ => safe_loadCorrection approvals ctx db₆ id

end Corrections

theorem safe_createSale (ctx : Ctx) (has : Permission → Bool)
    (ids : Sales.SaleIds) (dto : Sales.CreateSaleDto) (db : Db) :
    (workflow approvals).Safe (Sales.createSale ctx has ids dto) db := by
  unfold Sales.createSale
  apply Discipline.safe_expect
  intro branchId _
  apply Discipline.safe_expect
  intro userId _
  apply moves_read
  intro db₁ _
  split
  · exact (workflow approvals).safe_pure _ _
  · apply Discipline.safe_require
    intro _
    apply moves_read
    intro db₂ _
    apply Discipline.safe_liftExcept
    intro draft drafted
    apply Discipline.safe_transact
    · intro db₃ _ _ db₄ sale done
      rw [except_mapError_ok] at done
      have totals := Sales.draftSale_totals _ _ _ _ _ _ drafted
      have filled := Sales.draftSale_filled _ _ _ _ _ _ drafted
      have enters := Sales.writeSale_enters _ _ _ _ _ _ _ _ _ totals filled done
      exact ⟨trivial, ⟨.sell _ sale db₄ enters, fun _ marked => by cases marked⟩,
        (workflow approvals).safe_pure _ _⟩
    · exact fun db₃ => ⟨.refl approvals db₃, fun _ marked => by cases marked⟩

/-- The requests of the workflow, the sales, and whatever writes neither. -/
inductive Issued (approvals : Prop) : Request Unit → Prop
  | elsewhere (update : Db → Db) (kept : ∀ db, Elsewhere db (update db)) :
      Issued approvals (.execute .other update)
  | createSale (ctx : Ctx) (has : Permission → Bool) (ids : Sales.SaleIds)
      (dto : Sales.CreateSaleDto) : Issued approvals (Sales.createSale ctx has ids dto).void
  | create (first : Lookup RefundPayout) (ctx : Ctx) (id : Id) (dto : CreateReturnRequestDto) :
      Issued approvals (create first ctx id dto).void
  | receiveCustody (first : Lookup RefundPayout) (ctx : Ctx) (id : Id) (dto : ReceiveCustodyDto) :
      Issued approvals (receiveCustody first ctx id dto).void
  | investigate (first : Lookup RefundPayout) (ctx : Ctx) (id : Id) (dto : InvestigateDto) :
      Issued approvals (investigate first ctx id dto).void
  | addAdjustment (first : Lookup RefundPayout) (ctx : Ctx) (id adjustmentId : Id)
      (dto : AdjustmentDto) : Issued approvals (addAdjustment first ctx id adjustmentId dto).void
  | removeAdjustment (first : Lookup RefundPayout) (ctx : Ctx) (id adjustmentId : Id)
      (expectedVersion : Nat) :
      Issued approvals (removeAdjustment first ctx id adjustmentId expectedVersion).void
  | approve (first : Lookup RefundPayout) (ctx : Ctx) (has : Permission → Bool)
      (ids : ApprovalIds) (id : Id) (dto : ApproveReturnDto) :
      Issued approvals (approve first ctx has ids id dto).void
  | reject (first : Lookup RefundPayout) (ctx : Ctx) (id : Id) (dto : RejectReturnDto) :
      Issued approvals (reject first ctx id dto).void
  | reportRefund (first : Lookup RefundPayout) (ctx : Ctx) (id payoutId : Id)
      (dto : ReportRefundDto) : Issued approvals (reportRefund first ctx id payoutId dto).void
  | correctRefund (first : Lookup RefundPayout) (ctx : Ctx) (id : Id) (dto : CorrectRefundDto) :
      Issued approvals (correctRefund first ctx id dto).void
  | confirmRefund (first : Lookup RefundPayout) (ctx : Ctx) (rollupId id : Id)
      (dto : ConfirmRefundDto) : Issued approvals (confirmRefund first ctx rollupId id dto).void
  | requestCorrection (ctx : Ctx) (id : Id) (dto : Corrections.RequestCorrectionDto) :
      Issued approvals (Corrections.request ctx id dto).void
  | approveCorrection (granted : approvals) (ctx : Ctx) (rollupId id : Id)
      (dto : Corrections.DecideCorrectionDto) :
      Issued approvals (Corrections.approve ctx rollupId id dto).void
  | rejectCorrection (ctx : Ctx) (id : Id) (dto : Corrections.DecideCorrectionDto) :
      Issued approvals (Corrections.reject ctx id dto).void

theorem Issued.safe {approvals : Prop} {p : Request Unit} (issued : Issued approvals p) (db : Db) :
    (workflow approvals).Safe p db := by
  cases issued with
  | elsewhere update kept =>
      exact fun db₁ _ _ => ⟨trivial, guar_other (.elsewhere _ (kept db₁)), trivial⟩
  | createSale ctx has ids dto =>
      exact (workflow approvals).safe_void _ _ (safe_createSale approvals ctx has ids dto db)
  | create first ctx id dto =>
      exact (workflow approvals).safe_void _ _ (safe_create approvals first ctx db id dto)
  | receiveCustody first ctx id dto =>
      exact (workflow approvals).safe_void _ _ (safe_receiveCustody approvals first ctx db id dto)
  | investigate first ctx id dto =>
      exact (workflow approvals).safe_void _ _ (safe_investigate approvals first ctx db id dto)
  | addAdjustment first ctx id adjustmentId dto =>
      exact (workflow approvals).safe_void _ _
        (safe_addAdjustment approvals first ctx db id adjustmentId dto)
  | removeAdjustment first ctx id adjustmentId expectedVersion =>
      exact (workflow approvals).safe_void _ _
        (safe_removeAdjustment approvals first ctx db id adjustmentId expectedVersion)
  | approve first ctx has ids id dto =>
      exact (workflow approvals).safe_void _ _
        (safe_approve approvals first ctx db has ids id dto)
  | reject first ctx id dto =>
      exact (workflow approvals).safe_void _ _ (safe_reject approvals first ctx db id dto)
  | reportRefund first ctx id payoutId dto =>
      exact (workflow approvals).safe_void _ _
        (safe_reportRefund approvals first ctx db id payoutId dto)
  | correctRefund first ctx id dto =>
      exact (workflow approvals).safe_void _ _ (safe_correctRefund approvals first ctx db id dto)
  | confirmRefund first ctx rollupId id dto =>
      exact (workflow approvals).safe_void _ _
        (safe_confirmRefund approvals first ctx db rollupId id dto)
  | requestCorrection ctx id dto =>
      exact (workflow approvals).safe_void _ _ (safe_requestCorrection approvals ctx db id dto)
  | approveCorrection granted ctx rollupId id dto =>
      exact (workflow approvals).safe_void _ _
        (safe_approveCorrection approvals ctx db rollupId id dto granted)
  | rejectCorrection ctx id dto =>
      exact (workflow approvals).safe_void _ _ (safe_rejectCorrection approvals ctx db id dto)

abbrev WorkflowRun : Config Db Mark Refusal Unit → Config Db Mark Refusal Unit → Prop :=
  Run (Issued True) anyOrder

theorem run_workflow (db : Db) (c : Config Db Mark Refusal Unit)
    (run : WorkflowRun (.idle db) c) : (workflow True).Sound c :=
  (workflow True).run_sound (Issued True) anyOrder (fun _ issued db' _ => issued.safe db')
    (fun _ _ _ _ _ _ moved => moved.1.later) _ _ run ((workflow True).sound_idle db trivial)

theorem step_moves (c c' : Config Db Mark Refusal Unit) (sound : (workflow True).Sound c)
    (taken : Step (Issued True) anyOrder c c') : Movement True c.store c'.store := by
  cases taken with
  | arrive s inFlight p issued => exact .refl True s
  | advance s before after m write next others => exact sound.guar.1

theorem run_keeps (kept : Db → Prop)
    (step : ∀ db db', Movement True db db' → kept db → kept db') (db : Db)
    (c : Config Db Mark Refusal Unit) (run : WorkflowRun (.idle db) c) (start : kept db) :
    kept c.store := by
  induction run with
  | refl => exact start
  | tail earlier last ih =>
      exact step _ _ (step_moves _ _ (run_workflow db _ earlier) last) ih

end ErpBackend.Returns
