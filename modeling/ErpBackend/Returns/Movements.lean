import ErpBackend.Returns.Payouts
import ErpBackend.Sales.Books

/-!
# What one statement of the workflow does

Every statement of the returns and the corrections is one of these movements; the
invariants of the workflow are read off them. Sales go on beside it, and so does
whatever writes neither. `approvals` says whether a correction may be approved.
-/

namespace ErpBackend.Returns

open Foundation Inventory

def lineage (request : ReturnRequest) : Id × Id × Id × Id × Id :=
  (request.companyId, request.branchId, request.saleId, request.saleItemId, request.unitId)

def purpose (payout : RefundPayout) : Id × Id × Id :=
  (payout.companyId, payout.returnRequestId, payout.returnReversalId)

def aim (correction : FinancialCorrection) : Id × Option Id × Option Id :=
  (correction.companyId, correction.targetRefundPayoutId, correction.targetSupplierSettlementId)

def Handled (before after : Table ReturnRequest ReturnRequest.id) : Prop :=
  ∀ id, (after.find? id).map lineage = (before.find? id).map lineage

theorem Handled.refl (requests : Table ReturnRequest ReturnRequest.id) :
    Handled requests requests := fun _ => rfl

theorem Handled.update (requests : Table ReturnRequest ReturnRequest.id) (id : Id)
    (f : ReturnRequest → ReturnRequest) (keep : ∀ row, (f row).id = row.id)
    (same : ∀ row, lineage (f row) = lineage row) :
    Handled requests (requests.update id f keep) := by
  intro other
  rw [Table.find?_update]
  split
  · next equal =>
    rw [equal, Option.map_map]
    exact congrArg (fun g => (requests.find? id).map g) (funext same)
  · rfl

/-- A statement that writes neither the workflow's tables nor the sales. -/
structure Elsewhere (db db' : Db) : Prop where
  requests : db'.returnRequests = db.returnRequests
  reversals : db'.returnReversals = db.returnReversals
  payouts : db'.refundPayouts = db.refundPayouts
  corrections : db'.financialCorrections = db.financialCorrections
  sales : db'.sales = db.sales
  lines : db'.saleItems = db.saleItems

inductive Movement (approvals : Prop) (db : Db) : Db → Prop
  | elsewhere (db' : Db) (kept : Elsewhere db db') : Movement approvals db db'
  | sell (saleDiscount : Int) (sale : Sale) (db' : Db)
      (enters : Sales.Enters saleDiscount db sale db') : Movement approvals db db'
  | handle (returnRequests : Table ReturnRequest ReturnRequest.id)
      (units : Table StockUnit StockUnit.id)
      (returnAdjustments : Table ReturnAdjustment ReturnAdjustment.id)
      (dailyRollups : Table DailyRollup DailyRollup.id)
      (handled : Handled db.returnRequests returnRequests) :
      Movement approvals db { db with returnRequests, units, returnAdjustments, dailyRollups }
  | raise (request : ReturnRequest) (item : SaleItem)
      (returnRequests : Table ReturnRequest ReturnRequest.id)
      (units : Table StockUnit StockUnit.id)
      (line : db.saleItems.find? request.saleItemId = some item)
      (sale : item.saleId = request.saleId) (phone : item.unitId ≠ none)
      (inserted : db.returnRequests.insert? request = some returnRequests) :
      Movement approvals db { db with returnRequests, units }
  | reverse (reversal : ReturnReversal) (request : ReturnRequest) (item : SaleItem)
      (returnRequests : Table ReturnRequest ReturnRequest.id)
      (returnReversals : Table ReturnReversal ReturnReversal.id)
      (units : Table StockUnit StockUnit.id)
      (handled : Handled db.returnRequests returnRequests)
      (requested : db.returnRequests.find? reversal.returnRequestId = some request)
      (sale : request.saleId = reversal.saleId)
      (claimed : request.saleItemId = reversal.saleItemId)
      (line : db.saleItems.find? reversal.saleItemId = some item)
      (gross : reversal.grossRefund = grossRefundOf item)
      (nonneg : 0 ≤ reversal.grossRefund)
      (fits : 0 ≤ reversal.adjustmentTotal)
      (net : reversal.netRefundDue = reversal.grossRefund - reversal.adjustmentTotal)
      (cost : reversal.lineCost = item.cost * item.quantity)
      (once : ∀ other ∈ db.returnReversals.rows, other.saleItemId ≠ reversal.saleItemId ∧
        other.returnRequestId ≠ reversal.returnRequestId)
      (inserted : db.returnReversals.insert? reversal = some returnReversals) :
      Movement approvals db { db with returnRequests, returnReversals, units }
  | report (payout : RefundPayout) (reversal : ReturnReversal)
      (refundPayouts : Table RefundPayout RefundPayout.id)
      (owed : db.returnReversals.find? payout.returnReversalId = some reversal)
      (own : reversal.returnRequestId = payout.returnRequestId)
      (pending : payout.status = .reportedPendingConfirmation)
      (live : payout.correctedById = none)
      (alone : ∀ other ∈ db.refundPayouts.rows, other.correctedById = none →
        other.returnRequestId ≠ payout.returnRequestId)
      (inserted : db.refundPayouts.insert? payout = some refundPayouts) :
      Movement approvals db { db with refundPayouts }
  | amend (id : Id) (f : RefundPayout → RefundPayout) (keep : ∀ row, (f row).id = row.id)
      (same : ∀ row, purpose (f row) = purpose row ∧ (f row).status = row.status ∧
        (f row).correctedById = row.correctedById) :
      Movement approvals db { db with refundPayouts := db.refundPayouts.update id f keep }
  | confirm (payout : RefundPayout) (f : RefundPayout → RefundPayout)
      (keep : ∀ row, (f row).id = row.id)
      (found : db.refundPayouts.find? payout.id = some payout)
      (pending : payout.status = .reportedPendingConfirmation)
      (same : ∀ row, purpose (f row) = purpose row ∧ (f row).status = .confirmed ∧
        (f row).correctedById = row.correctedById) :
      Movement approvals db
        { db with refundPayouts := db.refundPayouts.update payout.id f keep }
  | request (correction : FinancialCorrection)
      (financialCorrections : Table FinancialCorrection FinancialCorrection.id)
      (requested : correction.status = .requested)
      (target : ∀ payoutId, correction.targetRefundPayoutId = some payoutId →
        ∃ payout, db.refundPayouts.find? payoutId = some payout ∧
          payout.status = .confirmed ∧ payout.companyId = correction.companyId)
      (inserted : db.financialCorrections.insert? correction = some financialCorrections) :
      Movement approvals db { db with financialCorrections }
  | decide (correction : FinancialCorrection) (f : FinancialCorrection → FinancialCorrection)
      (keep : ∀ row, (f row).id = row.id)
      (found : db.financialCorrections.find? correction.id = some correction)
      (requested : correction.status = .requested)
      (same : ∀ row, aim (f row) = aim row)
      (decision : (∀ row, (f row).status = .rejected) ∨ approvals ∧
        (∀ row, (f row).status = .approved) ∧ ∀ other ∈ db.financialCorrections.rows,
          other.status = .approved → correction.targetRefundPayoutId ≠ none →
          other.targetRefundPayoutId ≠ correction.targetRefundPayoutId) :
      Movement approvals db
        { db with
          financialCorrections := db.financialCorrections.update correction.id f keep }
  | supersede (granted : approvals) (correction : FinancialCorrection) (payoutId : Id)
      (found : db.financialCorrections.find? correction.id = some correction)
      (approved : correction.status = .approved)
      (target : correction.targetRefundPayoutId = some payoutId) :
      Movement approvals db
        (Corrections.supersede correction.companyId correction.id payoutId db)

structure Later (db db' : Db) : Prop where
  request : ∀ id row, db.returnRequests.find? id = some row →
    (db'.returnRequests.find? id).map lineage = some (lineage row)
  line : ∀ id item, db.saleItems.find? id = some item → db'.saleItems.find? id = some item
  reversal : ∀ id row, db.returnReversals.find? id = some row →
    db'.returnReversals.find? id = some row
  payout : ∀ id row, db.refundPayouts.find? id = some row →
    ∃ row', db'.refundPayouts.find? id = some row' ∧ purpose row' = purpose row ∧
      (row.status = .confirmed → row'.status = .confirmed)
  correction : ∀ id row, db.financialCorrections.find? id = some row →
    ∃ row', db'.financialCorrections.find? id = some row' ∧ aim row' = aim row ∧
      (row.status = .approved → row'.status = .approved)

namespace Later

theorem congr {db db' : Db} (requests : db'.returnRequests = db.returnRequests)
    (lines : db'.saleItems = db.saleItems) (reversals : db'.returnReversals = db.returnReversals)
    (payouts : db'.refundPayouts = db.refundPayouts)
    (corrections : db'.financialCorrections = db.financialCorrections) : Later db db' where
  request id row found := by rw [requests, found]; rfl
  line id item found := by rw [lines]; exact found
  reversal id row found := by rw [reversals]; exact found
  payout id row found := ⟨row, by rw [payouts]; exact found, rfl, fun same => same⟩
  correction id row found := ⟨row, by rw [corrections]; exact found, rfl, fun same => same⟩

theorem refl (db : Db) : Later db db := congr rfl rfl rfl rfl rfl

theorem trans {db db' db'' : Db} (first : Later db db') (second : Later db' db'') :
    Later db db'' where
  request id row found := by
    obtain ⟨row', found', same⟩ := Option.map_eq_some_iff.mp (first.request id row found)
    rw [second.request id row' found', same]
  line id item found := second.line id item (first.line id item found)
  reversal id row found := second.reversal id row (first.reversal id row found)
  payout id row found := by
    obtain ⟨row', found', same', kept'⟩ := first.payout id row found
    obtain ⟨row'', found'', same'', kept''⟩ := second.payout id row' found'
    exact ⟨row'', found'', same''.trans same', fun status => kept'' (kept' status)⟩
  correction id row found := by
    obtain ⟨row', found', same', kept'⟩ := first.correction id row found
    obtain ⟨row'', found'', same'', kept''⟩ := second.correction id row' found'
    exact ⟨row'', found'', same''.trans same', fun status => kept'' (kept' status)⟩

theorem of_request {db : Db} {returnRequests : Table ReturnRequest ReturnRequest.id}
    (request : ∀ id row, db.returnRequests.find? id = some row →
      (returnRequests.find? id).map lineage = some (lineage row)) :
    Later db { db with returnRequests } :=
  { refl db with request }

theorem of_payout {db : Db} {refundPayouts : Table RefundPayout RefundPayout.id}
    (payout : ∀ id row, db.refundPayouts.find? id = some row →
      ∃ row', refundPayouts.find? id = some row' ∧ purpose row' = purpose row ∧
        (row.status = .confirmed → row'.status = .confirmed)) :
    Later db { db with refundPayouts } :=
  { refl db with payout }

theorem of_correction {db : Db}
    {financialCorrections : Table FinancialCorrection FinancialCorrection.id}
    (correction : ∀ id row, db.financialCorrections.find? id = some row →
      ∃ row', financialCorrections.find? id = some row' ∧ aim row' = aim row ∧
        (row.status = .approved → row'.status = .approved)) :
    Later db { db with financialCorrections } :=
  { refl db with correction }

end Later

theorem Handled.later {before after : Table ReturnRequest ReturnRequest.id}
    (handled : Handled before after) (id : Id) (row : ReturnRequest)
    (found : before.find? id = some row) :
    (after.find? id).map lineage = some (lineage row) := by
  rw [handled id, found]
  rfl

theorem kept_line {before after : Table SaleItem SaleItem.id} {items : List SaleItem}
    (listed : after.rows = before.rows ++ items) (id : Id) (item : SaleItem)
    (found : before.find? id = some item) : after.find? id = some item := by
  obtain ⟨member, key⟩ := (Table.find?_some _ _ _).mp found
  apply (Table.find?_some _ _ _).mpr
  rw [listed]
  exact ⟨List.mem_append_left _ member, key⟩

theorem Movement.later {approvals : Prop} {db db' : Db} (moved : Movement approvals db db') :
    Later db db' := by
  cases moved with
  | elsewhere _ kept =>
      exact .congr kept.requests kept.lines kept.reversals kept.payouts kept.corrections
  | sell saleDiscount sale _ enters =>
      cases enters with
      | enter items _ _ _ saleItems _ _ _ _ _ listed =>
        exact { Later.refl db with line := fun id item found => kept_line listed id item found }
  | handle returnRequests units returnAdjustments dailyRollups handled =>
      exact (Later.of_request handled.later).trans (.congr rfl rfl rfl rfl rfl)
  | raise request item returnRequests units line sale phone inserted =>
      refine (Later.of_request ?_).trans (.congr rfl rfl rfl rfl rfl)
      intro id row found
      rw [Table.find?_insert_of_found _ _ _ inserted id row found]
      rfl
  | reverse reversal request item returnRequests returnReversals units handled requested sale
      claimed line gross nonneg fits net cost once inserted =>
      exact
        { Later.refl db with
          request := handled.later
          reversal := Table.find?_insert_of_found _ _ _ inserted }
  | report payout reversal refundPayouts owed own pending live alone inserted =>
      apply Later.of_payout
      intro id row found
      exact ⟨row, Table.find?_insert_of_found _ _ _ inserted id row found, rfl, fun same => same⟩
  | amend id f keep same =>
      apply Later.of_payout
      intro other row found
      refine ⟨_, Table.find?_update_of_found _ _ _ _ _ _ found, ?_⟩
      obtain ⟨kept, status, -⟩ := same row
      split
      · exact ⟨kept, fun confirmed => status.trans confirmed⟩
      · exact ⟨rfl, fun confirmed => confirmed⟩
  | confirm payout f keep found pending same =>
      apply Later.of_payout
      intro other row present
      refine ⟨_, Table.find?_update_of_found _ _ _ _ _ _ present, ?_⟩
      obtain ⟨kept, status, -⟩ := same row
      split
      · exact ⟨kept, fun _ => status⟩
      · exact ⟨rfl, fun confirmed => confirmed⟩
  | request correction financialCorrections requested target inserted =>
      apply Later.of_correction
      intro id row found
      exact ⟨row, Table.find?_insert_of_found _ _ _ inserted id row found, rfl, fun same => same⟩
  | decide correction f keep found requested same decision =>
      apply Later.of_correction
      intro other row present
      refine ⟨_, Table.find?_update_of_found _ _ _ _ _ _ present, ?_⟩
      split
      · next equal =>
        rw [equal, found] at present
        cases present
        refine ⟨same _, fun approved => ?_⟩
        rw [requested] at approved
        cases approved
      · exact ⟨rfl, fun approved => approved⟩
  | supersede granted correction payoutId found approved target =>
      apply Later.of_payout
      intro other row present
      refine ⟨_, by rw [Table.find?_modify, present]; rfl, ?_⟩
      dsimp only
      split
      · exact ⟨rfl, fun confirmed => confirmed⟩
      · exact ⟨rfl, fun confirmed => confirmed⟩

end ErpBackend.Returns
