import ErpBackend.Returns.Safety

/-!
# The refund liability

What is owed is nowhere stored. Between the two statements of an approved correction
a payout is corrected and not yet marked so; whether a reversal is owed is read off the
corrections, whether a payout stands in the way of another off the marks.
-/

namespace ErpBackend.Returns

open Foundation Inventory

section Origins

variable {approvals : Prop} {db db' : Db} (moved : Movement approvals db db')

include moved

theorem Movement.reversal_origin (id : Id) (row : ReturnReversal)
    (found : db'.returnReversals.find? id = some row) :
    db.returnReversals.find? id = some row ∨
      (∃ request item, db.returnRequests.find? row.returnRequestId = some request ∧
        request.saleId = row.saleId ∧ request.saleItemId = row.saleItemId ∧
        db.saleItems.find? row.saleItemId = some item ∧ row.grossRefund = grossRefundOf item ∧
        0 ≤ row.grossRefund ∧ 0 ≤ row.adjustmentTotal ∧
        row.netRefundDue = row.grossRefund - row.adjustmentTotal) ∧
      ∀ k other, db'.returnReversals.find? k = some other → k ≠ id →
        other.saleItemId ≠ row.saleItemId ∧ other.returnRequestId ≠ row.returnRequestId := by
  cases moved with
  | elsewhere _ kept => exact .inl (by rw [← kept.reversals]; exact found)
  | sell saleDiscount sale _ enters => cases enters; exact .inl found
  | reverse reversal request item returnRequests returnReversals units handled requested sale
      claimed line gross nonneg fits net cost once inserted =>
      rw [Table.find?_insert _ _ _ inserted] at found
      split at found
      · next new =>
        cases found
        refine .inr ⟨⟨request, item, requested, sale, claimed, line, gross, nonneg, fits, net⟩,
          fun k other present apart => ?_⟩
        rw [Table.find?_insert _ _ _ inserted, if_neg (new ▸ apart)] at present
        exact once other (Table.mem_of_find? _ _ _ present)
      · exact .inl found
  | _ => exact .inl found

theorem Movement.request_origin (id : Id) (row' : ReturnRequest)
    (found : db'.returnRequests.find? id = some row') :
    (∃ row, db.returnRequests.find? id = some row ∧ lineage row' = lineage row) ∨
      ∃ item, db.saleItems.find? row'.saleItemId = some item ∧ item.saleId = row'.saleId ∧
        item.unitId ≠ none := by
  have before : ∀ returnRequests : Table ReturnRequest ReturnRequest.id,
      Handled db.returnRequests returnRequests → returnRequests.find? id = some row' →
      ∃ row, db.returnRequests.find? id = some row ∧ lineage row' = lineage row := by
    intro returnRequests handled present
    have same := handled id
    rw [present, Option.map_some] at same
    obtain ⟨row, stored, alike⟩ := Option.map_eq_some_iff.mp same.symm
    exact ⟨row, stored, alike.symm⟩
  cases moved with
  | elsewhere _ kept => exact .inl ⟨row', by rw [← kept.requests]; exact found, rfl⟩
  | sell saleDiscount sale _ enters => cases enters; exact .inl ⟨row', found, rfl⟩
  | handle returnRequests units returnAdjustments dailyRollups handled =>
      exact .inl (before returnRequests handled found)
  | reverse reversal request item returnRequests returnReversals units handled =>
      exact .inl (before returnRequests handled found)
  | raise request item returnRequests units line sale phone inserted =>
      rw [Table.find?_insert _ _ _ inserted] at found
      split at found
      · cases found
        exact .inr ⟨item, line, sale, phone⟩
      · exact .inl ⟨row', found, rfl⟩
  | _ => exact .inl ⟨row', found, rfl⟩

theorem Movement.payout_origin (id : Id) (row' : RefundPayout)
    (found : db'.refundPayouts.find? id = some row') :
    (∃ row, db.refundPayouts.find? id = some row ∧ purpose row' = purpose row ∧
      (row'.correctedById = row.correctedById ∨ approvals ∧ ∃ correction,
        row'.correctedById = some correction.id ∧ correction.status = .approved ∧
        db.financialCorrections.find? correction.id = some correction ∧
        correction.targetRefundPayoutId = some id)) ∨
    (row'.correctedById = none ∧ row'.status = .reportedPendingConfirmation ∧
      (∃ reversal, db.returnReversals.find? row'.returnReversalId = some reversal ∧
        reversal.returnRequestId = row'.returnRequestId) ∧
      ∀ k other, db'.refundPayouts.find? k = some other → k ≠ id → other.correctedById = none →
        other.returnRequestId ≠ row'.returnRequestId) := by
  cases moved with
  | elsewhere _ kept =>
      rw [kept.payouts] at found
      exact .inl ⟨row', found, rfl, .inl rfl⟩
  | sell saleDiscount sale _ enters => cases enters; exact .inl ⟨row', found, rfl, .inl rfl⟩
  | report payout reversal refundPayouts owed own pending live alone inserted =>
      rw [Table.find?_insert _ _ _ inserted] at found
      split at found
      · next new =>
        cases found
        refine .inr ⟨live, pending, ⟨reversal, owed, own⟩, fun k other present apart => ?_⟩
        rw [Table.find?_insert _ _ _ inserted, if_neg (new ▸ apart)] at present
        exact alone other (Table.mem_of_find? _ _ _ present)
      · exact .inl ⟨row', found, rfl, .inl rfl⟩
  | amend k f keep same =>
      obtain ⟨row, present, rfl⟩ := Table.find?_update_some _ _ f keep _ _ found
      refine .inl ⟨row, present, ?_⟩
      split
      · exact ⟨(same row).1, .inl (same row).2.2⟩
      · exact ⟨rfl, .inl rfl⟩
  | confirm payout f keep present pending same =>
      obtain ⟨row, stored, rfl⟩ := Table.find?_update_some _ _ f keep _ _ found
      refine .inl ⟨row, stored, ?_⟩
      split
      · exact ⟨(same row).1, .inl (same row).2.2⟩
      · exact ⟨rfl, .inl rfl⟩
  | supersede granted correction payoutId present approved target =>
      unfold Corrections.supersede at found
      rw [Table.find?_modify] at found
      obtain ⟨row, stored, rfl⟩ := Option.map_eq_some_iff.mp found
      refine .inl ⟨row, stored, ?_⟩
      split
      · next passed =>
        obtain ⟨-, named, -⟩ := of_decide_eq_true passed
        have key : row.id = id := Table.key_of_find? _ _ _ stored
        exact ⟨rfl, .inr ⟨granted, correction, rfl, approved, present, by
          rw [target, ← named, key]⟩⟩
      · exact ⟨rfl, .inl rfl⟩
  | _ => exact .inl ⟨row', found, rfl, .inl rfl⟩

/-- A correction in the store was there before, approved now only if no other one with
its target is, or it is a new request. -/
theorem Movement.correction_origin (id : Id) (row' : FinancialCorrection)
    (found : db'.financialCorrections.find? id = some row') :
    (∃ row, db.financialCorrections.find? id = some row ∧ aim row' = aim row ∧
      (row'.status = .approved → row.status = .approved ∨ approvals ∧
        ∀ k other payoutId, db'.financialCorrections.find? k = some other → k ≠ id →
          other.status = .approved → row'.targetRefundPayoutId = some payoutId →
          other.targetRefundPayoutId ≠ some payoutId)) ∨
    (row'.status = .requested ∧ ∀ payoutId, row'.targetRefundPayoutId = some payoutId →
      ∃ payout, db.refundPayouts.find? payoutId = some payout ∧
        payout.status = .confirmed ∧ payout.companyId = row'.companyId) := by
  cases moved with
  | elsewhere _ kept =>
      rw [kept.corrections] at found
      exact .inl ⟨row', found, rfl, .inl⟩
  | sell saleDiscount sale _ enters => cases enters; exact .inl ⟨row', found, rfl, .inl⟩
  | request correction financialCorrections requested target inserted =>
      rw [Table.find?_insert _ _ _ inserted] at found
      split at found
      · cases found
        exact .inr ⟨requested, target⟩
      · exact .inl ⟨row', found, rfl, .inl⟩
  | decide correction f keep present requested same decision =>
      obtain ⟨row, stored, rfl⟩ := Table.find?_update_some _ _ f keep _ _ found
      refine .inl ⟨row, stored, ?_⟩
      split
      · next equal =>
        rw [equal, present] at stored
        cases stored
        refine ⟨same correction, fun approved => .inr ?_⟩
        rcases decision with rejected | ⟨granted, -, free⟩
        · rw [rejected correction] at approved
          cases approved
        · refine ⟨granted, ?_⟩
          intro k other payoutId stored apart taken aimed
          rw [Table.find?_update, if_neg (equal ▸ apart)] at stored
          have target : correction.targetRefundPayoutId = some payoutId :=
            (congrArg (fun a => a.2.1) (same correction)).symm.trans aimed
          have differs := free other (Table.mem_of_find? _ _ _ stored) taken (by simp [target])
          rw [target] at differs
          exact differs
      · exact ⟨rfl, .inl⟩
  | _ => exact .inl ⟨row', found, rfl, .inl⟩

end Origins

def Corrects (db : Db) (id payoutId : Id) : Prop :=
  ∃ correction, db.financialCorrections.find? id = some correction ∧
    correction.status = .approved ∧ correction.targetRefundPayoutId = some payoutId

def Corrected (db : Db) (payoutId : Id) : Prop := ∃ id, Corrects db id payoutId

def PaidFor (db : Db) (returnId payoutId : Id) (payout : RefundPayout) : Prop :=
  db.refundPayouts.find? payoutId = some payout ∧ payout.returnRequestId = returnId

structure Orderly (db : Db) : Prop where
  reversed : ∀ a b left right, db.returnReversals.find? a = some left →
    db.returnReversals.find? b = some right → left.returnRequestId = right.returnRequestId → a = b
  owed : ∀ id payout, db.refundPayouts.find? id = some payout →
    ∃ reversal, db.returnReversals.find? payout.returnReversalId = some reversal ∧
      reversal.returnRequestId = payout.returnRequestId
  live : ∀ returnId a b left right, PaidFor db returnId a left → PaidFor db returnId b right →
    left.correctedById = none → right.correctedById = none → a = b
  marked : ∀ id payout k, db.refundPayouts.find? id = some payout →
    payout.correctedById = some k → Corrects db k id
  target : ∀ id correction payoutId, db.financialCorrections.find? id = some correction →
    correction.targetRefundPayoutId = some payoutId →
    ∃ payout, db.refundPayouts.find? payoutId = some payout ∧ payout.status = .confirmed ∧
      payout.companyId = correction.companyId
  once : ∀ a b payoutId, Corrects db a payoutId → Corrects db b payoutId → a = b

theorem Later.corrects {db db' : Db} (later : Later db db') (id payoutId : Id)
    (corrects : Corrects db id payoutId) : Corrects db' id payoutId := by
  obtain ⟨correction, found, approved, target⟩ := corrects
  obtain ⟨row, found', same, stays⟩ := later.correction id correction found
  exact ⟨row, found', stays approved, (congrArg (fun a => a.2.1) same).trans target⟩

theorem Later.corrected {db db' : Db} (later : Later db db') (payoutId : Id)
    (corrected : Corrected db payoutId) : Corrected db' payoutId := by
  obtain ⟨id, corrects⟩ := corrected
  exact ⟨id, later.corrects id payoutId corrects⟩

variable {db : Db}

namespace Orderly

theorem corrected_confirmed (orderly : Orderly db) (payoutId : Id)
    (corrected : Corrected db payoutId) :
    ∃ payout, db.refundPayouts.find? payoutId = some payout ∧ payout.status = .confirmed := by
  obtain ⟨id, correction, found, -, target⟩ := corrected
  obtain ⟨payout, stored, confirmed, -⟩ := orderly.target id correction payoutId found target
  exact ⟨payout, stored, confirmed⟩

theorem live_of_standing (orderly : Orderly db) (id : Id) (payout : RefundPayout)
    (found : db.refundPayouts.find? id = some payout) (standing : ¬ Corrected db id) :
    payout.correctedById = none := by
  cases mark : payout.correctedById with
  | none => rfl
  | some k => exact absurd ⟨k, orderly.marked id payout k found mark⟩ standing

variable {approvals : Prop} {db db' : Db}

theorem step_reversed (orderly : Orderly db) (moved : Movement approvals db db')
    (a b : Id) (left right : ReturnReversal)
    (foundLeft : db'.returnReversals.find? a = some left)
    (foundRight : db'.returnReversals.find? b = some right)
    (same : left.returnRequestId = right.returnRequestId) : a = b := by
  by_contra apart
  rcases moved.reversal_origin a left foundLeft with before | ⟨-, alone⟩
  · rcases moved.reversal_origin b right foundRight with before' | ⟨-, alone⟩
    · exact apart (orderly.reversed a b left right before before' same)
    · exact (alone a left foundLeft apart).2 same
  · exact (alone b right foundRight (Ne.symm apart)).2 same.symm

theorem step_live (orderly : Orderly db) (moved : Movement approvals db db')
    (returnId a b : Id) (left right : RefundPayout) (paidLeft : PaidFor db' returnId a left)
    (paidRight : PaidFor db' returnId b right) (liveLeft : left.correctedById = none)
    (liveRight : right.correctedById = none) : a = b := by
  obtain ⟨foundLeft, forLeft⟩ := paidLeft
  obtain ⟨foundRight, forRight⟩ := paidRight
  by_contra apart
  rcases moved.payout_origin a left foundLeft with
    ⟨row, found, same, kept | ⟨-, _, marked, -⟩⟩ | ⟨-, -, -, alone⟩
  · rcases moved.payout_origin b right foundRight with
      ⟨row', found', same', kept' | ⟨-, _, marked, -⟩⟩ | ⟨-, -, -, alone⟩
    · have own : row.returnRequestId = returnId :=
        (congrArg (fun p => p.2.1) same).symm.trans forLeft
      have own' : row'.returnRequestId = returnId :=
        (congrArg (fun p => p.2.1) same').symm.trans forRight
      exact apart (orderly.live returnId a b row row' ⟨found, own⟩ ⟨found', own'⟩
        (kept.symm.trans liveLeft) (kept'.symm.trans liveRight))
    · rw [liveRight] at marked
      cases marked
    · exact alone a left foundLeft apart liveLeft (forLeft.trans forRight.symm)
  · rw [liveLeft] at marked
    cases marked
  · exact alone b right foundRight (Ne.symm apart) liveRight (forRight.trans forLeft.symm)

theorem step_once (orderly : Orderly db) (moved : Movement approvals db db')
    (a b payoutId : Id) (correctsLeft : Corrects db' a payoutId)
    (correctsRight : Corrects db' b payoutId) : a = b := by
  obtain ⟨left, foundLeft, approvedLeft, aimedLeft⟩ := correctsLeft
  obtain ⟨right, foundRight, approvedRight, aimedRight⟩ := correctsRight
  by_contra apart
  rcases moved.correction_origin a left foundLeft with
    ⟨row, found, same, approval⟩ | ⟨requested, -⟩
  · rcases approval approvedLeft with approved | ⟨-, free⟩
    · rcases moved.correction_origin b right foundRight with
        ⟨row', found', same', approval'⟩ | ⟨requested, -⟩
      · rcases approval' approvedRight with approved' | ⟨-, free⟩
        · have aimed : row.targetRefundPayoutId = some payoutId :=
            (congrArg (fun c => c.2.1) same).symm.trans aimedLeft
          have aimed' : row'.targetRefundPayoutId = some payoutId :=
            (congrArg (fun c => c.2.1) same').symm.trans aimedRight
          exact apart (orderly.once a b payoutId ⟨row, found, approved, aimed⟩
            ⟨row', found', approved', aimed'⟩)
        · exact free a left payoutId foundLeft apart approvedLeft aimedRight aimedLeft
      · rw [approvedRight] at requested
        cases requested
    · exact free b right payoutId foundRight (Ne.symm apart) approvedRight aimedLeft aimedRight
  · rw [approvedLeft] at requested
    cases requested

theorem step (orderly : Orderly db) (moved : Movement approvals db db') : Orderly db' where
  reversed := orderly.step_reversed moved
  live := orderly.step_live moved
  once := orderly.step_once moved
  owed id payout found := by
    rcases moved.payout_origin id payout found with ⟨row, stored, same, -⟩ | ⟨-, -, owed, -⟩
    · obtain ⟨reversal, present, own⟩ := orderly.owed id row stored
      obtain ⟨-, request, reversal'⟩ := Prod.mk.inj same |>.imp_right Prod.mk.inj
      exact ⟨reversal, by rw [reversal']; exact moved.later.reversal _ _ present,
        by rw [request]; exact own⟩
    · obtain ⟨reversal, present, own⟩ := owed
      exact ⟨reversal, moved.later.reversal _ _ present, own⟩
  marked id payout k found marked := by
    rcases moved.payout_origin id payout found with
      ⟨row, stored, -, kept | ⟨-, correction, own, approved, present, target⟩⟩ |
        ⟨unmarked, -⟩
    · exact moved.later.corrects k id (orderly.marked id row k stored (kept.symm.trans marked))
    · rw [marked] at own
      cases own
      exact moved.later.corrects _ id ⟨correction, present, approved, target⟩
    · rw [unmarked] at marked
      cases marked
  target id correction payoutId found aimed := by
    have before : ∃ payout, db.refundPayouts.find? payoutId = some payout ∧
        payout.status = .confirmed ∧ payout.companyId = correction.companyId := by
      rcases moved.correction_origin id correction found with ⟨row, stored, same, -⟩ | ⟨-, target⟩
      · have company : correction.companyId = row.companyId := congrArg Prod.fst same
        rw [company]
        exact orderly.target id row payoutId stored
          ((congrArg (fun c => c.2.1) same).symm.trans aimed)
      · exact target payoutId aimed
    obtain ⟨payout, stored, confirmed, company⟩ := before
    obtain ⟨payout', stored', same, stays⟩ := moved.later.payout _ _ stored
    exact ⟨payout', stored', stays confirmed, (congrArg Prod.fst same).trans company⟩

end Orderly

def Owed (db : Db) (reversal : ReturnReversal) : Prop :=
  reversal ∈ outstanding db reversal.companyId reversal.branchId

/-- A confirmed payout of the return that no approved correction is about. -/
def Settled (db : Db) (returnId : Id) : Prop :=
  ∃ id payout, PaidFor db returnId id payout ∧ payout.status = .confirmed ∧ ¬ Corrected db id

theorem corrected_eq_true (db : Db) (payoutId : Id) :
    corrected db payoutId = true ↔ Corrected db payoutId := by
  unfold corrected Corrected
  rw [Table.any_eq_true]
  constructor
  · rintro ⟨correction, member, passed⟩
    obtain ⟨target, approved⟩ := of_decide_eq_true passed
    exact ⟨correction.id, correction, (Table.find?_some _ _ _).mpr ⟨member, rfl⟩, approved, target⟩
  · rintro ⟨id, correction, found, approved, target⟩
    exact ⟨correction, Table.mem_of_find? _ _ _ found, decide_eq_true ⟨target, approved⟩⟩

theorem mem_settlements (db : Db) (reversalId : Id) (payout : RefundPayout) :
    payout ∈ settlements db reversalId ↔ payout ∈ db.refundPayouts.rows ∧
      payout.returnReversalId = reversalId ∧ payout.status = .confirmed ∧
      ¬ Corrected db payout.id := by
  unfold settlements
  rw [Table.mem_filter, decide_eq_true_iff, ← corrected_eq_true, Bool.not_eq_true]

theorem Orderly.owed_iff (orderly : Orderly db) (reversal : ReturnReversal)
    (member : reversal ∈ db.returnReversals.rows) :
    Owed db reversal ↔ ¬ Settled db reversal.returnRequestId := by
  have stored : db.returnReversals.find? reversal.id = some reversal :=
    (Table.find?_some _ _ _).mpr ⟨member, rfl⟩
  have listed : Owed db reversal ↔ settlements db reversal.id = [] := by
    unfold Owed outstanding
    rw [Table.mem_filter, decide_eq_true_iff, List.isEmpty_iff]
    exact ⟨fun owed => owed.2.2.2, fun none => ⟨member, rfl, rfl, none⟩⟩
  rw [listed]
  constructor
  · rintro none ⟨id, payout, ⟨found, own⟩, confirmed, standing⟩
    obtain ⟨other, present, same⟩ := orderly.owed id payout found
    have joined : payout.returnReversalId = reversal.id :=
      orderly.reversed _ _ other reversal present stored (same.trans own)
    obtain ⟨there, key⟩ := (Table.find?_some _ _ _).mp found
    have settles : payout ∈ settlements db reversal.id :=
      (mem_settlements _ _ _).mpr ⟨there, joined, confirmed, key ▸ standing⟩
    rw [none] at settles
    cases settles
  · intro unsettled
    apply List.eq_nil_iff_forall_not_mem.mpr
    intro payout settles
    obtain ⟨there, joined, confirmed, standing⟩ := (mem_settlements _ _ _).mp settles
    have found : db.refundPayouts.find? payout.id = some payout :=
      (Table.find?_some _ _ _).mpr ⟨there, rfl⟩
    obtain ⟨other, present, same⟩ := orderly.owed payout.id payout found
    rw [joined, stored] at present
    cases present
    exact unsettled ⟨payout.id, payout, ⟨found, same.symm⟩, confirmed, standing⟩

def Clears (db db' : Db) (returnId : Id) : Prop :=
  ∃ id payout payout', PaidFor db returnId id payout ∧
    payout.status = .reportedPendingConfirmation ∧ PaidFor db' returnId id payout' ∧
    payout'.status = .confirmed

def Restores (db db' : Db) (returnId : Id) : Prop :=
  ∃ id correction correction' payoutId payout,
    db.financialCorrections.find? id = some correction ∧ correction.status ≠ .approved ∧
    db'.financialCorrections.find? id = some correction' ∧ correction'.status = .approved ∧
    correction.targetRefundPayoutId = some payoutId ∧ PaidFor db returnId payoutId payout

section Steps

variable {approvals : Prop} {db db' : Db} (orderly : Orderly db)
  (moved : Movement approvals db db') (returnId : Id)

include moved

theorem corrected_before (payoutId : Id) (payout : RefundPayout)
    (paid : PaidFor db returnId payoutId payout) (kept : ¬ Restores db db' returnId)
    (corrected : Corrected db' payoutId) : Corrected db payoutId := by
  obtain ⟨id, correction', found', approved', aimed'⟩ := corrected
  rcases moved.correction_origin id correction' found' with ⟨row, found, same, -⟩ | ⟨requested, -⟩
  · have aimed : row.targetRefundPayoutId = some payoutId :=
      (congrArg (fun c => c.2.1) same).symm.trans aimed'
    by_cases approved : row.status = .approved
    · exact ⟨id, row, found, approved, aimed⟩
    · exact absurd ⟨id, row, correction', payoutId, payout, found, approved, found', approved',
        aimed, paid⟩ kept
  · rw [approved'] at requested
    cases requested

theorem others_keep (unconfirmed : ¬ Clears db db' returnId) (kept : ¬ Restores db db' returnId) :
    Settled db' returnId ↔ Settled db returnId := by
  constructor
  · rintro ⟨id, row', ⟨found', own'⟩, confirmed, standing⟩
    rcases moved.payout_origin id row' found' with ⟨row, found, same, -⟩ | ⟨-, pending, -⟩
    · have own : row.returnRequestId = returnId :=
        (congrArg (fun p => p.2.1) same).symm.trans own'
      have before : row.status = .confirmed := by
        cases status : row.status with
        | confirmed => rfl
        | reportedPendingConfirmation =>
            exact absurd ⟨id, row, row', ⟨found, own⟩, status, ⟨found', own'⟩, confirmed⟩
              unconfirmed
      exact ⟨id, row, ⟨found, own⟩, before, fun corrected =>
        standing (moved.later.corrected id corrected)⟩
    · rw [confirmed] at pending
      cases pending
  · rintro ⟨id, row, paid, confirmed, standing⟩
    obtain ⟨row', found', same, stays⟩ := moved.later.payout id row paid.1
    exact ⟨id, row', ⟨found', (congrArg (fun p => p.2.1) same).trans paid.2⟩, stays confirmed,
      fun corrected => standing (corrected_before moved returnId id row paid kept corrected)⟩

include orderly

theorem confirmation_clears (clears : Clears db db' returnId) :
    ¬ Settled db returnId ∧ Settled db' returnId := by
  obtain ⟨id, payout, payout', paid, pending, paid', confirmed⟩ := clears
  -- A pending payout is about to settle: no correction is about it.
  have standing : ¬ Corrected db id := by
    intro corrected
    obtain ⟨other, found, status⟩ := orderly.corrected_confirmed id corrected
    rw [paid.1] at found
    cases found
    rw [pending] at status
    cases status
  constructor
  · rintro ⟨other, row, settled, status, uncorrected⟩
    have same : id = other := orderly.live returnId id other payout row paid settled
      (orderly.live_of_standing id payout paid.1 standing)
      (orderly.live_of_standing other row settled.1 uncorrected)
    rw [← same, PaidFor, paid.1] at settled
    cases settled.1
    rw [pending] at status
    cases status
  · refine ⟨id, payout', paid', confirmed, fun corrected => ?_⟩
    obtain ⟨k, correction', found', approved', aimed'⟩ := corrected
    rcases moved.correction_origin k correction' found' with ⟨row, found, same, -⟩ | ⟨requested, -⟩
    · obtain ⟨other, present, status, -⟩ := orderly.target k row id found
        ((congrArg (fun c => c.2.1) same).symm.trans aimed')
      rw [paid.1] at present
      cases present
      rw [pending] at status
      cases status
    · rw [approved'] at requested
      cases requested

theorem approval_restores (restores : Restores db db' returnId) :
    Settled db returnId ∧ ¬ Settled db' returnId := by
  obtain ⟨id, correction, correction', payoutId, payout, found, undecided, found', approved',
    aimed, paid⟩ := restores
  obtain ⟨other, present, confirmed, -⟩ := orderly.target id correction payoutId found aimed
  obtain rfl : other = payout := Option.some.inj (present.symm.trans paid.1)
  have aimed' : correction'.targetRefundPayoutId = some payoutId := by
    obtain ⟨row, stored, same, -⟩ := moved.later.correction id correction found
    rw [found'] at stored
    cases stored
    exact (congrArg (fun c => c.2.1) same).trans aimed
  have free : ∀ k other payoutId, db'.financialCorrections.find? k = some other → k ≠ id →
      other.status = .approved → correction'.targetRefundPayoutId = some payoutId →
      other.targetRefundPayoutId ≠ some payoutId := by
    rcases moved.correction_origin id correction' found' with
      ⟨row, stored, -, approval⟩ | ⟨requested, -⟩
    · rw [found] at stored
      cases stored
      exact ((approval approved').resolve_left undecided).2
    · rw [approved'] at requested
      cases requested
  have standing : ¬ Corrected db payoutId := by
    rintro ⟨k, earlier, stored, decided, target⟩
    have apart : k ≠ id := by
      intro equal
      rw [equal, found] at stored
      cases stored
      exact undecided decided
    obtain ⟨row, stored', same, stays⟩ := moved.later.correction k earlier stored
    exact free k row payoutId stored' apart (stays decided) aimed'
      ((congrArg (fun c => c.2.1) same).trans target)
  refine ⟨⟨payoutId, other, paid, confirmed, standing⟩, ?_⟩
  rintro ⟨k, row', ⟨stored', own'⟩, settled, uncorrected⟩
  rcases moved.payout_origin k row' stored' with ⟨row, stored, same, -⟩ | ⟨-, pending, -⟩
  · have own : row.returnRequestId = returnId :=
      (congrArg (fun p => p.2.1) same).symm.trans own'
    have unmarked := orderly.live_of_standing k row stored
      (fun corrected => uncorrected (moved.later.corrected k corrected))
    have equal : payoutId = k := orderly.live returnId payoutId k other row paid ⟨stored, own⟩
      (orderly.live_of_standing payoutId other paid.1 standing) unmarked
    exact uncorrected (equal ▸ ⟨id, correction', found', approved', aimed'⟩)
  · rw [settled] at pending
    cases pending

end Steps

/-- The start of a run: at most one reversal a return, nothing paid out, nothing corrected. -/
structure Unpaid (db : Db) : Prop where
  alone : ∀ left ∈ db.returnReversals.rows, ∀ right ∈ db.returnReversals.rows,
    left.returnRequestId = right.returnRequestId → left = right
  payouts : db.refundPayouts.rows = []
  corrections : db.financialCorrections.rows = []

theorem Unpaid.orderly (unpaid : Unpaid db) : Orderly db := by
  have noPayout : ∀ id payout, db.refundPayouts.find? id ≠ some payout := by
    intro id payout found
    have member := Table.mem_of_find? _ _ _ found
    rw [unpaid.payouts] at member
    cases member
  have noCorrection : ∀ id correction, db.financialCorrections.find? id ≠ some correction := by
    intro id correction found
    have member := Table.mem_of_find? _ _ _ found
    rw [unpaid.corrections] at member
    cases member
  constructor
  · intro a b left right foundLeft foundRight same
    obtain ⟨there, rfl⟩ := (Table.find?_some _ _ _).mp foundLeft
    obtain ⟨there', rfl⟩ := (Table.find?_some _ _ _).mp foundRight
    rw [unpaid.alone left there right there' same]
  · exact fun id payout found => absurd found (noPayout id payout)
  · exact fun _ a _ left _ paid => absurd paid.1 (noPayout a left)
  · exact fun id payout _ found => absurd found (noPayout id payout)
  · exact fun id correction _ found => absurd found (noCorrection id correction)
  · rintro a _ _ ⟨left, found, -⟩ _
    exact absurd found (noCorrection a left)

theorem run_orderly (db : Db) (unpaid : Unpaid db) (c : Config Db Mark Refusal Unit)
    (run : WorkflowRun (.idle db) c) : Orderly c.store :=
  run_keeps Orderly (fun _ _ moved orderly => orderly.step moved) db c run unpaid.orderly

theorem Orderly.alone (orderly : Orderly db) (left right : RefundPayout)
    (there : left ∈ db.refundPayouts.rows) (there' : right ∈ db.refundPayouts.rows)
    (same : left.returnRequestId = right.returnRequestId) (live : left.correctedById = none)
    (live' : right.correctedById = none) : left = right := by
  have found := (Table.find?_some db.refundPayouts _ _).mpr ⟨there, rfl⟩
  have found' := (Table.find?_some db.refundPayouts _ _).mpr ⟨there', rfl⟩
  have equal := orderly.live _ _ _ left right ⟨found, same⟩ ⟨found', rfl⟩ live live'
  exact Table.key_injective _ _ _ there there' equal

theorem liability_over_runs (db : Db) (unpaid : Unpaid db) (c : Config Db Mark Refusal Unit)
    (run : WorkflowRun (.idle db) c) :
    (∀ reversal ∈ c.store.returnReversals.rows, Owed c.store reversal ↔
      ¬ ∃ payout ∈ c.store.refundPayouts.rows,
        payout.returnRequestId = reversal.returnRequestId ∧ payout.status = .confirmed ∧
        corrected c.store payout.id = false) ∧
    (∀ left ∈ c.store.refundPayouts.rows, ∀ right ∈ c.store.refundPayouts.rows,
      left.returnRequestId = right.returnRequestId →
      (left.correctedById = none → right.correctedById = none → left = right) ∧
      (corrected c.store left.id = false → corrected c.store right.id = false → left = right)) ∧
    (∀ left ∈ c.store.financialCorrections.rows, ∀ right ∈ c.store.financialCorrections.rows,
      left.status = .approved → right.status = .approved →
      left.targetRefundPayoutId = right.targetRefundPayoutId →
      left.targetRefundPayoutId ≠ none → left = right) ∧
    ∀ c', Step (Issued True) anyOrder c c' → ∀ reversal ∈ c.store.returnReversals.rows,
      (Clears c.store c'.store reversal.returnRequestId →
        Owed c.store reversal ∧ ¬ Owed c'.store reversal) ∧
      (Restores c.store c'.store reversal.returnRequestId →
        ¬ Owed c.store reversal ∧ Owed c'.store reversal) ∧
      (¬ Clears c.store c'.store reversal.returnRequestId →
        ¬ Restores c.store c'.store reversal.returnRequestId →
        (Owed c'.store reversal ↔ Owed c.store reversal)) := by
  have orderly := run_orderly db unpaid c run
  refine ⟨?_, ?_, ?_, ?_⟩
  · intro reversal member
    rw [orderly.owed_iff reversal member, not_iff_not]
    constructor
    · rintro ⟨id, payout, ⟨found, own⟩, confirmed, standing⟩
      obtain ⟨there, rfl⟩ := (Table.find?_some _ _ _).mp found
      exact ⟨payout, there, own, confirmed,
        Bool.eq_false_iff.mpr (fun named => standing ((corrected_eq_true _ _).mp named))⟩
    · rintro ⟨payout, there, own, confirmed, standing⟩
      refine ⟨payout.id, payout, ⟨(Table.find?_some _ _ _).mpr ⟨there, rfl⟩, own⟩, confirmed, ?_⟩
      intro named
      rw [(corrected_eq_true _ _).mpr named] at standing
      cases standing
  · intro left there right there' same
    have live : ∀ payout ∈ c.store.refundPayouts.rows, corrected c.store payout.id = false →
        payout.correctedById = none := by
      intro payout member standing
      apply orderly.live_of_standing payout.id payout
        ((Table.find?_some _ _ _).mpr ⟨member, rfl⟩)
      intro named
      rw [(corrected_eq_true _ _).mpr named] at standing
      cases standing
    exact ⟨orderly.alone left right there there' same, fun standing standing' =>
      orderly.alone left right there there' same (live left there standing)
        (live right there' standing')⟩
  · intro left there right there' approved approved' same aimed
    obtain ⟨payoutId, target⟩ := Option.ne_none_iff_exists'.mp aimed
    have equal := orderly.once left.id right.id payoutId
      ⟨left, (Table.find?_some _ _ _).mpr ⟨there, rfl⟩, approved, target⟩
      ⟨right, (Table.find?_some _ _ _).mpr ⟨there', rfl⟩, approved', same.symm.trans target⟩
    exact Table.key_injective _ _ _ there there' equal
  · intro c' taken reversal member
    have moved := step_moves c c' (run_workflow db c run) taken
    have kept : reversal ∈ c'.store.returnReversals.rows := Table.mem_of_find? _ _ _
      (moved.later.reversal reversal.id reversal ((Table.find?_some _ _ _).mpr ⟨member, rfl⟩))
    rw [orderly.owed_iff reversal member, (orderly.step moved).owed_iff reversal kept]
    refine ⟨fun clears => ?_, fun restores => ?_, fun unconfirmed unrestored => ?_⟩
    · obtain ⟨before, after⟩ := confirmation_clears orderly moved _ clears
      exact ⟨before, not_not.mpr after⟩
    · obtain ⟨before, after⟩ := approval_restores orderly moved _ restores
      exact ⟨not_not.mpr before, after⟩
    · rw [others_keep moved _ unconfirmed unrestored]

/-- The request arrives at its place and is answered before the next one. -/
def served (index : Nat) (p : Request Unit) : List (Move Db Mark Refusal Unit) :=
  .arrive p :: List.replicate 15 (.advance index)

/-- A refund is paid, the payment corrected, and another one reported. -/
def paidAnew : List (Move Db Mark Refusal Unit) :=
  served 0 (reportRefund .oldest atCounter 500 801 (cashRefund 71)).void ++
  served 1 (confirmRefund .oldest atCounter 1001 500 ⟨0⟩).void ++
  served 2 (Corrections.request atCounter 600
    { targetKind := .refundPayout, targetId := 801, reason := "wrong drawer",
      clientUuid := 72 }).void ++
  served 3 (Corrections.approve atCounter 1002 600 ⟨0, none⟩).void ++
  served 4 (reportRefund .oldest atCounter 500 802 (cashRefund 73)).void

theorem paidAnew_issued (p : Request Unit) (member : .arrive p ∈ paidAnew) : Issued True p := by
  simp only [paidAnew, served, List.mem_append, List.mem_cons, List.mem_replicate,
    Move.arrive.injEq, reduceCtorEq, and_false, or_false] at member
  rcases member with (((rfl | rfl) | rfl) | rfl) | rfl
  · exact .reportRefund _ _ _ _ _
  · exact .confirmRefund _ _ _ _ _
  · exact .requestCorrection _ _ _
  · exact .approveCorrection trivial _ _ _ _
  · exact .reportRefund _ _ _ _ _

theorem liability_over_runs_replacement :
    Unpaid refundOwed ∧ ∃ c, WorkflowRun (.idle refundOwed) c ∧
      c.store.refundPayouts.rows.map (fun payout =>
        (payout.id, payout.status, payout.correctedById)) =
        [(801, .confirmed, some 600), (802, .reportedPendingConfirmation, none)] ∧
      ∀ reversal ∈ c.store.returnReversals.rows, Owed c.store reversal ↔
        ¬ ∃ payout ∈ c.store.refundPayouts.rows,
          payout.returnRequestId = reversal.returnRequestId ∧ payout.status = .confirmed ∧
          corrected c.store payout.id = false := by
  have unpaid : Unpaid refundOwed := ⟨by decide, rfl, rfl⟩
  have run : WorkflowRun (.idle refundOwed) ((Config.idle refundOwed).schedule paidAnew) :=
    schedule_run _ _ _ paidAnew paidAnew_issued (admits_anyOrder _ _)
  exact ⟨unpaid, _, run, by decide +kernel, (liability_over_runs refundOwed unpaid _ run).1⟩

end ErpBackend.Returns
