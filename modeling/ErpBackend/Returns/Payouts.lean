import ErpBackend.Returns.Effects
import ErpBackend.Corrections.Service

/-!
# Which payout is confirmed

`confirmRefund` looks the payout up by its return, without an order. A return whose
first refund was corrected has several payouts, and only one of them is live.
-/

namespace ErpBackend.Returns

open Foundation Inventory

theorem swapPayout_ok (companyId id : Id) (expectedVersion : Nat) (f : RefundPayout → RefundPayout)
    (keep : ∀ row, (f row).id = row.id) (db db' : Db) :
    swapPayout companyId id expectedVersion f keep db = .ok db' ↔
      ∃ row, db.refundPayouts.find? id = some row ∧ row.companyId = companyId ∧
        row.version = expectedVersion ∧ row.status = .reportedPendingConfirmation ∧
        db' = { db with refundPayouts := db.refundPayouts.update id f keep } := by
  unfold swapPayout
  constructor
  · intro done
    split at done
    · cases done
    · next refundPayouts swapped =>
      cases done
      obtain ⟨row, found, passed, rfl⟩ := (Table.swap?_some _ _ _ _ _ _).mp swapped
      obtain ⟨company, version, status⟩ := of_decide_eq_true passed
      exact ⟨row, found, company, version, status, rfl⟩
  · rintro ⟨row, found, company, version, status, rfl⟩
    have swapped := (Table.swap?_some db.refundPayouts _ id (fun row =>
      row.companyId = companyId ∧ row.version = expectedVersion ∧
        row.status = .reportedPendingConfirmation) f keep).mpr
      ⟨row, found, decide_eq_true ⟨company, version, status⟩, rfl⟩
    rw [swapped]

/-- A confirmation leaves every payout alone but the one it looked up, and all of them on
a closed day. -/
theorem confirmRefund_others (first : Lookup RefundPayout) (ctx : Ctx) (rollupId id : Id)
    (dto : ConfirmRefundDto) (db : Db) (payoutId : Id)
    (aside : ∀ branchId payout, ctx.branchId = some branchId →
      first.pick (payoutsOf db ctx.companyId id) = some payout →
      closedToday ctx branchId db = true ∨ payout.id ≠ payoutId) :
    Prog.Ensures (confirmRefund first ctx rollupId id dto)
      (fun db' _ => db'.refundPayouts.find? payoutId = db.refundPayouts.find? payoutId) db := by
  have reads : ∀ reached : Db,
      reached.refundPayouts.find? payoutId = db.refundPayouts.find? payoutId →
      Prog.Ensures (detail first ctx id) (fun db' _ =>
        db'.refundPayouts.find? payoutId = db.refundPayouts.find? payoutId) reached := by
    intro reached same
    have read : (Prog.run (detail first ctx id) reached).1 = reached :=
      ensures_detail first ctx id reached
    unfold Prog.Ensures
    rw [read]
    exact same
  unfold confirmRefund load
  simp only [Prog.bind_assoc, Prog.ensures_expect, Prog.ensures_read, implies_true, and_true]
  intro branchId branch loaded found
  obtain ⟨stored, -⟩ := (findReturn_some _ _ _ _ _).mp found
  have keyed : loaded.request.id = id := Table.key_of_find? _ _ _ stored
  rw [keyed]
  rintro ⟨payout, label⟩ picked
  obtain ⟨_, yielded, same⟩ := Option.map_eq_some_iff.mp picked
  cases same
  have elsewhere := aside branchId payout branch yielded
  dsimp only
  split
  · exact reads db rfl
  · simp only [Prog.ensures_read, Prog.ensures_require, Prog.ensures_commit, implies_true,
      and_true]
    intro open' db' done
    obtain ⟨row, present, -, -, -, rfl⟩ := (swapPayout_ok _ _ _ _ _ _ _).mp done
    have apart : payoutId ≠ payout.id := by
      rcases elsewhere with closed | apart
      · rw [open'] at closed
        cases closed
      · exact apart.symm
    have kept : (db.refundPayouts.update payout.id
        (confirmed ctx (payout.accountLabelSnapshot.or (liveLabel db payout)))
        (confirmed_id ctx (payout.accountLabelSnapshot.or (liveLabel db payout)))).find?
          payoutId = db.refundPayouts.find? payoutId := by
      rw [Table.find?_update, if_neg apart]
    apply Analytics.ensures_recompute
    · exact fun dailyRollups => reads _ kept
    · exact fun _ => kept

theorem mem_payoutsOf (db : Db) (companyId returnId : Id) (payout : RefundPayout) :
    payout ∈ payoutsOf db companyId returnId ↔ db.refundPayouts.find? payout.id = some payout ∧
      payout.companyId = companyId ∧ payout.returnRequestId = returnId := by
  unfold payoutsOf
  rw [Table.mem_filter, Table.find?_some]
  simp

/-- A refund that was reported and is neither confirmed nor superseded. -/
structure LivePending (payout : RefundPayout) : Prop where
  status : payout.status = .reportedPendingConfirmation
  live : payout.correctedById = none

/-- With the payout's own version the confirmation goes through and confirms it. -/
def Confirms (first : Lookup RefundPayout) (ctx : Ctx) (rollupId id : Id) (payout : RefundPayout)
    (db : Db) : Prop :=
  ∃ db' payout', Prog.Grants (confirmRefund first ctx rollupId id ⟨payout.version⟩) db db' ∧
    db'.refundPayouts.find? payout.id = some payout' ∧ payout'.status = .confirmed

def withConfirmed (ctx : Ctx) (db : Db) (payout : RefundPayout) : Db :=
  { db with
    refundPayouts := db.refundPayouts.update payout.id
      (confirmed ctx (payout.accountLabelSnapshot.or (liveLabel db payout)))
      (confirmed_id ctx (payout.accountLabelSnapshot.or (liveLabel db payout))) }

section Confirming

variable (db : Db) (ctx : Ctx) (branchId rollupId : Id) (loaded : LoadedReturn)
  (branch : ctx.branchId = some branchId)
  (found : findReturn db ctx.companyId branchId loaded.request.id = some loaded)
  (payout : RefundPayout) (listed : payout ∈ payoutsOf db ctx.companyId loaded.request.id)
  (live : LivePending payout)

include branch found listed live

theorem confirms_picked (fresh : db.dailyRollups.find? rollupId = none)
    (first : Lookup RefundPayout)
    (picked : first.pick (payoutsOf db ctx.companyId loaded.request.id) = some payout)
    (open' : closedToday ctx branchId db = false) :
    Confirms first ctx rollupId loaded.request.id payout db := by
  obtain ⟨stored, company, -⟩ := (mem_payoutsOf _ _ _ _).mp listed
  have written := (swapPayout_ok ctx.companyId payout.id payout.version
    (confirmed ctx (payout.accountLabelSnapshot.or (liveLabel db payout)))
    (confirmed_id ctx (payout.accountLabelSnapshot.or (liveLabel db payout))) db
    (withConfirmed ctx db payout)).mpr ⟨payout, stored, company, rfl, live.status, rfl⟩
  obtain ⟨dailyRollups, recomputed⟩ := Analytics.grants_recompute (M := Mark) .other ctx.companyId
    branchId ctx.today ctx.now rollupId (fun _ => detail first ctx loaded.request.id)
    (withConfirmed ctx db payout) fresh
    (fun _ => grants_detail first ctx _ branchId _ loaded branch found)
  have granted : Prog.Grants
      (confirmRefund first ctx rollupId loaded.request.id ⟨payout.version⟩) db
      { withConfirmed ctx db payout with dailyRollups } := by
    unfold confirmRefund load
    apply Prog.grants_expect _ _ _ _ branch
    rw [Prog.bind_assoc]
    apply Prog.grants_read
    apply Prog.grants_expect _ _ loaded _ found
    apply Prog.grants_read
    apply Prog.grants_expect _ _ (payout, liveLabel db payout) _ (by rw [picked]; rfl)
    have reported : payout.status ≠ .confirmed := by
      rw [live.status]
      decide
    dsimp only
    rw [if_neg reported]
    apply Prog.grants_read
    apply Prog.grants_require _ _ _ open'
    exact Prog.grants_commit _ _ _ written recomputed
  have present : (withConfirmed ctx db payout).refundPayouts.find? payout.id =
      some (confirmed ctx (payout.accountLabelSnapshot.or (liveLabel db payout)) payout) := by
    unfold withConfirmed
    rw [Table.find?_update, if_pos rfl, stored]
    rfl
  exact ⟨_, _, granted, present, rfl⟩

/-- Whatever the lookup yields, the live payout is confirmed exactly when today is open
and the return has no other payout. -/
theorem confirms_live_iff (fresh : db.dailyRollups.find? rollupId = none) :
    (∀ first, Confirms first ctx rollupId loaded.request.id payout db) ↔
      closedToday ctx branchId db = false ∧
        ∀ other ∈ payoutsOf db ctx.companyId loaded.request.id, other = payout := by
  obtain ⟨stored, -, -⟩ := (mem_payoutsOf _ _ _ _).mp listed
  -- If the lookup never reaches the live payout, it is still only reported afterwards.
  have missed : ∀ first, (∀ reached yielded, ctx.branchId = some reached →
      first.pick (payoutsOf db ctx.companyId loaded.request.id) = some yielded →
      closedToday ctx reached db = true ∨ yielded.id ≠ payout.id) →
      ¬ Confirms first ctx rollupId loaded.request.id payout db := by
    intro first aside
    rintro ⟨db', payout', ⟨reached, -⟩, present, status⟩
    have kept := confirmRefund_others first ctx rollupId loaded.request.id ⟨payout.version⟩ db
      payout.id aside
    unfold Prog.Ensures at kept
    rw [reached, present, stored] at kept
    cases kept
    rw [live.status] at status
    cases status
  constructor
  · intro confirms
    constructor
    · by_contra closed
      apply missed .oldest _ (confirms .oldest)
      intro reached _ same _
      rw [branch] at same
      cases same
      exact .inl (by simpa using closed)
    · intro other member
      by_contra differs
      apply missed (.prefer other) _ (confirms (.prefer other))
      intro _ yielded _ picked
      right
      have picks : (Lookup.prefer other).pick (payoutsOf db ctx.companyId loaded.request.id) =
          some other := if_pos member
      rw [picks] at picked
      cases picked
      intro same
      apply differs
      have there := ((mem_payoutsOf _ _ _ _).mp member).1
      rw [same, stored] at there
      exact (Option.some.inj there).symm
  · rintro ⟨open', only⟩ first
    rcases picked : first.pick (payoutsOf db ctx.companyId loaded.request.id) with _ | yielded
    · rw [first.total _ picked] at listed
      cases listed
    · obtain rfl := only yielded (first.mem _ _ picked)
      exact confirms_picked db ctx branchId rollupId loaded branch found yielded listed live fresh
        first picked open'

end Confirming

def approvedReturn : LoadedReturn where
  request :=
    { id := 500
      companyId := 10
      branchId := 1
      saleId := 900
      saleItemId := 910
      unitId := 301
      status := .approvedRefundDue
      clientUuid := 60
      clientRequestHash := ""
      requestedById := some 7
      requestReason := "screen flickers"
      conditionNotes := none
      responsibility := .storeOrProductFault
      responsibilityNotes := none
      custody := .retainedHold
      custodyReceivedAt := some 800
      custodyReturnedAt := none
      policyWindowHours := 48
      policyDeadlineAt := some 172800000
      policyReason := .withinWindow
      requiresException := false
      reviewedById := some 7
      reviewedAt := some 900
      decidedById := some 7
      decidedAt := some 1000
      decisionReason := none
      exceptionReason := none
      version := 2 }
  saleItem :=
    { id := 910
      companyId := 10
      saleId := 900
      unitId := some 301
      productId := none
      quantity := 1
      price := 100000
      cost := 60000
      discount := 0
      voided := false }
  unit :=
    { id := 301
      companyId := 10
      productId := 3
      branchId := 1
      imeiPrimary := some "356938035643809"
      imeiSecondary := none
      serialNo := none
      cost := 60000
      status := .faulty
      dateSold := some 500 }

def refundOwed : Db where
  units := ⟨[approvedReturn.unit], List.nodup_singleton _⟩
  saleItems := ⟨[approvedReturn.saleItem], List.nodup_singleton _⟩
  returnRequests := ⟨[approvedReturn.request], List.nodup_singleton _⟩
  returnReversals := ⟨[
    { id := 700
      companyId := 10
      branchId := 1
      saleId := 900
      saleItemId := 910
      unitId := 301
      returnRequestId := 500
      lineRevenue := 100000
      lineCost := 60000
      lineMargin := 40000
      grossRefund := 100000
      adjustmentTotal := 0
      netRefundDue := 100000
      approvalDate := 0
      approvedById := some 7 }], List.nodup_singleton _⟩

def atCounter : Ctx where
  companyId := 10
  branchId := some 1
  userId := some 7
  now := 2000

def cashRefund (clientUuid : Id) : ReportRefundDto where
  reportedAmount := ⟨100000, by decide⟩
  method := .cash
  clientUuid := clientUuid

def reportedOnce : Db := ((reportRefund .oldest atCounter 500 801 (cashRefund 71)).run refundOwed).1

/-- The refund is confirmed, the confirmation corrected, and a replacement reported. -/
def replaced : Db :=
  let confirmed := ((confirmRefund .oldest atCounter 1001 500 ⟨0⟩).run reportedOnce).1
  let requested := ((Corrections.request atCounter 600
    { targetKind := .refundPayout, targetId := 801, reason := "wrong drawer",
      clientUuid := 72 }).run confirmed).1
  let superseded := ((Corrections.approve atCounter 1002 600 ⟨0, none⟩).run requested).1
  ((reportRefund .oldest atCounter 500 802 (cashRefund 73)).run superseded).1

theorem replacement_not_confirmed :
    ¬ ∀ (db : Db) (ctx : Ctx) (branchId rollupId : Id) (loaded : LoadedReturn)
      (payout : RefundPayout), ctx.branchId = some branchId →
      findReturn db ctx.companyId branchId loaded.request.id = some loaded →
      payout ∈ payoutsOf db ctx.companyId loaded.request.id → LivePending payout →
      db.dailyRollups.find? rollupId = none →
      ∀ first, Confirms first ctx rollupId loaded.request.id payout db := by
  intro claim
  have found : findReturn replaced 10 1 500 = some approvedReturn := by decide
  have pending : (replaced.refundPayouts.find? 802).map (fun payout =>
      (payout.companyId, payout.returnRequestId, payout.status, payout.correctedById,
        payout.version)) = some (10, 500, .reportedPendingConfirmation, none, 0) := by decide
  obtain ⟨payout, stored, fields⟩ := Option.map_eq_some_iff.mp pending
  obtain ⟨company, fields⟩ := Prod.mk.inj fields
  obtain ⟨request, fields⟩ := Prod.mk.inj fields
  obtain ⟨status, fields⟩ := Prod.mk.inj fields
  obtain ⟨live, version⟩ := Prod.mk.inj fields
  have keyed : payout.id = 802 := Table.key_of_find? _ _ _ stored
  rw [← keyed] at stored
  obtain ⟨db', payout', ⟨reached, -⟩, present, settled⟩ := claim replaced atCounter 1 1003
    approvedReturn payout rfl found ((mem_payoutsOf _ _ _ _).mpr ⟨stored, company, request⟩)
    ⟨status, live⟩ (by decide) .oldest
  rw [version] at reached
  have still : (((confirmRefund .oldest atCounter 1003 500 ⟨0⟩).run replaced).1.refundPayouts.find?
      802).map RefundPayout.status = some .reportedPendingConfirmation := by decide
  rw [keyed] at present
  have reached' : ((confirmRefund .oldest atCounter 1003 500 ⟨0⟩).run replaced).1 = db' := reached
  rw [reached', present, Option.map_some, settled] at still
  cases still

theorem confirms_live_iff_first_refund :
    closedToday atCounter 1 reportedOnce = false ∧
      ∃ payout, reportedOnce.refundPayouts.find? 801 = some payout ∧
        ∀ first, Confirms first atCounter 1001 500 payout reportedOnce := by
  have open' : closedToday atCounter 1 reportedOnce = false := by decide
  have found : findReturn reportedOnce 10 1 500 = some approvedReturn := by decide
  have reported : (reportedOnce.refundPayouts.find? 801).map (fun payout =>
      (payout.companyId, payout.returnRequestId, payout.status, payout.correctedById)) =
        some (10, 500, .reportedPendingConfirmation, none) := by decide
  have only : (payoutsOf reportedOnce 10 500).map RefundPayout.id = [801] := by decide
  obtain ⟨payout, stored, fields⟩ := Option.map_eq_some_iff.mp reported
  obtain ⟨company, fields⟩ := Prod.mk.inj fields
  obtain ⟨request, fields⟩ := Prod.mk.inj fields
  obtain ⟨status, live⟩ := Prod.mk.inj fields
  have keyed : payout.id = 801 := Table.key_of_find? _ _ _ stored
  have listed : payout ∈ payoutsOf reportedOnce 10 500 :=
    (mem_payoutsOf _ _ _ _).mpr ⟨by rw [keyed]; exact stored, company, request⟩
  refine ⟨open', payout, stored, (confirms_live_iff reportedOnce atCounter 1 1001 approvedReturn
    rfl found payout listed ⟨status, live⟩ (by decide)).mpr ⟨open', ?_⟩⟩
  intro other member
  have named : other.id ∈ [801] := only ▸ List.mem_map_of_mem member
  have there := ((mem_payoutsOf _ _ _ _).mp member).1
  rw [List.mem_singleton.mp named, stored] at there
  exact (Option.some.inj there).symm

end ErpBackend.Returns
