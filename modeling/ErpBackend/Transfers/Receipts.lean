import ErpBackend.Transfers.Conservation

/-!
# What a receipt reports

The report of `receiveConfirm` is computed on numbers before its transaction; the
transaction moves the phones. Where the phones of the transfer are on their way under
distinct numbers, the report, the count of the answer and the moves say the same.
-/

namespace ErpBackend.Transfers

open Foundation Inventory

/-- Every expected number is matched or missing, every scanned one matched or unexpected. -/
structure Reconciled (expected scans : List String) (report : DiscrepancyReport) : Prop where
  accounted : (report.matched ++ report.missing).Perm expected
  apart : List.Disjoint report.matched report.missing
  scanned : (report.matched ++ report.unexpected).Perm report.scanned
  foreign : List.Disjoint report.matched report.unexpected
  distinct : report.scanned.Nodup ∧ ∀ text, text ∈ report.scanned ↔ text ∈ scans
  duplicate : report.duplicate.Nodup ∧ ∀ text, text ∈ report.duplicate ↔ 1 < scans.count text
  clean : report.hasDiscrepancy = false ↔ scans.Perm expected

section Report

variable (expected scans : List String)

variable (text : String)

theorem mem_matched :
    text ∈ (computeDiscrepancy expected scans).matched ↔ text ∈ expected ∧ text ∈ scans := by
  simp [computeDiscrepancy]

theorem mem_missing :
    text ∈ (computeDiscrepancy expected scans).missing ↔ text ∈ expected ∧ text ∉ scans := by
  simp [computeDiscrepancy]

theorem mem_unexpected :
    text ∈ (computeDiscrepancy expected scans).unexpected ↔ text ∈ scans ∧ text ∉ expected := by
  simp [computeDiscrepancy]

theorem mem_duplicate :
    text ∈ (computeDiscrepancy expected scans).duplicate ↔ 1 < scans.count text := by
  simp only [computeDiscrepancy, List.mem_filter, List.mem_eraseDups, decide_eq_true_eq]
  refine ⟨And.right, fun often => ⟨?_, often⟩⟩
  exact List.count_pos_iff.mp (by omega)

/-- Nothing is missing, foreign or repeated exactly when the scans are the numbers in some order. -/
theorem hasDiscrepancy_iff (distinct : expected.Nodup) :
    (computeDiscrepancy expected scans).hasDiscrepancy = false ↔ scans.Perm expected := by
  have none : ∀ l : List String, l = [] ↔ ∀ text, text ∉ l :=
    fun l => List.eq_nil_iff_forall_not_mem
  rw [DiscrepancyReport.hasDiscrepancy, decide_eq_false_iff_not]
  simp only [not_or, not_not, none, mem_missing, mem_unexpected, mem_duplicate]
  constructor
  · rintro ⟨missing, unexpected, duplicate⟩
    have once : scans.Nodup := List.nodup_iff_count_le_one.mpr (fun text => by
      have := duplicate text
      omega)
    rw [List.perm_ext_iff_of_nodup once distinct]
    intro text
    have lost := missing text
    have foreign := unexpected text
    tauto
  · intro perm
    refine ⟨fun text lost => lost.2 (perm.mem_iff.mpr lost.1),
      fun text foreign => foreign.2 (perm.mem_iff.mp foreign.1), fun text often => ?_⟩
    have once := List.nodup_iff_count_le_one.mp distinct text
    rw [perm.count_eq] at often
    omega

theorem computeDiscrepancy_reconciled (distinct : expected.Nodup) :
    Reconciled expected scans (computeDiscrepancy expected scans) where
  accounted := by
    have parted := List.filter_append_perm (fun text => decide (text ∈ scans)) expected
    simpa [computeDiscrepancy] using parted
  apart text here there :=
    ((mem_missing expected scans text).mp there).2 ((mem_matched expected scans text).mp here).2
  scanned := by
    have foreign : List.Disjoint (computeDiscrepancy expected scans).matched
        (computeDiscrepancy expected scans).unexpected := fun text here there =>
      ((mem_unexpected expected scans text).mp there).2
        ((mem_matched expected scans text).mp here).1
    refine (List.perm_ext_iff_of_nodup ?_ (nodup_eraseDups scans)).mpr (fun text => ?_)
    · exact (distinct.filter _).append ((nodup_eraseDups scans).filter _) foreign
    · rw [List.mem_append, mem_matched, mem_unexpected, List.mem_eraseDups]
      tauto
  foreign text here there :=
    ((mem_unexpected expected scans text).mp there).2 ((mem_matched expected scans text).mp here).1
  distinct := ⟨nodup_eraseDups scans, fun text => List.mem_eraseDups⟩
  duplicate := ⟨(nodup_eraseDups scans).filter _, mem_duplicate expected scans⟩
  clean := hasDiscrepancy_iff expected scans distinct

end Report

/-- `{ received, report }`. -/
structure ReceiptAnswer where
  received : Nat
  report : DiscrepancyReport

/-- The answer of `receiveConfirm`. -/
def confirmReceipt (ctx : Ctx) (id : Id) (dto : ReceiveTransferDto) : Request ReceiptAnswer := do
  let report ← receiveConfirm ctx id dto
  pure { received := report.matched.length, report }

def loadedUnits (db : Db) (transferId : Id) : List StockUnit :=
  (loadItems db transferId).filterMap Prod.snd

/-- `expectedIdentifiers`. -/
def expectedIdentifiers (db : Db) (transferId : Id) : List String :=
  (loadedUnits db transferId).map StockUnit.identifier

/-- Its phones are the company's, on their way, under distinct numbers. -/
structure OnItsWay (db : Db) (transfer : StockTransfer) : Prop where
  distinct : (expectedIdentifiers db transfer.id).Nodup
  moving : ∀ unit ∈ loadedUnits db transfer.id,
    unit.companyId = transfer.companyId ∧ unit.status = .inTransit

theorem expected_loaded (db : Db) (transferId : Id) :
    (loadItems db transferId).filterMap (fun loaded => loaded.2.map StockUnit.identifier) =
      expectedIdentifiers db transferId := by
  rw [expectedIdentifiers, loadedUnits, List.map_filterMap]

theorem mem_loadedUnits (db : Db) (transferId id : Id) (unit : StockUnit)
    (found : db.units.find? id = some unit) :
    unit ∈ loadedUnits db transferId ↔ id ∈ phonesOf (itemsOf db transferId) := by
  have key := Table.key_of_find? _ _ _ found
  simp only [loadedUnits, loadItems, phonesOf, List.mem_filterMap, List.mem_map]
  constructor
  · rintro ⟨loaded, ⟨item, listed, rfl⟩, stored⟩
    obtain ⟨unitId, named, row⟩ := Option.bind_eq_some_iff.mp stored
    have same := Table.key_of_find? _ _ _ row
    exact ⟨item, listed, named.trans (congrArg some (same.symm.trans key))⟩
  · rintro ⟨item, listed, named⟩
    exact ⟨_, ⟨item, listed, rfl⟩, by rw [named, Option.bind_some, found]⟩

theorem receiveConfirm_reports (ctx : Ctx) (id : Id) (dto : ReceiveTransferDto) (db : Db) :
    Prog.Ensures (receiveConfirm ctx id dto) (fun _ result => ∀ report, result = .ok report →
      report = computeDiscrepancy (expectedIdentifiers db id) dto.identifiers) db := by
  unfold receiveConfirm
  rw [Prog.ensures_expect]
  refine ⟨fun toBranchId _ => ?_, fun _ _ refused => by cases refused⟩
  apply load_run ctx id db _ _ (fun _ _ refused => by cases refused)
  intro transfer stored _
  obtain rfl := Table.key_of_find? _ _ _ stored
  rw [Prog.ensures_require]
  refine ⟨fun _ => ?_, fun _ _ refused => by cases refused⟩
  rw [Prog.ensures_liftExcept]
  refine ⟨fun _ _ => ?_, fun _ _ _ refused => by cases refused⟩
  rw [Prog.ensures_read, Prog.ensures_commit]
  refine ⟨fun db' _ => ?_, fun _ _ _ refused => by cases refused⟩
  rw [Prog.ensures_pure]
  rintro report ⟨⟩
  rw [expected_loaded]

/-- What a receipt did: the phones whose number was scanned are in stock at the destination, no
other phone has changed, and the answer counts and reports just these. -/
structure Received (transfer : StockTransfer) (scans : List String) (db db' : Db)
    (answer : ReceiptAnswer) : Prop where
  stored : db.stockTransfers.find? transfer.id = some transfer
  status : transfer.status = .inTransit
  units : ∀ id, db'.units.find? id = (db.units.find? id).map (fun unit =>
    if unit ∈ loadedUnits db transfer.id ∧ unit.identifier ∈ scans then
      { unit with status := .inStock, branchId := transfer.toBranchId } else unit)
  counted : answer.received =
    ((loadedUnits db transfer.id).filter (fun unit => unit.identifier ∈ scans)).length
  once : (loadedUnits db transfer.id).Nodup
  report : answer.report = computeDiscrepancy (expectedIdentifiers db transfer.id) scans
  reconciled : Reconciled (expectedIdentifiers db transfer.id) scans answer.report

/-- A successful receipt of a transfer that is on its way. -/
theorem confirmReceipt_received (ctx : Ctx) (id : Id) (dto : ReceiveTransferDto) (db db' : Db)
    (answer : ReceiptAnswer) (transfer : StockTransfer)
    (stored : db.stockTransfers.find? id = some transfer) (onItsWay : OnItsWay db transfer)
    (done : (confirmReceipt ctx id dto).run db = (db', .ok answer)) :
    Received transfer dto.identifiers db db' answer := by
  obtain rfl := Table.key_of_find? _ _ _ stored
  obtain ⟨middle, report, ran, answered⟩ := (Prog.run_bind_ok _ _ _ _ _).mp done
  obtain ⟨rfl, rfl⟩ := (Prog.run_pure_ok _ _ _ _).mp answered
  have landed := receiveConfirm_run ctx transfer.id dto db
  have reports := receiveConfirm_reports ctx transfer.id dto db
  unfold Prog.Ensures at landed reports
  rw [ran] at landed reports
  obtain ⟨other, same, landed⟩ := landed
  obtain rfl := reports report rfl
  have found := landed.row
  rw [same, stored] at found
  cases found
  have status : transfer.status = .inTransit := by
    have legal := landed.legal
    cases current : transfer.status <;> simp_all [transitions]
  have distinct := onItsWay.distinct
  refine ⟨stored, status, fun id => ?_, ?_, List.Nodup.of_map _ distinct, rfl,
    computeDiscrepancy_reconciled _ _ distinct⟩
  · rw [landed.phones]
    rcases found : db.units.find? id with _ | unit
    · rfl
    · have listed := mem_loadedUnits db transfer.id id unit found
      have key := Table.key_of_find? _ _ _ found
      have same : arrives transfer (itemsOf db transfer.id) dto.identifiers unit ↔
          unit ∈ loadedUnits db transfer.id ∧ unit.identifier ∈ dto.identifiers := by
        rw [arrives, key, ← listed]
        refine ⟨fun arriving => ⟨arriving.1, arriving.2.1⟩, fun scanned => ?_⟩
        exact ⟨scanned.1, scanned.2, onItsWay.moving unit scanned.1⟩
      simp only [Option.map_some, same]
  · rw [computeDiscrepancy, expectedIdentifiers, List.filter_map, List.length_map]
    rfl

def shippedLoad : Db :=
  ((ship { companyId := 10, branchId := some 1, userId := some 7, now := 1000 } 400
    ⟨1, none⟩).run mixedLoad).1

def destination : Ctx where
  companyId := 10
  branchId := some 2
  userId := some 8
  now := 1100

/-- One phone is scanned twice, beside a number that is not of the transfer. -/
def scansOf : ReceiveTransferDto := ⟨["356938035643809", "356938035643809", "333"], 2⟩

theorem confirmReceipt_received_mixed : ∃ transfer db' answer,
    Received transfer scansOf.identifiers shippedLoad db' answer ∧ answer.received = 1 := by
  obtain ⟨transfer, stored⟩ : ∃ transfer, shippedLoad.stockTransfers.find? 400 = some transfer :=
    ⟨_, rfl⟩
  have onItsWay : OnItsWay shippedLoad transfer := by
    cases stored
    exact ⟨by decide +kernel, by decide +kernel⟩
  have done : ((confirmReceipt destination 400 scansOf).run shippedLoad) =
      (((confirmReceipt destination 400 scansOf).run shippedLoad).1, .ok ⟨1, computeDiscrepancy
        ["356938035643809", "490154203237518"] scansOf.identifiers⟩) := by rfl
  exact ⟨transfer, _, _, confirmReceipt_received destination 400 scansOf shippedLoad _ _ transfer
    stored onItsWay done, rfl⟩

end ErpBackend.Transfers
