import ErpBackend.Analytics.Revenue
import ErpBackend.Returns.Liability

/-!
# What a sale can give back

A return gives back the value of its line. The discount on the whole sale is on no
line, so the lines together are worth more than the sale.
-/

namespace ErpBackend.Returns

open Foundation Inventory Analytics

/-- Every return is of a phone that was sold, every reversal of a return gives back what
its line is worth, and no line is given back twice. -/
structure Traced (db : Db) : Prop where
  claimed : ∀ id request, db.returnRequests.find? id = some request → ∃ item,
    db.saleItems.find? request.saleItemId = some item ∧ item.saleId = request.saleId ∧
      item.unitId ≠ none
  reversed : ∀ id reversal, db.returnReversals.find? id = some reversal → ∃ item,
    db.saleItems.find? reversal.saleItemId = some item ∧ item.saleId = reversal.saleId ∧
      item.unitId ≠ none ∧ reversal.grossRefund = lineRevenue item ∧ 0 ≤ reversal.grossRefund ∧
      0 ≤ reversal.adjustmentTotal ∧
      reversal.netRefundDue = reversal.grossRefund - reversal.adjustmentTotal
  single : ∀ a b left right, db.returnReversals.find? a = some left →
    db.returnReversals.find? b = some right → left.saleItemId = right.saleItemId → a = b

theorem Traced.start (db : Db) (requests : db.returnRequests.rows = [])
    (reversals : db.returnReversals.rows = []) : Traced db := by
  have none : ∀ id reversal, db.returnReversals.find? id ≠ some reversal := by
    intro id reversal found
    have member := Table.mem_of_find? _ _ _ found
    rw [reversals] at member
    cases member
  constructor
  · intro id request found
    have member := Table.mem_of_find? _ _ _ found
    rw [requests] at member
    cases member
  · exact fun id reversal found => absurd found (none id reversal)
  · exact fun a _ left _ found => absurd found (none a left)

theorem Traced.step {approvals : Prop} {db db' : Db} (moved : Movement approvals db db')
    (traced : Traced db) : Traced db' where
  claimed id request found := by
    rcases moved.request_origin id request found with ⟨row, stored, same⟩ | ⟨item, line, rest⟩
    · obtain ⟨item, line, sale, phone⟩ := traced.claimed id row stored
      have saleId : request.saleId = row.saleId := congrArg (fun l => l.2.2.1) same
      have saleItemId : request.saleItemId = row.saleItemId := congrArg (fun l => l.2.2.2.1) same
      rw [saleId, saleItemId]
      exact ⟨item, moved.later.line _ _ line, sale, phone⟩
    · exact ⟨item, moved.later.line _ _ line, rest⟩
  reversed id reversal found := by
    rcases moved.reversal_origin id reversal found with before | ⟨origin, -⟩
    · obtain ⟨item, line, rest⟩ := traced.reversed id reversal before
      exact ⟨item, moved.later.line _ _ line, rest⟩
    · obtain ⟨request, item, requested, sale, saleItem, line, gross, rest⟩ := origin
      obtain ⟨item', line', sale', phone⟩ := traced.claimed _ request requested
      rw [saleItem, line] at line'
      cases line'
      exact ⟨item, moved.later.line _ _ line, sale'.trans sale, phone, gross, rest⟩
  single a b left right foundLeft foundRight same := by
    by_contra apart
    rcases moved.reversal_origin a left foundLeft with before | ⟨-, alone⟩
    · rcases moved.reversal_origin b right foundRight with before' | ⟨-, alone⟩
      · exact apart (traced.single a b left right before before' same)
      · exact (alone a left foundLeft apart).1 same
    · exact (alone b right foundRight (Ne.symm apart)).1 same.symm

def reversedFor (db : Db) (saleId : Id) : Int :=
  ((db.returnReversals.filter (fun reversal => reversal.saleId = saleId)).map
    ReturnReversal.grossRefund).sum

def refundFor (db : Db) (saleId : Id) : Int :=
  ((db.returnReversals.filter (fun reversal => reversal.saleId = saleId)).map
    ReturnReversal.netRefundDue).sum

def givenBack (db : Db) (item : SaleItem) : Bool :=
  db.returnReversals.any (fun reversal => reversal.saleItemId = item.id)

def unreturned (db : Db) (saleId : Id) : Int :=
  ((linesOf db saleId).map (fun item => if givenBack db item then 0 else lineRevenue item)).sum

def returnable (item : SaleItem) : Bool := item.unitId ≠ none ∧ 0 ≤ lineRevenue item

def unreturnable (db : Db) (saleId : Id) : Int :=
  ((linesOf db saleId).map (fun item => if returnable item then 0 else lineRevenue item)).sum

def wholeDiscount (db : Db) (sale : Sale) : Int :=
  sale.discount - ((linesOf db sale.id).map SaleItem.discount).sum

section Sums

variable {db : Db} (traced : Traced db)

include traced

theorem reversed_of_line (item : SaleItem) (member : item ∈ db.saleItems.rows) :
    db.returnReversals.total (fun reversal =>
      if reversal.saleItemId = item.id then reversal.grossRefund else 0) =
        if givenBack db item then lineRevenue item else 0 := by
  have stored : db.saleItems.find? item.id = some item :=
    (Table.find?_some _ _ _).mpr ⟨member, rfl⟩
  split
  · next given =>
    obtain ⟨reversal, there, named⟩ := (Table.any_eq_true _ _).mp given
    have saleItem : reversal.saleItemId = item.id := of_decide_eq_true named
    have found : db.returnReversals.find? reversal.id = some reversal :=
      (Table.find?_some _ _ _).mpr ⟨there, rfl⟩
    obtain ⟨line, present, -, -, gross, -⟩ := traced.reversed _ reversal found
    rw [saleItem, stored] at present
    cases present
    have unique : (db.returnReversals.rows.map ReturnReversal.saleItemId).Nodup := by
      apply List.Nodup.map_on _ (List.Nodup.of_map _ db.returnReversals.unique)
      intro left thereLeft right thereRight same
      have equal := traced.single left.id right.id left right
        ((Table.find?_some _ _ _).mpr ⟨thereLeft, rfl⟩)
        ((Table.find?_some _ _ _).mpr ⟨thereRight, rfl⟩) same
      exact Table.key_injective _ _ _ thereLeft thereRight equal
    have once := db.returnReversals.total_of_unique ReturnReversal.saleItemId unique
      ReturnReversal.grossRefund reversal there
    rw [saleItem] at once
    rw [once, gross]
  · next none =>
    rw [db.returnReversals.total_congr _ (fun _ => 0), Table.total_zero]
    intro reversal there
    rw [if_neg]
    intro named
    exact none ((Table.any_eq_true _ _).mpr ⟨reversal, there, decide_eq_true named⟩)

theorem lines_split (saleId : Id) :
    ((linesOf db saleId).map lineRevenue).sum = reversedFor db saleId + unreturned db saleId := by
  have back : reversedFor db saleId = ((linesOf db saleId).map (fun item =>
      if givenBack db item then lineRevenue item else 0)).sum := by
    unfold reversedFor linesOf
    rw [Table.sum_filter, Table.sum_filter]
    have grouped := Table.total_group db.returnReversals db.saleItems ReturnReversal.saleItemId
      (fun item => decide (item.saleId = saleId)) ReturnReversal.grossRefund
    calc db.returnReversals.total (fun reversal =>
          if decide (reversal.saleId = saleId) then reversal.grossRefund else 0)
        = db.returnReversals.total (fun reversal =>
          if (db.saleItems.find? reversal.saleItemId).any (fun item =>
            decide (item.saleId = saleId)) then reversal.grossRefund else 0) := by
          apply Table.total_congr
          intro reversal there
          obtain ⟨item, line, sale, -⟩ := traced.reversed reversal.id reversal
            ((Table.find?_some _ _ _).mpr ⟨there, rfl⟩)
          rw [line, Option.any_some, sale]
      _ = _ := grouped
      _ = _ := by
          apply Table.total_congr
          intro item member
          rw [reversed_of_line traced item member]
  have each : ∀ item : SaleItem, lineRevenue item =
      (if givenBack db item then lineRevenue item else 0) +
        (if givenBack db item then 0 else lineRevenue item) := by
    intro item
    cases givenBack db item with
    | true => simp
    | false => simp
  rw [back]
  unfold unreturned
  rw [← List.sum_map_add]
  congr 1
  exact List.map_congr_left (fun item _ => each item)

theorem unreturnable_le (saleId : Id) : unreturnable db saleId ≤ unreturned db saleId := by
  apply List.sum_le_sum
  intro item member
  obtain ⟨there, -⟩ := (Table.mem_filter _ _ _).mp member
  by_cases given : givenBack db item = true
  · obtain ⟨reversal, present, named⟩ := (Table.any_eq_true _ _).mp given
    obtain ⟨line, found, -, phone, gross, nonneg, -⟩ := traced.reversed reversal.id reversal
      ((Table.find?_some _ _ _).mpr ⟨present, rfl⟩)
    have saleItem : reversal.saleItemId = item.id := of_decide_eq_true named
    rw [saleItem, (Table.find?_some _ _ _).mpr ⟨there, rfl⟩] at found
    cases found
    have takes : returnable item = true := decide_eq_true ⟨phone, gross ▸ nonneg⟩
    simp [given, takes]
  · by_cases takes : returnable item = true
    · have nonneg := (of_decide_eq_true takes).2
      simp [given, takes, nonneg]
    · simp [given, takes]

theorem refund_le_reversed (saleId : Id) : refundFor db saleId ≤ reversedFor db saleId := by
  apply List.sum_le_sum
  intro reversal member
  obtain ⟨there, -⟩ := (Table.mem_filter _ _ _).mp member
  obtain ⟨-, -, -, -, -, -, fits, net⟩ := traced.reversed reversal.id reversal
    ((Table.find?_some _ _ _).mpr ⟨there, rfl⟩)
  omega

end Sums

structure Unsold (db : Db) : Prop where
  sales : db.sales.rows = []
  lines : db.saleItems.rows = []
  requests : db.returnRequests.rows = []
  reversals : db.returnReversals.rows = []

theorem reversed_within_total_iff (db : Db) (unsold : Unsold db)
    (c : Config Db Mark Refusal Unit) (run : WorkflowRun (.idle db) c) (sale : Sale)
    (member : sale ∈ c.store.sales.rows) :
    ((reversedFor c.store sale.id ≤ sale.total ∧ refundFor c.store sale.id ≤ sale.total) ↔
      wholeDiscount c.store sale ≤ unreturned c.store sale.id) ∧
    (wholeDiscount c.store sale ≤ unreturnable c.store sale.id →
      reversedFor c.store sale.id ≤ sale.total ∧ refundFor c.store sale.id ≤ sale.total) := by
  have filed := run_filed db unsold.sales unsold.lines c run
  have traced := run_keeps Traced (fun _ _ moved traced => traced.step moved) db c run
    (.start db unsold.requests unsold.reversals)
  obtain ⟨saleDiscount, entered⟩ := filed.entered sale member
  have total := entered.total
  have discount := entered.discount
  have split := lines_split traced sale.id
  have kept := unreturnable_le traced sale.id
  have net := refund_le_reversed traced sale.id
  have whole : wholeDiscount c.store sale = saleDiscount := by
    unfold wholeDiscount
    omega
  rw [whole]
  constructor
  · constructor
    · rintro ⟨within, -⟩
      omega
    · intro fits
      constructor
      · omega
      · omega
  · intro fits
    constructor
    · omega
    · omega

def flickering : StockUnit where
  id := 301
  companyId := 10
  productId := 4
  branchId := 1
  imeiPrimary := some "356938035643809"
  imeiSecondary := none
  serialNo := none
  cost := 60000
  status := .inStock
  dateSold := none

def stall : Db := { shelf with units := ⟨[flickering], List.nodup_singleton _⟩ }

theorem stall_unsold : Unsold stall := ⟨rfl, rfl, rfl, rfl⟩

def phoneLine : Sales.SaleLineDto where
  identifier := some "356938035643809"
  price := some 100000

def soldAndReturned (rest : List Sales.SaleLineDto) (paid : Amount) :
    List (Move Db Mark Refusal Unit) :=
  served 0 (Sales.createSale atCounter (fun _ => false)
    ⟨900, fun index => 910 + index, fun index => 920 + index⟩
    { lines := phoneLine :: rest
      payments := [{ method := .cash, amount := paid }]
      saleDiscount := some ⟨10000, by decide⟩ }).void ++
  served 1 (create .oldest atCounter 500
    { saleItemId := 910, identifier := "356938035643809", requestReason := "screen flickers",
      storeHolds := true, clientUuid := 60 }).void ++
  served 2 (investigate .oldest atCounter 500
    { responsibility := some .storeOrProductFault, expectedVersion := 0 }).void ++
  served 3 (approve .oldest atCounter (fun _ => true) ⟨700, 1001⟩ 500
    { expectedVersion := 1, exceptionReason := some "goodwill" }).void

theorem soldAndReturned_run (rest : List Sales.SaleLineDto) (paid : Amount) :
    WorkflowRun (.idle stall) ((Config.idle stall).schedule (soldAndReturned rest paid)) := by
  apply schedule_run _ _ _ _ _ (admits_anyOrder _ _)
  intro p member
  simp only [soldAndReturned, served, List.mem_append, List.mem_cons, List.mem_replicate,
    Move.arrive.injEq, reduceCtorEq, and_false, or_false] at member
  rcases member with ((rfl | rfl) | rfl) | rfl
  · exact .createSale _ _ _ _
  · exact .create _ _ _ _
  · exact .investigate _ _ _ _
  · exact .approve _ _ _ _ _ _

theorem refund_exceeds_total :
    ¬ ∀ (db : Db) (c : Config Db Mark Refusal Unit) (sale : Sale), Unsold db →
      WorkflowRun (.idle db) c → sale ∈ c.store.sales.rows →
      reversedFor c.store sale.id ≤ sale.total ∧ refundFor c.store sale.id ≤ sale.total := by
  intro claim
  have run := soldAndReturned_run [] ⟨90000, by decide⟩
  have sold : (((Config.idle stall).schedule
      (soldAndReturned [] ⟨90000, by decide⟩)).store.sales.rows.map (fun sale =>
        (sale.id, sale.total))) = [(900, 90000)] := by decide +kernel
  have back : reversedFor ((Config.idle stall).schedule
      (soldAndReturned [] ⟨90000, by decide⟩)).store 900 = 100000 := by decide +kernel
  obtain ⟨sale, member, fields⟩ :=
    List.mem_map.mp (sold ▸ List.mem_singleton_self ((900 : Id), (90000 : Int)))
  obtain ⟨key, total⟩ := Prod.mk.inj fields
  have within := (claim stall _ sale stall_unsold run member).1
  rw [key, back, total] at within
  omega

theorem reversed_within_total_iff_with_charger :
    ∃ c sale, WorkflowRun (.idle stall) c ∧ sale ∈ c.store.sales.rows ∧
      reversedFor c.store sale.id = 100000 ∧ sale.total = 190000 ∧
      reversedFor c.store sale.id ≤ sale.total ∧ refundFor c.store sale.id ≤ sale.total := by
  have run := soldAndReturned_run [{ productId := some 3 }] ⟨190000, by decide⟩
  have sold : (((Config.idle stall).schedule (soldAndReturned
      [{ productId := some 3 }] ⟨190000, by decide⟩)).store.sales.find? 900).map
        (fun sale => (sale.total, sale.discount)) = some (190000, 10000) := by decide +kernel
  have back : reversedFor ((Config.idle stall).schedule (soldAndReturned
      [{ productId := some 3 }] ⟨190000, by decide⟩)).store 900 = 100000 := by
    decide +kernel
  have kept : unreturnable ((Config.idle stall).schedule (soldAndReturned
      [{ productId := some 3 }] ⟨190000, by decide⟩)).store 900 = 100000 := by
    decide +kernel
  have own : ((linesOf ((Config.idle stall).schedule (soldAndReturned
      [{ productId := some 3 }] ⟨190000, by decide⟩)).store 900).map
        SaleItem.discount).sum = 0 := by decide +kernel
  obtain ⟨sale, found, fields⟩ := Option.map_eq_some_iff.mp sold
  obtain ⟨total, discount⟩ := Prod.mk.inj fields
  obtain ⟨member, key⟩ := (Table.find?_some _ _ _).mp found
  refine ⟨_, sale, run, member, by rw [key]; exact back, total, ?_⟩
  apply (reversed_within_total_iff stall stall_unsold _ run sale member).2
  unfold wholeDiscount
  rw [key, own, kept, discount]
  decide

end ErpBackend.Returns
