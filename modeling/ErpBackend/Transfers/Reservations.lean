import ErpBackend.Inventory.Reservations
import ErpBackend.Transfers.Service

/-!
# Reservations of transfers

What the open transfers hold back, as one account beside what is reserved. The
two agree in every state; a transfer moves both by its own lines when it opens
and when it closes.
-/

namespace ErpBackend.Transfers

open Foundation Inventory

def bare (item : TransferItem) : TransferItem := { item with shippedUnitCost := none }

def bareLines (db : Db) : List TransferItem := db.transferItems.rows.map bare

def linesOf (db : Db) (transferId : Id) : List TransferItem := (itemsOf db transferId).map bare

theorem linesOf_eq (db : Db) (transferId : Id) :
    linesOf db transferId =
      (bareLines db).filter (fun item => decide (item.transferId = transferId)) := by
  unfold linesOf itemsOf bareLines Table.filter
  rw [List.filter_map]
  rfl

theorem linesOf_congr (db db' : Db) (lines : bareLines db' = bareLines db) (transferId : Id) :
    linesOf db' transferId = linesOf db transferId := by
  rw [linesOf_eq, linesOf_eq, lines]

theorem linesOf_opened (db db' : Db) (transferId : Id) (items : List TransferItem)
    (own : ∀ item ∈ items, item.transferId = transferId)
    (lines : bareLines db' = bareLines db ++ items.map bare) (id : Id) (apart : id ≠ transferId) :
    linesOf db' id = linesOf db id := by
  have none : (items.map bare).filter (fun line => decide (line.transferId = id)) = [] := by
    rw [List.filter_eq_nil_iff]
    intro line member matched
    obtain ⟨item, present, rfl⟩ := List.mem_map.mp member
    exact apart ((of_decide_eq_true matched).symm.trans (own item present))
  rw [linesOf_eq, lines, List.filter_append, none, List.append_nil, ← linesOf_eq]

def unitTake (item : TransferItem) : Resource → Int :=
  match item.unitId with
  | some unitId => portion (.unit unitId) 1
  | none => 0

def stockTake (companyId branchId : Id) (item : TransferItem) : Resource → Int :=
  match item.productId with
  | some productId => portion (.stock companyId productId branchId) item.quantity
  | none => 0

def takes (transfer : StockTransfer) (item : TransferItem) : Resource → Int :=
  unitTake item + stockTake transfer.companyId transfer.fromBranchId item

def takesAll (transfer : StockTransfer) (items : List TransferItem) : Resource → Int :=
  (items.map (takes transfer)).sum

theorem takesAll_bare (transfer : StockTransfer) (items : List TransferItem) :
    takesAll transfer (items.map bare) = takesAll transfer items := by
  unfold takesAll
  rw [List.map_map]
  rfl

theorem takesAll_eq (transfer : StockTransfer) (items : List TransferItem) :
    takesAll transfer items = (items.map unitTake).sum +
      (items.map (stockTake transfer.companyId transfer.fromBranchId)).sum := by
  unfold takesAll
  induction items with
  | nil => simp
  | cons item rest ih =>
      simp only [List.map_cons, List.sum_cons, ih, takes]
      abel

/-- What a transfer holds back: its lines while it waits, nothing afterwards. -/
def demand (db : Db) (transfer : StockTransfer) : Resource → Int :=
  if reserving transfer.status then takesAll transfer (linesOf db transfer.id) else 0

def held (db : Db) : Resource → Int := db.stockTransfers.total (demand db)

theorem demand_congr (db db' : Db) (lines : bareLines db' = bareLines db) :
    demand db' = demand db := by
  funext transfer
  unfold demand
  rw [linesOf_congr db db' lines]

/-- A line that can be handed back: a real quantity, a phone of the company. -/
def Backed (db : Db) (companyId : Id) (line : TransferItem) : Prop :=
  (line.productId ≠ none → 0 ≤ line.quantity) ∧
    ∀ unitId, line.unitId = some unitId →
      ∃ unit, db.units.find? unitId = some unit ∧ unit.companyId = companyId

structure Reserved (db : Db) : Prop where
  account : reservedOf db = held db
  bounded : Bounded db
  backed : ∀ transfer ∈ db.stockTransfers.rows, reserving transfer.status = true →
    ∀ line ∈ linesOf db transfer.id, Backed db transfer.companyId line
  owned : ∀ line ∈ bareLines db,
    ∃ transfer, db.stockTransfers.find? line.transferId = some transfer

variable {db db' : Db}

theorem Backed.stands {companyId : Id} {line : TransferItem}
    {moved : StockUnit → Prop} (backed : Backed db companyId line) (stands : Stands moved db db') :
    Backed db' companyId line := by
  refine ⟨backed.1, fun unitId listed => ?_⟩
  obtain ⟨unit, found, company⟩ := backed.2 unitId listed
  obtain ⟨unit', found', company', -⟩ := stands unitId unit found
  exact ⟨unit', found', company'.trans company⟩

theorem Reserved.congr {moved : StockUnit → Prop} (reserved : Reserved db)
    (transfers : db'.stockTransfers = db.stockTransfers)
    (lines : db'.transferItems = db.transferItems) (stands : Stands moved db db')
    (bounded : Bounded db') (account : reservedOf db' = reservedOf db) : Reserved db' := by
  have bareSame : bareLines db' = bareLines db := by
    unfold bareLines
    rw [lines]
  refine ⟨?_, bounded, ?_, ?_⟩
  · rw [account, reserved.account]
    unfold held
    rw [transfers, demand_congr db db' bareSame]
  · intro transfer member waiting line listed
    rw [transfers] at member
    rw [linesOf_congr db db' bareSame] at listed
    exact (reserved.backed transfer member waiting line listed).stands stands
  · intro line member
    rw [bareSame] at member
    rw [transfers]
    exact reserved.owned line member

theorem Reserved.transition {moved : StockUnit → Prop} (reserved : Reserved db)
    (transfer : StockTransfer) (g : StockTransfer → StockTransfer)
    (keep : ∀ row, (g row).id = row.id)
    (row : db.stockTransfers.find? transfer.id = some transfer)
    (company : (g transfer).companyId = transfer.companyId)
    (still : reserving (g transfer).status = true → reserving transfer.status = true)
    (transfers : db'.stockTransfers = db.stockTransfers.update transfer.id g keep)
    (lines : bareLines db' = bareLines db) (stands : Stands moved db db') (bounded : Bounded db')
    (account : reservedOf db' + demand db transfer = reservedOf db + demand db (g transfer)) :
    Reserved db' := by
  refine ⟨?_, bounded, ?_, ?_⟩
  · have totals := db.stockTransfers.total_update transfer.id g keep (demand db) transfer row
    rw [reserved.account] at account
    unfold held
    rw [transfers, demand_congr db db' lines]
    exact add_right_cancel (account.trans totals.symm)
  · intro other member waiting line listed
    rw [linesOf_congr db db' lines] at listed
    rw [transfers] at member
    rcases (Table.mem_update _ _ g keep other).mp member with ⟨present, -⟩ | ⟨old, found, rfl⟩
    · exact (reserved.backed other present waiting line listed).stands stands
    · rw [row] at found
      cases found
      rw [keep] at listed
      rw [company]
      exact (reserved.backed transfer (Table.mem_of_find? _ _ _ row) (still waiting) line
        listed).stands stands
  · intro line member
    rw [lines] at member
    obtain ⟨owner, found⟩ := reserved.owned line member
    rw [transfers, Table.find?_update]
    split
    · exact ⟨g transfer, by rw [row]; rfl⟩
    · exact ⟨owner, found⟩

theorem Reserved.opened {moved : StockUnit → Prop} (reserved : Reserved db)
    (transfer : StockTransfer) (items : List TransferItem)
    (inserted : db.stockTransfers.insert? transfer = some db'.stockTransfers)
    (waiting : reserving transfer.status = true)
    (own : ∀ item ∈ items, item.transferId = transfer.id)
    (lines : bareLines db' = bareLines db ++ items.map bare)
    (backed : ∀ item ∈ items, Backed db' transfer.companyId item)
    (stands : Stands moved db db') (bounded : Bounded db')
    (account : reservedOf db' = reservedOf db + takesAll transfer items) : Reserved db' := by
  obtain ⟨rows, fresh⟩ := db.stockTransfers.insert?_some _ transfer inserted
  have ownBare : ∀ line ∈ items.map bare, line.transferId = transfer.id := by
    intro line member
    obtain ⟨item, present, rfl⟩ := List.mem_map.mp member
    exact own item present
  have unlisted : linesOf db transfer.id = [] := by
    rw [linesOf_eq, List.filter_eq_nil_iff]
    intro line member matched
    obtain ⟨owner, found⟩ := reserved.owned line member
    obtain ⟨present, keyed⟩ := (Table.find?_some _ _ _).mp found
    exact fresh owner present (keyed.trans (by simpa using matched))
  have ownLines : linesOf db' transfer.id = items.map bare := by
    rw [linesOf_eq, lines, List.filter_append, ← linesOf_eq, unlisted, List.nil_append,
      List.filter_eq_self]
    intro line member
    simpa using ownBare line member
  have otherLines := linesOf_opened db db' transfer.id items own lines
  refine ⟨?_, bounded, ?_, ?_⟩
  · have before : db.stockTransfers.total (demand db') = held db := by
      apply Table.total_congr
      intro other member
      unfold demand
      rw [otherLines other.id (fresh other member)]
    have own : demand db' transfer = takesAll transfer items := by
      unfold demand
      rw [if_pos waiting, ownLines, takesAll_bare]
    unfold held
    rw [Table.total_insert _ _ _ inserted, before, own, account, reserved.account]
  · intro other member status line listed
    rw [rows, List.mem_append, List.mem_singleton] at member
    rcases member with present | rfl
    · rw [otherLines other.id (fresh other present)] at listed
      exact (reserved.backed other present status line listed).stands stands
    · rw [ownLines] at listed
      obtain ⟨item, present, rfl⟩ := List.mem_map.mp listed
      exact backed item present
  · intro line member
    rw [Table.find?_insert _ _ _ inserted]
    split
    · exact ⟨transfer, rfl⟩
    · next apart =>
      rw [lines, List.mem_append] at member
      rcases member with old | new
      · exact reserved.owned line old
      · exact absurd (ownBare line new) apart

end ErpBackend.Transfers
