import ErpBackend.Consignment.Standing

/-!
# The receivable of a sale

`reportSold` adds up the agreed amounts of the lines it takes, and each line
carries the amount agreed for the whole consignment.
-/

namespace ErpBackend.Consignments

open Foundation

def raisedTotal (db : Db) (id : Id) : Int :=
  (((ledgerOf db id).filter (fun entry => entry.kind = .receivableRaised)).map
    ConsignmentLedgerEntry.amount).sum

/-- The receivable is the agreed amount once every line is sold, and never more. -/
def RaisesAgreed (db : Db) (id : Id) : Prop :=
  ∀ c amount, db.consignments.find? id = some c → c.agreedAmount = some amount →
    ((∀ line ∈ linesOf db id, line.status = .sold) → raisedTotal db id = amount) ∧
      raisedTotal db id ≤ amount

theorem sold_raises (ctx : Ctx) (fresh id : Id) (dto : ReportSoldDto) (db : Db) (kept : Kept db)
    (ok : Call.accepted ⟨ctx, .reportSold fresh id dto⟩ db = true) :
    ∃ c amount, 0 < amount ∧ c.agreedAmount = some amount ∧
      (Call.exec ⟨ctx, .reportSold fresh id dto⟩ db).1.consignments.find? id = some c ∧
      raisedTotal (Call.exec ⟨ctx, .reportSold fresh id dto⟩ db).1 id =
        (selectLines dto (custodyLines db id)).length * amount ∧
      selectLines dto (custodyLines db id) ≠ [] := by
  have accepted := accepted_of_exec ⟨ctx, .reportSold fresh id dto⟩ db ok
  generalize (Call.exec ⟨ctx, .reportSold fresh id dto⟩ db).1 = db' at accepted ⊢
  cases accepted with
  | sold _ _ _ c side next _ reads moved nonempty committed =>
      have key := db.consignments.key_of_find? id c reads.found
      subst key
      have standing := kept.standing c.id c reads.found
      obtain ⟨source, -⟩ := (assertTransition_ok _ _ _ _ _).mp moved
      obtain ⟨-, amount, agreed⟩ := standing.phase.held (by simpa [transitions] using source)
      have own : ∀ line ∈ selectLines dto (custodyLines db c.id), line ∈ linesOf db c.id :=
        fun line member => (List.mem_filter.mp (mem_selectLines dto _ line member)).1
      have becomes := sold_becomes ctx fresh c next _ db db' reads.found own committed
      refine ⟨advanced next c, amount, agreed.positive, agreed.agreed, becomes.found, ?_, nonempty⟩
      have carried := raised_eq (selectLines dto (custodyLines db c.id)) amount
        (fun line member => (agreed.lines line (own line member)).2)
      unfold raisedTotal
      rw [becomes.ledger, agreed.ledger]
      simpa [entryFor] using carried

/-- A report raises what was agreed exactly when it takes one line. -/
theorem reportSold_raisesAgreed_iff (start db : Db) (history : List Event)
    (empty : NoConsignments start) (reached : Reaches start db history) (ctx : Ctx)
    (fresh id : Id) (dto : ReportSoldDto)
    (ok : Call.accepted ⟨ctx, .reportSold fresh id dto⟩ db = true) :
    RaisesAgreed (Call.exec ⟨ctx, .reportSold fresh id dto⟩ db).1 id ↔
      (selectLines dto (custodyLines db id)).length = 1 := by
  obtain ⟨c, amount, positive, agreed, found, total, nonempty⟩ :=
    sold_raises ctx fresh id dto db (reaches_kept start db history empty reached) ok
  have some : 0 < (selectLines dto (custodyLines db id)).length :=
    List.length_pos_iff.mpr nonempty
  generalize (selectLines dto (custodyLines db id)).length = count at total some ⊢
  constructor
  · intro raises
    have bound := (raises c amount found agreed).2
    rw [total] at bound
    by_contra several
    have two : (2 : Int) ≤ count := by omega
    have double : 2 * amount ≤ count * amount :=
      Int.mul_le_mul_of_nonneg_right two (by omega)
    omega
  · intro one c' amount' found' agreed'
    rw [found] at found'
    cases found'
    rw [agreed] at agreed'
    cases agreed'
    rw [total, one]
    simp

def sender : Ctx := ⟨10, some 1, some 11, 0⟩

def holder : Ctx := ⟨20, some 2, some 21, 0⟩

def phone (id : Id) (imei : String) : StockUnit where
  id := id
  companyId := 10
  productId := 3
  branchId := 1
  imeiPrimary := some imei
  imeiSecondary := none
  serialNo := none
  cost := 20000
  status := .inStock
  dateSold := none

/-- Two phones in stock, a connected shop and one without an account. -/
def shelf : Db where
  storeConnections := ⟨[{
    id := 7
    requesterCompanyId := 10
    addresseeCompanyId := 20
    status := .accepted }], by decide⟩
  counterparties := ⟨[⟨5, 10, .connectedStore, some 20, some 7, true, "", none, none⟩,
    ⟨6, 10, .manualStore, none, none, true, "", none, none⟩], by decide⟩
  units := ⟨[phone 301 "356938035643809", phone 302 "490154203237518"], by decide⟩

theorem shelf_noConsignments : NoConsignments shelf := ⟨rfl, rfl, rfl⟩

/-- Consignment 100 of the given phones for 500.00, up to the holder's receipt. -/
def delivery (unitIds : List Id) : List Call :=
  [⟨sender, .create 100 (fun index => 200 + index)
      { counterpartyId := 5
        unitIds
        proposedAmount := 50000
        note := none
        clientUuid := none }⟩,
    ⟨holder, .decide 100 { action := .accept }⟩,
    ⟨sender, .custody 100 { action := .send }⟩,
    ⟨holder, .custody 100 { action := .confirm }⟩]

/-- Both phones are sold: 1000.00 is raised where 500.00 was agreed. -/
theorem reportSold_pair_raises_double :
    Call.accepted ⟨holder, .reportSold 400 100 {}⟩ (play shelf (delivery [301, 302])).1 = true ∧
      raisedTotal (Call.exec ⟨holder, .reportSold 400 100 {}⟩
        (play shelf (delivery [301, 302])).1).1 100 = 100000 ∧
      ¬ ∀ (start db : Db) (history : List Event), NoConsignments start →
        Reaches start db history → ∀ (ctx : Ctx) (fresh id : Id) (dto : ReportSoldDto),
        Call.accepted ⟨ctx, .reportSold fresh id dto⟩ db = true →
        RaisesAgreed (Call.exec ⟨ctx, .reportSold fresh id dto⟩ db).1 id := by
  have ok : Call.accepted ⟨holder, .reportSold 400 100 {}⟩
      (play shelf (delivery [301, 302])).1 = true := by decide
  have total : raisedTotal (Call.exec ⟨holder, .reportSold 400 100 {}⟩
      (play shelf (delivery [301, 302])).1).1 100 = 100000 := by decide
  have agreed : ((Call.exec ⟨holder, .reportSold 400 100 {}⟩
      (play shelf (delivery [301, 302])).1).1.consignments.find? 100).bind
      Consignment.agreedAmount = some 50000 := by decide
  refine ⟨ok, total, fun claim => ?_⟩
  obtain ⟨c, found, amount⟩ := Option.bind_eq_some_iff.mp agreed
  have bound := (claim shelf _ _ shelf_noConsignments
    (reaches_play shelf (delivery [301, 302])) holder 400 100 {} ok c 50000 found amount).2
  rw [total] at bound
  exact absurd bound (by decide)

theorem reportSold_raisesAgreed_iff_single :
    Call.accepted ⟨holder, .reportSold 400 100 {}⟩ (play shelf (delivery [301])).1 = true ∧
      (RaisesAgreed (Call.exec ⟨holder, .reportSold 400 100 {}⟩
          (play shelf (delivery [301])).1).1 100 ↔
        (selectLines {} (custodyLines (play shelf (delivery [301])).1 100)).length = 1) := by
  have ok : Call.accepted ⟨holder, .reportSold 400 100 {}⟩
      (play shelf (delivery [301])).1 = true := by decide
  exact ⟨ok, reportSold_raisesAgreed_iff shelf _ _ shelf_noConsignments
    (reaches_play shelf (delivery [301])) holder 400 100 {} ok⟩

end ErpBackend.Consignments
