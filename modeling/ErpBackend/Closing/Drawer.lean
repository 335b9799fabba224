import ErpBackend.Closing.SignedOff

/-!
# The drawer, computed twice

`close` puts the expected cash together from the payments, the rollup and the suppliers'
figures; `buildChannels` sums the movements of the cash channel. Both are the same sum.
-/

namespace ErpBackend.Closing

open Foundation Analytics

/-- `COMPONENT_SIGN`. -/
def signed (component : Component) (amount : Int) : Int :=
  match component with
  | .salesIn => amount
  | .refundsOut => -amount
  | .supplierOut => -amount
  | .expensesOut => -amount
  | .correctionsIn => amount

theorem expected_add (sums : Components) (component : Component) (amount : Int) :
    (sums.add component amount).expected = sums.expected + signed component amount := by
  cases component with
  | salesIn => simp only [Components.add, Components.expected, signed]; omega
  | refundsOut => simp only [Components.add, Components.expected, signed]; omega
  | supplierOut => simp only [Components.add, Components.expected, signed]; omega
  | expensesOut => simp only [Components.add, Components.expected, signed]; omega
  | correctionsIn => simp only [Components.add, Components.expected, signed]; omega

def isCash (entry : (Channel × Option Id) × Components) : Bool := entry.1.1 = .cash

def DrawerHolds (buckets : Buckets) (expected : Int) : Prop :=
  ∃ sums : Components, buckets.filter isCash = [((.cash, none), sums)] ∧ sums.expected = expected

theorem filter_change (buckets : Buckets) (key : Channel × Option Id)
    (f : Components → Components) (present : buckets.any (fun entry => entry.1 = key) = true) :
    (buckets.change key f).filter isCash =
      (buckets.filter isCash).map (fun entry =>
        if entry.1 = key then (entry.1, f entry.2) else entry) := by
  unfold Buckets.change
  rw [if_pos present, List.filter_map]
  congr 1
  apply List.filter_congr
  intro entry _
  simp only [Function.comp_apply]
  split
  · rfl
  · rfl

variable {buckets : Buckets}

variable {expected : Int}

theorem DrawerHolds.cash (holds : DrawerHolds buckets expected) (component : Component)
    (amount : Int) :
    DrawerHolds (buckets.change (.cash, none) (fun sums => sums.add component amount))
      (expected + signed component amount) := by
  obtain ⟨sums, only, rfl⟩ := holds
  have member : ((Channel.cash, none), sums) ∈ buckets.filter isCash := by
    rw [only]
    exact List.mem_singleton_self _
  have present : buckets.any (fun entry => entry.1 = (Channel.cash, none)) = true :=
    List.any_eq_true.mpr ⟨_, (List.mem_filter.mp member).1, decide_eq_true rfl⟩
  refine ⟨sums.add component amount, ?_, expected_add sums component amount⟩
  rw [filter_change _ _ _ present, only]
  simp

theorem DrawerHolds.account (holds : DrawerHolds buckets expected) (accountId : Option Id)
    (f : Components → Components) :
    DrawerHolds (buckets.change (.account, accountId) f) expected := by
  obtain ⟨sums, only, same⟩ := holds
  refine ⟨sums, ?_, same⟩
  by_cases present : buckets.any (fun entry => entry.1 = (Channel.account, accountId)) = true
  · rw [filter_change _ _ _ present, only]
    simp
  · unfold Buckets.change
    rw [if_neg present, List.filter_append, only]
    rfl

def intoDrawer (movement : MovementRow) : Int :=
  if movement.channel = .cash then signed movement.component movement.amount else 0

variable (component : Component)

theorem signed_zero : signed component 0 = 0 := by
  cases component with
  | salesIn => rfl
  | refundsOut => rfl
  | supplierOut => rfl
  | expensesOut => rfl
  | correctionsIn => rfl

theorem DrawerHolds.movement (holds : DrawerHolds buckets expected) (movement : MovementRow) :
    DrawerHolds (addMovement buckets movement) (expected + intoDrawer movement) := by
  unfold addMovement intoDrawer
  by_cases nothing : movement.amount = 0
  · rw [if_pos nothing, nothing, signed_zero]
    simpa using holds
  · rw [if_neg nothing]
    cases channel : movement.channel with
    | cash => simpa [channel] using holds.cash movement.component movement.amount
    | account => simpa [channel] using holds.account movement.accountId _

theorem DrawerHolds.movements (holds : DrawerHolds buckets expected)
    (movements : List MovementRow) :
    DrawerHolds (movements.foldl addMovement buckets)
      (expected + (movements.map intoDrawer).sum) := by
  induction movements generalizing buckets expected with
  | nil => simpa using holds
  | cons movement rest ih =>
      have later := ih (holds.movement movement)
      rw [List.map_cons, List.sum_cons, ← Int.add_assoc]
      exact later

theorem DrawerHolds.accounts (holds : DrawerHolds buckets expected)
    (accounts : List ReceivingAccount) :
    DrawerHolds (accounts.foldl (fun buckets account =>
      buckets.change (.account, some account.id) id) buckets) expected := by
  induction accounts generalizing buckets with
  | nil => exact holds
  | cons account rest ih => exact ih (holds.account (some account.id) id)

theorem bucketsOf_holds (movements : List MovementRow) (accounts : List ReceivingAccount) :
    DrawerHolds (bucketsOf movements accounts) (movements.map intoDrawer).sum := by
  have empty : DrawerHolds (Buckets.change [] (.cash, none) id) 0 := ⟨{}, rfl, rfl⟩
  have full := (empty.accounts (accounts.filter ReceivingAccount.isActive)).movements movements
  rw [Int.zero_add] at full
  exact full

theorem cash_channel (movements : List MovementRow) (accounts : List ReceivingAccount) :
    ((buildChannels movements accounts).filter (fun row => row.channel = .cash)).map
      ChannelRow.expected = [(movements.map intoDrawer).sum] := by
  obtain ⟨sums, only, expected⟩ := bucketsOf_holds movements accounts
  have rows : ((bucketsOf movements accounts).map (channelRow accounts)).filter
      (fun row => row.channel = .cash) = [channelRow accounts ((.cash, none), sums)] := by
    rw [List.filter_map]
    have cash : (bucketsOf movements accounts).filter
        ((fun row => decide (row.channel = Channel.cash)) ∘ channelRow accounts) =
          (bucketsOf movements accounts).filter isCash := rfl
    rw [cash, only]
    rfl
  have sorted : ((buildChannels movements accounts).filter (fun row => row.channel = .cash)).Perm
      [channelRow accounts ((.cash, none), sums)] := by
    rw [← rows]
    exact (List.perm_insertionSort _ _).filter _
  rw [List.perm_singleton.mp sorted, ← expected]
  rfl

theorem sum_at {κ : Type} [DecidableEq κ] (keys : List κ) (distinct : keys.Nodup) (key : κ)
    (value : Int) : (keys.map (fun other => if other = key then value else 0)).sum =
      if key ∈ keys then value else 0 := by
  induction keys with
  | nil => rfl
  | cons head tail ih =>
      obtain ⟨fresh, rest⟩ := List.nodup_cons.mp distinct
      rw [List.map_cons, List.sum_cons, ih rest]
      by_cases same : head = key
      · subst same
        simp [fresh]
      · simp [same, Ne.symm same]

theorem grouped_cash (movements : List ((Channel × Option Id) × Int))
    (drawer : ∀ movement ∈ movements, movement.1.1 = .cash → movement.1.2 = none) :
    ((grouped component movements).map intoDrawer).sum =
      signed component ((movements.filter (fun movement => movement.1.1 = .cash)).map
        Prod.snd).sum := by
  have only : ∀ key ∈ (movements.map Prod.fst).dedup, key.1 = Channel.cash →
      key = (.cash, none) := by
    intro key member cash
    obtain ⟨movement, there, rfl⟩ := List.mem_map.mp (List.mem_dedup.mp member)
    exact Prod.ext cash (drawer movement there cash)
  have same : movements.filter (fun movement => movement.1.1 = .cash) =
      movements.filter (fun movement => movement.1 = (Channel.cash, none)) := by
    apply List.filter_congr
    intro movement member
    by_cases cash : movement.1.1 = .cash
    · simp [Prod.ext_iff, cash, drawer movement member cash]
    · simp [Prod.ext_iff, cash]
  have value : ∀ key ∈ (movements.map Prod.fst).dedup,
      intoDrawer
        { accountId := key.2
          channel := key.1
          component
          amount := ((movements.filter (fun movement => movement.1 = key)).map Prod.snd).sum } =
      if key = (.cash, none) then signed component ((movements.filter (fun movement =>
        movement.1.1 = .cash)).map Prod.snd).sum else 0 := by
    intro key member
    unfold intoDrawer
    by_cases cash : key.1 = .cash
    · have own := only key member cash
      rw [if_pos cash, if_pos own, same, own]
    · have other : key ≠ (.cash, none) := fun equal => cash (congrArg Prod.fst equal)
      rw [if_neg cash, if_neg other]
  have rows : (grouped component movements).map intoDrawer =
      (movements.map Prod.fst).dedup.map (fun key => if key = (Channel.cash, none) then
        signed component ((movements.filter (fun movement => movement.1.1 = .cash)).map
          Prod.snd).sum else 0) := by
    unfold grouped
    rw [List.map_map]
    exact List.map_congr_left value
  rw [rows, sum_at _ (List.nodup_dedup _)]
  split
  · rfl
  · next absent =>
    have nothing : movements.filter (fun movement => movement.1.1 = .cash) = [] := by
      rw [same]
      apply List.filter_eq_nil_iff.mpr
      intro movement member own
      apply absent
      rw [List.mem_dedup, List.mem_map]
      exact ⟨movement, member, of_decide_eq_true own⟩
    rw [nothing]
    exact (signed_zero component).symm

theorem grouped_rows {α : Type} (rows : List α)
    (key : α → Channel × Option Id) (amount : α → Int) (cash : α → Bool)
    (drawer : ∀ row, cash row = true → key row = (.cash, none))
    (account : ∀ row, cash row = false → (key row).1 = .account) :
    ((grouped component (rows.map (fun row => (key row, amount row)))).map intoDrawer).sum =
      signed component ((rows.filter cash).map amount).sum := by
  have agree : ∀ row, decide ((key row).1 = Channel.cash) = cash row := by
    intro row
    cases paid : cash row with
    | true => rw [drawer row paid]; rfl
    | false => rw [account row paid]; rfl
  have none_named : ∀ movement ∈ rows.map (fun row => (key row, amount row)),
      movement.1.1 = .cash → movement.1.2 = none := by
    intro movement member own
    obtain ⟨row, -, rfl⟩ := List.mem_map.mp member
    have paid : cash row = true := (agree row).symm.trans (decide_eq_true own)
    exact congrArg Prod.snd (drawer row paid)
  have chosen : (fun movement : (Channel × Option Id) × Int => decide (movement.1.1 = .cash)) ∘
      (fun row => (key row, amount row)) = cash := funext agree
  rw [grouped_cash component _ none_named, List.filter_map, List.map_map, chosen]
  rfl

theorem channelOf_cash (method : Method) (accountId : Option Id)
    (cash : decide (method = .cash) = true) : channelOf method accountId = (.cash, none) := by
  cases method with
  | cash => rfl
  | account => cases cash

theorem channelOf_account (method : Method) (accountId : Option Id)
    (account : decide (method = .cash) = false) :
    (channelOf method accountId).1 = .account := by
  cases method with
  | cash => cases account
  | account => rfl

theorem drawer_movements (db : Db) (companyId branchId : Id) (day : Day) :
    ((channelMovements db companyId branchId day).map intoDrawer).sum =
      expectedCash (cashTaken db companyId branchId day) (dayFigures db companyId branchId day)
        (Suppliers.paidOn db companyId branchId day) := by
  have sales := grouped_rows .salesIn (db.payments.filter (fun payment =>
      payment.companyId = companyId ∧ saleOn db branchId day payment.saleId))
    (fun payment => if payment.method = .cash then (Channel.cash, none)
      else (.account, payment.receivingAccountId)) Payment.amount
    (fun payment => payment.method = .cash)
    (fun payment cash => if_pos (of_decide_eq_true cash))
    (fun payment other => congrArg Prod.fst (if_neg (of_decide_eq_false other)))
  have refunds := grouped_rows .refundsOut
    (db.refundPayouts.filter (refundedOn companyId branchId day))
    (fun payout => channelOf payout.method payout.receivingAccountId) RefundPayout.reportedAmount
    (fun payout => payout.method = .cash) (fun _ => channelOf_cash _ _)
    (fun _ => channelOf_account _ _)
  have suppliers := grouped_rows .supplierOut (db.supplierSettlements.filter (fun row =>
      row.companyId = companyId ∧ row.branchId = branchId ∧ row.status = .confirmed ∧
        row.confirmationDate = some day))
    (fun row => channelOf row.method row.receivingAccountId) SupplierSettlement.amount
    (fun row => row.method = .cash) (fun _ => channelOf_cash _ _)
    (fun _ => channelOf_account _ _)
  have expenses := grouped_rows .expensesOut (db.expenses.filter (spentOn companyId branchId day))
    (fun expense => channelOf expense.method expense.receivingAccountId) Expense.amount
    (fun expense => expense.method = .cash) (fun _ => channelOf_cash _ _)
    (fun _ => channelOf_account _ _)
  have corrections := grouped_rows .correctionsIn
    (db.financialCorrections.filter (correctedOn companyId branchId day))
    (fun correction => channelOf correction.method (correctedAccount db correction))
    FinancialCorrection.amount (fun correction => correction.method = .cash)
    (fun _ => channelOf_cash _ _) (fun _ => channelOf_account _ _)
  have taken : (db.payments.filter (fun payment => payment.companyId = companyId ∧
      saleOn db branchId day payment.saleId)).filter (fun payment => payment.method = .cash) =
      db.payments.filter (fun payment => payment.companyId = companyId ∧
        payment.method = .cash ∧ saleOn db branchId day payment.saleId) := by
    unfold Table.filter
    rw [List.filter_filter]
    apply List.filter_congr
    intro payment _
    by_cases cash : payment.method = .cash
    · simp [cash]
    · simp [cash]
  rw [taken] at sales
  unfold channelMovements
  simp only [List.map_append, List.sum_append]
  rw [sales, refunds, suppliers, expenses, corrections]
  simp only [signed, expectedCash, cashTaken, dayFigures, figuresOf, refundTotals, expenseTotals,
    correctionTotals, Suppliers.paidOn]
  omega

/-- A branch-day of a company. Nobody signs a day off at a branch they are not assigned to,
so its rollup is the company's. -/
structure StoreDay (db : Db) (companyId branchId : Id) (day : Day) : Prop where
  own : ∀ rollup, rollupOn db branchId day = some rollup → rollup.companyId = companyId

/-- What `close` freezes as the expected cash is what the cash channel of the same day
expects, and there is one such channel. -/
theorem closing_agrees_with_channel (ctx : Ctx) (ids : ClosingIds) (dto : CreateClosingDto)
    (db db' : Db) (summary : ClosingSummary)
    (closed : (close ctx ids dto).run db = (db', .ok summary)) (branchId : Id)
    (branch : ctx.branchId = some branchId)
    (store : StoreDay db ctx.companyId branchId summary.date) :
    ∃ closing rows, findClosing db' ctx.companyId branchId summary.date = some closing ∧
      closing.isLocked = true ∧
      (expectedChannels .other ctx.companyId branchId summary.date).run db = (db, .ok rows) ∧
      (rows.filter (fun row => row.channel = .cash)).map ChannelRow.expected =
        [closing.expectedCash] := by
  obtain ⟨branch', same, signs⟩ := close_signs ctx ids dto db db' summary closed
  obtain rfl : branchId = branch' := Option.some.inj (branch.symm.trans same)
  obtain ⟨closing, found, bears⟩ := signs.signed.closing
  obtain ⟨rollup, stored, figures⟩ := signs.rollup
  have owner : rollup.companyId = ctx.companyId := by
    rcases before : rollupOn db branchId summary.date with _ | old
    · obtain ⟨rollup', stored', company⟩ := signs.new before
      obtain rfl := Option.some.inj (stored.symm.trans stored')
      exact company
    · obtain ⟨rollup', stored', company⟩ := signs.owner old before
      obtain rfl := Option.some.inj (stored.symm.trans stored')
      exact company.trans (store.own old before)
  have read : summary.figures = dayFigures db ctx.companyId branchId summary.date := by
    rw [signs.figures, ← figures]
    unfold rolledUp
    rw [stored, Option.filter_some, if_pos (decide_eq_true owner)]
    rfl
  refine ⟨closing, _, found, bears.isLocked, rfl, ?_⟩
  have cash := signs.cash
  rw [read] at cash
  rw [cash_channel, drawer_movements, bears.expectedCash]
  dsimp only
  rw [cash]

/-- A charger was paid in cash before the day was signed off. -/
theorem closing_agrees_with_channel_sold :
    ∃ closing rows, findClosing (signedDay (runAll shelf
        [chargerSale none ⟨100000, by decide⟩])) 10 1 0 = some closing ∧
      closing.expectedCash = 100000 ∧
      (expectedChannels .other 10 1 0).run (runAll shelf [chargerSale none ⟨100000, by decide⟩]) =
        (runAll shelf [chargerSale none ⟨100000, by decide⟩], .ok rows) ∧
      (rows.filter (fun row => row.channel = .cash)).map ChannelRow.expected =
        [closing.expectedCash] := by
  obtain ⟨summary, closed, date⟩ := signedDay_run
    (runAll shelf [chargerSale none ⟨100000, by decide⟩]) (by decide +kernel)
  have unrolled : rollupOn (runAll shelf [chargerSale none ⟨100000, by decide⟩]) 1 0 = none :=
    List.find?_eq_none.mpr (by decide +kernel)
  have store : StoreDay (runAll shelf [chargerSale none ⟨100000, by decide⟩]) 10 1
      summary.date := by
    constructor
    intro rollup found
    rw [date, unrolled] at found
    cases found
  obtain ⟨closing, rows, found, -, read, agrees⟩ := closing_agrees_with_channel _ _ _ _ _ summary
    closed 1 rfl store
  rw [date] at found read
  have frozen : (findClosing (signedDay (runAll shelf [chargerSale none ⟨100000, by decide⟩])) 10 1
      0).map DailyClosing.expectedCash = some 100000 := by decide +kernel
  refine ⟨closing, rows, found, ?_, read, agrees⟩
  rw [show findClosing _ 10 1 0 = some closing from found] at frozen
  exact Option.some.inj frozen

end ErpBackend.Closing
