import ErpBackend.Closing.SignedOff
import ErpBackend.Expenses.Effects
import ErpBackend.Suppliers.Effects

/-!
# A locked day

Approvals, confirmations and corrections look up the closing of the day they post to.
A sale does not, and neither does the confirmation of a fixed expense.
-/

namespace ErpBackend.Closing

open Foundation Analytics Inventory

/-- The income statement as a day's closing and digest hold it; the expenses are what
lies between gross and net profit. -/
def frozenIncome (closing : DailyClosing) (digest : DailyDigest) : Income where
  revenue := closing.totalSales
  cogs := digest.costOfGoodsSold
  grossProfit := digest.grossProfit
  expenses := digest.grossProfit - closing.totalReturnsProfitImpact - closing.totalProfit
  netProfit := closing.totalProfit
  returnsRevenue := closing.totalReturns
  returnsCogs := closing.totalReturnsCogsCredited
  returnsAdjustments := closing.totalReturnAdjustments
  returnsGrossProfit := closing.totalReturnsProfitImpact

/-- The day's rollup as it reads after it was recomputed once more. -/
def rerun (db : Db) (companyId branchId : Id) (day : Day) (now : Time) (id : Id) : DayFigures :=
  rolledUp ((recomputeDaily (M := Unit) () companyId branchId day now id).run db).1
    companyId branchId day

section Day

variable (companyId branchId : Id) (day : Day)

def DayLocked (db : Db) : Prop :=
  (findClosing db companyId branchId day).any DailyClosing.isLocked = true

/-- Closings and digests stay, sales are not taken back, and what an expense is does not
change. -/
structure Lasting (db db' : Db) : Prop where
  closings : db'.dailyClosings = db.dailyClosings
  digests : db'.dailyDigests = db.dailyDigests
  rollup : ∀ branch date rollup, rollupOn db branch date = some rollup →
    ∃ rollup', rollupOn db' branch date = some rollup' ∧ rollup'.companyId = rollup.companyId
  sales : ∀ sale ∈ db.sales.rows, sale ∈ db'.sales.rows
  expense : ∀ id row, db.expenses.find? id = some row →
    ∃ row', db'.expenses.find? id = some row' ∧ row'.companyId = row.companyId ∧
      row'.branchId = row.branchId ∧ row'.expenseClass = row.expenseClass ∧
      (row.status = .confirmed → row' = row)

/-- In between, the store took no sale on the day, and confirmed no fixed expense due on
it. -/
structure Spares (db db' : Db) : Prop where
  sale : ∀ sale ∈ db'.sales.rows, sale.branchId = branchId → dayKey sale.soldAt = day →
    sale ∈ db.sales.rows
  expense : ∀ expense ∈ db'.expenses.rows, spentOn companyId branchId day expense = true →
    expense.expenseClass = ExpenseClass.fixed → expense ∈ db.expenses.rows

theorem Lasting.refl (db : Db) : Lasting db db where
  closings := rfl
  digests := rfl
  rollup _ _ rollup found := ⟨rollup, found, rfl⟩
  sales _ member := member
  expense _ row found := ⟨row, found, rfl, rfl, rfl, fun _ => rfl⟩

theorem Lasting.trans {db db' db'' : Db} (first : Lasting db db') (second : Lasting db' db'') :
    Lasting db db'' where
  closings := second.closings.trans first.closings
  digests := second.digests.trans first.digests
  rollup branch date rollup found := by
    obtain ⟨rollup', found', same'⟩ := first.rollup branch date rollup found
    obtain ⟨rollup'', found'', same''⟩ := second.rollup branch date rollup' found'
    exact ⟨rollup'', found'', same''.trans same'⟩
  sales sale member := second.sales sale (first.sales sale member)
  expense id row found := by
    obtain ⟨row', found', company', branch', class', kept'⟩ := first.expense id row found
    obtain ⟨row'', found'', company'', branch'', class'', kept''⟩ := second.expense id row' found'
    refine ⟨row'', found'', company''.trans company', branch''.trans branch',
      class''.trans class', fun confirmed => ?_⟩
    have same := kept' confirmed
    subst same
    exact kept'' confirmed

theorem Lasting.locked {db db' : Db} (held : Lasting db db')
    (locked : DayLocked companyId branchId day db) : DayLocked companyId branchId day db' := by
  unfold DayLocked findClosing at locked ⊢
  rw [held.closings]
  exact locked

variable {companyId branchId day}

theorem Spares.split {db db' db'' : Db} (first : Lasting db db') (second : Lasting db' db'')
    (spared : Spares companyId branchId day db db'') :
    Spares companyId branchId day db db' ∧ Spares companyId branchId day db' db'' := by
  refine ⟨⟨?_, ?_⟩, ⟨?_, ?_⟩⟩
  · intro sale member branch date
    exact spared.sale sale (second.sales sale member) branch date
  · intro expense member counted fixed
    have confirmed : expense.status = .confirmed := (of_decide_eq_true counted).2.2.1
    obtain ⟨expense', found, -, -, -, same⟩ := second.expense expense.id expense
      ((Table.find?_some _ _ _).mpr ⟨member, rfl⟩)
    rw [same confirmed] at found
    exact spared.expense expense (Table.mem_of_find? _ _ _ found) counted fixed
  · intro sale member branch date
    exact first.sales sale (spared.sale sale member branch date)
  · intro expense member counted fixed
    have confirmed : expense.status = .confirmed := (of_decide_eq_true counted).2.2.1
    have before := spared.expense expense member counted fixed
    obtain ⟨expense', found, -, -, -, same⟩ := first.expense expense.id expense
      ((Table.find?_some _ _ _).mpr ⟨before, rfl⟩)
    rw [same confirmed] at found
    exact Table.mem_of_find? _ _ _ found

/-- A statement is later than the lock, and changes the day's income only by a sale of
the day or a fixed expense due on it. -/
structure Posts (companyId branchId : Id) (day : Day) (db db' : Db) : Prop where
  held : Lasting db db'
  income : Spares companyId branchId day db db' →
    income db' companyId branchId day = income db companyId branchId day

theorem Posts.refl (db : Db) : Posts companyId branchId day db db := ⟨.refl db, fun _ => rfl⟩

theorem Posts.aside {db db' : Db} (facts : SameFacts db db')
    (closings : db'.dailyClosings = db.dailyClosings)
    (digests : db'.dailyDigests = db.dailyDigests)
    (rollups : db'.dailyRollups = db.dailyRollups) : Posts companyId branchId day db db' where
  held :=
    { closings
      digests
      rollup := fun branch date rollup found => ⟨rollup, by
        unfold rollupOn at found ⊢
        rw [rollups]
        exact found, rfl⟩
      sales := fun sale member => by rw [facts.sales]; exact member
      expense := fun id row found => ⟨row, by rw [facts.expenses]; exact found, rfl, rfl, rfl,
        fun _ => rfl⟩ }
  income _ := facts.income companyId branchId day

theorem Posts.recompute {company branch : Id} {date : Day} {now : Time} {id : Id}
    {figures : DayFigures} {db db' : Db}
    (done : upsertRollup company branch date now id figures db = .ok db') :
    Posts companyId branchId day db db' := by
  have kept : ∀ branch date rollup, rollupOn db branch date = some rollup →
      ∃ rollup', rollupOn db' branch date = some rollup' ∧
        rollup'.companyId = rollup.companyId := by
    intro _ _ rollup found
    obtain ⟨rollup', found', same, -⟩ := upsertRollup_kept done found
    exact ⟨rollup', found', same⟩
  obtain ⟨dailyRollups, rfl⟩ := upsertRollup_ok _ _ _ _ _ _ _ _ done
  exact ⟨{ Lasting.refl db with rollup := kept }, fun _ => income_congr rfl rfl rfl rfl _ _ _⟩

theorem Posts.sell {saleDiscount : Int} {sale : Sale} {db db' : Db}
    (enters : Sales.Enters saleDiscount db sale db') : Posts companyId branchId day db db' := by
  cases enters with
  | enter items entered branchCounters sales saleItems units stockItems payments customers
      inserted listed =>
    obtain ⟨rows, fresh⟩ := Table.insert?_some _ _ _ inserted
    constructor
    · exact
        { Lasting.refl db with
          sales := fun other member => by
            change other ∈ sales.rows
            rw [rows]
            exact List.mem_append_left _ member }
    · intro spared
      have off : ¬ (sale.branchId = branchId ∧ dayKey sale.soldAt = day) := by
        rintro ⟨branch, date⟩
        have there : sale ∈ sales.rows := by
          rw [rows]
          exact List.mem_append_right _ (List.mem_singleton_self sale)
        exact fresh sale (spared.sale sale there branch date) rfl
      -- a line is of the day through its sale, and the new sale is of another day
      have none_new : items.filter (soldOn { db with sales } companyId branchId day) = [] := by
        apply List.filter_eq_nil_iff.mpr
        intro item member counted
        obtain ⟨-, -, found⟩ := of_decide_eq_true counted
        rw [Table.find?_insert _ _ _ inserted, if_pos (entered.own item member).1] at found
        exact off (of_decide_eq_true found)
      have as_before : ∀ item, soldOn { db with sales } companyId branchId day item =
          soldOn db companyId branchId day item := by
        intro item
        unfold soldOn
        dsimp only
        rw [Table.find?_insert _ _ _ inserted]
        split
        · next own =>
          have absent : db.sales.find? item.saleId = none := by
            apply (Table.find?_none _ _).mpr
            intro other member key
            exact fresh other member (key.trans own)
          rw [absent]
          simp [off]
        · rfl
      refine income_of_counted ?_ rfl rfl
      change saleItems.filter (soldOn { db with sales } companyId branchId day) = _
      unfold Table.filter
      rw [listed, List.filter_append, none_new, List.append_nil]
      exact List.filter_congr (fun item _ => as_before item)

theorem Posts.reverse {ctx : Ctx} {branch id : Id} {loaded : Returns.LoadedReturn}
    {settled : Returns.SettledRefund} {isException : Bool} {dto : Returns.ApproveReturnDto}
    {db db' : Db} (off : ctx.companyId = companyId → branch = branchId → ctx.today ≠ day)
    (written : Returns.writeApproval ctx loaded isException dto
      (Returns.newReversal ctx branch id loaded settled) db = .ok db') :
    Posts companyId branchId day db db' := by
  obtain ⟨moved, swapped, written⟩ := (except_bind_ok _ _ _).mp written
  obtain ⟨reversed, added, placed⟩ := (except_bind_ok _ _ _).mp written
  obtain ⟨row, found, -, -, -, rfl⟩ := (Returns.swapRequest_ok _ _ _ _ _ _ _).mp swapped
  obtain ⟨-, -, -, -, returnReversals, inserted, rfl⟩ := Returns.insertReversal_ok _ _ _ added
  obtain ⟨-, unit, -, -, -, rfl⟩ := Returns.moveUnitForCustody_ok _ _ _ _ _ _ placed
  constructor
  · exact { Lasting.refl db with }
  · intro _
    have reversals : returnReversals.filter (reversedOn companyId branchId day) =
        db.returnReversals.filter (reversedOn companyId branchId day) := by
      unfold Table.filter
      rw [(Table.insert?_some _ _ _ inserted).1, List.filter_append]
      have none_new : [Returns.newReversal ctx branch id loaded settled].filter
          (reversedOn companyId branchId day) = [] := by
        apply List.filter_eq_nil_iff.mpr
        intro reversal member counted
        obtain rfl := List.mem_singleton.mp member
        obtain ⟨company, store, date⟩ := of_decide_eq_true counted
        exact off company store date
      rw [none_new, List.append_nil]
    exact income_of_counted rfl reversals rfl

/-- A reported expense is decided: it counts on the day only if it is a confirmed fixed one
due on it. -/
theorem Posts.decide {expense : Expense} {id : Id} {f : Expense → Expense}
    {keep : ∀ row, (f row).id = row.id} {db : Db}
    (found : db.expenses.find? id = some expense) (reported : expense.status = .reported)
    (same : (f expense).companyId = expense.companyId ∧
      (f expense).branchId = expense.branchId ∧
      (f expense).expenseClass = expense.expenseClass)
    (off : (f expense).expenseClass = ExpenseClass.variable →
      spentOn companyId branchId day (f expense) = false) :
    Posts companyId branchId day db { db with expenses := db.expenses.update id f keep } := by
  have key : expense.id = id := Table.key_of_find? _ _ _ found
  constructor
  · have expense' : ∀ other row, db.expenses.find? other = some row →
        ∃ row', (db.expenses.update id f keep).find? other = some row' ∧
          row'.companyId = row.companyId ∧ row'.branchId = row.branchId ∧
          row'.expenseClass = row.expenseClass ∧ (row.status = .confirmed → row' = row) := by
      intro other row present
      refine ⟨_, Table.find?_update_of_found _ _ _ _ _ _ present, ?_⟩
      split
      · next equal =>
        subst equal
        rw [found] at present
        cases present
        refine ⟨same.1, same.2.1, same.2.2, fun confirmed => ?_⟩
        rw [reported] at confirmed
        cases confirmed
      · exact ⟨rfl, rfl, rfl, fun _ => rfl⟩
    exact { Lasting.refl db with expense := expense' }
  · intro spared
    -- neither the row as it was nor the row as it is counts on the day
    have before : spentOn companyId branchId day expense = false := by
      apply decide_eq_false
      rintro ⟨-, -, confirmed, -⟩
      rw [reported] at confirmed
      cases confirmed
    have after : spentOn companyId branchId day (f expense) = false := by
      by_contra counted
      rw [Bool.not_eq_false] at counted
      by_cases fixed : (f expense).expenseClass = ExpenseClass.fixed
      · have there : f expense ∈ (db.expenses.update id f keep).rows :=
          (Table.mem_update _ _ _ _ _).mpr (.inr ⟨expense, found, rfl⟩)
        have standing := spared.expense (f expense) there counted fixed
        have one : f expense = expense := Table.key_injective _ _ _ standing
          (Table.mem_of_find? _ _ _ found) (keep expense)
        rw [one, before] at counted
        cases counted
      · have other : (f expense).expenseClass = ExpenseClass.variable := by
          cases kind : (f expense).expenseClass
          · rfl
          · exact absurd kind fixed
        rw [off other] at counted
        cases counted
    have spent : (db.expenses.update id f keep).filter (spentOn companyId branchId day) =
        db.expenses.filter (spentOn companyId branchId day) := by
      unfold Table.update
      apply Table.filter_modify_of_uncounted
      intro row member matched
      have equal : row.id = id := of_decide_eq_true matched
      obtain rfl : row = expense := Table.key_injective _ _ _ member
        (Table.mem_of_find? _ _ _ found) (equal.trans key.symm)
      exact ⟨before, after⟩
    exact income_of_counted rfl rfl spent

variable (companyId branchId day)

def books (M : Type) : Discipline Db M where
  inv := DayLocked companyId branchId day
  guar _ := Posts companyId branchId day
  rely _ := Lasting
  rely_refl _ := .refl
  rely_trans _ _ _ _ first second := first.trans second

section Rules

variable {M α β : Type} (db : Db)

theorem booked_prefix (p : Prog Db M Refusal α) (f : α → Prog Db M Refusal β) (reads : p.Reads)
    (rest : ∀ a db', Lasting db db' → (books companyId branchId day M).Safe (f a) db') :
    (books companyId branchId day M).Safe (p >>= f) db :=
  (books companyId branchId day M).safe_reads p f db Lasting .refl (fun _ _ _ => .trans)
    (fun _ _ _ held => held) (fun _ => .refl) reads rest

theorem booked_reads (p : Prog Db M Refusal α) (reads : p.Reads) :
    (books companyId branchId day M).Safe p db :=
  (books companyId branchId day M).safe_of_reads p db (fun _ => .refl) reads

theorem booked_read (m : M) (query : Db → α) (f : α → Prog Db M Refusal β)
    (rest : ∀ db', Lasting db db' → DayLocked companyId branchId day db' →
      (books companyId branchId day M).Safe (f (query db')) db') :
    (books companyId branchId day M).Safe (Prog.read m query >>= f) db := by
  apply (books companyId branchId day M).safe_read
  intro db' held locked
  exact ⟨.refl db', rest db' held locked⟩

theorem booked_commit (m : M) (body : Db → Except Refusal Db) (f : Unit → Prog Db M Refusal β)
    (posts : ∀ db', Lasting db db' → ∀ db'', body db' = .ok db'' →
      Posts companyId branchId day db' db'')
    (rest : ∀ db', (books companyId branchId day M).Safe (f ()) db') :
    (books companyId branchId day M).Safe (Prog.commit m body >>= f) db := by
  apply (books companyId branchId day M).safe_commit
  · intro db' held locked db'' done
    have posted := posts db' held db'' done
    exact ⟨posted.held.locked companyId branchId day locked, posted, rest db''⟩
  · exact fun db' => .refl db'

theorem reads_figures (m : M) (company branch : Id) (date : Day) (now : Time) (id : Id)
    (f : Unit → Prog Db M Refusal β)
    (rest : ∀ db', (books companyId branchId day M).Safe (f ()) db') :
    (books companyId branchId day M).Safe (recomputeDaily m company branch date now id >>= f)
      db := by
  unfold recomputeDaily
  simp only [Prog.bind_assoc]
  apply booked_read
  intro _ _ _
  apply booked_read
  intro _ _ _
  apply booked_read
  intro _ _ _
  apply booked_read
  intro _ _ _
  apply booked_read
  intro _ _ _
  apply booked_commit
  · exact fun _ _ _ done => .recompute done
  · exact rest

end Rules

section Requests

variable (ctx : Ctx) (db : Db)

variable (has : Permission → Bool)

theorem booked_createSale (ids : Sales.SaleIds)
    (dto : Sales.CreateSaleDto) :
    (books companyId branchId day Inventory.Mark).Safe (Sales.createSale ctx has ids dto) db := by
  unfold Sales.createSale
  apply Discipline.safe_expect
  intro branch _
  apply Discipline.safe_expect
  intro userId _
  apply booked_read
  intro db₁ _ _
  split
  · exact (books companyId branchId day Inventory.Mark).safe_pure _ _
  · apply Discipline.safe_require
    intro _
    apply booked_read
    intro db₂ _ _
    apply Discipline.safe_liftExcept
    intro draft drafted
    apply Discipline.safe_transact
    · intro db₃ _ locked db₄ sale done
      rw [except_mapError_ok] at done
      have totals := Sales.draftSale_totals _ _ _ _ _ _ drafted
      have filled := Sales.draftSale_filled _ _ _ _ _ _ drafted
      have posted : Posts companyId branchId day db₃ db₄ :=
        .sell (Sales.writeSale_enters _ _ _ _ _ _ _ _ _ totals filled done)
      exact ⟨posted.held.locked companyId branchId day locked, posted,
        (books companyId branchId day Inventory.Mark).safe_pure _ _⟩
    · exact fun db₃ => .refl db₃

variable (first : Lookup RefundPayout)

variable (id : Id)

theorem reads_returnDetail :
    (Returns.detail first ctx id).Reads := by
  unfold Returns.detail Returns.load
  apply Prog.reads_bind
  · exact Prog.reads_expect _ _
  · intro branch
    apply Prog.reads_bind
    · exact Prog.reads_bind _ _ (Prog.reads_read _ _) (fun found => Prog.reads_expect _ found)
    · intro loaded
      refine Prog.reads_bind _ _ (Prog.reads_read _ _) (fun adjustments => ?_)
      refine Prog.reads_bind _ _ (Prog.reads_read _ _) (fun payout => ?_)
      exact Prog.reads_bind _ _ (Prog.reads_read _ _) (fun correction => Prog.reads_pure _)

theorem reads_returnLoad (branch id : Id) : (Returns.load ctx branch id).Reads :=
  Prog.reads_bind _ _ (Prog.reads_read _ _) (fun found => Prog.reads_expect _ found)

theorem booked_approve (has : Permission → Bool)
    (ids : Returns.ApprovalIds) (id : Id) (dto : Returns.ApproveReturnDto) :
    (books companyId branchId day Inventory.Mark).Safe
    (Returns.approve first ctx has ids id dto) db := by
  unfold Returns.approve
  apply Discipline.safe_expect
  intro branch _
  apply booked_prefix
  · exact reads_returnLoad ctx branch id
  intro loaded db₁ _
  apply Discipline.safe_liftExcept
  intro _ _
  apply Discipline.safe_liftExcept
  intro _ _
  apply Discipline.safe_require
  intro _
  apply Discipline.safe_liftExcept
  intro isException _
  apply booked_read
  intro db₂ _ _
  apply Discipline.safe_liftExcept
  intro settled _
  apply booked_read
  intro db₃ _ locked
  apply Discipline.safe_require
  intro open'
  have off : ctx.companyId = companyId → branch = branchId → ctx.today ≠ day := by
    rintro rfl rfl rfl
    unfold Returns.closedToday at open'
    rw [locked] at open'
    cases open'
  apply booked_commit
  · exact fun _ _ _ done => .reverse off done
  · intro db₄
    apply reads_figures
    exact fun db₅ => booked_reads companyId branchId day db₅ _ (reads_returnDetail ctx first id)

variable (rollupId id : Id)

theorem booked_confirmRefund (dto : Returns.ConfirmRefundDto) :
    (books companyId branchId day Inventory.Mark).Safe
    (Returns.confirmRefund first ctx rollupId id dto)
      db := by
  unfold Returns.confirmRefund
  apply Discipline.safe_expect
  intro branch _
  apply booked_prefix
  · exact reads_returnLoad ctx branch id
  intro loaded db₁ _
  apply booked_read
  intro db₂ _ _
  apply Discipline.safe_expect
  rintro ⟨payout, label⟩ _
  dsimp only
  split
  · exact booked_reads companyId branchId day db₂ _ (reads_returnDetail ctx first id)
  · apply booked_read
    intro db₃ _ _
    apply Discipline.safe_require
    intro _
    apply booked_commit
    · intro db₄ _ db₅ done
      obtain ⟨row, -, -, -, -, rfl⟩ := (Returns.swapPayout_ok _ _ _ _ _ _ _).mp done
      exact .aside ⟨rfl, rfl, rfl, rfl⟩ rfl rfl rfl
    · intro db₅
      apply reads_figures
      exact fun db₆ => booked_reads companyId branchId day db₆ _ (reads_returnDetail ctx first id)

theorem booked_confirmSettlement (dto : Suppliers.ConfirmSettlementDto) :
    (books companyId branchId day Suppliers.Mark).Safe (Suppliers.confirm ctx id dto) db := by
  have loads : (Suppliers.loadSettlement ctx id).Reads :=
    Prog.reads_bind _ _ (Prog.reads_read _ _) (fun found => Prog.reads_expect _ found)
  unfold Suppliers.confirm
  apply booked_prefix
  · exact loads
  intro row db₁ _
  apply (books companyId branchId day Suppliers.Mark).safe_require
  intro _
  apply booked_read
  intro db₂ _ _
  apply (books companyId branchId day Suppliers.Mark).safe_require
  intro _
  apply booked_read
  intro db₃ _ _
  apply booked_prefix
  · unfold Suppliers.openPurchases
    refine Prog.reads_bind _ _ (Prog.reads_read _ _) (fun purchases => ?_)
    exact Prog.reads_bind _ _ (Prog.reads_read _ _) (fun paid => Prog.reads_pure _)
  intro owed db₄ _
  apply (books companyId branchId day Suppliers.Mark).safe_liftExcept
  intro _ _
  apply booked_commit
  · intro db₅ _ db₆ done
    obtain ⟨current, suppliers, -, -, refreshed⟩ := Suppliers.writeConfirmation_ok done
    obtain ⟨purchases, rfl⟩ := refreshed.frame
    exact .aside ⟨rfl, rfl, rfl, rfl⟩ rfl rfl rfl
  · intro db₆
    apply booked_reads
    unfold Suppliers.settlement
    exact Prog.reads_bind _ _ (Prog.reads_read _ _) (fun found => Prog.reads_expect _ found)

theorem reads_correctionLoad : (Corrections.load ctx id).Reads :=
  Prog.reads_bind _ _ (Prog.reads_read _ _) (fun found => Prog.reads_expect _ found)

theorem booked_approveCorrection (dto : Corrections.DecideCorrectionDto) :
    (books companyId branchId day Inventory.Mark).Safe
    (Corrections.approve ctx rollupId id dto) db := by
  unfold Corrections.approve
  apply booked_prefix
  · exact reads_correctionLoad ctx id
  intro correction db₁ _
  apply Discipline.safe_liftExcept
  intro _ _
  apply booked_read
  intro db₂ _ _
  apply Discipline.safe_liftExcept
  intro _ _
  have rest : ∀ db', (books companyId branchId day Inventory.Mark).Safe
      (recomputeDaily .other ctx.companyId correction.branchId ctx.today ctx.now rollupId >>=
        fun _ => Corrections.load ctx id) db' := by
    intro db'
    apply reads_figures
    exact fun db'' => booked_reads companyId branchId day db'' _ (reads_correctionLoad ctx id)
  apply booked_commit
  · intro db₃ _ db₄ done
    obtain ⟨row, -, -, -, -, rfl⟩ := Corrections.writeDecision_ok _ _ _ _ _ _ done
    exact .aside ⟨rfl, rfl, rfl, rfl⟩ rfl rfl rfl
  · intro db₄
    unfold Corrections.supersedeTarget
    split
    · exact rest db₄
    · next payoutId _ =>
      apply Discipline.safe_execute
      intro db₅ _ locked
      have posted : Posts companyId branchId day db₅
          (Corrections.supersede ctx.companyId correction.id payoutId db₅) :=
        .aside ⟨rfl, rfl, rfl, rfl⟩ rfl rfl rfl
      exact ⟨posted.held.locked companyId branchId day locked, posted, rest _⟩

theorem reads_expenseLoad : (Expenses.load ctx id).Reads :=
  Prog.reads_bind _ _ (Prog.reads_read _ _) (fun found => Prog.reads_expect _ found)

theorem reads_expenseDetail :
    (Expenses.detail ctx has id).Reads := by
  unfold Expenses.detail
  refine Prog.reads_bind _ _ (reads_expenseLoad ctx id) (fun row => ?_)
  exact Prog.reads_bind _ _ (Prog.reads_require _ _) (fun _ => Prog.reads_pure _)

theorem Posts.report {expense : Expense} {db db' : Db}
    (done : Expenses.insertExpense expense db = .ok db') (reported : expense.status = .reported) :
    Posts companyId branchId day db db' := by
  obtain ⟨-, expenses, inserted, rfl⟩ := Expenses.insertExpense_ok _ _ _ done
  constructor
  · exact
      { Lasting.refl db with
        expense := fun id row found => ⟨row,
          Table.find?_insert_of_found _ _ _ inserted id row found, rfl, rfl, rfl, fun _ => rfl⟩ }
  · intro _
    have spent : expenses.filter (spentOn companyId branchId day) =
        db.expenses.filter (spentOn companyId branchId day) := by
      unfold Table.filter
      rw [(Table.insert?_some _ _ _ inserted).1, List.filter_append]
      have uncounted : [expense].filter (spentOn companyId branchId day) = [] := by
        apply List.filter_eq_nil_iff.mpr
        intro row member counted
        obtain rfl := List.mem_singleton.mp member
        obtain ⟨-, -, confirmed, -⟩ := of_decide_eq_true counted
        rw [reported] at confirmed
        cases confirmed
      rw [uncounted, List.append_nil]
    exact income_of_counted rfl rfl spent

theorem booked_createExpense (dto : Expenses.CreateExpenseDto) :
    (books companyId branchId day Inventory.Mark).Safe (Expenses.create ctx has id dto) db := by
  unfold Expenses.create
  apply Discipline.safe_expect
  intro branch _
  apply Discipline.safe_liftExcept
  intro _ _
  apply Discipline.safe_liftExcept
  intro _ _
  apply Discipline.safe_liftExcept
  intro _ _
  apply Discipline.safe_liftExcept
  intro _ _
  apply booked_read
  intro db₁ _ _
  split
  · apply Discipline.safe_require
    intro _
    exact booked_reads companyId branchId day db₁ _ (reads_expenseDetail ctx has _)
  · apply booked_prefix
    · unfold Expenses.accountLabel
      split
      · exact Prog.reads_pure _
      · refine Prog.reads_bind _ _ (Prog.reads_read _ _) (fun found => ?_)
        exact Prog.reads_bind _ _ (Prog.reads_expect _ _) (fun account => Prog.reads_pure _)
    intro label db₂ _
    apply booked_commit
    · exact fun _ _ _ done => .report companyId branchId day done rfl
    · exact fun db₃ => booked_reads companyId branchId day db₃ _ (reads_expenseDetail ctx has id)

theorem booked_confirmExpense (dto : Expenses.DecideExpenseDto) :
    (books companyId branchId day Inventory.Mark).Safe
      (Expenses.confirm ctx has rollupId id dto) db := by
  unfold Expenses.confirm Expenses.load
  rw [Prog.bind_assoc]
  apply booked_read
  intro db₁ _ _
  apply Discipline.safe_expect
  intro expense found
  obtain ⟨present, company⟩ := Expenses.findExpense_some _ _ _ _ found
  apply Discipline.safe_liftExcept
  intro _ _
  have finish : ∀ db₂, Lasting db₁ db₂ →
      (expense.expenseClass = ExpenseClass.variable → ctx.companyId = companyId →
        expense.branchId = some branchId → ctx.today ≠ day) →
      (books companyId branchId day Inventory.Mark).Safe (do
        .commit .other (Expenses.writeDecision ctx id dto.expectedVersion
          (Expenses.confirmed ctx (dto.reasonOmitted.getD (Expenses.needsReasonWarning
            expense.note))) (Expenses.confirmed_id ctx _))
        Expenses.recomputeAccountingDay ctx rollupId expense
        Expenses.detail ctx has id) db₂ := by
    intro db₂ since open'
    have rest : ∀ db', (books companyId branchId day Inventory.Mark).Safe (do
        Expenses.recomputeAccountingDay ctx rollupId expense
        Expenses.detail ctx has id) db' := by
      intro db'
      unfold Expenses.recomputeAccountingDay
      split
      · exact booked_reads companyId branchId day db' _ (reads_expenseDetail ctx has id)
      · apply reads_figures
        exact fun db'' => booked_reads companyId branchId day db'' _
          (reads_expenseDetail ctx has id)
    apply booked_commit
    · intro db₃ later db₄ done
      obtain ⟨row, stored, own, -, reported, rfl⟩ := Expenses.writeDecision_ok _ _ _ _ _ _ _ done
      obtain ⟨row', stored', -, branch, kind, -⟩ := (since.trans later).expense id expense present
      obtain rfl : row = row' := Option.some.inj (stored.symm.trans stored')
      refine .decide stored reported ⟨rfl, rfl, rfl⟩ (fun varies => ?_)
      apply decide_eq_false
      rintro ⟨company', branch', -, date⟩
      unfold accountingDay at date
      rw [varies] at date
      exact open' (kind.symm.trans varies) (own.symm.trans company')
        (branch.symm.trans branch') (Option.some.inj date)
    · exact rest
  unfold Expenses.assertTodayOpen
  split
  · next fixed =>
    apply finish db₁ (.refl db₁)
    intro varies
    rw [fixed] at varies
    cases varies
  · rw [Prog.bind_assoc]
    apply Discipline.safe_expect
    intro branch named
    rw [Prog.bind_assoc]
    apply booked_read
    intro db₂ since locked
    apply Discipline.safe_liftExcept
    intro _ passed
    apply finish db₂ since
    rintro - rfl store rfl
    have open' := Expenses.assertDayOpen_ok _ _ passed
    rw [named] at store
    obtain rfl := Option.some.inj store
    rw [locked] at open'
    cases open'

theorem booked_rejectExpense (dto : Expenses.DecideExpenseDto) :
    (books companyId branchId day Inventory.Mark).Safe (Expenses.reject ctx has id dto) db := by
  unfold Expenses.reject
  apply booked_prefix
  · exact reads_expenseLoad ctx id
  intro expense db₁ _
  apply Discipline.safe_liftExcept
  intro _ _
  apply booked_commit
  · intro db₂ _ db₃ done
    obtain ⟨row, stored, -, -, reported, rfl⟩ := Expenses.writeDecision_ok _ _ _ _ _ _ _ done
    refine .decide stored reported ⟨rfl, rfl, rfl⟩ (fun _ => ?_)
    apply decide_eq_false
    rintro ⟨-, -, confirmed, -⟩
    cases confirmed
  · exact fun db₃ => booked_reads companyId branchId day db₃ _ (reads_expenseDetail ctx has id)

end Requests

inductive Posting : Inventory.Request Unit → Prop
  | createSale (ctx : Ctx) (has : Permission → Bool) (ids : Sales.SaleIds)
      (dto : Sales.CreateSaleDto) : Posting (Sales.createSale ctx has ids dto).void
  | createExpense (ctx : Ctx) (has : Permission → Bool) (id : Id)
      (dto : Expenses.CreateExpenseDto) : Posting (Expenses.create ctx has id dto).void
  | confirmExpense (ctx : Ctx) (has : Permission → Bool) (rollupId id : Id)
      (dto : Expenses.DecideExpenseDto) : Posting (Expenses.confirm ctx has rollupId id dto).void
  | rejectExpense (ctx : Ctx) (has : Permission → Bool) (id : Id)
      (dto : Expenses.DecideExpenseDto) : Posting (Expenses.reject ctx has id dto).void
  | approveReturn (first : Lookup RefundPayout) (ctx : Ctx) (has : Permission → Bool)
      (ids : Returns.ApprovalIds) (id : Id) (dto : Returns.ApproveReturnDto) :
      Posting (Returns.approve first ctx has ids id dto).void
  | confirmRefund (first : Lookup RefundPayout) (ctx : Ctx) (rollupId id : Id)
      (dto : Returns.ConfirmRefundDto) :
      Posting (Returns.confirmRefund first ctx rollupId id dto).void
  | confirmSettlement (ctx : Ctx) (id : Id) (dto : Suppliers.ConfirmSettlementDto) :
      Posting ((Suppliers.confirm ctx id dto).relabel (fun _ => Inventory.Mark.other)).void
  | approveCorrection (ctx : Ctx) (rollupId id : Id) (dto : Corrections.DecideCorrectionDto) :
      Posting (Corrections.approve ctx rollupId id dto).void

theorem Posting.safe {p : Inventory.Request Unit} (posting : Posting p) (db : Db) :
    (books companyId branchId day Inventory.Mark).Safe p db := by
  cases posting with
  | createSale ctx has ids dto =>
      exact Discipline.safe_void _ _ _ (booked_createSale companyId branchId day ctx db has ids dto)
  | createExpense ctx has id dto =>
      exact Discipline.safe_void _ _ _
        (booked_createExpense companyId branchId day ctx db has id dto)
  | confirmExpense ctx has rollupId id dto =>
      exact Discipline.safe_void _ _ _
        (booked_confirmExpense companyId branchId day ctx db has rollupId id dto)
  | rejectExpense ctx has id dto =>
      exact Discipline.safe_void _ _ _
        (booked_rejectExpense companyId branchId day ctx db has id dto)
  | approveReturn first ctx has ids id dto =>
      exact Discipline.safe_void _ _ _
        (booked_approve companyId branchId day ctx db first has ids id dto)
  | confirmRefund first ctx rollupId id dto =>
      exact Discipline.safe_void _ _ _
        (booked_confirmRefund companyId branchId day ctx db first rollupId id dto)
  | confirmSettlement ctx id dto =>
      have safe := booked_confirmSettlement companyId branchId day ctx db id dto
      exact Discipline.safe_void _ _ _ (Discipline.safe_relabel _ _ _ _ safe)
  | approveCorrection ctx rollupId id dto =>
      exact Discipline.safe_void _ _ _
        (booked_approveCorrection companyId branchId day ctx db rollupId id dto)

theorem run_posts (db : Db) (c : Config Db Inventory.Mark Refusal Unit)
    (locked : DayLocked companyId branchId day db) (run : Run Posting anyOrder (.idle db) c) :
    Posts companyId branchId day db c.store := by
  have sound : ∀ c, Run Posting anyOrder (.idle db) c →
      (books companyId branchId day Inventory.Mark).Sound c := fun c run =>
    (books companyId branchId day Inventory.Mark).run_sound Posting anyOrder
      (fun _ posting db' _ => posting.safe companyId branchId day db')
      (fun _ _ _ _ _ _ posted => posted.held) _ _ run
      ((books companyId branchId day Inventory.Mark).sound_idle db locked)
  induction run with
  | refl => exact .refl db
  | tail earlier last ih =>
      have standing := sound _ earlier
      cases last with
      | arrive s inFlight p issued => exact ih
      | advance s before after m write next others =>
          have posted : Posts companyId branchId day s (write s) := standing.guar
          refine ⟨ih.held.trans posted.held, fun spared => ?_⟩
          obtain ⟨first, second⟩ := spared.split ih.held posted.held
          exact (posted.income second).trans (ih.income first)

variable {companyId branchId day}

theorem rerun_eq {db : Db} {rollup : DailyRollup} (now : Time) (id : Id)
    (found : rollupOn db branchId day = some rollup) :
    rerun db companyId branchId day now id =
      if rollup.companyId = companyId then dayFigures db companyId branchId day
      else noFigures := by
  rcases done : upsertRollup companyId branchId day now id
      (dayFigures db companyId branchId day) db with e | db'
  · unfold upsertRollup at done
    rw [found] at done
    cases done
  · obtain ⟨rollup', found', same, figures⟩ := upsertRollup_kept done found
    unfold rerun rolledUp
    rw [recomputeDaily_run, done]
    dsimp only
    rw [found', Option.filter_some, same, ← figures rfl rfl]
    split
    · next own => rw [if_pos (of_decide_eq_true own)]; rfl
    · next other => rw [if_neg (fun own => other (decide_eq_true own))]; rfl

theorem expenses_between (db : Db) :
    (dayFigures db companyId branchId day).expenses =
      (dayFigures db companyId branchId day).grossProfit -
        (dayFigures db companyId branchId day).returnsGrossProfit -
        (dayFigures db companyId branchId day).netProfit := by
  unfold dayFigures figuresOf
  dsimp only
  omega

theorem frozenIncome_eq {snapshot : Snapshot} {closing : DailyClosing} {digest : DailyDigest}
    (bears : Bears snapshot closing) (cogs : digest.costOfGoodsSold = snapshot.figures.cogs)
    (gross : digest.grossProfit = snapshot.figures.grossProfit)
    (between : snapshot.figures.expenses = snapshot.figures.grossProfit -
      snapshot.figures.returnsGrossProfit - snapshot.figures.netProfit) :
    frozenIncome closing digest = incomeOf snapshot.figures := by
  unfold frozenIncome incomeOf
  rw [bears.sales, bears.profit, bears.returns, bears.impact, bears.adjustments, bears.credited,
    cogs, gross, between]

end Day

/-- After a day was signed off, and unless the store takes a sale on it or confirms a fixed
expense due on it, recomputing its rollup gives the frozen income statement. -/
theorem locked_day_keeps_income (ctx : Ctx) (ids : ClosingIds) (dto : CreateClosingDto)
    (before db : Db) (summary : ClosingSummary)
    (closed : (close ctx ids dto).run before = (db, .ok summary)) (branchId : Id)
    (branch : ctx.branchId = some branchId) (c : Config Db Inventory.Mark Refusal Unit)
    (run : Run Posting anyOrder (.idle db) c)
    (spares : Spares ctx.companyId branchId summary.date db c.store) :
    ∃ closing digest,
      findClosing db ctx.companyId branchId summary.date = some closing ∧
      closing.status = .locked ∧
      digestOn db ctx.companyId branchId summary.date = some digest ∧
      findClosing c.store ctx.companyId branchId summary.date = some closing ∧
      digestOn c.store ctx.companyId branchId summary.date = some digest ∧
      ∀ now id, incomeOf (rerun c.store ctx.companyId branchId summary.date now id) =
        frozenIncome closing digest := by
  obtain ⟨branch', same, signs⟩ := close_signs ctx ids dto before db summary closed
  obtain rfl : branchId = branch' := Option.some.inj (branch.symm.trans same)
  obtain ⟨closing, found, bears⟩ := signs.signed.closing
  obtain ⟨digest, digested, -, cogs, gross⟩ := signs.signed.digest
  have locked : DayLocked ctx.companyId branchId summary.date db := by
    unfold DayLocked
    rw [found]
    exact bears.isLocked
  have posts := run_posts ctx.companyId branchId summary.date db c locked run
  obtain ⟨rollup, stored, figures⟩ := signs.rollup
  obtain ⟨rollup', stored', owner⟩ := posts.held.rollup _ _ _ stored
  refine ⟨closing, digest, found, bears.status, digested, ?_, ?_, fun now id => ?_⟩
  · unfold findClosing at found ⊢
    rw [posts.held.closings]
    exact found
  · unfold digestOn at digested ⊢
    rw [posts.held.digests]
    exact digested
  · have read : summary.figures = if rollup.companyId = ctx.companyId then
        dayFigures before ctx.companyId branchId summary.date else noFigures := by
      rw [signs.figures, ← figures]
      unfold rolledUp
      rw [stored, Option.filter_some]
      split
      · next own => rw [if_pos (of_decide_eq_true own)]; rfl
      · next other => rw [if_neg (fun own => other (decide_eq_true own))]; rfl
    rw [rerun_eq now id stored', owner]
    split
    · next own =>
      rw [if_pos own] at read
      rw [frozenIncome_eq bears cogs gross
        (by dsimp only; rw [read]; exact expenses_between before)]
      dsimp only
      rw [read]
      calc incomeOf (dayFigures c.store ctx.companyId branchId summary.date)
        _ = income c.store ctx.companyId branchId summary.date := rfl
        _ = income db ctx.companyId branchId summary.date := posts.income spares
        _ = income before ctx.companyId branchId summary.date :=
          signs.facts.income ctx.companyId branchId summary.date
    · next other =>
      rw [if_neg other] at read
      rw [frozenIncome_eq bears cogs gross (by dsimp only; rw [read]; rfl)]
      dsimp only
      rw [read]

def rentReported : Db where
  expenses := ⟨[
    { id := 60
      companyId := 10
      branchId := some 1
      amount := 50000
      note := some "Rent"
      status := .reported
      expenseClass := ExpenseClass.fixed
      isSalary := false
      dueDate := some 0
      method := .cash
      receivingAccountId := none
      reasonOmitted := false
      confirmedById := none
      confirmedAt := none
      confirmationDate := none
      version := 0 }], List.nodup_singleton _⟩

def confirmRent : Inventory.Request Unit :=
  (Expenses.confirm (owner 86400000) (fun _ => true) 190 60 { expectedVersion := 0 }).void

theorem locked_day_moves :
    ¬ ∀ (ctx : Ctx) (ids : ClosingIds) (dto : CreateClosingDto) (before db : Db)
      (summary : ClosingSummary), (close ctx ids dto).run before = (db, .ok summary) →
      ∀ branchId, ctx.branchId = some branchId → ∀ c : Config Db Inventory.Mark Refusal Unit,
      Run Posting anyOrder (.idle db) c →
      ∃ closing digest,
        findClosing db ctx.companyId branchId summary.date = some closing ∧
        closing.status = .locked ∧
        digestOn db ctx.companyId branchId summary.date = some digest ∧
        findClosing c.store ctx.companyId branchId summary.date = some closing ∧
        digestOn c.store ctx.companyId branchId summary.date = some digest ∧
        ∀ now id, incomeOf (rerun c.store ctx.companyId branchId summary.date now id) =
          frozenIncome closing digest := by
  intro claim
  obtain ⟨summary, closed, date⟩ := signedDay_run rentReported (by decide +kernel)
  obtain ⟨c, run, store⟩ := inTurn_run Posting (signedDay rentReported) [confirmRent]
    (fun p member => by
      obtain rfl := List.mem_singleton.mp member
      exact .confirmExpense _ _ _ _ _)
  obtain ⟨closing, digest, found, -, -, -, -, kept⟩ := claim _ _ _ rentReported _ summary closed
    1 rfl c run
  have profit := congrArg Income.netProfit (kept 0 0)
  rw [date] at found profit
  rw [store] at profit
  have frozen : (findClosing (signedDay rentReported) 10 1 0).map DailyClosing.totalProfit =
      some 0 := by decide +kernel
  have moved : (incomeOf (rerun (runAll (signedDay rentReported) [confirmRent]) 10 1 0 0
      0)).netProfit = -50000 := by decide +kernel
  rw [show findClosing (signedDay rentReported) 10 1 0 = some closing from found] at frozen
  have signed : closing.totalProfit = 0 := Option.some.inj frozen
  change (incomeOf (rerun (runAll (signedDay rentReported) [confirmRent]) 10 1 0 0 0)).netProfit =
    closing.totalProfit at profit
  rw [moved, signed] at profit
  cases profit

-- a sale on the locked day is counted on it as well
example : (findClosing (signedDay shelf) 10 1 0).map (fun closing =>
      (closing.isLocked, closing.totalSales)) = some (true, 0) ∧
    (rerun (runAll (signedDay shelf) [chargerSale none ⟨100000, by decide⟩]) 10 1 0 0
      0).revenue = 100000 := by
  decide +kernel

theorem charger_line : [({ productId := some 3 } : Sales.SaleLineDto)] ≠ [] :=
  List.cons_ne_nil _ _

def nextDaySale : Inventory.Request Unit :=
  (Sales.createSale (owner 86400000) (fun _ => false)
    ⟨900, fun index => 910 + index, fun index => 920 + index⟩
    { lines := [{ productId := some 3 }]
      filled := charger_line
      payments := [{ method := .cash, amount := 100000 }] }).void

theorem locked_day_keeps_income_next_day :
    ∃ c, Run Posting anyOrder (.idle (signedDay shelf)) c ∧
      c.store.sales.rows.map Sale.total = [100000] ∧
      ∃ closing digest, findClosing (signedDay shelf) 10 1 0 = some closing ∧
        digestOn (signedDay shelf) 10 1 0 = some digest ∧
        ∀ now id, incomeOf (rerun c.store 10 1 0 now id) = frozenIncome closing digest := by
  obtain ⟨summary, closed, date⟩ := signedDay_run shelf (by decide +kernel)
  obtain ⟨c, run, store⟩ := inTurn_run Posting (signedDay shelf) [nextDaySale]
    (fun p member => by
      obtain rfl := List.mem_singleton.mp member
      exact .createSale _ _ _ _)
  have later : ∀ sale ∈ (runAll (signedDay shelf) [nextDaySale]).sales.rows,
      dayKey sale.soldAt ≠ 0 := by decide +kernel
  have unspent : (runAll (signedDay shelf) [nextDaySale]).expenses.rows = [] := by decide +kernel
  have spares : Spares 10 1 summary.date (signedDay shelf) c.store := by
    rw [date, store]
    constructor
    · exact fun sale member _ day => absurd day (later sale member)
    · intro expense member
      rw [unspent] at member
      cases member
  obtain ⟨closing, digest, found, -, digested, -, -, kept⟩ := locked_day_keeps_income _ _ _ shelf
    _ summary closed 1 rfl c run spares
  rw [date] at found digested kept
  refine ⟨c, run, ?_, closing, digest, found, digested, kept⟩
  rw [store]
  decide +kernel

end ErpBackend.Closing
