import ErpBackend.Analytics.Rollup
import ErpBackend.Expenses.Rules
import ErpBackend.Inventory.Stock

/-!
# ExpensesService

An expense is reported by whoever spent the money and decided by the owner. Only a
confirmation reaches the day's figures.
-/

namespace ErpBackend.Expenses

open Foundation Inventory

structure CreateExpenseDto where
  category : String
  amount : Amount
  expenseClass : Option ExpenseClass := none
  isSalary : Option Bool := none
  dueDate : Option Day := none
  method : Option Method := none
  receivingAccountId : Option Id := none
  reference : Option String := none
  note : Option String := none
  spentOn : Option Day := none
  clientUuid : Option Id := none

structure DecideExpenseDto where
  expectedVersion : Nat
  reasonOmitted : Option Bool := none
  reason : Option String := none

def findExpense (db : Db) (companyId id : Id) : Option Expense :=
  (db.expenses.find? id).filter (fun row => row.companyId = companyId)

def load (ctx : Ctx) (id : Id) : Request Expense := do
  let found ← .read .other (fun db => findExpense db ctx.companyId id)
  .expect (.notFound "Expense not found") found

def seesAll (has : Permission → Bool) : Bool := has .expenseReview || has .expenseManage

def detail (ctx : Ctx) (has : Permission → Bool) (id : Id) : Request Expense := do
  let row ← load ctx id
  .require (seesAll has = true ∨ row.reportedById.isSome ∧ row.reportedById = ctx.userId)
    (.notFound "Expense not found")
  pure row

/-- The `CHECK`s of the table. -/
def expenseChecks (row : Expense) : Except Refusal Unit :=
  if ¬ 0 < row.amount then .error (.constraint "ck_expenses_amount")
  else if ¬ (row.method = .cash ∧ row.receivingAccountId = none ∨
      row.method = .account ∧ row.receivingAccountId.isSome) then
    .error (.constraint "ck_expenses_method_account")
  else if ¬ (row.status ≠ .confirmed ∧ row.confirmedAt = none ∧ row.confirmationDate = none ∨
      row.status = .confirmed ∧ row.confirmedAt.isSome ∧ row.confirmationDate.isSome) then
    .error (.constraint "ck_expenses_decision")
  else if ¬ (row.expenseClass = ExpenseClass.variable ∧ row.dueDate = none ∨
      row.expenseClass = ExpenseClass.fixed ∧ row.dueDate.isSome) then
    .error (.constraint "ck_expenses_class_due")
  else if row.isSalary ∧ row.expenseClass ≠ ExpenseClass.fixed then
    .error (.constraint "ck_expenses_salary_fixed")
  else .ok ()

def insertExpense (row : Expense) (db : Db) : Except Refusal Db := do
  expenseChecks row
  if row.clientUuid.isSome ∧ db.expenses.any (fun other =>
      other.companyId = row.companyId ∧ other.clientUuid = row.clientUuid) then
    .error (.unique "ux_expenses_client_uuid")
  else match db.expenses.insert? row with
    | none => .error (.unique "PRIMARY")
    | some expenses => .ok { db with expenses }

def newExpense (ctx : Ctx) (branchId id : Id) (dto : CreateExpenseDto)
    (accountLabel : Option String) (fingerprint : String) : Expense where
  id := id
  companyId := ctx.companyId
  branchId := some branchId
  category := trim dto.category
  amount := dto.amount.cents
  spentOn := dto.spentOn.getD ctx.today
  status := .reported
  expenseClass := dto.expenseClass.getD ExpenseClass.variable
  isSalary := dto.isSalary.getD false
  dueDate := dto.dueDate
  method := dto.method.getD .cash
  receivingAccountId := dto.receivingAccountId
  accountLabelSnapshot := accountLabel
  reference := trimOrNull dto.reference
  note := trimOrNull dto.note
  reasonOmitted := false
  reportedById := ctx.userId
  reportedAt := some ctx.now
  confirmedById := none
  confirmedAt := none
  confirmationDate := none
  clientUuid := dto.clientUuid
  clientRequestHash := dto.clientUuid.map (fun _ => fingerprint)
  version := 0

def accountLabel (ctx : Ctx) (method : Method) (accountId : Option Id) :
    Request (Option String) :=
  match method with
  | .cash => pure none
  | .account => do
      let found ← .read .other (fun db => (accountId.bind db.receivingAccounts.find?).filter
        (fun account => account.companyId = ctx.companyId ∧ account.isActive = true))
      let account ← .expect (.coded "account_unavailable"
        (.notFound "That account is not available. Choose an active one.")) found
      pure (some account.label)

def findReplay (ctx : Ctx) (clientUuid : Option Id) (db : Db) : Option Expense :=
  clientUuid.bind (fun key => db.expenses.rows.find? (fun row =>
    row.companyId = ctx.companyId ∧ row.clientUuid = some key))

def createFingerprint (dto : CreateExpenseDto) : String :=
  fingerprintExpense dto.category dto.amount.cents (dto.method.getD .cash)
    dto.receivingAccountId (dto.expenseClass.getD ExpenseClass.variable) dto.dueDate dto.note

def create (ctx : Ctx) (has : Permission → Bool) (id : Id) (dto : CreateExpenseDto) :
    Request Expense := do
  let branchId ← .expect branchRequired ctx.branchId
  let expenseClass := dto.expenseClass.getD ExpenseClass.variable
  let method := dto.method.getD .cash
  .liftExcept (assertAmount dto.amount.cents)
  .liftExcept (assertMethodAndAccount method dto.receivingAccountId)
  .liftExcept (assertClassAndDueDate expenseClass dto.dueDate)
  .liftExcept (assertSalaryIsFixed (dto.isSalary.getD false) expenseClass)
  let fingerprint := createFingerprint dto
  let replay ← .read .other (findReplay ctx dto.clientUuid)
  match replay with
  | some prior =>
      .require (prior.clientRequestHash = some fingerprint) (.coded "idempotency_conflict"
        (.conflict "That request id was already used for a different expense."))
      detail ctx has prior.id
  | none =>
      let label ← accountLabel ctx method dto.receivingAccountId
      .commit .other (insertExpense (newExpense ctx branchId id dto label fingerprint))
      detail ctx has id

def refreshRequired : Refusal :=
  .coded "refresh_required"
    (.conflict "This expense changed while you were looking at it. Open it again.")

/-- `updateMany` on the version and on the expense being reported. -/
def writeDecision (ctx : Ctx) (id : Id) (expectedVersion : Nat) (f : Expense → Expense)
    (keep : ∀ row, (f row).id = row.id) (db : Db) : Except Refusal Db :=
  match db.expenses.swap? id (fun row => row.companyId = ctx.companyId ∧
      row.version = expectedVersion ∧ row.status = .reported) f keep with
  | none => .error refreshRequired
  | some expenses => do
      ((expenses.find? id).map expenseChecks).getD (.ok ())
      .ok { db with expenses }

def confirmed (ctx : Ctx) (reasonOmitted : Bool) (row : Expense) : Expense :=
  { row with
    status := .confirmed
    confirmedById := ctx.userId
    confirmedAt := some ctx.now
    confirmationDate := some ctx.today
    reasonOmitted
    version := row.version + 1 }

theorem confirmed_id (ctx : Ctx) (reasonOmitted : Bool) (row : Expense) :
    (confirmed ctx reasonOmitted row).id = row.id := rfl

def rejected (dto : DecideExpenseDto) (row : Expense) : Expense :=
  { row with
    status := .rejected
    rejectedReason := trimOrNull dto.reason
    version := row.version + 1 }

theorem rejected_id (dto : DecideExpenseDto) (row : Expense) :
    (rejected dto row).id = row.id := rfl

def assertTodayOpen (ctx : Ctx) (expense : Expense) : Request Unit :=
  match expense.expenseClass with
  | ExpenseClass.fixed => pure ()
  | ExpenseClass.variable => do
      let branchId ← .expect (.internal "Argument `branchId` must not be null.") expense.branchId
      let closed ← .read .other (fun db => (findClosing db ctx.companyId branchId ctx.today).any
        DailyClosing.isLocked)
      .liftExcept (assertDayOpen closed ctx.today)

/-- The rollup the confirmation asks for; without a branch the queue drops it. -/
def recomputeAccountingDay (ctx : Ctx) (rollupId : Id) (expense : Expense) : Request Unit :=
  match expense.branchId with
  | none => pure ()
  | some branchId =>
      let day := match expense.expenseClass with
        | ExpenseClass.fixed => expense.dueDate.getD ctx.today
        | ExpenseClass.variable => ctx.today
      Analytics.recomputeDaily .other ctx.companyId branchId day ctx.now rollupId

def confirm (ctx : Ctx) (has : Permission → Bool) (rollupId id : Id) (dto : DecideExpenseDto) :
    Request Expense := do
  let expense ← load ctx id
  .liftExcept (assertDecidable expense.status)
  assertTodayOpen ctx expense
  let reasonOmitted := dto.reasonOmitted.getD (needsReasonWarning expense.note)
  .commit .other (writeDecision ctx id dto.expectedVersion (confirmed ctx reasonOmitted)
    (confirmed_id ctx reasonOmitted))
  recomputeAccountingDay ctx rollupId expense
  detail ctx has id

def reject (ctx : Ctx) (has : Permission → Bool) (id : Id) (dto : DecideExpenseDto) :
    Request Expense := do
  let expense ← load ctx id
  .liftExcept (assertDecidable expense.status)
  .commit .other (writeDecision ctx id dto.expectedVersion (rejected dto) (rejected_id dto))
  detail ctx has id

end ErpBackend.Expenses
