import ErpBackend.Schema

/-!
# Expense rules

`expense-rules.ts`. Reporting an expense moves no money; a confirmation does, on today
for a variable expense and on its due date for a fixed one.
-/

namespace ErpBackend.Expenses

def assertMethodAndAccount (method : Method) (accountId : Option Id) : Except Refusal Unit :=
  if method = .cash ∧ accountId.isSome then
    .error (.coded "cash_with_account"
      (.badRequest "A cash expense does not go through an account."))
  else if method = .account ∧ accountId.isNone then
    .error (.coded "account_required"
      (.badRequest "Choose which account the money left from."))
  else .ok ()

def assertClassAndDueDate (expenseClass : ExpenseClass) (dueDate : Option Day) :
    Except Refusal Unit :=
  if expenseClass = ExpenseClass.variable ∧ dueDate.isSome then
    .error (.coded "variable_with_due_date" (.badRequest
      "A variable expense belongs to the day it is confirmed, not to a due date."))
  else if expenseClass = ExpenseClass.fixed ∧ dueDate.isNone then
    .error (.coded "due_date_required" (.badRequest "A fixed expense needs the date it is due."))
  else .ok ()

def assertSalaryIsFixed (isSalary : Bool) (expenseClass : ExpenseClass) : Except Refusal Unit :=
  if isSalary ∧ expenseClass ≠ ExpenseClass.fixed then
    .error (.coded "salary_must_be_fixed" (.badRequest "A salary is a fixed cost."))
  else .ok ()

def assertAmount (amount : Int) : Except Refusal Unit :=
  if ¬ 0 < amount then .error (.coded "amount_required" (.badRequest "Enter an amount."))
  else .ok ()

def assertDecidable (status : ExpenseStatus) : Except Refusal Unit :=
  if status ≠ .reported then
    .error (.coded "already_decided" (.conflict (if status = .confirmed then
      "This expense was already confirmed. Correct it instead."
      else "This expense was already rejected.")))
  else .ok ()

def assertDayOpen (closed : Bool) (day : Day) : Except Refusal Unit :=
  if closed then
    .error (.coded "day_already_closed" (.conflict (renderDay day ++
      " is already closed for this branch. Confirm this expense once the next day opens.")))
  else .ok ()

theorem assertDayOpen_ok (closed : Bool) (day : Day) (done : assertDayOpen closed day = .ok ()) :
    closed = false := by
  unfold assertDayOpen at done
  split at done
  · cases done
  · next open' => simpa using open'

def needsReasonWarning (note : Option String) : Bool := blank note

def methodText : Method → String
  | .cash => "cash"
  | .account => "account"

def classText : ExpenseClass → String
  | ExpenseClass.variable => "variable"
  | ExpenseClass.fixed => "fixed"

def fingerprintExpense (category : String) (amount : Int) (method : Method)
    (receivingAccountId : Option Id) (expenseClass : ExpenseClass) (dueDate : Option Day)
    (note : Option String) : String :=
  String.intercalate "|" [trim category, renderFixed amount, methodText method,
    (receivingAccountId.map toString).getD "", classText expenseClass,
    (dueDate.map renderDay).getD "", trim (note.getD "")]

end ErpBackend.Expenses
