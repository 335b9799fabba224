import ErpBackend.Loans.Service

/-!
# The loan ledger

What appending one row does to the derived balance, and when an append keeps
every balance at or above zero and every report and confirmation answered once.
-/

namespace ErpBackend.Loans

open Foundation

def LedgerKind.debit : LedgerKind → Bool
  | .paymentConfirmed | .forgiven => true
  | _ => false

def LedgerKind.answering : LedgerKind → Bool
  | .paymentConfirmed | .paymentCorrected => true
  | _ => false

def owed (db : Db) (loanId : Id) : Int := remaining (ledgerRows db loanId)

/-- No row of kind `kind` refers to what another row of that kind refers to. -/
def AnsweredOnce (db : Db) (kind : LedgerKind) : Prop :=
  ∀ first ∈ db.loanLedger.rows, ∀ second ∈ db.loanLedger.rows,
    first.kind = kind → second.kind = kind → first.refersToId = second.refersToId →
      first = second

/-- Nothing is overpaid, no report is confirmed twice and no confirmation is
corrected twice. -/
structure Accounted (db : Db) : Prop where
  owed_nonneg : ∀ loanId, 0 ≤ owed db loanId
  confirmed_once : AnsweredOnce db .paymentConfirmed
  corrected_once : AnsweredOnce db .paymentCorrected

/-- `ck_lledger_amount`. -/
def PositiveAmounts (db : Db) : Prop := ∀ entry ∈ db.loanLedger.rows, 0 < entry.amount

theorem effect_nonneg (row : LedgerRow) (positive : 0 < row.amount)
    (credit : row.kind.debit = false) : 0 ≤ row.effect := by
  rcases row with ⟨kind, amount, id, refersToId⟩
  cases kind <;> simp [LedgerKind.debit] at credit <;>
    simp only [LedgerRow.effect, balanceEffect] at positive ⊢ <;> omega

theorem effect_of_debit (row : LedgerRow) (debit : row.kind.debit = true) :
    row.effect = -row.amount := by
  rcases row with ⟨kind, amount, id, refersToId⟩
  cases kind <;> simp [LedgerKind.debit] at debit <;>
    simp only [LedgerRow.effect, balanceEffect] <;> omega

variable (db db' : Db)

variable (entry : LoanLedgerEntry)

theorem insertEntry_ok (done : insertEntry db entry = .ok db') :
    0 < entry.amount ∧
      (∃ loan, db.loans.find? entry.loanId = some loan) ∧
      (∀ other ∈ db.loanLedger.rows, other.id ≠ entry.id) ∧
      db'.loanLedger.rows = db.loanLedger.rows ++ [entry] ∧
      db'.loans = db.loans := by
  unfold insertEntry at done
  split_ifs at done with amount _ present _
  split at done
  · cases done
  · next loanLedger inserted =>
    cases done
    obtain ⟨rows, fresh⟩ := db.loanLedger.insert?_some loanLedger entry inserted
    exact ⟨by omega, Option.ne_none_iff_exists'.mp present, fresh, rows, rfl⟩

theorem insertLoan_ok (loan : Loan) (done : insertLoan db loan = .ok db') :
    db'.loanLedger = db.loanLedger ∧ db.loans.insert? loan = some db'.loans := by
  unfold insertLoan at done
  split_ifs at done
  split at done
  · cases done
  · next loans inserted =>
    cases done
    exact ⟨rfl, inserted⟩

theorem commitDecision_ok (ctx : Ctx) (fresh : Id) (dto : DecideLoanDto) (loan : Loan)
    (next : LoanStatus) (db db' : Db)
    (committed : commitDecision ctx fresh dto loan next db = .ok db') :
    db'.loans = db.loans.update loan.id (decided ctx dto loan next)
        (decided_id ctx dto loan next) ∧
      if dto.action = .accept then 0 < agreed loan ∧
        db'.loanLedger.rows = db.loanLedger.rows ++
          [entryFor ctx fresh loan .principalAccepted (agreed loan)]
      else db'.loanLedger.rows = db.loanLedger.rows := by
  unfold commitDecision at committed
  split at committed
  · cases committed
  · next loans swapped =>
    obtain ⟨stored, present, -, rfl⟩ := (db.loans.swap?_some loans loan.id _ _ _).mp swapped
    split at committed
    · next accept =>
      obtain ⟨positive, -, -, rows, same⟩ := insertEntry_ok _ db' _ committed
      rw [if_pos accept]
      exact ⟨same, positive, rows⟩
    · next other =>
      cases committed
      rw [if_neg other]
      exact ⟨rfl, rfl⟩

theorem ledgerRows_append (rows : db'.loanLedger.rows = db.loanLedger.rows ++ [entry])
    (loanId : Id) :
    ledgerRows db' loanId =
      ledgerRows db loanId ++ (if entry.loanId = loanId then [toRow entry] else []) := by
  unfold ledgerRows ledgerOf Table.filter
  rw [rows, List.filter_append, List.map_append]
  congr 1
  by_cases same : entry.loanId = loanId
  · simp [same]
  · simp [same]

theorem owed_append (rows : db'.loanLedger.rows = db.loanLedger.rows ++ [entry]) (loanId : Id) :
    owed db' loanId =
      owed db loanId + (if entry.loanId = loanId then (toRow entry).effect else 0) := by
  unfold owed remaining
  rw [ledgerRows_append db db' entry rows loanId, List.map_append, List.sum_append]
  split
  · simp
  · simp

theorem owed_congr (rows : db'.loanLedger.rows = db.loanLedger.rows)
    (loanId : Id) : owed db' loanId = owed db loanId := by
  unfold owed ledgerRows ledgerOf Table.filter
  rw [rows]

theorem findAnswer_none (db : Db) (entryId : Id) (kind : LedgerKind) :
    findAnswer db entryId kind = none ↔
      ∀ entry ∈ db.loanLedger.rows, entry.refersToId = some entryId → entry.kind ≠ kind := by
  simp [findAnswer]

theorem findEntry_some (db : Db) (loanId entryId : Id) (kind : LedgerKind)
    (entry : LoanLedgerEntry) (found : findEntry db loanId entryId kind = some entry) :
    entry ∈ db.loanLedger.rows ∧ entry.id = entryId ∧ entry.loanId = loanId ∧
      entry.kind = kind := by
  obtain ⟨present, matched⟩ := Option.filter_eq_some_iff.mp found
  obtain ⟨member, keyed⟩ := (db.loanLedger.find?_some entryId entry).mp present
  simp only [decide_eq_true_eq] at matched
  exact ⟨member, keyed, matched.1, matched.2⟩

private theorem answeredOnce_append (kind : LedgerKind)
    (rows : db'.loanLedger.rows = db.loanLedger.rows ++ [entry])
    (once : AnsweredOnce db kind)
    (unanswered : entry.kind = kind → ∀ other ∈ db.loanLedger.rows,
      other.kind = kind → other.refersToId ≠ entry.refersToId) :
    AnsweredOnce db' kind := by
  intro first firstMember second secondMember firstKind secondKind same
  rw [rows, List.mem_append, List.mem_singleton] at firstMember secondMember
  rcases firstMember with old | rfl
  · rcases secondMember with old' | rfl
    · exact once first old second old' firstKind secondKind same
    · exact absurd same (unanswered secondKind first old firstKind)
  · rcases secondMember with old' | rfl
    · exact absurd same.symm (unanswered firstKind second old' secondKind)
    · rfl

/-- A debit that fits what is owed, and an answer to what had none, keep the
ledger accounted for. -/
theorem Accounted.append {db db' : Db} {entry : LoanLedgerEntry} (accounted : Accounted db)
    (rows : db'.loanLedger.rows = db.loanLedger.rows ++ [entry])
    (positive : 0 < entry.amount)
    (fits : entry.kind.debit = true → entry.amount ≤ owed db entry.loanId)
    (unanswered : entry.kind.answering = true →
      ∀ other ∈ db.loanLedger.rows, other.kind = entry.kind →
        other.refersToId ≠ entry.refersToId) :
    Accounted db' where
  owed_nonneg := by
    intro loanId
    rw [owed_append db db' entry rows loanId]
    have before := accounted.owed_nonneg loanId
    split
    · next same =>
      subst same
      by_cases debit : entry.kind.debit = true
      · have effect : (toRow entry).effect = -entry.amount := effect_of_debit (toRow entry) debit
        have bound := fits debit
        omega
      · have credit : entry.kind.debit = false := by simpa using debit
        have effect := effect_nonneg (toRow entry) positive credit
        omega
    · omega
  confirmed_once :=
    answeredOnce_append db db' entry .paymentConfirmed rows accounted.confirmed_once
      (fun kind other member otherKind =>
        unanswered (by rw [kind]; rfl) other member (otherKind.trans kind.symm))
  corrected_once :=
    answeredOnce_append db db' entry .paymentCorrected rows accounted.corrected_once
      (fun kind other member otherKind =>
        unanswered (by rw [kind]; rfl) other member (otherKind.trans kind.symm))

theorem Accounted.congr {db db' : Db} (accounted : Accounted db)
    (rows : db'.loanLedger.rows = db.loanLedger.rows) : Accounted db' where
  owed_nonneg := by
    intro loanId
    rw [owed_congr db db' rows]
    exact accounted.owed_nonneg loanId
  confirmed_once := by
    unfold AnsweredOnce
    rw [rows]
    exact accounted.confirmed_once
  corrected_once := by
    unfold AnsweredOnce
    rw [rows]
    exact accounted.corrected_once

theorem accounted_of_empty (db : Db) (none : db.loanLedger.rows = []) : Accounted db where
  owed_nonneg := by
    intro loanId
    simp [owed, ledgerRows, ledgerOf, Table.filter, none, remaining]
  confirmed_once := by simp [AnsweredOnce, none]
  corrected_once := by simp [AnsweredOnce, none]

theorem PositiveAmounts.append {db db' : Db} {entry : LoanLedgerEntry}
    (positive : PositiveAmounts db)
    (rows : db'.loanLedger.rows = db.loanLedger.rows ++ [entry])
    (amount : 0 < entry.amount) : PositiveAmounts db' := by
  intro other member
  rw [rows, List.mem_append, List.mem_singleton] at member
  rcases member with old | rfl
  · exact positive other old
  · exact amount

def lender : Ctx := ⟨10, none, none, 0⟩

def borrower : Ctx := ⟨20, none, none, 0⟩

def emptyBook : Db :=
  { counterparties := ⟨[⟨1, 10, .connectedStore, some 20, none, true, "", none, none⟩], by decide⟩ }

end ErpBackend.Loans
