import ErpBackend.Loans.Ledger

/-!
# Concurrent loan requests

Every guard of a payment or a write-off is evaluated on a ledger that was read
earlier. The guards hold at the append whenever no conflicting append falls
between a request's read and its own append.
-/

namespace ErpBackend.Loans

open Foundation

inductive IsRequest : Request LoanView → Prop
  | propose (ctx : Ctx) (fresh : Id) (dto : CreateLoanDto) : IsRequest (propose ctx fresh dto)
  | decide (ctx : Ctx) (fresh id : Id) (dto : DecideLoanDto) :
      IsRequest (decide ctx fresh id dto)
  | payment (ctx : Ctx) (fresh id : Id) (dto : LoanPaymentDto) :
      IsRequest (payment ctx fresh id dto)
  | forgive (ctx : Ctx) (fresh id : Id) (dto : ForgiveLoanDto) :
      IsRequest (forgive ctx fresh id dto)

/-- An append of `(loanId, kind, refersToId)` spoils a check already made for
`(loanId', kind', refersToId')`: both take from one balance, or both answer one
row. -/
def Spoils (loanId : Id) (kind : LedgerKind) (refersToId : Option Id)
    (loanId' : Id) (kind' : LedgerKind) (refersToId' : Option Id) : Prop :=
  (loanId = loanId' ∧ kind.debit = true ∧ kind'.debit = true) ∨
    (kind = kind' ∧ kind.answering = true ∧ refersToId = refersToId')

/-- No append lands while another request stands between its read of the ledger
and an append it would spoil. -/
def isolated (_ : Db) : Mark → Mark → Prop
  | .append loanId kind refersToId, .checked loanId' kind' refersToId' =>
      ¬ Spoils loanId kind refersToId loanId' kind' refersToId'
  | .append loanId kind refersToId, .append loanId' kind' refersToId' =>
      ¬ Spoils loanId kind refersToId loanId' kind' refersToId'
  | _, _ => True

def guar : Mark → Db → Db → Prop
  | .append loanId kind refersToId, db, db' =>
      db'.loanLedger.rows = db.loanLedger.rows ∨
        ∃ entry, db'.loanLedger.rows = db.loanLedger.rows ++ [entry] ∧
          entry.loanId = loanId ∧ entry.kind = kind ∧ entry.refersToId = refersToId ∧
          0 < entry.amount
  | _, db, db' => db'.loanLedger.rows = db.loanLedger.rows

def StillChecked (loanId : Id) (kind : LedgerKind) (refersToId : Option Id)
    (db db' : Db) : Prop :=
  (kind.debit = true → owed db loanId ≤ owed db' loanId) ∧
    (kind.answering = true → ∀ id, refersToId = some id →
      findAnswer db id kind = none → findAnswer db' id kind = none)

def rely : Mark → Db → Db → Prop
  | .other, _, _ => True
  | .checked loanId kind refersToId, db, db' => StillChecked loanId kind refersToId db db'
  | .append loanId kind refersToId, db, db' => StillChecked loanId kind refersToId db db'

theorem StillChecked.refl (loanId : Id) (kind : LedgerKind) (refersToId : Option Id) (db : Db) :
    StillChecked loanId kind refersToId db db :=
  ⟨fun _ => Int.le_refl _, fun _ _ _ none => none⟩

theorem StillChecked.trans {loanId : Id} {kind : LedgerKind} {refersToId : Option Id}
    {db db' db'' : Db} (first : StillChecked loanId kind refersToId db db')
    (second : StillChecked loanId kind refersToId db' db'') :
    StillChecked loanId kind refersToId db db'' :=
  ⟨fun debit => Int.le_trans (first.1 debit) (second.1 debit),
    fun answering id refers none =>
      second.2 answering id refers (first.2 answering id refers none)⟩

theorem StillChecked.congr (loanId : Id) (kind : LedgerKind) (refersToId : Option Id)
    (db db' : Db) (rows : db'.loanLedger.rows = db.loanLedger.rows) :
    StillChecked loanId kind refersToId db db' := by
  refine ⟨fun _ => Int.le_of_eq (owed_congr db db' rows loanId).symm, fun _ id _ none => ?_⟩
  unfold findAnswer at none ⊢
  rw [rows]
  exact none

theorem StillChecked.append (loanId : Id) (kind : LedgerKind) (refersToId : Option Id)
    (db db' : Db) (entry : LoanLedgerEntry)
    (rows : db'.loanLedger.rows = db.loanLedger.rows ++ [entry]) (positive : 0 < entry.amount)
    (clear : ¬ Spoils entry.loanId entry.kind entry.refersToId loanId kind refersToId) :
    StillChecked loanId kind refersToId db db' := by
  constructor
  · intro debit
    rw [owed_append db db' entry rows loanId]
    split
    · next same =>
      have credit : entry.kind.debit = false := by
        by_contra notCredit
        exact clear (.inl ⟨same, by simpa using notCredit, debit⟩)
      have effect := effect_nonneg (toRow entry) positive credit
      omega
    · omega
  · intro answering id refers none
    rw [findAnswer_none] at none ⊢
    intro other member answers sameKind
    rw [rows, List.mem_append, List.mem_singleton] at member
    rcases member with old | rfl
    · exact none other old answers sameKind
    · exact clear (.inr ⟨sameKind, by rw [sameKind]; exact answering, by rw [answers, refers]⟩)

def discipline : Discipline Db Mark where
  inv db := Accounted db ∧ PositiveAmounts db
  guar := guar
  rely := rely
  rely_refl := by
    intro m db
    cases m with
    | other => trivial
    | checked loanId kind refersToId => exact .refl loanId kind refersToId db
    | append loanId kind refersToId => exact .refl loanId kind refersToId db
  rely_trans := by
    intro m db db' db'' first second
    cases m with
    | other => trivial
    | checked loanId kind refersToId => exact StillChecked.trans first second
    | append loanId kind refersToId => exact StillChecked.trans first second

theorem guar_rely (db : Db) (m m' : Mark) (db' : Db) (allowed : isolated db m m')
    (own : guar m db db') : rely m' db db' := by
  have checked : ∀ loanId' kind' refersToId',
      (∀ loanId kind refersToId, m = .append loanId kind refersToId →
        ¬ Spoils loanId kind refersToId loanId' kind' refersToId') →
      StillChecked loanId' kind' refersToId' db db' := by
    intro loanId' kind' refersToId' clear
    cases m with
    | other => exact .congr _ _ _ db db' own
    | checked loanId kind refersToId => exact .congr _ _ _ db db' own
    | append loanId kind refersToId =>
        rcases own with rows | ⟨entry, rows, rfl, rfl, rfl, positive⟩
        · exact .congr _ _ _ db db' rows
        · exact .append _ _ _ db db' entry rows positive (clear _ _ _ rfl)
  cases m' with
  | other => trivial
  | checked loanId' kind' refersToId' =>
      refine checked loanId' kind' refersToId' (fun loanId kind refersToId equal => ?_)
      subst equal
      exact allowed
  | append loanId' kind' refersToId' =>
      refine checked loanId' kind' refersToId' (fun loanId kind refersToId equal => ?_)
      subst equal
      exact allowed

variable (p : Request LoanView)

section Safety

variable {α : Type}

theorem guar_self (m : Mark) (db : Db) : guar m db db := by
  cases m with
  | other => rfl
  | checked loanId kind refersToId => rfl
  | append loanId kind refersToId => exact .inl rfl

private theorem safe_readOnly (m : Mark) (query : Db → α) {β : Type}
    (f : α → Request β) (db : Db)
    (rest : ∀ db', rely m db db' → discipline.Safe (f (query db')) db') :
    discipline.Safe (Prog.read m query >>= f) db :=
  discipline.safe_read db m query f (fun db' relied _ => ⟨guar_self m db', rest db' relied⟩)

variable (ctx : Ctx)

theorem safe_get (id : Id) (db : Db) : discipline.Safe (get ctx id) db := by
  unfold get
  apply safe_readOnly
  intro db' _
  rcases (findVisible db' ctx.companyId id).map (viewOf db' ctx.companyId) with _ | view
  · trivial
  · trivial

theorem safe_mine (id : Id) (f : Loan → Request α) (db : Db)
    (rest : ∀ loan db', discipline.Safe (f loan) db') :
    discipline.Safe (mine ctx id >>= f) db := by
  unfold mine
  rw [Prog.bind_assoc]
  apply safe_readOnly
  intro db' _
  exact discipline.safe_expect db' _ _ f (fun loan _ => rest loan db')

theorem safe_quiet (update : Db → Db) (f : Unit → Request α) (db : Db)
    (rows : ∀ db, (update db).loanLedger = db.loanLedger)
    (rest : ∀ db', discipline.Safe (f ()) db') :
    discipline.Safe (Prog.execute .other update >>= f) db := by
  apply discipline.safe_execute
  intro db' _ inv
  have same : (update db').loanLedger.rows = db'.loanLedger.rows := by rw [rows]
  refine ⟨⟨inv.1.congr same, fun entry member => inv.2 entry (same ▸ member)⟩, same, rest _⟩

theorem safe_settleIfClear (loanId : Id) (status : LoanStatus)
    (f : Unit → Request α) (db : Db) (rest : ∀ db', discipline.Safe (f ()) db') :
    discipline.Safe (settleIfClear ctx loanId status >>= f) db := by
  unfold settleIfClear
  rw [Prog.bind_assoc]
  apply safe_readOnly
  intro db' _
  split
  · exact safe_quiet _ f db' (fun _ => rfl) rest
  · exact safe_quiet _ f db' (fun _ => rfl) rest

theorem safe_append (entry : LoanLedgerEntry) (f : Unit → Request α) (db : Db)
    (fits : entry.kind.debit = true → entry.amount ≤ owed db entry.loanId)
    (unanswered : entry.kind.answering = true → ∃ id, entry.refersToId = some id ∧
      findAnswer db id entry.kind = none)
    (rest : ∀ db', discipline.Safe (f ()) db') :
    discipline.Safe
      (append (.append entry.loanId entry.kind entry.refersToId) entry >>= f) db := by
  unfold append
  apply discipline.safe_commit
  · intro db' relied inv stored inserted
    obtain ⟨positive, -, -, rows, -⟩ := insertEntry_ok db' stored entry inserted
    refine ⟨⟨inv.1.append rows positive ?_ ?_, inv.2.append rows positive⟩,
      .inr ⟨entry, rows, rfl, rfl, rfl, positive⟩, rest stored⟩
    · intro debit
      exact Int.le_trans (fits debit) (relied.1 debit)
    · intro answering other member sameKind sameRefers
      obtain ⟨id, refers, none⟩ := unanswered answering
      have still := relied.2 answering id refers none
      exact (findAnswer_none db' id entry.kind).mp still other member
        (sameRefers.trans refers) sameKind
  · intro db'
    exact .inl rfl

variable (fresh : Id)

theorem safe_propose (dto : CreateLoanDto) (db : Db) :
    discipline.Safe (propose ctx fresh dto) db := by
  unfold propose
  apply safe_readOnly
  intro db' _
  dsimp only
  split
  · exact safe_get _ _ _
  · apply safe_readOnly
    intro db' _
    apply discipline.safe_expect
    rintro ⟨counterparty, connection⟩ _
    apply discipline.safe_require
    intro _
    apply discipline.safe_commit
    · intro db' _ inv db'' committed
      obtain ⟨same, -⟩ := insertLoan_ok db' db'' _ committed
      have rows : db''.loanLedger.rows = db'.loanLedger.rows := by rw [same]
      exact ⟨⟨inv.1.congr rows, fun entry member => inv.2 entry (rows ▸ member)⟩, rows,
        safe_get _ _ _⟩
    · intro db'
      rfl

theorem safe_decide (fresh id : Id) (dto : DecideLoanDto) (db : Db) :
    discipline.Safe (decide ctx fresh id dto) db := by
  unfold decide
  apply safe_mine
  intro loan db'
  apply discipline.safe_liftExcept
  intro next _
  apply discipline.safe_require
  intro _
  apply discipline.safe_commit
  · intro db' _ inv db'' committed
    obtain ⟨-, ledger⟩ := commitDecision_ok ctx fresh dto loan next db' db'' committed
    split at ledger
    · next accept =>
      obtain ⟨positive, rows⟩ := ledger
      simp only [accept, if_true]
      refine ⟨⟨inv.1.append rows positive ?_ ?_, inv.2.append rows positive⟩,
        .inr ⟨_, rows, rfl, rfl, rfl, positive⟩, safe_get _ _ _⟩
      · intro debit
        cases debit
      · intro answering
        cases answering
    · next other =>
      simp only [other, if_false]
      exact ⟨⟨inv.1.congr ledger, fun entry member => inv.2 entry (ledger ▸ member)⟩, ledger,
        safe_get _ _ _⟩
  · intro db'
    exact guar_self _ db'

theorem safe_confirmPayment (loan : Loan) (dto : LoanPaymentDto)
    (f : Unit → Request α) (db : Db) (rest : ∀ db', discipline.Safe (f ()) db') :
    discipline.Safe (confirmPayment ctx fresh loan (owed db loan.id) dto >>= f) db := by
  unfold confirmPayment assertCreditor
  simp only [Prog.bind_assoc]
  apply discipline.safe_require
  intro _
  apply discipline.safe_expect
  intro entryId _
  apply safe_readOnly
  intro db₁ relied₁
  apply discipline.safe_expect
  intro reported found
  obtain ⟨-, keyed, -, -⟩ := findEntry_some db₁ loan.id entryId .paymentReported reported found
  subst keyed
  apply safe_readOnly
  intro db₂ relied₂
  apply discipline.safe_require
  intro unanswered
  apply discipline.safe_liftExcept
  intro _ allowed
  have fits : reported.amount ≤ owed db loan.id := by
    exact (Settlement.assertPaymentAllowed_ok _ _ _ _ ((except_mapError_ok _ _ _).mp allowed)).2
  have grown : owed db loan.id ≤ owed db₂ loan.id :=
    Int.le_trans (relied₁.1 rfl) (relied₂.1 rfl)
  exact safe_append
    { entryFor ctx fresh loan .paymentConfirmed reported.amount with
      method := reported.method
      receivingAccountId := reported.receivingAccountId
      accountLabelSnapshot := reported.accountLabelSnapshot
      reference := reported.reference
      refersToId := some reported.id } _ db₂
    (fun _ => Int.le_trans fits grown)
    (fun _ => ⟨reported.id, rfl, unanswered⟩)
    (fun db₃ => safe_settleIfClear ctx loan.id .settled f db₃ rest)

theorem safe_correctPayment (loan : Loan) (dto : LoanPaymentDto)
    (f : Unit → Request α) (db : Db) (rest : ∀ db', discipline.Safe (f ()) db') :
    discipline.Safe (correctPayment ctx fresh loan dto >>= f) db := by
  unfold correctPayment assertCreditor
  simp only [Prog.bind_assoc]
  apply discipline.safe_require
  intro _
  apply discipline.safe_require
  intro _
  apply discipline.safe_expect
  intro entryId _
  apply safe_readOnly
  intro db₁ _
  apply discipline.safe_expect
  intro confirmed _
  apply safe_readOnly
  intro db₂ _
  apply discipline.safe_require
  intro unanswered
  exact safe_append
    { entryFor ctx fresh loan .paymentCorrected confirmed.amount with
      reason := dto.reason.map trim
      refersToId := some confirmed.id } _ db₂
    (fun debit => by cases debit)
    (fun _ => ⟨confirmed.id, rfl, unanswered⟩)
    (fun db₃ => safe_quiet _ f db₃ (fun _ => rfl) rest)

theorem safe_reportPayment (loan : Loan) (owed : Int)
    (dto : LoanPaymentDto) (f : Unit → Request α) (db : Db)
    (rest : ∀ db', discipline.Safe (f ()) db') :
    discipline.Safe (reportPayment ctx fresh loan owed dto >>= f) db := by
  unfold reportPayment
  rw [Prog.bind_assoc]
  apply safe_readOnly
  intro db₁ _
  dsimp only
  split
  · apply discipline.safe_require
    intro _
    exact rest db₁
  · simp only [Prog.bind_assoc]
    apply discipline.safe_liftExcept
    intro _ _
    apply safe_readOnly
    intro db₂ _
    apply safe_append
      { entryFor ctx fresh loan .paymentReported _ with
        method := _
        receivingAccountId := _
        accountLabelSnapshot := _
        reference := _
        evidenceRef := _
        note := _
        clientUuid := _
        clientRequestHash := _ }
    · intro debit
      cases debit
    · intro answering
      cases answering
    · intro db₃
      exact safe_quiet _ f db₃ (fun _ => rfl) rest

theorem safe_payment (fresh id : Id) (dto : LoanPaymentDto) (db : Db) :
    discipline.Safe (payment ctx fresh id dto) db := by
  unfold payment
  apply safe_mine
  intro loan db'
  apply discipline.safe_require
  intro _
  apply safe_readOnly
  intro db'' _
  dsimp only
  cases dto.action with
  | report =>
      exact safe_reportPayment ctx fresh loan _ dto _ db'' (fun db => safe_get ctx id db)
  | confirm =>
      exact safe_confirmPayment ctx fresh loan dto _ db'' (fun db => safe_get ctx id db)
  | correct =>
      exact safe_correctPayment ctx fresh loan dto _ db'' (fun db => safe_get ctx id db)

theorem safe_forgive (fresh id : Id) (dto : ForgiveLoanDto) (db : Db) :
    discipline.Safe (forgive ctx fresh id dto) db := by
  unfold forgive assertCreditor
  apply safe_mine
  intro loan db₁
  apply discipline.safe_require
  intro _
  apply discipline.safe_require
  intro _
  apply safe_readOnly
  intro db₂ _
  apply discipline.safe_liftExcept
  intro _ allowed
  have fits : dto.amount.cents ≤ owed db₂ loan.id := by
    exact (Settlement.assertForgivenessAllowed_ok _ _ _ ((except_mapError_ok _ _ _).mp allowed)).2
  exact safe_append
    { entryFor ctx fresh loan .forgiven dto.amount.cents with
      reason := some (trim dto.reason) } _ db₂
    (fun _ => fits)
    (fun answering => by cases answering)
    (fun db₃ => safe_settleIfClear ctx loan.id .forgivenSettled _ db₃
      (fun db => safe_get ctx id db))

theorem safe_request (issued : IsRequest p) (db : Db) :
    discipline.Safe p db := by
  cases issued with
  | propose ctx fresh dto => exact safe_propose ctx fresh dto db
  | decide ctx fresh id dto => exact safe_decide ctx fresh id dto db
  | payment ctx fresh id dto => exact safe_payment ctx fresh id dto db
  | forgive ctx fresh id dto => exact safe_forgive ctx fresh id dto db

end Safety

/-- In every interleaving where no append spoils a check already made, no loan
is overpaid, no report is confirmed twice and no confirmation corrected twice. -/
theorem isolated_run_accounted (db : Db) (c : Config Db Mark Refusal LoanView)
    (start : Accounted db) (positive : PositiveAmounts db)
    (run : Run IsRequest isolated (Config.idle db) c) : Accounted c.store := by
  have sound : discipline.Sound c :=
    discipline.run_sound IsRequest isolated
      (fun p issued db _ => safe_request p issued db)
      (fun db m m' db' allowed _ own => guar_rely db m m' db' allowed own)
      (Config.idle db) c run (discipline.sound_idle db ⟨start, positive⟩)
  exact sound.1.1

instance (loanId : Id) (kind : LedgerKind) (refersToId : Option Id) (loanId' : Id)
    (kind' : LedgerKind) (refersToId' : Option Id) :
    Decidable (Spoils loanId kind refersToId loanId' kind' refersToId') :=
  inferInstanceAs (Decidable (_ ∨ _))

instance (db : Db) : (m m' : Mark) → Decidable (isolated db m m')
  | .other, _ => .isTrue trivial
  | .checked _ _ _, _ => .isTrue trivial
  | .append _ _ _, .other => .isTrue trivial
  | .append _ _ _, .checked _ _ _ => inferInstanceAs (Decidable (¬ Spoils ..))
  | .append _ _ _, .append _ _ _ => inferInstanceAs (Decidable (¬ Spoils ..))

/-- 500.00 proposed by the lender, accepted and reported paid by the borrower. -/
def agreeAndReport : List (Move Db Mark Refusal LoanView) :=
  [.arrive (propose lender 100
    { counterpartyId := 1
      direction := .theyOweUs
      amount := 50000
      note := none
      clientUuid := none })] ++ List.replicate 4 (.advance 0) ++
  [.arrive (Loans.decide borrower 200 100
    { action := .accept
      amount := none
      reason := none
      expectedVersion := none })] ++ List.replicate 3 (.advance 1) ++
  [.arrive (payment borrower 201 100
    { action := .report
      amount := some 50000
      method := some .cash })] ++ List.replicate 7 (.advance 2)

def confirmReport (fresh : Id) : Request LoanView :=
  payment lender fresh 100 { action := .confirm, entryId := some 201 }

def overlappingConfirmations : List (Move Db Mark Refusal LoanView) :=
  agreeAndReport ++ [.arrive (confirmReport 202), .arrive (confirmReport 203)] ++
    List.replicate 4 (.advance 3) ++ List.replicate 4 (.advance 4) ++ [.advance 3, .advance 4]

/-- One confirmation runs to its end before the other reads the ledger. -/
def separateConfirmations : List (Move Db Mark Refusal LoanView) :=
  agreeAndReport ++ [.arrive (confirmReport 202), .arrive (confirmReport 203)] ++
    List.replicate 8 (.advance 3) ++ List.replicate 8 (.advance 4)

private theorem agreeAndReport_requests (member : .arrive p ∈ agreeAndReport) : IsRequest p := by
  simp only [agreeAndReport, List.mem_append, List.mem_singleton, List.mem_replicate,
    Move.arrive.injEq, reduceCtorEq, and_false, or_false] at member
  rcases member with (rfl | rfl) | rfl
  · exact .propose _ _ _
  · exact .decide _ _ _ _
  · exact .payment _ _ _ _

private theorem confirmations_requests
    (member : .arrive p ∈ overlappingConfirmations ∨ .arrive p ∈ separateConfirmations) :
    IsRequest p := by
  simp only [overlappingConfirmations, separateConfirmations, List.mem_append, List.mem_cons,
    List.not_mem_nil, List.mem_replicate, Move.arrive.injEq, reduceCtorEq, and_false,
    or_false, or_self] at member
  rcases member with shared | rfl | rfl
  · exact agreeAndReport_requests p shared
  · exact .payment _ _ _ _
  · exact .payment _ _ _ _

theorem confirmations_overpay :
    ¬ ∀ (db : Db) (c : Config Db Mark Refusal LoanView),
      Accounted db → PositiveAmounts db → Run IsRequest anyOrder (Config.idle db) c →
        Accounted c.store := by
  intro claim
  have accounted : Accounted ((Config.idle emptyBook).schedule overlappingConfirmations).store :=
    claim emptyBook _ (accounted_of_empty emptyBook rfl) (fun _ member => by cases member)
      (schedule_run IsRequest anyOrder _ _
        (fun p member => confirmations_requests p (.inl member)) (admits_anyOrder _ _))
  have overpaid : owed ((Config.idle emptyBook).schedule overlappingConfirmations).store 100 =
      -50000 := by decide
  have bound := accounted.owed_nonneg 100
  omega

theorem isolated_run_accounted_separate :
    (Config.idle emptyBook).Admits isolated separateConfirmations ∧
      owed ((Config.idle emptyBook).schedule separateConfirmations).store 100 = 0 ∧
      Accounted ((Config.idle emptyBook).schedule separateConfirmations).store := by
  have admitted : (Config.idle emptyBook).Admits isolated separateConfirmations := by decide
  refine ⟨admitted, by decide, ?_⟩
  exact isolated_run_accounted emptyBook _ (accounted_of_empty emptyBook rfl)
    (fun _ member => by cases member)
    (schedule_run IsRequest isolated _ _
      (fun p member => confirmations_requests p (.inr member)) admitted)

end ErpBackend.Loans
