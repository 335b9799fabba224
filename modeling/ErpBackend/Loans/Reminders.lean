import ErpBackend.Loans.Standing

/-!
# What the closing screen is reminded of

`closingReminders` announces the loans whose stored status awaits a confirmation.
Confirming, forgiving and correcting restate that status without looking at the
reports that are still unanswered.
-/

namespace ErpBackend.Loans

open Foundation

structure ClosingReminders where
  proposalsNeedingAnswer : Nat
  paymentsAwaitingConfirmation : Nat
  balancesOutstanding : Nat
  totalOutstanding : Int
  affectsExpectedCash : Bool
  deriving DecidableEq

def reminded : List LoanStatus :=
  [.proposed, .counterProposed, .disputed, .accepted, .partiallyPaid, .paymentAwaitingConfirmation]

def remindable (db : Db) (me : Id) : List Loan :=
  db.loans.filter (fun loan => visible me loan = true ∧ loan.status ∈ reminded)

def closingReminders (ctx : Ctx) (db : Db) : ClosingReminders :=
  let me := ctx.companyId
  let loans := (remindable db me).take 100
  let outstanding := loans.filter (fun loan => loan.principal ≠ none ∧ 0 < owed db loan.id)
  { proposalsNeedingAnswer := (loans.filter (fun loan =>
      loan.status ∈ [LoanStatus.proposed, .counterProposed, .disputed] ∧
        ¬ (loan.counterpartyCompanyId.isSome ∧ loan.proposedByCompanyId = me))).length
    paymentsAwaitingConfirmation := (loans.filter (fun loan =>
      loan.status = .paymentAwaitingConfirmation)).length
    balancesOutstanding := outstanding.length
    totalOutstanding := (outstanding.map (fun loan => owed db loan.id)).sum
    affectsExpectedCash := false }

def openReports (rows : List LedgerRow) : List LedgerRow :=
  rows.filter (fun row => row.kind = .paymentReported ∧ answered rows row.id = false)

variable (rows : List LedgerRow)

theorem unanswered_pos (positive : ∀ row ∈ rows, 0 < row.amount) :
    0 < unansweredReports rows ↔ openReports rows ≠ [] := by
  have inside : ∀ row ∈ openReports rows, 0 < row.amount :=
    fun row member => positive row (List.mem_filter.mp member).1
  change 0 < ((openReports rows).map LedgerRow.amount).sum ↔ _
  cases reports : openReports rows with
  | nil => simp
  | cons first rest =>
      rw [reports] at inside
      have some' := inside first (List.mem_cons_self ..)
      have others : 0 ≤ (rest.map LedgerRow.amount).sum := by
        apply List.sum_nonneg
        simp only [List.mem_map, forall_exists_index, and_imp, forall_apply_eq_imp_iff₂]
        intro row member
        exact Int.le_of_lt (inside row (List.mem_cons_of_mem _ member))
      simp only [List.map_cons, List.sum_cons, ne_eq, reduceCtorEq, not_false_eq_true, iff_true]
      omega

variable (row : LedgerRow)

theorem answered_append (id : Id) :
    answered (rows ++ [row]) id =
      (answered rows id || Decidable.decide (row.kind = .paymentConfirmed ∧
        row.refersToId = some id)) := by
  simp [answered]

theorem openReports_report (kind : row.kind = .paymentReported)
    (unasked : answered rows row.id = false) :
    openReports (rows ++ [row]) = openReports rows ++ [row] := by
  unfold openReports
  rw [List.filter_append]
  have same : ∀ id, answered (rows ++ [row]) id = answered rows id := by
    intro id
    rw [answered_append]
    simp [kind]
  simp [same, kind, unasked]

theorem openReports_other (report : row.kind ≠ .paymentReported)
    (confirmation : row.kind ≠ .paymentConfirmed) :
    openReports (rows ++ [row]) = openReports rows := by
  unfold openReports
  rw [List.filter_append]
  have same : ∀ id, answered (rows ++ [row]) id = answered rows id := by
    intro id
    rw [answered_append]
    simp [confirmation]
  simp [same, report]

theorem openReports_confirm (id : Id)
    (kind : row.kind = .paymentConfirmed) (refers : row.refersToId = some id) :
    openReports (rows ++ [row]) = (openReports rows).filter (fun report => report.id ≠ id) := by
  unfold openReports
  rw [List.filter_append, List.filter_filter]
  have none : ([row].filter (fun report => report.kind = .paymentReported ∧
      answered (rows ++ [row]) report.id = false)) = [] := by
    simp [kind]
  rw [none, List.append_nil]
  apply List.filter_congr
  intro report _
  rw [answered_append]
  simp only [kind, refers, true_and, Option.some.injEq]
  by_cases same : report.id = id
  · simp [same]
  · simp [same, Ne.symm same]

def reportsOf (db : Db) (loanId : Id) : List LedgerRow := openReports (ledgerRows db loanId)

/-- The call changes nothing, or: a payment is reported only when no report on the loan is
unanswered, a write-off leaves none unanswered unless it clears the debt, and no settled loan
is reopened with one. -/
def Tidy (db : Db) (call : Call) : Prop :=
  (call.exec db).1 = db ∨
    match call.operation with
    | .propose _ _ => True
    | .decide _ _ _ => True
    | .payment _ id dto =>
        match dto.action with
        | .report => reportsOf db id = []
        | .confirm => True
        | .correct => (∀ loan ∈ db.loans.find? id, closed loan.status = true) → reportsOf db id = []
    | .forgive _ id dto => reportsOf db id = [] ∨ dto.amount.cents = owed db id

/-- The stored status says whether a report waits for its confirmation, and at most one does. -/
structure Awaited (db : Db) (loan : Loan) : Prop where
  single : (reportsOf db loan.id).length ≤ 1
  awaiting : loan.principal ≠ none → (loan.status = .paymentAwaitingConfirmation ↔
    closed loan.status = false ∧ reportsOf db loan.id ≠ [])

structure Attended (db : Db) : Prop where
  loans : ∀ loan ∈ db.loans.rows, Awaited db loan
  referred : ∀ entry ∈ db.loanLedger.rows, entry.kind = .paymentConfirmed →
    ∀ id, entry.refersToId = some id → ∃ report ∈ db.loanLedger.rows, report.id = id

/-- What `Tidy` asks of the row a call books. -/
def TidyRow (db : Db) (loan : Loan) (entry : LoanLedgerEntry) : Prop :=
  match entry.kind with
  | .paymentReported => reportsOf db loan.id = []
  | .paymentCorrected => closed loan.status = true → reportsOf db loan.id = []
  | .forgiven => reportsOf db loan.id = [] ∨ entry.amount = owed db loan.id
  | _ => True

theorem Restate.awaiting {kind : LedgerKind} {left : Int} {source : List LoanStatus}
    {target : LoanStatus} (restate : Restate kind left source target) (status : LoanStatus)
    (standing : active status = true ∨ closed status = true) (before after : Prop)
    (was : status = .paymentAwaitingConfirmation ↔ closed status = false ∧ before)
    (reported : kind = .paymentReported → after)
    (debit : kind.debit = true → 0 < left → ¬ after)
    (corrected : kind = .paymentCorrected → (after ↔ before) ∧ (closed status = true → ¬ after)) :
    (if status ∈ source then target else status) = .paymentAwaitingConfirmation ↔
      closed (if status ∈ source then target else status) = false ∧ after := by
  cases restate with
  | reported =>
      have open' := reported rfl
      cases status <;> simp [active, closed, open'] at standing ⊢
  | partly _ _ takes left_pos =>
      have none := debit takes left_pos
      cases status <;> simp [active, closed, none] at standing ⊢
  | cleared _ _ _ takes _ ends =>
      have other : target ≠ .paymentAwaitingConfirmation := by
        rintro rfl
        cases ends
      cases status <;> cases target <;> simp [active, closed] at standing ends other ⊢
  | corrected =>
      obtain ⟨same, none⟩ := corrected rfl
      rw [same] at none ⊢
      cases status <;> simp [active, closed] at standing was none ⊢
      all_goals assumption

theorem toRow_of_findEntry (db : Db) (loanId id : Id) (kind : LedgerKind)
    (entry : LoanLedgerEntry) (found : findEntry db loanId id kind = some entry) :
    toRow entry ∈ ledgerRows db loanId := by
  obtain ⟨member, -, own, -⟩ := findEntry_some db loanId id kind entry found
  exact List.mem_map.mpr ⟨entry, List.mem_filter.mpr ⟨member, decide_eq_true own⟩, rfl⟩

theorem unanswered_of_findAnswer (db : Db) (loanId id : Id)
    (free : findAnswer db id .paymentConfirmed = none) :
    answered (ledgerRows db loanId) id = false := by
  rw [findAnswer_none] at free
  apply Bool.eq_false_iff.mpr
  intro found
  obtain ⟨row, member, matched⟩ := List.any_eq_true.mp found
  obtain ⟨kind, refers⟩ := of_decide_eq_true matched
  obtain ⟨entry, stored, rfl⟩ := List.mem_map.mp member
  exact free entry (List.mem_filter.mp stored).1 refers kind

theorem reports_confirmed (db : Db) (loanId id : Id) (other : LoanLedgerEntry) (row : LedgerRow)
    (single : (reportsOf db loanId).length ≤ 1)
    (found : findEntry db loanId id .paymentReported = some other)
    (free : findAnswer db other.id .paymentConfirmed = none)
    (kind : row.kind = .paymentConfirmed) (refers : row.refersToId = some other.id) :
    openReports (ledgerRows db loanId ++ [row]) = [] := by
  rw [openReports_confirm _ row other.id kind refers]
  obtain ⟨-, -, -, report⟩ := findEntry_some db loanId id _ other found
  have listed : toRow other ∈ reportsOf db loanId := by
    refine List.mem_filter.mpr ⟨toRow_of_findEntry db loanId id _ other found, ?_⟩
    exact decide_eq_true ⟨report, unanswered_of_findAnswer db loanId other.id free⟩
  change (reportsOf db loanId).filter _ = []
  rcases reports : reportsOf db loanId with _ | ⟨only, rest⟩
  · rfl
  · rw [reports] at single listed
    have empty : rest = [] := List.length_eq_zero_iff.mp (by simpa using single)
    subst empty
    rw [← List.mem_singleton.mp listed]
    simp [toRow]

section Booking

variable {db db₁ : Db} {loan : Loan} {entry : LoanLedgerEntry}

theorem reports_booked (attended : Attended db) (single : (reportsOf db loan.id).length ≤ 1)
    (inserted : insertEntry db entry = .ok db₁) (own : entry.loanId = loan.id)
    (answers : ∀ asked, entry.kind.asked = some asked → ∃ id other,
      findEntry db loan.id id asked = some other ∧ entry.refersToId = some other.id ∧
        findAnswer db other.id entry.kind = none) :
    reportsOf db₁ loan.id =
      if entry.kind = .paymentReported then reportsOf db loan.id ++ [toRow entry]
      else if entry.kind = .paymentConfirmed then [] else reportsOf db loan.id := by
  obtain ⟨-, -, fresh, rows, -⟩ := insertEntry_ok db db₁ entry inserted
  have appended : reportsOf db₁ loan.id = openReports (ledgerRows db loan.id ++ [toRow entry]) := by
    unfold reportsOf
    rw [ledgerRows_append db db₁ entry rows, if_pos own]
  rw [appended]
  split
  · next report =>
    refine openReports_report _ _ report ?_
    -- nothing refers to a row that is not there yet
    apply Bool.eq_false_iff.mpr
    intro found
    obtain ⟨row, member, matched⟩ := List.any_eq_true.mp found
    obtain ⟨confirmed, refers⟩ := of_decide_eq_true matched
    obtain ⟨other, stored, rfl⟩ := List.mem_map.mp member
    obtain ⟨report', present, same⟩ := attended.referred other (List.mem_filter.mp stored).1
      confirmed entry.id refers
    exact fresh report' present same
  · next other =>
    split
    · next confirmed =>
      obtain ⟨id, report, found, refers, free⟩ := answers .paymentReported (by rw [confirmed]; rfl)
      rw [confirmed] at free
      exact reports_confirmed db loan.id id report _ single found free confirmed refers
    · next unconfirmed => exact openReports_other _ _ other unconfirmed

theorem awaited_booked {source : List LoanStatus} {target : LoanStatus}
    (attended : Attended db) (awaited : Awaited db loan) (agreed : loan.principal ≠ none)
    (standing : active loan.status = true ∨ closed loan.status = true)
    (inserted : insertEntry db entry = .ok db₁) (own : entry.loanId = loan.id)
    (answers : ∀ asked, entry.kind.asked = some asked → ∃ id other,
      findEntry db loan.id id asked = some other ∧ entry.refersToId = some other.id ∧
        findAnswer db other.id entry.kind = none)
    (restate : Restate entry.kind (owed db₁ loan.id) source target) (tidy : TidyRow db loan entry) :
    (reportsOf db₁ loan.id).length ≤ 1 ∧
      ((if loan.status ∈ source then target else loan.status) = .paymentAwaitingConfirmation ↔
        closed (if loan.status ∈ source then target else loan.status) = false ∧
          reportsOf db₁ loan.id ≠ []) := by
  have booked := reports_booked attended awaited.single inserted own answers
  obtain ⟨-, -, -, rows, -⟩ := insertEntry_ok db db₁ entry inserted
  have balance := owed_append db db₁ entry rows loan.id
  rw [if_pos own] at balance
  unfold TidyRow at tidy
  constructor
  · rw [booked]
    split
    · next report =>
      rw [report] at tidy
      have none : reportsOf db loan.id = [] := tidy
      simp [none]
    · split
      · simp
      · exact awaited.single
  · refine restate.awaiting loan.status standing (reportsOf db loan.id ≠ [])
      (reportsOf db₁ loan.id ≠ []) (awaited.awaiting agreed) ?_ ?_ ?_
    · intro report
      rw [booked, if_pos report]
      simp
    · intro debit left
      rw [booked]
      cases entryKind : entry.kind <;> simp [LedgerKind.debit, entryKind] at debit ⊢
      rw [entryKind] at tidy
      rcases tidy with none | clears
      · exact none
      · rw [balance, ← clears] at left
        simp [LedgerRow.effect, toRow, entryKind, balanceEffect] at left
    · intro corrected
      rw [booked, corrected]
      rw [corrected] at tidy
      simp only [reduceCtorEq, if_false, true_and, ne_eq, not_not]
      exact tidy

end Booking

theorem attended_booked {db db' : Db} {history : List Event} {loan : Loan}
    {entry : LoanLedgerEntry} (ordered : Ordered db history) (attended : Attended db)
    (found : db.loans.find? loan.id = some loan) (agreed : loan.principal ≠ none)
    (booking : Booking db loan entry db') (tidy : TidyRow db loan entry) : Attended db' := by
  cases booking with
  | book db₁ source target stamp inserted own _ fits answers restate =>
      obtain ⟨-, -, -, rows, loans⟩ := insertEntry_ok db db₁ entry inserted
      constructor
      · intro other member
        simp only [moveStatus, Table.mem_modify, loans] at member
        obtain ⟨old, present, rfl⟩ := member
        by_cases same : old.id = loan.id
        · obtain rfl := db.loans.key_injective old loan present
            (db.loans.mem_of_find? _ _ found) same
          obtain ⟨sum, owing⟩ := (ordered.tracked old present).owing agreed
          obtain ⟨single, awaiting⟩ := awaited_booked attended (attended.loans old present) agreed
            owing.status inserted own answers restate tidy
          by_cases inside : old.status ∈ source
          · simp only [inside, if_true] at awaiting
            simp only [inside, and_true, decide_true, if_true]
            exact ⟨single, fun _ => awaiting⟩
          · simp only [inside, if_false] at awaiting
            simp only [inside, and_false, decide_false, Bool.false_eq_true, if_false]
            exact ⟨single, fun _ => awaiting⟩
        · have apart : entry.loanId ≠ old.id := by
            rw [own]
            exact Ne.symm same
          have kept : reportsOf (moveStatus db₁ loan.id source target stamp) old.id =
              reportsOf db old.id := by
            change openReports (ledgerRows db₁ old.id) = _
            rw [ledgerRows_append db db₁ entry rows, if_neg apart, List.append_nil]
            rfl
          simp only [same, false_and, decide_false, Bool.false_eq_true, if_false]
          obtain ⟨single, awaiting⟩ := attended.loans old present
          exact ⟨by rw [kept]; exact single, by rw [kept]; exact awaiting⟩
      · change ∀ other ∈ db₁.loanLedger.rows, _ → ∀ id, _ → ∃ report ∈ db₁.loanLedger.rows, _
        rw [rows]
        intro other member confirmed id refers
        rcases List.mem_append.mp member with old | new
        · obtain ⟨report, stored, same⟩ := attended.referred other old confirmed id refers
          exact ⟨report, List.mem_append_left _ stored, same⟩
        · obtain rfl := List.mem_singleton.mp new
          obtain ⟨_, report, listed, same, -⟩ := answers .paymentReported (by rw [confirmed]; rfl)
          obtain ⟨stored, -⟩ := findEntry_some db loan.id _ _ report listed
          rw [refers] at same
          exact ⟨report, List.mem_append_left _ stored, (Option.some.inj same).symm⟩

theorem attended_negotiated {db db' : Db} {history events : List Event}
    (ordered : Ordered db history) (attended : Attended db)
    (negotiation : Negotiation db db' events) : Attended db' := by
  cases negotiation with
  | none => exact attended
  | propose loan _ status principal counter positive inserted =>
      obtain ⟨ledger, stored⟩ := insertLoan_ok db db' loan inserted
      obtain ⟨rows, fresh⟩ := Table.insert?_some _ _ _ stored
      have same : ∀ loanId, reportsOf db' loanId = reportsOf db loanId := by
        intro loanId
        unfold reportsOf
        rw [ledgerRows_congr db db' (by rw [ledger])]
      refine ⟨?_, by rw [ledger]; exact attended.referred⟩
      intro other member
      rw [rows] at member
      rcases List.mem_append.mp member with old | new
      · obtain ⟨single, awaiting⟩ := attended.loans other old
        exact ⟨by rw [same]; exact single, by rw [same]; exact awaiting⟩
      · obtain rfl := List.mem_singleton.mp new
        refine ⟨?_, fun agreed => absurd principal agreed⟩
        have none : ledgerRows db other.id = [] := by
          unfold ledgerRows ledgerOf
          rw [List.map_eq_nil_iff, Table.filter, List.filter_eq_nil_iff]
          intro entry listed own
          refine ordered.owned entry listed ((db.loans.find?_none _).mpr ?_)
          intro loan' present key
          exact fresh loan' present (key.trans (of_decide_eq_true own))
        rw [same, reportsOf, none]
        simp [openReports]
  | decide ctx fresh dto loan next _ found asserted committed =>
      obtain ⟨loans, booked⟩ := commitDecision_ok ctx fresh dto loan next db db' committed
      obtain ⟨source, target, -, -⟩ := assertDecision_ok _ next asserted
      have undecided := (ordered.tracked loan (Table.mem_of_find? _ _ _ found)).undecided
        (transitions_source_pending dto.action loan.status source)
      have same : ∀ loanId, reportsOf db' loanId = reportsOf db loanId := by
        intro loanId
        unfold reportsOf
        by_cases accept : dto.action = .accept
        · rw [if_pos accept] at booked
          rw [ledgerRows_append db db' _ booked.2]
          split
          · exact openReports_other _ _ (fun same => by cases same) (fun same => by cases same)
          · rw [List.append_nil]
        · rw [if_neg accept] at booked
          rw [ledgerRows_congr db db' booked]
      constructor
      · intro other member
        rw [loans] at member
        rcases (Table.mem_update _ _ _ _ _).mp member with ⟨old, apart⟩ | ⟨before, present, rfl⟩
        · obtain ⟨single, awaiting⟩ := attended.loans other old
          exact ⟨by rw [same]; exact single, by rw [same]; exact awaiting⟩
        · rw [found] at present
          cases present
          have none : reportsOf db loan.id = [] := by
            rw [reportsOf, undecided.ledger]
            rfl
          have still : reportsOf db' (decided ctx dto loan next loan).id = [] := by
            rw [decided_id, same]
            exact none
          have other : next ≠ .paymentAwaitingConfirmation := by
            rw [target]
            cases dto.action <;> simp [transitions]
          refine ⟨by rw [still]; exact Nat.zero_le 1, fun _ => ⟨?_, ?_⟩⟩
          · exact fun awaiting => absurd awaiting other
          · exact fun waiting => absurd still waiting.2
      · intro other member confirmed id refers
        by_cases accept : dto.action = .accept
        · rw [if_pos accept] at booked
          rw [booked.2] at member ⊢
          rcases List.mem_append.mp member with old | new
          · obtain ⟨report, stored, key⟩ := attended.referred other old confirmed id refers
            exact ⟨report, List.mem_append_left _ stored, key⟩
          · obtain rfl := List.mem_singleton.mp new
            cases confirmed
        · rw [if_neg accept] at booked
          rw [booked] at member ⊢
          exact attended.referred other member confirmed id refers

theorem attended_call (call : Call) {db : Db} {history : List Event} (ordered : Ordered db history)
    (attended : Attended db) (tidy : Tidy db call) : Attended (call.exec db).1 := by
  rcases tidy with unchanged | tidy
  · rw [unchanged]
    exact attended
  rcases call with ⟨ctx, operation⟩
  cases operation with
  | propose fresh dto =>
      exact attended_negotiated ordered attended (propose_negotiates ctx fresh dto db)
  | decide fresh id dto =>
      exact attended_negotiated ordered attended (decide_negotiates ctx fresh id dto db)
  | payment fresh id dto =>
      rcases payment_books ctx fresh id dto db with
        unchanged | ⟨loan, found, rfl, agreed, unchanged | ⟨entry, kind, booking⟩⟩
      · exact unchanged.symm ▸ attended
      · exact unchanged.symm ▸ attended
      · refine attended_booked ordered attended found agreed booking ?_
        unfold TidyRow
        rw [kind]
        dsimp only at tidy
        cases action : dto.action with
        | report =>
            rw [action] at tidy
            exact tidy
        | confirm => trivial
        | correct =>
            rw [action] at tidy
            exact fun settled => tidy (fun other present => by
              rw [found] at present
              cases present
              exact settled)
  | forgive fresh id dto =>
      rcases forgive_books ctx fresh id dto db with
        unchanged | ⟨loan, found, rfl, agreed, unchanged | ⟨entry, ⟨kind, amount⟩, booking⟩⟩
      · exact unchanged.symm ▸ attended
      · exact unchanged.symm ▸ attended
      · refine attended_booked ordered attended found agreed booking ?_
        unfold TidyRow
        rw [kind, amount]
        exact tidy

def TidyRun (db : Db) : List Call → Prop
  | [] => True
  | call :: rest => Tidy db call ∧ TidyRun (call.exec db).1 rest

theorem play_attended (calls : List Call) (state : Db × List Event)
    (ordered : Ordered state.1 state.2) (attended : Attended state.1)
    (tidy : TidyRun state.1 calls) :
    Ordered (calls.foldl Call.apply state).1 (calls.foldl Call.apply state).2 ∧
      Attended (calls.foldl Call.apply state).1 := by
  induction calls generalizing state with
  | nil => exact ⟨ordered, attended⟩
  | cons call rest ih =>
      exact ih (call.apply state)
        (change_ordered state.1 _ state.2 _ (call_change call state.1) ordered)
        (attended_call call ordered attended tidy.1) tidy.2

/-- The reports a company still has to see confirmed, on loans that are not settled. -/
def reportsLeft (db : Db) (me : Id) : Nat :=
  ((db.loans.filter (fun loan => visible me loan = true ∧ closed loan.status = false)).map
    (fun loan => (reportsOf db loan.id).length)).sum

theorem count_awaiting (db : Db) (me : Id) (loans : List Loan)
    (one : ∀ loan ∈ loans, loan.status = .paymentAwaitingConfirmation →
      (reportsOf db loan.id).length = 1)
    (none : ∀ loan ∈ loans, closed loan.status = false →
      loan.status ≠ .paymentAwaitingConfirmation → (reportsOf db loan.id).length = 0) :
    ((loans.filter (fun loan => visible me loan = true ∧ loan.status ∈ reminded)).filter
        (fun loan => loan.status = .paymentAwaitingConfirmation)).length =
      ((loans.filter (fun loan => visible me loan = true ∧ closed loan.status = false)).map
        (fun loan => (reportsOf db loan.id).length)).sum := by
  induction loans with
  | nil => rfl
  | cons loan rest ih =>
      have later := ih (fun other member => one other (List.mem_cons_of_mem _ member))
        (fun other member => none other (List.mem_cons_of_mem _ member))
      have own := one loan (List.mem_cons_self ..)
      have other := none loan (List.mem_cons_self ..)
      by_cases seen : visible me loan = true
      · by_cases awaiting : loan.status = .paymentAwaitingConfirmation
        · rw [List.filter_cons_of_pos (by simp [seen, awaiting, reminded]),
            List.filter_cons_of_pos (by simp [awaiting]),
            List.filter_cons_of_pos (by simp [seen, awaiting, closed]), List.length_cons, later,
            List.map_cons, List.sum_cons, own awaiting, Nat.add_comm]
        · have unannounced : (List.filter (fun loan => loan.status = .paymentAwaitingConfirmation)
              ((loan :: rest).filter (fun loan => visible me loan = true ∧
                loan.status ∈ reminded))).length = (List.filter (fun loan =>
              loan.status = .paymentAwaitingConfirmation) (rest.filter (fun loan =>
                visible me loan = true ∧ loan.status ∈ reminded))).length := by
            by_cases listed : loan.status ∈ reminded
            · rw [List.filter_cons_of_pos (by simp [seen, listed]),
                List.filter_cons_of_neg (by simp [awaiting])]
            · rw [List.filter_cons_of_neg (by simp [listed])]
          rw [unannounced, later]
          by_cases settled : closed loan.status = false
          · rw [List.filter_cons_of_pos (by simp [seen, settled]), List.map_cons, List.sum_cons,
              other settled awaiting, Nat.zero_add]
          · rw [List.filter_cons_of_neg (by simp [settled])]
      · rw [List.filter_cons_of_neg (by simp [seen]), List.filter_cons_of_neg (by simp [seen]),
          later]

/-- The stored status of every agreed loan says whether a report waits for its confirmation,
and the screen announces as many reports as wait. -/
structure Announced (db : Db) : Prop where
  awaiting : ∀ loan ∈ db.loans.rows, loan.principal ≠ none →
    (loan.status = .paymentAwaitingConfirmation ↔
      closed loan.status = false ∧ 0 < unansweredReports (ledgerRows db loan.id))
  reminders : ∀ ctx : Ctx, (remindable db ctx.companyId).length ≤ 100 →
    (closingReminders ctx db).paymentsAwaitingConfirmation = reportsLeft db ctx.companyId

theorem Attended.announced {db : Db} {history : List Event} (ordered : Ordered db history)
    (attended : Attended db) : Announced db := by
  have counted : ∀ loan ∈ db.loans.rows,
      (0 < unansweredReports (ledgerRows db loan.id) ↔ reportsOf db loan.id ≠ []) := by
    intro loan _
    apply unanswered_pos
    intro row member
    obtain ⟨entry, listed, rfl⟩ := List.mem_map.mp member
    exact ordered.positive entry (List.mem_filter.mp listed).1
  have undecided : ∀ loan ∈ db.loans.rows, loan.principal = none →
      loan.status ≠ .paymentAwaitingConfirmation ∧ reportsOf db loan.id = [] := by
    intro loan member open'
    rcases ordered.tracked loan member with undecided | ⟨sum, owing⟩
    · refine ⟨?_, by rw [reportsOf, undecided.ledger]; rfl⟩
      intro awaiting
      rcases undecided.status with pending | cancelled
      · rw [awaiting] at pending
        cases pending
      · rw [awaiting] at cancelled
        cases cancelled
    · rw [owing.principal] at open'
      cases open'
  refine ⟨?_, ?_⟩
  · intro loan member agreed
    rw [counted loan member]
    exact (attended.loans loan member).awaiting agreed
  · intro ctx few
    unfold closingReminders
    simp only [List.take_of_length_le few]
    refine count_awaiting db ctx.companyId db.loans.rows ?_ ?_
    · intro loan member awaiting
      by_cases agreed : loan.principal = none
      · exact absurd awaiting (undecided loan member agreed).1
      · have open' := (((attended.loans loan member).awaiting agreed).mp awaiting).2
        have some' := List.length_pos_iff.mpr open'
        have single := (attended.loans loan member).single
        omega
    · intro loan member unsettled other
      by_cases agreed : loan.principal = none
      · rw [(undecided loan member agreed).2]
        rfl
      · by_contra some'
        refine other (((attended.loans loan member).awaiting agreed).mpr ⟨unsettled, ?_⟩)
        exact List.ne_nil_of_length_pos (Nat.pos_of_ne_zero some')

/-- In every run of tidy calls, what the closing screen announces is what is unanswered. -/
theorem play_announced (db : Db) (noLoans : db.loans.rows = []) (noLedger : db.loanLedger.rows = [])
    (calls : List Call) (tidy : TidyRun db calls) : Announced (play db calls).1 := by
  have start : Attended db := ⟨by simp [noLoans], by simp [noLedger]⟩
  obtain ⟨ordered, attended⟩ := play_attended calls (db, []) (ordered_start db noLoans noLedger)
    start tidy
  exact attended.announced ordered

def reportedAndConfirmed : List Call :=
  [⟨lender, .propose 100
      { counterpartyId := 1
        direction := .theyOweUs
        amount := 50000
        note := none
        clientUuid := none }⟩,
    ⟨borrower, .decide 200 100
      { action := .accept
        amount := none
        reason := none
        expectedVersion := some 0 }⟩,
    ⟨borrower, .payment 201 100
      { action := .report
        amount := some ⟨20000, by decide⟩
        method := some .cash }⟩,
    ⟨lender, .payment 202 100
      { action := .confirm
        entryId := some 201 }⟩]

theorem play_announced_reportedAndConfirmed :
    (play emptyBook reportedAndConfirmed).1.loans.rows.map Loan.status = [.partiallyPaid] ∧
      Announced (play emptyBook reportedAndConfirmed).1 := by
  refine ⟨by decide +kernel, play_announced emptyBook rfl rfl reportedAndConfirmed ?_⟩
  refine ⟨.inr trivial, .inr trivial, .inr ?_, .inr trivial, trivial⟩
  decide +kernel

def reportedTwice : List Call :=
  reportedAndConfirmed.take 3 ++
    [⟨borrower, .payment 203 100
      { action := .report
        amount := some ⟨10000, by decide⟩
        method := some .cash }⟩] ++ reportedAndConfirmed.drop 3

theorem report_forgotten :
    ¬ ∀ (db : Db) (calls : List Call), db.loans.rows = [] → db.loanLedger.rows = [] →
      Announced (play db calls).1 := by
  intro claim
  have announced := claim emptyBook reportedTwice rfl rfl
  have state : (play emptyBook reportedTwice).1.loans.rows.map (fun loan =>
      (loan.status, loan.principal, unansweredReports (ledgerRows (play emptyBook reportedTwice).1
        loan.id))) = [(.partiallyPaid, some 50000, 10000)] := by decide +kernel
  obtain ⟨loan, rows, fields⟩ := List.map_eq_singleton_iff.mp state
  simp only [Prod.mk.injEq] at fields
  obtain ⟨status, principal, unanswered⟩ := fields
  have told := announced.awaiting loan (by simp [rows]) (by simp [principal])
  rw [status, unanswered] at told
  exact absurd (told.mpr ⟨rfl, by decide⟩) (by decide)

end ErpBackend.Loans
