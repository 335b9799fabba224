import ErpBackend.Loans.Lifecycle

/-!
# Where every loan stands

The stored status, the ledger and the history of offers agree in every state a
sequence of requests reaches.
-/

namespace ErpBackend.Loans

open Foundation

def lastOffer (history : List Event) (loanId : Id) : Option (Id × Int) :=
  (history.filterMap (fun event => match event with
    | .offered id company amount => if id = loanId then some (company, amount) else none
    | .accepted _ _ => none)).getLast?

def acceptors (history : List Event) (loanId : Id) : List Id :=
  history.filterMap (fun event => match event with
    | .offered _ _ _ => none
    | .accepted id company => if id = loanId then some company else none)

def AcceptedAs (history : List Event) (loan : Loan) (principal : Int) : Prop :=
  ∃ before after acceptor offerer,
    history = before ++ .accepted loan.id acceptor :: after ∧
      acceptors before loan.id = [] ∧ acceptors after loan.id = [] ∧
      lastOffer before loan.id = some (offerer, principal) ∧
      (loan.counterpartyCompanyId ≠ none → acceptor ≠ offerer)

def principals (rows : List LedgerRow) : List Int :=
  (rows.filter (fun row => row.kind = .principalAccepted)).map LedgerRow.amount

structure Undecided (rows : List LedgerRow) (history : List Event) (loan : Loan) : Prop where
  principal : loan.principal = none
  status : groupOf loan.status = .pending ∨ loan.status = .cancelled
  ledger : rows = []
  unaccepted : acceptors history loan.id = []
  offer : lastOffer history loan.id = some (loan.proposedByCompanyId, agreed loan)
  positive : 0 < agreed loan

structure Owing (rows : List LedgerRow) (history : List Event) (loan : Loan) (sum : Int) :
    Prop where
  principal : loan.principal = some sum
  booked : principals rows = [sum]
  status : active loan.status = true ∨ closed loan.status = true
  settled : closed loan.status = true ↔ remaining rows = 0
  accepted : AcceptedAs history loan sum

def Tracked (rows : List LedgerRow) (history : List Event) (loan : Loan) : Prop :=
  Undecided rows history loan ∨ ∃ sum, Owing rows history loan sum

structure Ordered (db : Db) (history : List Event) : Prop where
  accounted : Accounted db
  positive : PositiveAmounts db
  owned : ∀ entry ∈ db.loanLedger.rows, db.loans.find? entry.loanId ≠ none
  recorded : ∀ event ∈ history, db.loans.find? event.loanId ≠ none
  tracked : ∀ loan ∈ db.loans.rows, Tracked (ledgerRows db loan.id) history loan

theorem lastOffer_append (history : List Event) (event : Event) (loanId : Id) :
    lastOffer (history ++ [event]) loanId =
      match event with
      | .offered id company amount =>
          if id = loanId then some (company, amount) else lastOffer history loanId
      | .accepted _ _ => lastOffer history loanId := by
  unfold lastOffer
  rw [List.filterMap_append]
  cases event with
  | offered id company amount =>
      by_cases same : id = loanId
      · simp [same]
      · simp [same]
  | accepted id company => simp

theorem acceptors_append (history later : List Event) (loanId : Id) :
    acceptors (history ++ later) loanId = acceptors history loanId ++ acceptors later loanId :=
  List.filterMap_append

variable {rows : List LedgerRow}

variable {history : List Event}

theorem Tracked.other {loan : Loan}
    (tracked : Tracked rows history loan) (event : Event) (other : event.loanId ≠ loan.id) :
    Tracked rows (history ++ [event]) loan := by
  have silent : acceptors [event] loan.id = [] := by
    cases event with
    | offered id company amount => rfl
    | accepted id company =>
        have apart : id ≠ loan.id := other
        simp [acceptors, apart]
  have standing : lastOffer (history ++ [event]) loan.id = lastOffer history loan.id := by
    rw [lastOffer_append]
    cases event with
    | offered id company amount => exact if_neg other
    | accepted id company => rfl
  rcases tracked with undecided | ⟨sum, owing⟩
  · refine .inl { undecided with unaccepted := ?_, offer := standing.trans undecided.offer }
    rw [acceptors_append, undecided.unaccepted, silent]
    rfl
  · obtain ⟨before, after, acceptor, offerer, split, none, once, offer, apart⟩ := owing.accepted
    refine .inr ⟨sum, { owing with accepted := ?_ }⟩
    refine ⟨before, after ++ [event], acceptor, offerer, ?_, none, ?_, offer, apart⟩
    · rw [split]
      simp
    · rw [acceptors_append, once, silent]
      rfl

theorem Tracked.others {loan : Loan}
    (tracked : Tracked rows history loan) (events : List Event)
    (other : ∀ event ∈ events, event.loanId ≠ loan.id) :
    Tracked rows (history ++ events) loan := by
  induction events generalizing history with
  | nil => simpa using tracked
  | cons event rest ih =>
      have next := ih (tracked.other event (other event (by simp)))
        (fun later member => other later (by simp [member]))
      simpa using next

theorem Tracked.owing {loan : Loan}
    (tracked : Tracked rows history loan) (agreed : loan.principal ≠ none) :
    ∃ sum, Owing rows history loan sum := by
  rcases tracked with undecided | owing
  · exact absurd undecided.principal agreed
  · exact owing

theorem Tracked.undecided {loan : Loan}
    (tracked : Tracked rows history loan) (pending : groupOf loan.status = .pending) :
    Undecided rows history loan := by
  rcases tracked with undecided | ⟨sum, owing⟩
  · exact undecided
  · exfalso
    rcases owing.status with standing | standing <;>
      cases status : loan.status <;>
        simp [status, active, closed, groupOf] at standing pending

variable (db db' : Db)

theorem ledgerRows_congr (rows : db'.loanLedger.rows = db.loanLedger.rows)
    (loanId : Id) : ledgerRows db' loanId = ledgerRows db loanId := by
  unfold ledgerRows ledgerOf Table.filter
  rw [rows]

theorem propose_ordered (history : List Event) (loan : Loan)
    (status : loan.status = .proposed) (principal : loan.principal = none)
    (counter : loan.counterAmount = none) (positive : 0 < loan.proposedAmount)
    (inserted : insertLoan db loan = .ok db') (ordered : Ordered db history) :
    Ordered db'
      (history ++ [.offered loan.id loan.proposedByCompanyId loan.proposedAmount]) := by
  obtain ⟨ledger, stored⟩ := insertLoan_ok db db' loan inserted
  obtain ⟨rows, fresh⟩ := db.loans.insert?_some db'.loans loan stored
  have sameRows : db'.loanLedger.rows = db.loanLedger.rows := by rw [ledger]
  have kept : ∀ id, db.loans.find? id ≠ none → db'.loans.find? id ≠ none := by
    intro id present
    rw [db.loans.find?_insert db'.loans loan stored id]
    split
    · simp
    · exact present
  have unknown : db.loans.find? loan.id = none := (db.loans.find?_none loan.id).mpr fresh
  refine
    { accounted := ordered.accounted.congr sameRows
      positive := fun entry member => ordered.positive entry (sameRows ▸ member)
      owned := fun entry member => kept _ (ordered.owned entry (sameRows ▸ member))
      recorded := ?_
      tracked := ?_ }
  · intro event member
    rcases List.mem_append.mp member with old | new
    · exact kept _ (ordered.recorded event old)
    · obtain rfl := List.mem_singleton.mp new
      rw [db.loans.find?_insert db'.loans loan stored]
      simp [Event.loanId]
  · intro other member
    rw [ledgerRows_congr db db' sameRows]
    rw [rows, List.mem_append, List.mem_singleton] at member
    rcases member with old | rfl
    · exact (ordered.tracked other old).other _ (Ne.symm (fresh other old))
    · left
      have agreedEq : agreed other = other.proposedAmount := by
        simp [agreed, counter]
      refine ⟨principal, .inl (by rw [status]; rfl), ?_, ?_, ?_, by rw [agreedEq]; exact positive⟩
      · unfold ledgerRows ledgerOf Table.filter
        rw [List.map_eq_nil_iff, List.filter_eq_nil_iff]
        intro entry present same
        exact ordered.owned entry present (by simpa [of_decide_eq_true same] using unknown)
      · rw [acceptors_append]
        simp only [acceptors, List.filterMap_cons, List.filterMap_nil, List.append_nil,
          List.filterMap_eq_nil_iff]
        intro event present
        have known := ordered.recorded event present
        cases event with
        | offered id company amount => rfl
        | accepted id company =>
            have apart : id ≠ other.id := by
              rintro rfl
              exact known unknown
            simp [apart]
      · rw [lastOffer_append, agreedEq]
        simp

theorem decided_tracked (ctx : Ctx) (fresh : Id) (dto : DecideLoanDto) (loan : Loan)
    (next : LoanStatus) (history : List Event)
    (asserted : assertDecision
      { action := dto.action
        status := loan.status
        isOwnOffer := isOwnOffer loan ctx.companyId
        amount := dto.amount
        reason := dto.reason } = .ok next)
    (undecided : Undecided [] history loan) :
    Tracked
      (if dto.action = .accept then
        [toRow (entryFor ctx fresh loan .principalAccepted (agreed loan))] else [])
      (history ++ decisionEvents ctx.companyId loan.id dto)
      (decided ctx dto loan next loan) := by
  obtain ⟨-, target, own, offered⟩ := assertDecision_ok _ next asserted
  have proceed : dto.action ≠ .accept → dto.action ≠ .counter →
      groupOf next = .pending ∨ next = .cancelled →
      Tracked
        (if dto.action = .accept then
          [toRow (entryFor ctx fresh loan .principalAccepted (agreed loan))] else [])
        (history ++ decisionEvents ctx.companyId loan.id dto)
        (decided ctx dto loan next loan) := by
    intro notAccept notCounter status
    have silent : decisionEvents ctx.companyId loan.id dto = [] := by
      unfold decisionEvents
      split
      · next counter _ => exact absurd counter notCounter
      · next accept => exact absurd accept notAccept
      · rfl
    have same : agreed (decided ctx dto loan next loan) = agreed loan := by
      simp [agreed, decided, notCounter]
    rw [if_neg notAccept, silent, List.append_nil]
    left
    refine ⟨?_, status, rfl, undecided.unaccepted, ?_, by rw [same]; exact undecided.positive⟩
    · simp [decided, notAccept, undecided.principal]
    · rw [same]
      simpa [decided, notCounter] using undecided.offer
  cases action : dto.action with
  | accept =>
      have events : decisionEvents ctx.companyId loan.id dto =
          [.accepted loan.id ctx.companyId] := by
        simp [decisionEvents, action]
      have apart : loan.counterpartyCompanyId ≠ none →
          ctx.companyId ≠ loan.proposedByCompanyId := by
        intro connected same
        have notOwn := own (.inl action)
        simp [isOwnOffer, Option.isSome_iff_ne_none.mpr connected, same] at notOwn
      have sum : remaining [toRow (entryFor ctx fresh loan .principalAccepted (agreed loan))] =
          agreed loan := by
        simp [remaining, LedgerRow.effect, toRow, entryFor, balanceEffect]
      rw [if_pos rfl, events]
      refine .inr ⟨agreed loan, ⟨by simp [decided, action], rfl, ?_, ?_, ?_⟩⟩
      · left
        simp [decided, target, action, transitions, active]
      · rw [sum]
        have positive := undecided.positive
        simp only [decided, target, action, transitions, closed, Bool.false_eq_true, false_iff]
        omega
      · exact ⟨history, [], ctx.companyId, loan.proposedByCompanyId, rfl, undecided.unaccepted,
          rfl, undecided.offer, apart⟩
  | counter =>
      obtain ⟨amount, present⟩ : ∃ amount, dto.amount = some amount :=
        Option.ne_none_iff_exists'.mp (offered action)
      have events : decisionEvents ctx.companyId loan.id dto =
          [.offered loan.id ctx.companyId amount.cents] := by
        simp [decisionEvents, action, present]
      have same : agreed (decided ctx dto loan next loan) = amount.cents := by
        simp [agreed, decided, action, present]
      rw [if_neg (by decide), events]
      left
      refine ⟨?_, ?_, rfl, ?_, ?_, by rw [same]; exact amount.positive⟩
      · simp [decided, action, undecided.principal]
      · left
        simp [decided, target, action, transitions, groupOf]
      · change acceptors (history ++ _) loan.id = []
        rw [acceptors_append, undecided.unaccepted]
        rfl
      · rw [lastOffer_append, same]
        simp [decided, action]
  | dispute =>
      rw [← action]
      exact proceed (by simp [action]) (by simp [action])
        (.inl (by simp [target, action, transitions, groupOf]))
  | reject =>
      rw [← action]
      exact proceed (by simp [action]) (by simp [action])
        (.inr (by simp [target, action, transitions]))
  | cancel =>
      rw [← action]
      exact proceed (by simp [action]) (by simp [action])
        (.inr (by simp [target, action, transitions]))

theorem decisionEvents_loanId (me id : Id) (dto : DecideLoanDto) (event : Event)
    (member : event ∈ decisionEvents me id dto) : event.loanId = id := by
  unfold decisionEvents at member
  split at member
  · obtain rfl := List.mem_singleton.mp member
    rfl
  · obtain rfl := List.mem_singleton.mp member
    rfl
  · cases member

theorem decide_ordered (ctx : Ctx) (fresh : Id) (dto : DecideLoanDto) (loan : Loan)
    (next : LoanStatus) (db db' : Db) (history : List Event)
    (found : db.loans.find? loan.id = some loan)
    (asserted : assertDecision
      { action := dto.action
        status := loan.status
        isOwnOffer := isOwnOffer loan ctx.companyId
        amount := dto.amount
        reason := dto.reason } = .ok next)
    (committed : commitDecision ctx fresh dto loan next db = .ok db')
    (ordered : Ordered db history) :
    Ordered db' (history ++ decisionEvents ctx.companyId loan.id dto) := by
  obtain ⟨loans, ledger⟩ := commitDecision_ok ctx fresh dto loan next db db' committed
  obtain ⟨source, -, -, -⟩ := assertDecision_ok _ next asserted
  have undecided := (ordered.tracked loan (db.loans.mem_of_find? loan.id loan found)).undecided
    (transitions_source_pending dto.action loan.status source)
  have kept : ∀ id, db.loans.find? id ≠ none → db'.loans.find? id ≠ none := by
    intro id present
    rw [loans, db.loans.find?_update]
    split
    · simp [found]
    · exact present
  have recorded : ∀ event ∈ history ++ decisionEvents ctx.companyId loan.id dto,
      db'.loans.find? event.loanId ≠ none := by
    intro event member
    rcases List.mem_append.mp member with old | new
    · exact kept _ (ordered.recorded event old)
    · rw [decisionEvents_loanId _ _ _ _ new]
      exact kept _ (by simp [found])
  have rowsOf : ∀ id, ledgerRows db' id = ledgerRows db id ++
      (if dto.action = .accept ∧ loan.id = id then
        [toRow (entryFor ctx fresh loan .principalAccepted (agreed loan))] else []) := by
    intro id
    split at ledger
    · next accept =>
      rw [ledgerRows_append db db' _ ledger.2 id]
      congr 1
      by_cases same : loan.id = id
      · exact (if_pos same).trans (if_pos ⟨accept, same⟩).symm
      · exact (if_neg same).trans (if_neg (fun both => same both.2)).symm
    · next other => simp [other, ledgerRows_congr db db' ledger]
  have tracked : ∀ other ∈ db'.loans.rows, Tracked (ledgerRows db' other.id)
      (history ++ decisionEvents ctx.companyId loan.id dto) other := by
    intro other member
    rw [loans, db.loans.mem_update] at member
    rw [rowsOf]
    rcases member with ⟨old, apart⟩ | ⟨stored, present, rfl⟩
    · have standing := (ordered.tracked other old).others
        (decisionEvents ctx.companyId loan.id dto)
        (fun event new same => apart (same.symm.trans (decisionEvents_loanId _ _ _ _ new)))
      simpa [Ne.symm apart] using standing
    · rw [found] at present
      cases present
      have empty : Undecided [] history loan := undecided.ledger ▸ undecided
      have moved := decided_tracked ctx fresh dto loan next history asserted empty
      rw [decided_id, undecided.ledger]
      simpa using moved
  split at ledger
  · obtain ⟨positive, rows⟩ := ledger
    exact
      { accounted := ordered.accounted.append rows positive (fun same => by cases same)
          (fun same => by cases same)
        positive := ordered.positive.append rows positive
        owned := by
          intro entry member
          rw [rows, List.mem_append, List.mem_singleton] at member
          rcases member with old | rfl
          · exact kept _ (ordered.owned entry old)
          · exact kept loan.id (by simp [found])
        recorded := recorded
        tracked := tracked }
  · exact
      { accounted := ordered.accounted.congr ledger
        positive := fun entry member => ordered.positive entry (ledger ▸ member)
        owned := fun entry member => kept _ (ordered.owned entry (ledger ▸ member))
        recorded := recorded
        tracked := tracked }

theorem Restate.standing {kind : LedgerKind} {left : Int} {source : List LoanStatus}
    {target : LoanStatus} (restate : Restate kind left source target) (status : LoanStatus)
    (before amount : Int) (positive : 0 < amount)
    (moved : left = before + balanceEffect kind * amount)
    (fits : kind ≠ .paymentCorrected → amount ≤ before) (nonneg : 0 ≤ before)
    (standing : active status = true ∨ closed status = true)
    (settled : closed status = true ↔ before = 0) :
    (active (if status ∈ source then target else status) = true ∨
      closed (if status ∈ source then target else status) = true) ∧
      (closed (if status ∈ source then target else status) = true ↔ left = 0) := by
  cases restate with
  | reported =>
      have bound := fits (by decide)
      simp only [balanceEffect] at moved
      have notClosed : closed status = false := by
        by_contra reopened
        have zero := settled.mp (by simpa using reopened)
        omega
      have owing : left ≠ 0 := by omega
      cases status <;> simp [active, closed, owing] at standing notClosed ⊢
  | partly _ _ debit left_pos =>
      have bound := fits (by rintro rfl; cases debit)
      have notClosed : closed status = false := by
        by_contra reopened
        have zero := settled.mp (by simpa using reopened)
        omega
      have owing : left ≠ 0 := by omega
      cases status <;> simp [active, closed, owing] at standing notClosed ⊢
  | cleared _ _ _ debit none ends =>
      have bound := fits (by rintro rfl; cases debit)
      have effect : balanceEffect kind = -1 := by
        cases kind <;> simp [LedgerKind.debit] at debit <;> rfl
      have zero : left = 0 := by
        rw [effect] at moved
        omega
      have notClosed : closed status = false := by
        by_contra reopened
        have zero := settled.mp (by simpa using reopened)
        omega
      have inside : status ∈ [LoanStatus.accepted, .partiallyPaid,
          .paymentAwaitingConfirmation] := by
        cases status <;> simp [active, closed] at standing notClosed ⊢
      rw [if_pos inside]
      exact ⟨.inr ends, by simp [ends, zero]⟩
  | corrected =>
      have owing : left ≠ 0 := by
        simp only [balanceEffect] at moved
        omega
      cases status <;> simp [active, closed, owing] at standing ⊢

theorem book_ordered (db db₁ : Db) (history : List Event) (loan : Loan)
    (entry : LoanLedgerEntry) (source : List LoanStatus) (target : LoanStatus)
    (stamp : Option Time → Option Time)
    (found : db.loans.find? loan.id = some loan) (agreed : loan.principal ≠ none)
    (inserted : insertEntry db entry = .ok db₁) (own : entry.loanId = loan.id)
    (kind : entry.kind ≠ .principalAccepted)
    (fits : entry.kind ≠ .paymentCorrected → entry.amount ≤ owed db loan.id)
    (unanswered : entry.kind.answering = true → ∃ id, entry.refersToId = some id ∧
      findAnswer db id entry.kind = none)
    (restate : Restate entry.kind (owed db₁ loan.id) source target)
    (ordered : Ordered db history) :
    Ordered (moveStatus db₁ loan.id source target stamp) history := by
  obtain ⟨positive, -, -, rows, loans⟩ := insertEntry_ok db db₁ entry inserted
  have accounted : Accounted db₁ := by
    refine ordered.accounted.append rows positive ?_ ?_
    · intro debit
      rw [own]
      exact fits (by rintro corrected; rw [corrected] at debit; cases debit)
    · intro answering other member sameKind sameRefers
      obtain ⟨id, refers, none⟩ := unanswered answering
      exact (findAnswer_none db id entry.kind).mp none other member
        (sameRefers.trans refers) sameKind
  have kept : ∀ id, db.loans.find? id ≠ none →
      (moveStatus db₁ loan.id source target stamp).loans.find? id ≠ none := by
    intro id present
    rw [moveStatus, Table.find?_modify, loans]
    simpa using present
  refine
    { accounted := accounted.congr rfl
      positive := ordered.positive.append rows positive
      owned := ?_
      recorded := fun event member => kept _ (ordered.recorded event member)
      tracked := ?_ }
  · intro other member
    change other ∈ db₁.loanLedger.rows at member
    rw [rows, List.mem_append, List.mem_singleton] at member
    rcases member with old | rfl
    · exact kept _ (ordered.owned other old)
    · rw [own]
      exact kept _ (by simp [found])
  · intro other member
    simp only [moveStatus, Table.mem_modify, loans] at member
    obtain ⟨old, present, rfl⟩ := member
    have before := ordered.tracked old present
    change Tracked (ledgerRows db₁ _) history _
    by_cases same : old.id = loan.id
    · have equal : old = loan :=
        db.loans.key_injective old loan present (db.loans.mem_of_find? _ _ found) same
      subst equal
      obtain ⟨sum, owing⟩ := before.owing agreed
      have balance := owed_append db db₁ entry rows old.id
      rw [if_pos own] at balance
      have moved := restate.standing old.status (owed db old.id) entry.amount positive balance
        fits (ordered.accounted.owed_nonneg old.id) owing.status owing.settled
      have booked : principals (ledgerRows db₁ old.id) = [sum] := by
        rw [ledgerRows_append db db₁ entry rows, if_pos own, ← owing.booked]
        simp [principals, toRow, kind]
      right
      refine ⟨sum, ?_⟩
      by_cases inside : old.status ∈ source
      · simp only [inside, if_true] at moved
        simp only [inside, and_true, decide_true, if_true]
        exact ⟨owing.principal, booked, moved.1, moved.2, owing.accepted⟩
      · simp only [inside, if_false] at moved
        simp only [inside, and_false, decide_false, Bool.false_eq_true, if_false]
        exact ⟨owing.principal, booked, moved.1, moved.2, owing.accepted⟩
    · have apart : entry.loanId ≠ old.id := by
        rw [own]
        exact Ne.symm same
      simp only [same, false_and, decide_false, Bool.false_eq_true, if_false]
      rw [ledgerRows_append db db₁ entry rows, if_neg apart, List.append_nil]
      exact before

theorem change_ordered (history events : List Event)
    (change : Change db db' events) (ordered : Ordered db history) :
    Ordered db' (history ++ events) := by
  cases change with
  | none => simpa using ordered
  | propose loan _ status principal counter positive inserted =>
      exact propose_ordered db db' history loan status principal counter positive inserted ordered
  | decide ctx fresh dto loan next _ found asserted committed =>
      exact decide_ordered ctx fresh dto loan next db db' history found asserted committed ordered
  | book loan entry db₁ source target stamp found agreed inserted own kind fits unanswered
      restate =>
      rw [List.append_nil]
      exact book_ordered db db₁ history loan entry source target stamp found agreed inserted own
        kind fits unanswered restate ordered

theorem change_principal (history events : List Event)
    (change : Change db db' events) (ordered : Ordered db history) (loan : Loan) (sum : Int)
    (found : db.loans.find? loan.id = some loan) (agreed : loan.principal = some sum) :
    ∃ loan', db'.loans.find? loan.id = some loan' ∧ loan'.principal = some sum := by
  cases change with
  | none => exact ⟨loan, found, agreed⟩
  | propose other _ _ _ _ _ inserted =>
      obtain ⟨-, stored⟩ := insertLoan_ok db db' other inserted
      have fresh := (db.loans.insert?_some db'.loans other stored).2 loan
        (db.loans.mem_of_find? _ _ found)
      rw [db.loans.find?_insert db'.loans other stored, if_neg fresh]
      exact ⟨loan, found, agreed⟩
  | decide ctx fresh dto other next _ present asserted committed =>
      obtain ⟨loans, -⟩ := commitDecision_ok ctx fresh dto other next db db' committed
      obtain ⟨source, -, -, -⟩ := assertDecision_ok _ next asserted
      have apart : loan.id ≠ other.id := by
        intro same
        rw [same, present] at found
        have equal : other = loan := Option.some.inj found
        subst equal
        have undecided := (ordered.tracked other (db.loans.mem_of_find? _ _ present)).undecided
          (transitions_source_pending dto.action other.status source)
        rw [undecided.principal] at agreed
        cases agreed
      rw [loans, db.loans.find?_update, if_neg apart]
      exact ⟨loan, found, agreed⟩
  | book other entry db₁ source target stamp _ _ inserted _ _ _ _ _ =>
      obtain ⟨-, -, -, -, loans⟩ := insertEntry_ok db db₁ entry inserted
      rw [moveStatus, Table.find?_modify, loans, found]
      refine ⟨_, rfl, ?_⟩
      dsimp only
      split
      · exact agreed
      · exact agreed

theorem ordered_start (db : Db) (noLoans : db.loans.rows = [])
    (noLedger : db.loanLedger.rows = []) : Ordered db [] where
  accounted := accounted_of_empty db noLedger
  positive := by simp [PositiveAmounts, noLedger]
  owned := by simp [noLedger]
  recorded := by simp
  tracked := by simp [noLoans]

theorem play_ordered (db : Db) (noLoans : db.loans.rows = [])
    (noLedger : db.loanLedger.rows = []) (calls : List Call) :
    Ordered (play db calls).1 (play db calls).2 := by
  have run : ∀ (calls : List Call) (state : Db × List Event), Ordered state.1 state.2 →
      Ordered (calls.foldl Call.apply state).1 (calls.foldl Call.apply state).2 := by
    intro calls
    induction calls with
    | nil =>
        intro state ordered
        exact ordered
    | cons call rest ih =>
        intro state ordered
        exact ih (call.apply state)
          (change_ordered state.1 _ state.2 _ (call_change call state.1) ordered)
  exact run calls (db, []) (ordered_start db noLoans noLedger)

structure Stands (db : Db) (history : List Event) (loan : Loan) : Prop where
  nonneg : 0 ≤ owed db loan.id
  settled : loan.principal ≠ none →
    (loan.status = .settled ∨ loan.status = .forgivenSettled ↔ owed db loan.id = 0)
  booked : principals (ledgerRows db loan.id) = loan.principal.toList
  accepted : ∀ sum, loan.principal = some sum → AcceptedAs history loan sum
  unaccepted : loan.principal = none → acceptors history loan.id = []
  fixed : ∀ sum, loan.principal = some sum → ∀ call : Call, ∃ loan',
    (call.exec db).1.loans.find? loan.id = some loan' ∧ loan'.principal = some sum

private theorem closed_iff (status : LoanStatus) :
    closed status = true ↔ status = .settled ∨ status = .forgivenSettled := by
  cases status <;> simp [closed]

/-- In every state a sequence of requests reaches, the ledger, the stored status
and the history of offers of every loan agree. -/
theorem play_stands (db : Db) (noLoans : db.loans.rows = [])
    (noLedger : db.loanLedger.rows = []) (calls : List Call) :
    AnsweredOnce (play db calls).1 .paymentConfirmed ∧
      AnsweredOnce (play db calls).1 .paymentCorrected ∧
      ∀ loan ∈ (play db calls).1.loans.rows,
        Stands (play db calls).1 (play db calls).2 loan := by
  have ordered := play_ordered db noLoans noLedger calls
  refine ⟨ordered.accounted.confirmed_once, ordered.accounted.corrected_once, ?_⟩
  intro loan member
  have found := ((play db calls).1.loans.find?_some loan.id loan).mpr ⟨member, rfl⟩
  have fixed : ∀ sum, loan.principal = some sum → ∀ call : Call, ∃ loan',
      (call.exec (play db calls).1).1.loans.find? loan.id = some loan' ∧
        loan'.principal = some sum := fun sum agreed call =>
    change_principal _ _ _ _ (call_change call (play db calls).1) ordered loan sum found agreed
  have nonneg := ordered.accounted.owed_nonneg loan.id
  rcases ordered.tracked loan member with undecided | ⟨sum, owing⟩
  · have none := undecided.principal
    refine ⟨nonneg, fun agreed => absurd none agreed, ?_, ?_, fun _ => undecided.unaccepted, fixed⟩
    · rw [undecided.ledger, none]
      rfl
    · intro sum agreed
      rw [none] at agreed
      cases agreed
  · refine ⟨nonneg, fun _ => ?_, ?_, ?_, ?_, fixed⟩
    · rw [← closed_iff]
      exact owing.settled
    · rw [owing.booked, owing.principal]
      rfl
    · intro sum' agreed
      rw [owing.principal] at agreed
      cases agreed
      exact owing.accepted
    · intro none
      rw [owing.principal] at none
      cases none

/-- The lender asks for 500.00, the borrower counters with 400.00, the lender
accepts; the borrower reports 400.00 paid and the lender confirms it. -/
def counteredAndPaid : List Call :=
  [⟨lender, .propose 100
      { counterpartyId := 1
        direction := .theyOweUs
        amount := 50000
        note := none
        clientUuid := none }⟩,
    ⟨borrower, .decide 200 100
      { action := .counter
        amount := some 40000
        reason := none
        expectedVersion := none }⟩,
    ⟨lender, .decide 201 100
      { action := .accept
        amount := none
        reason := none
        expectedVersion := some 1 }⟩,
    ⟨borrower, .payment 202 100
      { action := .report
        amount := some 40000
        method := some .cash }⟩,
    ⟨lender, .payment 203 100
      { action := .confirm
        entryId := some 202 }⟩]

theorem play_stands_counteredAndPaid :
    (play emptyBook counteredAndPaid).1.loans.rows.map
        (fun loan => (loan.status, loan.principal)) = [(.settled, some 40000)] ∧
      ∀ loan ∈ (play emptyBook counteredAndPaid).1.loans.rows,
        Stands (play emptyBook counteredAndPaid).1 (play emptyBook counteredAndPaid).2 loan :=
  ⟨by decide, (play_stands emptyBook rfl rfl counteredAndPaid).2.2⟩

end ErpBackend.Loans
