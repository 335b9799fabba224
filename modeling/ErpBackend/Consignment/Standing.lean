import ErpBackend.Consignment.Effects

/-!
# Where every consignment stands

The status of a consignment fixes the state of its lines and of its ledger, in
every state the requests reach.
-/

namespace ErpBackend.Consignments

open Foundation

def balance (ledger : List ConsignmentLedgerEntry) : Int :=
  outstanding (ledger.map (fun entry => ⟨entry.kind, entry.amount⟩))

structure Negotiating (c : Consignment) (lines : List ConsignmentLine)
    (ledger : List ConsignmentLedgerEntry) : Prop where
  offer : 0 < offered c
  lines : ∀ line ∈ lines, line.status = .proposed
  ledger : ledger = []

structure Agreed (c : Consignment) (lines : List ConsignmentLine)
    (ledger : List ConsignmentLedgerEntry) (status : LineStatus) (amount : Int) : Prop where
  positive : 0 < amount
  agreed : c.agreedAmount = some amount
  lines : ∀ line ∈ lines, line.status = status ∧ line.agreedAmount = some amount
  ledger : ledger = []

/-- The phones are with a destination that has an account, sold or not. -/
structure Delivered (c : Consignment) (lines : List ConsignmentLine) : Prop where
  connected : c.destinationCompanyId ≠ none
  lines : ∀ line ∈ lines, line.status = .sold ∨ line.status = .inCustody

def Phase (c : Consignment) (lines : List ConsignmentLine)
    (ledger : List ConsignmentLedgerEntry) : Prop :=
  match c.status with
  | .draft => False
  | .requested | .counterProposed | .disputed => Negotiating c lines ledger
  | .acceptedAwaitingCustody | .custodyAwaitingConfirmation =>
      ∃ amount, Agreed c lines ledger .proposed amount
  | .inCustody | .returnInitiated | .returnInTransit =>
      c.destinationCompanyId ≠ none ∧ ∃ amount, Agreed c lines ledger .inCustody amount
  | .soldAwaitingSettlement | .partiallyPaid => Delivered c lines ∧ 0 < balance ledger
  | .settled | .forgivenSettled => Delivered c lines ∧ balance ledger = 0
  | .returnedAccepted => c.destinationCompanyId ≠ none ∧ (∀ line ∈ lines, line.status = .returned) ∧
      ledger = []
  | .cancelled => (∀ line ∈ lines, line.status = .cancelled) ∧ ledger = []

structure Standing (c : Consignment) (lines : List ConsignmentLine)
    (ledger : List ConsignmentLedgerEntry) : Prop where
  nonempty : lines ≠ []
  apart : c.destinationCompanyId ≠ some c.sourceCompanyId
  phase : Phase c lines ledger

structure Kept (db : Db) : Prop where
  absent : ∀ id, db.consignments.find? id = none → linesOf db id = [] ∧ ledgerOf db id = []
  standing : ∀ id c, db.consignments.find? id = some c →
    Standing c (linesOf db id) (ledgerOf db id)

theorem kept_of_empty (db : Db) (noConsignments : db.consignments.rows = [])
    (noLines : db.consignmentLines.rows = []) (noLedger : db.consignmentLedger.rows = []) :
    Kept db := by
  constructor
  · intro id _
    simp [linesOf, ledgerOf, Table.filter, noLines, noLedger]
  · intro id c found
    have member := db.consignments.mem_of_find? id c found
    rw [noConsignments] at member
    cases member

theorem Becomes.kept {db db' : Db} {id : Id} {c' : Consignment} {lines : List ConsignmentLine}
    {ledger : List ConsignmentLedgerEntry} (becomes : Becomes db db' id c' lines ledger)
    (kept : Kept db) (standing : Standing c' lines ledger) : Kept db' := by
  constructor
  · intro other missing
    by_cases same : other = id
    · rw [same, becomes.found] at missing
      cases missing
    · rw [becomes.elsewhere.consignments other same] at missing
      rw [becomes.elsewhere.lines other same, becomes.elsewhere.ledger other same]
      exact kept.absent other missing
  · intro other c found
    by_cases same : other = id
    · rw [same] at found ⊢
      rw [becomes.found] at found
      cases found
      rw [becomes.lines, becomes.ledger]
      exact standing
    · rw [becomes.elsewhere.consignments other same] at found
      rw [becomes.elsewhere.lines other same, becomes.elsewhere.ledger other same]
      exact kept.standing other c found

theorem balance_append (ledger : List ConsignmentLedgerEntry) (entry : ConsignmentLedgerEntry) :
    balance (ledger ++ [entry]) = balance ledger + balanceEffect entry.kind * entry.amount := by
  simp [balance, outstanding, LedgerRow.effect]

theorem owed_eq_balance (db : Db) (id : Id) : owed db id = balance (ledgerOf db id) := rfl

def negotiable (status : ConsignmentStatus) : Bool :=
  status ∈ [.requested, .counterProposed, .disputed]

variable {c : Consignment}

theorem Phase.negotiating {lines : List ConsignmentLine}
    {ledger : List ConsignmentLedgerEntry} (phase : Phase c lines ledger)
    (status : negotiable c.status = true) : Negotiating c lines ledger := by
  unfold Phase at phase
  cases known : c.status <;> simp [known, negotiable] at status phase <;> exact phase

theorem Phase.uncollected {lines : List ConsignmentLine}
    {ledger : List ConsignmentLedgerEntry} (phase : Phase c lines ledger)
    (status : negotiable c.status = true ∨ c.status = .acceptedAwaitingCustody ∨
      c.status = .custodyAwaitingConfirmation) :
    (∀ line ∈ lines, line.status = .proposed) ∧ ledger = [] := by
  rcases status with open' | agreed
  · exact ⟨(phase.negotiating open').lines, (phase.negotiating open').ledger⟩
  · have amount : ∃ amount, Agreed c lines ledger .proposed amount := by
      unfold Phase at phase
      rcases agreed with known | known <;> simpa only [known] using phase
    obtain ⟨amount, agreed⟩ := amount
    exact ⟨fun line member => (agreed.lines line member).1, agreed.ledger⟩

theorem lineDecided_unchanged (dto : DecideConsignmentDto) (offer : Int)
    (next : ConsignmentStatus) (notCancelled : next ≠ .cancelled)
    (notAccepted : dto.action ≠ .accept) : lineDecided dto offer next = id := by
  funext line
  simp [lineDecided, notCancelled, notAccepted]

theorem lineDecided_cancelled (dto : DecideConsignmentDto) (offer : Int) (line : ConsignmentLine)
    (proposed : line.status = .proposed) :
    (lineDecided dto offer .cancelled line).status = .cancelled := by
  simp [lineDecided, ConsignmentLine.open, proposed]

variable (ctx : Ctx)

theorem decide_phase (dto : DecideConsignmentDto) (c : Consignment) (side : Side)
    (next : ConsignmentStatus) (lines : List ConsignmentLine)
    (ledger : List ConsignmentLedgerEntry) (phase : Phase c lines ledger)
    (counter : dto.action = .counter → dto.amount ≠ none)
    (moved : assertTransition dto.action.action c.status side (lastProposalBy c) = .ok next)
    (offer : dto.action = .accept → 0 < offered c) :
    Phase (decided ctx dto c next c) (lines.map (lineDecided dto (offered c) next)) ledger := by
  obtain ⟨source, -, -, target⟩ := (assertTransition_ok _ _ _ _ _).mp moved
  cases action : dto.action with
  | accept =>
      rw [action] at source target
      have negotiating := phase.negotiating
        (by simpa [negotiable, transitions, Decision.action] using source)
      subst target
      refine ⟨offered c, offer action, by simp [decided, action], ?_, negotiating.ledger⟩
      intro line member
      obtain ⟨before, present, rfl⟩ := List.mem_map.mp member
      simp [lineDecided, action, negotiating.lines before present, Decision.action, transitions]
  | counter =>
      rw [action] at source target
      have negotiating := phase.negotiating
        (by simpa [negotiable, transitions, Decision.action] using source)
      obtain ⟨amount, given⟩ := Option.ne_none_iff_exists'.mp (counter action)
      rw [lineDecided_unchanged dto _ next (by simp [target, Decision.action, transitions])
        (by simp [action]), List.map_id]
      subst target
      refine ⟨?_, negotiating.lines, negotiating.ledger⟩
      simp [offered, decided, action, given, amount.positive]
  | dispute =>
      rw [action] at source target
      have negotiating := phase.negotiating (by
        simp only [Decision.action, transitions, List.mem_cons, List.not_mem_nil] at source
        simp only [negotiable, List.mem_cons, List.not_mem_nil, decide_eq_true_eq]
        tauto)
      rw [lineDecided_unchanged dto _ next (by simp [target, Decision.action, transitions])
        (by simp [action]), List.map_id]
      subst target
      refine ⟨?_, negotiating.lines, negotiating.ledger⟩
      simpa [offered, decided, action] using negotiating.offer
  | reject =>
      rw [action] at source target
      obtain ⟨proposed, empty⟩ := phase.uncollected
        (.inl (by simpa [negotiable, transitions, Decision.action] using source))
      subst target
      refine ⟨?_, empty⟩
      intro line member
      obtain ⟨before, present, rfl⟩ := List.mem_map.mp member
      exact lineDecided_cancelled dto _ before (proposed before present)
  | cancel =>
      rw [action] at source target
      have notDraft : c.status ≠ .draft := by
        intro draft
        simp [Phase, draft] at phase
      obtain ⟨proposed, empty⟩ := phase.uncollected (by
        simp only [Decision.action, transitions, List.mem_cons, List.not_mem_nil] at source
        simp only [negotiable, List.mem_cons, List.not_mem_nil, decide_eq_true_eq]
        tauto)
      subst target
      refine ⟨?_, empty⟩
      intro line member
      obtain ⟨before, present, rfl⟩ := List.mem_map.mp member
      exact lineDecided_cancelled dto _ before (proposed before present)

theorem send_phase (c : Consignment) (side : Side) (next : ConsignmentStatus)
    (lines : List ConsignmentLine) (ledger : List ConsignmentLedgerEntry)
    (phase : Phase c lines ledger)
    (moved : assertTransition .sendCustody c.status side none = .ok next) :
    Phase (sent ctx next c) lines ledger := by
  obtain ⟨source, -, -, rfl⟩ := (assertTransition_ok _ _ _ _ _).mp moved
  have status : c.status = .acceptedAwaitingCustody := by simpa [transitions] using source
  unfold Phase at phase
  rw [status] at phase
  obtain ⟨amount, agreed⟩ := phase
  exact ⟨amount, agreed.positive, agreed.agreed, agreed.lines, agreed.ledger⟩

theorem destination_connected (c : Consignment) (me : Id)
    (side : sideOf c me = some .destination) : c.destinationCompanyId = some me := by
  unfold sideOf at side
  split at side
  · cases side
  · split at side
    · assumption
    · cases side

theorem receipt_phase (c : Consignment) (side : Side) (next : ConsignmentStatus)
    (lines : List ConsignmentLine) (ledger : List ConsignmentLedgerEntry)
    (phase : Phase c lines ledger) (acts : sideOf c ctx.companyId = some side)
    (moved : assertTransition .confirmCustody c.status side none = .ok next) :
    Phase (received ctx next c) (lines.map (fun line =>
      if line.status = .proposed then { line with status := .inCustody } else line)) ledger := by
  obtain ⟨source, right, -, rfl⟩ := (assertTransition_ok _ _ _ _ _).mp moved
  have status : c.status = .custodyAwaitingConfirmation := by simpa [transitions] using source
  have destination : side = .destination := by simpa [transitions, eq_comm] using right
  subst destination
  have connected := destination_connected c ctx.companyId acts
  unfold Phase at phase
  rw [status] at phase
  obtain ⟨amount, agreed⟩ := phase
  refine ⟨by simp [received, connected], amount, agreed.positive, agreed.agreed, ?_, agreed.ledger⟩
  intro line member
  obtain ⟨before, present, rfl⟩ := List.mem_map.mp member
  obtain ⟨proposed, carries⟩ := agreed.lines before present
  simp [proposed, carries]

theorem raised_eq (lines : List ConsignmentLine) (amount : Int)
    (carry : ∀ line ∈ lines, line.agreedAmount = some amount) :
    raised lines = lines.length * amount := by
  induction lines with
  | nil => simp [raised]
  | cons line rest ih =>
      have here := carry line (by simp)
      have later := ih (fun other member => carry other (by simp [member]))
      have unfolded : raised (line :: rest) = line.agreedAmount.getD 0 + raised rest := by
        simp [raised]
      rw [unfolded, here, later, Option.getD_some, List.length_cons]
      push_cast
      rw [Int.add_mul, Int.one_mul, Int.add_comm]

theorem mem_selectLines (dto : ReportSoldDto) (lines : List ConsignmentLine)
    (line : ConsignmentLine) (selected : line ∈ selectLines dto lines) : line ∈ lines := by
  unfold selectLines at selected
  split at selected
  · exact selected
  · split at selected
    · exact selected
    · exact (List.mem_filter.mp selected).1

theorem Phase.held {lines : List ConsignmentLine}
    {ledger : List ConsignmentLedgerEntry} (phase : Phase c lines ledger)
    (status : c.status = .inCustody) :
    c.destinationCompanyId ≠ none ∧ ∃ amount, Agreed c lines ledger .inCustody amount := by
  unfold Phase at phase
  rw [status] at phase
  exact phase

theorem sold_phase (fresh : Id) (c : Consignment) (side : Side)
    (next : ConsignmentStatus) (lines sold : List ConsignmentLine)
    (ledger : List ConsignmentLedgerEntry) (phase : Phase c lines ledger)
    (moved : assertTransition .reportSold c.status side none = .ok next)
    (own : ∀ line ∈ sold, line ∈ lines) (nonempty : sold ≠ []) :
    Phase (advanced next c) (lines.map (lineSold ctx.now sold))
      (ledger ++ [entryFor ctx fresh c .receivableRaised (raised sold)]) := by
  obtain ⟨source, -, -, rfl⟩ := (assertTransition_ok _ _ _ _ _).mp moved
  have status : c.status = .inCustody := by simpa [transitions] using source
  obtain ⟨connected, amount, agreed⟩ := phase.held status
  refine ⟨⟨connected, ?_⟩, ?_⟩
  · intro line member
    obtain ⟨before, present, rfl⟩ := List.mem_map.mp member
    unfold lineSold
    split
    · exact .inl rfl
    · exact .inr (agreed.lines before present).1
  · have total := raised_eq sold amount (fun line member => (agreed.lines line (own line member)).2)
    have count : 0 < (sold.length : Int) := by
      have := List.length_pos_iff.mpr nonempty
      omega
    have some := Int.mul_pos count agreed.positive
    rw [balance_append, agreed.ledger]
    simp [entryFor, balanceEffect, total, balance, outstanding]
    exact some

def restated (source : List ConsignmentStatus) (status : ConsignmentStatus)
    (settledAt : Option Time → Option Time) (c : Consignment) : Consignment :=
  if c.status ∈ source then { c with status, settledAt := settledAt c.settledAt } else c

theorem moveStatus_becomes (db : Db) (c : Consignment) (source : List ConsignmentStatus)
    (status : ConsignmentStatus) (settledAt : Option Time → Option Time)
    (found : db.consignments.find? c.id = some c) :
    Becomes db (moveStatus db c.id source status settledAt) c.id
      (restated source status settledAt c) (linesOf db c.id) (ledgerOf db c.id) := by
  have row : ∀ id, (moveStatus db c.id source status settledAt).consignments.find? id =
      (db.consignments.find? id).map (fun other =>
        if Decidable.decide (other.id = c.id ∧ other.status ∈ source) = true then
          { other with status, settledAt := settledAt other.settledAt } else other) :=
    fun id => db.consignments.find?_modify _
      (fun other => { other with status, settledAt := settledAt other.settledAt })
      (fun _ => rfl) id
  refine ⟨⟨fun other differs => ?_, fun _ _ => rfl, fun _ _ => rfl⟩, ?_, rfl, rfl⟩
  · rw [row]
    cases present : db.consignments.find? other with
    | none => rfl
    | some row =>
        have key := db.consignments.key_of_find? other row present
        simp [key, differs]
  · rw [row, found]
    by_cases member : c.status ∈ source
    · simp [restated, member]
    · simp [restated, member]

theorem settled_becomes (now : Time) (db : Db) (c : Consignment) (status : ConsignmentStatus)
    (found : db.consignments.find? c.id = some c) :
    Becomes db (settled now db c.id status) c.id
      (if 0 < owed db c.id then restated [.soldAwaitingSettlement] .partiallyPaid id c
        else restated [.soldAwaitingSettlement, .partiallyPaid] status (fun _ => some now) c)
      (linesOf db c.id) (ledgerOf db c.id) := by
  unfold settled
  split
  · exact moveStatus_becomes db c _ _ _ found
  · exact moveStatus_becomes db c _ _ _ found

theorem Phase.owing {lines : List ConsignmentLine}
    {ledger : List ConsignmentLedgerEntry} (phase : Phase c lines ledger)
    (owes : 0 < balance ledger) :
    (c.status = .soldAwaitingSettlement ∨ c.status = .partiallyPaid) ∧ Delivered c lines := by
  have nothing : ledger = [] → False := by
    intro empty
    rw [empty] at owes
    exact absurd owes (by decide)
  unfold Phase at phase
  cases known : c.status <;> rw [known] at phase
  case draft => cases phase
  case requested | counterProposed | disputed => exact (nothing phase.ledger).elim
  case acceptedAwaitingCustody | custodyAwaitingConfirmation =>
    obtain ⟨_, agreed⟩ := phase
    exact (nothing agreed.ledger).elim
  case inCustody | returnInitiated | returnInTransit =>
    obtain ⟨-, _, agreed⟩ := phase
    exact (nothing agreed.ledger).elim
  case soldAwaitingSettlement => exact ⟨.inl rfl, phase.1⟩
  case partiallyPaid => exact ⟨.inr rfl, phase.1⟩
  case settled | forgivenSettled =>
    obtain ⟨-, cleared⟩ := phase
    omega
  case returnedAccepted => exact (nothing phase.2.2).elim
  case cancelled => exact (nothing phase.2).elim

theorem report_phase (c : Consignment) (lines : List ConsignmentLine)
    (ledger : List ConsignmentLedgerEntry) (entry : ConsignmentLedgerEntry)
    (phase : Phase c lines ledger) (kind : entry.kind = .paymentReported)
    (positive : 0 < entry.amount) (fits : entry.amount ≤ balance ledger) :
    Phase c lines (ledger ++ [entry]) := by
  have same : balance (ledger ++ [entry]) = balance ledger := by
    rw [balance_append, kind]
    simp [balanceEffect]
  obtain ⟨status, delivered⟩ := phase.owing (by omega)
  have owes : 0 < balance (ledger ++ [entry]) := by omega
  unfold Phase
  rcases status with known | known <;> rw [known] <;> exact ⟨delivered, owes⟩

theorem taken_phase (now : Time) (c : Consignment) (lines : List ConsignmentLine)
    (ledger : List ConsignmentLedgerEntry) (entry : ConsignmentLedgerEntry)
    (status : ConsignmentStatus) (phase : Phase c lines ledger)
    (takes : balanceEffect entry.kind = -1) (positive : 0 < entry.amount)
    (fits : entry.amount ≤ balance ledger)
    (closing : status = .settled ∨ status = .forgivenSettled) :
    Phase (if 0 < balance (ledger ++ [entry]) then
        restated [.soldAwaitingSettlement] .partiallyPaid id c
      else restated [.soldAwaitingSettlement, .partiallyPaid] status (fun _ => some now) c)
      lines (ledger ++ [entry]) := by
  obtain ⟨standing, delivered⟩ := phase.owing (by omega)
  have left : balance (ledger ++ [entry]) = balance ledger - entry.amount := by
    rw [balance_append, takes]
    omega
  split
  · next owes =>
    rcases standing with known | known <;>
      simp only [restated, known, List.mem_singleton, reduceCtorEq, if_true, if_false, Phase] <;>
      exact ⟨⟨delivered.connected, delivered.lines⟩, owes⟩
  · next clear =>
    have zero : balance (ledger ++ [entry]) = 0 := by omega
    have member : c.status ∈ [ConsignmentStatus.soldAwaitingSettlement, .partiallyPaid] := by
      simpa using standing
    rw [restated, if_pos member]
    rcases closing with rfl | rfl <;> exact ⟨⟨delivered.connected, delivered.lines⟩, zero⟩

theorem return_phase (dto : ReturnDto) (c : Consignment) (side : Side)
    (next : ConsignmentStatus) (lines : List ConsignmentLine)
    (ledger : List ConsignmentLedgerEntry) (phase : Phase c lines ledger)
    (moved : assertTransition dto.action.action c.status side none = .ok next)
    (condition : dto.action = .confirm → dto.condition ≠ none) :
    Phase (advanced next c) (lines.map (lineReturned ctx.now dto)) ledger := by
  obtain ⟨source, -, -, target⟩ := (assertTransition_ok _ _ _ _ _).mp moved
  have held : c.destinationCompanyId ≠ none ∧
    ∃ amount, Agreed c lines ledger .inCustody amount := by
    unfold Phase at phase
    cases action : dto.action <;>
      simp only [action, ReturnAction.action, transitions, List.mem_cons, List.not_mem_nil,
        or_false] at source
    case initiate | ship => simpa only [source] using phase
    case confirm => rcases source with known | known <;> simpa only [known] using phase
  obtain ⟨connected, amount, agreed⟩ := held
  cases action : dto.action with
  | initiate =>
      have same : lineReturned ctx.now dto = id := by
        funext line
        simp [lineReturned, action]
      rw [same, List.map_id, target, action]
      exact ⟨connected, amount, agreed.positive, agreed.agreed, agreed.lines, agreed.ledger⟩
  | ship =>
      have same : lineReturned ctx.now dto = id := by
        funext line
        simp [lineReturned, action]
      rw [same, List.map_id, target, action]
      exact ⟨connected, amount, agreed.positive, agreed.agreed, agreed.lines, agreed.ledger⟩
  | confirm =>
      obtain ⟨found, given⟩ := Option.ne_none_iff_exists'.mp (condition action)
      rw [target, action]
      refine ⟨connected, ?_, agreed.ledger⟩
      intro line member
      obtain ⟨before, present, rfl⟩ := List.mem_map.mp member
      simp [lineReturned, action, given, (agreed.lines before present).1]

variable (db db' : Db)

theorem insertConsignment_ok (c : Consignment)
    (done : insertConsignment db c = .ok db') :
    c.destinationCompanyId ≠ some c.sourceCompanyId ∧
      ∃ consignments, db.consignments.insert? c = some consignments ∧
        db' = { db with consignments } := by
  unfold insertConsignment at done
  split_ifs at done with apart _
  exact ⟨apart, Table.store_ok _ _ _ _ _ done⟩

theorem insertLine_ok (line : ConsignmentLine)
    (done : insertLine db line = .ok db') :
    (line.open = true → ∀ other ∈ db.consignmentLines.rows,
        other.open = true → other.unitId ≠ line.unitId) ∧
      ∃ lines, db' = { db with consignmentLines := lines } ∧
        lines.rows = db.consignmentLines.rows ++ [line] := by
  unfold insertLine at done
  split_ifs at done with free _
  split at done
  · cases done
  · next lines inserted =>
    cases done
    obtain ⟨rows, -⟩ := db.consignmentLines.insert?_some lines line inserted
    refine ⟨fun isOpen other present otherOpen same => free ⟨isOpen, ?_⟩, lines, rfl, rows⟩
    refine (Table.any_eq_true _ _).mpr ⟨other, present, ?_⟩
    simp [otherOpen, same]

theorem claimUnit_ok (me branchId consignmentId lineId unitId : Id) (db db' : Db)
    (done : claimUnit me branchId consignmentId lineId unitId db = .ok db') :
    ∃ unit, db.units.find? unitId = some unit ∧ unit.status = .inStock ∧
      (∀ other ∈ db.consignmentLines.rows, other.open = true → other.unitId ≠ unitId) ∧
      ∃ lines, lines.rows = db.consignmentLines.rows ++ [lineFor me consignmentId lineId unit] ∧
        db' = { db with
          units := db.units.update unitId (fun unit => { unit with status := .consignedOut })
            (fun _ => rfl)
          consignmentLines := lines } := by
  unfold claimUnit at done
  split at done
  · cases done
  · next unit found =>
    obtain ⟨stored, -⟩ := Option.filter_eq_some_iff.mp found
    have key := db.units.key_of_find? unitId unit stored
    split at done
    · cases done
    · next units swapped =>
      obtain ⟨free, lines, rfl, rows⟩ := insertLine_ok _ db' _ done
      obtain ⟨before, present, inStock, rfl⟩ := (db.units.swap?_some _ _ _ _ _).mp swapped
      rw [stored] at present
      cases present
      refine ⟨unit, stored, by simpa using inStock, ?_, lines, rows, rfl⟩
      intro other member isOpen
      have differs := free rfl other member isOpen
      rw [← key]
      exact differs

theorem claimUnits_lines (me branchId consignmentId : Id) (lineIds : Nat → Id) (index : Nat)
    (unitIds : List Id) (db db' : Db)
    (done : claimUnits me branchId consignmentId lineIds index unitIds db = .ok db') :
    db'.consignments = db.consignments ∧ db'.consignmentLedger = db.consignmentLedger ∧
      ∃ new : List ConsignmentLine, new.length = unitIds.length ∧
        (∀ line ∈ new, line.consignmentId = consignmentId ∧ line.status = .proposed) ∧
        db'.consignmentLines.rows = db.consignmentLines.rows ++ new := by
  induction unitIds generalizing index db with
  | nil =>
      cases done
      exact ⟨rfl, rfl, [], rfl, by simp, by simp⟩
  | cons unitId rest ih =>
      unfold claimUnits at done
      split at done
      · cases done
      · next claimed first =>
        obtain ⟨unit, -, -, -, lines, rows, rfl⟩ := claimUnit_ok _ _ _ _ _ _ _ first
        obtain ⟨consignments, ledger, new, count, fresh, appended⟩ := ih (index + 1) _ done
        refine ⟨consignments, ledger,
          lineFor me consignmentId (lineIds index) unit :: new, by simp [count], ?_, ?_⟩
        · intro line member
          rcases List.mem_cons.mp member with rfl | later
          · exact ⟨rfl, rfl⟩
          · exact fresh line later
        · rw [appended]
          change lines.rows ++ new = _
          rw [rows]
          simp

theorem linesOf_append (new : List ConsignmentLine) (id : Id)
    (rows : db'.consignmentLines.rows = db.consignmentLines.rows ++ new) :
    linesOf db' id = linesOf db id ++ new.filter (fun line => line.consignmentId = id) := by
  unfold linesOf Table.filter
  rw [rows, List.filter_append]

theorem proposal_becomes (fresh branchId : Id) (lineIds : Nat → Id)
    (dto : CreateConsignmentDto) (counterparty : Counterparty) (db db' : Db) (kept : Kept db)
    (committed : commitProposal ctx fresh branchId lineIds dto counterparty db = .ok db') :
    db.consignments.find? fresh = none ∧ counterparty.connectedCompanyId ≠ some ctx.companyId ∧
      ∃ new : List ConsignmentLine, new.length = dto.unitIds.length ∧
        (∀ line ∈ new, line.status = .proposed) ∧
        Becomes db db' fresh (proposedConsignment ctx fresh branchId dto counterparty) new [] := by
  unfold commitProposal at committed
  split at committed
  · cases committed
  · next inserted first =>
    obtain ⟨apart, consignments, stored, rfl⟩ := insertConsignment_ok db inserted _ first
    obtain ⟨row, ledger, new, count, proposed, rows⟩ := claimUnits_lines _ _ _ _ _ _ _ _ committed
    have find := db.consignments.find?_insert consignments _ stored
    have missing : db.consignments.find? fresh = none := by
      rw [db.consignments.find?_none]
      exact (db.consignments.insert?_some consignments _ stored).2
    obtain ⟨noLines, noLedger⟩ := kept.absent fresh missing
    refine ⟨missing, apart, new, count, fun line member => (proposed line member).2,
      ⟨?_, ?_, ?_⟩, ?_, ?_, ?_⟩
    · intro other differs
      rw [row]
      exact (find other).trans (if_neg differs)
    · intro other differs
      rw [linesOf_append _ db' new other rows, List.filter_eq_nil_iff.mpr, List.append_nil]
      · rfl
      · intro line member
        simpa [(proposed line member).1] using Ne.symm differs
    · intro other _
      unfold ledgerOf
      rw [ledger]
    · rw [row]
      exact (find fresh).trans (if_pos rfl)
    · rw [linesOf_append _ db' new fresh rows, List.filter_eq_self.mpr]
      · exact (congrArg (· ++ new) noLines).trans (List.nil_append new)
      · intro line member
        simp [(proposed line member).1]
    · unfold ledgerOf
      rw [ledger]
      exact noLedger

def Operation.target : Operation → Id
  | .create fresh _ _ => fresh
  | .decide id _ | .custody id _ | .reportSold _ id _ | .payment _ id _ | .forgive _ id _
  | .returnFlow id _ => id

def Operation.proposes : Operation → Bool
  | .create _ _ _ => true
  | _ => false

/-- The two statuses stand in the transition table, for a side that may act. -/
def Follows (status status' : ConsignmentStatus) (side : Side) : Prop :=
  status' = status ∨ ∃ action, status ∈ (transitions action).source ∧
    ((transitions action).acts = none ∨ (transitions action).acts = some side) ∧
    status' = (transitions action).target

theorem follows_of_transition (action : Action) (status next : ConsignmentStatus) (side : Side)
    (last : Option Side) (moved : assertTransition action status side last = .ok next) :
    Follows status next side := by
  obtain ⟨source, acts, -, target⟩ := (assertTransition_ok _ _ _ _ _).mp moved
  exact .inr ⟨action, source, acts, target⟩

def reported (status : ConsignmentStatus) : Bool :=
  status ∈ [.soldAwaitingSettlement, .partiallyPaid, .settled, .forgivenSettled]

/-- One consignment moves along the table and stays in order. Its parties never
change, it does not go back to its first status, and no line moves once phones
are reported sold. -/
structure Moved (db db' : Db) (id : Id) (c c' : Consignment) (side : Side) : Prop where
  before : db.consignments.find? id = some c
  becomes : Becomes db db' id c' (linesOf db' id) (ledgerOf db' id)
  standing : Standing c' (linesOf db' id) (ledgerOf db' id)
  source : c'.sourceCompanyId = c.sourceCompanyId
  destination : c'.destinationCompanyId = c.destinationCompanyId
  status : c'.status = .requested → c' = c
  follows : Follows c.status c'.status side
  lines : reported c.status = true → linesOf db' id = linesOf db id

theorem Becomes.moved {db db' : Db} {id : Id} {c c' : Consignment} {side : Side}
    {lines : List ConsignmentLine} {ledger : List ConsignmentLedgerEntry}
    (becomes : Becomes db db' id c' lines ledger) (kept : Kept db)
    (before : db.consignments.find? id = some c)
    (source : c'.sourceCompanyId = c.sourceCompanyId)
    (destination : c'.destinationCompanyId = c.destinationCompanyId)
    (status : c'.status = .requested → c' = c) (follows : Follows c.status c'.status side)
    (some : linesOf db id ≠ [] → lines ≠ [])
    (same : reported c.status = true → lines = linesOf db id) (phase : Phase c' lines ledger) :
    Moved db db' id c c' side := by
  have standing := kept.standing id c before
  obtain ⟨elsewhere, found, rfl, rfl⟩ := becomes
  refine ⟨before, ⟨elsewhere, found, rfl, rfl⟩, ⟨some standing.nonempty, ?_, phase⟩, source,
    destination, status, follows, same⟩
  rw [source, destination]
  exact standing.apart

theorem taken_moved (db db₁ : Db) (id : Id) (c : Consignment) (side : Side)
    (entry : ConsignmentLedgerEntry) (action : Action) (kept : Kept db)
    (reads : Reads ctx db id c side) (inserted : insertEntry db entry = .ok db₁)
    (own : entry.consignmentId = c.id) (takes : balanceEffect entry.kind = -1)
    (fits : entry.amount ≤ owed db c.id)
    (closing : action = .settle ∨ action = .forgive ∧ side = .source) :
    ∃ c', Moved db (settled ctx.now db₁ c.id (transitions action).target) id c c' side := by
  have key := db.consignments.key_of_find? id c reads.found
  subst key
  have standing := kept.standing c.id c reads.found
  obtain ⟨positive, -⟩ := insertEntry_ok db db₁ entry inserted
  have owes : 0 < balance (ledgerOf db c.id) := by
    rw [← owed_eq_balance]
    omega
  have status := (standing.phase.owing owes).1
  have acts : (transitions action).acts = none ∨ (transitions action).acts = some side := by
    rcases closing with rfl | ⟨rfl, rfl⟩
    · exact .inl rfl
    · exact .inr rfl
  have source : (transitions action).source = [.soldAwaitingSettlement, .partiallyPaid] := by
    rcases closing with rfl | ⟨rfl, rfl⟩ <;> rfl
  have target : (transitions action).target = .settled ∨
      (transitions action).target = .forgivenSettled := by
    rcases closing with rfl | ⟨rfl, rfl⟩
    · exact .inl rfl
    · exact .inr rfl
  have first := entry_becomes db db₁ c entry reads.found own inserted
  have second := settled_becomes ctx.now db₁ c (transitions action).target first.found
  rw [owed_eq_balance, first.ledger, first.lines] at second
  refine ⟨_, (first.trans second).moved kept reads.found ?_ ?_ ?_ ?_ id (fun _ => rfl)
    (taken_phase ctx.now c _ _ entry _ standing.phase takes positive fits target)⟩
  · unfold restated
    split <;> split <;> rfl
  · unfold restated
    split <;> split <;> rfl
  · unfold restated
    rcases target with known | known <;> rw [known] <;> split <;> split <;> simp
  · split
    · unfold restated
      split
      · exact .inr ⟨.recordPayment, by simpa [transitions] using status, .inl rfl, rfl⟩
      · exact .inl rfl
    · unfold restated
      split
      · exact .inr ⟨action, by simpa [source] using status, acts, rfl⟩
      · exact .inl rfl

section Commits

variable {db db' : Db} {c : Consignment} {side : Side} {next : ConsignmentStatus} (kept : Kept db)

include kept

theorem decision_moved (dto : DecideConsignmentDto) (reads : Reads ctx db c.id c side)
    (counter : dto.action = .counter → dto.amount ≠ none)
    (moved : assertTransition dto.action.action c.status side (lastProposalBy c) = .ok next)
    (offer : dto.action = .accept → 0 < offered c)
    (committed : commitDecision ctx dto c next db = .ok db') :
    ∃ c', Moved db db' c.id c c' side := by
  obtain ⟨source, -, -, target⟩ := (assertTransition_ok _ _ _ _ _).mp moved
  refine ⟨_, (decide_becomes ctx dto c next db db' reads.found committed).moved kept reads.found
    rfl rfl ?_ (follows_of_transition _ _ _ _ _ moved) (by simp) ?_
    (decide_phase ctx dto c side next _ _ (kept.standing c.id c reads.found).phase
      counter moved offer)⟩
  · intro requested
    rw [target] at requested
    cases action : dto.action <;>
      simp [decided, action, Decision.action, transitions] at requested
  · intro late
    cases action : dto.action <;> cases status : c.status <;>
      simp [action, status, Decision.action, transitions, reported] at source late

theorem send_moved (reads : Reads ctx db c.id c side)
    (moved : assertTransition .sendCustody c.status side none = .ok next)
    (committed : commitSend ctx c next db = .ok db') : ∃ c', Moved db db' c.id c c' side := by
  have phase := send_phase ctx c side next _ _ (kept.standing c.id c reads.found).phase moved
  have follows := follows_of_transition _ _ _ _ _ moved
  obtain ⟨-, -, -, rfl⟩ := (assertTransition_ok _ _ _ _ _).mp moved
  exact ⟨_, (send_becomes ctx c _ db db' reads.found committed).moved kept reads.found
    rfl rfl (fun same => by cases same) follows id (fun _ => rfl) phase⟩

theorem receipt_moved (reads : Reads ctx db c.id c side)
    (moved : assertTransition .confirmCustody c.status side none = .ok next)
    (committed : commitReceipt ctx c next db = .ok db') : ∃ c', Moved db db' c.id c c' side := by
  have phase := receipt_phase ctx c side next _ _ (kept.standing c.id c reads.found).phase
    reads.side moved
  have follows := follows_of_transition _ _ _ _ _ moved
  obtain ⟨source, -, -, rfl⟩ := (assertTransition_ok _ _ _ _ _).mp moved
  have status : c.status = .custodyAwaitingConfirmation := by simpa [transitions] using source
  exact ⟨_, (receipt_becomes ctx c _ db db' reads.found committed).moved kept reads.found
    rfl rfl (fun same => by cases same) follows (by simp) (by simp [status, reported]) phase⟩

theorem sold_moved (fresh : Id) (dto : ReportSoldDto) (reads : Reads ctx db c.id c side)
    (moved : assertTransition .reportSold c.status side none = .ok next)
    (nonempty : selectLines dto (custodyLines db c.id) ≠ [])
    (committed : commitSold ctx fresh c next (selectLines dto (custodyLines db c.id)) db =
      .ok db') : ∃ c', Moved db db' c.id c c' side := by
  have own : ∀ line ∈ selectLines dto (custodyLines db c.id), line ∈ linesOf db c.id :=
    fun line member => (List.mem_filter.mp (mem_selectLines dto _ line member)).1
  have phase := sold_phase ctx fresh c side next _ _ _ (kept.standing c.id c reads.found).phase
    moved own nonempty
  have follows := follows_of_transition _ _ _ _ _ moved
  obtain ⟨source, -, -, rfl⟩ := (assertTransition_ok _ _ _ _ _).mp moved
  have status : c.status = .inCustody := by simpa [transitions] using source
  exact ⟨_, (sold_becomes ctx fresh c _ _ db db' reads.found own committed).moved kept reads.found
    rfl rfl (fun same => by cases same) follows (by simp) (by simp [status, reported]) phase⟩

theorem report_moved (entry : ConsignmentLedgerEntry) (reads : Reads ctx db c.id c side)
    (inserted : insertEntry db entry = .ok db') (own : entry.consignmentId = c.id)
    (kind : entry.kind = .paymentReported) (fits : entry.amount ≤ owed db c.id) :
    Moved db db' c.id c c side := by
  obtain ⟨positive, -⟩ := insertEntry_ok db db' entry inserted
  have phase := report_phase c _ _ entry (kept.standing c.id c reads.found).phase kind
    positive fits
  exact (entry_becomes db db' c entry reads.found own inserted).moved kept reads.found
    rfl rfl (fun _ => rfl) (.inl rfl) (fun same => same) (fun _ => rfl) phase

theorem return_moved (dto : ReturnDto) (reads : Reads ctx db c.id c side)
    (moved : assertTransition dto.action.action c.status side none = .ok next)
    (condition : dto.action = .confirm → dto.condition ≠ none)
    (committed : commitReturn ctx dto c next db = .ok db') : ∃ c', Moved db db' c.id c c' side := by
  obtain ⟨source, -, -, target⟩ := (assertTransition_ok _ _ _ _ _).mp moved
  refine ⟨_, (return_becomes ctx dto c next db db' reads.found committed).moved kept reads.found
    rfl rfl ?_ (follows_of_transition _ _ _ _ _ moved) (by simp) ?_
    (return_phase ctx dto c side next _ _ (kept.standing c.id c reads.found).phase
      moved condition)⟩
  · intro requested
    rw [target] at requested
    cases action : dto.action <;>
      simp [advanced, action, ReturnAction.action, transitions] at requested
  · intro late
    cases action : dto.action <;> cases status : c.status <;>
      simp [action, status, ReturnAction.action, transitions, reported] at source late

end Commits

/-- The call did nothing, wrote a new consignment, or moved the one it names. -/
theorem accepted_moved (operation : Operation) (kept : Kept db)
    (accepted : Accepted ctx db operation db') :
    db' = db ∨
      (∃ fresh branchId lineIds dto counterparty lines, operation = .create fresh lineIds dto ∧
        db.consignments.find? fresh = none ∧
        Becomes db db' fresh (proposedConsignment ctx fresh branchId dto counterparty) lines [] ∧
        Standing (proposedConsignment ctx fresh branchId dto counterparty) lines []) ∨
      ∃ c c' side, Reads ctx db operation.target c side ∧ operation.proposes = false ∧
        Moved db db' operation.target c c' side := by
  have named : ∀ {id c side}, Reads ctx db id c side → c.id = id :=
    fun {id c _} reads => db.consignments.key_of_find? id c reads.found
  cases accepted with
  | replay | repeated => exact .inl rfl
  | create fresh lineIds dto branchId counterparty _ nonempty committed =>
      obtain ⟨missing, apart, new, count, proposed, becomes⟩ :=
        proposal_becomes ctx fresh branchId lineIds dto counterparty db db' kept committed
      refine .inr (.inl ⟨fresh, branchId, lineIds, dto, counterparty, new, rfl, missing, becomes,
        ?_, apart, ?_, proposed, rfl⟩)
      · intro empty
        rw [empty] at count
        exact nonempty (List.length_eq_zero_iff.mp count.symm)
      · simp [offered, proposedConsignment, dto.proposedAmount.positive]
  | decide id dto c side next _ reads counter moved offer committed =>
      obtain rfl := named reads
      obtain ⟨c', step⟩ := decision_moved ctx kept dto reads counter moved offer committed
      exact .inr (.inr ⟨c, c', side, reads, rfl, step⟩)
  | send id dto c side next _ reads moved committed =>
      obtain rfl := named reads
      obtain ⟨c', step⟩ := send_moved ctx kept reads moved committed
      exact .inr (.inr ⟨c, c', side, reads, rfl, step⟩)
  | receive id dto c side next _ reads moved committed =>
      obtain rfl := named reads
      obtain ⟨c', step⟩ := receipt_moved ctx kept reads moved committed
      exact .inr (.inr ⟨c, c', side, reads, rfl, step⟩)
  | sold fresh id dto c side next _ reads moved nonempty committed =>
      obtain rfl := named reads
      obtain ⟨c', step⟩ := sold_moved ctx kept fresh dto reads moved nonempty committed
      exact .inr (.inr ⟨c, c', side, reads, rfl, step⟩)
  | report fresh id dto c side entry _ reads inserted own kind fits =>
      obtain rfl := named reads
      exact .inr (.inr ⟨c, c, side, reads, rfl,
        report_moved ctx kept entry reads inserted own kind fits⟩)
  | confirm fresh id dto c side entry db₁ reads inserted own kind fits =>
      obtain ⟨c', moved⟩ := taken_moved ctx db db₁ id c side entry .settle kept reads inserted
        own (by simp [kind, balanceEffect]) fits (.inl rfl)
      exact .inr (.inr ⟨c, c', side, reads, rfl, moved⟩)
  | forgive fresh id dto c side entry db₁ reads source inserted own kind fits =>
      obtain ⟨c', moved⟩ := taken_moved ctx db db₁ id c side entry .forgive kept reads
        inserted own (by simp [kind, balanceEffect]) fits (.inr ⟨rfl, source⟩)
      exact .inr (.inr ⟨c, c', side, reads, rfl, moved⟩)
  | returns id dto c side next _ reads moved condition committed =>
      obtain rfl := named reads
      obtain ⟨c', step⟩ := return_moved ctx kept dto reads moved condition committed
      exact .inr (.inr ⟨c, c', side, reads, rfl, step⟩)

theorem exec_kept (call : Call) (db : Db) (kept : Kept db) : Kept (call.exec db).1 := by
  rcases exec_outcome call db with ⟨same, -⟩ | accepted
  · rw [same]
    exact kept
  · rcases accepted_moved call.ctx db _ call.operation kept accepted with
      same | ⟨fresh, branchId, lineIds, dto, counterparty, lines, -, -, becomes, standing⟩ |
        ⟨c, c', side, -, -, moved⟩
    · rw [same]
      exact kept
    · exact becomes.kept kept standing
    · exact moved.becomes.kept kept moved.standing

/-- What the two companies did about the amount. An answer keeps the row it was
given to. -/
inductive Event where
  | offered (consignmentId company : Id)
  | answered (read : Consignment) (company : Id)

def Call.moves (call : Call) (db : Db) : Bool :=
  (call.exec db).1.consignments.find? call.operation.target ≠
    db.consignments.find? call.operation.target

def Operation.answers : Operation → Bool
  | .decide _ dto => dto.action = .accept ∨ dto.action = .counter
  | _ => false

def Operation.offers : Operation → Bool
  | .create _ _ _ => true
  | .decide _ dto => dto.action = .counter
  | _ => false

def Call.events (call : Call) (db : Db) : List Event :=
  (if call.moves db ∧ call.operation.answers then
    (db.consignments.find? call.operation.target).toList.map (.answered · call.ctx.companyId)
  else []) ++
  (if call.moves db ∧ call.operation.offers then
    [.offered call.operation.target call.ctx.companyId]
  else [])

/-- Other services may do anything to the tables that are not the consignments'. -/
structure Untouched (db db' : Db) : Prop where
  consignments : db'.consignments = db.consignments
  lines : db'.consignmentLines = db.consignmentLines
  ledger : db'.consignmentLedger = db.consignmentLedger

inductive Reaches (start : Db) : Db → List Event → Prop
  | start : Reaches start start []
  | call (db : Db) (history : List Event) (call : Call) (before : Reaches start db history) :
      Reaches start (call.exec db).1 (history ++ call.events db)
  | other (db db' : Db) (history : List Event) (before : Reaches start db history)
      (untouched : Untouched db db') : Reaches start db' history

def play (db : Db) (calls : List Call) : Db × List Event :=
  calls.foldl (fun state call => ((call.exec state.1).1, state.2 ++ call.events state.1)) (db, [])

theorem reaches_play (db : Db) (calls : List Call) :
    Reaches db (play db calls).1 (play db calls).2 := by
  have run : ∀ (calls : List Call) (state : Db × List Event), Reaches db state.1 state.2 →
      Reaches db (calls.foldl (fun state call =>
          ((call.exec state.1).1, state.2 ++ call.events state.1)) state).1
        (calls.foldl (fun state call =>
          ((call.exec state.1).1, state.2 ++ call.events state.1)) state).2 := by
    intro calls
    induction calls with
    | nil =>
        intro state reached
        exact reached
    | cons call rest ih =>
        intro state reached
        exact ih _ (.call state.1 state.2 call reached)
  exact run calls (db, []) .start

structure NoConsignments (db : Db) : Prop where
  consignments : db.consignments.rows = []
  lines : db.consignmentLines.rows = []
  ledger : db.consignmentLedger.rows = []

theorem Untouched.kept {db db' : Db} (untouched : Untouched db db') (kept : Kept db) :
    Kept db' := by
  constructor
  · intro id missing
    rw [untouched.consignments] at missing
    unfold linesOf ledgerOf
    rw [untouched.lines, untouched.ledger]
    exact kept.absent id missing
  · intro id c found
    rw [untouched.consignments] at found
    unfold linesOf ledgerOf
    rw [untouched.lines, untouched.ledger]
    exact kept.standing id c found

theorem reaches_kept (start db : Db) (history : List Event) (empty : NoConsignments start)
    (reached : Reaches start db history) : Kept db := by
  induction reached with
  | start => exact kept_of_empty start empty.consignments empty.lines empty.ledger
  | call db history call _ ih => exact exec_kept call db ih
  | other db db' history _ untouched ih => exact untouched.kept ih

end ErpBackend.Consignments
