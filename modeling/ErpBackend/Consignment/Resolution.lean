import ErpBackend.Consignment.Offers

/-!
# Whether a consignment can still be closed

From which states the parties can bring a consignment to a terminal status with
nothing left open, and from which no sequence of requests does.
-/

namespace ErpBackend.Consignments

open Foundation

inductive Path : Db → Db → Prop
  | done (db : Db) : Path db db
  | step (db db' : Db) (call : Call) (accepted : call.accepted db = true)
      (rest : Path (call.exec db).1 db') : Path db db'

/-- The consignment is in a terminal status and all of its lines are `resolved`. -/
def Ended (resolved : LineStatus → Bool) (db : Db) (id : Id) : Prop :=
  ∃ c, db.consignments.find? id = some c ∧ terminal c.status = true ∧
    ∀ line ∈ linesOf db id, resolved line.status = true

def Resolvable (resolved : LineStatus → Bool) (db : Db) (id : Id) : Prop :=
  ∃ db', Path db db' ∧ Ended resolved db' id

def soldOrReturned (status : LineStatus) : Bool := status = .sold ∨ status = .returned

def disposed (status : LineStatus) : Bool := status ≠ .proposed ∧ status ≠ .inCustody

def Stranded (c : Consignment) (lines : List ConsignmentLine) : Prop :=
  reported c.status = true ∧ ∃ line ∈ lines, line.status = .inCustody

theorem Resolvable.of_goes {resolved : LineStatus → Bool} {db db' : Db} {id : Id} {call : Call}
    (goes : Goes call db db') (later : Resolvable resolved db' id) :
    Resolvable resolved db id := by
  obtain ⟨final, path, ended⟩ := later
  rw [← goes.reached] at path
  exact ⟨final, .step db final call goes.accepted path, ended⟩

theorem Resolvable.mono {resolved weaker : LineStatus → Bool} {db : Db} {id : Id}
    (implies : ∀ status, resolved status = true → weaker status = true)
    (resolvable : Resolvable resolved db id) : Resolvable weaker db id := by
  obtain ⟨final, path, c, found, ended, lines⟩ := resolvable
  exact ⟨final, path, c, found, ended, fun line member => implies _ (lines line member)⟩

theorem Goes.kept {call : Call} {db db' : Db} (goes : Goes call db db') (kept : Kept db) :
    Kept db' := by
  rw [← goes.reached]
  exact exec_kept call db kept

variable (db : Db)

variable (c : Consignment)

theorem source_reads (userId : Option Id)
    (found : db.consignments.find? c.id = some c) :
    Reads ⟨c.sourceCompanyId, none, userId, 0⟩ db c.id c .source :=
  ⟨found, if_pos rfl⟩

variable (company : Id)

theorem destination_reads (userId : Option Id)
    (kept : Kept db) (found : db.consignments.find? c.id = some c)
    (connected : c.destinationCompanyId = some company) :
    Reads ⟨company, none, userId, 0⟩ db c.id c .destination := by
  have apart := (kept.standing c.id c found).apart
  refine ⟨found, ?_⟩
  unfold sideOf
  rw [if_neg, if_pos connected]
  intro same
  rw [connected, same] at apart
  exact apart rfl

theorem returning_resolvable (kept : Kept db)
    (found : db.consignments.find? c.id = some c)
    (status : c.status = .returnInitiated ∨ c.status = .returnInTransit) :
    Resolvable soldOrReturned db c.id := by
  have moved : assertTransition .confirmReturn c.status .source none = .ok .returnedAccepted := by
    rcases status with known | known <;> rw [known] <;> rfl
  obtain ⟨db', becomes, goes⟩ := return_goes ⟨c.sourceCompanyId, none, none, 0⟩
    { action := .confirm, condition := some .good } c .source .returnedAccepted db
    (source_reads db c none found) moved (fun _ => by simp)
  have returned := ((goes.kept kept).standing c.id _ becomes.found).phase.2.1
  refine .of_goes goes ⟨db', .done db', _, becomes.found, rfl, ?_⟩
  intro line member
  simp [soldOrReturned, returned line member]

theorem inCustody_resolvable (kept : Kept db)
    (found : db.consignments.find? c.id = some c)
    (connected : c.destinationCompanyId = some company) (status : c.status = .inCustody) :
    Resolvable soldOrReturned db c.id := by
  have moved : assertTransition .initiateReturn c.status .destination none =
      .ok .returnInitiated := by
    rw [status]
    rfl
  obtain ⟨db', becomes, goes⟩ := return_goes ⟨company, none, none, 0⟩ { action := .initiate } c
    .destination .returnInitiated db (destination_reads db c company none kept found connected)
    moved (by simp)
  exact .of_goes goes (returning_resolvable db' (advanced .returnInitiated c) (goes.kept kept)
    becomes.found (.inl rfl))

theorem sent_resolvable (kept : Kept db)
    (found : db.consignments.find? c.id = some c)
    (connected : c.destinationCompanyId = some company)
    (status : c.status = .custodyAwaitingConfirmation) : Resolvable soldOrReturned db c.id := by
  have agreed : c.agreedAmount ≠ none := by
    have phase := (kept.standing c.id c found).phase
    unfold Phase at phase
    rw [status] at phase
    obtain ⟨amount, agreed⟩ := phase
    simp [agreed.agreed]
  obtain ⟨db', lines, becomes, goes⟩ := receive_goes ⟨company, none, some 0, 0⟩ c db
    (destination_reads db c company (some 0) kept found connected) (by simp) status agreed
  exact .of_goes goes (inCustody_resolvable db' (received _ .inCustody c) company
    (goes.kept kept) becomes.found connected rfl)

theorem agreed_resolvable (kept : Kept db)
    (found : db.consignments.find? c.id = some c)
    (connected : c.destinationCompanyId = some company)
    (status : c.status = .acceptedAwaitingCustody) : Resolvable soldOrReturned db c.id := by
  obtain ⟨db', becomes, goes⟩ := send_goes ⟨c.sourceCompanyId, none, none, 0⟩ c db
    (source_reads db c none found) status
  exact .of_goes goes (sent_resolvable db' (sent _ .custodyAwaitingConfirmation c) company
    (goes.kept kept) becomes.found connected rfl)

theorem negotiable_resolvable (kept : Kept db)
    (found : db.consignments.find? c.id = some c)
    (connected : c.destinationCompanyId = some company) (status : negotiable c.status = true) :
    Resolvable soldOrReturned db c.id := by
  -- Whoever the status does not name as the offerer may accept.
  have answerer : ∃ ctx side, Reads ctx db c.id c side ∧ lastProposalBy c ≠ some side := by
    by_cases byDestination : lastProposalBy c = some .destination
    · exact ⟨_, .source, source_reads db c none found, by simp [byDestination]⟩
    · exact ⟨_, .destination, destination_reads db c company none kept found connected,
        byDestination⟩
  obtain ⟨ctx, side, reads, other⟩ := answerer
  have moved : assertTransition .accept c.status side (lastProposalBy c) =
      .ok .acceptedAwaitingCustody :=
    (assertTransition_ok _ _ _ _ _).mpr
      ⟨by simpa [transitions, negotiable] using status, .inl rfl, fun _ => other, rfl⟩
  have positive := ((kept.standing c.id c found).phase.negotiating status).offer
  obtain ⟨db', committed, goes⟩ := decide_goes ctx { action := .accept } c side _ db reads
    (by simp) (by simp) moved (.inl rfl) (fun _ => positive)
  have becomes := decide_becomes ctx { action := .accept } c _ db db' found committed
  exact .of_goes goes (agreed_resolvable db' (decided ctx _ c _ c) company (goes.kept kept)
    becomes.found connected rfl)

theorem delivered_sold (lines : List ConsignmentLine)
    (delivered : Delivered c lines) (status : reported c.status = true)
    (free : ¬ Stranded c lines) : ∀ line ∈ lines, soldOrReturned line.status = true := by
  intro line member
  rcases delivered.lines line member with sold | held
  · simp [soldOrReturned, sold]
  · exact absurd ⟨status, line, member, held⟩ free

theorem owing_resolvable (kept : Kept db)
    (found : db.consignments.find? c.id = some c)
    (status : c.status = .soldAwaitingSettlement ∨ c.status = .partiallyPaid)
    (free : ¬ Stranded c (linesOf db c.id)) : Resolvable soldOrReturned db c.id := by
  have phase : Delivered c (linesOf db c.id) ∧ 0 < balance (ledgerOf db c.id) := by
    have phase := (kept.standing c.id c found).phase
    unfold Phase at phase
    rcases status with known | known <;> simpa only [known] using phase
  obtain ⟨delivered, owes⟩ := phase
  obtain ⟨fresh, dto, db', c', ledger, becomes, written, goes⟩ := forgive_goes
    ⟨c.sourceCompanyId, none, none, 0⟩ c db (source_reads db c none found) status owes
  refine .of_goes goes ⟨db', .done db', c', becomes.found, by rw [written]; rfl, ?_⟩
  rw [becomes.lines]
  exact delivered_sold c _ delivered (by rcases status with known | known <;> rw [known] <;> rfl)
    free

/-- A connected consignment that was neither cancelled nor partly sold can be closed
with every phone sold or returned. -/
theorem connected_resolvable (kept : Kept db)
    (found : db.consignments.find? c.id = some c) (connected : c.destinationCompanyId ≠ none)
    (standing : c.status ≠ .cancelled) (free : ¬ Stranded c (linesOf db c.id)) :
    Resolvable soldOrReturned db c.id := by
  obtain ⟨company, destination⟩ := Option.ne_none_iff_exists'.mp connected
  have phase := (kept.standing c.id c found).phase
  cases status : c.status
  case draft => simp [Phase, status] at phase
  case requested | counterProposed | disputed =>
    exact negotiable_resolvable db c company kept found destination (by rw [status]; rfl)
  case acceptedAwaitingCustody => exact agreed_resolvable db c company kept found destination status
  case custodyAwaitingConfirmation =>
    exact sent_resolvable db c company kept found destination status
  case inCustody => exact inCustody_resolvable db c company kept found destination status
  case returnInitiated => exact returning_resolvable db c kept found (.inl status)
  case returnInTransit => exact returning_resolvable db c kept found (.inr status)
  case soldAwaitingSettlement => exact owing_resolvable db c kept found (.inl status) free
  case partiallyPaid => exact owing_resolvable db c kept found (.inr status) free
  case settled | forgivenSettled =>
    have delivered : Delivered c (linesOf db c.id) := by
      simp only [Phase, status] at phase
      exact phase.1
    exact ⟨db, .done db, c, found, by rw [status]; rfl,
      delivered_sold c _ delivered (by rw [status]; rfl) free⟩
  case returnedAccepted =>
    simp only [Phase, status] at phase
    refine ⟨db, .done db, c, found, by rw [status]; rfl, ?_⟩
    intro line member
    simp [soldOrReturned, phase.2.1 line member]
  case cancelled => exact absurd status standing

theorem cancelled_lines (kept : Kept db)
    (found : db.consignments.find? c.id = some c) (status : c.status = .cancelled) :
    ∀ line ∈ linesOf db c.id, line.status = .cancelled := by
  have phase := (kept.standing c.id c found).phase
  simp only [Phase, status] at phase
  exact phase.1

theorem cancellable_resolvable (kept : Kept db)
    (found : db.consignments.find? c.id = some c)
    (status : negotiable c.status = true ∨ c.status = .acceptedAwaitingCustody) :
    Resolvable disposed db c.id := by
  have moved : assertTransition .cancel c.status .source (lastProposalBy c) = .ok .cancelled := by
    refine (assertTransition_ok _ _ _ _ _).mpr ⟨?_, .inr rfl, by simp, rfl⟩
    simp only [negotiable, List.mem_cons, List.not_mem_nil, decide_eq_true_eq] at status
    simp only [transitions, List.mem_cons, List.not_mem_nil]
    tauto
  obtain ⟨db', committed, goes⟩ := decide_goes ⟨c.sourceCompanyId, none, none, 0⟩
    { action := .cancel } c .source _ db (source_reads db c none found)
    (by simp) (by simp) moved (.inl rfl) (by simp)
  have becomes := decide_becomes _ { action := .cancel } c _ db db' found committed
  have lines := cancelled_lines db' (decided _ _ c .cancelled c) (goes.kept kept) becomes.found rfl
  refine .of_goes goes ⟨db', .done db', _, becomes.found, rfl, ?_⟩
  intro line member
  simp [disposed, lines line member]

theorem Phase.manual {c : Consignment} {lines : List ConsignmentLine}
    {ledger : List ConsignmentLedgerEntry} (phase : Phase c lines ledger)
    (manual : c.destinationCompanyId = none) :
    (negotiable c.status = true ∨ c.status = .acceptedAwaitingCustody ∨
        c.status = .custodyAwaitingConfirmation ∨ c.status = .cancelled) ∧
      ∀ line ∈ lines, line.status = .proposed ∨ line.status = .cancelled := by
  unfold Phase at phase
  cases status : c.status <;> rw [status] at phase
  case draft => cases phase
  case requested | counterProposed | disputed =>
    exact ⟨.inl rfl, fun line member => .inl (phase.lines line member)⟩
  case acceptedAwaitingCustody | custodyAwaitingConfirmation =>
    obtain ⟨amount, agreed⟩ := phase
    exact ⟨by simp, fun line member => .inl (agreed.lines line member).1⟩
  case cancelled => exact ⟨by simp, fun line member => .inr (phase.1 line member)⟩
  case soldAwaitingSettlement | partiallyPaid | settled | forgivenSettled =>
    exact absurd manual phase.1.connected
  case inCustody | returnInitiated | returnInTransit | returnedAccepted =>
    exact absurd manual phase.1

theorem path_keeps (id : Id) (P : Consignment → List ConsignmentLine → Prop)
    (step : ∀ db db' ctx c c' side, Reads ctx db id c side → Moved db db' id c c' side →
      P c (linesOf db id) → P c' (linesOf db' id))
    (db db' : Db) (path : Path db db') (kept : Kept db) (c : Consignment)
    (found : db.consignments.find? id = some c) (holds : P c (linesOf db id)) :
    Kept db' ∧ ∃ c', db'.consignments.find? id = some c' ∧ P c' (linesOf db' id) := by
  induction path generalizing c with
  | done db => exact ⟨kept, c, found, holds⟩
  | step db db' call accepted rest ih =>
      have kept' := exec_kept call db kept
      rcases accepted_moved call.ctx db _ call.operation kept (accepted_of_exec call db accepted)
        with same | ⟨fresh, _, _, _, _, _, -, missing, becomes, -⟩ |
          ⟨row, row', side, reads, -, moved⟩
      · rw [same] at ih
        exact ih kept c found holds
      · have other : id ≠ fresh := by
          rintro rfl
          rw [missing] at found
          cases found
        refine ih kept' c ?_ ?_
        · rw [becomes.elsewhere.consignments id other]
          exact found
        · rw [becomes.elsewhere.lines id other]
          exact holds
      · by_cases target : id = call.operation.target
        · subst target
          rw [moved.before] at found
          cases found
          exact ih kept' row' moved.becomes.found (step db _ call.ctx c row' side reads moved holds)
        · refine ih kept' c ?_ ?_
          · rw [moved.becomes.elsewhere.consignments id target]
            exact found
          · rw [moved.becomes.elsewhere.lines id target]
            exact holds

theorem Follows.reported {status status' : ConsignmentStatus} {side : Side}
    (follows : Follows status status' side) (late : reported status = true) :
    Consignments.reported status' = true := by
  rcases follows with rfl | ⟨action, source, -, rfl⟩
  · exact late
  · cases status <;> cases action <;>
      simp [transitions, Consignments.reported] at source late ⊢

theorem Follows.terminal {status status' : ConsignmentStatus} {side : Side}
    (follows : Follows status status' side) (ended : terminal status = true) :
    status' = status := by
  rcases follows with same | ⟨action, source, -, -⟩
  · exact same
  · exact absurd source ((terminal_iff status).mp ended action)

theorem Follows.sent {status' : ConsignmentStatus} {side : Side}
    (follows : Follows .custodyAwaitingConfirmation status' side)
    (notDestination : side = .source) :
    status' = .custodyAwaitingConfirmation := by
  subst notDestination
  rcases follows with same | ⟨action, source, acts, -⟩
  · exact same
  · cases action <;> simp [transitions] at source acts

theorem stranded_unresolvable (resolved : LineStatus → Bool) (db : Db) (id : Id) (c : Consignment)
    (kept : Kept db) (found : db.consignments.find? id = some c)
    (stranded : Stranded c (linesOf db id)) (strict : resolved .inCustody = false) :
    ¬ Resolvable resolved db id := by
  rintro ⟨db', path, ended⟩
  obtain ⟨-, c', found', -, line, member, held⟩ := path_keeps id Stranded
    (fun _ _ _ _ _ _ _ moved stranded =>
      ⟨moved.follows.reported stranded.1, by rw [moved.lines stranded.1]; exact stranded.2⟩)
    db db' path kept c found stranded
  obtain ⟨-, -, -, lines⟩ := ended
  have done := lines line member
  rw [held, strict] at done
  cases done

theorem cancelled_unresolvable (id : Id) (c : Consignment) (kept : Kept db)
    (found : db.consignments.find? id = some c) (cancelled : c.status = .cancelled) :
    ¬ Resolvable soldOrReturned db id := by
  rintro ⟨db', path, -, -, -, lines⟩
  obtain ⟨kept', c', found', still⟩ := path_keeps id (fun c _ => c.status = .cancelled)
    (fun _ _ _ c _ _ _ moved cancelled => by
      rw [moved.follows.terminal (by rw [cancelled]; rfl), cancelled])
    db db' path kept c found cancelled
  have key := db'.consignments.key_of_find? id c' found'
  subst key
  obtain ⟨line, member⟩ := List.exists_mem_of_ne_nil _ (kept'.standing _ c' found').nonempty
  have done := lines line member
  rw [cancelled_lines db' c' kept' found' still line member] at done
  cases done

theorem manual_unresolvable (id : Id) (c : Consignment) (kept : Kept db)
    (found : db.consignments.find? id = some c) (manual : c.destinationCompanyId = none) :
    ¬ Resolvable soldOrReturned db id := by
  rintro ⟨db', path, -, -, -, lines⟩
  obtain ⟨kept', c', found', still⟩ := path_keeps id (fun c _ => c.destinationCompanyId = none)
    (fun _ _ _ _ _ _ _ moved manual => moved.destination.trans manual)
    db db' path kept c found manual
  have standing := kept'.standing id c' found'
  obtain ⟨line, member⟩ := List.exists_mem_of_ne_nil _ standing.nonempty
  have done := lines line member
  rcases (standing.phase.manual still).2 line member with known | known <;>
    rw [known] at done <;> cases done

theorem sent_manual_unresolvable (id : Id) (c : Consignment) (kept : Kept db)
    (found : db.consignments.find? id = some c) (manual : c.destinationCompanyId = none)
    (status : c.status = .custodyAwaitingConfirmation) : ¬ Resolvable disposed db id := by
  rintro ⟨db', path, final, found'', ended, -⟩
  obtain ⟨-, c', found', -, still⟩ := path_keeps id (fun c _ => c.destinationCompanyId = none ∧
      c.status = .custodyAwaitingConfirmation)
    (fun _ _ ctx c _ side reads moved both => by
      have acts : side = .source := by
        cases side with
        | source => rfl
        | destination =>
            have connected := destination_connected c ctx.companyId reads.side
            rw [both.1] at connected
            cases connected
      have follows := moved.follows
      rw [both.2] at follows
      exact ⟨moved.destination.trans both.1, follows.sent acts⟩)
    db db' path kept c found ⟨manual, status⟩
  rw [found'] at found''
  cases found''
  rw [still] at ended
  cases ended

/-- Closing with every phone sold or returned needs an account on the other side,
and neither a cancellation nor a partial sale; closing with nothing left open
only fails after a partial sale or for phones sent to somebody without an account. -/
theorem resolvable_iff (start db : Db) (history : List Event) (empty : NoConsignments start)
    (reached : Reaches start db history) (id : Id) (c : Consignment)
    (found : db.consignments.find? id = some c) :
    (Resolvable soldOrReturned db id ↔ c.destinationCompanyId ≠ none ∧ c.status ≠ .cancelled ∧
        ¬ Stranded c (linesOf db id)) ∧
      (Resolvable disposed db id ↔ ¬ Stranded c (linesOf db id) ∧
        (c.destinationCompanyId = none → c.status ≠ .custodyAwaitingConfirmation)) := by
  have kept := reaches_kept start db history empty reached
  have key := db.consignments.key_of_find? id c found
  subst key
  constructor
  · constructor
    · intro resolvable
      refine ⟨fun manual => ?_, fun cancelled => ?_, fun stranded => ?_⟩
      · exact manual_unresolvable db c.id c kept found manual resolvable
      · exact cancelled_unresolvable db c.id c kept found cancelled resolvable
      · exact stranded_unresolvable _ db c.id c kept found stranded rfl resolvable
    · intro ⟨connected, standing, free⟩
      exact connected_resolvable db c kept found connected standing free
  · constructor
    · intro resolvable
      refine ⟨fun stranded => ?_, fun manual sent => ?_⟩
      · exact stranded_unresolvable _ db c.id c kept found stranded rfl resolvable
      · exact sent_manual_unresolvable db c.id c kept found manual sent resolvable
    · intro ⟨free, unsent⟩
      have released : c.status = .cancelled → Resolvable disposed db c.id := by
        intro cancelled
        refine ⟨db, .done db, c, found, by rw [cancelled]; rfl, ?_⟩
        intro line member
        simp [disposed, cancelled_lines db c kept found cancelled line member]
      by_cases manual : c.destinationCompanyId = none
      · rcases ((kept.standing c.id c found).phase.manual manual).1 with
          negotiating | agreed | sent | cancelled
        · exact cancellable_resolvable db c kept found (.inl negotiating)
        · exact cancellable_resolvable db c kept found (.inr agreed)
        · exact absurd sent (unsent manual)
        · exact released cancelled
      · by_cases cancelled : c.status = .cancelled
        · exact released cancelled
        · refine (connected_resolvable db c kept found manual cancelled free).mono ?_
          intro status resolved
          cases status <;> simp [soldOrReturned, disposed] at resolved ⊢

/-- Phone 301 goes to a shop without an account. The sender disputes its own
proposal, accepts it and sends the phone. -/
def manualHandOver : List Call :=
  [⟨sender, .create 100 (fun index => 200 + index)
      { counterpartyId := 6
        unitIds := [301]
        proposedAmount := 50000
        note := none
        clientUuid := none }⟩,
    ⟨sender, .decide 100 { action := .dispute, reason := some "price" }⟩,
    ⟨sender, .decide 100 { action := .accept }⟩,
    ⟨sender, .custody 100 { action := .send }⟩]

theorem manual_handOver_unresolvable :
    ((play shelf manualHandOver).1.consignments.find? 100).map
        (fun c => (c.status, c.destinationCompanyId)) =
          some (.custodyAwaitingConfirmation, none) ∧
      ¬ Resolvable disposed (play shelf manualHandOver).1 100 ∧
      ¬ ∀ (start db : Db) (history : List Event), NoConsignments start →
        Reaches start db history → ∀ (id : Id) (c : Consignment),
          db.consignments.find? id = some c → Resolvable soldOrReturned db id := by
  have reached := reaches_play shelf manualHandOver
  have kept := reaches_kept shelf _ _ shelf_noConsignments reached
  have row : ∃ c, (play shelf manualHandOver).1.consignments.find? 100 = some c ∧
      c.destinationCompanyId = none ∧ c.status = .custodyAwaitingConfirmation :=
    ⟨_, rfl, rfl, rfl⟩
  obtain ⟨c, found, manual, sent⟩ := row
  refine ⟨by decide, sent_manual_unresolvable _ 100 c kept found manual sent, fun claim => ?_⟩
  exact manual_unresolvable _ 100 c kept found manual
    (claim shelf _ _ shelf_noConsignments reached 100 c found)

theorem resolvable_iff_delivered :
    ∃ c, (play shelf (delivery [301, 302])).1.consignments.find? 100 = some c ∧
      c.status = .inCustody ∧
      (Resolvable soldOrReturned (play shelf (delivery [301, 302])).1 100 ↔
        c.destinationCompanyId ≠ none ∧ c.status ≠ .cancelled ∧
          ¬ Stranded c (linesOf (play shelf (delivery [301, 302])).1 100)) :=
  ⟨_, rfl, rfl, (resolvable_iff shelf _ _ shelf_noConsignments
    (reaches_play shelf (delivery [301, 302])) 100 _ rfl).1⟩

end ErpBackend.Consignments
