import ErpBackend.Consignment.Service

/-!
# What a consignment request can do

Every request either is refused and leaves the database alone, or does one of
the things listed by `Accepted`.
-/

namespace ErpBackend.Consignments

open Foundation

inductive Operation where
  | create (fresh : Id) (lineIds : Nat → Id) (dto : CreateConsignmentDto)
  | decide (id : Id) (dto : DecideConsignmentDto)
  | custody (id : Id) (dto : CustodyDto)
  | reportSold (fresh id : Id) (dto : ReportSoldDto)
  | payment (fresh id : Id) (dto : ConsignmentPaymentDto)
  | forgive (fresh id : Id) (dto : ForgiveDto)
  | returnFlow (id : Id) (dto : ReturnDto)

structure Call where
  ctx : Ctx
  operation : Operation

def Call.program (call : Call) : Request ConsignmentView :=
  match call.operation with
  | .create fresh lineIds dto => Consignments.create call.ctx fresh lineIds dto
  | .decide id dto => Consignments.decide call.ctx id dto
  | .custody id dto => Consignments.custody call.ctx id dto
  | .reportSold fresh id dto => Consignments.reportSold call.ctx fresh id dto
  | .payment fresh id dto => Consignments.payment call.ctx fresh id dto
  | .forgive fresh id dto => Consignments.forgive call.ctx fresh id dto
  | .returnFlow id dto => Consignments.returnFlow call.ctx id dto

def Call.exec (call : Call) (db : Db) : Db × Except Refusal ConsignmentView :=
  call.program.run db

def Call.accepted (call : Call) (db : Db) : Bool :=
  match (call.exec db).2 with
  | .ok _ => true
  | .error _ => false

def owed (db : Db) (consignmentId : Id) : Int := outstanding (ledgerRows db consignmentId)

def custodyLines (db : Db) (consignmentId : Id) : List ConsignmentLine :=
  (linesOf db consignmentId).filter (fun line => line.status = .inCustody)

def settled (now : Time) (db : Db) (consignmentId : Id) (status : ConsignmentStatus) : Db :=
  if 0 < owed db consignmentId then
    moveStatus db consignmentId [.soldAwaitingSettlement] .partiallyPaid id
  else moveStatus db consignmentId [.soldAwaitingSettlement, .partiallyPaid] status
    (fun _ => some now)

structure Reads (ctx : Ctx) (db : Db) (id : Id) (c : Consignment) (side : Side) : Prop where
  found : db.consignments.find? id = some c
  side : sideOf c ctx.companyId = some side

inductive Accepted (ctx : Ctx) (db : Db) : Operation → Db → Prop
  | replay (fresh : Id) (lineIds : Nat → Id) (dto : CreateConsignmentDto) :
      Accepted ctx db (.create fresh lineIds dto) db
  | repeated (fresh id : Id) (dto : ConsignmentPaymentDto) :
      Accepted ctx db (.payment fresh id dto) db
  | create (fresh : Id) (lineIds : Nat → Id) (dto : CreateConsignmentDto) (branchId : Id)
      (counterparty : Counterparty) (db' : Db) (some : dto.unitIds ≠ [])
      (committed : commitProposal ctx fresh branchId lineIds dto counterparty db = .ok db') :
      Accepted ctx db (.create fresh lineIds dto) db'
  | decide (id : Id) (dto : DecideConsignmentDto) (c : Consignment) (side : Side)
      (next : ConsignmentStatus) (db' : Db) (reads : Reads ctx db id c side)
      (counter : dto.action = .counter → dto.amount ≠ none)
      (moved : assertTransition dto.action.action c.status side (lastProposalBy c) = .ok next)
      (offer : dto.action = .accept → 0 < offered c)
      (committed : commitDecision ctx dto c next db = .ok db') :
      Accepted ctx db (.decide id dto) db'
  | send (id : Id) (dto : CustodyDto) (c : Consignment) (side : Side)
      (next : ConsignmentStatus) (db' : Db) (reads : Reads ctx db id c side)
      (moved : assertTransition .sendCustody c.status side none = .ok next)
      (committed : commitSend ctx c next db = .ok db') :
      Accepted ctx db (.custody id dto) db'
  | receive (id : Id) (dto : CustodyDto) (c : Consignment) (side : Side)
      (next : ConsignmentStatus) (db' : Db) (reads : Reads ctx db id c side)
      (moved : assertTransition .confirmCustody c.status side none = .ok next)
      (committed : commitReceipt ctx c next db = .ok db') :
      Accepted ctx db (.custody id dto) db'
  | sold (fresh id : Id) (dto : ReportSoldDto) (c : Consignment) (side : Side)
      (next : ConsignmentStatus) (db' : Db) (reads : Reads ctx db id c side)
      (moved : assertTransition .reportSold c.status side none = .ok next)
      (some : selectLines dto (custodyLines db c.id) ≠ [])
      (committed : commitSold ctx fresh c next (selectLines dto (custodyLines db c.id)) db =
        .ok db') :
      Accepted ctx db (.reportSold fresh id dto) db'
  | report (fresh id : Id) (dto : ConsignmentPaymentDto) (c : Consignment) (side : Side)
      (entry : ConsignmentLedgerEntry) (db' : Db) (reads : Reads ctx db id c side)
      (inserted : insertEntry db entry = .ok db') (own : entry.consignmentId = c.id)
      (kind : entry.kind = .paymentReported) (fits : entry.amount ≤ owed db c.id) :
      Accepted ctx db (.payment fresh id dto) db'
  | confirm (fresh id : Id) (dto : ConsignmentPaymentDto) (c : Consignment) (side : Side)
      (entry : ConsignmentLedgerEntry) (db₁ : Db) (reads : Reads ctx db id c side)
      (inserted : insertEntry db entry = .ok db₁) (own : entry.consignmentId = c.id)
      (kind : entry.kind = .paymentConfirmed) (fits : entry.amount ≤ owed db c.id) :
      Accepted ctx db (.payment fresh id dto) (settled ctx.now db₁ c.id .settled)
  | forgive (fresh id : Id) (dto : ForgiveDto) (c : Consignment) (side : Side)
      (entry : ConsignmentLedgerEntry) (db₁ : Db) (reads : Reads ctx db id c side)
      (acts : side = .source) (inserted : insertEntry db entry = .ok db₁)
        (own : entry.consignmentId = c.id)
      (kind : entry.kind = .forgiven) (fits : entry.amount ≤ owed db c.id) :
      Accepted ctx db (.forgive fresh id dto) (settled ctx.now db₁ c.id .forgivenSettled)
  | returns (id : Id) (dto : ReturnDto) (c : Consignment) (side : Side)
      (next : ConsignmentStatus) (db' : Db) (reads : Reads ctx db id c side)
      (moved : assertTransition dto.action.action c.status side none = .ok next)
      (condition : dto.action = .confirm → dto.condition ≠ none)
      (committed : commitReturn ctx dto c next db = .ok db') :
      Accepted ctx db (.returnFlow id dto) db'

section Requests

variable {α : Type}

def Outcome (ctx : Ctx) (db : Db) (operation : Operation) (db' : Db)
    (result : Except Refusal α) : Prop :=
  (db' = db ∧ ∃ refusal, result = .error refusal) ∨ Accepted ctx db operation db'

variable (ctx : Ctx)

theorem Outcome.refused (db : Db) (operation : Operation) (refusal : Refusal) :
    Outcome ctx db operation db (.error refusal : Except Refusal α) :=
  .inl ⟨rfl, refusal, rfl⟩

theorem findVisible_some (db : Db) (me id : Id) (c : Consignment) :
    findVisible db me id = some c ↔ db.consignments.find? id = some c ∧ visibleTo me c = true :=
  Option.filter_eq_some_iff

theorem visible_iff_side (me : Id) (c : Consignment) :
    visibleTo me c = true ↔ ∃ side, sideOf c me = some side := by
  simp only [visibleTo, sideOf, decide_eq_true_eq]
  by_cases source : c.sourceCompanyId = me
  · simp [source]
  · by_cases destination : c.destinationCompanyId = some me
    · simp [source, destination]
    · simp [source, destination]

variable (id : Id)

theorem ensures_get (post : Db → Except Refusal ConsignmentView → Prop)
    (db : Db) (any : ∀ result, post db result) : Prog.Ensures (get ctx id) post db := by
  unfold get
  rw [Prog.ensures_read]
  cases (findVisible db ctx.companyId id).bind (fun c =>
      (sideOf c ctx.companyId).map (viewOf db ctx.companyId c)) with
  | none => exact any _
  | some view => exact any _

theorem ensures_mine (f : Consignment → Request α)
    (post : Db → Except Refusal α → Prop) (db : Db)
    (refused : ∀ refusal, post db (.error refusal))
    (rest : ∀ c, db.consignments.find? id = some c → Prog.Ensures (f c) post db) :
    Prog.Ensures (mine ctx id >>= f) post db := by
  unfold mine
  rw [Prog.bind_assoc, Prog.ensures_read, Prog.ensures_expect]
  refine ⟨fun c found => rest c ?_, fun _ => refused _⟩
  exact ((findVisible_some db ctx.companyId id c).mp found).1

theorem ensures_reads (f : Consignment → Side → Request α)
    (post : Db → Except Refusal α → Prop) (db : Db)
    (refused : ∀ refusal, post db (.error refusal))
    (rest : ∀ c side, Reads ctx db id c side → Prog.Ensures (f c side) post db) :
    Prog.Ensures (mine ctx id >>= fun c => requireSide c ctx.companyId >>= f c) post db := by
  apply ensures_mine _ _ _ _ _ refused
  intro c found
  unfold requireSide
  rw [Prog.ensures_expect]
  exact ⟨fun side seen => rest c side ⟨found, seen⟩, fun _ => refused _⟩

theorem ensures_assertSource (c : Consignment) (me : Id) (f : Unit → Request α)
    (post : Db → Except Refusal α → Prop) (db : Db)
    (refused : ∀ refusal, post db (.error refusal))
    (rest : sideOf c me = some .source → Prog.Ensures (f ()) post db) :
    Prog.Ensures (assertSource c me >>= f) post db := by
  unfold assertSource requireSide
  simp only [Prog.bind_assoc]
  rw [Prog.ensures_expect]
  refine ⟨fun side seen => ?_, fun _ => refused _⟩
  rw [Prog.ensures_require]
  refine ⟨?_, fun _ => refused _⟩
  rintro rfl
  exact rest seen

theorem ensures_assertDestination (c : Consignment) (me : Id) (f : Unit → Request α)
    (post : Db → Except Refusal α → Prop) (db : Db)
    (refused : ∀ refusal, post db (.error refusal))
    (rest : sideOf c me = some .destination → Prog.Ensures (f ()) post db) :
    Prog.Ensures (assertDestination c me >>= f) post db := by
  unfold assertDestination requireSide
  simp only [Prog.bind_assoc]
  rw [Prog.ensures_expect]
  refine ⟨fun side seen => ?_, fun _ => refused _⟩
  rw [Prog.ensures_require]
  refine ⟨?_, fun _ => refused _⟩
  rintro rfl
  exact rest seen

theorem ensures_settleIfClear (status : ConsignmentStatus)
    (f : Unit → Request α) (post : Db → Except Refusal α → Prop) (db : Db)
    (rest : Prog.Ensures (f ()) post (settled ctx.now db id status)) :
    Prog.Ensures (settleIfClear ctx id status >>= f) post db := by
  unfold settleIfClear
  rw [Prog.bind_assoc, Prog.ensures_read]
  unfold settled owed at rest
  split
  · next left =>
    rw [if_pos left] at rest
    exact rest
  · next left =>
    rw [if_neg left] at rest
    exact rest

theorem create_outcome (fresh : Id) (lineIds : Nat → Id)
    (dto : CreateConsignmentDto) (db : Db) :
    Prog.Ensures (create ctx fresh lineIds dto)
      (Outcome ctx db (.create fresh lineIds dto)) db := by
  unfold create
  rw [Prog.ensures_expect]
  refine ⟨fun branchId branch => ?_, fun _ => .refused ..⟩
  rw [Prog.ensures_require]
  refine ⟨fun some => ?_, fun _ => .refused ..⟩
  rw [Prog.ensures_require]
  refine ⟨fun _ => ?_, fun _ => .refused ..⟩
  rw [Prog.ensures_read]
  dsimp only
  split
  · exact ensures_get _ _ _ _ (fun _ => .inr (.replay _ _ _))
  · rw [Prog.ensures_read, Prog.ensures_expect]
    refine ⟨?_, fun _ => .refused ..⟩
    rintro ⟨counterparty, connection⟩ _
    rw [Prog.ensures_require]
    refine ⟨fun _ => ?_, fun _ => .refused ..⟩
    rw [Prog.ensures_require]
    refine ⟨fun _ => ?_, fun _ => .refused ..⟩
    rw [Prog.ensures_commit]
    refine ⟨fun db' committed => ?_, fun _ _ => .refused ..⟩
    exact ensures_get _ _ _ _ (fun _ => .inr (.create _ _ _ branchId counterparty _ some committed))

theorem decide_outcome (dto : DecideConsignmentDto) (db : Db) :
    Prog.Ensures (decide ctx id dto) (Outcome ctx db (.decide id dto)) db := by
  unfold decide
  apply ensures_reads
  · exact Outcome.refused ctx db _
  · intro c side reads
    rw [Prog.ensures_require]
    refine ⟨fun _ => ?_, fun _ => .refused ..⟩
    rw [Prog.ensures_require]
    refine ⟨fun counter => ?_, fun _ => .refused ..⟩
    rw [Prog.ensures_liftExcept]
    refine ⟨fun next moved => ?_, fun _ _ => .refused ..⟩
    rw [Prog.ensures_require]
    refine ⟨fun _ => ?_, fun _ => .refused ..⟩
    rw [Prog.ensures_require]
    refine ⟨fun offer => ?_, fun _ => .refused ..⟩
    rw [Prog.ensures_commit]
    refine ⟨fun db' committed => ?_, fun _ _ => .refused ..⟩
    exact ensures_get _ _ _ _ (fun _ => .inr (.decide id dto c side next db' reads counter
      ((except_mapError_ok _ _ _).mp moved) offer committed))

theorem custody_outcome (dto : CustodyDto) (db : Db) :
    Prog.Ensures (custody ctx id dto) (Outcome ctx db (.custody id dto)) db := by
  unfold custody
  apply ensures_reads
  · exact Outcome.refused ctx db _
  · intro c side reads
    cases dto.action with
    | send =>
        dsimp only
        rw [Prog.ensures_liftExcept]
        refine ⟨fun next moved => ?_, fun _ _ => .refused ..⟩
        apply ensures_assertSource
        · exact Outcome.refused ctx db _
        · intro _
          rw [Prog.ensures_commit]
          refine ⟨fun db' committed => ?_, fun _ _ => .refused ..⟩
          exact ensures_get _ _ _ _ (fun _ => .inr (.send id dto c side next db' reads
            ((except_mapError_ok _ _ _).mp moved) committed))
    | confirm =>
        dsimp only
        rw [Prog.ensures_liftExcept]
        refine ⟨fun next moved => ?_, fun _ _ => .refused ..⟩
        apply ensures_assertDestination
        · exact Outcome.refused ctx db _
        · intro _
          rw [Prog.ensures_require]
          refine ⟨fun _ => ?_, fun _ => .refused ..⟩
          rw [Prog.ensures_read, Prog.ensures_liftExcept]
          refine ⟨fun _ _ => ?_, fun _ _ => .refused ..⟩
          rw [Prog.ensures_commit]
          refine ⟨fun db' committed => ?_, fun _ _ => .refused ..⟩
          exact ensures_get _ _ _ _ (fun _ => .inr (.receive id dto c side next db' reads
            ((except_mapError_ok _ _ _).mp moved) committed))

variable (fresh id : Id)

theorem reportSold_ensures (dto : ReportSoldDto)
    (post : Db → Except Refusal ConsignmentView → Prop) (db : Db)
    (refused : ∀ refusal, post db (.error refusal))
    (reported : ∀ c side next db', Reads ctx db id c side →
      assertTransition .reportSold c.status side none = .ok next →
      selectLines dto ((linesOf db c.id).filter (fun line => line.status = .inCustody)) ≠ [] →
      commitSold ctx fresh c next (selectLines dto
        ((linesOf db c.id).filter (fun line => line.status = .inCustody))) db = .ok db' →
      Prog.Ensures (get ctx id) post db') :
    Prog.Ensures (reportSold ctx fresh id dto) post db := by
  unfold reportSold
  apply ensures_reads
  · exact refused
  · intro c side reads
    have rest : Prog.Ensures (do
        let next ← .liftExcept ((assertTransition .reportSold c.status side none).mapError
          Refusal.conflict)
        let lines ← .read .other (fun db =>
          (linesOf db c.id).filter (fun line => line.status = .inCustody))
        let sold := selectLines dto lines
        .require (sold ≠ []) (.badRequest "There is nothing to report as sold")
        .commit .other (commitSold ctx fresh c next sold)
        get ctx id) post db := by
      rw [Prog.ensures_liftExcept]
      refine ⟨fun next moved => ?_, fun _ _ => refused _⟩
      rw [Prog.ensures_read]
      dsimp only
      rw [Prog.ensures_require]
      refine ⟨fun some => ?_, fun _ => refused _⟩
      rw [Prog.ensures_commit]
      exact ⟨fun db' committed => reported c side next db' reads
        ((except_mapError_ok _ _ _).mp moved) some committed, fun _ _ => refused _⟩
    dsimp only
    split
    · exact ensures_assertDestination c _ _ _ _ refused (fun _ => rest)
    · exact ensures_assertSource c _ _ _ _ refused (fun _ => rest)

theorem reportSold_outcome (dto : ReportSoldDto) (db : Db) :
    Prog.Ensures (reportSold ctx fresh id dto) (Outcome ctx db (.reportSold fresh id dto)) db := by
  apply reportSold_ensures _ _ _ _ _ _ (Outcome.refused ctx db _)
  intro c side next db' reads moved some committed
  exact ensures_get _ _ _ _ (fun _ =>
    .inr (.sold fresh id dto c side next db' reads moved some committed))

theorem payment_outcome (dto : ConsignmentPaymentDto) (db : Db) :
    Prog.Ensures (payment ctx fresh id dto) (Outcome ctx db (.payment fresh id dto)) db := by
  unfold payment
  apply ensures_reads
  · exact Outcome.refused ctx db _
  · intro c side reads
    rw [Prog.ensures_read]
    cases dto.action with
    | confirm =>
        dsimp only
        unfold confirmPayment append
        simp only [Prog.bind_assoc]
        apply ensures_assertSource
        · exact Outcome.refused ctx db _
        · intro _
          rw [Prog.ensures_expect]
          refine ⟨fun entryId _ => ?_, fun _ => .refused ..⟩
          rw [Prog.ensures_read, Prog.ensures_expect]
          refine ⟨fun reported _ => ?_, fun _ => .refused ..⟩
          rw [Prog.ensures_read, Prog.ensures_require]
          refine ⟨fun _ => ?_, fun _ => .refused ..⟩
          rw [Prog.ensures_liftExcept]
          refine ⟨fun _ allowed => ?_, fun _ _ => .refused ..⟩
          have fits := (Settlement.assertPaymentAllowed_ok _ _ _ _
            ((except_mapError_ok _ _ _).mp allowed)).2
          rw [Prog.ensures_commit]
          refine ⟨fun db₁ inserted => ?_, fun _ _ => .refused ..⟩
          apply ensures_settleIfClear
          exact ensures_get _ _ _ _ (fun _ => .inr (.confirm fresh id dto c side _ db₁ reads
            inserted rfl rfl fits))
    | report =>
        dsimp only
        unfold reportPayment append
        rw [Prog.bind_assoc, Prog.ensures_read]
        dsimp only
        split
        · rw [Prog.ensures_require]
          exact ⟨fun _ => ensures_get _ _ _ _ (fun _ => .inr (.repeated _ _ _)),
            fun _ => .refused ..⟩
        · simp only [Prog.bind_assoc]
          rw [Prog.ensures_liftExcept]
          refine ⟨fun _ allowed => ?_, fun _ _ => .refused ..⟩
          have fits := (Settlement.assertPaymentAllowed_ok _ _ _ _
            ((except_mapError_ok _ _ _).mp allowed)).2
          rw [Prog.ensures_read, Prog.ensures_commit]
          refine ⟨fun db' inserted => ?_, fun _ _ => .refused ..⟩
          exact ensures_get _ _ _ _ (fun _ => .inr (.report fresh id dto c side _ db' reads
            inserted rfl rfl fits))

theorem forgive_outcome (dto : ForgiveDto) (db : Db) :
    Prog.Ensures (forgive ctx fresh id dto) (Outcome ctx db (.forgive fresh id dto)) db := by
  unfold forgive append
  apply ensures_mine
  · exact Outcome.refused ctx db _
  · intro c found
    apply ensures_assertSource
    · exact Outcome.refused ctx db _
    · intro source
      rw [Prog.ensures_read, Prog.ensures_liftExcept]
      refine ⟨fun _ allowed => ?_, fun _ _ => .refused ..⟩
      have fits := (Settlement.assertForgivenessAllowed_ok _ _ _
        ((except_mapError_ok _ _ _).mp allowed)).2
      rw [Prog.ensures_commit]
      refine ⟨fun db₁ inserted => ?_, fun _ _ => .refused ..⟩
      apply ensures_settleIfClear
      exact ensures_get _ _ _ _ (fun _ => .inr (.forgive fresh id dto c .source _ db₁
        ⟨found, source⟩ rfl inserted rfl rfl fits))

theorem returnFlow_outcome (dto : ReturnDto) (db : Db) :
    Prog.Ensures (returnFlow ctx id dto) (Outcome ctx db (.returnFlow id dto)) db := by
  unfold returnFlow
  apply ensures_reads
  · exact Outcome.refused ctx db _
  · intro c side reads
    rw [Prog.ensures_liftExcept]
    refine ⟨fun next moved => ?_, fun _ _ => .refused ..⟩
    rw [Prog.ensures_require]
    refine ⟨fun condition => ?_, fun _ => .refused ..⟩
    rw [Prog.ensures_commit]
    refine ⟨fun db' committed => ?_, fun _ _ => .refused ..⟩
    exact ensures_get _ _ _ _ (fun _ => .inr (.returns id dto c side next db' reads
      ((except_mapError_ok _ _ _).mp moved) condition committed))

theorem exec_outcome (call : Call) (db : Db) :
    Outcome call.ctx db call.operation (call.exec db).1 (call.exec db).2 := by
  rcases call with ⟨ctx, operation⟩
  cases operation with
  | create fresh lineIds dto => exact create_outcome ctx fresh lineIds dto db
  | decide id dto => exact decide_outcome ctx id dto db
  | custody id dto => exact custody_outcome ctx id dto db
  | reportSold fresh id dto => exact reportSold_outcome ctx fresh id dto db
  | payment fresh id dto => exact payment_outcome ctx fresh id dto db
  | forgive fresh id dto => exact forgive_outcome ctx fresh id dto db
  | returnFlow id dto => exact returnFlow_outcome ctx id dto db

theorem accepted_of_exec (call : Call) (db : Db) (ok : call.accepted db = true) :
    Accepted call.ctx db call.operation (call.exec db).1 := by
  rcases exec_outcome call db with ⟨-, refusal, error⟩ | accepted
  · simp [Call.accepted, error] at ok
  · exact accepted

end Requests

end ErpBackend.Consignments
