import ErpBackend.Consignment.Enabled
import ErpBackend.Consignment.Receivable
import ErpBackend.Sales.Effects
import ErpBackend.Transfers.Transactions

/-!
# Phones out on consignment

A phone is `consigned_out` exactly while one open line names it, whatever
consignments, sales and transfers do. A terminal consignment has no open line
as long as every report of sales takes all the phones in custody.
-/

namespace ErpBackend.Consignments

open Foundation Inventory

/-- The phones out are those that open lines name, one line each. -/
structure Out (db : Db) : Prop where
  exact : ∀ unitId, consigned db unitId = true ↔
    ∃ line ∈ db.consignmentLines.rows, line.open = true ∧ line.unitId = unitId
  single : ∀ line ∈ db.consignmentLines.rows, ∀ other ∈ db.consignmentLines.rows,
    line.open = true → other.open = true → line.unitId = other.unitId → line = other

theorem Out.congr {db db' : Db} (out : Out db)
    (lines : db'.consignmentLines = db.consignmentLines) (units : consigned db' = consigned db) :
    Out db' := by
  constructor
  · intro unitId
    rw [lines, units]
    exact out.exact unitId
  · rw [lines]
    exact out.single

theorem Out.relabel {db : Db} (out : Out db) (p : ConsignmentLine → Bool)
    (f : ConsignmentLine → ConsignmentLine) (keep : ∀ line, (f line).id = line.id)
    (same : ∀ line, p line = true → (f line).open = line.open ∧ (f line).unitId = line.unitId) :
    Out { db with consignmentLines := db.consignmentLines.modify p f keep } := by
  have image : ∀ line, (if p line then f line else line).open = line.open ∧
      (if p line then f line else line).unitId = line.unitId := by
    intro line
    split
    · next touched => exact same line touched
    · exact ⟨rfl, rfl⟩
  constructor
  · intro unitId
    refine (out.exact unitId).trans ?_
    simp only [Table.mem_modify]
    constructor
    · rintro ⟨line, member, isOpen, named⟩
      exact ⟨_, ⟨line, member, rfl⟩, by rw [(image line).1]; exact isOpen,
        by rw [(image line).2]; exact named⟩
    · rintro ⟨_, ⟨line, member, rfl⟩, isOpen, named⟩
      rw [(image line).1] at isOpen
      rw [(image line).2] at named
      exact ⟨line, member, isOpen, named⟩
  · intro line member other present isOpen otherOpen named
    obtain ⟨before, inside, rfl⟩ := (Table.mem_modify _ p f keep _).mp member
    obtain ⟨before', inside', rfl⟩ := (Table.mem_modify _ p f keep _).mp present
    rw [(image before).1] at isOpen
    rw [(image before').1] at otherOpen
    rw [(image before).2, (image before').2] at named
    rw [out.single before inside before' inside' isOpen otherOpen named]

variable (db : Db)

theorem consigned_modify (p : StockUnit → Bool) (g : StockUnit → StockUnit)
    (keep : ∀ unit, (g unit).id = unit.id) (unitId : Id) :
    consigned { db with units := db.units.modify p g keep } unitId =
      (db.units.find? unitId).any (fun unit =>
        (if p unit then g unit else unit).status = .consignedOut) := by
  unfold consigned
  rw [Table.find?_modify, Option.any_map]

theorem Out.close {db : Db} (out : Out db) (lines : List ConsignmentLine)
    (f : ConsignmentLine → ConsignmentLine) (keepLine : ∀ line, (f line).id = line.id)
    (g : StockUnit → StockUnit) (keepUnit : ∀ unit, (g unit).id = unit.id)
    (again : ∀ line, f (f line) = f line) (leaves : ∀ unit, (g unit).status ≠ .consignedOut)
    (closes : ∀ line, (f line).open = false)
    (open' : ∀ line ∈ lines, line ∈ db.consignmentLines.rows ∧ line.open = true) :
    Out (closeLines f keepLine g keepUnit db lines) := by
  rw [closeLines_eq f keepLine g keepUnit again leaves]
  have remains : ∀ line, line.open = true → (line ∈ (db.consignmentLines.modify
      (fun line => line.id ∈ lines.map ConsignmentLine.id) f keepLine).rows ↔
        line ∈ db.consignmentLines.rows ∧ line ∉ lines) := by
    intro line isOpen
    rw [Table.mem_modify]
    constructor
    · rintro ⟨before, present, image⟩
      split at image
      · rw [← image, closes before] at isOpen
        cases isOpen
      · next untouched =>
        subst image
        refine ⟨present, fun member => untouched ?_⟩
        exact decide_eq_true (List.mem_map_of_mem member)
    · rintro ⟨present, outside⟩
      refine ⟨line, present, if_neg ?_⟩
      intro selected
      obtain ⟨named, member, same⟩ := List.mem_map.mp (of_decide_eq_true selected)
      have equal := db.consignmentLines.key_injective named line (open' named member).1 present same
      exact outside (equal ▸ member)
  constructor
  · intro unitId
    have after : consigned
        { db with
          units := db.units.modify (fun unit =>
            unit.id ∈ lines.map ConsignmentLine.unitId ∧ unit.status = .consignedOut) g keepUnit
          consignmentLines := db.consignmentLines.modify
            (fun line => line.id ∈ lines.map ConsignmentLine.id) f keepLine } unitId = true ↔
        consigned db unitId = true ∧ unitId ∉ lines.map ConsignmentLine.unitId := by
      refine (iff_of_eq (congrArg (· = true) (consigned_modify db _ g keepUnit unitId))).trans ?_
      unfold consigned
      rcases found : db.units.find? unitId with _ | unit
      · simp
      · have keyed := db.units.key_of_find? unitId unit found
        by_cases status : unit.status = .consignedOut
        · by_cases named : unitId ∈ lines.map ConsignmentLine.unitId
          · simp only [Option.any_some, keyed, named, status, and_self, decide_true, if_true]
            simp [leaves]
          · simp only [Option.any_some, keyed, named, false_and, decide_false, Bool.false_eq_true,
              if_false, status, decide_true, not_false_eq_true, and_self]
        · simp [status]
    rw [after, out.exact unitId]
    constructor
    · rintro ⟨⟨line, member, isOpen, named⟩, outside⟩
      refine ⟨line, (remains line isOpen).mpr ⟨member, fun listed => outside ?_⟩, isOpen, named⟩
      exact named ▸ List.mem_map_of_mem listed
    · rintro ⟨line, member, isOpen, named⟩
      obtain ⟨present, outside⟩ := (remains line isOpen).mp member
      refine ⟨⟨line, present, isOpen, named⟩, fun listed => outside ?_⟩
      obtain ⟨other, inside, same⟩ := List.mem_map.mp listed
      obtain ⟨otherPresent, otherOpen⟩ := open' other inside
      rw [out.single line present other otherPresent isOpen otherOpen (named.trans same.symm)]
      exact inside
  · intro line member other present isOpen otherOpen named
    exact out.single line ((remains line isOpen).mp member).1 other
      ((remains other otherOpen).mp present).1 isOpen otherOpen named

theorem Out.claim {db db' : Db} (out : Out db) (me branchId consignmentId lineId unitId : Id)
    (done : claimUnit me branchId consignmentId lineId unitId db = .ok db') : Out db' := by
  obtain ⟨unit, found, -, free, lines, rows, rfl⟩ := claimUnit_ok _ _ _ _ _ _ _ done
  have keyed : unit.id = unitId := db.units.key_of_find? unitId unit found
  constructor
  · intro other
    simp only [rows, List.mem_append, List.mem_singleton, consigned, Table.find?_update]
    by_cases same : other = unitId
    · subst same
      simp only [if_true, found, Option.map_some, Option.any_some, decide_true, true_iff]
      exact ⟨_, .inr rfl, rfl, keyed⟩
    · rw [if_neg same]
      refine (out.exact other).trans ⟨?_, ?_⟩
      · rintro ⟨line, member, isOpen, named⟩
        exact ⟨line, .inl member, isOpen, named⟩
      · rintro ⟨line, old | rfl, isOpen, named⟩
        · exact ⟨line, old, isOpen, named⟩
        · exact absurd (named.symm.trans keyed) same
  · intro line member other present isOpen otherOpen named
    rw [rows, List.mem_append, List.mem_singleton] at member present
    rcases member with old | rfl
    · rcases present with older | rfl
      · exact out.single line old other older isOpen otherOpen named
      · exact absurd (named.trans keyed) (free line old isOpen)
    · rcases present with older | rfl
      · exact absurd (named.symm.trans keyed) (free other older otherOpen)
      · rfl

theorem Out.claims {db db' : Db} (out : Out db) (me branchId consignmentId : Id)
    (lineIds : Nat → Id) (index : Nat) (unitIds : List Id)
    (done : claimUnits me branchId consignmentId lineIds index unitIds db = .ok db') :
    Out db' := by
  induction unitIds generalizing index db with
  | nil =>
      cases done
      exact out
  | cons unitId rest ih =>
      unfold claimUnits at done
      split at done
      · cases done
      · next claimed first => exact ih (out.claim _ _ _ _ _ first) (index + 1) done

theorem linesOf_mem (id : Id) (line : ConsignmentLine) (member : line ∈ linesOf db id) :
    line ∈ db.consignmentLines.rows :=
  ((Table.mem_filter _ _ _).mp member).1

theorem settled_frame (now : Time) (db : Db) (id : Id) (status : ConsignmentStatus) :
    ∃ consignments, settled now db id status = { db with consignments } := by
  unfold settled
  split
  · exact ⟨_, rfl⟩
  · exact ⟨_, rfl⟩

section Commits

variable (ctx : Ctx) {db db' : Db} (out : Out db)

include out

theorem Out.swap (c : Consignment) (f : Consignment → Consignment) (keep : ∀ c, (f c).id = c.id)
    (message : String) (done : swapConsignment db c f keep message = .ok db') : Out db' := by
  rw [swapConsignment_ok db db' c _ _ _ done]
  exact out.congr rfl rfl

theorem Out.entry (entry : ConsignmentLedgerEntry) (done : insertEntry db entry = .ok db') :
    Out db' := by
  obtain ⟨-, -, ledger, stored, -⟩ := insertEntry_ok _ db' _ done
  rw [stored]
  exact out.congr rfl rfl

theorem Out.settle (now : Time) (id : Id) (status : ConsignmentStatus) :
    Out (settled now db id status) := by
  obtain ⟨consignments, equal⟩ := settled_frame now db id status
  rw [equal]
  exact out.congr rfl rfl

theorem Out.proposal (fresh branchId : Id) (lineIds : Nat → Id) (dto : CreateConsignmentDto)
    (counterparty : Counterparty)
    (committed : commitProposal ctx fresh branchId lineIds dto counterparty db = .ok db') :
    Out db' := by
  unfold commitProposal at committed
  split at committed
  · cases committed
  · next inserted first =>
    obtain ⟨-, consignments, -, rfl⟩ := insertConsignment_ok db inserted _ first
    have started : Out { db with consignments } := out.congr rfl rfl
    exact started.claims _ _ _ _ _ _ committed

theorem Out.decision (dto : DecideConsignmentDto) (c : Consignment) (next : ConsignmentStatus)
    (committed : commitDecision ctx dto c next db = .ok db') : Out db' := by
  unfold commitDecision at committed
  split at committed
  · cases committed
  · next swapped first =>
    have started := out.swap c _ _ _ first
    cases committed
    have released : Out (if next = .cancelled then releaseUnits swapped c.id else swapped) := by
      split
      · apply started.close
        · exact fun _ => rfl
        · exact fun _ => by simp
        · exact fun _ => by simp [ConsignmentLine.open]
        · intro line member
          obtain ⟨listed, isOpen⟩ := List.mem_filter.mp member
          exact ⟨linesOf_mem swapped c.id line listed, isOpen⟩
      · exact started
    split
    · exact released.relabel _ _ _ (fun _ _ => ⟨rfl, rfl⟩)
    · exact released

theorem Out.receipt (c : Consignment) (next : ConsignmentStatus)
    (committed : commitReceipt ctx c next db = .ok db') : Out db' := by
  unfold commitReceipt at committed
  split at committed
  · cases committed
  · split at committed
    · cases committed
    · next swapped first =>
      have started := out.swap c _ _ _ first
      cases committed
      apply started.relabel
      intro line selected
      have proposed := (of_decide_eq_true selected).2
      exact ⟨by simp [ConsignmentLine.open, proposed], rfl⟩

theorem Out.sale (fresh : Id) (dto : ReportSoldDto) (c : Consignment) (next : ConsignmentStatus)
    (committed : commitSold ctx fresh c next (selectLines dto (custodyLines db c.id)) db =
      .ok db') : Out db' := by
  unfold commitSold at committed
  split at committed
  · cases committed
  · next swapped first =>
    have equal := swapConsignment_ok db swapped c _ _ _ first
    have sold : Out (sellLines ctx.now swapped (selectLines dto (custodyLines db c.id))) := by
      apply (out.swap c _ _ _ first).close
      · exact fun _ => rfl
      · exact fun _ => by simp
      · exact fun _ => by simp [ConsignmentLine.open]
      · intro line member
        obtain ⟨listed, status⟩ := List.mem_filter.mp (mem_selectLines dto _ line member)
        rw [equal]
        exact ⟨linesOf_mem db c.id line listed, by
          simp [ConsignmentLine.open, of_decide_eq_true status]⟩
    exact sold.entry _ committed

theorem Out.return (dto : ReturnDto) (c : Consignment) (next : ConsignmentStatus)
    (committed : commitReturn ctx dto c next db = .ok db') : Out db' := by
  unfold commitReturn at committed
  split at committed
  · cases committed
  · next swapped first =>
    have started := out.swap c _ _ _ first
    split at committed
    · next found _ _ =>
      cases committed
      apply started.close
      · exact fun _ => rfl
      · exact fun _ => by cases found <;> simp
      · exact fun _ => by simp [ConsignmentLine.open]
      · intro line member
        obtain ⟨listed, status⟩ := List.mem_filter.mp member
        exact ⟨linesOf_mem swapped c.id line listed, by
          simp [ConsignmentLine.open, of_decide_eq_true status]⟩
    · cases committed
      exact started

theorem accepted_out (operation : Operation) (accepted : Accepted ctx db operation db') :
    Out db' := by
  cases accepted with
  | replay | repeated => exact out
  | create fresh lineIds dto branchId counterparty _ _ committed =>
      exact out.proposal ctx fresh branchId lineIds dto counterparty committed
  | decide id dto c side next _ _ _ _ _ committed => exact out.decision ctx dto c next committed
  | send id dto c side next _ _ _ committed => exact out.swap c _ _ _ committed
  | receive id dto c side next _ _ _ committed => exact out.receipt ctx c next committed
  | sold fresh id dto c side next _ _ _ _ committed =>
      exact out.sale ctx fresh dto c next committed
  | report fresh id dto c side entry _ _ inserted => exact out.entry entry inserted
  | confirm fresh id dto c side entry _ _ inserted =>
      exact (out.entry entry inserted).settle ctx.now c.id .settled
  | forgive fresh id dto c side entry _ _ _ inserted =>
      exact (out.entry entry inserted).settle ctx.now c.id .forgivenSettled
  | returns id dto c side next _ _ _ _ committed => exact out.return ctx dto c next committed

end Commits

variable (ctx : Ctx)

def AllSold (db : Db) : Prop :=
  ∀ id c, db.consignments.find? id = some c → reported c.status = true →
    ∀ line ∈ linesOf db id, line.status = .sold

theorem Becomes.allSold {db db' : Db} {id : Id} {c' : Consignment} {lines : List ConsignmentLine}
    {ledger : List ConsignmentLedgerEntry} (becomes : Becomes db db' id c' lines ledger)
    (allSold : AllSold db)
    (own : reported c'.status = true → ∀ line ∈ lines, line.status = .sold) : AllSold db' := by
  intro other c found late line member
  by_cases same : other = id
  · subst same
    rw [becomes.found] at found
    cases found
    rw [becomes.lines] at member
    exact own late line member
  · rw [becomes.elsewhere.consignments other same] at found
    rw [becomes.elsewhere.lines other same] at member
    exact allSold other c found late line member

def Operation.partSold (operation : Operation) (db : Db) : Bool :=
  match operation with
  | .reportSold _ id dto => selectLines dto (custodyLines db id) ≠ custodyLines db id
  | _ => false

theorem reported_restated (source : List ConsignmentStatus) (status : ConsignmentStatus)
    (settledAt : Option Time → Option Time) (c : Consignment)
    (late : reported (restated source status settledAt c).status = true)
    (sources : ∀ status ∈ source, reported status = true) : reported c.status = true := by
  unfold restated at late
  split at late
  · next member => exact sources _ member
  · exact late

theorem settled_allSold (db db₁ : Db) (c : Consignment)
    (entry : ConsignmentLedgerEntry) (status : ConsignmentStatus) (allSold : AllSold db)
    (found : db.consignments.find? c.id = some c) (own : entry.consignmentId = c.id)
    (inserted : insertEntry db entry = .ok db₁) :
    AllSold (settled ctx.now db₁ c.id status) := by
  have first := entry_becomes db db₁ c entry found own inserted
  have second := settled_becomes ctx.now db₁ c status first.found
  apply (first.trans second).allSold allSold
  intro late line member
  rw [first.lines] at member
  refine allSold c.id c found ?_ line member
  split at late
  · exact reported_restated _ _ _ c late (by simp [reported])
  · exact reported_restated _ _ _ c late (by simp [reported])

theorem accepted_allSold (db db' : Db) (operation : Operation) (kept : Kept db)
    (allSold : AllSold db) (accepted : Accepted ctx db operation db')
    (whole : operation.partSold db = false) : AllSold db' := by
  cases accepted with
  | replay | repeated => exact allSold
  | create fresh lineIds dto branchId counterparty _ nonempty committed =>
      obtain ⟨-, -, new, -, -, becomes⟩ :=
        proposal_becomes ctx fresh branchId lineIds dto counterparty db db' kept committed
      apply becomes.allSold allSold
      intro late
      cases late
  | decide id dto c side next _ reads counter moved offer committed =>
      have key := db.consignments.key_of_find? id c reads.found
      subst key
      obtain ⟨-, -, -, target⟩ := (assertTransition_ok _ _ _ _ _).mp moved
      apply (decide_becomes ctx dto c next db db' reads.found committed).allSold allSold
      intro late
      rw [target] at late
      cases action : dto.action <;>
        simp [decided, action, Decision.action, transitions, reported] at late
  | send id dto c side next _ reads moved committed =>
      have key := db.consignments.key_of_find? id c reads.found
      subst key
      obtain ⟨-, -, -, rfl⟩ := (assertTransition_ok _ _ _ _ _).mp moved
      apply (send_becomes ctx c _ db db' reads.found committed).allSold allSold
      intro late
      cases late
  | receive id dto c side next _ reads moved committed =>
      have key := db.consignments.key_of_find? id c reads.found
      subst key
      obtain ⟨-, -, -, rfl⟩ := (assertTransition_ok _ _ _ _ _).mp moved
      apply (receipt_becomes ctx c _ db db' reads.found committed).allSold allSold
      intro late
      cases late
  | sold fresh id dto c side next _ reads moved nonempty committed =>
      have key := db.consignments.key_of_find? id c reads.found
      subst key
      obtain ⟨source, -, -, -⟩ := (assertTransition_ok _ _ _ _ _).mp moved
      have status : c.status = .inCustody := by simpa [transitions] using source
      obtain ⟨-, amount, agreed⟩ := ((kept.standing c.id c reads.found).phase).held status
      have taken : selectLines dto (custodyLines db c.id) = custodyLines db c.id := by
        simpa [Operation.partSold] using whole
      rw [taken] at committed
      have own : ∀ line ∈ custodyLines db c.id, line ∈ linesOf db c.id :=
        fun line member => (List.mem_filter.mp member).1
      apply (sold_becomes ctx fresh c next _ db db' reads.found own committed).allSold allSold
      intro _ line member
      obtain ⟨before, present, rfl⟩ := List.mem_map.mp member
      have held : before ∈ custodyLines db c.id :=
        List.mem_filter.mpr ⟨present, decide_eq_true (agreed.lines before present).1⟩
      unfold lineSold
      rw [if_pos (List.mem_map_of_mem held)]
  | report fresh id dto c side entry _ reads inserted own kind fits =>
      have key := db.consignments.key_of_find? id c reads.found
      subst key
      apply (entry_becomes db db' c entry reads.found own inserted).allSold allSold
      exact allSold c.id c reads.found
  | confirm fresh id dto c side entry db₁ reads inserted own kind fits =>
      have key := db.consignments.key_of_find? id c reads.found
      subst key
      exact settled_allSold ctx db db₁ c entry .settled allSold reads.found own inserted
  | forgive fresh id dto c side entry db₁ reads source inserted own kind fits =>
      have key := db.consignments.key_of_find? id c reads.found
      subst key
      exact settled_allSold ctx db db₁ c entry .forgivenSettled allSold reads.found own inserted
  | returns id dto c side next _ reads moved condition committed =>
      have key := db.consignments.key_of_find? id c reads.found
      subst key
      obtain ⟨-, -, -, target⟩ := (assertTransition_ok _ _ _ _ _).mp moved
      apply (return_becomes ctx dto c next db db' reads.found committed).allSold allSold
      intro late
      rw [target] at late
      cases action : dto.action <;>
        simp [advanced, action, ReturnAction.action, transitions, reported] at late

theorem reportSold_answered (fresh id : Id) (dto : ReportSoldDto) (db : Db) :
    (Call.exec ⟨ctx, .reportSold fresh id dto⟩ db).1 = db ∨
      Call.accepted ⟨ctx, .reportSold fresh id dto⟩ db = true := by
  have answered : Prog.Ensures (reportSold ctx fresh id dto)
      (fun db' result => db' = db ∨ ∃ view, result = .ok view) db := by
    apply reportSold_ensures _ _ _ _ _ _ (fun _ => .inl rfl)
    intro c side next db' reads _ _ committed
    have key := db.consignments.key_of_find? id c reads.found
    subst key
    have becomes := sold_becomes ctx fresh c next _ db db' reads.found
      (fun line member => (List.mem_filter.mp (mem_selectLines dto _ line member)).1) committed
    have again : Reads ctx db' c.id (advanced next c) side := ⟨becomes.found, reads.side⟩
    obtain ⟨-, view, ok⟩ := grants_get ctx c.id db' _ side again
    exact .inr ⟨view, ok⟩
  rcases answered with same | ⟨view, ok⟩
  · exact .inl same
  · refine .inr ?_
    unfold Call.accepted Call.exec Call.program
    rw [ok]

structure Aside (db db' : Db) : Prop where
  untouched : Untouched db db'
  out : consigned db' = consigned db

theorem Aside.refl : Aside db db := ⟨⟨rfl, rfl, rfl⟩, rfl⟩

theorem createSale_aside (has : Permission → Bool) (ids : Sales.SaleIds)
    (dto : Sales.CreateSaleDto) (db : Db) :
    Prog.Ensures (Sales.createSale ctx has ids dto) (fun db' _ => Aside db db') db := by
  have refused : Aside db db := .refl db
  unfold Sales.createSale
  refine (Prog.ensures_expect _ db _ _ _).mpr ⟨fun branchId _ => ?_, fun _ => refused⟩
  refine (Prog.ensures_expect _ db _ _ _).mpr ⟨fun userId _ => ?_, fun _ => refused⟩
  rw [Prog.ensures_read]
  split
  · exact refused
  · refine (Prog.ensures_require _ db _ _ _).mpr ⟨fun _ => ?_, fun _ => refused⟩
    rw [Prog.ensures_read]
    refine (Prog.ensures_liftExcept _ db _ _).mpr ⟨fun draft _ => ?_, fun _ _ => refused⟩
    refine (Prog.ensures_transact _ db _ _ _).mpr ⟨fun db' sale done => ?_, fun _ _ => refused⟩
    have sold := Sales.writeSale_ok ctx branchId userId ids dto draft db db' sale
      ((except_mapError_ok _ _ _).mp done)
    refine ⟨?_, sold.out⟩
    obtain ⟨_, _, _, _, _, _, _, rfl⟩ := sold.frame
    exact ⟨rfl, rfl, rfl⟩

theorem recover_aside (companyId : Id) (dto : Transfers.CreateTransferDto)
    (lines : Transfers.NormalizedLines) (refusal : Refusal) (db : Db) :
    Prog.Ensures (Transfers.recover companyId dto lines refusal)
    (fun db' _ => Aside db db') db := by
  have refused : Aside db db := .refl db
  unfold Transfers.recover
  split
  · rw [Prog.ensures_read]
    refine (Prog.ensures_liftExcept _ db _ _).mpr ⟨fun winner _ => ?_, fun _ _ => refused⟩
    cases winner with
    | none => exact refused
    | some summary => exact refused
  · exact refused

theorem createTransfer_aside (has : Permission → Bool) (ids : Transfers.TransferIds)
    (dto : Transfers.CreateTransferDto) (db : Db) :
    Prog.Ensures (Transfers.create ctx has ids dto) (fun db' _ => Aside db db') db := by
  have refused : Aside db db := .refl db
  unfold Transfers.create
  refine (Prog.ensures_expect _ db _ _ _).mpr ⟨fun fromBranchId _ => ?_, fun _ => refused⟩
  refine (Prog.ensures_require _ db _ _ _).mpr ⟨fun _ => ?_, fun _ => refused⟩
  refine (Prog.ensures_liftExcept _ db _ _).mpr ⟨fun lines _ => ?_, fun _ _ => refused⟩
  rw [Prog.ensures_read]
  refine (Prog.ensures_liftExcept _ db _ _).mpr ⟨fun prior _ => ?_, fun _ _ => refused⟩
  cases prior with
  | some summary => exact refused
  | none =>
      dsimp only
      rw [Prog.ensures_read]
      refine (Prog.ensures_require _ db _ _ _).mpr ⟨fun _ => ?_, fun _ => refused⟩
      rw [Prog.ensures_read, Prog.ensures_read]
      refine (Prog.ensures_liftExcept _ db _ _).mpr ⟨fun planned _ => ?_, fun _ _ => refused⟩
      rw [Prog.ensures_read]
      refine (Prog.ensures_require _ db _ _ _).mpr ⟨fun _ => ?_, fun _ => refused⟩
      rw [Prog.ensures_read]
      refine (Prog.ensures_attempt _ db _ _ _).mpr
        ⟨fun db' summary done => ?_, fun refusal _ => recover_aside _ _ _ refusal db⟩
      obtain ⟨_, opens⟩ := Transfers.writeTransfer_opens _ _ _ _ _ _ db db' summary done
      refine ⟨?_, opens.out⟩
      obtain ⟨_, _, _, _, _, rfl⟩ := opens.frame
      exact ⟨rfl, rfl, rfl⟩

inductive Act where
  | consignment (call : Call)
  | sale (ctx : Ctx) (has : Permission → Bool) (ids : Sales.SaleIds) (dto : Sales.CreateSaleDto)
  | transfer (ctx : Ctx) (has : Permission → Bool) (ids : Transfers.TransferIds)
      (dto : Transfers.CreateTransferDto)

def Act.exec (act : Act) (db : Db) : Db :=
  match act with
  | .consignment call => (call.exec db).1
  | .sale ctx has ids dto => ((Sales.createSale ctx has ids dto).run db).1
  | .transfer ctx has ids dto => ((Transfers.create ctx has ids dto).run db).1

def perform (db : Db) (acts : List Act) : Db := acts.foldl (fun db act => act.exec db) db

/-- The request is not an accepted report of part of the phones in custody. -/
def Act.whole (act : Act) (db : Db) : Bool :=
  match act with
  | .consignment call => !(call.accepted db && call.operation.partSold db)
  | _ => true

def eachWhole : Db → List Act → Bool
  | _, [] => true
  | db, act :: rest => act.whole db && eachWhole (act.exec db) rest

variable (act : Act)

theorem Act.aside (db : Db) (foreign : ∀ call, act ≠ .consignment call) :
    Aside db (act.exec db) := by
  cases act with
  | consignment call => exact absurd rfl (foreign call)
  | sale ctx has ids dto => exact createSale_aside ctx has ids dto db
  | transfer ctx has ids dto => exact createTransfer_aside ctx has ids dto db

theorem act_out (db : Db) (out : Out db) : Out (act.exec db) := by
  by_cases own : ∃ call, act = .consignment call
  · obtain ⟨call, rfl⟩ := own
    show Out (call.exec db).1
    rcases exec_outcome call db with ⟨same, -⟩ | accepted
    · rw [same]
      exact out
    · exact accepted_out call.ctx out call.operation accepted
  · have aside := act.aside db (fun call same => own ⟨call, same⟩)
    exact out.congr aside.untouched.lines aside.out

theorem act_kept (db : Db) (kept : Kept db) : Kept (act.exec db) := by
  by_cases own : ∃ call, act = .consignment call
  · obtain ⟨call, rfl⟩ := own
    exact exec_kept call db kept
  · exact (act.aside db (fun call same => own ⟨call, same⟩)).untouched.kept kept

theorem partSold_unchanged (call : Call) (db : Db) (part : call.operation.partSold db = true)
    (whole : (Act.consignment call).whole db = true) : (call.exec db).1 = db := by
  obtain ⟨ctx, operation⟩ := call
  cases operation with
  | reportSold fresh id dto =>
      rcases reportSold_answered ctx fresh id dto db with same | ok
      · exact same
      · simp only [Act.whole, ok, part, Bool.and_self, Bool.not_true, Bool.false_eq_true] at whole
  | create fresh lineIds dto => cases part
  | decide id dto => cases part
  | custody id dto => cases part
  | payment fresh id dto => cases part
  | forgive fresh id dto => cases part
  | returnFlow id dto => cases part

theorem act_allSold (db : Db) (kept : Kept db) (allSold : AllSold db)
    (whole : act.whole db = true) : AllSold (act.exec db) := by
  by_cases own : ∃ call, act = .consignment call
  · obtain ⟨call, rfl⟩ := own
    show AllSold (call.exec db).1
    rcases exec_outcome call db with ⟨same, -⟩ | accepted
    · rw [same]
      exact allSold
    · cases part : call.operation.partSold db with
      | false => exact accepted_allSold call.ctx db _ call.operation kept allSold accepted part
      | true =>
          rw [partSold_unchanged call db part whole]
          exact allSold
  · obtain ⟨same, lines, -⟩ := (act.aside db (fun call same => own ⟨call, same⟩)).untouched
    intro id c found late line member
    rw [same] at found
    unfold linesOf at member
    rw [lines] at member
    exact allSold id c found late line member

theorem perform_kept (acts : List Act) (kept : Kept db) (out : Out db) :
    Kept (perform db acts) ∧ Out (perform db acts) := by
  induction acts generalizing db with
  | nil => exact ⟨kept, out⟩
  | cons act rest ih => exact ih (act.exec db) (act_kept act db kept) (act_out act db out)

theorem perform_allSold (acts : List Act) (kept : Kept db) (allSold : AllSold db)
    (whole : eachWhole db acts = true) : AllSold (perform db acts) := by
  induction acts generalizing db with
  | nil => exact allSold
  | cons act rest ih =>
      obtain ⟨first, later⟩ := (Bool.and_eq_true _ _).mp whole
      exact ih (act.exec db) (act_kept act db kept) (act_allSold act db kept allSold first) later

/-- A phone is out exactly when one line that is proposed or in custody names it. -/
def OutOnOneLine (db : Db) : Prop :=
  ∀ unit ∈ db.units.rows, unit.status = .consignedOut ↔
    ∃! line, line ∈ db.consignmentLines.rows ∧
      (line.status = .proposed ∨ line.status = .inCustody) ∧ line.unitId = unit.id

/-- No terminal consignment has a line that is proposed or in custody. -/
def TerminalClosed (db : Db) : Prop :=
  ∀ c ∈ db.consignments.rows, terminal c.status = true →
    ∀ line ∈ linesOf db c.id, line.status ≠ .proposed ∧ line.status ≠ .inCustody

theorem Out.onOneLine {db : Db} (out : Out db) : OutOnOneLine db := by
  intro unit member
  have found := (Table.find?_some db.units unit.id unit).mpr ⟨member, rfl⟩
  have status : consigned db unit.id = true ↔ unit.status = .consignedOut := by
    simp [consigned, found]
  rw [← status, out.exact]
  constructor
  · rintro ⟨line, present, isOpen, named⟩
    refine ⟨line, ⟨present, by simpa [ConsignmentLine.open] using isOpen, named⟩, ?_⟩
    rintro other ⟨inside, otherOpen, same⟩
    exact out.single other inside line present (by simpa [ConsignmentLine.open] using otherOpen)
      isOpen (same.trans named.symm)
  · rintro ⟨line, ⟨present, isOpen, named⟩, -⟩
    exact ⟨line, present, by simpa [ConsignmentLine.open] using isOpen, named⟩

theorem terminalClosed (kept : Kept db) (allSold : AllSold db) : TerminalClosed db := by
  intro c member ended line listed
  have found := (Table.find?_some db.consignments c.id c).mpr ⟨member, rfl⟩
  have phase := (kept.standing c.id c found).phase
  unfold Phase at phase
  cases status : c.status <;> simp only [status, terminal] at phase ended
  case settled | forgivenSettled =>
    have sold := allSold c.id c found (by rw [status]; rfl) line listed
    simp [sold]
  case returnedAccepted => simp [phase.2.1 line listed]
  case cancelled => simp [phase.1 line listed]
  all_goals simp at ended

/-- Phones and lines agree in every run. If no report of sales leaves phones in
custody, terminal consignments have no open line either. -/
theorem custody_agrees (start : Db) (empty : NoConsignments start)
    (home : ∀ unit ∈ start.units.rows, unit.status ≠ .consignedOut) (acts : List Act) :
    OutOnOneLine (perform start acts) ∧
      (eachWhole start acts = true → TerminalClosed (perform start acts)) := by
  have kept : Kept start := kept_of_empty start empty.consignments empty.lines empty.ledger
  have out : Out start := by
    constructor
    · intro unitId
      rw [empty.lines]
      rcases found : start.units.find? unitId with _ | unit
      · simp [consigned, found]
      · have here := home unit (Table.mem_of_find? _ _ _ found)
        simp [consigned, found, here]
    · rw [empty.lines]
      intro line member
      cases member
  have allSold : AllSold start := by
    intro id c found
    have member := Table.mem_of_find? _ _ _ found
    rw [empty.consignments] at member
    cases member
  obtain ⟨keptAfter, outAfter⟩ := perform_kept start acts kept out
  exact ⟨outAfter.onOneLine, fun whole =>
    terminalClosed _ keptAfter (perform_allSold start acts kept allSold whole)⟩

/-- Two phones are delivered, one is reported sold, and what is owed is forgiven. -/
def oneOfTwoSold : List Act :=
  (delivery [301, 302]).map Act.consignment ++
  [.consignment ⟨holder, .reportSold 400 100 { lineIds := some [200] }⟩,
    .consignment ⟨sender, .forgive 401 100 { amount := 50000, reason := "goodwill" }⟩]

def bothSold : List Act :=
  (delivery [301, 302]).map Act.consignment ++
  [.consignment ⟨holder, .reportSold 400 100 {}⟩,
    .consignment ⟨sender, .forgive 401 100 { amount := 100000, reason := "goodwill" }⟩]

theorem oneOfTwoSold_keeps_line :
    ¬ ∀ (start : Db) (acts : List Act), NoConsignments start →
      (∀ unit ∈ start.units.rows, unit.status ≠ .consignedOut) →
        OutOnOneLine (perform start acts) ∧ TerminalClosed (perform start acts) := by
  intro claim
  have closed := (claim shelf oneOfTwoSold shelf_noConsignments (by decide)).2
  have row : (perform shelf oneOfTwoSold).consignments.rows.map (fun c => (c.id, c.status)) =
      [(100, .forgivenSettled)] := by decide
  have left : ∃ line ∈ linesOf (perform shelf oneOfTwoSold) 100, line.status = .inCustody := by
    decide
  obtain ⟨c, member, same⟩ := List.mem_map.mp
    (row ▸ List.mem_singleton_self ((100, .forgivenSettled) : Id × ConsignmentStatus))
  obtain ⟨key, status⟩ := Prod.mk.inj same
  obtain ⟨line, listed, held⟩ := left
  exact (closed c member (by rw [status]; rfl) line (by rw [key]; exact listed)).2 held

theorem custody_agrees_bothSold :
    NoConsignments shelf ∧ (∀ unit ∈ shelf.units.rows, unit.status ≠ .consignedOut) ∧
      eachWhole shelf bothSold = true ∧
      (perform shelf bothSold).consignments.rows.map Consignment.status = [.forgivenSettled] ∧
      OutOnOneLine (perform shelf bothSold) ∧ TerminalClosed (perform shelf bothSold) := by
  have home : ∀ unit ∈ shelf.units.rows, unit.status ≠ .consignedOut := by decide
  have whole : eachWhole shelf bothSold = true := by decide
  obtain ⟨one, closed⟩ := custody_agrees shelf shelf_noConsignments home bothSold
  exact ⟨shelf_noConsignments, home, whole, by decide, one, closed whole⟩

end ErpBackend.Consignments
