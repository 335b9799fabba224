import ErpBackend.Foundation.Arrivals
import ErpBackend.Returns.Decisions
import ErpBackend.Returns.Safety

/-!
# A decided return stays decided

Custody, investigation and charges check the return as they read it and then write on
the version the client sends, whatever the status is by then. A version that nobody can
have seen yet may be that of the decision. Approval and refusal swap on the status too.
-/

namespace ErpBackend.Returns

open Foundation Inventory

def Decided (row : ReturnRequest) : Prop := pending row.status = false

def adjustmentsFor (db : Db) (id : Id) : List ReturnAdjustment :=
  db.returnAdjustments.filter (fun row => row.returnRequestId = id)

structure Kept (db db' : Db) (row row' : ReturnRequest) : Prop where
  status : row'.status = row.status
  custody : row'.custody = row.custody
  adjustments : adjustmentsFor db' row.id = adjustmentsFor db row.id

/-- What becomes of one return: its version grows with every change, and a decision stays. -/
structure Followed (db db' : Db) (row row' : ReturnRequest) : Prop where
  version : row.version ≤ row'.version
  same : row'.version = row.version →
    row' = row ∧ adjustmentsFor db' row.id = adjustmentsFor db row.id
  final : Decided row → Kept db db' row row'

structure Follows (db db' : Db) : Prop where
  absent : ∀ id, db.returnRequests.find? id = none → db'.returnRequests.find? id = none
  present : ∀ id row, db.returnRequests.find? id = some row →
    ∃ row', db'.returnRequests.find? id = some row' ∧ Followed db db' row row'

theorem Followed.refl (db db' : Db) (row : ReturnRequest)
    (same : adjustmentsFor db' row.id = adjustmentsFor db row.id) : Followed db db' row row :=
  ⟨Nat.le_refl _, fun _ => ⟨rfl, same⟩, fun _ => ⟨rfl, rfl, same⟩⟩

theorem Followed.trans {db db' db'' : Db} {row row' row'' : ReturnRequest}
    (key : row'.id = row.id) (first : Followed db db' row row')
    (second : Followed db' db'' row' row'') : Followed db db'' row row'' := by
  refine ⟨Nat.le_trans first.version second.version, ?_, ?_⟩
  · intro unmoved
    have between := first.version
    have after := second.version
    obtain ⟨rfl, left⟩ := first.same (by omega)
    obtain ⟨rfl, right⟩ := second.same (by omega)
    exact ⟨rfl, right.trans left⟩
  · intro decided
    have left := first.final decided
    have still : Decided row' := by
      unfold Decided
      rw [left.status]
      exact decided
    have right := second.final still
    refine ⟨right.status.trans left.status, right.custody.trans left.custody, ?_⟩
    rw [← left.adjustments, ← key]
    exact right.adjustments

variable {db db' : Db}

theorem Follows.of_same (requests : db'.returnRequests = db.returnRequests)
    (adjustments : db'.returnAdjustments = db.returnAdjustments) : Follows db db' := by
  refine ⟨fun id none => by rw [requests]; exact none, fun id row found => ⟨row, ?_, ?_⟩⟩
  · rw [requests]
    exact found
  · exact .refl db db' row (by unfold adjustmentsFor; rw [adjustments])

theorem Follows.refl (db : Db) : Follows db db := .of_same rfl rfl

theorem Follows.trans {db db' db'' : Db} (first : Follows db db') (second : Follows db' db'') :
    Follows db db'' := by
  refine ⟨fun id none => second.absent id (first.absent id none), ?_⟩
  intro id row found
  obtain ⟨row', found', left⟩ := first.present id row found
  obtain ⟨row'', found'', right⟩ := second.present id row' found'
  have key : row'.id = row.id :=
    (Table.key_of_find? _ _ _ found').trans (Table.key_of_find? _ _ _ found).symm
  exact ⟨row'', found'', left.trans key right⟩

theorem Follows.of_update {id : Id} {f : ReturnRequest → ReturnRequest}
    {row : ReturnRequest} (found : db.returnRequests.find? id = some row)
    (open' : pending row.status = true)
    (requests : db'.returnRequests = db.returnRequests.update id (bumped f) (bumped_id f))
    (others : ∀ other, other ≠ id → adjustmentsFor db' other = adjustmentsFor db other) :
    Follows db db' := by
  constructor
  · intro other none
    rw [requests, Table.find?_update]
    split
    · next same =>
      rw [same, found] at none
      cases none
    · exact none
  · intro other row' found'
    rw [requests, Table.find?_update_of_found _ _ _ _ _ _ found']
    refine ⟨_, rfl, ?_⟩
    split
    · next same =>
      rw [same, found] at found'
      cases found'
      refine ⟨Nat.le_succ _, fun unmoved => ?_, fun decided => ?_⟩
      · simp [bumped] at unmoved
      · unfold Decided at decided
        rw [open'] at decided
        cases decided
    · next apart =>
      have key : row'.id = other := Table.key_of_find? _ _ _ found'
      exact .refl db db' row' (others _ (by rw [key]; exact apart))

def decisions : Discipline Db Mark where
  inv _ := True
  guar _ := Follows
  rely _ := Follows
  rely_refl _ := .refl
  rely_trans _ _ _ _ first second := first.trans second

def Seen (db : Db) (id : Id) (expectedVersion : Nat) : Prop :=
  ∀ row, db.returnRequests.find? id = some row → expectedVersion ≤ row.version

theorem Seen.follows {id : Id} {expectedVersion : Nat}
    (seen : Seen db id expectedVersion) (follows : Follows db db') :
    Seen db' id expectedVersion := by
  intro row' found'
  rcases found : db.returnRequests.find? id with _ | row
  · rw [follows.absent id found] at found'
    cases found'
  · obtain ⟨after, present, followed⟩ := follows.present id row found
    rw [found'] at present
    cases present
    exact Nat.le_trans (seen row found) followed.version

/-- A version that was seen before the return was read is matched only by the return as
it was read. -/
theorem Seen.unmoved {id : Id} {expectedVersion : Nat}
    (seen : Seen db id expectedVersion) (follows : Follows db db') {row row' : ReturnRequest}
    (found : db.returnRequests.find? id = some row)
    (found' : db'.returnRequests.find? id = some row') (version : row'.version = expectedVersion) :
    row' = row ∧ adjustmentsFor db' id = adjustmentsFor db id := by
  obtain ⟨after, present, followed⟩ := follows.present id row found
  rw [found'] at present
  cases present
  have least := seen row found
  have most := followed.version
  have key : row.id = id := Table.key_of_find? _ _ _ found
  have same := followed.same (by omega)
  rw [key] at same
  exact same

section Rules

variable {β : Type} (db : Db)

theorem follows_read (query : Db → α) (f : α → Request β)
    (rest : ∀ db', Follows db db' → decisions.Safe (f (query db')) db') :
    decisions.Safe (Prog.read .other query >>= f) db := by
  apply decisions.safe_read
  intro db' follows _
  exact ⟨.refl db', rest db' follows⟩

theorem follows_commit (body : Db → Except Refusal Db) (f : Unit → Request β)
    (commits : ∀ db', Follows db db' → ∀ db'', body db' = .ok db'' → Follows db' db'')
    (rest : ∀ db', decisions.Safe (f ()) db') :
    decisions.Safe (Prog.commit .other body >>= f) db := by
  apply decisions.safe_commit
  · intro db' follows _ db'' done
    exact ⟨trivial, commits db' follows db'' done, rest db''⟩
  · exact fun db' => .refl db'

theorem follows_load (ctx : Ctx) (branchId id : Id) (f : LoadedReturn → Request β)
    (rest : ∀ loaded db', Follows db db' → db'.returnRequests.find? id = some loaded.request →
      decisions.Safe (f loaded) db') : decisions.Safe (load ctx branchId id >>= f) db := by
  unfold load
  rw [Prog.bind_assoc]
  apply follows_read
  intro db' follows
  apply decisions.safe_expect
  intro loaded found
  exact rest loaded db' follows ((findReturn_some _ _ _ _ _).mp found).1

theorem follows_detail (first : Lookup RefundPayout) (ctx : Ctx) (id : Id) :
    decisions.Safe (detail first ctx id) db := by
  unfold detail
  apply decisions.safe_expect
  intro branchId _
  apply follows_load
  intro loaded db' _ _
  apply follows_read
  intro _ _
  apply follows_read
  intro _ _
  apply follows_read
  intro _ _
  exact decisions.safe_pure _ _

theorem follows_recompute (companyId branchId : Id) (day : Day) (now : Time) (rollupId : Id)
    (f : Unit → Request β) (rest : ∀ db', decisions.Safe (f ()) db') :
    decisions.Safe (Analytics.recomputeDaily .other companyId branchId day now rollupId >>= f)
      db := by
  unfold Analytics.recomputeDaily
  simp only [Prog.bind_assoc]
  iterate 5
    apply follows_read
    intro _ _
  apply follows_commit
  · intro db₁ _ db₂ done
    obtain ⟨dailyRollups, rfl⟩ := Analytics.upsertRollup_ok _ _ _ _ _ _ _ _ done
    exact .of_same rfl rfl
  · exact rest

end Rules

theorem follows_of_swap {companyId id : Id} {expectedVersion : Nat}
    {status : Option ReturnStatus} {f : ReturnRequest → ReturnRequest} {db moved db' : Db}
    (swapped : swapRequest companyId id expectedVersion status f db = .ok moved)
    (open' : ∀ row, db.returnRequests.find? id = some row → row.version = expectedVersion →
      (∀ expected ∈ status, row.status = expected) → pending row.status = true)
    (requests : db'.returnRequests = moved.returnRequests)
    (others : ∀ other, other ≠ id → adjustmentsFor db' other = adjustmentsFor moved other) :
    Follows db db' := by
  obtain ⟨row, found, -, version, expected, rfl⟩ := (swapRequest_ok _ _ _ _ _ _ _).mp swapped
  exact .of_update found (open' row found version expected) requests others

theorem follows_of_placed {companyId id unitId : Id} {expectedVersion : Nat}
    {status : Option ReturnStatus} {f : ReturnRequest → ReturnRequest} {source target : UnitStatus}
    {db moved db' : Db}
    (swapped : swapRequest companyId id expectedVersion status f db = .ok moved)
    (open' : ∀ row, db.returnRequests.find? id = some row → row.version = expectedVersion →
      (∀ expected ∈ status, row.status = expected) → pending row.status = true)
    (placed : moveUnitForCustody companyId unitId source target moved = .ok db') :
    Follows db db' := by
  obtain ⟨-, unit, -, -, -, rfl⟩ := moveUnitForCustody_ok _ _ _ _ _ _ placed
  exact follows_of_swap swapped open' rfl (fun _ _ => rfl)

theorem Seen.pending {id : Id} {expectedVersion : Nat} {request : ReturnRequest}
    (seen : Seen db id expectedVersion) (follows : Follows db db')
    (found : db.returnRequests.find? id = some request)
    (editable : assertEditable request.status = .ok ()) (row : ReturnRequest)
    (found' : db'.returnRequests.find? id = some row) (version : row.version = expectedVersion) :
    pending row.status = true := by
  obtain ⟨rfl, -⟩ := seen.unmoved follows found found' version
  exact assertEditable_ok _ editable

theorem adjustmentsFor_delete (db : Db) (adjustment : ReturnAdjustment) (other : Id)
    (stored : adjustment ∈ db.returnAdjustments.rows) (apart : other ≠ adjustment.returnRequestId) :
    (db.returnAdjustments.delete (fun row => row.id = adjustment.id)).filter
      (fun row => row.returnRequestId = other) = adjustmentsFor db other := by
  unfold adjustmentsFor Table.filter Table.delete
  rw [List.filter_filter]
  apply List.filter_congr
  intro row member
  by_cases same : row.id = adjustment.id
  · obtain rfl := db.returnAdjustments.key_injective row adjustment member stored same
    simp [apart.symm]
  · simp [same]

section Requests

variable (first : Lookup RefundPayout) (ctx : Ctx) (db : Db)

theorem receiveCustody_follows (id : Id) (dto : ReceiveCustodyDto)
    (seen : Seen db id dto.expectedVersion) :
    decisions.Safe (receiveCustody first ctx id dto) db := by
  unfold receiveCustody
  apply decisions.safe_expect
  intro branchId _
  apply follows_load
  intro loaded db' follows found
  have key : loaded.request.id = id := Table.key_of_find? _ _ _ found
  apply decisions.safe_liftExcept
  intro _ editable
  apply decisions.safe_liftExcept
  intro needed _
  split
  · apply decisions.safe_require
    intro _
    apply follows_commit
    · intro db₁ later db₂ done
      obtain ⟨moved, swapped, placed⟩ := (except_bind_ok _ _ _).mp done
      rw [key] at swapped
      exact follows_of_placed swapped (fun row present version _ =>
        (seen.follows follows).pending later found editable row present version) placed
    · exact fun db₂ => follows_detail db₂ first ctx id
  · exact follows_detail db' first ctx id

theorem investigate_follows (id : Id) (dto : InvestigateDto)
    (seen : Seen db id dto.expectedVersion) :
    decisions.Safe (investigate first ctx id dto) db := by
  unfold investigate
  apply decisions.safe_expect
  intro branchId _
  apply follows_load
  intro loaded db' follows found
  have key : loaded.request.id = id := Table.key_of_find? _ _ _ found
  apply decisions.safe_liftExcept
  intro _ editable
  apply decisions.safe_require
  intro _
  apply decisions.safe_liftExcept
  intro _ _
  apply follows_commit
  · intro db₁ later db₂ swapped
    rw [key] at swapped
    exact follows_of_swap swapped (fun row present version _ =>
      (seen.follows follows).pending later found editable row present version) rfl (fun _ _ => rfl)
  · exact fun db₂ => follows_detail db₂ first ctx id

theorem addAdjustment_follows (id adjustmentId : Id) (dto : AdjustmentDto)
    (seen : Seen db id dto.expectedVersion) :
    decisions.Safe (addAdjustment first ctx id adjustmentId dto) db := by
  unfold addAdjustment
  apply decisions.safe_expect
  intro branchId _
  apply follows_load
  intro loaded db' follows found
  have key : loaded.request.id = id := Table.key_of_find? _ _ _ found
  apply decisions.safe_liftExcept
  intro _ editable
  apply decisions.safe_liftExcept
  intro totalAmount _
  apply follows_read
  intro db₀ between
  apply decisions.safe_liftExcept
  intro _ _
  apply follows_commit
  · intro db₁ later db₂ done
    obtain ⟨moved, swapped, added⟩ := (except_bind_ok _ _ _).mp done
    rw [key] at swapped
    obtain ⟨returnAdjustments, inserted, rfl⟩ := insertAdjustment_ok _ _ _ added
    refine follows_of_swap swapped (fun row present version _ =>
      (seen.follows follows).pending (between.trans later) found editable row present version) rfl
        ?_
    intro other apart
    obtain ⟨rows, -⟩ := Table.insert?_some _ _ _ inserted
    unfold adjustmentsFor Table.filter
    rw [rows, List.filter_append]
    simp [key, apart.symm]
  · exact fun db₂ => follows_detail db₂ first ctx id

theorem removeAdjustment_follows (id adjustmentId : Id) (expectedVersion : Nat)
    (seen : Seen db id expectedVersion) :
    decisions.Safe (removeAdjustment first ctx id adjustmentId expectedVersion) db := by
  unfold removeAdjustment
  apply decisions.safe_expect
  intro branchId _
  apply follows_load
  intro loaded db' follows found
  have key : loaded.request.id = id := Table.key_of_find? _ _ _ found
  apply decisions.safe_liftExcept
  intro _ editable
  apply follows_read
  intro db₀ between
  apply decisions.safe_expect
  intro adjustment listed
  obtain ⟨stored, scope⟩ := Option.filter_eq_some_iff.mp listed
  have mine : adjustment.returnRequestId = id := (of_decide_eq_true scope).2.trans key
  apply follows_commit
  · intro db₁ later db₂ done
    obtain ⟨moved, swapped, dropped⟩ := (except_bind_ok _ _ _).mp done
    cases dropped
    rw [key] at swapped
    refine follows_of_swap swapped (fun row present version _ =>
      (seen.follows follows).pending (between.trans later) found editable row present version) rfl
        ?_
    intro other apart
    obtain ⟨row, present, -, version, -, rfl⟩ := (swapRequest_ok _ _ _ _ _ _ _).mp swapped
    -- the version matched, so the charge is still one of this return
    obtain ⟨row₀, found₀, -⟩ := between.present id loaded.request found
    obtain ⟨-, standing⟩ := ((seen.follows follows).follows between).unmoved later found₀ present
      version
    have listed' : adjustment ∈ adjustmentsFor db₁ id := by
      rw [standing]
      exact List.mem_filter.mpr ⟨Table.mem_of_find? _ _ _ stored, decide_eq_true mine⟩
    exact adjustmentsFor_delete db₁ adjustment other (List.mem_filter.mp listed').1
      (by rw [mine]; exact apart)
  · exact fun db₂ => follows_detail db₂ first ctx id

theorem approve_follows (has : Permission → Bool) (ids : ApprovalIds) (id : Id)
    (dto : ApproveReturnDto) : decisions.Safe (approve first ctx has ids id dto) db := by
  unfold approve
  apply decisions.safe_expect
  intro branchId _
  apply follows_load
  intro loaded db' _ _
  apply decisions.safe_liftExcept
  intro _ editable
  apply decisions.safe_liftExcept
  intro _ _
  apply decisions.safe_require
  intro _
  apply decisions.safe_liftExcept
  intro isException _
  apply follows_read
  intro _ _
  apply decisions.safe_liftExcept
  intro settled _
  apply follows_read
  intro _ _
  apply decisions.safe_require
  intro _
  apply follows_commit
  · intro db₁ _ db₂ done
    obtain ⟨moved, swapped, done⟩ := (except_bind_ok _ _ _).mp done
    obtain ⟨reversed, recorded, placed⟩ := (except_bind_ok _ _ _).mp done
    obtain ⟨-, -, -, -, returnReversals, -, rfl⟩ := insertReversal_ok _ _ _ recorded
    obtain ⟨-, unit, -, -, -, rfl⟩ := moveUnitForCustody_ok _ _ _ _ _ _ placed
    refine follows_of_swap swapped ?_ rfl (fun _ _ => rfl)
    intro row _ _ expected
    rw [expected _ rfl]
    exact assertEditable_ok _ editable
  · intro db₂
    apply follows_recompute
    exact fun db₃ => follows_detail db₃ first ctx id

theorem reject_follows (id : Id) (dto : RejectReturnDto) :
    decisions.Safe (reject first ctx id dto) db := by
  unfold reject
  apply decisions.safe_expect
  intro branchId _
  apply follows_load
  intro loaded db' _ _
  apply decisions.safe_liftExcept
  intro _ editable
  apply decisions.safe_liftExcept
  intro _ _
  apply decisions.safe_require
  intro _
  apply follows_commit
  · intro db₁ _ db₂ done
    obtain ⟨moved, swapped, placed⟩ := (except_bind_ok _ _ _).mp done
    have open' : ∀ row, db₁.returnRequests.find? loaded.request.id = some row →
        row.version = dto.expectedVersion →
        (∀ expected ∈ some loaded.request.status, row.status = expected) →
        pending row.status = true := by
      intro row _ _ expected
      rw [expected _ rfl]
      exact assertEditable_ok _ editable
    split at placed
    · exact follows_of_placed swapped open' placed
    · cases placed
      exact follows_of_swap swapped open' rfl (fun _ _ => rfl)
  · exact fun db₂ => follows_detail db₂ first ctx id

end Requests

/-- The six requests, with versions that `versions` lets through. -/
inductive Handling (first : Lookup RefundPayout) (versions : Id → Nat → Prop) :
    Request ReturnDetail → Prop
  | receiveCustody (ctx : Ctx) (id : Id) (dto : ReceiveCustodyDto)
      (version : versions id dto.expectedVersion) :
      Handling first versions (receiveCustody first ctx id dto)
  | investigate (ctx : Ctx) (id : Id) (dto : InvestigateDto)
      (version : versions id dto.expectedVersion) :
      Handling first versions (investigate first ctx id dto)
  | addAdjustment (ctx : Ctx) (id adjustmentId : Id) (dto : AdjustmentDto)
      (version : versions id dto.expectedVersion) :
      Handling first versions (addAdjustment first ctx id adjustmentId dto)
  | removeAdjustment (ctx : Ctx) (id adjustmentId : Id) (expectedVersion : Nat)
      (version : versions id expectedVersion) :
      Handling first versions (removeAdjustment first ctx id adjustmentId expectedVersion)
  | approve (ctx : Ctx) (has : Permission → Bool) (ids : ApprovalIds) (id : Id)
      (dto : ApproveReturnDto) : Handling first versions (approve first ctx has ids id dto)
  | reject (ctx : Ctx) (id : Id) (dto : RejectReturnDto) :
      Handling first versions (reject first ctx id dto)

theorem Handling.follows {first : Lookup RefundPayout} {db : Db} {p : Request ReturnDetail}
    (handling : Handling first (Seen db) p) : decisions.Safe p db := by
  cases handling with
  | receiveCustody ctx id dto seen => exact receiveCustody_follows first ctx db id dto seen
  | investigate ctx id dto seen => exact investigate_follows first ctx db id dto seen
  | addAdjustment ctx id adjustmentId dto seen =>
      exact addAdjustment_follows first ctx db id adjustmentId dto seen
  | removeAdjustment ctx id adjustmentId expectedVersion seen =>
      exact removeAdjustment_follows first ctx db id adjustmentId expectedVersion seen
  | approve ctx has ids id dto => exact approve_follows first ctx db has ids id dto
  | reject ctx id dto => exact reject_follows first ctx db id dto

/-- What is decided keeps its status, its custody and its charges. -/
def Final (db db' : Db) : Prop :=
  ∀ row ∈ db.returnRequests.rows, Decided row →
    ∃ row' ∈ db'.returnRequests.rows, row'.id = row.id ∧ Kept db db' row row'

theorem Follows.decided (follows : Follows db db') : Final db db' := by
  intro row member decided
  have found : db.returnRequests.find? row.id = some row :=
    (Table.find?_some _ _ _).mpr ⟨member, rfl⟩
  obtain ⟨row', found', followed⟩ := follows.present row.id row found
  obtain ⟨present, key⟩ := (Table.find?_some _ _ _).mp found'
  exact ⟨row', present, key, followed.final decided⟩

theorem handling_follows {first : Lookup RefundPayout} {c c' : Config Db Mark Refusal ReturnDetail}
    (run : AdmittedRun (fun db => Handling first (Seen db)) c c') (sound : decisions.Sound c) :
    decisions.Sound c' ∧ Follows c.store c'.store := by
  refine decisions.admitted_keeps (fun db => Handling first (Seen db)) ?_ ?_ Follows Follows.refl
    ?_ ?_ run sound
  · exact fun _ _ handling _ => handling.follows
  · exact fun _ _ _ _ _ follows => follows
  · exact fun _ _ _ => Follows.trans
  · exact fun _ _ _ follows => follows

/-- As long as clients send versions that can have been seen, a decision is final. -/
theorem decided_for_good (first : Lookup RefundPayout) (db : Db)
    (c c' : Config Db Mark Refusal ReturnDetail)
    (run : AdmittedRun (fun db => Handling first (Seen db)) (.idle db) c)
    (later : AdmittedRun (fun db => Handling first (Seen db)) c c') :
    Final c.store c'.store :=
  (handling_follows later (handling_follows run (decisions.sound_idle db trivial)).1).2.decided

/-- Refused at version 1 while an investigation that sends this version is on its way. -/
def refusedMeanwhile (version : Nat) : List (Move Db Mark Refusal ReturnDetail) :=
  [.arrive (investigate .oldest ⟨10, some 1, some 7, 2000⟩ 500 { expectedVersion := version }),
    .advance 0,
    .arrive (reject .oldest ⟨10, some 1, some 8, 2000⟩ 500 ⟨1, "water damage"⟩),
    .advance 1, .advance 1]

def atHome : Db := shopWith (broughtBack .customerHolds)

theorem atHome_seen : Seen atHome 500 1 := by
  intro row found
  obtain rfl : (broughtBack .customerHolds).request = row := by
    have stored : atHome.returnRequests.find? 500 = some (broughtBack .customerHolds).request := by
      decide
    exact Option.some.inj (stored.symm.trans found)
  decide

theorem decided_for_good_refused :
    ((Config.idle atHome).schedule (refusedMeanwhile 1)).store.returnRequests.rows.map
        ReturnRequest.status = [.rejected] ∧
      Final ((Config.idle atHome).schedule (refusedMeanwhile 1)).store
        (((Config.idle atHome).schedule (refusedMeanwhile 1)).schedule [.advance 0]).store := by
  refine ⟨by decide +kernel, decided_for_good .oldest atHome _ _ ?_ ?_⟩
  · refine admitted_schedule _ _ _ ⟨.investigate _ _ _ atHome_seen, .reject _ _ _, ?_⟩
    exact welcomes_advances _ _ [.advance 1, .advance 1] (by simp)
  · exact admitted_schedule _ _ _ (welcomes_advances _ _ [.advance 0] (by simp))

theorem decision_undone :
    ¬ ∀ (first : Lookup RefundPayout) (db : Db) (c c' : Config Db Mark Refusal ReturnDetail),
      AdmittedRun (fun _ => Handling first (fun _ _ => True)) (.idle db) c →
      AdmittedRun (fun _ => Handling first (fun _ _ => True)) c c' →
      Final c.store c'.store := by
  intro claim
  let c := (Config.idle atHome).schedule (refusedMeanwhile 2)
  have run : AdmittedRun (fun _ => Handling .oldest (fun _ _ => True)) (.idle atHome) c := by
    refine admitted_schedule _ _ _ ⟨.investigate _ _ _ trivial, .reject _ _ _, ?_⟩
    exact welcomes_advances _ _ [.advance 1, .advance 1] (by simp)
  have later : AdmittedRun (fun _ => Handling .oldest (fun _ _ => True)) c
      (c.schedule [.advance 0]) :=
    admitted_schedule _ _ _ (welcomes_advances _ _ [.advance 0] (by simp))
  have decided : c.store.returnRequests.rows.map (fun row => (row.id, row.status)) =
      [(500, .rejected)] := by decide +kernel
  have undone : (c.schedule [.advance 0]).store.returnRequests.rows.map ReturnRequest.status =
      [.underReview] := by decide +kernel
  obtain ⟨row, rows, fields⟩ := List.map_eq_singleton_iff.mp decided
  obtain ⟨-, status⟩ := Prod.mk.inj fields
  have final := claim .oldest atHome c _ run later row (by simp [rows])
    (by unfold Decided; rw [status]; rfl)
  obtain ⟨row', member, -, kept⟩ := final
  obtain ⟨other, rows', open'⟩ := List.map_eq_singleton_iff.mp undone
  rw [rows', List.mem_singleton] at member
  have same := kept.status
  rw [member, open', status] at same
  cases same

end ErpBackend.Returns
