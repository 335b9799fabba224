import ErpBackend.Returns.Liability

/-!
# A correction and its mark

An approval decides the correction with one statement and marks the payout with the
next. A request that stops in between leaves an approved correction whose payout still
stands in the way of a replacement.
-/

namespace ErpBackend.Returns

open Foundation Inventory

def Decides (id : Id) (db db' : Db) : Prop :=
  (∀ payoutId, ¬ Corrects db id payoutId) ∧ ∃ payoutId, Corrects db' id payoutId

def Unmarking (db db' : Db) : Prop :=
  ∀ id payout' k, db'.refundPayouts.find? id = some payout' → payout'.correctedById = some k →
    ∃ payout, db.refundPayouts.find? id = some payout ∧ payout.correctedById = some k

def Marking (id : Id) (db db' : Db) : Prop :=
  ∃ correction payoutId, db.financialCorrections.find? id = some correction ∧
    correction.status = .approved ∧ correction.targetRefundPayoutId = some payoutId ∧
    db' = Corrections.supersede correction.companyId id payoutId db

/-- A correction that becomes approved is marked next, and nothing else is. -/
def marksNext (m : Mark) (db db' : Db) (next : Option Mark) : Prop :=
  (∀ id, next = some (.supersede id) ↔ Decides id db db') ∧
    match m with
    | .supersede id => Marking id db db'
    | _ => Unmarking db db'

section Approving

variable {db db' : Db}

theorem Unmarking.refl (db : Db) : Unmarking db db := fun _ payout' _ found marked =>
  ⟨payout', found, marked⟩

theorem Movement.unmarking (moved : Movement False db db') : Unmarking db db' := by
  intro id payout' k found marked
  rcases moved.payout_origin id payout' found with
    ⟨row, stored, -, kept | ⟨never, -⟩⟩ | ⟨unmarked, -⟩
  · exact ⟨row, stored, kept.symm.trans marked⟩
  · exact never.elim
  · rw [unmarked] at marked
    cases marked

theorem Movement.decides_nothing (moved : Movement False db db') (id : Id) :
    ¬ Decides id db db' := by
  rintro ⟨fresh, payoutId, correction', found', approved', target'⟩
  rcases moved.correction_origin id correction' found' with
    ⟨row, found, same, approval⟩ | ⟨requested, -⟩
  · rcases approval approved' with approved | ⟨never, -⟩
    · exact fresh payoutId ⟨row, found, approved,
        (congrArg (fun c => c.2.1) same).symm.trans target'⟩
    · exact never.elim
  · rw [approved'] at requested
    cases requested

theorem mark_of_safe {α : Type} {p : Request α} (safe : (workflow False).Safe p db) (id : Id) :
    p.mark? ≠ some (.supersede id) := by
  intro about
  cases p with
  | done result => cases about
  | step m write next =>
      obtain ⟨-, ⟨-, never⟩, -⟩ := safe db (.refl db) trivial
      exact never id (Option.some.inj about)

theorem leads_of_safe {α : Type} (p : Request α) (db : Db) (safe : (workflow False).Safe p db) :
    (workflow True).Leads marksNext p db := by
  induction p generalizing db with
  | done result => trivial
  | step m write next ih =>
      intro db₁ later _
      obtain ⟨-, ⟨moved, never⟩, rest⟩ := safe db₁ later trivial
      refine ⟨⟨fun id => ?_, ?_⟩, ih db₁ _ rest⟩
      · exact iff_of_false (mark_of_safe rest id) (moved.decides_nothing id)
      · split
        · next id => exact (never id rfl).elim
        · exact moved.unmarking

def Quiet {α : Type} (p : Request α) : Prop := ∀ id, p.mark? ≠ some (.supersede id)

variable {α β : Type}

theorem quiet_liftExcept (x : Except Refusal α) (f : α → Request β)
    (rest : ∀ a, x = .ok a → Quiet (f a)) : Quiet (Prog.liftExcept x >>= f) := by
  cases x with
  | error e => exact fun _ about => by cases about
  | ok a => exact rest a rfl

theorem quiet_expect (e : Refusal) (x : Option α) (f : α → Request β)
    (rest : ∀ a, x = some a → Quiet (f a)) : Quiet (Prog.expect e x >>= f) := by
  cases x with
  | none => exact fun _ about => by cases about
  | some a => exact rest a rfl

theorem quiet_read (query : Db → α) (f : α → Request β) :
    Quiet (Prog.read .other query >>= f) := fun _ about => by cases about

theorem quiet_commit {β : Type} (body : Db → Except Refusal Db) (f : Unit → Request β) :
    Quiet (Prog.commit .other body >>= f) := fun _ about => by cases about

theorem decides_self (id : Id) (db : Db) : ¬ Decides id db db := by
  rintro ⟨fresh, payoutId, corrects⟩
  exact fresh payoutId corrects

theorem leads_read (query : Db → α) (f : α → Request β) (db : Db)
    (rest : ∀ db', Later db db' → Quiet (f (query db')) ∧
      (workflow True).Leads marksNext (f (query db')) db') :
    (workflow True).Leads marksNext (Prog.read .other query >>= f) db := by
  intro db' later _
  obtain ⟨quiet, led⟩ := rest db' later
  exact ⟨⟨fun id => iff_of_false (quiet id) (decides_self id db'), .refl db'⟩, led⟩

theorem leads_liftExcept (x : Except Refusal α) (f : α → Request β) (db : Db)
    (rest : ∀ a, x = .ok a → (workflow True).Leads marksNext (f a) db) :
    (workflow True).Leads marksNext (Prog.liftExcept x >>= f) db := by
  cases x with
  | error e => trivial
  | ok a => exact rest a rfl

theorem leads_expect (e : Refusal) (x : Option α) (f : α → Request β) (db : Db)
    (rest : ∀ a, x = some a → (workflow True).Leads marksNext (f a) db) :
    (workflow True).Leads marksNext (Prog.expect e x >>= f) db := by
  cases x with
  | none => trivial
  | some a => exact rest a rfl

theorem decides_iff (ctx : Ctx) (correction row : FinancialCorrection) (expectedVersion : Nat)
    (db db' : Db) (found : db.financialCorrections.find? correction.id = some row)
    (same : aim row = aim correction)
    (done : Corrections.writeDecision ctx correction.id expectedVersion .approved db = .ok db')
    (id : Id) : Decides id db db' ↔ id = correction.id ∧
      correction.targetRefundPayoutId ≠ none := by
  obtain ⟨row', found', -, requested, -, rfl⟩ := Corrections.writeDecision_ok _ _ _ _ _ _ done
  obtain rfl : row' = row := Option.some.inj (found'.symm.trans found)
  have target : row'.targetRefundPayoutId = correction.targetRefundPayoutId :=
    congrArg (fun c => c.2.1) same
  constructor
  · rintro ⟨fresh, payoutId, correction', stored, approved, aimed⟩
    obtain ⟨other, present, rfl⟩ := Table.find?_update_some _ _ (Corrections.decided ctx .approved)
      (Corrections.decided_id ctx .approved) _ _ stored
    split at aimed
    · next equal =>
      rw [equal, found] at present
      cases present
      exact ⟨equal, by rw [← target]; simp [show row'.targetRefundPayoutId = _ from aimed]⟩
    · next apart =>
      rw [if_neg apart] at approved
      exact absurd ⟨other, present, approved, aimed⟩ (fresh payoutId)
  · rintro ⟨rfl, aimed⟩
    obtain ⟨payoutId, stored⟩ := Option.ne_none_iff_exists'.mp aimed
    constructor
    · rintro k ⟨other, present, approved, -⟩
      rw [found] at present
      cases present
      rw [requested] at approved
      cases approved
    · refine ⟨payoutId, Corrections.decided ctx .approved row', ?_, rfl, target.trans stored⟩
      rw [Table.find?_update, if_pos rfl, found]
      rfl

theorem leads_supersedeTarget {β : Type} (ctx : Ctx) (correction row : FinancialCorrection)
    (f : Unit → Request β) (db : Db)
    (found : db.financialCorrections.find? correction.id = some row)
    (approved : row.status = .approved) (same : aim row = aim correction)
    (company : correction.companyId = ctx.companyId) (quiet : Quiet (f ()))
    (rest : ∀ db', (workflow True).Leads marksNext (f ()) db') :
    (workflow True).Leads marksNext (Corrections.supersedeTarget ctx correction >>= f) db := by
  unfold Corrections.supersedeTarget
  split
  · exact rest db
  · next payoutId target =>
    intro db₁ later _
    obtain ⟨row', found', same', stays⟩ := later.correction _ _ found
    have alike : aim row' = aim correction := same'.trans same
    have aimed : row'.targetRefundPayoutId = some payoutId :=
      (congrArg (fun a => a.2.1) alike).trans target
    have owner : row'.companyId = ctx.companyId := (congrArg Prod.fst alike).trans company
    refine ⟨⟨fun id => iff_of_false (quiet id) ?_, ?_⟩, rest _⟩
    · rintro ⟨fresh, k, corrects⟩
      exact fresh k corrects
    · exact ⟨row', payoutId, found', stays approved, aimed, by rw [owner]⟩

theorem mark_supersedeTarget {β : Type} (ctx : Ctx) (correction : FinancialCorrection)
    (f : Unit → Request β) (quiet : Quiet (f ())) (id : Id) :
    (Corrections.supersedeTarget ctx correction >>= f).mark? = some (.supersede id) ↔
      id = correction.id ∧ correction.targetRefundPayoutId ≠ none := by
  unfold Corrections.supersedeTarget
  split
  · next none =>
    exact iff_of_false (quiet id) (fun about => about.2 none)
  · next payoutId target =>
    constructor
    · intro about
      cases about
      exact ⟨rfl, by simp [target]⟩
    · rintro ⟨rfl, -⟩
      rfl

def afterMark (ctx : Ctx) (rollupId id branchId : Id) : Request FinancialCorrection := do
  Analytics.recomputeDaily .other ctx.companyId branchId ctx.today ctx.now rollupId
  Corrections.load ctx id

theorem safe_afterMark (ctx : Ctx) (rollupId id branchId : Id) (db : Db) :
    (workflow False).Safe (afterMark ctx rollupId id branchId) db := by
  apply moves_recompute
  exact fun db' => safe_loadCorrection False ctx db' id

theorem leads_approveCorrection (ctx : Ctx) (rollupId id : Id)
    (dto : Corrections.DecideCorrectionDto) (db : Db) :
    (workflow True).Leads marksNext (Corrections.approve ctx rollupId id dto) db := by
  unfold Corrections.approve Corrections.load
  rw [Prog.bind_assoc]
  apply leads_read
  intro db₁ _
  refine ⟨quiet_expect _ _ _ (fun _ _ => quiet_liftExcept _ _ (fun _ _ => quiet_read _ _)), ?_⟩
  apply leads_expect
  intro correction found
  obtain ⟨present, company⟩ := Corrections.findCorrection_some _ _ _ _ found
  have key : correction.id = id := Table.key_of_find? _ _ _ present
  rw [← key] at present
  apply leads_liftExcept
  intro _ _
  apply leads_read
  intro db₂ later₁
  refine ⟨quiet_liftExcept _ _ (fun _ _ => quiet_commit _ _), ?_⟩
  apply leads_liftExcept
  intro _ _ db₃ later₂ _
  have safe := safe_afterMark ctx rollupId id correction.branchId
  have quiet : Quiet (afterMark ctx rollupId id correction.branchId) :=
    fun k => mark_of_safe (safe db₃) k
  obtain ⟨row, stored, same, -⟩ := (later₁.trans later₂).correction _ _ present
  cases outcome : Corrections.writeDecision ctx correction.id dto.expectedVersion .approved
      db₃ with
  | error e =>
      simp only [outcome, Except.map]
      exact ⟨⟨fun k => iff_of_false (fun about => by cases about) (decides_self k db₃),
        .refl db₃⟩, trivial⟩
  | ok db₄ =>
      simp only [outcome, Except.map]
      refine ⟨⟨fun k => ?_, ?_⟩, ?_⟩
      · rw [decides_iff ctx correction row _ db₃ db₄ stored same outcome]
        exact mark_supersedeTarget ctx correction _ quiet k
      · obtain ⟨row', found', -, -, -, rfl⟩ := Corrections.writeDecision_ok _ _ _ _ _ _ outcome
        exact .refl db₃
      · obtain ⟨row', found', -, -, -, rfl⟩ := Corrections.writeDecision_ok _ _ _ _ _ _ outcome
        obtain rfl : row' = row := Option.some.inj (found'.symm.trans stored)
        apply leads_supersedeTarget ctx correction (Corrections.decided ctx .approved row')
        · rw [Table.find?_update, if_pos rfl, stored]
          rfl
        · rfl
        · exact same
        · exact company
        · exact quiet
        · exact fun db' => leads_of_safe _ db' (safe db')

end Approving

variable {p : Request Unit}

theorem Issued.other (issued : Issued True p) :
    Issued False p ∨ ∃ ctx rollupId id dto, p = (Corrections.approve ctx rollupId id dto).void := by
  cases issued with
  | approveCorrection _ ctx rollupId id dto => exact .inr ⟨ctx, rollupId, id, dto, rfl⟩
  | elsewhere update kept => exact .inl (.elsewhere update kept)
  | createSale ctx has ids dto => exact .inl (.createSale ctx has ids dto)
  | create first ctx id dto => exact .inl (.create first ctx id dto)
  | receiveCustody first ctx id dto => exact .inl (.receiveCustody first ctx id dto)
  | investigate first ctx id dto => exact .inl (.investigate first ctx id dto)
  | addAdjustment first ctx id adjustmentId dto =>
      exact .inl (.addAdjustment first ctx id adjustmentId dto)
  | removeAdjustment first ctx id adjustmentId expectedVersion =>
      exact .inl (.removeAdjustment first ctx id adjustmentId expectedVersion)
  | approve first ctx has ids id dto => exact .inl (.approve first ctx has ids id dto)
  | reject first ctx id dto => exact .inl (.reject first ctx id dto)
  | reportRefund first ctx id payoutId dto => exact .inl (.reportRefund first ctx id payoutId dto)
  | correctRefund first ctx id dto => exact .inl (.correctRefund first ctx id dto)
  | confirmRefund first ctx rollupId id dto =>
      exact .inl (.confirmRefund first ctx rollupId id dto)
  | requestCorrection ctx id dto => exact .inl (.requestCorrection ctx id dto)
  | rejectCorrection ctx id dto => exact .inl (.rejectCorrection ctx id dto)

theorem Issued.leads (issued : Issued True p) (db : Db) :
    (workflow True).Leads marksNext p db := by
  rcases issued.other with plain | ⟨ctx, rollupId, id, dto, rfl⟩
  · exact leads_of_safe p db (plain.safe db)
  · exact (workflow True).leads_void _ _ _ (leads_approveCorrection ctx rollupId id dto db)

theorem Issued.quiet (issued : Issued True p) : Quiet p := by
  rcases issued.other with plain | ⟨ctx, rollupId, id, dto, rfl⟩
  · exact fun id => mark_of_safe (plain.safe {}) id
  · exact fun _ about => by cases about

def pendingMark (p : Request Unit) : Option Id :=
  match p.mark? with
  | some (.supersede id) => some id
  | _ => none

theorem pendingMark_some (p : Request Unit) (id : Id) :
    pendingMark p = some id ↔ p.mark? = some (.supersede id) := by
  unfold pendingMark
  split
  · next other about => rw [about]; simp
  · next other =>
    constructor
    · intro about
      cases about
    · intro about
      exact absurd about (other id)

/-- The corrections whose approvals stand between the decision and the mark. -/
def pendingMarks (c : Config Db Mark Refusal Unit) : List Id := c.inFlight.filterMap pendingMark

structure Underway (c : Config Db Mark Refusal Unit) : Prop where
  sound : (workflow True).Sound c
  orderly : Orderly c.store
  led : ∀ p ∈ c.inFlight, (workflow True).Leads marksNext p c.store
  distinct : (pendingMarks c).Nodup
  decided : ∀ id ∈ pendingMarks c, ∃ payoutId, Corrects c.store id payoutId
  unmarked : ∀ id ∈ pendingMarks c, ∀ k payout, c.store.refundPayouts.find? k = some payout →
    payout.correctedById ≠ some id
  covered : ∀ id payoutId, Corrects c.store id payoutId → id ∈ pendingMarks c ∨
    ∃ payout, c.store.refundPayouts.find? payoutId = some payout ∧ payout.correctedById = some id

theorem corrects_target {db : Db} {id left right : Id} (first : Corrects db id left)
    (second : Corrects db id right) : left = right := by
  obtain ⟨row, found, -, aimed⟩ := first
  obtain ⟨row', found', -, aimed'⟩ := second
  rw [found] at found'
  cases found'
  exact Option.some.inj (aimed.symm.trans aimed')

theorem Movement.mark_stays {approvals : Prop} {db db' : Db} (moved : Movement approvals db db')
    (orderly : Orderly db) (id payoutId : Id) (payout : RefundPayout)
    (found : db.refundPayouts.find? payoutId = some payout)
    (marked : payout.correctedById = some id) :
    ∃ payout', db'.refundPayouts.find? payoutId = some payout' ∧
      payout'.correctedById = some id := by
  have corrects := orderly.marked payoutId payout id found marked
  obtain ⟨row, stored, confirmed⟩ := orderly.corrected_confirmed payoutId ⟨id, corrects⟩
  rw [found] at stored
  cases stored
  obtain ⟨payout', found', -, stays⟩ := moved.later.payout _ _ found
  refine ⟨payout', found', ?_⟩
  rcases moved.payout_origin payoutId payout' found' with
    ⟨row, stored, -, kept | ⟨-, correction, own, approved, present, target⟩⟩ | ⟨-, pending, -⟩
  · rw [found] at stored
    cases stored
    exact kept.trans marked
  · rw [own, orderly.once correction.id id payoutId ⟨correction, present, approved, target⟩
      corrects]
  · rw [stays confirmed] at pending
    cases pending

section Steps

variable (s : Db) (before after : List (Request Unit))

def otherMarks : List Id := (before ++ after).filterMap pendingMark

theorem pendingMarks_perm (p : Request Unit) :
    (pendingMarks ⟨s, before ++ p :: after⟩).Perm
      ((pendingMark p).toList ++ otherMarks before after) := by
  have moved : (before ++ p :: after).Perm (p :: (before ++ after)) := List.perm_middle
  have mapped := moved.filterMap pendingMark
  cases about : pendingMark p with
  | none =>
      rw [List.filterMap_cons_none about] at mapped
      exact mapped
  | some id =>
      rw [List.filterMap_cons_some about] at mapped
      exact mapped

theorem mem_pendingMarks (p : Request Unit) (id : Id) :
    id ∈ pendingMarks ⟨s, before ++ p :: after⟩ ↔
      pendingMark p = some id ∨ id ∈ otherMarks before after := by
  rw [(pendingMarks_perm s before after p).mem_iff, List.mem_append, Option.mem_toList]

theorem distinct_pendingMarks (p : Request Unit) :
    (pendingMarks ⟨s, before ++ p :: after⟩).Nodup ↔
      (otherMarks before after).Nodup ∧
        ∀ id, pendingMark p = some id → id ∉ otherMarks before after := by
  rw [(pendingMarks_perm s before after p).nodup_iff]
  cases pendingMark p with
  | none => simp
  | some id => simp [and_comm]

variable {m : Mark} {write : Db → Db} {next : Db → Request Unit}
  (underway : Underway ⟨s, before ++ .step m write next :: after⟩)

include underway

theorem Underway.movement : Movement True s (write s) := (underway.sound.guar).1

theorem Underway.own : marksNext m s (write s) (next s).mark? ∧
    (workflow True).Leads marksNext (next s) (write s) := by
  have led : (workflow True).Leads marksNext (.step m write next) s :=
    underway.led (.step m write next) (by simp)
  exact led s (.refl s) trivial

theorem Underway.step_led (p : Request Unit) (member : p ∈ before ++ next s :: after) :
    (workflow True).Leads marksNext p (write s) := by
  have others : ∀ q ∈ before ++ after, (workflow True).Leads marksNext q (write s) := by
    intro q other
    have led := underway.led q (by
      rcases List.mem_append.mp other with left | right
      · simp [left]
      · simp [right])
    exact led.weaken _ _ (fun _ _ => (underway.movement s before after).later)
  rcases List.mem_append.mp member with left | right
  · exact others p (List.mem_append_left _ left)
  · rcases List.mem_cons.mp right with rfl | right
    · exact (underway.own s before after).2
    · exact others p (List.mem_append_right _ right)

theorem Underway.step_marking (id : Id) (marking : Marking id s (write s))
    (about : m = .supersede id) :
    pendingMark (next s) = none ∧
    (∀ k ∈ otherMarks before after, ∀ j payout, (write s).refundPayouts.find? j = some payout →
      payout.correctedById ≠ some k) ∧
    ∀ k payoutId, Corrects (write s) k payoutId → k ∈ otherMarks before after ∨
      ∃ payout, (write s).refundPayouts.find? payoutId = some payout ∧
        payout.correctedById = some k := by
  have orderly : Orderly s := underway.orderly
  obtain ⟨correction, payoutId, found, approved, aimed, equal⟩ := marking
  have own : pendingMark (.step m write next) = some id :=
    (pendingMark_some _ _).mpr (congrArg some about)
  have corrects : Corrects s id payoutId := ⟨correction, found, approved, aimed⟩
  have apart := ((distinct_pendingMarks s before after _).mp underway.distinct).2 id own
  have same : ∀ k j, Corrects (write s) k j ↔ Corrects s k j := by
    intro k j
    rw [equal]
    exact Iff.rfl
  refine ⟨?_, ?_, ?_⟩
  · cases coming : pendingMark (next s) with
    | none => rfl
    | some k =>
        obtain ⟨fresh, j, decided⟩ := ((underway.own s before after).1.1 k).mp
          ((pendingMark_some _ _).mp coming)
        exact absurd ((same k j).mp decided) (fresh j)
  · intro k member j payout stored marked
    have old := underway.unmarked k ((mem_pendingMarks s before after _ k).mpr (.inr member))
    rw [equal] at stored
    unfold Corrections.supersede at stored
    rw [Table.find?_modify] at stored
    obtain ⟨row, present, rfl⟩ := Option.map_eq_some_iff.mp stored
    split at marked
    · cases marked
      exact apart member
    · exact old j row present marked
  · intro k j decided
    have before' := (same k j).mp decided
    by_cases self : k = id
    · subst self
      obtain rfl := corrects_target corrects before'
      -- The payout is there, of the company, and no mark is on it yet.
      obtain ⟨payout, present, -, company⟩ := orderly.target k correction payoutId found aimed
      have unmarked : payout.correctedById = none := by
        cases mark : payout.correctedById with
        | none => rfl
        | some other =>
            have equal' := orderly.once other k payoutId
              (orderly.marked payoutId payout other present mark) corrects
            exact absurd (equal' ▸ mark) (underway.unmarked k
              ((mem_pendingMarks s before after _ k).mpr (.inl own)) payoutId payout present)
      have key : payout.id = payoutId := Table.key_of_find? _ _ _ present
      right
      rw [equal]
      refine ⟨{ payout with correctedById := some k }, ?_, rfl⟩
      unfold Corrections.supersede
      rw [Table.find?_modify, present, Option.map_some, if_pos (decide_eq_true
        ⟨company, key, unmarked⟩)]
    · rcases underway.covered k j before' with pending | ⟨payout, present, marked⟩
      · left
        rcases (mem_pendingMarks s before after _ k).mp pending with mine | others
        · rw [own] at mine
          exact absurd (Option.some.inj mine).symm self
        · exact others
      · exact .inr ((underway.movement s before after).mark_stays orderly k j payout present
          marked)

theorem Underway.step_deciding (unmarking : Unmarking s (write s))
    (about : pendingMark (.step m write next) = none) :
    (∀ id, pendingMark (next s) = some id → id ∉ otherMarks before after ∧
      (∃ payoutId, Corrects (write s) id payoutId) ∧
      ∀ j payout, (write s).refundPayouts.find? j = some payout →
        payout.correctedById ≠ some id) ∧
    (∀ k ∈ otherMarks before after, ∀ j payout, (write s).refundPayouts.find? j = some payout →
      payout.correctedById ≠ some k) ∧
    ∀ k payoutId, Corrects (write s) k payoutId →
      (pendingMark (next s) = some k ∨ k ∈ otherMarks before after) ∨
      ∃ payout, (write s).refundPayouts.find? payoutId = some payout ∧
        payout.correctedById = some k := by
  have orderly : Orderly s := underway.orderly
  have moved := underway.movement s before after
  have decides := (underway.own s before after).1.1
  refine ⟨?_, ?_, ?_⟩
  · intro id coming
    obtain ⟨fresh, payoutId, corrects⟩ := (decides id).mp ((pendingMark_some _ _).mp coming)
    refine ⟨fun member => ?_, ⟨payoutId, corrects⟩, fun j payout stored marked => ?_⟩
    · obtain ⟨k, earlier⟩ := underway.decided id
        ((mem_pendingMarks s before after _ id).mpr (.inr member))
      exact fresh k earlier
    · obtain ⟨row, present, mark⟩ := unmarking j payout id stored marked
      exact fresh j (orderly.marked j row id present mark)
  · intro k member j payout stored marked
    obtain ⟨row, present, mark⟩ := unmarking j payout k stored marked
    exact underway.unmarked k ((mem_pendingMarks s before after _ k).mpr (.inr member)) j row
      present mark
  · intro k payoutId corrects
    by_cases known : ∃ j, Corrects s k j
    · obtain ⟨j, earlier⟩ := known
      obtain rfl := corrects_target (moved.later.corrects k j earlier) corrects
      rcases underway.covered k j earlier with pending | ⟨payout, present, marked⟩
      · rcases (mem_pendingMarks s before after _ k).mp pending with mine | others
        · rw [about] at mine
          cases mine
        · exact .inl (.inr others)
      · exact .inr (moved.mark_stays orderly k j payout present marked)
    · have fresh : ∀ j, ¬ Corrects s k j := fun j earlier => known ⟨j, earlier⟩
      exact .inl (.inl ((pendingMark_some _ _).mpr
        ((decides k).mpr ⟨fresh, payoutId, corrects⟩)))

end Steps

theorem Underway.arrive {s : Db} {inFlight : List (Request Unit)} {p : Request Unit}
    (underway : Underway ⟨s, inFlight⟩) (issued : Issued True p) :
    Underway ⟨s, inFlight ++ [p]⟩ := by
  have none : pendingMark p = none := by
    cases about : pendingMark p with
    | none => rfl
    | some id => exact absurd ((pendingMark_some _ _).mp about) (issued.quiet id)
  have same : pendingMarks ⟨s, inFlight ++ [p]⟩ = pendingMarks ⟨s, inFlight⟩ := by
    unfold pendingMarks
    rw [List.filterMap_append, List.filterMap_cons_none none, List.filterMap_nil, List.append_nil]
  have either : ∀ q ∈ inFlight ++ [p], q ∈ inFlight ∨ q = p := by
    intro q member
    simpa using member
  refine ⟨⟨trivial, ?_⟩, underway.orderly, ?_, ?_, ?_, ?_, ?_⟩
  · intro q member
    rcases either q member with old | rfl
    · exact underway.sound.2 q old
    · exact issued.safe s
  · intro q member
    rcases either q member with old | rfl
    · exact underway.led q old
    · exact issued.leads s
  · rw [same]
    exact underway.distinct
  · rw [same]
    exact underway.decided
  · rw [same]
    exact underway.unmarked
  · rw [same]
    exact underway.covered

theorem Underway.step {c c' : Config Db Mark Refusal Unit} (underway : Underway c)
    (taken : Step (Issued True) anyOrder c c') : Underway c' := by
  have sound : (workflow True).Sound c' :=
    (workflow True).step_sound (Issued True) anyOrder c c' (fun _ issued _ => issued.safe _)
      (fun _ _ _ _ _ _ moved => moved.1.later) taken underway.sound
  cases taken with
  | arrive s inFlight p issued => exact underway.arrive issued
  | advance s before after m write next others =>
      have moved := underway.movement s before after
      have led := underway.step_led s before after
      have distinct := ((distinct_pendingMarks s before after _).mp underway.distinct).1
      have decided : ∀ id ∈ otherMarks before after, ∃ payoutId,
        Corrects (write s) id payoutId := by
        intro id member
        obtain ⟨payoutId, corrects⟩ := underway.decided id
          ((mem_pendingMarks s before after _ id).mpr (.inr member))
        exact ⟨payoutId, moved.later.corrects id payoutId corrects⟩
      by_cases about : ∃ id, m = .supersede id
      · obtain ⟨id, rfl⟩ := about
        obtain ⟨none, unmarked, covered⟩ := underway.step_marking s before after id
          (underway.own s before after).1.2 rfl
        refine ⟨sound, underway.orderly.step moved, led, ?_, ?_, ?_, ?_⟩
        · rw [distinct_pendingMarks, none]
          exact ⟨distinct, fun _ coming => by cases coming⟩
        all_goals simp only [mem_pendingMarks, none, reduceCtorEq, false_or]
        · exact decided
        · exact unmarked
        · exact covered
      · have idle : pendingMark (.step m write next) = none := by
          cases coming : pendingMark (.step m write next) with
          | none => rfl
          | some id => exact absurd ⟨id, Option.some.inj ((pendingMark_some _ _).mp coming)⟩ about
        have unmarking : Unmarking s (write s) := by
          have effect := (underway.own s before after).1.2
          split at effect
          · next id => exact absurd ⟨id, rfl⟩ about
          · exact effect
        obtain ⟨coming, unmarked, covered⟩ := underway.step_deciding s before after unmarking idle
        refine ⟨sound, underway.orderly.step moved, led, ?_, ?_, ?_, ?_⟩
        · exact (distinct_pendingMarks _ _ _ _).mpr ⟨distinct, fun id mark => (coming id mark).1⟩
        all_goals simp only [mem_pendingMarks]
        · rintro id (mark | member)
          · exact (coming id mark).2.1
          · exact decided id member
        · rintro id (mark | member)
          · exact (coming id mark).2.2
          · exact unmarked id member
        · exact covered

theorem run_underway (db : Db) (unpaid : Unpaid db) (c : Config Db Mark Refusal Unit)
    (run : WorkflowRun (.idle db) c) : Underway c := by
  induction run with
  | refl =>
      have nothing : ∀ id payoutId, ¬ Corrects db id payoutId := by
        rintro id payoutId ⟨correction, found, -⟩
        have member := Table.mem_of_find? _ _ _ found
        rw [unpaid.corrections] at member
        cases member
      refine ⟨(workflow True).sound_idle db trivial, unpaid.orderly, ?_, List.nodup_nil, ?_, ?_, ?_⟩
      · exact fun _ member => by cases member
      · exact fun _ member => by cases member
      · exact fun _ member => by cases member
      · exact fun id payoutId corrects => absurd corrects (nothing id payoutId)
  | tail _ last ih => exact ih.step last

/-- A payout is superseded by a correction of it exactly when that one is approved. -/
def Superseded (db : Db) : Prop :=
  ∀ correction ∈ db.financialCorrections.rows, ∀ payout ∈ db.refundPayouts.rows,
    correction.targetRefundPayoutId = some payout.id →
    (correction.status = .approved ↔ payout.correctedById = some correction.id)

/-- A payout whose correction is approved stands in the way of a replacement. -/
def Blocked (db : Db) : Prop :=
  ∃ correction ∈ db.financialCorrections.rows, ∃ payout ∈ db.refundPayouts.rows,
    correction.targetRefundPayoutId = some payout.id ∧ correction.status = .approved ∧
    payout.correctedById = none

theorem Underway.superseded {c : Config Db Mark Refusal Unit} (underway : Underway c)
    (none : pendingMarks c = []) : Superseded c.store := by
  intro correction member payout there target
  have found : c.store.financialCorrections.find? correction.id = some correction :=
    (Table.find?_some _ _ _).mpr ⟨member, rfl⟩
  have stored : c.store.refundPayouts.find? payout.id = some payout :=
    (Table.find?_some _ _ _).mpr ⟨there, rfl⟩
  constructor
  · intro approved
    rcases underway.covered correction.id payout.id ⟨correction, found, approved, target⟩ with
      pending | ⟨row, present, marked⟩
    · rw [none] at pending
      cases pending
    · rw [stored] at present
      cases present
      exact marked
  · intro marked
    obtain ⟨row, present, approved, -⟩ := underway.orderly.marked _ _ _ stored marked
    rw [found] at present
    cases present
    exact approved

theorem Underway.blocked {c : Config Db Mark Refusal Unit} (underway : Underway c) (id : Id)
    (pending : id ∈ pendingMarks c) : Blocked c.store := by
  obtain ⟨payoutId, correction, found, approved, target⟩ := underway.decided id pending
  obtain ⟨payout, stored, -, -⟩ := underway.orderly.target id correction payoutId found target
  obtain ⟨there, rfl⟩ := (Table.find?_some _ _ _).mp stored
  refine ⟨correction, Table.mem_of_find? _ _ _ found, payout, there, target, approved, ?_⟩
  cases mark : payout.correctedById with
  | none => rfl
  | some k =>
      have equal := underway.orderly.once k id payout.id
        (underway.orderly.marked _ payout k stored mark) ⟨correction, found, approved, target⟩
      exact absurd (equal ▸ mark) (underway.unmarked id pending _ payout stored)

theorem Superseded.not_blocked {db : Db} (superseded : Superseded db) : ¬ Blocked db := by
  rintro ⟨correction, member, payout, there, target, approved, unmarked⟩
  have marked := (superseded correction member payout there target).mp approved
  rw [unmarked] at marked
  cases marked

theorem superseded_iff (db : Db) (unpaid : Unpaid db) (c : Config Db Mark Refusal Unit)
    (run : WorkflowRun (.idle db) c) :
    (Superseded c.store ↔ pendingMarks c = []) ∧ (¬ Blocked c.store ↔ pendingMarks c = []) := by
  have underway := run_underway db unpaid c run
  have clear : ¬ Blocked c.store → pendingMarks c = [] := by
    intro free
    apply List.eq_nil_iff_forall_not_mem.mpr
    exact fun id pending => free (underway.blocked id pending)
  constructor
  · exact ⟨fun superseded => clear superseded.not_blocked, underway.superseded⟩
  · exact ⟨clear, fun none => (underway.superseded none).not_blocked⟩

def cutShort : List (Move Db Mark Refusal Unit) :=
  served 0 (reportRefund .oldest atCounter 500 801 (cashRefund 71)).void ++
  served 1 (confirmRefund .oldest atCounter 1001 500 ⟨0⟩).void ++
  served 2 (Corrections.request atCounter 600
    { targetKind := .refundPayout, targetId := 801, reason := "wrong drawer",
      clientUuid := 72 }).void ++
  .arrive (Corrections.approve atCounter 1002 600 ⟨0, none⟩).void ::
    List.replicate 3 (.advance 3)

theorem cutShort_issued (p : Request Unit) (member : .arrive p ∈ cutShort) : Issued True p := by
  simp only [cutShort, served, List.mem_append, List.mem_cons, List.mem_replicate,
    Move.arrive.injEq, reduceCtorEq, and_false, or_false] at member
  rcases member with ((rfl | rfl) | rfl) | rfl
  · exact .reportRefund _ _ _ _ _
  · exact .confirmRefund _ _ _ _ _
  · exact .requestCorrection _ _ _
  · exact .approveCorrection trivial _ _ _ _

theorem approval_cut_short_blocks :
    ¬ ∀ (db : Db) (c : Config Db Mark Refusal Unit), Unpaid db → WorkflowRun (.idle db) c →
      Superseded c.store ∧ ¬ Blocked c.store := by
  intro claim
  have run : WorkflowRun (.idle refundOwed) ((Config.idle refundOwed).schedule cutShort) :=
    schedule_run _ _ _ cutShort cutShort_issued (admits_anyOrder _ _)
  have free := (claim refundOwed _ ⟨by decide, rfl, rfl⟩ run).2
  have stands : (((Config.idle refundOwed).schedule cutShort).store.refundPayouts.find? 801).map
      RefundPayout.correctedById = some none := by decide +kernel
  have decided : (((Config.idle refundOwed).schedule cutShort).store.financialCorrections.find?
      600).map (fun row => (row.targetRefundPayoutId, row.status)) =
        some (some 801, .approved) := by decide +kernel
  obtain ⟨payout, stored, unmarked⟩ := Option.map_eq_some_iff.mp stands
  obtain ⟨correction, found, fields⟩ := Option.map_eq_some_iff.mp decided
  obtain ⟨target, approved⟩ := Prod.mk.inj fields
  obtain ⟨there, key⟩ := (Table.find?_some _ _ _).mp stored
  exact free ⟨correction, Table.mem_of_find? _ _ _ found, payout, there, by rw [target, key],
    approved, unmarked⟩

theorem superseded_iff_replacement :
    Unpaid refundOwed ∧ ∃ c, WorkflowRun (.idle refundOwed) c ∧ pendingMarks c = [] ∧
      c.store.refundPayouts.rows.map (fun payout => (payout.id, payout.correctedById)) =
        [(801, some 600), (802, none)] ∧
      Superseded c.store ∧ ¬ Blocked c.store := by
  have unpaid : Unpaid refundOwed := ⟨by decide, rfl, rfl⟩
  have run : WorkflowRun (.idle refundOwed) ((Config.idle refundOwed).schedule paidAnew) :=
    schedule_run _ _ _ paidAnew paidAnew_issued (admits_anyOrder _ _)
  have none : pendingMarks ((Config.idle refundOwed).schedule paidAnew) = [] := by
    decide +kernel
  obtain ⟨superseded, blocked⟩ := superseded_iff refundOwed unpaid _ run
  exact ⟨unpaid, _, run, none, by decide +kernel, superseded.mpr none, blocked.mpr none⟩

end ErpBackend.Returns
