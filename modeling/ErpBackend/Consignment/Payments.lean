import ErpBackend.Consignment.Receivable

/-!
# Concurrent settlements

Payments and write-offs check a ledger they read earlier, append later and settle
after a third reading. A check stands at the append whenever no row that takes from
the same balance is appended in between.
-/

namespace ErpBackend.Consignments

open Foundation

inductive IsSettlement : Request ConsignmentView → Prop
  | payment (ctx : Ctx) (fresh id : Id) (dto : ConsignmentPaymentDto) :
      IsSettlement (payment ctx fresh id dto)
  | forgive (ctx : Ctx) (fresh id : Id) (dto : ForgiveDto) :
      IsSettlement (forgive ctx fresh id dto)

def LedgerKind.debit : LedgerKind → Bool
  | .paymentConfirmed | .forgiven => true
  | _ => false

/-- An append spoils a check already made: both take from one balance, or both confirm
one report. -/
def Spoils (consignmentId : Id) (kind : LedgerKind) (refersToId : Option Id)
    (consignmentId' : Id) (kind' : LedgerKind) (refersToId' : Option Id) : Prop :=
  (consignmentId = consignmentId' ∧ kind.debit = true ∧ kind'.debit = true) ∨
    (kind = .paymentConfirmed ∧ kind' = .paymentConfirmed ∧ refersToId = refersToId')

/-- No append lands while another request stands between its reading of the ledger and an
append it would spoil. -/
def isolated (_ : Db) : Mark → Mark → Prop
  | .append id kind refersToId, .checked id' kind' refersToId' =>
      ¬ Spoils id kind refersToId id' kind' refersToId'
  | .append id kind refersToId, .append id' kind' refersToId' =>
      ¬ Spoils id kind refersToId id' kind' refersToId'
  | _, _ => True

def ConfirmedOnce (db : Db) : Prop :=
  ∀ first ∈ db.consignmentLedger.rows, ∀ second ∈ db.consignmentLedger.rows,
    first.kind = .paymentConfirmed → second.kind = .paymentConfirmed →
      first.refersToId = second.refersToId → first = second

def closed (c : Consignment) : Prop := c.status = .settled ∨ c.status = .forgivenSettled

structure Cleared (db : Db) : Prop where
  nonneg : ∀ id, 0 ≤ owed db id
  once : ConfirmedOnce db
  settled : ∀ c ∈ db.consignments.rows, closed c → owed db c.id = 0

theorem owed_congr (db db' : Db) (rows : db'.consignmentLedger.rows = db.consignmentLedger.rows)
    (id : Id) : owed db' id = owed db id := by
  unfold owed ledgerRows ledgerOf Table.filter
  rw [rows]

variable (db : Db)

theorem findAnswer_none (entryId : Id) (kind : LedgerKind) :
    findAnswer db entryId kind = none ↔
      ∀ entry ∈ db.consignmentLedger.rows, entry.refersToId = some entryId → entry.kind ≠ kind := by
  simp [findAnswer]

theorem owed_appended (db db' : Db) (entry : ConsignmentLedgerEntry)
    (rows : db'.consignmentLedger.rows = db.consignmentLedger.rows ++ [entry]) (id : Id) :
    owed db' id = owed db id +
      if entry.consignmentId = id then balanceEffect entry.kind * entry.amount else 0 := by
  by_cases same : entry.consignmentId = id
  · subst same
    rw [owed_append db db' entry rows, if_pos rfl]
  · unfold owed ledgerRows
    rw [ledgerOf_append db db' entry rows, if_neg same, if_neg same, List.append_nil, Int.add_zero]

structure Appended (db db' : Db) (entry : ConsignmentLedgerEntry) : Prop where
  rows : db'.consignmentLedger.rows = db.consignmentLedger.rows ++ [entry]
  consignments : db'.consignments = db.consignments
  positive : 0 < entry.amount
  takes : entry.kind = .paymentReported ∨ entry.kind.debit = true

theorem Appended.effect {db db' : Db} {entry : ConsignmentLedgerEntry}
    (appended : Appended db db' entry) :
    balanceEffect entry.kind * entry.amount = if entry.kind.debit then -entry.amount else 0 := by
  rcases appended.takes with report | debit
  · simp [report, balanceEffect, LedgerKind.debit]
  · rw [if_pos debit]
    revert debit
    cases entry.kind <;> simp [LedgerKind.debit, balanceEffect]

theorem Appended.owed_le {db db' : Db} {entry : ConsignmentLedgerEntry}
    (appended : Appended db db' entry) (id : Id) : owed db' id ≤ owed db id := by
  have positive := appended.positive
  rw [owed_appended db db' entry appended.rows id, appended.effect]
  split_ifs <;> omega

theorem Cleared.append {db db' : Db} {entry : ConsignmentLedgerEntry} (cleared : Cleared db)
    (appended : Appended db db' entry)
    (fits : entry.kind.debit = true → entry.amount ≤ owed db entry.consignmentId)
    (free : entry.kind = .paymentConfirmed → ∀ other ∈ db.consignmentLedger.rows,
      other.kind = .paymentConfirmed → other.refersToId ≠ entry.refersToId) : Cleared db' := by
  have nonneg : ∀ id, 0 ≤ owed db' id := by
    intro id
    have before := cleared.nonneg id
    rw [owed_appended db db' entry appended.rows id, appended.effect]
    split
    · next same =>
      subst same
      split
      · next debit =>
        have enough := fits debit
        omega
      · omega
    · omega
  refine ⟨nonneg, ?_, ?_⟩
  · intro first firstMember second secondMember firstKind secondKind same
    rw [appended.rows, List.mem_append, List.mem_singleton] at firstMember secondMember
    rcases firstMember with old | rfl
    · rcases secondMember with old' | rfl
      · exact cleared.once first old second old' firstKind secondKind same
      · exact absurd same (free secondKind first old firstKind)
    · rcases secondMember with old' | rfl
      · exact absurd same.symm (free firstKind second old' secondKind)
      · rfl
  · intro c member ended
    rw [appended.consignments] at member
    have before := cleared.settled c member ended
    have less := appended.owed_le c.id
    have more := nonneg c.id
    omega

theorem Cleared.moveStatus {db : Db} (cleared : Cleared db) (id : Id)
    (source : List ConsignmentStatus) (status : ConsignmentStatus)
    (settledAt : Option Time → Option Time)
    (ends : status = .settled ∨ status = .forgivenSettled → owed db id = 0) :
    Cleared (moveStatus db id source status settledAt) := by
  refine ⟨cleared.nonneg, cleared.once, ?_⟩
  intro c member ended
  simp only [Consignments.moveStatus, Table.mem_modify] at member
  obtain ⟨before, present, rfl⟩ := member
  by_cases moved : before.id = id ∧ before.status ∈ source
  · simp only [moved, and_self, decide_true, if_true] at ended ⊢
    exact ends ended
  · simp only [moved, decide_false, Bool.false_eq_true, if_false] at ended ⊢
    exact cleared.settled before present ended

def guar : Mark → Db → Db → Prop
  | .append id kind refersToId, db, db' =>
      db'.consignmentLedger.rows = db.consignmentLedger.rows ∨
        ∃ entry, Appended db db' entry ∧ entry.consignmentId = id ∧ entry.kind = kind ∧
          entry.refersToId = refersToId
  | _, db, db' => db'.consignmentLedger.rows = db.consignmentLedger.rows

def Falls (db db' : Db) : Prop := ∀ id, owed db' id ≤ owed db id

def StillChecked (id : Id) (kind : LedgerKind) (refersToId : Option Id) (db db' : Db) : Prop :=
  (kind.debit = true → owed db id ≤ owed db' id) ∧
    (kind = .paymentConfirmed → ∀ report, refersToId = some report →
      findAnswer db report kind = none → findAnswer db' report kind = none)

def rely : Mark → Db → Db → Prop
  | .other, db, db' => Falls db db'
  | .checked id kind refersToId, db, db' =>
      Falls db db' ∧ StillChecked id kind refersToId db db'
  | .append id kind refersToId, db, db' =>
      Falls db db' ∧ StillChecked id kind refersToId db db'

theorem Falls.refl : Falls db db := fun _ => Int.le_refl _

theorem Falls.trans {db db' db'' : Db} (first : Falls db db') (second : Falls db' db'') :
    Falls db db'' :=
  fun id => Int.le_trans (second id) (first id)

theorem StillChecked.refl (id : Id) (kind : LedgerKind) (refersToId : Option Id) (db : Db) :
    StillChecked id kind refersToId db db :=
  ⟨fun _ => Int.le_refl _, fun _ _ _ none => none⟩

theorem StillChecked.trans {id : Id} {kind : LedgerKind} {refersToId : Option Id}
    {db db' db'' : Db} (first : StillChecked id kind refersToId db db')
    (second : StillChecked id kind refersToId db' db'') :
    StillChecked id kind refersToId db db'' :=
  ⟨fun debit => Int.le_trans (first.1 debit) (second.1 debit),
    fun confirms report refers none =>
      second.2 confirms report refers (first.2 confirms report refers none)⟩

theorem StillChecked.congr (id : Id) (kind : LedgerKind) (refersToId : Option Id) (db db' : Db)
    (rows : db'.consignmentLedger.rows = db.consignmentLedger.rows) :
    StillChecked id kind refersToId db db' := by
  refine ⟨fun _ => Int.le_of_eq (owed_congr db db' rows id).symm, fun _ report _ none => ?_⟩
  unfold findAnswer at none ⊢
  rw [rows]
  exact none

theorem StillChecked.append (id : Id) (kind : LedgerKind) (refersToId : Option Id) {db db' : Db}
    {entry : ConsignmentLedgerEntry} (appended : Appended db db' entry)
    (clear : ¬ Spoils entry.consignmentId entry.kind entry.refersToId id kind refersToId) :
    StillChecked id kind refersToId db db' := by
  constructor
  · intro debit
    rw [owed_appended db db' entry appended.rows id, appended.effect]
    by_cases same : entry.consignmentId = id
    · have credit : entry.kind.debit = false := by
        by_contra takes
        exact clear (.inl ⟨same, by simpa using takes, debit⟩)
      simp [credit]
    · simp [same]
  · intro confirms report refers none
    rw [findAnswer_none] at none ⊢
    intro other member answers sameKind
    rw [appended.rows, List.mem_append, List.mem_singleton] at member
    rcases member with old | rfl
    · exact none other old answers sameKind
    · exact clear (.inr ⟨sameKind.trans confirms, confirms, by rw [answers, refers]⟩)

def settling : Discipline Db Mark where
  inv := Cleared
  guar := guar
  rely := rely
  rely_refl := by
    intro m db
    cases m with
    | other => exact .refl db
    | checked id kind refersToId => exact ⟨.refl db, .refl id kind refersToId db⟩
    | append id kind refersToId => exact ⟨.refl db, .refl id kind refersToId db⟩
  rely_trans := by
    intro m db db' db'' first second
    cases m with
    | other => exact Falls.trans first second
    | checked id kind refersToId => exact ⟨first.1.trans second.1, first.2.trans second.2⟩
    | append id kind refersToId => exact ⟨first.1.trans second.1, first.2.trans second.2⟩

theorem rely_falls (m : Mark) (db db' : Db) (relied : rely m db db') : Falls db db' := by
  cases m with
  | other => exact relied
  | checked id kind refersToId => exact relied.1
  | append id kind refersToId => exact relied.1

theorem guar_falls (m : Mark) (db db' : Db) (own : guar m db db') : Falls db db' := by
  cases m with
  | other => exact fun id => Int.le_of_eq (owed_congr db db' own id)
  | checked _ _ _ => exact fun id => Int.le_of_eq (owed_congr db db' own id)
  | append _ _ _ =>
      rcases own with rows | ⟨entry, appended, -⟩
      · exact fun id => Int.le_of_eq (owed_congr db db' rows id)
      · exact appended.owed_le

theorem guar_rely (m m' : Mark) (db' : Db) (allowed : isolated db m m')
    (own : guar m db db') : rely m' db db' := by
  have falls := guar_falls m db db' own
  have checked : ∀ id' kind' refersToId',
      (∀ id kind refersToId, m = .append id kind refersToId →
        ¬ Spoils id kind refersToId id' kind' refersToId') →
      StillChecked id' kind' refersToId' db db' := by
    intro id' kind' refersToId' clear
    cases m with
    | other => exact .congr _ _ _ db db' own
    | checked _ _ _ => exact .congr _ _ _ db db' own
    | append _ _ _ =>
        rcases own with rows | ⟨entry, appended, rfl, rfl, rfl⟩
        · exact .congr _ _ _ db db' rows
        · exact .append _ _ _ appended (clear _ _ _ rfl)
  cases m' with
  | other => exact falls
  | checked id' kind' refersToId' =>
      refine ⟨falls, checked id' kind' refersToId' ?_⟩
      rintro id kind refersToId rfl
      exact allowed
  | append id' kind' refersToId' =>
      refine ⟨falls, checked id' kind' refersToId' ?_⟩
      rintro id kind refersToId rfl
      exact allowed

section Safety

variable {α : Type}

theorem guar_self (m : Mark) (db : Db) : guar m db db := by
  cases m with
  | other => rfl
  | checked _ _ _ => rfl
  | append _ _ _ => exact .inl rfl

theorem settling_read (m : Mark) (query : Db → α) {β : Type} (f : α → Request β) (db : Db)
    (rest : ∀ db', rely m db db' → settling.Safe (f (query db')) db') :
    settling.Safe (Prog.read m query >>= f) db :=
  settling.safe_read db m query f (fun db' relied _ => ⟨guar_self m db', rest db' relied⟩)

variable (ctx : Ctx)

theorem settling_get (id : Id) (db : Db) : settling.Safe (get ctx id) db := by
  unfold get
  apply settling_read
  intro db' _
  apply settling.safe_of_reads _ _ guar_self
  exact Prog.reads_expect _ _

theorem settling_mine (id : Id) (f : Consignment → Request α) (db : Db)
    (rest : ∀ c db', settling.Safe (f c) db') : settling.Safe (mine ctx id >>= f) db := by
  unfold mine
  rw [Prog.bind_assoc]
  apply settling_read
  intro db' _
  exact settling.safe_expect db' _ _ f (fun c _ => rest c db')

theorem settling_assertSource (c : Consignment) (me : Id) (f : Unit → Request α) (db : Db)
    (rest : settling.Safe (f ()) db) : settling.Safe (assertSource c me >>= f) db := by
  unfold assertSource requireSide
  rw [Prog.bind_assoc]
  apply settling.safe_expect
  intro side _
  apply settling.safe_require
  exact fun _ => rest

theorem settling_settleIfClear (id : Id) (status : ConsignmentStatus)
    (f : Unit → Request α) (db : Db) (rest : ∀ db', settling.Safe (f ()) db') :
    settling.Safe (settleIfClear ctx id status >>= f) db := by
  unfold settleIfClear
  rw [Prog.bind_assoc]
  apply settling_read
  intro db₁ _
  split
  · apply settling.safe_execute
    intro db₂ _ cleared
    refine ⟨cleared.moveStatus id _ _ _ ?_, rfl, rest _⟩
    rintro (settled | forgiven)
    · cases settled
    · cases forgiven
  · next none =>
    apply settling.safe_execute
    intro db₂ relied cleared
    refine ⟨cleared.moveStatus id _ _ _ (fun _ => ?_), rfl, rest _⟩
    have fell : owed db₂ id ≤ owed db₁ id := rely_falls .other db₁ db₂ relied id
    have least := cleared.nonneg id
    change ¬ 0 < owed db₁ id at none
    omega

theorem settling_append (entry : ConsignmentLedgerEntry) (f : Unit → Request α) (db : Db)
    (takes : entry.kind = .paymentReported ∨ entry.kind.debit = true)
    (fits : entry.kind.debit = true → entry.amount ≤ owed db entry.consignmentId)
    (free : entry.kind = .paymentConfirmed → ∃ report, entry.refersToId = some report ∧
      findAnswer db report entry.kind = none)
    (rest : ∀ db', settling.Safe (f ()) db') :
    settling.Safe (append (.append entry.consignmentId entry.kind entry.refersToId) entry >>= f)
      db := by
  unfold append
  apply settling.safe_commit
  · intro db' relied cleared stored inserted
    obtain ⟨positive, -, ledger, rfl, rows⟩ := insertEntry_ok db' stored entry inserted
    have appended : Appended db' { db' with consignmentLedger := ledger } entry :=
      ⟨rows, rfl, positive, takes⟩
    refine ⟨cleared.append appended ?_ ?_, .inr ⟨entry, appended, rfl, rfl, rfl⟩, rest _⟩
    · intro debit
      exact Int.le_trans (fits debit) (relied.2.1 debit)
    · intro confirms other member sameKind sameRefers
      obtain ⟨report, refers, none⟩ := free confirms
      have still := relied.2.2 confirms report refers none
      exact (findAnswer_none db' report entry.kind).mp still other member
        (sameRefers.trans refers) (sameKind.trans confirms.symm)
  · exact fun db' => .inl rfl

theorem findEntry_some (consignmentId entryId : Id) (kind : LedgerKind)
    (entry : ConsignmentLedgerEntry)
    (found : findEntry db consignmentId entryId kind = some entry) :
    entry.id = entryId :=
  Table.key_of_find? _ _ _ (Option.filter_eq_some_iff.mp found).1

theorem settling_confirmPayment (fresh : Id) (c : Consignment)
    (dto : ConsignmentPaymentDto) (f : Unit → Request α) (db : Db)
    (rest : ∀ db', settling.Safe (f ()) db') :
    settling.Safe (confirmPayment ctx fresh c (owed db c.id) dto >>= f) db := by
  unfold confirmPayment
  simp only [Prog.bind_assoc]
  apply settling_assertSource
  apply settling.safe_expect
  intro entryId _
  apply settling_read
  intro db₁ relied₁
  apply settling.safe_expect
  intro reported found
  obtain rfl := findEntry_some db₁ c.id entryId .paymentReported reported found
  apply settling_read
  intro db₂ relied₂
  apply settling.safe_require
  intro unanswered
  apply settling.safe_liftExcept
  intro _ allowed
  have fits : reported.amount ≤ owed db c.id :=
    (Settlement.assertPaymentAllowed_ok _ _ _ _ ((except_mapError_ok _ _ _).mp allowed)).2
  have grown : owed db c.id ≤ owed db₂ c.id :=
    Int.le_trans (relied₁.2.1 rfl) (relied₂.2.1 rfl)
  exact settling_append
    { entryFor ctx fresh c .paymentConfirmed reported.amount with
      method := reported.method
      receivingAccountId := reported.receivingAccountId
      accountLabelSnapshot := reported.accountLabelSnapshot
      reference := reported.reference
      refersToId := some reported.id } _ db₂ (.inr rfl)
    (fun _ => Int.le_trans fits grown)
    (fun _ => ⟨reported.id, rfl, unanswered⟩)
    (fun db₃ => settling_settleIfClear ctx c.id .settled f db₃ rest)

theorem settling_reportPayment (fresh : Id) (c : Consignment) (owed : Int)
    (dto : ConsignmentPaymentDto) (f : Unit → Request α) (db : Db)
    (rest : ∀ db', settling.Safe (f ()) db') :
    settling.Safe (reportPayment ctx fresh c owed dto >>= f) db := by
  unfold reportPayment
  rw [Prog.bind_assoc]
  apply settling_read
  intro db₁ _
  dsimp only
  split
  · apply settling.safe_require
    intro _
    exact rest db₁
  · simp only [Prog.bind_assoc]
    apply settling.safe_liftExcept
    intro _ _
    apply settling_read
    intro db₂ _
    apply settling_append
      { entryFor ctx fresh c .paymentReported _ with
        method := _
        receivingAccountId := _
        accountLabelSnapshot := _
        reference := _
        evidenceRef := _
        clientUuid := _
        clientRequestHash := _ }
    · exact .inl rfl
    · intro debit
      cases debit
    · intro confirms
      cases confirms
    · exact rest

theorem settling_payment (fresh id : Id) (dto : ConsignmentPaymentDto) (db : Db) :
    settling.Safe (payment ctx fresh id dto) db := by
  unfold payment requireSide
  apply settling_mine
  intro c db₁
  apply settling.safe_expect
  intro _ _
  apply settling_read
  intro db₂ _
  dsimp only
  cases dto.action with
  | report =>
      exact settling_reportPayment ctx fresh c _ dto _ db₂ (fun db => settling_get ctx id db)
  | confirm =>
      exact settling_confirmPayment ctx fresh c dto _ db₂ (fun db => settling_get ctx id db)

theorem settling_forgive (fresh id : Id) (dto : ForgiveDto) (db : Db) :
    settling.Safe (forgive ctx fresh id dto) db := by
  unfold forgive
  apply settling_mine
  intro c db₁
  apply settling_assertSource
  apply settling_read
  intro db₂ _
  apply settling.safe_liftExcept
  intro _ allowed
  have fits : dto.amount.cents ≤ owed db₂ c.id :=
    (Settlement.assertForgivenessAllowed_ok _ _ _ ((except_mapError_ok _ _ _).mp allowed)).2
  exact settling_append
    { entryFor ctx fresh c .forgiven dto.amount.cents with
      reason := some (trim dto.reason) } _ db₂ (.inr rfl)
    (fun _ => fits)
    (fun confirms => by cases confirms)
    (fun db₃ => settling_settleIfClear ctx c.id .forgivenSettled _ db₃
      (fun db => settling_get ctx id db))

end Safety

/-- In every interleaving where no append spoils a check already made, no consignment is
overpaid, no report is confirmed twice, and what is settled owes nothing. -/
theorem isolated_run_cleared (db : Db) (c : Config Db Mark Refusal ConsignmentView)
    (start : Cleared db) (run : Run IsSettlement isolated (Config.idle db) c) :
    Cleared c.store := by
  have sound : settling.Sound c := by
    refine settling.run_sound IsSettlement isolated ?_ (fun db m m' db' allowed _ own =>
      guar_rely db m m' db' allowed own) (Config.idle db) c run
      (settling.sound_idle db start)
    intro p issued db _
    cases issued with
    | payment ctx fresh id dto => exact settling_payment ctx fresh id dto db
    | forgive ctx fresh id dto => exact settling_forgive ctx fresh id dto db
  exact sound.1

instance (id : Id) (kind : LedgerKind) (refersToId : Option Id) (id' : Id) (kind' : LedgerKind)
    (refersToId' : Option Id) : Decidable (Spoils id kind refersToId id' kind' refersToId') :=
  inferInstanceAs (Decidable (_ ∨ _))

instance (db : Db) : (m m' : Mark) → Decidable (isolated db m m')
  | .other, _ => .isTrue trivial
  | .checked _ _ _, _ => .isTrue trivial
  | .append _ _ _, .other => .isTrue trivial
  | .append _ _ _, .checked _ _ _ => inferInstanceAs (Decidable (¬ Spoils ..))
  | .append _ _ _, .append _ _ _ => inferInstanceAs (Decidable (¬ Spoils ..))

/-- A consignment of 500.00 that is sold, and reported paid by the holder. -/
def soldAndReported : Db :=
  (play shelf (delivery [301] ++ [⟨holder, .reportSold 400 100 {}⟩,
    ⟨holder, .payment 401 100
      { action := .report
        amount := some 50000
        method := some .cash }⟩])).1

theorem cleared_of_raised
    (raised : ∀ entry ∈ db.consignmentLedger.rows, 0 ≤ balanceEffect entry.kind * entry.amount ∧
      entry.kind ≠ .paymentConfirmed)
    (standing : ∀ c ∈ db.consignments.rows, ¬ closed c) : Cleared db := by
  refine ⟨?_, ?_, fun c member ended => absurd ended (standing c member)⟩
  · intro id
    apply List.sum_nonneg
    intro effect member
    obtain ⟨row, listed, rfl⟩ := List.mem_map.mp member
    obtain ⟨entry, stored, rfl⟩ := List.mem_map.mp listed
    exact (raised entry (List.mem_filter.mp stored).1).1
  · intro first member _ _ confirmed
    exact absurd confirmed (raised first member).2

instance (c : Consignment) : Decidable (closed c) := inferInstanceAs (Decidable (_ ∨ _))

theorem soldAndReported_cleared : Cleared soldAndReported :=
  cleared_of_raised soldAndReported (by decide +kernel) (by decide +kernel)

def confirmReport (fresh : Id) : Request ConsignmentView :=
  payment sender fresh 100 { action := .confirm, entryId := some 401 }

def overlappingConfirmations : List (Move Db Mark Refusal ConsignmentView) :=
  [.arrive (confirmReport 402), .arrive (confirmReport 403)] ++
    List.replicate 4 (.advance 0) ++ List.replicate 4 (.advance 1) ++ [.advance 0, .advance 1]

/-- One confirmation runs to its end before the other reads the ledger. -/
def separateConfirmations : List (Move Db Mark Refusal ConsignmentView) :=
  [.arrive (confirmReport 402), .arrive (confirmReport 403)] ++
    List.replicate 8 (.advance 0) ++ List.replicate 8 (.advance 1)

private theorem confirmReports_issued (p : Request ConsignmentView)
    (member : .arrive p ∈ overlappingConfirmations ∨ .arrive p ∈ separateConfirmations) :
    IsSettlement p := by
  simp only [overlappingConfirmations, separateConfirmations, List.mem_append, List.mem_cons,
    List.not_mem_nil, List.mem_replicate, Move.arrive.injEq, reduceCtorEq, and_false,
    or_false, or_self] at member
  rcases member with rfl | rfl
  · exact .payment _ _ _ _
  · exact .payment _ _ _ _

theorem settlement_overpays :
    ¬ ∀ (db : Db) (c : Config Db Mark Refusal ConsignmentView), Cleared db →
      Run IsSettlement anyOrder (Config.idle db) c → Cleared c.store := by
  intro claim
  have cleared := claim soldAndReported _ soldAndReported_cleared
    (schedule_run IsSettlement anyOrder _ overlappingConfirmations
      (fun p member => confirmReports_issued p (.inl member)) (admits_anyOrder _ _))
  have overpaid : owed ((Config.idle soldAndReported).schedule overlappingConfirmations).store 100 =
      -50000 := by decide +kernel
  have bound := cleared.nonneg 100
  omega

theorem isolated_run_cleared_separate :
    ((Config.idle soldAndReported).schedule separateConfirmations).store.consignments.rows.map
        Consignment.status = [.settled] ∧
      Cleared ((Config.idle soldAndReported).schedule separateConfirmations).store := by
  refine ⟨by decide +kernel, isolated_run_cleared soldAndReported _ soldAndReported_cleared ?_⟩
  exact schedule_run IsSettlement isolated _ separateConfirmations
    (fun p member => confirmReports_issued p (.inr member)) (by decide +kernel)

end ErpBackend.Consignments
