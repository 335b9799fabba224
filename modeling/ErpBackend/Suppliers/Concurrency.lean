import ErpBackend.Suppliers.Effects

/-!
# Concurrent confirmations

A confirmation compares its allocations with what is outstanding before it
writes, and nothing makes the comparison hold at the write. It does when no
other confirmation that has already compared would, with this one, pay a
purchase past its total.
-/

namespace ErpBackend.Suppliers

open Foundation

inductive IsRequest : Request Unit → Prop
  | report (ctx : Ctx) (ids : SettlementIds) (dto : ReportSettlementDto) :
      IsRequest (report ctx ids dto).void
  | confirm (ctx : Ctx) (id : Id) (dto : ConfirmSettlementDto) :
      IsRequest (confirm ctx id dto).void

def pending (db : Db) (settlementId : Id) : Bool :=
  (db.supplierSettlements.find? settlementId).any (fun row => row.status = .reported)

/-- Two payments about to be confirmed leave every purchase they share within its
total. -/
def isolated (db : Db) : Mark → Mark → Prop
  | .confirm first, .confirm second =>
      first ≠ second → pending db first = true → pending db second = true →
        ∀ one ∈ allocationsOf db first, ∀ other ∈ allocationsOf db second,
          one.purchaseId = other.purchaseId →
            (db.purchases.find? one.purchaseId).all (fun purchase =>
              confirmedFor db one.purchaseId + one.amount + other.amount ≤ purchase.total) = true
  | _, _ => True

instance (db : Db) (m m' : Mark) : Decidable (isolated db m m') :=
  match m, m' with
  | .confirm _, .confirm _ => by unfold isolated; infer_instance
  | .other, _ => .isTrue trivial
  | .confirm _, .other => .isTrue trivial

def Ready (settlementId : Id) (db : Db) : Prop :=
  ∃ row, db.supplierSettlements.find? settlementId = some row ∧
    (row.status = .reported → ∀ allocation ∈ db.supplierSettlementAllocations.rows,
      allocation.settlementId = settlementId →
        ∃ purchase, db.purchases.find? allocation.purchaseId = some purchase ∧
          confirmedFor db allocation.purchaseId + allocation.amount ≤ purchase.total)

/-- Only a confirmation makes allocations count, and only its own payment's. -/
def Pays (m : Mark) (db db' : Db) : Prop :=
  (∀ purchaseId, confirmedFor db' purchaseId = confirmedFor db purchaseId) ∨
    ∃ settlementId, m = .confirm settlementId ∧ pending db settlementId = true ∧
      pending db' settlementId = false ∧
      ∀ purchaseId, confirmedFor db' purchaseId ≤
        confirmedFor db purchaseId + allocatedBy db settlementId purchaseId

def Steady : Mark → Db → Db → Prop
  | .other, _, _ => True
  | .confirm settlementId, db, db' => Ready settlementId db → Ready settlementId db'

theorem pending_iff (db : Db) (settlementId : Id) :
    pending db settlementId = true ↔ ∃ row,
      db.supplierSettlements.find? settlementId = some row ∧ row.status = .reported := by
  unfold pending
  rcases db.supplierSettlements.find? settlementId with _ | row
  · simp
  · simp

theorem Ready.keep {m : Mark} {settlementId : Id} {db db' : Db} (recorded : Recorded db)
    (later : Later db db') (pays : Pays m db db')
    (allowed : isolated db m (.confirm settlementId)) (ready : Ready settlementId db) :
    Ready settlementId db' := by
  obtain ⟨row, found, fits⟩ := ready
  obtain ⟨row', found', -, -, status⟩ := later.settlement settlementId row found
  refine ⟨row', found', fun reported allocation member own => ?_⟩
  have waiting : row.status = .reported := status reported
  have old := later.allocation settlementId (by simp [found]) allocation member own
  obtain ⟨purchase, bought, within⟩ := fits waiting allocation old own
  obtain ⟨purchase', bought', -, -, total⟩ := later.purchase _ purchase bought
  refine ⟨purchase', bought', ?_⟩
  rw [total]
  rcases pays with same | ⟨confirming, rfl, before, after, bound⟩
  · rw [same]
    exact within
  · have counted := bound allocation.purchaseId
    by_cases again : confirming = settlementId
    · subst again
      have still : pending db' confirming = true :=
        (pending_iff db' confirming).mpr ⟨row', found', reported⟩
      rw [still] at after
      cases after
    · rcases allocatedBy_cases recorded confirming allocation.purchaseId with
        none_shared | ⟨one, listed, named, shared, amount⟩
      · omega
      · have mine : allocation ∈ allocationsOf db settlementId :=
          (Table.mem_filter _ _ _).mpr ⟨old, by simp [own]⟩
        have theirs : one ∈ allocationsOf db confirming :=
          (Table.mem_filter _ _ _).mpr ⟨listed, by simp [named]⟩
        have both := allowed again before ((pending_iff db settlementId).mpr ⟨row, found, waiting⟩)
          one theirs allocation mine shared
        rw [shared, bought] at both
        simp only [Option.all_some, decide_eq_true_eq] at both
        omega

def discipline : Discipline Db Mark where
  inv db := Recorded db ∧ WithinTotals db
  guar m db db' := Later db db' ∧ Pays m db db'
  rely m db db' := Later db db' ∧ Steady m db db'
  rely_refl m db := by
    refine ⟨.refl db, ?_⟩
    cases m with
    | other => trivial
    | confirm settlementId => exact fun ready => ready
  rely_trans m db db' db'' first second := by
    refine ⟨first.1.trans second.1, ?_⟩
    cases m with
    | other => trivial
    | confirm settlementId => exact fun ready => second.2 (first.2 ready)

theorem frame (db : Db) (m m' : Mark) (db' : Db) (allowed : isolated db m m')
    (invariant : discipline.inv db) (guaranteed : discipline.guar m db db') :
    discipline.rely m' db db' := by
  refine ⟨guaranteed.1, ?_⟩
  cases m' with
  | other => trivial
  | confirm settlementId =>
      exact Ready.keep invariant.1 guaranteed.1 guaranteed.2 allowed

theorem guar_self (m : Mark) (db : Db) : discipline.guar m db db :=
  ⟨.refl db, .inl (fun _ => rfl)⟩

variable (ctx : Ctx)

section Safety

variable {α β : Type}

theorem safe_query (query : Db → α) (f : α → Request β) (db : Db)
    (rest : ∀ db', Later db db' → discipline.inv db' → discipline.Safe (f (query db')) db') :
    discipline.Safe (Prog.read .other query >>= f) db :=
  discipline.safe_read db .other query f
    (fun db' relied invariant => ⟨guar_self .other db', rest db' relied.1 invariant⟩)

theorem safe_settlement (id : Id) (db : Db) :
    discipline.Safe (settlement ctx id) db := by
  unfold settlement
  apply safe_query
  intro db' _ _
  rcases (findSettlement db' ctx.companyId id).map _ with _ | view
  · trivial
  · trivial

theorem safe_findReplay (clientUuid : Id) (fingerprint : String)
    (f : Option SettlementView → Request β) (db : Db)
    (rest : ∀ db' replay, Later db db' → discipline.Safe (f replay) db') :
    discipline.Safe (findReplay ctx clientUuid fingerprint >>= f) db := by
  unfold findReplay
  rw [Prog.bind_assoc]
  apply safe_query
  intro db' later _
  split
  · exact rest db' none later
  · next row _ =>
    rw [Prog.bind_assoc]
    apply discipline.safe_require
    intro _
    unfold settlement
    rw [Prog.bind_assoc, Prog.bind_assoc]
    apply safe_query
    intro db'' after _
    apply discipline.safe_expect
    intro view _
    exact rest db'' (some view) (later.trans after)

theorem safe_openPurchases (supplierId : Id)
    (f : List OutstandingPurchase → Request β) (db : Db)
    (rest : ∀ db' owed, Later db db' → discipline.inv db' →
      (∀ purchaseId entry, owedOn owed purchaseId = some entry →
        ∃ purchase, db'.purchases.find? purchaseId = some purchase ∧
          purchase.companyId = ctx.companyId ∧ purchase.supplierId = supplierId ∧
          entry.outstanding = purchase.total - confirmedFor db' purchaseId) →
      discipline.Safe (f owed) db') :
    discipline.Safe (openPurchases ctx supplierId >>= f) db := by
  unfold openPurchases
  rw [Prog.bind_assoc]
  apply safe_query
  intro first later _
  rw [Prog.bind_assoc]
  apply safe_query
  intro second after invariant
  refine rest second _ (later.trans after) invariant ?_
  intro purchaseId entry found
  obtain ⟨member, named⟩ := owedOn_some _ _ _ found
  obtain ⟨listed, -⟩ := List.mem_filter.mp member
  obtain ⟨purchase, present, rfl⟩ := List.mem_map.mp listed
  obtain ⟨stored, ours⟩ := (Table.mem_filter _ _ _).mp
    ((List.mem_insertionSort _).mp present)
  simp only [decide_eq_true_eq] at ours
  obtain ⟨current, found', company, supplier, total⟩ := after.purchase purchase.id purchase
    ((Table.find?_some _ _ _).mpr ⟨stored, rfl⟩)
  have keyed := Table.key_of_find? _ _ _ found'
  have id_eq : purchase.id = purchaseId := named
  refine ⟨current, id_eq ▸ found', company.trans ours.1, supplier.trans ours.2, ?_⟩
  have same := paidTo_supplier invariant.1.rooted current (by rw [keyed]; exact found')
  rw [company, ours.1, supplier, ours.2, keyed, id_eq] at same
  show purchase.total - paidTo second _ purchase.id = _
  rw [id_eq, same, total]

theorem safe_resolveAccount (method : Method) (accountId : Option Id)
    (mustBeActive : Bool) (f : Option ReceivingAccount → Request β) (db : Db)
    (rest : ∀ db' account, Later db db' → discipline.Safe (f account) db') :
    discipline.Safe (resolveAccount ctx method accountId mustBeActive >>= f) db := by
  unfold resolveAccount
  split
  · trivial
  · exact rest db none (.refl db)
  · trivial
  · rw [Prog.bind_assoc]
    apply safe_query
    intro db' later _
    rw [Prog.bind_assoc]
    apply discipline.safe_expect
    intro account _
    rw [Prog.bind_assoc]
    apply discipline.safe_require
    intro _
    exact rest db' (some account) later

theorem safe_load (id : Id) (f : Supplier → Request β) (db : Db)
    (rest : ∀ db' supplier, discipline.Safe (f supplier) db') :
    discipline.Safe (load ctx id >>= f) db := by
  unfold load
  rw [Prog.bind_assoc]
  apply safe_query
  intro db' _ _
  apply discipline.safe_expect
  intro supplier _
  exact rest db' supplier

end Safety

theorem safe_report (ids : SettlementIds) (dto : ReportSettlementDto) (db : Db) :
    discipline.Safe (report ctx ids dto) db := by
  unfold report
  apply discipline.safe_expect
  intro branchId _
  apply safe_load
  intro db1 supplier
  apply discipline.safe_require
  intro _
  apply safe_findReplay
  intro db2 replay _
  cases replay with
  | some view => trivial
  | none =>
    apply safe_openPurchases
    intro db3 owed _ _ known
    apply discipline.safe_liftExcept
    intro _ fits
    apply safe_resolveAccount
    intro db4 account later
    apply discipline.safe_attempt
    · intro db5 relied invariant db6 _ done
      have bought : ∀ allocation ∈ dto.allocations.map (fun allocation =>
          (⟨allocation.purchaseId, allocation.amount.cents⟩ : AllocationInput)),
          ∃ purchase, db5.purchases.find? allocation.purchaseId = some purchase ∧
            purchase.companyId = ctx.companyId ∧ purchase.supplierId = dto.supplierId := by
        intro allocation member
        obtain ⟨entry, found⟩ := ((assertAllocationFits_ok _ _ _ fits).2 allocation member).2
        obtain ⟨purchase, stored, company, named, -⟩ := known _ entry found
        obtain ⟨current, stored', company', named', -⟩ :=
          (later.trans relied.1).purchase _ purchase stored
        exact ⟨current, stored', company'.trans company, named'.trans named⟩
      obtain ⟨recorded, after, purchases, confirmed⟩ :=
        writeReport_ok invariant.1 rfl rfl bought done
      refine ⟨⟨recorded, ?_⟩, ⟨after, .inl confirmed⟩, safe_settlement ctx _ db6⟩
      intro purchase member
      rw [purchases] at member
      rw [confirmed]
      exact invariant.2 purchase member
    · intro db5 refusal
      refine ⟨guar_self .other db5, ?_⟩
      unfold recover
      dsimp only
      split
      · apply safe_findReplay
        intro db6 winner _
        cases winner with
        | none => trivial
        | some view => trivial
      · trivial

section Confirming

variable {ctx : Ctx} {row : SupplierSettlement} {expectedVersion : Nat}
  {allocations : List SupplierSettlementAllocation} {db db' : Db}
  (done : writeConfirmation ctx row expectedVersion allocations db = .ok db')

include done

theorem confirmation_settlements : db'.supplierSettlements =
    db.supplierSettlements.update row.id (confirmed ctx) (confirmed_id ctx) := by
  obtain ⟨_, _, _, _, refreshed⟩ := writeConfirmation_ok done
  obtain ⟨purchases, same⟩ := refreshed.frame
  rw [same]

theorem confirmation_keeps :
    db'.supplierSettlementAllocations = db.supplierSettlementAllocations ∧
      db'.financialCorrections = db.financialCorrections := by
  obtain ⟨_, _, _, _, refreshed⟩ := writeConfirmation_ok done
  obtain ⟨purchases, same⟩ := refreshed.frame
  exact ⟨by rw [same], by rw [same]⟩

theorem confirmation_found (id : Id) : db'.supplierSettlements.find? id =
    if id = row.id then (db.supplierSettlements.find? row.id).map (confirmed ctx)
    else db.supplierSettlements.find? id := by
  rw [confirmation_settlements done, Table.find?_update]

theorem confirmation_later : Later db db' := by
  obtain ⟨_, _, _, _, refreshed⟩ := writeConfirmation_ok done
  refine ⟨?_, ?_, refreshed.forward⟩
  · intro id settlement settled
    by_cases own : id = row.id
    · subst own
      refine ⟨confirmed ctx settlement, ?_, rfl, rfl, fun waiting => by cases waiting⟩
      rw [confirmation_found done, if_pos rfl, settled]
      rfl
    · refine ⟨settlement, ?_, rfl, rfl, fun waiting => waiting⟩
      rw [confirmation_found done, if_neg own]
      exact settled
  · intro id _
    unfold allocationsOf
    rw [(confirmation_keeps done).1]

/-- One allocation at a time: either it counted before, or it is this payment's. -/
theorem confirmation_bound (recorded : Recorded db) (purchaseId : Id) :
    confirmedFor db' purchaseId ≤
      confirmedFor db purchaseId + allocatedBy db row.id purchaseId := by
  obtain ⟨unallocated, corrections⟩ := confirmation_keeps done
  unfold confirmedFor paidTo allocatedBy
  rw [← Table.total_add, unallocated]
  apply Table.total_le
  intro allocation member
  have positive := recorded.positive allocation member
  have standing : stands db' = stands db := by
    unfold stands corrected
    rw [corrections]
  rw [confirmation_found done, standing]
  by_cases own : allocation.settlementId = row.id
  · by_cases bought : allocation.purchaseId = purchaseId
    · rw [if_pos (c := (allocation.settlementId, allocation.purchaseId) =
        (row.id, purchaseId)) (by rw [own, bought])]
      split <;> split <;> omega
    · simp [bought]
  · rw [if_neg own, if_neg (c := (allocation.settlementId, allocation.purchaseId) =
      (row.id, purchaseId)) (fun same => own (Prod.mk.inj same).1)]
    omega

theorem confirmation_recorded (recorded : Recorded db) : Recorded db' := by
  obtain ⟨unallocated, -⟩ := confirmation_keeps done
  have later := confirmation_later done
  refine ⟨?_, ?_, ?_⟩
  · intro allocation member
    rw [unallocated] at member
    obtain ⟨settlement, purchase, settled, bought, own, company, supplier⟩ :=
      recorded.rooted allocation member
    obtain ⟨settlement', settled', company', supplier', -⟩ :=
      later.settlement _ settlement settled
    obtain ⟨purchase', bought', company'', supplier'', -⟩ := later.purchase _ purchase bought
    refine ⟨settlement', purchase', settled', bought', ?_, ?_, ?_⟩
    · rw [company', own]
    · rw [company'', company', company]
    · rw [supplier'', supplier', supplier]
  · rw [unallocated]
    exact recorded.positive
  · rw [unallocated]
    exact recorded.single

theorem writeConfirmation_pays (invariant : discipline.inv db) (ready : Ready row.id db) :
    discipline.inv db' ∧ discipline.guar (.confirm row.id) db db' := by
  obtain ⟨recorded, within⟩ := invariant
  obtain ⟨current, suppliers, stored, reported, refreshed⟩ := writeConfirmation_ok done
  have bound := confirmation_bound done recorded
  refine ⟨⟨confirmation_recorded done recorded, ?_⟩, confirmation_later done,
    .inr ⟨row.id, rfl, ?_, ?_, bound⟩⟩
  · intro purchase' member
    obtain ⟨purchase, present, id, total⟩ := refreshed.back purchase' member
    have counted := bound purchase'.id
    have before := within purchase present
    rw [id] at before
    obtain ⟨row', found', fits⟩ := ready
    rw [stored] at found'
    cases found'
    rcases allocatedBy_cases recorded row.id purchase'.id with
      none_here | ⟨allocation, listed, named, bought, amount⟩
    · omega
    · obtain ⟨purchase'', bought', room⟩ := fits reported allocation listed named
      have same_row : purchase'' = purchase := by
        have keyed := (Table.find?_some db.purchases purchase.id purchase).mpr ⟨present, rfl⟩
        rw [bought, ← id, keyed] at bought'
        exact (Option.some.inj bought').symm
      subst same_row
      rw [bought] at room
      omega
  · exact (pending_iff db row.id).mpr ⟨current, stored, reported⟩
  · unfold pending
    rw [confirmation_found done, if_pos rfl, stored]
    simp [confirmed]

end Confirming

theorem safe_confirm (id : Id) (dto : ConfirmSettlementDto) (db : Db) :
    discipline.Safe (confirm ctx id dto) db := by
  unfold confirm loadSettlement
  rw [Prog.bind_assoc]
  apply safe_query
  intro db1 _ _
  apply discipline.safe_expect
  intro row loaded
  obtain ⟨stored, own⟩ := Option.filter_eq_some_iff.mp loaded
  have keyed : row.id = id := Table.key_of_find? _ _ _ stored
  rw [← keyed] at stored
  simp only [decide_eq_true_eq] at own
  apply discipline.safe_require
  intro _
  apply safe_query
  intro db2 later1 _
  apply discipline.safe_require
  intro _
  apply safe_query
  intro db3 later2 _
  apply safe_openPurchases
  intro db4 owed later3 invariant known
  apply discipline.safe_liftExcept
  intro _ payable
  have since1 : Later db1 db3 := later1.trans later2
  have ready : Ready row.id db4 := by
    obtain ⟨row3, stored3, company3, supplier3, -⟩ := since1.settlement row.id row stored
    obtain ⟨row4, stored4, company4, supplier4, -⟩ := later3.settlement row.id row3 stored3
    refine ⟨row4, stored4, fun _ allocation member named => ?_⟩
    have listed := later3.allocation row.id (by simp [stored3]) allocation member named
    obtain ⟨settlement, purchase, settled, -, company, -⟩ :=
      invariant.1.rooted allocation member
    rw [named, stored4] at settled
    cases settled
    have read : toInput allocation ∈ ((allocationsOf db3 row.id).filter (fun allocation =>
        allocation.companyId = ctx.companyId)).map toInput := by
      apply List.mem_map_of_mem
      rw [List.mem_filter]
      refine ⟨(Table.mem_filter _ _ _).mpr ⟨listed, by simp [named]⟩, ?_⟩
      simp [company, company4, company3, own]
    obtain ⟨entry, found, fits⟩ := assertStillPayable_ok _ _ payable _ read
    obtain ⟨current, bought, -, -, outstanding⟩ := known _ entry found
    refine ⟨current, bought, ?_⟩
    have amount : allocation.amount ≤ entry.outstanding := fits
    have left : entry.outstanding =
        current.total - confirmedFor db4 allocation.purchaseId := outstanding
    omega
  apply discipline.safe_commit
  · intro db5 relied invariant' db6 done
    obtain ⟨kept, guaranteed⟩ := writeConfirmation_pays done invariant' (relied.2 ready)
    exact ⟨kept, guaranteed, safe_settlement ctx id db6⟩
  · exact fun db5 => guar_self _ db5

theorem safe_request (p : Request Unit) (issued : IsRequest p) (db : Db) :
    discipline.Safe p db := by
  cases issued with
  | report ctx ids dto => exact discipline.safe_void db _ (safe_report ctx ids dto db)
  | confirm ctx id dto => exact discipline.safe_void db _ (safe_confirm ctx id dto db)

/-- No purchase is paid past its total in a run where, whenever a confirmation commits,
no other payment already found payable shares a purchase with it beyond what is owed. -/
theorem confirmed_within_total (db : Db) (recorded : Recorded db) (within : WithinTotals db)
    (c : Config Db Mark Refusal Unit) (run : Run IsRequest isolated (.idle db) c) :
    WithinTotals c.store := by
  have sound := discipline.run_sound IsRequest isolated
    (fun p issued s _ => safe_request p issued s) frame _ c run
    (discipline.sound_idle db ⟨recorded, within⟩)
  exact sound.1.2

def owing : Db where
  suppliers := ⟨[⟨20, 10, 10000, none⟩], by decide⟩
  purchases := ⟨[
    { id := 30
      companyId := 10
      branchId := 1
      supplierId := 20
      date := 500
      total := 10000
      amountPaid := 0
      status := .unpaid }], by decide⟩

theorem recorded_owing : Recorded owing where
  rooted _ member := by cases member
  positive _ member := by cases member
  single := List.nodup_nil

def clerk : Ctx where
  companyId := 10
  branchId := some 1
  userId := some 7
  now := 1000

def pay (settlementId clientUuid : Id) (amount : Amount) : Request Unit :=
  (report clerk ⟨settlementId, fun index => settlementId + 1 + index⟩
    { supplierId := 20
      amount
      method := .cash
      allocations := [⟨30, amount⟩]
      clientUuid }).void

def vouch (settlementId : Id) : Request Unit := (confirm clerk settlementId ⟨0⟩).void

/-- Two payments of one amount are reported, and both confirmations have read what is
outstanding before either commits. -/
def bothConfirmed (amount : Amount) : List (Move Db Mark Refusal Unit) :=
  [.arrive (pay 40 60 amount)] ++ List.replicate 6 (.advance 0) ++
  [.arrive (pay 50 70 amount)] ++ List.replicate 6 (.advance 1) ++
  [.arrive (vouch 40), .arrive (vouch 50)] ++
    List.replicate 5 (.advance 2) ++ List.replicate 5 (.advance 3) ++ [.advance 2, .advance 3]

private theorem bothConfirmed_requests (amount : Amount) (p : Request Unit)
    (member : .arrive p ∈ bothConfirmed amount) : IsRequest p := by
  simp only [bothConfirmed, List.mem_append, List.mem_cons, List.not_mem_nil,
    List.mem_replicate, Move.arrive.injEq, reduceCtorEq, and_false, or_false] at member
  rcases member with (rfl | rfl) | rfl | rfl
  · exact .report _ _ _
  · exact .report _ _ _
  · exact .confirm _ _ _
  · exact .confirm _ _ _

theorem confirmations_exceed_total :
    ¬ ∀ (db : Db) (c : Config Db Mark Refusal Unit), Recorded db → WithinTotals db →
      Run IsRequest anyOrder (.idle db) c → WithinTotals c.store := by
  intro claim
  have within := claim owing _ recorded_owing (by decide)
    (schedule_run IsRequest anyOrder _ (bothConfirmed ⟨10000, by decide⟩)
      (bothConfirmed_requests _) (admits_anyOrder _ _))
  have paid : confirmedFor ((Config.idle owing).schedule
      (bothConfirmed ⟨10000, by decide⟩)).store 30 = 20000 := by decide
  have listed : ((Config.idle owing).schedule
      (bothConfirmed ⟨10000, by decide⟩)).store.purchases.rows.map (fun purchase =>
        (purchase.id, purchase.total)) = [(30, 10000)] := by decide
  obtain ⟨purchase, member, same⟩ :=
    List.mem_map.mp (listed ▸ List.mem_singleton_self ((30 : Id), (10000 : Int)))
  obtain ⟨id, total⟩ := Prod.mk.inj same
  have bound := within purchase member
  rw [id, paid, total] at bound
  omega

/-- Two halves of the debt, confirmed in the same interleaving. -/
theorem confirmed_within_total_halves :
    Recorded owing ∧ WithinTotals owing ∧
      (Config.idle owing).Admits isolated (bothConfirmed ⟨5000, by decide⟩) ∧
      confirmedFor ((Config.idle owing).schedule (bothConfirmed ⟨5000, by decide⟩)).store 30 =
        10000 ∧
      WithinTotals ((Config.idle owing).schedule (bothConfirmed ⟨5000, by decide⟩)).store := by
  have admitted : (Config.idle owing).Admits isolated (bothConfirmed ⟨5000, by decide⟩) := by
    decide
  exact ⟨recorded_owing, by decide, admitted, by decide,
    confirmed_within_total owing recorded_owing (by decide) _
      (schedule_run IsRequest isolated _ _ (bothConfirmed_requests _) admitted)⟩

end ErpBackend.Suppliers
