import ErpBackend.Suppliers.Movements

/-!
# The books of the suppliers under interleaving

Every statement of a purchase, of a payment and of a correction is a movement, in
whatever order the requests take their steps.
-/

namespace ErpBackend.Suppliers

open Foundation Purchasing

theorem insertAllocations_rows (companyId settlementId : Id) (ids : Nat → Id) (index : Nat)
    (allocations : List AllocationInput) (db db' : Db)
    (done : insertAllocations companyId settlementId ids index allocations db = .ok db') :
    ∃ table added, db' = { db with supplierSettlementAllocations := table } ∧
      table.rows = db.supplierSettlementAllocations.rows ++ added ∧
      added.map toInput = allocations ∧
      ∀ allocation ∈ added, allocation.settlementId = settlementId ∧
        allocation.companyId = companyId ∧ 0 < allocation.amount := by
  induction allocations generalizing index db with
  | nil =>
      cases done
      exact ⟨db'.supplierSettlementAllocations, [], rfl, (List.append_nil _).symm, rfl,
        fun _ member => by cases member⟩
  | cons first rest ih =>
      obtain ⟨written, one, others⟩ := (except_bind_ok _ _ _).mp done
      obtain ⟨positive, -, opened, inserted, rfl⟩ := insertAllocation_ok one
      obtain ⟨table, added, rfl, rows, inputs, own⟩ := ih _ _ others
      refine ⟨table, ⟨ids index, companyId, settlementId, first.purchaseId, first.amount⟩ :: added,
        rfl, ?_, ?_, ?_⟩
      · rw [rows, (Table.insert?_some _ _ _ inserted).1, List.append_assoc]
        rfl
      · rw [List.map_cons, inputs]
        rfl
      · intro allocation member
        rcases List.mem_cons.mp member with rfl | later
        · exact ⟨rfl, rfl, positive⟩
        · exact own allocation later

theorem allotted_of_fit {db : Db} {row : SupplierSettlement}
    {allocations : List AllocationInput} {added : List SupplierSettlementAllocation}
    (inputs : added.map toInput = allocations)
    (own : ∀ allocation ∈ added, allocation.settlementId = row.id ∧
      allocation.companyId = row.companyId ∧ 0 < allocation.amount)
    (bought : ∀ allocation ∈ allocations, ∃ purchase,
      db.purchases.find? allocation.purchaseId = some purchase ∧
        purchase.companyId = row.companyId ∧ purchase.supplierId = row.supplierId)
    (total : (allocations.map AllocationInput.amount).sum = row.amount) :
    Allotted db row added := by
  refine ⟨?_, ?_⟩
  · intro allocation member
    obtain ⟨settlement, company, positive⟩ := own allocation member
    refine ⟨settlement, company, positive, ?_⟩
    exact bought (toInput allocation) (inputs ▸ List.mem_map_of_mem member)
  · rw [← total, ← inputs, List.map_map]
    rfl

theorem writeReport_moves {companyId : Id} {ids : SettlementIds} {row : SupplierSettlement}
    {allocations : List AllocationInput} {db db' : Db} (reported : row.status = .reported)
    (company : row.companyId = companyId)
    (bought : ∀ allocation ∈ allocations, ∃ purchase,
      db.purchases.find? allocation.purchaseId = some purchase ∧
        purchase.companyId = row.companyId ∧ purchase.supplierId = row.supplierId)
    (total : (allocations.map AllocationInput.amount).sum = row.amount)
    (done : writeReport companyId ids row allocations db = .ok (db', ())) :
    Reported row db db' := by
  obtain ⟨opened, first, done⟩ := (except_bind_ok _ _ _).mp done
  obtain ⟨written, second, done⟩ := (except_bind_ok _ _ _).mp done
  obtain rfl : written = db' := congrArg Prod.fst (Except.ok.inj done)
  obtain ⟨positive, supplied, supplierSettlements, inserted, rfl⟩ := insertSettlement_ok first
  obtain ⟨table, added, rfl, rows, inputs, own⟩ := insertAllocations_rows _ _ _ _ _ _ _ second
  exact
    { status := reported
      positive
      supplied
      inserted
      allocations := ⟨added, allotted_of_fit inputs (fun allocation member =>
        company ▸ own allocation member) bought total, rows⟩
      suppliers := rfl
      purchases := rfl
      payments := rfl
      corrections := rfl }

theorem writeCorrection_moves {ctx : Ctx} {ids : Nat → Id} {row : SupplierSettlement}
    {dto : CorrectSettlementDto} {method : Method} {account : Option ReceivingAccount}
    {allocations : Option (List AllocationInput)} {db db' : Db}
    (fits : ∀ current, db.supplierSettlements.find? row.id = some current →
      current.companyId = ctx.companyId → ∀ split ∈ allocations,
        (split.map AllocationInput.amount).sum = current.amount ∧
        ∀ allocation ∈ split, ∃ purchase,
          db.purchases.find? allocation.purchaseId = some purchase ∧
            purchase.companyId = current.companyId ∧ purchase.supplierId = current.supplierId)
    (done : writeCorrection ctx ids row dto method account allocations db = .ok db') :
    ∃ current, Amended current db db' := by
  unfold writeCorrection at done
  split at done
  · cases done
  · next supplierSettlements swapped =>
    obtain ⟨current, found, guarded, rfl⟩ := (Table.swap?_some _ _ _ _ _ _).mp swapped
    obtain ⟨company, -, reported⟩ := of_decide_eq_true guarded
    have key : current.id = row.id := Table.key_of_find? _ _ _ found
    rw [← key] at found fits done
    refine ⟨current, ?_⟩
    split at done
    · cases done
      exact
        { found
          status := reported
          settlements := ⟨_, amended_id method account dto, fun _ => rfl, rfl⟩
          allocations := .inl rfl
          suppliers := rfl
          purchases := rfl
          payments := rfl
          corrections := rfl }
    · next split =>
      obtain ⟨table, added, rfl, rows, inputs, own⟩ := insertAllocations_rows _ _ _ _ _ _ _ done
      obtain ⟨total, bought⟩ := fits current found company split rfl
      refine
        { found
          status := reported
          settlements := ⟨_, amended_id method account dto, fun _ => rfl, rfl⟩
          allocations := .inr ⟨added, allotted_of_fit inputs (fun allocation member =>
            company ▸ own allocation member) bought total, ?_⟩
          suppliers := rfl
          purchases := rfl
          payments := rfl
          corrections := rfl }
      rw [rows]
      unfold Table.delete
      rw [company]
      simp

theorem refreshPurchase_rows {companyId purchaseId : Id} {db db' : Db}
    (done : refreshPurchase companyId purchaseId db = .ok db') :
    ∃ purchases, db' = { db with purchases } ∧
      purchases.rows = db.purchases.rows.map (fun purchase =>
        if purchase.id = purchaseId then
          refreshedTo (paidTo db (fun row => row.companyId = companyId)) purchase
        else purchase) := by
  unfold refreshPurchase at done
  dsimp only at done
  split at done
  · cases done
  · next purchases swapped =>
    cases done
    obtain ⟨found, stored, own, rfl⟩ := (Table.swap?_some _ _ _ _ _ _).mp swapped
    refine ⟨_, rfl, ?_⟩
    rw [Table.update, Table.modify_rows]
    apply List.map_congr_left
    intro purchase member
    by_cases same : purchase.id = purchaseId
    · have equal : found = purchase := by
        have again := (Table.find?_some db.purchases purchaseId purchase).mpr ⟨member, same⟩
        exact Option.some.inj (stored.symm.trans again)
      subst same equal
      have ours : found.companyId = companyId := of_decide_eq_true own
      rw [stored]
      simp [ours, refreshedTo, Option.filter]
    · simp [same]

theorem refreshPurchases_rows (companyId : Id) (allocations : List SupplierSettlementAllocation)
    (db db' : Db) (done : refreshPurchases companyId allocations db = .ok db') :
    ∃ purchases, db' = { db with purchases } ∧
      purchases.rows = db.purchases.rows.map (fun purchase =>
        if purchase.id ∈ allocations.map SupplierSettlementAllocation.purchaseId then
          refreshedTo (paidTo db (fun row => row.companyId = companyId)) purchase
        else purchase) := by
  induction allocations generalizing db with
  | nil =>
      cases done
      exact ⟨db'.purchases, rfl, by simp⟩
  | cons allocation rest ih =>
      obtain ⟨refreshed, first, later⟩ := (except_bind_ok _ _ _).mp done
      obtain ⟨once, rfl, rows⟩ := refreshPurchase_rows first
      obtain ⟨purchases, rfl, rows'⟩ := ih _ later
      refine ⟨purchases, rfl, ?_⟩
      have same : paidTo { db with purchases := once } (fun row => row.companyId = companyId) =
          paidTo db (fun row => row.companyId = companyId) := rfl
      rw [rows', same, rows, List.map_map]
      apply List.map_congr_left
      intro purchase _
      by_cases here : purchase.id = allocation.purchaseId
      · simp only [Function.comp_apply, if_pos here, refreshedTo_id, refreshedTo_twice, ite_self]
        simp [here]
      · simp [here]

theorem writeConfirmation_moves (amends : Prop) {ctx : Ctx} {row : SupplierSettlement}
    {expectedVersion : Nat} {allocations : List SupplierSettlementAllocation} {db db' : Db}
    (lasting : ∀ current, db.supplierSettlements.find? row.id = some current →
      current.supplierId = row.supplierId ∧ current.amount = row.amount)
    (complete : ¬ amends → ∀ allocation, allocation ∈ allocations ↔
      allocation ∈ db.supplierSettlementAllocations.rows ∧ allocation.settlementId = row.id ∧
        allocation.companyId = ctx.companyId)
    (done : writeConfirmation ctx row expectedVersion allocations db = .ok db') :
    ∃ current, Confirmed amends current db db' := by
  unfold writeConfirmation at done
  split at done
  · cases done
  · next supplierSettlements swapped =>
    obtain ⟨current, stored, guarded, rfl⟩ := (Table.swap?_some _ _ _ _ _ _).mp swapped
    obtain ⟨company, -, reported⟩ := of_decide_eq_true guarded
    obtain ⟨supplier, amount⟩ := lasting current stored
    have key : current.id = row.id := Table.key_of_find? _ _ _ stored
    split at done
    · cases done
    · next suppliers charged =>
      obtain ⟨debtor, _, -, rfl⟩ := (Table.swap?_some _ _ _ _ _ _).mp charged
      obtain ⟨purchases, rfl, rows⟩ := refreshPurchases_rows _ _ _ _ done
      rw [← key] at stored complete
      refine ⟨current, ?_⟩
      exact
        { found := stored
          status := reported
          settlements := ⟨ctx, by rw [key]⟩
          charged := by
            rw [supplier, amount]
            exact .update _ _ _ (fun supplier =>
              { supplier with balance := supplier.balance - row.amount }) (fun _ => rfl)
                (fun _ => rfl)
          purchases := by
            refine ⟨allocations.map SupplierSettlementAllocation.purchaseId, ?_, ?_, ?_⟩
            · rw [company]
              exact rows
            · intro fixed allocation member own named
              exact List.mem_map_of_mem ((complete fixed allocation).mpr
                ⟨member, own, named.trans company⟩)
            · intro fixed purchaseId member
              obtain ⟨allocation, listed, rfl⟩ := List.mem_map.mp member
              obtain ⟨present, own, -⟩ := (complete fixed allocation).mp listed
              exact ⟨allocation, present, own, rfl⟩
          allocations := rfl
          payments := rfl
          corrections := rfl }

theorem insertCorrection_aside (row : FinancialCorrection) (db db' : Db)
    (done : Corrections.insertCorrection row db = .ok db') : Aside db db' := by
  obtain ⟨financialCorrections, inserted, rfl⟩ := Corrections.insertCorrection_ok _ _ _ done
  refine ⟨rfl, rfl, rfl, rfl, rfl, ?_⟩
  intro id named
  unfold corrected at named ⊢
  obtain ⟨correction, member, aims⟩ := (Table.any_eq_true _ _).mp named
  apply (Table.any_eq_true _ _).mpr
  refine ⟨correction, ?_, aims⟩
  rw [(Table.insert?_some _ _ _ inserted).1]
  exact List.mem_append_left _ member

theorem writeDecision_aside (ctx : Ctx) (id : Id) (expectedVersion : Nat)
    (status : CorrectionStatus) (db db' : Db)
    (done : Corrections.writeDecision ctx id expectedVersion status db = .ok db') :
    Aside db db' := by
  obtain ⟨row, found, -, requested, -, rfl⟩ := Corrections.writeDecision_ok _ _ _ _ _ _ done
  refine ⟨rfl, rfl, rfl, rfl, rfl, ?_⟩
  intro settlementId named
  unfold corrected at named ⊢
  obtain ⟨correction, member, aims⟩ := (Table.any_eq_true _ _).mp named
  apply (Table.any_eq_true _ _).mpr
  refine ⟨correction, (Table.mem_update _ _ _ (Corrections.decided_id ctx status) _).mpr
    (.inl ⟨member, fun own => ?_⟩), aims⟩
  have same : correction = row := by
    have again := (Table.find?_some db.financialCorrections id correction).mpr ⟨member, own⟩
    exact Option.some.inj (again.symm.trans found)
  have approved := (of_decide_eq_true aims).2
  rw [same, requested] at approved
  cases approved

def payables (amends : Prop) (M : Type) : Discipline Db M where
  inv _ := True
  guar _ := Movement amends
  rely _ := Onward amends
  rely_refl _ := .refl
  rely_trans _ _ _ _ first second := first.trans second

section Rules

variable {M : Type} (amends : Prop) {α β : Type} (db : Db)

theorem moves_read (m : M) (query : Db → α) (f : α → Prog Db M Refusal β)
    (rest : ∀ db', Onward amends db db' → (payables amends M).Safe (f (query db')) db') :
    (payables amends M).Safe (Prog.read m query >>= f) db := by
  apply (payables amends M).safe_read
  intro db' onward _
  exact ⟨.refl amends db', rest db' onward⟩

theorem moves_commit (m : M) (body : Db → Except Refusal Db) (f : Unit → Prog Db M Refusal β)
    (commits : ∀ db', Onward amends db db' → ∀ db'', body db' = .ok db'' →
      Movement amends db' db'')
    (rest : ∀ db', (payables amends M).Safe (f ()) db') :
    (payables amends M).Safe (Prog.commit m body >>= f) db := by
  apply (payables amends M).safe_commit
  · intro db' onward _ db'' done
    exact ⟨trivial, commits db' onward db'' done, rest db''⟩
  · exact fun db' => .refl amends db'

theorem moves_recompute (m : M) (companyId branchId : Id) (day : Day) (now : Time)
    (rollupId : Id) (f : Unit → Prog Db M Refusal β)
    (rest : ∀ db', (payables amends M).Safe (f ()) db') :
    (payables amends M).Safe
      (Analytics.recomputeDaily m companyId branchId day now rollupId >>= f) db := by
  unfold Analytics.recomputeDaily
  simp only [Prog.bind_assoc]
  apply moves_read
  intro _ _
  apply moves_read
  intro _ _
  apply moves_read
  intro _ _
  apply moves_read
  intro _ _
  apply moves_read
  intro _ _
  apply moves_commit
  · intro db₁ _ db₂ done
    obtain ⟨dailyRollups, rfl⟩ := Analytics.upsertRollup_ok _ _ _ _ _ _ _ _ done
    exact .aside _ ⟨rfl, rfl, rfl, rfl, rfl, fun _ named => named⟩
  · exact rest

end Rules

section Payments

variable (amends : Prop) {β : Type} (ctx : Ctx) (db : Db)

theorem moves_settlement (id : Id) (f : SettlementView → Request β)
    (rest : ∀ view db', Onward amends db db' → (payables amends Mark).Safe (f view) db') :
    (payables amends Mark).Safe (settlement ctx id >>= f) db := by
  unfold settlement
  rw [Prog.bind_assoc]
  apply moves_read
  intro db' onward
  apply (payables amends Mark).safe_expect
  exact fun view _ => rest view db' onward

theorem safely_settlement (id : Id) : (payables amends Mark).Safe (settlement ctx id) db := by
  rw [← Prog.bind_pure (settlement ctx id)]
  apply moves_settlement
  exact fun _ _ _ => (payables amends Mark).safe_pure _ _

theorem moves_loadSettlement (id : Id) (f : SupplierSettlement → Request β)
    (rest : ∀ row db', Onward amends db db' → db'.supplierSettlements.find? row.id = some row →
      row.companyId = ctx.companyId → (payables amends Mark).Safe (f row) db') :
    (payables amends Mark).Safe (loadSettlement ctx id >>= f) db := by
  unfold loadSettlement
  rw [Prog.bind_assoc]
  apply moves_read
  intro db' onward
  apply (payables amends Mark).safe_expect
  intro row loaded
  obtain ⟨stored, own⟩ := Option.filter_eq_some_iff.mp loaded
  have key : row.id = id := Table.key_of_find? _ _ _ stored
  exact rest row db' onward (key ▸ stored) (of_decide_eq_true own)

theorem moves_findReplay (clientUuid : Id) (fingerprint : String)
    (f : Option SettlementView → Request β)
    (rest : ∀ replay db', Onward amends db db' → (payables amends Mark).Safe (f replay) db') :
    (payables amends Mark).Safe (findReplay ctx clientUuid fingerprint >>= f) db := by
  unfold findReplay
  rw [Prog.bind_assoc]
  apply moves_read
  intro db₁ first
  split
  · exact rest none db₁ first
  · rw [Prog.bind_assoc]
    apply (payables amends Mark).safe_require
    intro _
    rw [Prog.bind_assoc]
    apply moves_settlement
    exact fun view db₂ second => rest (some view) db₂ (first.trans second)

theorem moves_openPurchases (supplierId : Id) (f : List OutstandingPurchase → Request β)
    (rest : ∀ owed db', Onward amends db db' →
      (∀ purchaseId entry, owedOn owed purchaseId = some entry →
        ∃ purchase, db'.purchases.find? purchaseId = some purchase ∧
          purchase.companyId = ctx.companyId ∧ purchase.supplierId = supplierId) →
      (payables amends Mark).Safe (f owed) db') :
    (payables amends Mark).Safe (openPurchases ctx supplierId >>= f) db := by
  unfold openPurchases
  rw [Prog.bind_assoc]
  apply moves_read
  intro db₁ first
  rw [Prog.bind_assoc]
  apply moves_read
  intro db₂ second
  refine rest _ db₂ (first.trans second) ?_
  intro purchaseId entry found
  obtain ⟨member, named⟩ := owedOn_some _ _ _ found
  obtain ⟨listed, -⟩ := List.mem_filter.mp member
  obtain ⟨purchase, present, rfl⟩ := List.mem_map.mp listed
  obtain ⟨stored, ours⟩ := (Table.mem_filter _ _ _).mp
    ((List.mem_insertionSort _).mp present)
  obtain ⟨company, supplier⟩ := of_decide_eq_true ours
  obtain ⟨current, found', company', supplier', -⟩ := second.purchase purchase.id purchase
    ((Table.find?_some _ _ _).mpr ⟨stored, rfl⟩)
  have same : purchase.id = purchaseId := named
  exact ⟨current, same ▸ found', company'.trans company, supplier'.trans supplier⟩

theorem moves_resolveAccount (method : Method) (accountId : Option Id) (mustBeActive : Bool)
    (f : Option ReceivingAccount → Request β)
    (rest : ∀ account db', Onward amends db db' → (payables amends Mark).Safe (f account) db') :
    (payables amends Mark).Safe (resolveAccount ctx method accountId mustBeActive >>= f) db := by
  unfold resolveAccount
  split
  · exact (payables amends Mark).safe_refuse _ _
  · exact rest none db (.refl db)
  · exact (payables amends Mark).safe_refuse _ _
  · rw [Prog.bind_assoc]
    apply moves_read
    intro db' onward
    rw [Prog.bind_assoc]
    apply (payables amends Mark).safe_expect
    intro account _
    rw [Prog.bind_assoc]
    apply (payables amends Mark).safe_require
    intro _
    exact rest (some account) db' onward

theorem fitting_bought {amends : Prop} {companyId supplierId : Id} {amount : Int}
    {allocations : List AllocationInput} {owed : List OutstandingPurchase} {db db' : Db}
    (fits : assertAllocationFits amount allocations owed = .ok ())
    (known : ∀ purchaseId entry, owedOn owed purchaseId = some entry →
      ∃ purchase, db.purchases.find? purchaseId = some purchase ∧
        purchase.companyId = companyId ∧ purchase.supplierId = supplierId)
    (onward : Onward amends db db') (allocation : AllocationInput)
    (member : allocation ∈ allocations) :
    ∃ purchase, db'.purchases.find? allocation.purchaseId = some purchase ∧
      purchase.companyId = companyId ∧ purchase.supplierId = supplierId := by
  obtain ⟨entry, found⟩ := ((assertAllocationFits_ok _ _ _ fits).2 allocation member).2
  obtain ⟨purchase, stored, company, supplier⟩ := known _ entry found
  obtain ⟨current, stored', company', supplier', -⟩ := onward.purchase _ purchase stored
  exact ⟨current, stored', company'.trans company, supplier'.trans supplier⟩

theorem safely_report (ids : SettlementIds) (dto : ReportSettlementDto) :
    (payables amends Mark).Safe (report ctx ids dto) db := by
  unfold report
  apply (payables amends Mark).safe_expect
  intro branchId _
  unfold load
  rw [Prog.bind_assoc]
  apply moves_read
  intro db₁ _
  apply (payables amends Mark).safe_expect
  intro supplier _
  apply (payables amends Mark).safe_require
  intro _
  apply moves_findReplay
  intro replay db₂ _
  cases replay with
  | some view => exact (payables amends Mark).safe_pure _ _
  | none =>
    apply moves_openPurchases
    intro owed db₃ _ known
    apply (payables amends Mark).safe_liftExcept
    intro _ fits
    apply moves_resolveAccount
    intro account db₄ onward
    apply (payables amends Mark).safe_attempt
    · intro db₅ later _ db₆ _ done
      have bought := fun allocation member =>
        fitting_bought fits known (onward.trans later) allocation member
      have reported := writeReport_moves rfl rfl bought
        (assertAllocationFits_total _ _ _ fits) done
      exact ⟨trivial, .report _ db₆ reported, safely_settlement amends ctx db₆ _⟩
    · intro db₅ refusal
      refine ⟨.refl amends db₅, ?_⟩
      unfold recover
      dsimp only
      split
      · apply moves_findReplay
        intro winner db₆ _
        cases winner with
        | none => trivial
        | some view => trivial
      · exact (payables amends Mark).safe_refuse _ _

theorem safely_correct (amending : amends) (ids : Nat → Id) (id : Id)
    (dto : CorrectSettlementDto) :
    (payables amends Mark).Safe (correct ctx ids id dto) db := by
  unfold correct
  apply moves_loadSettlement
  intro row db₁ _ stored own
  apply (payables amends Mark).safe_require
  intro _
  apply moves_resolveAccount
  intro account db₂ first
  -- the row keeps its parties and its amount until the write
  have commits : ∀ db₃ allocations, Onward amends db₂ db₃ →
      (∀ db₄, Onward amends db₃ db₄ → ∀ split ∈ allocations,
        (split.map AllocationInput.amount).sum = row.amount ∧
        ∀ allocation ∈ split, ∃ purchase,
          db₄.purchases.find? allocation.purchaseId = some purchase ∧
            purchase.companyId = ctx.companyId ∧ purchase.supplierId = row.supplierId) →
      (payables amends Mark).Safe (do
        .commit .other (writeCorrection ctx ids row dto (dto.method.getD row.method) account
          allocations)
        settlement ctx id) db₃ := by
    intro db₃ allocations second fits
    apply moves_commit
    · intro db₄ third db₅ done
      obtain ⟨kept, found, company, supplier, amount⟩ :=
        ((first.trans second).trans third).settlement row.id row stored
      obtain ⟨current, amended⟩ := writeCorrection_moves (fun current present ours split given => by
        obtain rfl : kept = current := Option.some.inj (found.symm.trans present)
        obtain ⟨total, bought⟩ := fits db₄ third split given
        rw [amount, ours, supplier]
        exact ⟨total, bought⟩) done
      exact .amend current db₅ amending amended
    · exact fun db₅ => safely_settlement amends ctx db₅ id
  unfold resplit
  cases dto.allocations with
  | none => exact commits db₂ none (.refl db₂) (fun _ _ _ given => by cases given)
  | some split =>
    dsimp only
    rw [Prog.bind_assoc]
    apply moves_openPurchases
    intro owed db₃ second known
    rw [Prog.bind_assoc]
    apply (payables amends Mark).safe_liftExcept
    intro _ fits
    apply commits db₃ _ second
    intro db₄ third allocations given
    obtain rfl := Option.mem_some_iff.mp given
    exact ⟨assertAllocationFits_total _ _ _ fits, fun allocation member =>
      fitting_bought fits known third allocation member⟩

theorem safely_confirm (id : Id) (dto : ConfirmSettlementDto) :
    (payables amends Mark).Safe (confirm ctx id dto) db := by
  unfold confirm
  apply moves_loadSettlement
  intro row db₁ _ stored own
  apply (payables amends Mark).safe_require
  intro _
  apply moves_read
  intro db₂ first
  apply (payables amends Mark).safe_require
  intro _
  apply moves_read
  intro db₃ second
  apply moves_openPurchases
  intro owed db₄ third _
  apply (payables amends Mark).safe_liftExcept
  intro _ _
  apply moves_commit
  · intro db₅ fourth db₆ done
    have since := third.trans fourth
    obtain ⟨kept, found, -, supplier, amount⟩ :=
      ((first.trans second).trans since).settlement row.id row stored
    obtain ⟨listed, found', -⟩ := (first.trans second).settlement row.id row stored
    obtain ⟨current, confirms⟩ := writeConfirmation_moves amends
      (fun current present => by
        obtain rfl : kept = current := Option.some.inj (found.symm.trans present)
        exact ⟨supplier, amount⟩)
      (fun fixed allocation => by
        rw [← since.allocations fixed row.id (by simp [found'])]
        unfold allocationsOf
        simp [Table.mem_filter, and_assoc]) done
    exact .confirm current db₆ confirms
  · exact fun db₆ => safely_settlement amends ctx db₆ id

end Payments

section Others

variable (amends : Prop) {β : Type} (ctx : Ctx) (db : Db)

theorem moves_replay (dto : CreatePurchaseDto)
    (f : Option PurchaseResult → Inventory.Request β)
    (rest : ∀ replay db', (payables amends Inventory.Mark).Safe (f replay) db') :
    (payables amends Inventory.Mark).Safe (Purchasing.findReplay ctx dto >>= f) db := by
  unfold Purchasing.findReplay
  rw [Prog.bind_assoc]
  apply moves_read
  intro db' _
  split
  · exact rest none db'
  · rw [Prog.bind_assoc]
    apply Discipline.safe_require
    intro _
    exact rest _ db'

theorem moves_existing (identifiers : List String) (f : List String → Inventory.Request β)
    (rest : ∀ existing db', (payables amends Inventory.Mark).Safe (f existing) db') :
    (payables amends Inventory.Mark).Safe (existingIdentifiers ctx identifiers >>= f) db := by
  unfold existingIdentifiers
  split
  · exact rest [] db
  · apply moves_read
    exact fun db' _ => rest _ db'

theorem safely_createPurchase (ids : PurchaseIds) (dto : CreatePurchaseDto) :
    (payables amends Inventory.Mark).Safe (createPurchase ctx ids dto) db := by
  unfold createPurchase
  apply Discipline.safe_expect
  intro branchId _
  apply Discipline.safe_require
  intro _
  apply moves_replay
  intro replay db₁
  cases replay with
  | some result => exact (payables amends Inventory.Mark).safe_pure _ _
  | none =>
    apply moves_read
    intro db₂ _
    apply Discipline.safe_expect
    intro supplier _
    apply moves_read
    intro db₃ _
    dsimp only
    apply moves_existing
    intro existing db₄
    have priced := (prepare_priced (Inventory.findProduct db₃ ctx.companyId)
      dto.items).withoutExisting existing
    split
    · exact (payables amends Inventory.Mark).safe_pure _ _
    · next kept =>
      apply Discipline.safe_require
      intro within
      apply Discipline.safe_attempt
      · intro db₅ _ _ db₆ _ done
        exact ⟨trivial, .buy _ db₆
          (writePurchase_ok _ _ _ _ _ _ _ (priced.total_pos kept) within done),
          (payables amends Inventory.Mark).safe_pure _ _⟩
      · intro db₅ refusal
        refine ⟨.refl amends db₅, ?_⟩
        unfold Purchasing.recover
        dsimp only
        split
        · apply moves_replay
          intro winner db₆
          cases winner with
          | none => trivial
          | some result => trivial
        · exact (payables amends Inventory.Mark).safe_refuse _ _

theorem moves_loadCorrection (id : Id) (f : FinancialCorrection → Inventory.Request β)
    (rest : ∀ correction db', (payables amends Inventory.Mark).Safe (f correction) db') :
    (payables amends Inventory.Mark).Safe (Corrections.load ctx id >>= f) db := by
  unfold Corrections.load
  rw [Prog.bind_assoc]
  apply moves_read
  intro db' _
  apply Discipline.safe_expect
  exact fun correction _ => rest correction db'

theorem safely_loadCorrection (id : Id) :
    (payables amends Inventory.Mark).Safe (Corrections.load ctx id) db := by
  rw [← Prog.bind_pure (Corrections.load ctx id)]
  apply moves_loadCorrection
  exact fun _ _ => (payables amends Inventory.Mark).safe_pure _ _

theorem safely_requestCorrection (id : Id) (dto : Corrections.RequestCorrectionDto) :
    (payables amends Inventory.Mark).Safe (Corrections.request ctx id dto) db := by
  unfold Corrections.request
  apply Discipline.safe_expect
  intro _ _
  apply Discipline.safe_liftExcept
  intro reason _
  apply moves_read
  intro db₁ _
  split
  · apply Discipline.safe_require
    intro _
    exact safely_loadCorrection amends ctx db₁ _
  · apply moves_read
    intro db₂ _
    apply Discipline.safe_liftExcept
    intro target _
    apply moves_read
    intro db₃ _
    apply Discipline.safe_liftExcept
    intro _ _
    apply Discipline.safe_liftExcept
    intro _ _
    apply moves_commit
    · exact fun db₄ _ db₅ done => .aside db₅ (insertCorrection_aside _ db₄ db₅ done)
    · exact fun db₅ => safely_loadCorrection amends ctx db₅ id

theorem safely_rejectCorrection (id : Id) (dto : Corrections.DecideCorrectionDto) :
    (payables amends Inventory.Mark).Safe (Corrections.reject ctx id dto) db := by
  unfold Corrections.reject
  apply moves_loadCorrection
  intro correction db₁
  apply Discipline.safe_liftExcept
  intro _ _
  apply moves_commit
  · exact fun db₂ _ db₃ done => .aside db₃ (writeDecision_aside _ _ _ _ db₂ db₃ done)
  · exact fun db₃ => safely_loadCorrection amends ctx db₃ id

theorem safely_approveCorrection (rollupId id : Id) (dto : Corrections.DecideCorrectionDto) :
    (payables amends Inventory.Mark).Safe (Corrections.approve ctx rollupId id dto) db := by
  unfold Corrections.approve
  apply moves_loadCorrection
  intro correction db₁
  apply Discipline.safe_liftExcept
  intro _ _
  apply moves_read
  intro db₂ _
  apply Discipline.safe_liftExcept
  intro _ _
  apply moves_commit
  · exact fun db₃ _ db₄ done => .aside db₄ (writeDecision_aside _ _ _ _ db₃ db₄ done)
  · intro db₄
    have posts : ∀ db₅, (payables amends Inventory.Mark).Safe (do
        Analytics.recomputeDaily .other ctx.companyId correction.branchId ctx.today ctx.now
          rollupId
        Corrections.load ctx id) db₅ := by
      intro db₅
      apply moves_recompute
      exact fun db₆ => safely_loadCorrection amends ctx db₆ id
    unfold Corrections.supersedeTarget
    split
    · exact posts db₄
    · apply Discipline.safe_execute
      intro db₅ _ _
      exact ⟨trivial, .aside _ ⟨rfl, rfl, rfl, rfl, rfl, fun _ named => named⟩, posts _⟩

end Others

inductive Issued (amends : Prop) : Inventory.Request Unit → Prop
  | createPurchase (ctx : Ctx) (ids : PurchaseIds) (dto : CreatePurchaseDto) :
      Issued amends (createPurchase ctx ids dto).void
  | report (ctx : Ctx) (ids : SettlementIds) (dto : ReportSettlementDto) :
      Issued amends ((report ctx ids dto).relabel (fun _ => .other)).void
  | correct (amending : amends) (ctx : Ctx) (ids : Nat → Id) (id : Id)
      (dto : CorrectSettlementDto) :
      Issued amends ((correct ctx ids id dto).relabel (fun _ => .other)).void
  | confirm (ctx : Ctx) (id : Id) (dto : ConfirmSettlementDto) :
      Issued amends ((confirm ctx id dto).relabel (fun _ => .other)).void
  | requestCorrection (ctx : Ctx) (id : Id) (dto : Corrections.RequestCorrectionDto) :
      Issued amends (Corrections.request ctx id dto).void
  | approveCorrection (ctx : Ctx) (rollupId id : Id) (dto : Corrections.DecideCorrectionDto) :
      Issued amends (Corrections.approve ctx rollupId id dto).void
  | rejectCorrection (ctx : Ctx) (id : Id) (dto : Corrections.DecideCorrectionDto) :
      Issued amends (Corrections.reject ctx id dto).void

theorem Issued.safe {amends : Prop} {p : Inventory.Request Unit} (issued : Issued amends p)
    (db : Db) : (payables amends Inventory.Mark).Safe p db := by
  have relabelled : ∀ {α : Type} (q : Request α), (payables amends Mark).Safe q db →
      (payables amends Inventory.Mark).Safe (q.relabel (fun _ => Inventory.Mark.other)) db :=
    fun q safe => (payables amends Inventory.Mark).safe_relabel _ q db safe
  cases issued with
  | createPurchase ctx ids dto =>
      exact (payables amends Inventory.Mark).safe_void _ _
        (safely_createPurchase amends ctx db ids dto)
  | report ctx ids dto =>
      exact (payables amends Inventory.Mark).safe_void _ _
        (relabelled _ (safely_report amends ctx db ids dto))
  | correct amending ctx ids id dto =>
      exact (payables amends Inventory.Mark).safe_void _ _
        (relabelled _ (safely_correct amends ctx db amending ids id dto))
  | confirm ctx id dto =>
      exact (payables amends Inventory.Mark).safe_void _ _
        (relabelled _ (safely_confirm amends ctx db id dto))
  | requestCorrection ctx id dto =>
      exact (payables amends Inventory.Mark).safe_void _ _
        (safely_requestCorrection amends ctx db id dto)
  | approveCorrection ctx rollupId id dto =>
      exact (payables amends Inventory.Mark).safe_void _ _
        (safely_approveCorrection amends ctx db rollupId id dto)
  | rejectCorrection ctx id dto =>
      exact (payables amends Inventory.Mark).safe_void _ _
        (safely_rejectCorrection amends ctx db id dto)

abbrev PayablesRun (amends : Prop) :
    Config Db Inventory.Mark Refusal Unit → Config Db Inventory.Mark Refusal Unit → Prop :=
  Run (Issued amends) anyOrder

theorem run_payables (amends : Prop) (db : Db) (c : Config Db Inventory.Mark Refusal Unit)
    (run : PayablesRun amends (.idle db) c) : (payables amends Inventory.Mark).Sound c :=
  (payables amends Inventory.Mark).run_sound (Issued amends) anyOrder
    (fun _ issued db' _ => issued.safe db') (fun _ _ _ _ _ _ moved => moved.onward) _ _ run
    ((payables amends Inventory.Mark).sound_idle db trivial)

theorem run_keeps (amends : Prop) (kept : Db → Prop)
    (step : ∀ db db', Movement amends db db' → kept db → kept db') (db : Db)
    (c : Config Db Inventory.Mark Refusal Unit) (run : PayablesRun amends (.idle db) c)
    (start : kept db) : kept c.store := by
  induction run with
  | refl => exact start
  | tail earlier last ih =>
      have sound := run_payables amends db _ earlier
      apply step _ _ ?_ ih
      cases last with
      | arrive s inFlight p issued => exact .refl amends s
      | advance s before after m write next others => exact sound.guar

end ErpBackend.Suppliers
