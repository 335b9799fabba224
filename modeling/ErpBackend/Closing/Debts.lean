import ErpBackend.Foundation.Answers
import ErpBackend.Schema

/-!
# What somebody owes

`debt-rules.ts` and `DiscrepanciesService.addEntry`: a ledger of charges and of what is paid back,
withheld or written off. The balance is derived from the rows; an entry is allowed by a balance
that was read before, and the row is appended without a look at it.
-/

namespace ErpBackend.Closing.Debts

open Foundation

inductive DebtEntryKind where
  | charge
  | repayment
  | deduction
  | forgiveness
  deriving DecidableEq, Repr

inductive DebtRepaymentMethod where
  | cash
  | account
  | payroll
  deriving DecidableEq, Repr

/-- `ENTRY_SIGN`. -/
def entrySign : DebtEntryKind → Int
  | .charge => 1
  | .repayment | .deduction | .forgiveness => -1

structure EmployeeDebtEntry where
  id : Id
  companyId : Id
  branchId : Id
  userId : Id
  discrepancyId : Option Id := none
  kind : DebtEntryKind
  amount : Int
  reason : String
  method : Option DebtRepaymentMethod
  reference : Option String
  entryDate : Day
  createdById : Id
  clientUuid : Option Id
  deriving DecidableEq

structure Person where
  id : Id
  companyId : Id
  deriving DecidableEq

structure DebtDb where
  people : Table Person Person.id := .empty
  entries : Table EmployeeDebtEntry EmployeeDebtEntry.id := .empty

/-- A row that is about to be appended: the entries of the person as they were read, and how much
it takes off what the person owes. -/
inductive Mark where
  | other
  | append (companyId userId : Id) (read : List EmployeeDebtEntry) (amount : Int)
  deriving DecidableEq

abbrev Request (α : Type) := Prog DebtDb Mark Refusal α

def balanceOf (entries : List (DebtEntryKind × Int)) : Int :=
  (entries.map (fun entry => entrySign entry.1 * entry.2)).sum

structure CreateDebtEntryDto where
  userId : Id
  kind : DebtEntryKind
  standalone : kind ≠ .charge
  amount : Amount
  reason : String
  method : Option DebtRepaymentMethod := none
  reference : Option String := none
  entryDate : Option Day := none
  clientUuid : Option Id := none

/-- The rule of a standalone entry, before the balance is looked at. -/
def assertEntryFormed (kind : DebtEntryKind) (amount : Int) (reason : String)
    (method : Option DebtRepaymentMethod) : Except Refusal Unit :=
  if trim reason = "" then .error (.badRequest "Every ledger entry requires a reason")
  else if ¬ 0 < amount then .error (.badRequest "A ledger entry is a positive amount")
  else if kind = .charge then
    .error (.badRequest "A charge comes from resolving a discrepancy, never on its own")
  else if kind = .repayment ∧ method = none then
    .error (.badRequest "A repayment must say how it arrived")
  else if kind ≠ .repayment ∧ method ≠ none then
    .error (.badRequest "Only a repayment arrives by a method")
  else .ok ()

def assertEntryAllowed (kind : DebtEntryKind) (amount : Int) (reason : String)
    (method : Option DebtRepaymentMethod) (outstanding : Int) : Except Refusal Unit := do
  assertEntryFormed kind amount reason method
  if outstanding < amount then
    .error (.badRequest ("That is more than the " ++ renderAmount outstanding ++ " still owed"))
  else .ok ()

structure DebtLedger where
  userId : Id
  outstanding : Int
  entries : List EmployeeDebtEntry

def entriesOf (db : DebtDb) (companyId userId : Id) : List EmployeeDebtEntry :=
  db.entries.rows.filter (fun entry => entry.companyId = companyId ∧ entry.userId = userId)

def outstandingOf (entries : List EmployeeDebtEntry) : Int :=
  balanceOf (entries.map (fun entry => (entry.kind, entry.amount)))

def owed (db : DebtDb) (companyId userId : Id) : Int :=
  outstandingOf (entriesOf db companyId userId)

def ledgerFor (ctx : Ctx) (userId : Id) : Request DebtLedger := do
  let found ← .read .other (fun db => (db.people.find? userId).filter
    (fun person => person.companyId = ctx.companyId))
  let person ← .expect (.notFound "No such person") found
  let entries ← .read .other (fun db => entriesOf db ctx.companyId userId)
  pure
    { userId := person.id
      outstanding := outstandingOf entries
      entries }

def insertEntry (entry : EmployeeDebtEntry) (db : DebtDb) : Except Refusal DebtDb :=
  if ¬ 0 < entry.amount then .error (.constraint "ck_debt_amount")
  else if entry.reason = "" then .error (.constraint "ck_debt_reason")
  else if entry.kind ≠ .repayment ∧ entry.method ≠ none then .error (.constraint "ck_debt_method")
  else if db.people.find? entry.userId = none then .error (.constraint "fk_debt_user")
  else if entry.clientUuid ≠ none ∧ db.entries.any (fun other =>
      other.companyId = entry.companyId ∧ other.clientUuid = entry.clientUuid) then
    .error (.unique "ux_debt_client_uuid")
  else match db.entries.insert? entry with
    | none => .error (.unique "PRIMARY")
    | some entries => .ok { db with entries }

def newEntry (ctx : Ctx) (branchId actorId id : Id) (dto : CreateDebtEntryDto) :
    EmployeeDebtEntry where
  id := id
  companyId := ctx.companyId
  branchId := branchId
  userId := dto.userId
  kind := dto.kind
  amount := dto.amount.cents
  reason := trim dto.reason
  method := dto.method
  reference := dto.reference
  entryDate := dto.entryDate.getD ctx.today
  createdById := actorId
  clientUuid := dto.clientUuid

def findEntry (ctx : Ctx) (clientUuid : Option Id) (db : DebtDb) : Option EmployeeDebtEntry :=
  clientUuid.bind (fun key => db.entries.rows.find? (fun entry =>
    entry.companyId = ctx.companyId ∧ entry.clientUuid = some key))

def addEntry (ctx : Ctx) (id : Id) (dto : CreateDebtEntryDto) : Request DebtLedger := do
  let branchId ← .expect branchRequired ctx.branchId
  let actorId ← .expect (.badRequest "No authenticated user") ctx.userId
  let current ← ledgerFor ctx dto.userId
  .liftExcept (assertEntryAllowed dto.kind dto.amount.cents dto.reason dto.method
    current.outstanding)
  let replay ← .read .other (findEntry ctx dto.clientUuid)
  match replay with
  | some _ => ledgerFor ctx dto.userId
  | none =>
    .commit (.append ctx.companyId dto.userId current.entries dto.amount.cents)
      (insertEntry (newEntry ctx branchId actorId id dto))
    ledgerFor ctx dto.userId

theorem insertEntry_ok (entry : EmployeeDebtEntry) (db db' : DebtDb)
    (done : insertEntry entry db = .ok db') :
    db'.entries.rows = db.entries.rows ++ [entry] ∧ db'.people = db.people ∧
      ∃ person, db.people.find? entry.userId = some person := by
  unfold insertEntry at done
  split_ifs at done with _ _ _ absent
  split at done
  · cases done
  · next entries inserted =>
    cases done
    exact ⟨(Table.insert?_some _ _ _ inserted).1, rfl, Option.ne_none_iff_exists'.mp absent⟩

theorem owed_append (db db' : DebtDb) (entry : EmployeeDebtEntry) (companyId userId : Id)
    (rows : db'.entries.rows = db.entries.rows ++ [entry]) :
    owed db' companyId userId = owed db companyId userId +
      (if entry.companyId = companyId ∧ entry.userId = userId then
        entrySign entry.kind * entry.amount else 0) := by
  unfold owed entriesOf outstandingOf balanceOf
  rw [rows, List.filter_append, List.map_append, List.map_append, List.sum_append]
  by_cases own : entry.companyId = companyId ∧ entry.userId = userId
  · simp [own]
  · have dropped : [entry].filter (fun entry => entry.companyId = companyId ∧
        entry.userId = userId) = [] := by
      simpa using own
    rw [dropped]
    simp [own]

def leads : Mark → DebtDb → DebtDb → Option Mark → Prop
  | .other, s, s', _ => s' = s
  | .append companyId userId read amount, s, s', _ => amount ≤ outstandingOf read ∧
      (s' = s ∨ ∃ entry : EmployeeDebtEntry, entry.companyId = companyId ∧
        entry.userId = userId ∧ entry.amount = amount ∧ entry.kind ≠ .charge ∧
        s'.people = s.people ∧ s'.entries.rows = s.entries.rows ++ [entry])

theorem entrySign_credit (kind : DebtEntryKind) (credit : kind ≠ .charge) :
    entrySign kind = -1 := by
  cases kind with
  | charge => exact absurd rfl credit
  | repayment => rfl
  | deduction => rfl
  | forgiveness => rfl

theorem assertEntryAllowed_iff (kind : DebtEntryKind) (amount : Int) (reason : String)
    (method : Option DebtRepaymentMethod) (outstanding : Int) :
    assertEntryAllowed kind amount reason method outstanding = .ok () ↔
      assertEntryFormed kind amount reason method = .ok () ∧ amount ≤ outstanding := by
  unfold assertEntryAllowed
  rcases formed : assertEntryFormed kind amount reason method with refusal | u
  · simp [bind, Except.bind]
  · by_cases exceeds : outstanding < amount
    · simp [bind, Except.bind, exceeds]
    · simp [bind, Except.bind, exceeds]
      omega

variable (ctx : Ctx)

theorem walks_ledgerFor (userId : Id) (f : DebtLedger → Request DebtLedger)
    (rest : ∀ ledger, ledger.outstanding = outstandingOf ledger.entries →
      (f ledger).Walks leads) : (ledgerFor ctx userId >>= f).Walks leads := by
  unfold ledgerFor
  simp only [Prog.bind_assoc]
  refine Prog.walks_read _ _ _ (fun s => ⟨rfl, ?_⟩)
  refine Prog.walks_expect _ _ _ (fun person _ => ?_)
  refine Prog.walks_read _ _ _ (fun s => ⟨rfl, ?_⟩)
  exact rest _ rfl

theorem walks_answer (userId : Id) : (ledgerFor ctx userId).Walks leads := by
  have walks := walks_ledgerFor ctx userId pure (fun _ _ => trivial)
  rwa [Prog.bind_pure] at walks

theorem walks_addEntry (id : Id) (dto : CreateDebtEntryDto) :
    (addEntry ctx id dto).Walks leads := by
  unfold addEntry
  refine Prog.walks_expect _ _ _ (fun branchId _ => ?_)
  refine Prog.walks_expect _ _ _ (fun actorId _ => ?_)
  refine walks_ledgerFor ctx dto.userId _ (fun current read => ?_)
  rcases allowed : assertEntryAllowed dto.kind dto.amount.cents dto.reason dto.method
    current.outstanding with refusal | _
  · trivial
  have within := ((assertEntryAllowed_iff _ _ _ _ _).mp allowed).2
  rw [read] at within
  refine Prog.walks_read _ _ _ (fun s => ⟨rfl, ?_⟩)
  split
  · exact walks_answer ctx dto.userId
  · refine Prog.walks_commit _ _ _ (fun s s' done => ⟨within, ?_⟩)
      (fun _ _ _ => ⟨within, .inl rfl⟩) (walks_answer ctx dto.userId)
    obtain ⟨rows, people, -⟩ := insertEntry_ok _ s s' done
    exact .inr ⟨_, rfl, rfl, rfl, dto.standalone, people, rows⟩

def Adds (p : Request DebtLedger) : Prop := ∃ ctx id dto, p = addEntry ctx id dto

/-- The entries of the person are those that the call read: none was appended in between. -/
def Undisturbed (db : DebtDb) : Mark → Prop
  | .other => True
  | .append companyId userId read _ => entriesOf db companyId userId = read

instance (db : DebtDb) (m : Mark) : Decidable (Undisturbed db m) := by
  cases m <;> unfold Undisturbed <;> infer_instance

def NeverBelow (db : DebtDb) : Prop := ∀ companyId userId, 0 ≤ owed db companyId userId

theorem step_neverBelow (m : Mark) (s s' : DebtDb) (next : Option Mark) (held : NeverBelow s)
    (fit : Undisturbed s m) (led : leads m s s' next) : NeverBelow s' := by
  cases m with
  | other =>
    rw [led]
    exact held
  | append companyId userId read amount =>
    obtain ⟨allowed, rfl | ⟨entry, company, user, same, credit, -, rows⟩⟩ := led
    · exact held
    · intro otherCompany other
      have before := held otherCompany other
      rw [owed_append s s' entry _ _ rows, entrySign_credit _ credit, company, user, same]
      split
      · next own =>
        obtain ⟨rfl, rfl⟩ := own
        have within : amount ≤ owed s companyId userId := by
          unfold owed
          rw [show entriesOf s companyId userId = read from fit]
          exact allowed
        omega
      · omega

theorem run_neverBelow (start : DebtDb) (clear : NeverBelow start)
    (c : Config DebtDb Mark Refusal DebtLedger)
    (run : FittingRun Adds Undisturbed (Config.idle start) c) : NeverBelow c.store := by
  refine Protocol.stateless_run NeverBelow Undisturbed leads step_neverBelow Adds ?_ start
    clear c run
  rintro p ⟨ctx, id, dto, rfl⟩
  exact walks_addEntry ctx id dto

/-- What `addEntry` asks of a request beside the balance. -/
structure Formed (ctx : Ctx) (dto : CreateDebtEntryDto) : Prop where
  branch : ctx.branchId.isSome
  actor : ctx.userId.isSome
  rule : assertEntryFormed dto.kind dto.amount.cents dto.reason dto.method = .ok ()

structure Recorded (ctx : Ctx) (dto : CreateDebtEntryDto) (db : DebtDb) : Prop where
  person : ((db.people.find? dto.userId).filter
    (fun person => person.companyId = ctx.companyId)).isSome
  entry : (findEntry ctx dto.clientUuid db).isSome

/-- The store the balance is read in: the second, behind the one the person is read in. -/
def balanceRead (steps : List (DebtDb × DebtDb)) : Option DebtDb := steps[1]?.map Prod.fst

def personOf (ctx : Ctx) (userId : Id) (db : DebtDb) : Option Person :=
  (db.people.find? userId).filter (fun person => person.companyId = ctx.companyId)

def ledgerOf (ctx : Ctx) (userId : Id) (person : Person) (db : DebtDb) : DebtLedger where
  userId := person.id
  outstanding := owed db ctx.companyId userId
  entries := entriesOf db ctx.companyId userId

section Along

variable (ctx : Ctx) (userId : Id)

theorem along_ledgerFor (post : List (DebtDb × DebtDb) → Except Refusal DebtLedger → Prop) :
    (ledgerFor ctx userId).Along post ↔ ∀ s,
      (∀ person, personOf ctx userId s = some person →
        ∀ t, post [(s, s), (t, t)] (.ok (ledgerOf ctx userId person t))) ∧
      (personOf ctx userId s = none → post [(s, s)] (.error (.notFound "No such person"))) := by
  unfold ledgerFor
  simp only [Prog.along_read, Prog.along_expect, Prog.along_pure]
  rfl

theorem along_ledgerFor_bind (f : DebtLedger → Request DebtLedger)
    (post : List (DebtDb × DebtDb) → Except Refusal DebtLedger → Prop) :
    (ledgerFor ctx userId >>= f).Along post ↔ ∀ s,
      (∀ person, personOf ctx userId s = some person → ∀ t,
        (f (ledgerOf ctx userId person t)).Along (fun steps result =>
          post ((s, s) :: (t, t) :: steps) result)) ∧
      (personOf ctx userId s = none → post [(s, s)] (.error (.notFound "No such person"))) := by
  rw [Prog.along_bind, along_ledgerFor]
  rfl

end Along

theorem findEntry_append (clientUuid : Option Id) (db db' : DebtDb)
    (entry : EmployeeDebtEntry) (rows : db'.entries.rows = db.entries.rows ++ [entry])
    (keyed : clientUuid ≠ none) (company : entry.companyId = ctx.companyId)
    (same : entry.clientUuid = clientUuid) : (findEntry ctx clientUuid db').isSome := by
  obtain ⟨key, rfl⟩ := Option.ne_none_iff_exists'.mp keyed
  simp [findEntry, rows, List.find?_append, company, same]

theorem addEntry_accepted (id : Id) (dto : CreateDebtEntryDto)
    (keyed : dto.clientUuid ≠ none) : (addEntry ctx id dto).Along (fun steps result =>
      ∀ ledger, result = .ok ledger →
        Formed ctx dto ∧ ∃ step ∈ steps, (findEntry ctx dto.clientUuid step.2).isSome) := by
  unfold addEntry
  rw [Prog.along_expect]
  refine ⟨fun branchId branch => ?_, by simp⟩
  rw [Prog.along_expect]
  refine ⟨fun actorId actor => ?_, by simp⟩
  rw [along_ledgerFor_bind]
  refine fun s => ⟨fun person _ t => ?_, by simp⟩
  rw [Prog.along_liftExcept]
  refine ⟨fun _ allowed => ?_, by simp⟩
  have formed : Formed ctx dto :=
    ⟨by simp [branch], by simp [actor], ((assertEntryAllowed_iff _ _ _ _ _).mp allowed).1⟩
  rw [Prog.along_read]
  intro u
  split
  · next row found =>
    rw [along_ledgerFor]
    refine fun v => ⟨fun _ _ w ledger _ => ⟨formed, (u, u), by simp, ?_⟩, by simp⟩
    simp [found]
  · rw [Prog.along_commit]
    refine fun v => ⟨fun v' done => ?_, by simp⟩
    rw [along_ledgerFor]
    refine fun w => ⟨fun _ _ x ledger _ => ⟨formed, (v, v'), by simp, ?_⟩, by simp⟩
    exact findEntry_append ctx _ v v' _ (insertEntry_ok _ v v' done).1 keyed rfl rfl

theorem findEntry_stays (clientUuid : Option Id) (db db' : DebtDb)
    (entry : EmployeeDebtEntry) (rows : db'.entries.rows = db.entries.rows ++ [entry])
    (there : (findEntry ctx clientUuid db).isSome) : (findEntry ctx clientUuid db').isSome := by
  cases clientUuid with
  | none => cases there
  | some key =>
    simp only [findEntry, Option.bind_some, rows, List.find?_append] at there ⊢
    rw [Option.isSome_or, there]
    rfl

theorem step_recorded (dto : CreateDebtEntryDto) (m : Mark) (s s' : DebtDb)
    (next : Option Mark) (led : leads m s s' next) (there : Recorded ctx dto s) :
    Recorded ctx dto s' := by
  cases m with
  | other =>
    rw [led]
    exact there
  | append companyId userId read amount =>
    obtain ⟨-, rfl | ⟨entry, -, -, -, -, people, rows⟩⟩ := led
    · exact there
    · exact ⟨by rw [people]; exact there.person, findEntry_stays ctx _ s s' entry rows there.entry⟩

/-- Repeated where its entry is there, a request changes nothing, and is answered exactly when
the person owes its amount once more. -/
theorem addEntry_again (id : Id) (dto : CreateDebtEntryDto) (formed : Formed ctx dto) :
    (addEntry ctx id dto).Along (fun steps result =>
      (∀ step ∈ steps, Recorded ctx dto step.1) → (∀ step ∈ steps, step.2 = step.1) ∧
        ((∃ ledger, result = .ok ledger) ↔ ∃ s, balanceRead steps = some s ∧
          dto.amount.cents ≤ owed s ctx.companyId dto.userId)) := by
  have refused : ∀ steps : List (DebtDb × DebtDb), ∀ e : Refusal,
      (∀ step ∈ steps, step.2 = step.1) → (∀ s, balanceRead steps = some s →
        ¬ dto.amount.cents ≤ owed s ctx.companyId dto.userId) →
      (∀ step ∈ steps, step.2 = step.1) ∧
        ((∃ ledger, (.error e : Except Refusal DebtLedger) = .ok ledger) ↔
          ∃ s, balanceRead steps = some s ∧
            dto.amount.cents ≤ owed s ctx.companyId dto.userId) := by
    intro steps e idle beyond
    refine ⟨idle, ⟨by simp, ?_⟩⟩
    rintro ⟨s, read, within⟩
    exact absurd within (beyond s read)
  have present : ∀ steps : List (DebtDb × DebtDb), ∀ s, (s, s) ∈ steps →
      personOf ctx dto.userId s = none → (∀ step ∈ steps, Recorded ctx dto step.1) → False := by
    intro steps s member missing all
    have person := (all (s, s) member).person
    unfold personOf at missing
    rw [missing] at person
    cases person
  unfold addEntry
  rw [Prog.along_expect]
  refine ⟨fun branchId _ => ?_, fun none => absurd formed.branch (by simp [none])⟩
  rw [Prog.along_expect]
  refine ⟨fun actorId _ => ?_, fun none => absurd formed.actor (by simp [none])⟩
  rw [along_ledgerFor_bind]
  refine fun s => ⟨fun person _ t => ?_, fun missing all =>
    (present _ s (by simp) missing all).elim⟩
  rw [Prog.along_liftExcept]
  refine ⟨fun _ allowed => ?_, fun e denied _ => ?_⟩
  · have within := ((assertEntryAllowed_iff _ _ _ _ _).mp allowed).2
    rw [Prog.along_read]
    intro u
    split
    · rw [along_ledgerFor]
      refine fun v => ⟨fun _ _ w _ => ⟨by simp, ?_⟩, fun missing all =>
        (present _ v (by simp) missing all).elim⟩
      exact ⟨fun _ => ⟨t, rfl, within⟩, fun _ => ⟨_, rfl⟩⟩
    · next absent =>
      rw [Prog.along_commit]
      -- The entry is there, so the lookup has found it.
      have found : ∀ steps : List (DebtDb × DebtDb), (u, u) ∈ steps →
          (∀ step ∈ steps, Recorded ctx dto step.1) → False := by
        intro steps member all
        have entry := (all (u, u) member).entry
        rw [absent] at entry
        cases entry
      refine fun v => ⟨fun v' _ => ?_, fun e _ all => (found _ (by simp) all).elim⟩
      rw [along_ledgerFor]
      exact fun w => ⟨fun _ _ x all => (found _ (by simp) all).elim,
        fun _ all => (found _ (by simp) all).elim⟩
  · refine refused _ e (by simp) (fun read same within => ?_)
    simp only [balanceRead, List.getElem?_cons_succ, List.getElem?_cons_zero, Option.map_some,
      Option.some.injEq] at same
    subst same
    have allowed := (assertEntryAllowed_iff _ _ _ _ _).mpr ⟨formed.rule, within⟩
    rw [ledgerOf] at denied
    rw [allowed] at denied
    cases denied

/-- From `start`: while no other entry of the person is appended between the reading of a balance
and the entry it allowed, nobody is below zero; and a request whose entry was accepted finds it
there, whenever it is repeated. -/
structure LedgerKept (start : DebtDb) : Prop where
  neverBelow : ∀ c, FittingRun Adds Undisturbed (Config.idle start) c → NeverBelow c.store
  accepted : ∀ ctx id dto, dto.clientUuid ≠ none → (addEntry ctx id dto).Along
    (fun steps result => ∀ ledger, result = .ok ledger →
      Formed ctx dto ∧ ∃ step ∈ steps, (findEntry ctx dto.clientUuid step.2).isSome)
  lasting : ∀ ctx dto ctx' id dto', (addEntry ctx' id dto').Along
    (fun steps _ => ∀ step ∈ steps, Recorded ctx dto step.1 → Recorded ctx dto step.2)
  again : ∀ ctx id dto, Formed ctx dto → (addEntry ctx id dto).Along (fun steps result =>
    (∀ step ∈ steps, Recorded ctx dto step.1) → (∀ step ∈ steps, step.2 = step.1) ∧
      ((∃ ledger, result = .ok ledger) ↔ ∃ s, balanceRead steps = some s ∧
        dto.amount.cents ≤ owed s ctx.companyId dto.userId))

theorem ledger_kept (start : DebtDb) (clear : NeverBelow start) : LedgerKept start where
  neverBelow := run_neverBelow start clear
  accepted := addEntry_accepted
  lasting ctx dto ctx' id dto' :=
    Prog.along_mono _ _
      (fun _ _ each step member there => by
        obtain ⟨m, next, led⟩ := each step member
        exact step_recorded ctx dto m step.1 step.2 next led there)
      (Prog.along_of_walks leads _ (walks_addEntry ctx' id dto'))
  again := addEntry_again

def charged : DebtDb where
  people := ⟨[⟨7, 1⟩], by decide⟩
  entries := ⟨[{ id := 1, companyId := 1, branchId := 2, userId := 7, discrepancyId := some 3
                 kind := .charge, amount := 5000, reason := "short on 1 May", method := none
                 reference := none, entryDate := 0, createdById := 9, clientUuid := none }],
    by decide⟩

def owner : Ctx where
  companyId := 1
  branchId := some 2
  userId := some 9
  now := 0

def repayment (clientUuid : Id) : CreateDebtEntryDto where
  userId := 7
  kind := .repayment
  standalone := by decide
  amount := ⟨5000, by decide⟩
  reason := "paid back"
  method := some .cash
  clientUuid := some clientUuid

theorem charged_clear : NeverBelow charged := by
  intro companyId userId
  unfold owed entriesOf charged outstandingOf balanceOf
  simp only [List.filter_cons, List.filter_nil]
  split
  · decide
  · decide

theorem ledger_kept_charged : LedgerKept charged := ledger_kept charged charged_clear

/-- Two repayments of the whole, both allowed before either is there. -/
def together : List (Move DebtDb Mark Refusal DebtLedger) :=
  [.arrive (addEntry owner 11 (repayment 21)), .arrive (addEntry owner 12 (repayment 22)),
    .advance 0, .advance 0, .advance 0, .advance 1, .advance 1, .advance 1, .advance 0, .advance 1]

theorem repaid_twice :
    (∃ c, FittingRun Adds (fun _ _ => True) (Config.idle charged) c ∧ owed c.store 1 7 = -5000) ∧
    (∃ ledger, ((addEntry owner 11 (repayment 21)).run charged).2 = .ok ledger) ∧
    ∃ refusal, ((addEntry owner 12 (repayment 21)).run
      ((addEntry owner 11 (repayment 21)).run charged).1).2 = .error refusal := by
  refine ⟨⟨(Config.idle charged).schedule together, ?_, by decide +kernel⟩, ⟨_, rfl⟩, ⟨_, rfl⟩⟩
  apply fitting_schedule
  · intro p member
    simp only [together, List.mem_cons, Move.arrive.injEq, reduceCtorEq, List.not_mem_nil,
      or_false] at member
    rcases member with rfl | rfl
    · exact ⟨owner, 11, repayment 21, rfl⟩
    · exact ⟨owner, 12, repayment 22, rfl⟩
  · exact fits_any _ _

end ErpBackend.Closing.Debts
