import ErpBackend.Closing.Debts

/-!
# Deciding a discrepancy

`planResolution` and `DiscrepanciesService.resolve`: the owner decides what a difference
was, and the decision writes its ledger rows. Two owners may decide one discrepancy at
once; the version and the status say who was first.
-/

namespace ErpBackend.Closing.Resolutions

open Foundation
open Debts (DebtEntryKind EmployeeDebtEntry DebtDb entrySign balanceOf owed entriesOf insertEntry
  insertEntry_ok)

inductive DiscrepancyResolution where
  | employeeDebt
  | storeAbsorbed
  | errorCorrected
  | forgiven
  deriving DecidableEq, Repr

inductive DiscrepancyStatus where
  | pendingInvestigation
  | resolved
  deriving DecidableEq, Repr

/-- A row of `closing_discrepancies`; a difference of zero is none. -/
structure Discrepancy where
  id : Id
  companyId : Id
  branchId : Id
  amount : Int
  status : DiscrepancyStatus := .pendingInvestigation
  resolution : Option DiscrepancyResolution := none
  responsibleUserId : Option Id := none
  resolutionReason : Option String := none
  resolvedById : Option Id := none
  resolvedAt : Option Time := none
  version : Nat := 0
  nonzero : amount ≠ 0
  deriving DecidableEq

structure Books where
  ledger : DebtDb := {}
  discrepancies : Table Discrepancy Discrepancy.id := .empty

/-- `NEEDS_A_PERSON`. -/
def needsAPerson (resolution : DiscrepancyResolution) : Bool :=
  resolution = .employeeDebt ∨ resolution = .forgiven

def rowsOf (resolution : DiscrepancyResolution) (magnitude : Int) : List (DebtEntryKind × Int) :=
  match resolution with
  | .employeeDebt => [(.charge, magnitude)]
  | .forgiven => [(.charge, magnitude), (.forgiveness, magnitude)]
  | .storeAbsorbed | .errorCorrected => []

def planResolution (resolution : DiscrepancyResolution) (reason : Option String)
    (responsibleUserId : Option Id) (amount : Int) : Except String (List (DebtEntryKind × Int)) :=
  if blank reason then .error "Resolving a discrepancy requires a reason"
  else if amount = 0 then .error "There is nothing to resolve"
  else if needsAPerson resolution ∧ responsibleUserId = none then
    .error "Holding somebody responsible requires naming them"
  else if !needsAPerson resolution ∧ responsibleUserId ≠ none then
    .error "This resolution does not name a person"
  else if 0 < amount ∧ resolution = .employeeDebt then
    .error "A surplus is not a debt: money was found, not lost"
  else .ok (rowsOf resolution amount.natAbs)

theorem planResolution_ok (resolution : DiscrepancyResolution) (reason : Option String)
    (responsibleUserId : Option Id) (amount : Int) (plan : List (DebtEntryKind × Int))
    (planned : planResolution resolution reason responsibleUserId amount = .ok plan) :
    plan = rowsOf resolution amount.natAbs ∧ (needsAPerson resolution = responsibleUserId.isSome) ∧
      (0 < amount → resolution ≠ .employeeDebt) := by
  unfold planResolution at planned
  split_ifs at planned with _ _ unnamed named surplus
  cases planned
  refine ⟨rfl, ?_, fun found debt => surplus ⟨found, debt⟩⟩
  cases needs : needsAPerson resolution <;> cases responsibleUserId <;> simp_all

structure ResolveDiscrepancyDto where
  resolution : DiscrepancyResolution
  reason : String
  responsibleUserId : Option Id := none
  deriving DecidableEq

/-- What a step is about to do: look up the person a decision names, or decide. -/
inductive Mark where
  | other
  | person (found : Discrepancy) (dto : ResolveDiscrepancyDto)
  | decide (found : Discrepancy) (dto : ResolveDiscrepancyDto)
  deriving DecidableEq

abbrev Request (α : Type) := Prog Books Mark Refusal α

def findDiscrepancy (s : Books) (companyId branchId id : Id) : Option Discrepancy :=
  (s.discrepancies.find? id).filter (fun row => row.companyId = companyId ∧ row.branchId = branchId)

def debtEntries (s : Books) (id : Id) : List EmployeeDebtEntry :=
  s.ledger.entries.rows.filter (fun entry => entry.discrepancyId = some id)

structure DiscrepancyView where
  discrepancy : Discrepancy
  ledger : List EmployeeDebtEntry

def noSuchDiscrepancy : Refusal := .notFound "No such discrepancy"

def get (ctx : Ctx) (id : Id) : Request DiscrepancyView := do
  let branchId ← .expect branchRequired ctx.branchId
  let found ← .read .other (fun s =>
    (findDiscrepancy s ctx.companyId branchId id).map (fun row => (⟨row, debtEntries s row.id⟩ :
      DiscrepancyView)))
  .expect noSuchDiscrepancy found

def decided (dto : ResolveDiscrepancyDto) (userId : Id) (now : Time) (row : Discrepancy) :
    Discrepancy :=
  { row with
    status := .resolved
    resolution := some dto.resolution
    responsibleUserId := dto.responsibleUserId
    resolutionReason := some (trim dto.reason)
    resolvedById := some userId
    resolvedAt := some now
    version := row.version + 1 }

theorem decided_id (dto : ResolveDiscrepancyDto) (userId : Id) (now : Time) (row : Discrepancy) :
    (decided dto userId now row).id = row.id := rfl

/-- `ck_discrepancies_resolution` and `ck_discrepancies_responsible`, of a resolved row. -/
def checkDecided (dto : ResolveDiscrepancyDto) : Except Refusal Unit :=
  if trim dto.reason = "" then .error (.constraint "ck_discrepancies_resolution")
  else if needsAPerson dto.resolution ∧ dto.responsibleUserId = none then
    .error (.constraint "ck_discrepancies_responsible")
  else .ok ()

def planEntry (ctx : Ctx) (branchId actorId responsible : Id) (id : Id) (found : Discrepancy)
    (dto : ResolveDiscrepancyDto) (row : DebtEntryKind × Int) : EmployeeDebtEntry where
  id := id
  companyId := ctx.companyId
  branchId := branchId
  userId := responsible
  discrepancyId := some found.id
  kind := row.1
  amount := row.2
  reason := trim dto.reason
  method := none
  reference := none
  entryDate := ctx.today
  createdById := actorId
  clientUuid := none

def insertPlan (entryOf : Nat → DebtEntryKind × Int → EmployeeDebtEntry) :
    Nat → List (DebtEntryKind × Int) → DebtDb → Except Refusal DebtDb
  | _, [], ledger => .ok ledger
  | index, row :: rest, ledger => do
    let ledger' ← insertEntry (entryOf index row) ledger
    insertPlan entryOf (index + 1) rest ledger'

/-- `userId: responsible as Buffer`: a row without a person is refused. -/
def insertRows (ctx : Ctx) (branchId actorId : Id) (ids : Nat → Id) (found : Discrepancy)
    (dto : ResolveDiscrepancyDto) (plan : List (DebtEntryKind × Int)) (ledger : DebtDb) :
    Except Refusal DebtDb :=
  match dto.responsibleUserId with
  | some responsible => insertPlan (fun index row =>
      planEntry ctx branchId actorId responsible (ids index) found dto row) 0 plan ledger
  | none => if plan = [] then .ok ledger else .error (.internal "Argument userId must not be null")

def decidedMeanwhile : Refusal :=
  .conflict "refresh_required: this discrepancy was decided while you were deciding it"

def resolveTx (ctx : Ctx) (branchId actorId : Id) (ids : Nat → Id) (found : Discrepancy)
    (dto : ResolveDiscrepancyDto) (plan : List (DebtEntryKind × Int)) (s : Books) :
    Except Refusal Books :=
  match s.discrepancies.swap? found.id (fun row => row.companyId = ctx.companyId ∧
      row.version = found.version ∧ row.status = .pendingInvestigation)
      (decided dto actorId ctx.now) (decided_id dto actorId ctx.now) with
  | none => .error decidedMeanwhile
  | some discrepancies => do
    checkDecided dto
    let ledger ← insertRows ctx branchId actorId ids found dto plan s.ledger
    .ok { ledger, discrepancies }

/-- A `RuleViolation` is a bad request. -/
def ruled {α : Type} (x : Except String α) : Except Refusal α := x.mapError Refusal.badRequest

def resolve (ctx : Ctx) (ids : Nat → Id) (id : Id) (dto : ResolveDiscrepancyDto) :
    Request DiscrepancyView := do
  let branchId ← .expect branchRequired ctx.branchId
  let actorId ← .expect (.badRequest "No authenticated user") ctx.userId
  let row ← .read .other (fun s => findDiscrepancy s ctx.companyId branchId id)
  let found ← .expect noSuchDiscrepancy row
  .require (found.status ≠ .resolved) (.conflict "That discrepancy has already been resolved")
  let plan ← .liftExcept (ruled
    (planResolution dto.resolution (some dto.reason) dto.responsibleUserId found.amount))
  match dto.responsibleUserId with
  | some responsible =>
    let person ← .read (.person found dto) (fun s => (s.ledger.people.find? responsible).filter
      (fun person => person.companyId = ctx.companyId))
    let _ ← .expect (.badRequest "That person is not part of this shop") person
    .commit (.decide found dto) (resolveTx ctx branchId actorId ids found dto plan)
    get ctx id
  | none =>
    .commit (.decide found dto) (resolveTx ctx branchId actorId ids found dto plan)
    get ctx id

structure Posting where
  companyId : Id
  discrepancyId : Option Id
  userId : Id
  kind : DebtEntryKind
  amount : Int
  deriving DecidableEq

def posting (entry : EmployeeDebtEntry) : Posting :=
  ⟨entry.companyId, entry.discrepancyId, entry.userId, entry.kind, entry.amount⟩

/-- The rows a discrepancy has given rise to, by what was decided about it. -/
def written (row : Discrepancy) : List Posting :=
  match row.resolution, row.responsibleUserId with
  | some resolution, some responsible =>
    (rowsOf resolution row.amount.natAbs).map (fun entry =>
      ⟨row.companyId, some row.id, responsible, entry.1, entry.2⟩)
  | _, _ => []

theorem insertPlan_ok (entryOf : Nat → DebtEntryKind × Int → EmployeeDebtEntry)
    (post : DebtEntryKind × Int → Posting)
    (posts : ∀ index row, posting (entryOf index row) = post row) (index : Nat)
    (plan : List (DebtEntryKind × Int)) (ledger ledger' : DebtDb)
    (done : insertPlan entryOf index plan ledger = .ok ledger') :
    ∃ rows, ledger'.entries.rows = ledger.entries.rows ++ rows ∧
      rows.map posting = plan.map post := by
  induction plan generalizing index ledger with
  | nil =>
    cases done
    exact ⟨[], (List.append_nil _).symm, rfl⟩
  | cons row rest ih =>
    obtain ⟨middle, inserted, later⟩ := (except_bind_ok _ _ _).mp done
    obtain ⟨appended, -, -⟩ := insertEntry_ok _ ledger middle inserted
    obtain ⟨rows, grown, same⟩ := ih (index + 1) middle later
    refine ⟨entryOf index row :: rows, ?_, ?_⟩
    · rw [grown, appended, List.append_assoc, List.singleton_append]
    · rw [List.map_cons, List.map_cons, posts, same]

theorem written_congr (dto : ResolveDiscrepancyDto) (userId userId' : Id) (now now' : Time)
    (found row : Discrepancy) (id : row.id = found.id) (company : row.companyId = found.companyId)
    (amount : row.amount = found.amount) :
    written (decided dto userId now row) = written (decided dto userId' now' found) := by
  simp only [written, decided, id, company, amount]

/-- A decision on the row that was found: the row is resolved, and the rows of its plan
are appended. -/
structure Settles (found : Discrepancy) (dto : ResolveDiscrepancyDto) (s s' : Books)
    (row : Discrepancy) (new : List EmployeeDebtEntry) : Prop where
  standing : s.discrepancies.find? found.id = some row
  pending : row.status = .pendingInvestigation
  planned : ∃ plan, planResolution dto.resolution (some dto.reason) dto.responsibleUserId
    found.amount = .ok plan
  changed : ∃ userId now, s'.discrepancies =
      s.discrepancies.update found.id (decided dto userId now) (decided_id dto userId now) ∧
    new.map posting = written (decided dto userId now found)
  rows : s'.ledger.entries.rows = s.ledger.entries.rows ++ new

variable (ctx : Ctx)

theorem resolveTx_ok (branchId actorId : Id) (ids : Nat → Id) (found : Discrepancy)
    (dto : ResolveDiscrepancyDto) (plan : List (DebtEntryKind × Int)) (s s' : Books)
    (own : found.companyId = ctx.companyId)
    (planned : planResolution dto.resolution (some dto.reason) dto.responsibleUserId found.amount =
      .ok plan)
    (done : resolveTx ctx branchId actorId ids found dto plan s = .ok s') :
    ∃ row new, Settles found dto s s' row new := by
  obtain ⟨rfl, -, -⟩ := planResolution_ok _ _ _ _ _ planned
  unfold resolveTx at done
  split at done
  · cases done
  · next discrepancies won =>
    obtain ⟨row, standing, guard, rfl⟩ := (Table.swap?_some _ _ _ _ _ _).mp won
    rw [decide_eq_true_eq] at guard
    obtain ⟨-, -, done⟩ := (except_bind_ok _ _ _).mp done
    obtain ⟨ledger, inserted, done⟩ := (except_bind_ok _ _ _).mp done
    cases done
    have posted : ∃ new, ledger.entries.rows = s.ledger.entries.rows ++ new ∧
        new.map posting = written (decided dto actorId ctx.now found) := by
      unfold insertRows at inserted
      split at inserted
      · next responsible same =>
        obtain ⟨new, rows, postings⟩ := insertPlan_ok _
          (fun row => ⟨ctx.companyId, some found.id, responsible, row.1, row.2⟩)
          (fun _ _ => rfl) _ _ _ _ inserted
        exact ⟨new, rows, by simp [postings, written, decided, same, own]⟩
      · next none =>
        split at inserted
        · cases inserted
          exact ⟨[], (List.append_nil _).symm, by simp [written, decided, none]⟩
        · cases inserted
    obtain ⟨new, rows, postings⟩ := posted
    exact ⟨row, new, standing, guard.2.2, ⟨_, planned⟩, ⟨actorId, ctx.now, rfl, postings⟩, rows⟩

def AllOther (next : Option Mark) : Prop := ∀ m ∈ next, m = .other

def Shows (s : Books) (found : Discrepancy) : Prop := s.discrepancies.find? found.id = some found

def leads : Mark → Books → Books → Option Mark → Prop
  | .other, s, s', next => s' = s ∧ ∀ m ∈ next, m = .other ∨
      ∃ found dto, (m = .person found dto ∨ m = .decide found dto) ∧ Shows s found
  | .person found dto, s, s', next => s' = s ∧ ∀ m ∈ next, m = .decide found dto
  | .decide found dto, s, s', next => AllOther next ∧
      (s' = s ∨ ∃ row new, Settles found dto s s' row new)

theorem walks_get (id : Id) : (get ctx id).Walks leads := by
  unfold get
  refine Prog.walks_expect _ _ _ (fun branchId _ => ?_)
  refine Prog.walks_read _ _ _ (fun s => ?_)
  cases findDiscrepancy s ctx.companyId branchId id with
  | none => exact ⟨⟨rfl, fun m same => by cases same⟩, trivial⟩
  | some row => exact ⟨⟨rfl, fun m same => by cases same⟩, trivial⟩

theorem get_plain (id : Id) : AllOther (get ctx id).mark? := by
  unfold get
  cases ctx.branchId with
  | none => exact fun m same => by cases same
  | some branchId => exact fun m same => (Option.some.inj same).symm

theorem walks_decide (branchId actorId : Id) (ids : Nat → Id) (id : Id)
    (found : Discrepancy) (dto : ResolveDiscrepancyDto) (plan : List (DebtEntryKind × Int))
    (own : found.companyId = ctx.companyId)
    (planned : planResolution dto.resolution (some dto.reason) dto.responsibleUserId found.amount =
      .ok plan) :
    ((Prog.commit (.decide found dto) (resolveTx ctx branchId actorId ids found dto plan) >>=
      fun _ => get ctx id : Request DiscrepancyView)).Walks leads := by
  refine Prog.walks_commit _ _ _ (fun s s' done => ?_) (fun s _ _ => ?_) (walks_get ctx id)
  · exact ⟨get_plain ctx id, .inr (resolveTx_ok ctx branchId actorId ids found dto plan s s' own
      planned done)⟩
  · exact ⟨fun m same => (by cases same), .inl rfl⟩

theorem walks_resolve (ids : Nat → Id) (id : Id) (dto : ResolveDiscrepancyDto) :
    (resolve ctx ids id dto).Walks leads := by
  unfold resolve
  refine Prog.walks_expect _ _ _ (fun branchId _ => ?_)
  refine Prog.walks_expect _ _ _ (fun actorId _ => ?_)
  refine Prog.walks_read _ _ _ (fun s => ?_)
  cases row : findDiscrepancy s ctx.companyId branchId id with
  | none => exact ⟨⟨rfl, fun m same => by cases same⟩, trivial⟩
  | some found =>
    obtain ⟨present, guard⟩ := Option.filter_eq_some_iff.mp row
    rw [decide_eq_true_eq] at guard
    have shows : Shows s found := by
      obtain rfl := Table.key_of_find? _ _ _ present
      exact present
    simp only [Prog.expect, Prog.pure_bind]
    by_cases open' : found.status ≠ .resolved
    · rw [Prog.require, if_pos open', Prog.pure_bind]
      cases planned : planResolution dto.resolution (some dto.reason) dto.responsibleUserId
          found.amount with
      | error message => exact ⟨⟨rfl, fun m same => by cases same⟩, trivial⟩
      | ok plan =>
        have decides := walks_decide ctx branchId actorId ids id found dto plan guard.1 planned
        cases named : dto.responsibleUserId with
        | none =>
          refine ⟨⟨rfl, fun m same => ?_⟩, decides⟩
          exact .inr ⟨found, dto, .inr (Option.some.inj same).symm, shows⟩
        | some responsible =>
          refine ⟨⟨rfl, fun m same => ?_⟩, ?_⟩
          · exact .inr ⟨found, dto, .inl (Option.some.inj same).symm, shows⟩
          · refine Prog.walks_read _ _ _ (fun t => ?_)
            cases (t.ledger.people.find? responsible).filter
                (fun person => decide (person.companyId = ctx.companyId)) with
            | none => exact ⟨⟨rfl, fun m same => by cases same⟩, trivial⟩
            | some person => exact ⟨⟨rfl, fun m same => (Option.some.inj same).symm⟩, decides⟩
    · rw [Prog.require, if_neg open']
      exact ⟨⟨rfl, fun m same => by cases same⟩, trivial⟩

/-- The discrepancy that was read is there, with the difference it was read with. -/
def Recalled (s : Books) (found : Discrepancy) : Prop :=
  ∃ row, s.discrepancies.find? found.id = some row ∧ row.companyId = found.companyId ∧
    row.amount = found.amount

structure Ledgered (s : Books) : Prop where
  undecided : ∀ row ∈ s.discrepancies.rows,
    (row.status = .pendingInvestigation ↔ row.resolution = none)
  planned : ∀ row ∈ s.discrepancies.rows, ∀ resolution, row.resolution = some resolution →
    ∃ reason plan, planResolution resolution reason row.responsibleUserId row.amount = .ok plan
  posted : ∀ id row, s.discrepancies.find? id = some row →
    (debtEntries s id).map posting = written row
  filed : ∀ entry ∈ s.ledger.entries.rows, ∃ id row, entry.discrepancyId = some id ∧
    s.discrepancies.find? id = some row
  totals : ∀ g : Posting → Int, (s.ledger.entries.rows.map (fun entry => g (posting entry))).sum =
    s.discrepancies.total (fun row => ((written row).map g).sum)

section Settle

variable {found : Discrepancy} {dto : ResolveDiscrepancyDto} {s s' : Books} {row : Discrepancy}
  {new : List EmployeeDebtEntry}

theorem written_undecided (none : row.resolution = none) : written row = [] := by
  simp [written, none]

theorem Settles.own (settles : Settles found dto s s' row new) :
    ∀ entry ∈ new, entry.discrepancyId = some found.id := by
  obtain ⟨userId, now, -, postings⟩ := settles.changed
  intro entry member
  have inside : posting entry ∈ written (decided dto userId now found) :=
    postings ▸ List.mem_map_of_mem member
  rw [written] at inside
  split at inside
  · obtain ⟨line, -, same⟩ := List.mem_map.mp inside
    exact (congrArg Posting.discrepancyId same).symm
  · cases inside

theorem Settles.debtEntries (settles : Settles found dto s s' row new) (id : Id) :
    debtEntries s' id = debtEntries s id ++ if id = found.id then new else [] := by
  rw [Resolutions.debtEntries, Resolutions.debtEntries, settles.rows, List.filter_append]
  congr 1
  split
  · next same =>
    apply List.filter_eq_self.mpr
    intro entry member
    exact decide_eq_true (same ▸ settles.own entry member)
  · next other =>
    apply List.filter_eq_nil_iff.mpr
    intro entry member
    rw [settles.own entry member, decide_eq_true_eq, Option.some.injEq]
    exact fun same => other same.symm

theorem Settles.ledgered (settles : Settles found dto s s' row new) (recalled : Recalled s found)
    (held : Ledgered s) : Ledgered s' := by
  obtain ⟨userId, now, changed, postings⟩ := settles.changed
  obtain ⟨same, there, company, amount⟩ := recalled
  rw [settles.standing] at there
  cases there
  have id : row.id = found.id := Table.key_of_find? _ _ _ settles.standing
  have member : row ∈ s.discrepancies.rows := Table.mem_of_find? _ _ _ settles.standing
  have none := written_undecided ((held.undecided row member).mp settles.pending)
  have wrote : new.map posting = written (decided dto userId now row) :=
    postings.trans (written_congr dto userId userId now now found row id company amount).symm
  have rows : ∀ other ∈ s'.discrepancies.rows,
      other ∈ s.discrepancies.rows ∨ other = decided dto userId now row := by
    intro other inside
    rw [changed, Table.mem_update, settles.standing] at inside
    rcases inside with ⟨old, -⟩ | ⟨_, here, rfl⟩
    · exact .inl old
    · cases here
      exact .inr rfl
  have finds : ∀ id, s'.discrepancies.find? id =
      if id = found.id then some (decided dto userId now row) else s.discrepancies.find? id := by
    intro id
    rw [changed, Table.find?_update, settles.standing]
    rfl
  constructor
  · intro other inside
    rcases rows other inside with old | rfl
    · exact held.undecided other old
    · simp [decided]
  · intro other inside resolution chosen
    rcases rows other inside with old | rfl
    · exact held.planned other old resolution chosen
    · cases chosen
      obtain ⟨plan, planned⟩ := settles.planned
      exact ⟨some dto.reason, plan, amount ▸ planned⟩
  · intro id other here
    rw [finds] at here
    rw [settles.debtEntries]
    split at here
    · next own =>
      cases here
      rw [if_pos own, own, List.map_append, held.posted _ row settles.standing, none, wrote,
        List.nil_append]
    · next apart =>
      rw [if_neg apart, List.append_nil]
      exact held.posted id other here
  · intro entry inside
    rw [settles.rows] at inside
    rcases List.mem_append.mp inside with old | added
    · obtain ⟨id, other, about, here⟩ := held.filed entry old
      by_cases own : id = found.id
      · exact ⟨id, _, about, by rw [finds, if_pos own]⟩
      · exact ⟨id, other, about, by rw [finds, if_neg own, here]⟩
    · exact ⟨found.id, _, settles.own entry added, by rw [finds, if_pos rfl]⟩
  · intro g
    have gained : (new.map (fun entry => g (posting entry))).sum =
        ((written (decided dto userId now row)).map g).sum := by
      rw [← wrote, List.map_map]
      rfl
    have moved := s.discrepancies.total_update found.id (decided dto userId now)
      (decided_id dto userId now) (fun row => ((written row).map g).sum) row settles.standing
    rw [none, List.map_nil, List.sum_nil, add_zero] at moved
    rw [settles.rows, List.map_append, List.sum_append, held.totals, gained, changed, moved]

theorem Settles.recalled (settles : Settles found dto s s' row new) (other : Discrepancy)
    (recalled : Recalled s other) : Recalled s' other := by
  obtain ⟨userId, now, changed, -⟩ := settles.changed
  obtain ⟨standing, there, company, amount⟩ := recalled
  rw [Recalled, changed, Table.find?_update]
  by_cases own : other.id = found.id
  · rw [if_pos own, ← own, there]
    exact ⟨decided dto userId now standing, rfl, company, amount⟩
  · rw [if_neg own]
    exact ⟨standing, there, company, amount⟩

end Settle

def known : Mark → Books → Prop
  | .other, _ => True
  | .person found _, s => Recalled s found
  | .decide found _, s => Recalled s found

theorem shows_recalled (s : Books) (found : Discrepancy) (shows : Shows s found) :
    Recalled s found :=
  ⟨found, shows, rfl, rfl⟩

theorem known_of_plain (next : Option Mark) (plain : AllOther next) (s : Books) :
    ∀ m ∈ next, known m s := by
  intro m member
  rw [plain m member]
  trivial

theorem step_own (m : Mark) (s s' : Books) (next : Option Mark) (held : Ledgered s)
    (knows : known m s) (led : leads m s s' next) :
    Ledgered s' ∧ ∀ m', next = some m' → known m' s' := by
  cases m with
  | other =>
    obtain ⟨rfl, onward⟩ := led
    refine ⟨held, fun m' same => ?_⟩
    rcases onward m' same with rfl | ⟨found, dto, rfl | rfl, shows⟩
    · trivial
    · exact shows_recalled _ _ shows
    · exact shows_recalled _ _ shows
  | person found dto =>
    obtain ⟨rfl, onward⟩ := led
    refine ⟨held, fun m' same => ?_⟩
    rw [onward m' same]
    exact knows
  | decide found dto =>
    obtain ⟨plain, rfl | ⟨row, new, settles⟩⟩ := led
    · exact ⟨held, known_of_plain next plain _⟩
    · exact ⟨settles.ledgered knows held, known_of_plain next plain _⟩

theorem step_recalled (m : Mark) (s s' : Books) (next : Option Mark) (led : leads m s s' next)
    (standing : Discrepancy) (recalled : Recalled s standing) : Recalled s' standing := by
  cases m with
  | other =>
    rw [led.1]
    exact recalled
  | person found dto =>
    rw [led.1]
    exact recalled
  | decide found dto =>
    rcases led.2 with rfl | ⟨row, new, settles⟩
    · exact recalled
    · exact settles.recalled standing recalled

theorem step_known (m : Mark) (s s' : Books) (next : Option Mark) (led : leads m s s' next)
    (pending : Mark) (knows : known pending s) : known pending s' := by
  cases pending with
  | other => trivial
  | person found dto => exact step_recalled m s s' next led found knows
  | decide found dto => exact step_recalled m s s' next led found knows

def deciding : Protocol Books Mark where
  inv := Ledgered
  fits _ _ := True
  leads := leads
  known := known
  apart _ _ _ := True
  apart_symm _ _ _ _ := trivial
  own m s s' next held _ knows led := step_own m s s' next held knows led
  frame m s s' next pending _ _ _ knows _ led :=
    ⟨step_known m s s' next led pending knows, fun _ _ => trivial⟩
  rest _ _ _ _ _ _ _ _ _ _ _ := trivial

def Resolves (p : Request DiscrepancyView) : Prop := ∃ ctx ids id dto, p = resolve ctx ids id dto

theorem resolve_plain (ids : Nat → Id) (id : Id) (dto : ResolveDiscrepancyDto) :
    AllOther (resolve ctx ids id dto).mark? := by
  unfold resolve
  cases ctx.branchId with
  | none => exact fun m same => by cases same
  | some branchId =>
    cases ctx.userId with
    | none => exact fun m same => by cases same
    | some actorId => exact fun m same => (Option.some.inj same).symm

theorem resolves_enters (p : Request DiscrepancyView) (issued : Resolves p) (s : Books)
    (_ : Ledgered s) : deciding.Enters p s := by
  obtain ⟨ctx, ids, id, dto, rfl⟩ := issued
  exact ⟨walks_resolve ctx ids id dto, known_of_plain _ (resolve_plain ctx ids id dto) s,
    fun _ _ _ => trivial⟩

structure Opened (start : Books) : Prop where
  pending : ∀ row ∈ start.discrepancies.rows,
    row.status = .pendingInvestigation ∧ row.resolution = none
  unwritten : start.ledger.entries.rows = []

theorem Opened.ledgered {start : Books} (opened : Opened start) : Ledgered start where
  undecided row member := by simp [opened.pending row member]
  planned row member resolution chosen := by
    rw [(opened.pending row member).2] at chosen
    cases chosen
  posted id row found := by
    have none := (opened.pending row (Table.mem_of_find? _ _ _ found)).2
    simp [debtEntries, opened.unwritten, written, none]
  filed entry member := by
    rw [opened.unwritten] at member
    cases member
  totals g := by
    rw [opened.unwritten]
    refine (Table.total_eq_zero _ _ (fun row member => ?_)).symm
    rw [written_undecided (opened.pending row member).2]
    rfl

def charges (ledger : DebtDb) (companyId userId : Id) : Int :=
  (((entriesOf ledger companyId userId).filter (fun entry => entry.kind = .charge)).map
    EmployeeDebtEntry.amount).sum

def shortage (row : Discrepancy) : Int := max 0 (-row.amount)

/-- The shortages that were decided in one of these ways against somebody. -/
def shortages (s : Books) (companyId userId : Id) (ways : List DiscrepancyResolution) : Int :=
  s.discrepancies.total (fun row => if row.companyId = companyId ∧
    row.responsibleUserId = some userId ∧ row.resolution.any (fun way => way ∈ ways) then
      shortage row else 0)

/-- A discrepancy is open and has written nothing, or was decided once, and its rows are
those of one plan. -/
structure DecidedOnce (s : Books) : Prop where
  each : ∀ id row, s.discrepancies.find? id = some row →
    (row.status = .pendingInvestigation ∧ debtEntries s id = []) ∨
    ∃ resolution reason plan, row.status = .resolved ∧ row.resolution = some resolution ∧
      planResolution resolution reason row.responsibleUserId row.amount = .ok plan ∧
      (debtEntries s id).map (fun entry => (entry.kind, entry.amount)) = plan ∧
      ∀ entry ∈ debtEntries s id, entry.companyId = row.companyId ∧
        row.responsibleUserId = some entry.userId
  filed : ∀ entry ∈ s.ledger.entries.rows, ∃ id row, entry.discrepancyId = some id ∧
    s.discrepancies.find? id = some row

structure Charged (s : Books) : Prop where
  missing : ∀ entry ∈ s.ledger.entries.rows, entry.kind = .charge →
    ∃ id row, entry.discrepancyId = some id ∧ s.discrepancies.find? id = some row ∧ row.amount < 0
  total : ∀ companyId userId, charges s.ledger companyId userId =
    shortages s companyId userId [.employeeDebt, .forgiven]

def Clean (s : Books) : Prop :=
  ∀ row ∈ s.discrepancies.rows, row.resolution = some .forgiven → ¬ 0 < row.amount

section Written

variable (row : Discrepancy) (resolution : DiscrepancyResolution) (reason : Option String)
  (plan : List (DebtEntryKind × Int))

theorem written_plan (chosen : row.resolution = some resolution)
    (planned : planResolution resolution reason row.responsibleUserId row.amount = .ok plan) :
    (written row).map (fun post => (post.kind, post.amount)) = plan ∧
      ∀ post ∈ written row, post.companyId = row.companyId ∧
        row.responsibleUserId = some post.userId := by
  obtain ⟨rfl, named, -⟩ := planResolution_ok _ _ _ _ _ planned
  cases responsible : row.responsibleUserId with
  | none => cases resolution <;> simp_all [written, rowsOf, needsAPerson]
  | some userId =>
    constructor
    · simp [written, chosen, responsible, Function.comp_def]
    · intro post member
      simp only [written, chosen, responsible, List.mem_map] at member
      obtain ⟨line, -, rfl⟩ := member
      exact ⟨rfl, rfl⟩

theorem sum_written (companyId userId : Id) (g : DebtEntryKind × Int → Int)
    (chosen : row.resolution = some resolution) :
    ((written row).map (fun post => if post.companyId = companyId ∧ post.userId = userId then
      g (post.kind, post.amount) else 0)).sum =
      if row.companyId = companyId ∧ row.responsibleUserId = some userId then
        ((rowsOf resolution row.amount.natAbs).map g).sum else 0 := by
  cases responsible : row.responsibleUserId with
  | none => simp [written, responsible]
  | some person =>
    by_cases own : row.companyId = companyId ∧ person = userId
    · simp [written, chosen, responsible, own, Function.comp_def]
    · simp [written, chosen, responsible, own, Function.comp_def]

theorem shortage_of_not_surplus (found : ¬ 0 < row.amount) :
    ((row.amount.natAbs : Nat) : Int) = shortage row := by
  rw [shortage]
  omega

end Written

variable {s : Books}

theorem Ledgered.each (held : Ledgered s) (id : Id) (row : Discrepancy)
    (found : s.discrepancies.find? id = some row) :
    (row.status = .pendingInvestigation ∧ debtEntries s id = []) ∨
    ∃ resolution reason plan, row.status = .resolved ∧ row.resolution = some resolution ∧
      planResolution resolution reason row.responsibleUserId row.amount = .ok plan ∧
      (debtEntries s id).map (fun entry => (entry.kind, entry.amount)) = plan ∧
      ∀ entry ∈ debtEntries s id, entry.companyId = row.companyId ∧
        row.responsibleUserId = some entry.userId := by
  have member := Table.mem_of_find? _ _ _ found
  have posted := held.posted id row found
  cases chosen : row.resolution with
  | none =>
    rw [written_undecided chosen, List.map_eq_nil_iff] at posted
    exact .inl ⟨(held.undecided row member).mpr chosen, posted⟩
  | some resolution =>
    right
    obtain ⟨reason, plan, planned⟩ := held.planned row member resolution chosen
    obtain ⟨lines, parties⟩ := written_plan row resolution reason plan chosen planned
    have closed : row.status = .resolved := by
      cases status : row.status with
      | resolved => rfl
      | pendingInvestigation =>
        rw [(held.undecided row member).mp status] at chosen
        cases chosen
    refine ⟨resolution, reason, plan, closed, rfl, planned, ?_, fun entry inside => ?_⟩
    · rw [← lines, ← posted, List.map_map]
      rfl
    · exact parties (posting entry) (posted ▸ List.mem_map_of_mem inside)

theorem Ledgered.sum_entries (held : Ledgered s) (companyId userId : Id)
    (g : DebtEntryKind × Int → Int) :
    ((entriesOf s.ledger companyId userId).map (fun entry => g (entry.kind, entry.amount))).sum =
      s.discrepancies.total (fun row => if row.companyId = companyId ∧
        row.responsibleUserId = some userId then
          ((row.resolution.toList.flatMap (fun way => rowsOf way row.amount.natAbs)).map g).sum
        else 0) := by
  have totals := held.totals (fun post => if post.companyId = companyId ∧ post.userId = userId then
    g (post.kind, post.amount) else 0)
  rw [entriesOf, Table.sum_filter_ite]
  simp only [decide_eq_true_eq]
  refine Eq.trans ?_ (totals.trans ?_)
  · rfl
  · apply Table.total_congr
    intro row _
    cases chosen : row.resolution with
    | none => simp [written_undecided chosen]
    | some resolution =>
      rw [sum_written row resolution companyId userId g chosen]
      simp

theorem Ledgered.balance (held : Ledgered s) (companyId userId : Id) :
    owed s.ledger companyId userId = shortages s companyId userId [.employeeDebt] := by
  rw [owed, Debts.outstandingOf, balanceOf, List.map_map]
  refine (held.sum_entries companyId userId (fun line => entrySign line.1 * line.2)).trans ?_
  apply Table.total_congr
  intro row member
  cases chosen : row.resolution with
  | none => simp
  | some resolution =>
    obtain ⟨reason, plan, planned⟩ := held.planned row member resolution chosen
    obtain ⟨-, -, surplus⟩ := planResolution_ok _ _ _ _ _ planned
    cases resolution with
    | employeeDebt =>
      have missing := shortage_of_not_surplus row (fun found => surplus found rfl)
      simp [rowsOf, entrySign, missing]
    | forgiven => simp [rowsOf, entrySign]
    | storeAbsorbed => simp [rowsOf]
    | errorCorrected => simp [rowsOf]

theorem Ledgered.charges (held : Ledgered s) (clean : Clean s)
    (companyId userId : Id) : charges s.ledger companyId userId =
      shortages s companyId userId [.employeeDebt, .forgiven] := by
  rw [Resolutions.charges, Table.sum_filter_ite]
  refine Eq.trans ?_ ((held.sum_entries companyId userId
    (fun line => if line.1 = .charge then line.2 else 0)).trans ?_)
  · simp only [decide_eq_true_eq]
  apply Table.total_congr
  intro row member
  cases chosen : row.resolution with
  | none => simp
  | some resolution =>
    obtain ⟨reason, plan, planned⟩ := held.planned row member resolution chosen
    obtain ⟨-, -, surplus⟩ := planResolution_ok _ _ _ _ _ planned
    cases resolution with
    | employeeDebt =>
      have missing := shortage_of_not_surplus row (fun found => surplus found rfl)
      simp [rowsOf, missing]
    | forgiven =>
      have missing := shortage_of_not_surplus row (clean row member chosen)
      simp [rowsOf, missing]
    | storeAbsorbed => simp [rowsOf]
    | errorCorrected => simp [rowsOf]

theorem Ledgered.stems (held : Ledgered s) (entry : EmployeeDebtEntry)
    (member : entry ∈ s.ledger.entries.rows) :
    ∃ id row resolution, entry.discrepancyId = some id ∧ s.discrepancies.find? id = some row ∧
      row.resolution = some resolution ∧
      (entry.kind, entry.amount) ∈ rowsOf resolution row.amount.natAbs := by
  obtain ⟨id, row, about, found⟩ := held.filed entry member
  have own : entry ∈ debtEntries s id := List.mem_filter.mpr ⟨member, decide_eq_true about⟩
  have inside : posting entry ∈ written row :=
    held.posted id row found ▸ List.mem_map_of_mem own
  cases chosen : row.resolution with
  | none =>
    rw [written_undecided chosen] at inside
    cases inside
  | some resolution =>
    obtain ⟨reason, plan, planned⟩ :=
      held.planned row (Table.mem_of_find? _ _ _ found) resolution chosen
    have lines := (written_plan row resolution reason plan chosen planned).1
    obtain ⟨rfl, -, -⟩ := planResolution_ok _ _ _ _ _ planned
    exact ⟨id, row, resolution, about, found, chosen,
      lines ▸ List.mem_map_of_mem (f := fun post : Posting => (post.kind, post.amount)) inside⟩

theorem Ledgered.missing (held : Ledgered s) (clean : Clean s)
    (entry : EmployeeDebtEntry) (member : entry ∈ s.ledger.entries.rows) :
    ∃ id row, entry.discrepancyId = some id ∧ s.discrepancies.find? id = some row ∧
      row.amount < 0 := by
  obtain ⟨id, row, resolution, about, found, chosen, line⟩ := held.stems entry member
  refine ⟨id, row, about, found, ?_⟩
  have inside := Table.mem_of_find? _ _ _ found
  have deficit : ¬ 0 < row.amount := by
    obtain ⟨reason, plan, planned⟩ := held.planned row inside resolution chosen
    cases resolution with
    | employeeDebt => exact fun surplus => (planResolution_ok _ _ _ _ _ planned).2.2 surplus rfl
    | forgiven => exact clean row inside chosen
    | storeAbsorbed => cases line
    | errorCorrected => cases line
  have nonzero := row.nonzero
  omega

theorem Ledgered.clean (held : Ledgered s) (charged : Charged s) : Clean s := by
  intro row member forgiven surplus
  obtain ⟨reason, plan, planned⟩ := held.planned row member .forgiven forgiven
  have found := (s.discrepancies.find?_some row.id row).mpr ⟨member, rfl⟩
  have lines := (written_plan row .forgiven reason plan forgiven planned).1
  obtain ⟨rfl, -, -⟩ := planResolution_ok _ _ _ _ _ planned
  have charge : (.charge, (row.amount.natAbs : Int)) ∈
      (written row).map (fun post => (post.kind, post.amount)) := by
    rw [lines]
    exact List.mem_cons_self
  rw [← held.posted row.id row found, List.map_map, List.mem_map] at charge
  obtain ⟨entry, own, same⟩ := charge
  obtain ⟨inside, about⟩ := List.mem_filter.mp own
  obtain ⟨id, other, about', found', deficit⟩ :=
    charged.missing entry inside (congrArg Prod.fst same)
  rw [decide_eq_true_eq, about', Option.some.injEq] at about
  rw [about, found] at found'
  cases found'
  omega

theorem Ledgered.charged_iff (held : Ledgered s) : Charged s ↔ Clean s :=
  ⟨held.clean, fun clean =>
    ⟨fun entry member _ => held.missing clean entry member, held.charges clean⟩⟩

def NoSurplusForgiven (_ : Books) : Mark → Prop
  | .decide found dto => 0 < found.amount → dto.resolution ≠ .forgiven
  | _ => True

theorem run_ledgered (start : Books) (opened : Opened start) (fits : Books → Mark → Prop)
    (c : Config Books Mark Refusal DiscrepancyView)
    (run : FittingRun Resolves fits (Config.idle start) c) : deciding.Sound c :=
  deciding.run_sound Resolves (Config.idle start) c resolves_enters
    (run.mono (fun _ _ _ => trivial)) (deciding.sound_idle start opened.ledgered)

theorem step_clean (m : Mark) (s s' : Books) (next : Option Mark) (fit : NoSurplusForgiven s m)
    (knows : known m s) (led : leads m s s' next) (clean : Clean s) : Clean s' := by
  cases m with
  | other => exact led.1 ▸ clean
  | person found dto => exact led.1 ▸ clean
  | decide found dto =>
    rcases led.2 with rfl | ⟨row, new, settles⟩
    · exact clean
    · obtain ⟨userId, now, changed, -⟩ := settles.changed
      obtain ⟨same, there, -, amount⟩ := knows
      rw [settles.standing] at there
      cases there
      intro other member forgiven surplus
      rw [changed, Table.mem_update, settles.standing] at member
      rcases member with ⟨old, -⟩ | ⟨_, here, rfl⟩
      · exact clean other old forgiven surplus
      · cases here
        exact fit (amount ▸ surplus) (Option.some.inj forgiven)

theorem step_lasting (id : Id) (row : Discrepancy) (entries : List EmployeeDebtEntry)
    (closed : row.status = .resolved) (m : Mark) (s s' : Books) (next : Option Mark)
    (led : leads m s s' next)
    (before : s.discrepancies.find? id = some row ∧ debtEntries s id = entries) :
    s'.discrepancies.find? id = some row ∧ debtEntries s' id = entries := by
  cases m with
  | other => exact led.1 ▸ before
  | person found dto => exact led.1 ▸ before
  | decide found dto =>
    rcases led.2 with rfl | ⟨standing, new, settles⟩
    · exact before
    · obtain ⟨userId, now, changed, -⟩ := settles.changed
      have apart : id ≠ found.id := by
        intro same
        rw [same, settles.standing] at before
        obtain rfl := Option.some.inj before.1
        have pending := settles.pending
        rw [closed] at pending
        cases pending
      rw [changed, Table.find?_update, if_neg apart, settles.debtEntries, if_neg apart,
        List.append_nil]
      exact before

/-- Decisions by anybody, in any order: each discrepancy is decided once and for all, and what
somebody owes are the shortages held against them. Where no surplus is forgiven, and only
there, every charge is for something that was missing. -/
structure DecisionsKept (start : Books) : Prop where
  once : ∀ c, FittingRun Resolves (fun _ _ => True) (Config.idle start) c → DecidedOnce c.store
  lasting : ∀ c c', FittingRun Resolves (fun _ _ => True) (Config.idle start) c →
    FittingRun Resolves (fun _ _ => True) c c' →
    ∀ id row, c.store.discrepancies.find? id = some row → row.status = .resolved →
      c'.store.discrepancies.find? id = some row ∧
        debtEntries c'.store id = debtEntries c.store id
  balance : ∀ c, FittingRun Resolves (fun _ _ => True) (Config.idle start) c →
    ∀ companyId userId, owed c.store.ledger companyId userId =
      shortages c.store companyId userId [.employeeDebt]
  charged : ∀ c, FittingRun Resolves NoSurplusForgiven (Config.idle start) c → Charged c.store
  otherwise : ∀ c, FittingRun Resolves (fun _ _ => True) (Config.idle start) c →
    (Charged c.store ↔ Clean c.store)

theorem decisions_kept (start : Books) (opened : Opened start) : DecisionsKept start where
  once c run := by
    have held := (run_ledgered start opened _ c run).inv
    exact ⟨held.each, held.filed⟩
  lasting c c' before run id row found closed := by
    have sound := run_ledgered start opened _ c before
    have kept := sound.keeps deciding (fun _ _ _ => trivial)
      resolves_enters
      (fun s => s.discrepancies.find? id = some row ∧ debtEntries s id = debtEntries c.store id)
      (fun m s s' next _ _ _ led =>
        step_lasting id row (debtEntries c.store id) closed m s s' next led)
      run ⟨found, rfl⟩
    exact kept.2
  balance c run := (run_ledgered start opened _ c run).inv.balance
  charged c run := by
    have sound : deciding.Sound (Config.idle start : Config Books Mark Refusal DiscrepancyView) :=
      deciding.sound_idle start opened.ledgered
    have kept := sound.keeps deciding (fun _ _ _ => trivial)
      resolves_enters Clean
      (fun m s s' next _ fit knows led => step_clean m s s' next fit knows led) run
      (fun row member forgiven => by simp [opened.pending row member] at forgiven)
    exact kept.1.inv.charged_iff.mpr kept.2
  otherwise c run := (run_ledgered start opened _ c run).inv.charged_iff

def counted : Books where
  ledger := { people := ⟨[⟨7, 1⟩], List.nodup_singleton _⟩ }
  discrepancies := ⟨[{ id := 3, companyId := 1, branchId := 2, amount := -300
                       nonzero := by decide },
    { id := 4, companyId := 1, branchId := 2, amount := 250, nonzero := by decide }], by decide⟩

theorem counted_opened : Opened counted := ⟨by decide, rfl⟩

theorem decisions_kept_counted : DecisionsKept counted := decisions_kept counted counted_opened

def theOwner : Ctx where
  companyId := 1
  branchId := some 2
  userId := some 9
  now := 0

def forgives : ResolveDiscrepancyDto where
  resolution := .forgiven
  reason := "counted twice"
  responsibleUserId := some 7

/-- The surplus is charged to somebody, and forgiven. -/
theorem surplus_charged : ∃ start, Opened start ∧ ∃ c, FittingRun Resolves (fun _ _ => True)
    (Config.idle start) c ∧ ¬ Charged c.store ∧ charges c.store.ledger 1 7 = 250 ∧
      shortages c.store 1 7 [.employeeDebt, .forgiven] = 0 := by
  have charge : charges ((Config.idle counted).schedule
      [.arrive (resolve theOwner (fun index => 20 + index) 4 forgives), .advance 0, .advance 0,
        .advance 0]).store.ledger 1 7 = 250 := by decide +kernel
  have missing : shortages ((Config.idle counted).schedule
      [.arrive (resolve theOwner (fun index => 20 + index) 4 forgives), .advance 0, .advance 0,
        .advance 0]).store 1 7 [.employeeDebt, .forgiven] = 0 := by decide +kernel
  refine ⟨counted, counted_opened, _, ?_, ?_, charge, missing⟩
  · apply fitting_schedule
    · intro p member
      obtain rfl : p = resolve theOwner (fun index => 20 + index) 4 forgives := by
        simpa using member
      exact ⟨theOwner, _, 4, forgives, rfl⟩
    · exact fits_any _ _
  · intro charged
    have total := charged.total 1 7
    rw [charge, missing] at total
    cases total

end ErpBackend.Closing.Resolutions
