import ErpBackend.Foundation.Answers
import ErpBackend.Users.Seats

/-!
# BillingService

A billing period keeps the highest fees it was assessed at. `assessNow` reads the
period, counts the company in two queries, takes the maximum in memory and writes it
whatever the period holds by then. Amounts are whole ouguiyas in unsigned columns.
-/

namespace ErpBackend.Billing

open Foundation

structure PlanPricing where
  branchMonthly : Nat
  includedStaffPerBranch : Nat
  extraStaffMonthly : Nat
  deriving DecidableEq

structure CompanySize where
  activeBranchCount : Nat
  activeStaffCount : Nat
  deriving DecidableEq

structure Quote where
  branchMonthly : Nat
  extraStaffMonthly : Nat
  activeBranchCount : Nat
  activeStaffCount : Nat
  includedStaffCount : Nat
  chargeableStaffCount : Nat
  branchFee : Nat
  staffFee : Nat
  monthlyTotal : Nat
  currency : String
  deriving DecidableEq

def whole (n : Nat) : Nat := max 0 n

def quoteFor (size : CompanySize) (plan : PlanPricing) : Quote :=
  let activeBranchCount := whole size.activeBranchCount
  let activeStaffCount := whole size.activeStaffCount
  let includedStaffCount := activeBranchCount * whole plan.includedStaffPerBranch
  let chargeableStaffCount := activeStaffCount - includedStaffCount
  let branchFee := activeBranchCount * whole plan.branchMonthly
  let staffFee := chargeableStaffCount * whole plan.extraStaffMonthly
  { branchMonthly := plan.branchMonthly
    extraStaffMonthly := plan.extraStaffMonthly
    activeBranchCount
    activeStaffCount
    includedStaffCount
    chargeableStaffCount
    branchFee
    staffFee
    monthlyTotal := branchFee + staffFee
    currency := "MRU" }

structure AssessedPeriod where
  assessedBranchFee : Nat
  assessedStaffFee : Nat

structure PeriodAssessment extends Quote where
  previouslyAssessedBranchFee : Nat
  previouslyAssessedStaffFee : Nat
  assessedBranchFee : Nat
  assessedStaffFee : Nat
  assessedTotal : Nat
  addedThisPeriod : Nat

def assessPeriod (size : CompanySize) (prior : AssessedPeriod) (plan : PlanPricing) :
    PeriodAssessment :=
  let q := quoteFor size plan
  let priorBranch := whole prior.assessedBranchFee
  let priorStaff := whole prior.assessedStaffFee
  let assessedBranchFee := max priorBranch q.branchFee
  let assessedStaffFee := max priorStaff q.staffFee
  let assessedTotal := assessedBranchFee + assessedStaffFee
  { q with
    previouslyAssessedBranchFee := priorBranch
    previouslyAssessedStaffFee := priorStaff
    assessedBranchFee
    assessedStaffFee
    assessedTotal
    addedThisPeriod := assessedTotal - (priorBranch + priorStaff) }

section Rules

variable (size : CompanySize) (prior : AssessedPeriod) (plan : PlanPricing)

@[simp]
theorem quote_total : (quoteFor size plan).monthlyTotal =
    (quoteFor size plan).branchFee + (quoteFor size plan).staffFee := rfl

@[simp]
theorem assessed_branch : (assessPeriod size prior plan).assessedBranchFee =
    max prior.assessedBranchFee (quoteFor size plan).branchFee := by
  simp [assessPeriod, whole]

@[simp]
theorem assessed_staff : (assessPeriod size prior plan).assessedStaffFee =
    max prior.assessedStaffFee (quoteFor size plan).staffFee := by
  simp [assessPeriod, whole]

@[simp]
theorem assessed_total : (assessPeriod size prior plan).assessedTotal =
    max prior.assessedBranchFee (quoteFor size plan).branchFee +
      max prior.assessedStaffFee (quoteFor size plan).staffFee := by
  simp [assessPeriod, whole]

theorem added_zero : (assessPeriod size prior plan).addedThisPeriod = 0 ↔
    (quoteFor size plan).branchFee ≤ prior.assessedBranchFee ∧
      (quoteFor size plan).staffFee ≤ prior.assessedStaffFee := by
  simp only [assessPeriod, whole, Nat.zero_max]
  omega

end Rules

structure Branch where
  id : Id
  companyId : Id
  isActive : Bool
  deriving DecidableEq

structure PlanVersion where
  id : Id
  planKey : String
  version : Nat
  pricing : PlanPricing
  effectiveFrom : Time
  deriving DecidableEq

structure BillingPeriod where
  id : Id
  companyId : Id
  subscriptionId : Id
  planVersionId : Id
  periodStart : Time
  periodEnd : Option Time
  pricing : PlanPricing
  activeBranchCount : Nat
  activeStaffCount : Nat
  includedStaffCount : Nat
  chargeableStaffCount : Nat
  assessedBranchFee : Nat
  assessedStaffFee : Nat
  assessedTotal : Nat
  deriving DecidableEq

structure Store where
  users : Table Users.User Users.User.id
  userBranches : List Users.UserBranch
  branches : Table Branch Branch.id
  planVersions : Table PlanVersion PlanVersion.id
  billingPeriods : Table BillingPeriod BillingPeriod.id

/-- The statement a request is about to run. `sizing` and `raise` carry the period as it
was read. -/
inductive Mark where
  | other
  | openPeriod
  | sizing (read : BillingPeriod)
  | raise (read : BillingPeriod) (size : CompanySize)
  deriving DecidableEq

abbrev Request (α : Type) := Prog Store Mark Refusal α

/-- `COUNT(DISTINCT u.id)` of active people with a role other than the owner's. -/
def countStaff (companyId : Id) (s : Store) : Nat :=
  (s.users.filter (fun user => user.companyId = companyId ∧ user.isActive = true ∧
    user.deletedAt = none ∧ s.userBranches.any (fun row =>
      row.userId = user.id ∧ row.roleKey ≠ "owner") = true)).length

def countBranches (companyId : Id) (s : Store) : Nat :=
  (s.branches.filter (fun branch => branch.companyId = companyId ∧ branch.isActive = true)).length

def sizeOf (mark : Mark) (companyId : Id) : Request CompanySize := do
  let staff ← .read mark (countStaff companyId)
  let activeBranchCount ← .read mark (countBranches companyId)
  pure { activeBranchCount, activeStaffCount := staff }

/-- `orderBy: { effectiveFrom: 'asc' }`. -/
def standardPlans (s : Store) : List PlanVersion :=
  (s.planVersions.filter (fun row => row.planKey = "standard")).insertionSort
    (fun first second => first.effectiveFrom ≤ second.effectiveFrom)

def planAt (time : Time) (plans : List PlanVersion) : Option PlanVersion :=
  ((plans.filter (fun row => row.effectiveFrom ≤ time)).getLast?).or plans.head?

def openedPeriod (id companyId subscriptionId : Id) (endsAt : Option Time) (now : Time)
    (plan : PlanVersion) (size : CompanySize) : BillingPeriod :=
  let q := quoteFor size plan.pricing
  { id
    companyId
    subscriptionId
    planVersionId := plan.id
    periodStart := now
    periodEnd := endsAt
    pricing := plan.pricing
    activeBranchCount := q.activeBranchCount
    activeStaffCount := q.activeStaffCount
    includedStaffCount := q.includedStaffCount
    chargeableStaffCount := q.chargeableStaffCount
    assessedBranchFee := q.branchFee
    assessedStaffFee := q.staffFee
    assessedTotal := q.monthlyTotal }

def insertPeriod (row : BillingPeriod) (s : Store) : Except Refusal Store :=
  s.billingPeriods.store row (.unique "PRIMARY") (fun billingPeriods => { s with billingPeriods })

def openPeriod (id companyId subscriptionId : Id) (endsAt : Option Time) (now : Time) :
    Request Unit := do
  let size ← sizeOf .other companyId
  let plans ← .read .other standardPlans
  let plan ← .expect (.badRequest "No pricing is configured.") (planAt now plans)
  .commit .openPeriod (insertPeriod
    (openedPeriod id companyId subscriptionId endsAt now plan size))

/-- `orderBy: { periodStart: 'desc' }`. -/
def latestPeriod (companyId : Id) (s : Store) : Option BillingPeriod :=
  (s.billingPeriods.filter (fun row => row.companyId = companyId)).foldl
    (fun latest row => if latest.any (fun other => row.periodStart ≤ other.periodStart)
      then latest else some row) none

def raised (size : CompanySize) (assessment : PeriodAssessment) (row : BillingPeriod) :
    BillingPeriod :=
  { row with
    activeBranchCount := size.activeBranchCount
    activeStaffCount := size.activeStaffCount
    includedStaffCount := assessment.includedStaffCount
    chargeableStaffCount := assessment.chargeableStaffCount
    assessedBranchFee := assessment.assessedBranchFee
    assessedStaffFee := assessment.assessedStaffFee
    assessedTotal := assessment.assessedTotal }

theorem raised_id (size : CompanySize) (assessment : PeriodAssessment) (row : BillingPeriod) :
    (raised size assessment row).id = row.id := rfl

def assess (size : CompanySize) (read : BillingPeriod) : PeriodAssessment :=
  assessPeriod size ⟨read.assessedBranchFee, read.assessedStaffFee⟩ read.pricing

/-- `billingPeriod.update`: the row must be there. -/
def raisePeriod (read : BillingPeriod) (size : CompanySize) (s : Store) : Except Refusal Store :=
  match s.billingPeriods.swap? read.id (fun _ => true) (raised size (assess size read))
      (raised_id size (assess size read)) with
  | none => .error (.notFound "Record to update not found.")
  | some billingPeriods => .ok { s with billingPeriods }

/-- The call is answered with nothing; the model answers with what it assessed. -/
structure Assessed where
  periodId : Id
  size : CompanySize
  deriving DecidableEq

def assessNow (companyId : Id) : Request (Option Assessed) := do
  let found ← .read .other (latestPeriod companyId)
  match found with
  | none => pure none
  | some period =>
    let size ← sizeOf (.sizing period) companyId
    if (assess size period).addedThisPeriod = 0 then pure (some ⟨period.id, size⟩)
    else
      .commit (.raise period size) (raisePeriod period size)
      pure (some ⟨period.id, size⟩)

structure Raised (row row' : BillingPeriod) : Prop where
  pricing : row'.pricing = row.pricing
  branch : row.assessedBranchFee ≤ row'.assessedBranchFee
  staff : row.assessedStaffFee ≤ row'.assessedStaffFee
  total : row.assessedTotal ≤ row'.assessedTotal

def Rises (s s' : Store) : Prop :=
  ∀ id row, s.billingPeriods.find? id = some row →
    ∃ row', s'.billingPeriods.find? id = some row' ∧ Raised row row'

def Covers (done : Assessed) (s : Store) : Prop :=
  ∃ row, s.billingPeriods.find? done.periodId = some row ∧
    (quoteFor done.size row.pricing).branchFee ≤ row.assessedBranchFee ∧
    (quoteFor done.size row.pricing).staffFee ≤ row.assessedStaffFee ∧
    (quoteFor done.size row.pricing).monthlyTotal ≤ row.assessedTotal

/-- The total of every period is that of its components, as it is opened and raised. -/
def Summed (s : Store) : Prop :=
  ∀ row ∈ s.billingPeriods.rows, row.assessedTotal = row.assessedBranchFee + row.assessedStaffFee

/-- A call finds the period as it read it: no other call has written it in between. -/
def Undisturbed (s : Store) : Mark → Prop
  | .raise read _ => s.billingPeriods.find? read.id = some read
  | _ => True

theorem Rises.refl (s : Store) : Rises s s :=
  fun _ row found => ⟨row, found, rfl, Nat.le_refl _, Nat.le_refl _, Nat.le_refl _⟩

theorem Rises.trans {s s' s'' : Store} (first : Rises s s') (second : Rises s' s'') :
    Rises s s'' := by
  intro id row found
  obtain ⟨row', found', left⟩ := first id row found
  obtain ⟨row'', found'', right⟩ := second id row' found'
  exact ⟨row'', found'', right.pricing.trans left.pricing, left.branch.trans right.branch,
    left.staff.trans right.staff, left.total.trans right.total⟩

theorem Rises.of_same {s s' : Store} (same : s'.billingPeriods = s.billingPeriods) :
    Rises s s' := by
  intro id row found
  exact ⟨row, by rw [same]; exact found, rfl, Nat.le_refl _, Nat.le_refl _, Nat.le_refl _⟩

theorem Covers.rises {done : Assessed} {s s' : Store} (covers : Covers done s)
    (rises : Rises s s') : Covers done s' := by
  obtain ⟨row, found, branch, staff, total⟩ := covers
  obtain ⟨row', found', raised⟩ := rises _ row found
  rw [← raised.pricing] at branch staff total
  exact ⟨row', found', branch.trans raised.branch, staff.trans raised.staff,
    total.trans raised.total⟩

theorem raisePeriod_ok (read : BillingPeriod) (size : CompanySize) (s s' : Store)
    (done : raisePeriod read size s = .ok s') :
    ∃ row, s.billingPeriods.find? read.id = some row ∧
      s' = { s with
        billingPeriods := s.billingPeriods.update read.id (raised size (assess size read))
          (raised_id size (assess size read)) } := by
  unfold raisePeriod at done
  split at done
  · cases done
  · next billingPeriods swapped =>
    cases done
    obtain ⟨row, found, -, rfl⟩ := (Table.swap?_some _ _ _ _ _ _).mp swapped
    exact ⟨row, found, rfl⟩

theorem insertPeriod_ok (row : BillingPeriod) (s s' : Store) (done : insertPeriod row s = .ok s') :
    ∃ billingPeriods, s.billingPeriods.insert? row = some billingPeriods ∧
      s' = { s with billingPeriods } := by
  unfold insertPeriod at done
  exact Table.store_ok _ _ _ _ _ done

/-- What is known of a period once it was read: it is there, with the same prices, and its
fees have not fallen. -/
def Known : Mark → Store → Prop
  | .sizing read, s => ∃ row, s.billingPeriods.find? read.id = some row ∧ Raised read row
  | .raise read _, s => ∃ row, s.billingPeriods.find? read.id = some row ∧ Raised read row
  | _, _ => True

theorem Known.rises {m : Mark} {s s' : Store} (known : Known m s) (rises : Rises s s') :
    Known m s' := by
  cases m with
  | other => trivial
  | openPeriod => trivial
  | sizing read =>
      obtain ⟨row, found, raised⟩ := known
      obtain ⟨row', found', more⟩ := rises _ row found
      exact ⟨row', found', more.pricing.trans raised.pricing, raised.branch.trans more.branch,
        raised.staff.trans more.staff, raised.total.trans more.total⟩
  | raise read size =>
      obtain ⟨row, found, raised⟩ := known
      obtain ⟨row', found', more⟩ := rises _ row found
      exact ⟨row', found', more.pricing.trans raised.pricing, raised.branch.trans more.branch,
        raised.staff.trans more.staff, raised.total.trans more.total⟩

def Follows (read : BillingPeriod) : Option Mark → Prop
  | none => True
  | some mark => mark = .sizing read ∨ ∃ size, mark = .raise read size

def leads : Mark → Store → Store → Option Mark → Prop
  | .other, s, s', next => s'.billingPeriods = s.billingPeriods ∧ ∀ m ∈ next, Known m s'
  | .openPeriod, s, s', next =>
      (s' = s ∨ ∃ row, row.assessedTotal = row.assessedBranchFee + row.assessedStaffFee ∧
        insertPeriod row s = .ok s') ∧ next = none
  | .sizing read, s, s', next => s' = s ∧ Follows read next
  | .raise read size, s, s', next => (s' = s ∨ raisePeriod read size s = .ok s') ∧ next = none

theorem raise_rises {read : BillingPeriod} {size : CompanySize} {s s' : Store} (summed : Summed s)
    (found : s.billingPeriods.find? read.id = some read)
    (done : raisePeriod read size s = .ok s') : Rises s s' ∧ Covers ⟨read.id, size⟩ s' := by
  obtain ⟨_, -, rfl⟩ := raisePeriod_ok read size s s' done
  have total := summed read (Table.mem_of_find? _ _ _ found)
  constructor
  · intro id other present
    rw [Table.find?_update_of_found _ _ _ _ _ _ present]
    refine ⟨_, rfl, ?_⟩
    split
    · next same =>
      rw [same, found] at present
      cases present
      refine ⟨rfl, ?_, ?_, ?_⟩
      · simp only [raised, assess, assessed_branch]
        omega
      · simp only [raised, assess, assessed_staff]
        omega
      · simp only [raised, assess, assessed_total]
        omega
    · exact ⟨rfl, Nat.le_refl _, Nat.le_refl _, Nat.le_refl _⟩
  · refine ⟨raised size (assess size read) read, ?_, ?_, ?_, ?_⟩
    · rw [Table.find?_update_of_found _ _ _ _ _ _ found, if_pos rfl]
    · simp only [raised, assess, assessed_branch]
      omega
    · simp only [raised, assess, assessed_staff]
      omega
    · simp only [raised, assess, assessed_total, quote_total]
      omega

theorem leads_rises {m : Mark} {s s' : Store} {next : Option Mark} (summed : Summed s)
    (fit : Undisturbed s m) (led : leads m s s' next) : Rises s s' := by
  cases m with
  | other => exact .of_same led.1
  | openPeriod =>
      rcases led.1 with rfl | ⟨row, -, done⟩
      · exact .refl s'
      · obtain ⟨billingPeriods, inserted, rfl⟩ := insertPeriod_ok row s s' done
        intro id other found
        exact ⟨other, Table.find?_insert_of_found _ _ _ inserted id other found, rfl,
          Nat.le_refl _, Nat.le_refl _, Nat.le_refl _⟩
  | sizing read =>
      obtain ⟨rfl, -⟩ := led
      exact .refl s'
  | raise read size =>
      rcases led.1 with rfl | done
      · exact .refl s'
      · exact (raise_rises summed fit done).1

theorem leads_summed {m : Mark} {s s' : Store} {next : Option Mark} (summed : Summed s)
    (led : leads m s s' next) : Summed s' := by
  cases m with
  | other =>
      intro row member
      rw [led.1] at member
      exact summed row member
  | openPeriod =>
      rcases led.1 with rfl | ⟨opened, total, done⟩
      · exact summed
      · obtain ⟨billingPeriods, inserted, rfl⟩ := insertPeriod_ok opened s s' done
        obtain ⟨rows, -⟩ := Table.insert?_some _ _ _ inserted
        intro row member
        rw [rows] at member
        rcases List.mem_append.mp member with old | new
        · exact summed row old
        · rw [List.mem_singleton.mp new]
          exact total
  | sizing read =>
      obtain ⟨rfl, -⟩ := led
      exact summed
  | raise read size =>
      rcases led.1 with rfl | done
      · exact summed
      · obtain ⟨_, _, rfl⟩ := raisePeriod_ok read size s s' done
        intro row member
        simp only [Table.mem_update] at member
        rcases member with ⟨old, -⟩ | ⟨before, -, rfl⟩
        · exact summed row old
        · simp [raised, assess]

theorem leads_known {m m' : Mark} {s s' : Store} (rises : Rises s s') (known : Known m s)
    (led : leads m s s' (some m')) : Known m' s' := by
  cases m with
  | other => exact led.2 m' rfl
  | openPeriod => cases led.2
  | sizing read =>
      have held : Known (.sizing read) s' := known.rises rises
      rcases led.2 with rfl | ⟨size, rfl⟩
      · exact held
      · exact held
  | raise read size => cases led.2

def assessing : Protocol Store Mark where
  inv := Summed
  fits := Undisturbed
  leads := leads
  known := Known
  apart _ _ _ := True
  apart_symm _ _ _ _ := trivial
  own := by
    intro m s s' next summed fit known led
    refine ⟨leads_summed summed led, ?_⟩
    rintro m' rfl
    exact leads_known (leads_rises summed fit led) known led
  frame := by
    intro m s s' next mark summed fit _ held _ led
    exact ⟨held.rises (leads_rises summed fit led), fun _ _ => trivial⟩
  rest _ _ _ _ _ _ _ _ _ _ _ := trivial

/-- Assessments, new periods, and whatever changes the size of the company. -/
inductive Call : Request (Option Assessed) → Prop
  | assessNow (companyId : Id) : Call (assessNow companyId)
  | openPeriod (id companyId subscriptionId : Id) (endsAt : Option Time) (now : Time) :
      Call (openPeriod id companyId subscriptionId endsAt now >>= fun _ => pure none)
  | resize (update : Store → Store)
      (kept : ∀ s, (update s).billingPeriods = s.billingPeriods) :
      Call (.execute .other update >>= fun _ => pure none)

theorem latest_mem (rows : List BillingPeriod) (before : Option BillingPeriod) (row : BillingPeriod)
    (found : rows.foldl (fun latest row =>
      if latest.any (fun other => row.periodStart ≤ other.periodStart) then latest else some row)
        before = some row) : row ∈ rows ∨ before = some row := by
  induction rows generalizing before with
  | nil => exact .inr found
  | cons first rest ih =>
      rcases ih _ found with later | here
      · exact .inl (List.mem_cons_of_mem _ later)
      · dsimp only at here
        split at here
        · exact .inr here
        · cases here
          exact .inl (List.mem_cons_self ..)

theorem latestPeriod_found (companyId : Id) (s : Store) (row : BillingPeriod)
    (found : latestPeriod companyId s = some row) : s.billingPeriods.find? row.id = some row := by
  rcases latest_mem _ none row found with member | absent
  · exact (Table.find?_some _ _ _).mpr ⟨(Table.mem_filter _ _ _).mp member |>.1, rfl⟩
  · cases absent

theorem openedPeriod_summed (id companyId subscriptionId : Id) (endsAt : Option Time) (now : Time)
    (plan : PlanVersion) (size : CompanySize) :
    (openedPeriod id companyId subscriptionId endsAt now plan size).assessedTotal =
      (openedPeriod id companyId subscriptionId endsAt now plan size).assessedBranchFee +
        (openedPeriod id companyId subscriptionId endsAt now plan size).assessedStaffFee := rfl

theorem assessNow_walks (companyId : Id) : (assessNow companyId).Walks leads := by
  unfold assessNow
  apply Prog.walks_read
  intro s
  rcases found : latestPeriod companyId s with _ | period
  · exact ⟨⟨rfl, by simp [Prog.mark?]⟩, trivial⟩
  · have known : Known (.sizing period) s :=
      ⟨period, latestPeriod_found companyId s period found, rfl, Nat.le_refl _, Nat.le_refl _,
        Nat.le_refl _⟩
    refine ⟨⟨rfl, ?_⟩, ?_⟩
    · intro m first
      cases first
      exact known
    · simp only [sizeOf, Prog.bind_assoc]
      apply Prog.walks_read
      refine fun s => ⟨⟨rfl, .inl rfl⟩, ?_⟩
      apply Prog.walks_read
      intro s'
      simp only [Prog.pure_bind]
      split
      · exact ⟨⟨rfl, trivial⟩, trivial⟩
      · refine ⟨⟨rfl, .inr ⟨_, rfl⟩⟩, ?_⟩
        apply Prog.walks_commit
        · exact fun s s' done => ⟨.inr done, rfl⟩
        · exact fun s e _ => ⟨.inl rfl, rfl⟩
        · trivial

theorem openPeriod_walks (id companyId subscriptionId : Id) (endsAt : Option Time) (now : Time) :
    (openPeriod id companyId subscriptionId endsAt now >>=
      fun _ => pure (none : Option Assessed)).Walks leads := by
  simp only [openPeriod, sizeOf, Prog.bind_assoc]
  apply Prog.walks_read
  refine fun s => ⟨⟨rfl, by rintro m ⟨⟩; trivial⟩, ?_⟩
  apply Prog.walks_read
  refine fun s => ⟨⟨rfl, by rintro m ⟨⟩; trivial⟩, ?_⟩
  apply Prog.walks_read
  intro s
  rcases planAt now (standardPlans s) with _ | plan
  · exact ⟨⟨rfl, by rintro m ⟨⟩⟩, trivial⟩
  · refine ⟨⟨rfl, by rintro m ⟨⟩; trivial⟩, ?_⟩
    apply Prog.walks_expect
    intro chosen _
    apply Prog.walks_commit
    · exact fun s s' done => ⟨.inr ⟨_, openedPeriod_summed .., done⟩, rfl⟩
    · exact fun s e _ => ⟨.inl rfl, rfl⟩
    · trivial

theorem call_enters (p : Request (Option Assessed)) (call : Call p) (s : Store) :
    assessing.Enters p s := by
  refine ⟨?_, ?_, fun _ _ _ => trivial⟩
  · cases call with
    | assessNow companyId => exact assessNow_walks companyId
    | openPeriod id companyId subscriptionId endsAt now =>
        exact openPeriod_walks id companyId subscriptionId endsAt now
    | resize update kept =>
        exact Prog.walks_execute _ _ _ (fun s => ⟨kept s, by rintro m ⟨⟩⟩) trivial
  · intro m first
    cases call with
    | assessNow companyId =>
        cases first
        trivial
    | openPeriod id companyId subscriptionId endsAt now =>
        cases first
        trivial
    | resize update kept =>
        cases first
        trivial

theorem assessNow_unclaimed (companyId : Id) (done : Assessed) :
    (assessNow companyId).Unclaimed (assessing.Possible Undisturbed) (fun _ s' => Covers done s')
      (fun result => result = .ok (some done)) := by
  unfold assessNow
  apply Prog.unclaimed_read
  intro s _
  rcases latestPeriod companyId s with _ | period
  · exact .inl (fun same => by cases same)
  · left
    simp only [sizeOf, Prog.bind_assoc]
    apply Prog.unclaimed_read
    intro s _
    left
    apply Prog.unclaimed_read
    intro s' ⟨summed, _, known⟩
    simp only [Prog.pure_bind]
    split
    · next added =>
      by_cases own : (⟨period.id, ⟨countBranches companyId s', countStaff companyId s⟩⟩ : Assessed)
          = done
      · right
        obtain ⟨branch, staff⟩ := (added_zero _ _ _).mp added
        obtain ⟨row, found, raised⟩ := known
        have total := summed row (Table.mem_of_find? _ _ _ found)
        have branchFee := raised.branch
        have staffFee := raised.staff
        subst own
        refine ⟨row, found, ?_, ?_, ?_⟩
        · rw [raised.pricing]
          exact branch.trans branchFee
        · rw [raised.pricing]
          exact staff.trans staffFee
        · rw [raised.pricing, quote_total, total]
          exact Nat.add_le_add (branch.trans branchFee) (staff.trans staffFee)
      · left
        intro same
        cases same
        exact own rfl
    · left
      apply Prog.unclaimed_commit
      · intro t t' ⟨summed, fit, _⟩ written
        by_cases own :
            (⟨period.id, ⟨countBranches companyId s', countStaff companyId s⟩⟩ : Assessed) = done
        · right
          subst own
          exact (raise_rises summed fit written).2
        · left
          intro same
          cases same
          exact own rfl
      · intro e same
        cases same

theorem call_unclaimed (p : Request (Option Assessed)) (call : Call p) (done : Assessed) :
    p.Unclaimed (assessing.Possible Undisturbed) (fun _ s' => Covers done s')
      (fun result => result = .ok (some done)) := by
  cases call with
  | assessNow companyId => exact assessNow_unclaimed companyId done
  | openPeriod id companyId subscriptionId endsAt now =>
      apply Prog.unclaimed_bind
      · intro _ same
        cases same
      · intro e same
        cases same
  | resize update kept =>
      intro s _
      left
      intro same
      cases same

/-- Where every call finds the period as it read it, no fee falls, and the fees cover the size
that any answered call has read. -/
theorem fees_never_fall (s : Store) (summed : Summed s)
    (c : Config Store Mark Refusal (Option Assessed))
    (run : FittingRun Call Undisturbed (.idle s) c) :
    (∀ c', FittingRun Call Undisturbed c c' → Rises c.store c'.store) ∧
      ∀ (index : Nat) (done : Assessed), c.inFlight[index]? = some (.done (.ok (some done))) →
        Covers done c.store := by
  have enters : ∀ p, Call p → ∀ s, assessing.inv s → assessing.Enters p s :=
    fun p call s _ => call_enters p call s
  have sound := assessing.run_sound Call _ c enters run (assessing.sound_idle s summed)
  constructor
  · intro c' later
    exact (sound.keeps assessing (fun _ _ fit => fit) enters (Rises c.store)
      (fun m s s' next summed fit _ led risen =>
        risen.trans (leads_rises summed fit led)) later (.refl c.store)).2
  · intro index done answered
    exact Protocol.Sound.reached assessing (fun _ _ fit => fit) enters _ (Covers done)
      (fun m s s' next summed fit _ led covered =>
        covered.rises (leads_rises summed fit led))
      (fun p call => call_unclaimed p call done) summed run index _ answered rfl

def monthly : PlanPricing := ⟨500, 2, 100⟩

def smallShop : Store where
  users := .empty
  userBranches := []
  branches := ⟨[⟨10, 1, true⟩], List.nodup_singleton _⟩
  planVersions := .empty
  billingPeriods := ⟨[⟨50, 1, 40, 30, 0, none, monthly, 1, 0, 2, 0, 500, 0, 500⟩],
    List.nodup_singleton _⟩

theorem smallShop_summed : Summed smallShop := by
  intro row member
  rw [List.mem_singleton.mp member]
  rfl

def assessing1 : Move Store Mark Refusal (Option Assessed) := .arrive (assessNow 1)

def open11 (s : Store) : Store :=
  { s with branches := ⟨[⟨10, 1, true⟩, ⟨11, 1, true⟩], by decide⟩ }

def open12 (s : Store) : Store :=
  { s with branches := ⟨[⟨10, 1, true⟩, ⟨11, 1, true⟩, ⟨12, 1, true⟩], by decide⟩ }

def opening (update : Store → Store) : Move Store Mark Refusal (Option Assessed) :=
  .arrive (.execute .other update >>= fun _ => pure none)

theorem growth_issued (moves : List (Move Store Mark Refusal (Option Assessed)))
    (growth : ∀ p, .arrive p ∈ moves → Move.arrive p = assessing1 ∨
      Move.arrive p = opening open11 ∨ Move.arrive p = opening open12) :
    ∀ p, .arrive p ∈ moves → Call p := by
  intro p member
  rcases growth p member with same | same | same
  · cases same
    exact .assessNow 1
  · cases same
    exact .resize open11 (fun _ => rfl)
  · cases same
    exact .resize open12 (fun _ => rfl)

/-- The call for the second branch writes after the one for the third. -/
def overtaken : List (Move Store Mark Refusal (Option Assessed)) :=
  [opening open11, .advance 0, assessing1, .advance 1, .advance 1, .advance 1, opening open12,
    .advance 2, assessing1, .advance 3, .advance 3, .advance 3, .advance 3]

theorem overtaken_issued : ∀ p, .arrive p ∈ overtaken → Call p := by
  apply growth_issued
  intro p member
  simp only [overtaken, List.mem_cons, List.not_mem_nil, reduceCtorEq, or_false, false_or] at member
  rcases member with same | same | same | same
  · exact .inr (.inl same)
  · exact .inl same
  · exact .inr (.inr same)
  · exact .inl same

theorem fees_fall :
    ¬ ∀ s, Summed s → ∀ c, FittingRun Call (fun _ _ => True) (.idle s) c →
      ∀ c', FittingRun Call (fun _ _ => True) c c' → Rises c.store c'.store := by
  intro claim
  have run := fitting_schedule Call (fun _ _ => True) (.idle smallShop) overtaken overtaken_issued
    (by decide +kernel)
  have last := fitting_schedule Call (fun _ _ => True) ((Config.idle smallShop).schedule overtaken)
    [.advance 1] (fun p member => by cases List.mem_singleton.mp member) (by decide +kernel)
  have rises := claim smallShop smallShop_summed _ run _ last
  have fell : ∃ row ∈ (((Config.idle smallShop).schedule overtaken).store.billingPeriods.find? 50),
      ∃ row' ∈ ((((Config.idle smallShop).schedule overtaken).schedule
        [.advance 1]).store.billingPeriods.find? 50), row'.assessedTotal < row.assessedTotal := by
    decide +kernel
  obtain ⟨row, found, row', found', less⟩ := fell
  obtain ⟨after, present, raised⟩ := rises 50 row found
  rw [present] at found'
  cases found'
  exact absurd raised.total (Nat.not_le.mpr less)

instance (s : Store) : (m : Mark) → Decidable (Undisturbed s m)
  | .other => .isTrue trivial
  | .openPeriod => .isTrue trivial
  | .sizing _ => .isTrue trivial
  | .raise read _ => inferInstanceAs (Decidable (s.billingPeriods.find? read.id = some read))

/-- The third branch opens while the call for the second is under way, and its own call comes
after. -/
def inOrder : List (Move Store Mark Refusal (Option Assessed)) :=
  [opening open11, .advance 0, assessing1, .advance 1, .advance 1, .advance 1, opening open12,
    .advance 2, .advance 1, assessing1, .advance 3, .advance 3, .advance 3, .advance 3]

theorem fees_never_fall_inOrder :
    Covers ⟨50, ⟨2, 0⟩⟩ ((Config.idle smallShop).schedule inOrder).store ∧
      Covers ⟨50, ⟨3, 0⟩⟩ ((Config.idle smallShop).schedule inOrder).store := by
  have run := fitting_schedule Call Undisturbed (.idle smallShop) inOrder (by
    apply growth_issued
    intro p member
    simp only [inOrder, List.mem_cons, List.not_mem_nil, reduceCtorEq, or_false, false_or]
      at member
    rcases member with same | same | same | same
    · exact .inr (.inl same)
    · exact .inl same
    · exact .inr (.inr same)
    · exact .inl same) (by decide +kernel)
  obtain ⟨-, covered⟩ := fees_never_fall smallShop smallShop_summed _ run
  exact ⟨covered 1 ⟨50, ⟨2, 0⟩⟩ rfl, covered 3 ⟨50, ⟨3, 0⟩⟩ rfl⟩

end ErpBackend.Billing
