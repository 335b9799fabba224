import ErpBackend.Billing.Assessment

/-!
# The high-water mark over a period

A company grows and shrinks while a period runs. Each size is assessed against what the
sizes before it left, and under one plan the period ends at the largest quote of each
fee. No step refunds anything, and what the steps add is the whole of the increase.
-/

namespace ErpBackend.Billing

open Foundation

def PeriodAssessment.period (assessment : PeriodAssessment) : AssessedPeriod :=
  ⟨assessment.assessedBranchFee, assessment.assessedStaffFee⟩

def AssessedPeriod.total (period : AssessedPeriod) : Nat :=
  period.assessedBranchFee + period.assessedStaffFee

def unassessed : AssessedPeriod := ⟨0, 0⟩

def assessments (plan : PlanPricing) : AssessedPeriod → List CompanySize → List PeriodAssessment
  | _, [] => []
  | prior, size :: rest =>
    let assessment := assessPeriod size prior plan
    assessment :: assessments plan assessment.period rest

def assessedAfter (plan : PlanPricing) (prior : AssessedPeriod) (sizes : List CompanySize) :
    AssessedPeriod :=
  sizes.foldl (fun period size => (assessPeriod size period plan).period) prior

section Folding

variable (plan : PlanPricing)

@[simp]
theorem period_total (assessment : PeriodAssessment) :
    assessment.period.total = assessment.assessedBranchFee + assessment.assessedStaffFee := rfl

theorem added_raises (size : CompanySize) (prior : AssessedPeriod) :
    (assessPeriod size prior plan).addedThisPeriod + prior.total =
      (assessPeriod size prior plan).period.total := by
  have rises : prior.total ≤ (assessPeriod size prior plan).period.total := by
    rw [period_total, assessed_branch, assessed_staff]
    exact Nat.add_le_add (Nat.le_max_left ..) (Nat.le_max_left ..)
  calc (assessPeriod size prior plan).addedThisPeriod + prior.total
      = (assessPeriod size prior plan).period.total - prior.total + prior.total := by
        simp [assessPeriod, PeriodAssessment.period, AssessedPeriod.total, whole]
    _ = (assessPeriod size prior plan).period.total := Nat.sub_add_cancel rises

variable (sizes : List CompanySize)

theorem added_sum (prior : AssessedPeriod) :
    ((assessments plan prior sizes).map PeriodAssessment.addedThisPeriod).sum + prior.total =
      (assessedAfter plan prior sizes).total := by
  induction sizes generalizing prior with
  | nil => simp [assessments, assessedAfter]
  | cons size rest ih =>
    have step := added_raises plan size prior
    have run := ih (assessPeriod size prior plan).period
    simp only [assessments, assessedAfter, List.map_cons, List.sum_cons, List.foldl_cons] at run ⊢
    omega

theorem last_period (first : CompanySize) (rest : List CompanySize) (prior : AssessedPeriod) :
    ∃ last, (assessments plan prior (first :: rest)).getLast? = some last ∧
      last.period = assessedAfter plan prior (first :: rest) ∧
      last.assessedTotal = last.period.total := by
  induction rest generalizing first prior with
  | nil => exact ⟨assessPeriod first prior plan, rfl, rfl, rfl⟩
  | cons second rest ih =>
    obtain ⟨last, isLast, ends, total⟩ := ih second (assessPeriod first prior plan).period
    exact ⟨last, by simpa [assessments] using isLast, ends, total⟩

/-- A fee that only rises ends at the largest quote of it. -/
theorem fee_fold (kept : AssessedPeriod → Nat) (fee : CompanySize → Nat)
    (raises : ∀ size prior, kept (assessPeriod size prior plan).period =
      max (kept prior) (fee size)) (prior : AssessedPeriod) :
    kept (assessedAfter plan prior sizes) = (sizes.map fee).foldl max (kept prior) := by
  induction sizes generalizing prior with
  | nil => rfl
  | cons size rest ih =>
    rw [List.map_cons, List.foldl_cons, ← raises]
    exact ih (assessPeriod size prior plan).period

theorem foldl_max_greatest (fee : CompanySize → Nat) (first : CompanySize)
    (rest : List CompanySize) :
    IsGreatest {x | ∃ size ∈ first :: rest, fee size = x}
      (((first :: rest).map fee).foldl max 0) := by
  have largest : ((first :: rest).map fee).max? =
      some (((first :: rest).map fee).foldl max 0) := by
    rw [List.map_cons, List.max?_cons', List.foldl_cons, Nat.zero_max]
  obtain ⟨attained, bounds⟩ := List.max?_eq_some_iff.mp largest
  constructor
  · exact List.mem_map.mp attained
  · rintro x ⟨size, member, rfl⟩
    exact bounds (fee size) (List.mem_map_of_mem member)

end Folding

/-- What a run of assessments from an unassessed period comes to. -/
structure HighWater (plan : PlanPricing) (sizes : List CompanySize) (last : PeriodAssessment) :
    Prop where
  branch : IsGreatest {fee | ∃ size ∈ sizes, (quoteFor size plan).branchFee = fee}
    last.assessedBranchFee
  staff : IsGreatest {fee | ∃ size ∈ sizes, (quoteFor size plan).staffFee = fee}
    last.assessedStaffFee
  /-- Neither the order nor a repetition counts, only which sizes were seen. -/
  unordered : ∀ sizes', (∀ size, size ∈ sizes' ↔ size ∈ sizes) →
    assessedAfter plan unassessed sizes' = last.period
  /-- Wherever the period starts from, the steps add up to what it rose by. -/
  added : ∀ prior, ((assessments plan prior sizes).map
    PeriodAssessment.addedThisPeriod).sum + prior.total = (assessedAfter plan prior sizes).total
  total : last.assessedTotal = (assessedAfter plan unassessed sizes).total
  covers : ∀ size ∈ sizes, (quoteFor size plan).monthlyTotal ≤ last.assessedTotal

section Marks

variable (plan : PlanPricing)

theorem branch_greatest (first : CompanySize) (rest : List CompanySize) :
    IsGreatest {fee | ∃ size ∈ first :: rest, (quoteFor size plan).branchFee = fee}
      (assessedAfter plan unassessed (first :: rest)).assessedBranchFee := by
  rw [fee_fold plan _ AssessedPeriod.assessedBranchFee (fun size => (quoteFor size plan).branchFee)
    (fun size prior => assessed_branch size prior plan)]
  exact foldl_max_greatest _ first rest

theorem staff_greatest (first : CompanySize) (rest : List CompanySize) :
    IsGreatest {fee | ∃ size ∈ first :: rest, (quoteFor size plan).staffFee = fee}
      (assessedAfter plan unassessed (first :: rest)).assessedStaffFee := by
  rw [fee_fold plan _ AssessedPeriod.assessedStaffFee (fun size => (quoteFor size plan).staffFee)
    (fun size prior => assessed_staff size prior plan)]
  exact foldl_max_greatest _ first rest

theorem assessed_unordered (first : CompanySize) (rest sizes' : List CompanySize)
    (same : ∀ size, size ∈ sizes' ↔ size ∈ first :: rest) :
    assessedAfter plan unassessed sizes' = assessedAfter plan unassessed (first :: rest) := by
  cases sizes' with
  | nil => simpa using (same first).mpr List.mem_cons_self
  | cons first' rest' =>
    have branch := branch_greatest plan first' rest'
    have staff := staff_greatest plan first' rest'
    simp only [same] at branch staff
    have branches := branch.unique (branch_greatest plan first rest)
    have staffs := staff.unique (staff_greatest plan first rest)
    cases left : assessedAfter plan unassessed (first' :: rest')
    cases right : assessedAfter plan unassessed (first :: rest)
    simp_all

/-- Over any growth and shrinking of a company, a period under fixed prices ends at the
largest quote of either fee among the sizes it was assessed at. -/
theorem assessments_high_water (first : CompanySize) (rest : List CompanySize) :
    ∃ last, (assessments plan unassessed (first :: rest)).getLast? = some last ∧
      HighWater plan (first :: rest) last := by
  obtain ⟨last, isLast, ends, total⟩ := last_period plan first rest unassessed
  have branch := branch_greatest plan first rest
  have staff := staff_greatest plan first rest
  rw [← ends] at branch staff
  exact ⟨last, isLast, {
    branch
    staff
    unordered := fun sizes' same => by rw [assessed_unordered plan first rest sizes' same, ends]
    added := added_sum plan (first :: rest)
    total := by rw [total, ends]
    covers := fun size member => by
      have branchFee := branch.2 ⟨size, member, rfl⟩
      have staffFee := staff.2 ⟨size, member, rfl⟩
      rw [total, quote_total]
      exact Nat.add_le_add branchFee staffFee }⟩

end Marks

end ErpBackend.Billing
