import ErpBackend.Suppliers.Payable

/-!
# The split and its check

`allocateOldestFirst` pays the oldest purchases first; `assertAllocationFits` is written apart
from it. What fits is described without the loop, and the suggested split is shown to fit.
-/

namespace ErpBackend.Suppliers

def allocated (allocations : List AllocationInput) : Int :=
  (allocations.map AllocationInput.amount).sum

def outstandingInAll (purchases : List OutstandingPurchase) : Int :=
  (purchases.map OutstandingPurchase.outstanding).sum

def given (allocations : List AllocationInput) (purchaseId : Id) : Int :=
  ((allocations.filter (fun allocation => allocation.purchaseId = purchaseId)).map
    AllocationInput.amount).sum

/-- An allocation of an open purchase of at most what is owed on it. -/
def Covered (owed : List OutstandingPurchase) (allocation : AllocationInput) : Prop :=
  0 < allocation.amount ∧ ∃ purchase, owedOn owed allocation.purchaseId = some purchase ∧
    allocation.amount ≤ purchase.outstanding

variable (owed : List OutstandingPurchase)

theorem fitAllocation_covered (fitting : Fitting)
    (allocation : AllocationInput)
    (clean : (fitAllocation owed fitting allocation).problems = []) :
    Covered owed allocation := by
  obtain ⟨positive, fresh, ⟨purchase, found⟩, -⟩ :=
    fitAllocation_clean owed fitting allocation clean
  refine ⟨positive, purchase, found, ?_⟩
  have above : ¬ allocation.amount ≤ 0 := by omega
  by_contra short
  have more : purchase.outstanding < allocation.amount := by omega
  simp [fitAllocation, above, fresh, found, more, Fitting.refuse] at clean

variable (allocations : List AllocationInput)

theorem fit_covered (fitting : Fitting)
    (clean : (allocations.foldl (fitAllocation owed) fitting).problems = []) :
    ∀ allocation ∈ allocations, Covered owed allocation := by
  induction allocations generalizing fitting with
  | nil => simp
  | cons first rest ih =>
    have before := fit_problems owed rest _ clean
    have here := fitAllocation_covered owed fitting first before
    have later := ih _ clean
    intro allocation member
    rcases List.mem_cons.mp member with rfl | there
    · exact here
    · exact later allocation there

theorem fitAllocation_takes (fitting : Fitting)
    (allocation : AllocationInput) (covered : Covered owed allocation)
    (fresh : allocation.purchaseId ∉ fitting.seen) :
    fitAllocation owed fitting allocation =
      { fitting with
        seen := fitting.seen ++ [allocation.purchaseId]
        total := fitting.total + allocation.amount } := by
  obtain ⟨positive, purchase, found, within⟩ := covered
  have above : ¬ allocation.amount ≤ 0 := by omega
  have fits : ¬ purchase.outstanding < allocation.amount := by omega
  simp [fitAllocation, above, fresh, found, fits]

theorem fit_takes (fitting : Fitting)
    (covered : ∀ allocation ∈ allocations, Covered owed allocation)
    (once : (fitting.seen ++ allocations.map AllocationInput.purchaseId).Nodup) :
    allocations.foldl (fitAllocation owed) fitting =
      { fitting with
        seen := fitting.seen ++ allocations.map AllocationInput.purchaseId
        total := fitting.total + allocated allocations } := by
  induction allocations generalizing fitting with
  | nil => simp [allocated]
  | cons first rest ih =>
    have fresh : first.purchaseId ∉ fitting.seen := by grind
    have taken := fitAllocation_takes owed fitting first (covered first List.mem_cons_self) fresh
    have later := ih (fitAllocation owed fitting first)
      (fun allocation member => covered allocation (List.mem_cons_of_mem _ member))
      (by rw [taken]; simpa using once)
    rw [List.foldl_cons, later, taken]
    simp [allocated, add_assoc]

theorem assertAllocationFits_iff (amount : Int) (allocations : List AllocationInput)
    (owed : List OutstandingPurchase) :
    assertAllocationFits amount allocations owed = .ok () ↔
      allocations ≠ [] ∧ (allocations.map AllocationInput.purchaseId).Nodup ∧
        (∀ allocation ∈ allocations, Covered owed allocation) ∧ allocated allocations = amount := by
  constructor
  · intro allowed
    have total := assertAllocationFits_total amount allocations owed allowed
    have distinct := (assertAllocationFits_ok amount allocations owed allowed).1
    have some_ : allocations ≠ [] := by
      rintro rfl
      simp [assertAllocationFits] at allowed
    have clean : (allocations.foldl (fitAllocation owed) {}).problems = [] := by
      by_contra problems
      simp [assertAllocationFits, some_, problems] at allowed
    exact ⟨some_, distinct, fit_covered owed allocations {} clean, total⟩
  · rintro ⟨some_, distinct, covered, total⟩
    have taken := fit_takes owed allocations {} covered (by simpa using distinct)
    simp [assertAllocationFits, some_, taken, total]

variable (left : Int)

variable (purchases : List OutstandingPurchase)

theorem takeOldest_none (spent : left ≤ 0) :
    takeOldest left purchases = [] := by
  cases purchases with
  | nil => rfl
  | cons purchase rest => simp [takeOldest, spent]

theorem takeOldest_some (purchase : OutstandingPurchase)
    (rest : List OutstandingPurchase) (more : 0 < left) (open_ : 0 < purchase.outstanding) :
    takeOldest left (purchase :: rest) =
      ⟨purchase.purchaseId, min left purchase.outstanding⟩ ::
        takeOldest (left - min left purchase.outstanding) rest := by
  have unspent : ¬ left ≤ 0 := by omega
  have takes : 0 < min left purchase.outstanding := by omega
  simp [takeOldest, unspent, takes]

theorem takeOldest_total (open_ : ∀ purchase ∈ purchases, 0 < purchase.outstanding) :
    allocated (takeOldest left purchases) = min (max 0 left) (outstandingInAll purchases) := by
  induction purchases generalizing left with
  | nil => simp [takeOldest, allocated, outstandingInAll]
  | cons purchase rest ih =>
    have first := open_ purchase List.mem_cons_self
    have later := fun left => ih left
      (fun other member => open_ other (List.mem_cons_of_mem _ member))
    have enough : 0 ≤ outstandingInAll rest := by
      have spent := later 0
      simp only [takeOldest_none 0 rest le_rfl] at spent
      simp [allocated] at spent
      exact spent
    by_cases spent : left ≤ 0
    · rw [takeOldest_none left _ spent]
      simp only [allocated, outstandingInAll, List.map_nil, List.sum_nil, List.map_cons,
        List.sum_cons]
      simp only [outstandingInAll] at enough
      omega
    · have rest := later (left - min left purchase.outstanding)
      rw [takeOldest_some left purchase _ (by omega) first]
      simp only [allocated, outstandingInAll, List.map_cons, List.sum_cons] at rest enough ⊢
      omega

theorem takeOldest_names (open_ : ∀ purchase ∈ purchases, 0 < purchase.outstanding) :
    ((takeOldest left purchases).map AllocationInput.purchaseId).Sublist
      (purchases.map OutstandingPurchase.purchaseId) := by
  induction purchases generalizing left with
  | nil => simp [takeOldest]
  | cons purchase rest ih =>
    by_cases spent : left ≤ 0
    · simp [takeOldest_none left _ spent]
    · rw [takeOldest_some left purchase _ (by omega) (open_ purchase List.mem_cons_self)]
      exact (ih _ (fun other member => open_ other (List.mem_cons_of_mem _ member))).cons_cons _

theorem takeOldest_within (open_ : ∀ purchase ∈ purchases, 0 < purchase.outstanding) :
    ∀ allocation ∈ takeOldest left purchases, 0 < allocation.amount ∧
      ∃ purchase ∈ purchases, purchase.purchaseId = allocation.purchaseId ∧
        allocation.amount ≤ purchase.outstanding := by
  induction purchases generalizing left with
  | nil => simp [takeOldest]
  | cons purchase rest ih =>
    have first := open_ purchase List.mem_cons_self
    by_cases spent : left ≤ 0
    · simp [takeOldest_none left _ spent]
    · rw [takeOldest_some left purchase _ (by omega) first]
      intro allocation member
      rcases List.mem_cons.mp member with rfl | there
      · exact ⟨by dsimp only; omega, purchase, List.mem_cons_self, rfl, by dsimp only; omega⟩
      · obtain ⟨positive, other, inside, named, within⟩ := ih _
          (fun other member => open_ other (List.mem_cons_of_mem _ member)) allocation there
        exact ⟨positive, other, List.mem_cons_of_mem _ inside, named, within⟩

theorem takeOldest_older (open_ : ∀ purchase ∈ purchases, 0 < purchase.outstanding)
    (distinct : (purchases.map OutstandingPurchase.purchaseId).Nodup)
    (sorted : purchases.Pairwise (fun left right => left.date ≤ right.date))
    (later : OutstandingPurchase) (listed : later ∈ purchases) (older : OutstandingPurchase)
    (present : older ∈ purchases) (before : ¬ later.date ≤ older.date)
    (named : later.purchaseId ∈ (takeOldest left purchases).map AllocationInput.purchaseId) :
    ⟨older.purchaseId, older.outstanding⟩ ∈ takeOldest left purchases := by
  induction purchases generalizing left with
  | nil => cases listed
  | cons purchase rest ih =>
    have first := open_ purchase List.mem_cons_self
    have restOpen := fun other member => open_ other (List.mem_cons_of_mem purchase member)
    obtain ⟨apart, restDistinct⟩ := List.nodup_cons.mp distinct
    obtain ⟨earliest, restSorted⟩ := List.pairwise_cons.mp sorted
    by_cases spent : left ≤ 0
    · simp [takeOldest_none left _ spent] at named
    · rw [takeOldest_some left purchase _ (by omega) first] at named ⊢
      rcases List.mem_cons.mp listed with rfl | behind
      · rcases List.mem_cons.mp present with rfl | there
        · exact absurd le_rfl before
        · exact absurd (earliest older there) before
      · have other : later.purchaseId ≠ purchase.purchaseId := fun same =>
          apart (same ▸ List.mem_map_of_mem behind)
        have reached : later.purchaseId ∈
            (takeOldest (left - min left purchase.outstanding) rest).map
              AllocationInput.purchaseId := by
          simpa [other] using named
        rcases List.mem_cons.mp present with rfl | there
        · -- the money reached a later purchase, so this one took all it is owed
          have unspent : ¬ left - min left older.outstanding ≤ 0 := by
            intro gone
            simp [takeOldest_none _ rest gone] at reached
          have full : min left older.outstanding = older.outstanding := by omega
          rw [full]
          exact List.mem_cons_self
        · exact List.mem_cons_of_mem _
            (ih _ restOpen restDistinct restSorted behind there reached)

def dueOldest (purchases : List OutstandingPurchase) : List OutstandingPurchase :=
  (purchases.filter (fun purchase => 0 < purchase.outstanding)).insertionSort
    (fun left right => left.date ≤ right.date)

variable (purchases : List OutstandingPurchase)

theorem dueOldest_mem (purchase : OutstandingPurchase) :
    purchase ∈ dueOldest purchases ↔ purchase ∈ purchases ∧ 0 < purchase.outstanding := by
  simp [dueOldest, List.mem_insertionSort]

theorem dueOldest_perm :
    (dueOldest purchases).Perm (purchases.filter (fun purchase => 0 < purchase.outstanding)) :=
  List.perm_insertionSort _ _

theorem dueOldest_sorted :
    (dueOldest purchases).Pairwise (fun left right => left.date ≤ right.date) := by
  apply List.pairwise_insertionSort

theorem dueOldest_distinct (distinct : (purchases.map OutstandingPurchase.purchaseId).Nodup) :
    ((dueOldest purchases).map OutstandingPurchase.purchaseId).Nodup :=
  ((dueOldest_perm purchases).map _).nodup_iff.mpr
    (distinct.sublist (List.filter_sublist.map _))

theorem dueOldest_owing (open_ : ∀ purchase ∈ purchases, 0 ≤ purchase.outstanding) :
    outstandingInAll (dueOldest purchases) = outstandingInAll purchases := by
  have same : outstandingInAll (dueOldest purchases) =
      outstandingInAll (purchases.filter (fun purchase => 0 < purchase.outstanding)) :=
    ((dueOldest_perm purchases).map _).sum_eq
  rw [same]
  clear same
  induction purchases with
  | nil => rfl
  | cons purchase rest ih =>
    have first := open_ purchase List.mem_cons_self
    have later := ih (fun other member => open_ other (List.mem_cons_of_mem _ member))
    by_cases due : 0 < purchase.outstanding
    · simpa [outstandingInAll, due] using later
    · have settled : purchase.outstanding = 0 := by omega
      simpa [outstandingInAll, settled] using later

/-- The oldest are paid first: at most what is owed, no purchase twice, as much as there is, and
none while an older one is still owed. -/
structure OldestFirst (amount : Int) (purchases : List OutstandingPurchase)
    (allocations : List AllocationInput) : Prop where
  within : ∀ purchase ∈ purchases,
    given allocations purchase.purchaseId ≤ purchase.outstanding
  open_ : ∀ allocation ∈ allocations, 0 < allocation.amount ∧
    ∃ purchase ∈ purchases, purchase.purchaseId = allocation.purchaseId
  once : (allocations.map AllocationInput.purchaseId).Nodup
  total : allocated allocations = min (max 0 amount) (outstandingInAll purchases)
  older : ∀ older ∈ purchases, ∀ later ∈ purchases, older.date < later.date →
    0 < given allocations later.purchaseId →
      given allocations older.purchaseId = older.outstanding

theorem given_once (once : (allocations.map AllocationInput.purchaseId).Nodup)
    (allocation : AllocationInput)
    (member : allocation ∈ allocations) :
    given allocations allocation.purchaseId = allocation.amount :=
  Foundation.Table.sum_filter_key allocations AllocationInput.purchaseId _ once allocation member

theorem given_none (purchaseId : Id)
    (unnamed : purchaseId ∉ allocations.map AllocationInput.purchaseId) :
    given allocations purchaseId = 0 := by
  have none : allocations.filter (fun allocation => allocation.purchaseId = purchaseId) = [] := by
    rw [List.filter_eq_nil_iff]
    intro allocation member same
    exact unnamed (List.mem_map.mpr ⟨allocation, member, of_decide_eq_true same⟩)
  simp [given, none]

theorem allocateOldestFirst_oldest (amount : Int) (purchases : List OutstandingPurchase)
    (distinct : (purchases.map OutstandingPurchase.purchaseId).Nodup)
    (open_ : ∀ purchase ∈ purchases, 0 ≤ purchase.outstanding) :
    OldestFirst amount purchases (allocateOldestFirst amount purchases) := by
  have due : ∀ purchase ∈ dueOldest purchases, 0 < purchase.outstanding :=
    fun purchase member => ((dueOldest_mem purchases purchase).mp member).2
  have apart := dueOldest_distinct purchases distinct
  have within := takeOldest_within amount (dueOldest purchases) due
  have once := apart.sublist (takeOldest_names amount (dueOldest purchases) due)
  have total := takeOldest_total amount (dueOldest purchases) due
  rw [dueOldest_owing purchases open_] at total
  -- a purchase that is named is one that is due
  have named : ∀ purchase ∈ purchases, ∀ allocation ∈ takeOldest amount (dueOldest purchases),
      allocation.purchaseId = purchase.purchaseId →
        purchase ∈ dueOldest purchases ∧ allocation.amount ≤ purchase.outstanding := by
    intro purchase member allocation inside same
    obtain ⟨-, other, listed, equal, bound⟩ := within allocation inside
    have present := ((dueOldest_mem purchases other).mp listed).1
    have one := List.inj_on_of_nodup_map distinct present member (equal.trans same)
    exact ⟨one ▸ listed, one ▸ bound⟩
  have given_le : ∀ purchase ∈ purchases,
      given (takeOldest amount (dueOldest purchases)) purchase.purchaseId ≤
        purchase.outstanding := by
    intro purchase member
    by_cases listed : purchase.purchaseId ∈
        (takeOldest amount (dueOldest purchases)).map AllocationInput.purchaseId
    · obtain ⟨allocation, inside, same⟩ := List.mem_map.mp listed
      rw [← same, given_once _ once allocation inside]
      exact (named purchase member allocation inside same).2
    · rw [given_none _ _ listed]
      exact open_ purchase member
  refine { within := given_le, open_ := ?_, once := once, total := total, older := ?_ }
  · intro allocation inside
    obtain ⟨positive, purchase, listed, same, -⟩ := within allocation inside
    exact ⟨positive, purchase, ((dueOldest_mem purchases purchase).mp listed).1, same⟩
  · intro older present later member before paid
    have listed : later.purchaseId ∈
        (takeOldest amount (dueOldest purchases)).map AllocationInput.purchaseId := by
      by_contra unnamed
      have nothing := given_none _ _ unnamed
      change 0 < given (takeOldest amount (dueOldest purchases)) later.purchaseId at paid
      omega
    obtain ⟨allocation, inside, same⟩ := List.mem_map.mp listed
    have laterDue := (named later member allocation inside same).1
    change given (takeOldest amount (dueOldest purchases)) older.purchaseId = older.outstanding
    by_cases olderDue : 0 < older.outstanding
    · have full := takeOldest_older amount (dueOldest purchases) due apart
        (dueOldest_sorted purchases) later laterDue older
        ((dueOldest_mem purchases older).mpr ⟨present, olderDue⟩) (not_le.mpr before) listed
      exact given_once _ once _ full
    · have settled : older.outstanding = 0 := by
        have some_ := open_ older present
        omega
      rw [settled]
      refine given_none _ _ (fun again => ?_)
      obtain ⟨other, there, equal⟩ := List.mem_map.mp again
      exact olderDue (due older (named older present other there equal).1)

theorem owedOn_mem (distinct : (purchases.map OutstandingPurchase.purchaseId).Nodup)
    (purchase : OutstandingPurchase) (member : purchase ∈ purchases) :
    owedOn purchases purchase.purchaseId = some purchase := by
  rcases found : owedOn purchases purchase.purchaseId with _ | other
  · have none := List.find?_eq_none.mp found purchase member
    simp at none
  · obtain ⟨present, same⟩ := owedOn_some _ _ _ found
    rw [List.inj_on_of_nodup_map distinct present member same]

theorem allocateOldestFirst_fits (amount : Int) (purchases : List OutstandingPurchase)
    (distinct : (purchases.map OutstandingPurchase.purchaseId).Nodup)
    (open_ : ∀ purchase ∈ purchases, 0 ≤ purchase.outstanding) (some_ : 0 < amount)
    (enough : amount ≤ outstandingInAll purchases) :
    assertAllocationFits amount (allocateOldestFirst amount purchases) purchases = .ok () := by
  have oldest := allocateOldestFirst_oldest amount purchases distinct open_
  have total : allocated (allocateOldestFirst amount purchases) = amount := by
    have all := oldest.total
    omega
  rw [assertAllocationFits_iff]
  refine ⟨?_, oldest.once, fun allocation inside => ?_, total⟩
  · intro nothing
    simp [nothing, allocated] at total
    omega
  · obtain ⟨positive, purchase, member, same⟩ := oldest.open_ allocation inside
    refine ⟨positive, purchase, same ▸ owedOn_mem purchases distinct purchase member, ?_⟩
    have bound := oldest.within purchase member
    rw [same, given_once _ oldest.once allocation inside] at bound
    exact bound

structure FitsIn (amount : Int) (allocations : List AllocationInput)
    (purchases : List OutstandingPurchase) : Prop where
  total : allocated allocations = amount
  once : (allocations.map AllocationInput.purchaseId).Nodup
  within : ∀ allocation ∈ allocations, ∃ purchase ∈ purchases,
    purchase.purchaseId = allocation.purchaseId ∧ 0 < purchase.outstanding ∧
      allocation.amount ≤ purchase.outstanding

/-- The split pays the oldest first, fits where there is something to pay, and what fits keeps to
the purchases. -/
theorem oldest_first_fits (purchases : List OutstandingPurchase)
    (distinct : (purchases.map OutstandingPurchase.purchaseId).Nodup)
    (open_ : ∀ purchase ∈ purchases, 0 ≤ purchase.outstanding) (amount : Int) :
    OldestFirst amount purchases (allocateOldestFirst amount purchases) ∧
      (0 < amount → amount ≤ outstandingInAll purchases →
        assertAllocationFits amount (allocateOldestFirst amount purchases) purchases = .ok ()) ∧
      ∀ allocations, assertAllocationFits amount allocations purchases = .ok () →
        FitsIn amount allocations purchases := by
  refine ⟨allocateOldestFirst_oldest amount purchases distinct open_,
    allocateOldestFirst_fits amount purchases distinct open_, fun allocations allowed => ?_⟩
  obtain ⟨-, once, covered, total⟩ := (assertAllocationFits_iff _ _ _).mp allowed
  refine { total := total, once := once, within := fun allocation inside => ?_ }
  obtain ⟨positive, purchase, found, bound⟩ := covered allocation inside
  obtain ⟨member, same⟩ := owedOn_some _ _ _ found
  exact ⟨purchase, member, same, by omega, bound⟩

def twoOpen : List OutstandingPurchase := [⟨2, 20000, 0, 20000, 9⟩, ⟨1, 50000, 45000, 5000, 4⟩]

/-- Of nothing nothing is split, and no split is not accepted. -/
theorem assertAllocationFits_nothing :
    (0 : Int) ≤ outstandingInAll twoOpen ∧
      assertAllocationFits 0 (allocateOldestFirst 0 twoOpen) twoOpen =
        .error (.badRequest "Say which purchases this payment settles") := by
  decide +kernel

theorem oldest_first_fits_two :
    assertAllocationFits 8000 (allocateOldestFirst 8000 twoOpen) twoOpen = .ok () :=
  (oldest_first_fits twoOpen (by decide) (by decide) 8000).2.1 (by decide) (by decide)

end ErpBackend.Suppliers
