import ErpBackend.Schema

/-!
# What a supplier is owed

`payable.ts`: nothing here reads the database. What is outstanding is handed in.
-/

namespace ErpBackend.Suppliers

structure OutstandingPurchase where
  purchaseId : Id
  total : Int
  paid : Int
  outstanding : Int
  date : Time

structure AllocationInput where
  purchaseId : Id
  amount : Int
  deriving DecidableEq

/-- `outstandingByPurchase.get`. -/
def owedOn (owed : List OutstandingPurchase) (purchaseId : Id) : Option OutstandingPurchase :=
  owed.find? (fun purchase => purchase.purchaseId = purchaseId)

variable (owed : List OutstandingPurchase)

theorem owedOn_some (purchaseId : Id)
    (purchase : OutstandingPurchase) (found : owedOn owed purchaseId = some purchase) :
    purchase ∈ owed ∧ purchase.purchaseId = purchaseId :=
  ⟨List.mem_of_find?_eq_some found, by simpa using List.find?_some found⟩

def takeOldest : Int → List OutstandingPurchase → List AllocationInput
  | _, [] => []
  | left, purchase :: rest =>
      if left ≤ 0 then []
      else
        let amount := min left purchase.outstanding
        if 0 < amount then ⟨purchase.purchaseId, amount⟩ :: takeOldest (left - amount) rest
        else takeOldest left rest

def allocateOldestFirst (amount : Int) (purchases : List OutstandingPurchase) :
    List AllocationInput :=
  takeOldest amount ((purchases.filter (fun purchase => 0 < purchase.outstanding)).insertionSort
    (fun left right => left.date ≤ right.date))

structure Fitting where
  seen : List Id := []
  problems : List Problem := []
  total : Int := 0

def Fitting.refuse (fitting : Fitting) (problem : Problem) : Fitting :=
  { fitting with problems := fitting.problems ++ [problem] }

def fitAllocation (owed : List OutstandingPurchase) (fitting : Fitting)
    (allocation : AllocationInput) : Fitting :=
  if allocation.amount ≤ 0 then
    fitting.refuse
      { purchaseId := some allocation.purchaseId
        reason := some "amount must be more than zero" }
  else if allocation.purchaseId ∈ fitting.seen then
    fitting.refuse
      { purchaseId := some allocation.purchaseId, reason := some "listed twice" }
  else
    let named := { fitting with seen := fitting.seen ++ [allocation.purchaseId] }
    match owedOn owed allocation.purchaseId with
    | none => named.refuse
        { purchaseId := some allocation.purchaseId
          reason := some "not an open purchase for this supplier" }
    | some purchase =>
        if purchase.outstanding < allocation.amount then
          named.refuse
            { purchaseId := some allocation.purchaseId
              reason := some "more than is owed on this purchase"
              outstanding := some purchase.outstanding
              requested := some allocation.amount }
        else { named with total := named.total + allocation.amount }

def assertAllocationFits (amount : Int) (allocations : List AllocationInput)
    (owed : List OutstandingPurchase) : Except Refusal Unit :=
  if allocations = [] then .error (.badRequest "Say which purchases this payment settles")
  else
    let fitting := allocations.foldl (fitAllocation owed) {}
    if fitting.problems ≠ [] then
      .error ((Refusal.badRequest "That payment cannot be applied").about fitting.problems)
    else if fitting.total ≠ amount then
      .error ((Refusal.badRequest "The allocation does not add up to the amount paid").about
        [{ amount := some amount, allocated := some fitting.total }])
    else .ok ()

theorem fitAllocation_problems (fitting : Fitting)
    (allocation : AllocationInput) :
    ∃ more, (fitAllocation owed fitting allocation).problems = fitting.problems ++ more := by
  unfold fitAllocation
  split
  · exact ⟨_, rfl⟩
  · split
    · exact ⟨_, rfl⟩
    · dsimp only
      split
      · exact ⟨_, rfl⟩
      · split
        · exact ⟨_, rfl⟩
        · exact ⟨[], (List.append_nil _).symm⟩

variable (allocations : List AllocationInput)

theorem fit_problems (fitting : Fitting)
    (clean : (allocations.foldl (fitAllocation owed) fitting).problems = []) :
    fitting.problems = [] := by
  induction allocations generalizing fitting with
  | nil => exact clean
  | cons first rest ih =>
      obtain ⟨more, grown⟩ := fitAllocation_problems owed fitting first
      have empty := ih _ clean
      rw [grown] at empty
      exact (List.append_eq_nil_iff.mp empty).1

theorem fitAllocation_clean (fitting : Fitting)
    (allocation : AllocationInput)
    (clean : (fitAllocation owed fitting allocation).problems = []) :
    0 < allocation.amount ∧ allocation.purchaseId ∉ fitting.seen ∧
      (∃ purchase, owedOn owed allocation.purchaseId = some purchase) ∧
      fitAllocation owed fitting allocation =
        { fitting with
          seen := fitting.seen ++ [allocation.purchaseId]
          total := fitting.total + allocation.amount } := by
  unfold fitAllocation at clean ⊢
  by_cases positive : allocation.amount ≤ 0
  · simp [positive, Fitting.refuse] at clean
  · by_cases again : allocation.purchaseId ∈ fitting.seen
    · simp [positive, again, Fitting.refuse] at clean
    · rcases found : owedOn owed allocation.purchaseId with _ | purchase
      · simp [positive, again, found, Fitting.refuse] at clean
      · by_cases short : purchase.outstanding < allocation.amount
        · simp [positive, again, found, short, Fitting.refuse] at clean
        · simp only [positive, again, short, if_false]
          exact ⟨by omega, not_false, ⟨purchase, rfl⟩, trivial⟩

theorem fit_clean (fitting : Fitting)
    (clean : (allocations.foldl (fitAllocation owed) fitting).problems = []) :
    (allocations.map AllocationInput.purchaseId).Nodup ∧
      ∀ allocation ∈ allocations, 0 < allocation.amount ∧
        allocation.purchaseId ∉ fitting.seen ∧
        ∃ purchase, owedOn owed allocation.purchaseId = some purchase := by
  induction allocations generalizing fitting with
  | nil => exact ⟨List.nodup_nil, fun _ member => by cases member⟩
  | cons first rest ih =>
      have before := fit_problems owed rest _ clean
      obtain ⟨positive, fresh, found, seen⟩ := fitAllocation_clean owed fitting first before
      obtain ⟨distinct, others⟩ := ih _ clean
      rw [seen] at others
      refine ⟨List.nodup_cons.mpr ⟨?_, distinct⟩, ?_⟩
      · intro again
        obtain ⟨other, member, same⟩ := List.mem_map.mp again
        exact (others other member).2.1 (by simp [same])
      · intro allocation member
        rcases List.mem_cons.mp member with rfl | later
        · exact ⟨positive, fresh, found⟩
        · obtain ⟨above, unseen, owing⟩ := others allocation later
          exact ⟨above, fun seenBefore => unseen (by simp [seenBefore]), owing⟩

theorem assertAllocationFits_ok (amount : Int) (allocations : List AllocationInput)
    (owed : List OutstandingPurchase)
    (allowed : assertAllocationFits amount allocations owed = .ok ()) :
    (allocations.map AllocationInput.purchaseId).Nodup ∧
      ∀ allocation ∈ allocations, 0 < allocation.amount ∧
        ∃ purchase, owedOn owed allocation.purchaseId = some purchase := by
  unfold assertAllocationFits at allowed
  split at allowed
  · cases allowed
  · by_cases clean : (allocations.foldl (fitAllocation owed) {}).problems = []
    · obtain ⟨distinct, each⟩ := fit_clean owed allocations {} clean
      exact ⟨distinct, fun allocation member =>
        ⟨(each allocation member).1, (each allocation member).2.2⟩⟩
    · simp [clean] at allowed

theorem fit_total (fitting : Fitting)
    (clean : (allocations.foldl (fitAllocation owed) fitting).problems = []) :
    (allocations.foldl (fitAllocation owed) fitting).total =
      fitting.total + (allocations.map AllocationInput.amount).sum := by
  induction allocations generalizing fitting with
  | nil => simp
  | cons first rest ih =>
      have before := fit_problems owed rest _ clean
      obtain ⟨-, -, -, added⟩ := fitAllocation_clean owed fitting first before
      rw [List.foldl_cons, ih _ clean, added, List.map_cons, List.sum_cons, add_assoc]

theorem assertAllocationFits_total (amount : Int) (allocations : List AllocationInput)
    (owed : List OutstandingPurchase)
    (allowed : assertAllocationFits amount allocations owed = .ok ()) :
    (allocations.map AllocationInput.amount).sum = amount := by
  unfold assertAllocationFits at allowed
  split at allowed
  · cases allowed
  · by_cases clean : (allocations.foldl (fitAllocation owed) {}).problems = []
    · have added := fit_total owed allocations {} clean
      by_cases equal : (allocations.foldl (fitAllocation owed) {}).total = amount
      · rw [← equal, added]
        exact (zero_add _).symm
      · simp [clean, equal] at allowed
    · simp [clean] at allowed

def assertStillPayable (allocations : List AllocationInput) (owed : List OutstandingPurchase) :
    Except Refusal Unit :=
  match allocations with
  | [] => .ok ()
  | allocation :: rest =>
      let found := owedOn owed allocation.purchaseId
      if found.all (fun purchase => purchase.outstanding < allocation.amount) then
        .error (((Refusal.conflict
          "Some of this has already been paid. Refresh and try again.").coded
            "refresh_required").about
          [{ purchaseId := some allocation.purchaseId
             outstanding := some ((found.map OutstandingPurchase.outstanding).getD 0)
             requested := some allocation.amount }])
      else assertStillPayable rest owed

theorem assertStillPayable_ok (owed : List OutstandingPurchase)
    (allowed : assertStillPayable allocations owed = .ok ())
    (allocation : AllocationInput) (member : allocation ∈ allocations) :
    ∃ purchase, owedOn owed allocation.purchaseId = some purchase ∧
      allocation.amount ≤ purchase.outstanding := by
  induction allocations with
  | nil => cases member
  | cons first rest ih =>
      unfold assertStillPayable at allowed
      dsimp only at allowed
      split at allowed
      · cases allowed
      · next fits =>
        rcases List.mem_cons.mp member with rfl | later
        · rcases found : owedOn owed allocation.purchaseId with _ | purchase
          · simp [found] at fits
          · exact ⟨purchase, rfl, by simpa [found] using fits⟩
        · exact ih allowed later

def purchaseStatusOf (total paid : Int) : PurchaseStatus :=
  if paid ≤ 0 then .unpaid else if total ≤ paid then .paid else .partially

/-- The text whose SHA-256 is stored; the order of the allocations does not count. -/
def settlementFingerprint (supplierId : Id) (amount : Int) (method : Method)
    (receivingAccountId : Option Id) (allocations : List AllocationInput) : String :=
  "\x7b\"supplierId\":" ++ jsonString (toString supplierId) ++
    ",\"amount\":" ++ jsonString (renderFixed amount) ++
    ",\"method\":" ++ jsonString method.text ++
    ",\"account\":" ++
      ((receivingAccountId.map (fun id => jsonString (toString id))).getD "null") ++
    ",\"allocations\":" ++ jsonList ((allocations.map (fun allocation =>
      toString allocation.purchaseId ++ ":" ++ renderFixed allocation.amount)).insertionSort
        (· ≤ ·)) ++
    "\x7d"

end ErpBackend.Suppliers
