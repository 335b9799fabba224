import ErpBackend.Inventory.Stock

/-!
# Sale rules

`sales-policy.service.ts` and the part of `return-policy.ts` a new sale uses.
Amounts are whole cents, so the policy's half-cent tolerance never decides.
-/

namespace ErpBackend.Sales

open Inventory

/-- A template literal prints a missing value as `null`. -/
def printed (text : Option String) : String := text.getD "null"

def assertSellable (unit : StockUnit) (branchId : Id) : Except Refusal Unit :=
  if unit.status ≠ .inStock then
    .error (.conflict ("Unit " ++ printed unit.imeiPrimary ++ " is '" ++
      unitStatusText unit.status ++ "' and cannot be sold"))
  else if unit.branchId ≠ branchId then
    .error (.conflict ("Unit " ++ printed unit.imeiPrimary ++ " is not at this branch"))
  else .ok ()

theorem assertSellable_ok (unit : StockUnit) (branchId : Id)
    (sellable : assertSellable unit branchId = .ok ()) :
    unit.status = .inStock ∧ unit.branchId = branchId := by
  unfold assertSellable at sellable
  split at sellable
  · cases sellable
  · next status =>
    split at sellable
    · cases sellable
    · next branch => exact ⟨not_not.mp status, not_not.mp branch⟩

def resolvePrice (provided : Option Money) (defaultPrice : Option Int) : Except Refusal Int :=
  match provided, defaultPrice with
  | some price, _ => .ok price.cents
  | none, some price => .ok price
  | none, none => .error (.badRequest "A price is required (no default price on the product)")

structure PaymentReconciliation where
  amountPaid : Int
  balanceDue : Int
  payStatus : SalePayStatus

def reconcilePayments (amounts : List Amount) (total : Int) :
    Except Refusal PaymentReconciliation :=
  let amountPaid := (amounts.map Amount.cents).sum
  if total < amountPaid then
    .error (.badRequest ("Payments (" ++ renderAmount amountPaid ++ ") exceed the total (" ++
      renderAmount total ++ ")"))
  else
    let balanceDue := total - amountPaid
    .ok ⟨amountPaid, balanceDue,
      if balanceDue ≤ 0 then .paid else if amountPaid ≤ 0 then .credit else .partially⟩

def assertBelowCostAllowed (margin : Int) (hasOverride : Bool) (reason : Option String) :
    Except Refusal Unit :=
  if margin < 0 then
    if !hasOverride then
      .error (.forbidden "Selling below cost requires the discount.override permission")
    else if blank reason then
      .error (.badRequest "An override reason is required to sell below cost")
    else .ok ()
  else .ok ()

def assertCreditHasCustomer (payStatus : SalePayStatus) (customerId : Option Id) :
    Except Refusal Unit :=
  if (payStatus = .credit ∨ payStatus = .partially) ∧ customerId = none then
    .error (.badRequest "A customer is required for a credit/partial sale")
  else .ok ()

def noReturns : Int := 0

def maxWindowHours : Int := 8760

def windowOutOfRange : Refusal :=
  .badRequest "Return window must be a whole number of hours between 0 and 8760"

structure ReturnPolicySnapshot where
  windowHours : Int
  deadlineAt : Option Time

def snapshotPolicy (soldAt : Time) (windowHours : Int) : Except Refusal ReturnPolicySnapshot :=
  if windowHours < noReturns ∨ maxWindowHours < windowHours then .error windowOutOfRange
  else .ok ⟨windowHours,
    if windowHours = noReturns then none else some (soldAt + windowHours.toNat * 3600000)⟩

structure ResolvedWindow where
  windowHours : Int
  overrideReason : Option String
  overridden : Bool

def resolveWindowForSale (companyDefaultHours : Int) (requested : Option Int)
    (reason : Option String) (canOverride : Bool) : Except Refusal ResolvedWindow :=
  match requested.filter (· ≠ companyDefaultHours) with
  | none => .ok ⟨companyDefaultHours, none, false⟩
  | some windowHours =>
      if !canOverride then
        .error (.forbidden "Only a manager or the owner may change the return policy for a sale")
      else if blank reason then
        .error (.badRequest "Say why this sale has a different return policy")
      else if windowHours < noReturns ∨ maxWindowHours < windowHours then .error windowOutOfRange
      else if noReturns < companyDefaultHours ∧ noReturns < windowHours ∧
          windowHours < companyDefaultHours then
        .error (.badRequest ("A return window can be removed entirely or extended, but not " ++
          "quietly shortened. Set it to 0 to sell with no returns, or choose a longer window."))
      else .ok ⟨windowHours, reason.map trim, true⟩

end ErpBackend.Sales
