import ErpBackend.Common

/-!
# Payments between two parties

The guards that the loan ledger and the consignment ledger share, word for word.
-/

namespace ErpBackend

inductive Method where
  | cash
  | account
  deriving DecidableEq, Repr

def Method.text : Method → String
  | .cash => "cash"
  | .account => "account"

namespace Settlement

def assertPaymentAllowed (amount : Int) (method : Method)
    (receivingAccountId : Option Id) (owed : Int) : Except String Unit :=
  if ¬ 0 < amount then .error "A payment is an amount above zero"
  else if owed < amount then
    .error ("That is more than the " ++ renderAmount owed ++ " still owed")
  else if method = .account ∧ receivingAccountId = none then
    .error "Say which account the money went to"
  else if method = .cash ∧ receivingAccountId ≠ none then
    .error "Cash does not go to an account"
  else .ok ()

theorem assertPaymentAllowed_ok (amount : Int) (method : Method)
    (receivingAccountId : Option Id) (owed : Int)
    (allowed : assertPaymentAllowed amount method receivingAccountId owed = .ok ()) :
    0 < amount ∧ amount ≤ owed := by
  unfold assertPaymentAllowed at allowed
  split at allowed
  · cases allowed
  · split at allowed
    · cases allowed
    · omega

def assertForgivenessAllowed (amount : Int) (reason : Option String) (owed : Int) :
    Except String Unit :=
  if blank reason then .error "Say why you are writing this off"
  else if ¬ 0 < amount then .error "Write off an amount above zero"
  else if owed < amount then
    .error ("There is only " ++ renderAmount owed ++ " left to write off")
  else .ok ()

theorem assertForgivenessAllowed_ok (amount : Int) (reason : Option String) (owed : Int)
    (allowed : assertForgivenessAllowed amount reason owed = .ok ()) :
    0 < amount ∧ amount ≤ owed := by
  unfold assertForgivenessAllowed at allowed
  split at allowed
  · cases allowed
  · split at allowed
    · cases allowed
    · split at allowed
      · cases allowed
      · omega

theorem assertForgivenessAllowed_of (amount : Int) (reason : String) (owed : Int)
    (stated : blank (some reason) = false) (positive : 0 < amount) (fits : amount ≤ owed) :
    assertForgivenessAllowed amount (some reason) owed = .ok () := by
  unfold assertForgivenessAllowed
  rw [if_neg (by simp [stated]), if_neg (by omega), if_neg (by omega)]

end Settlement

end ErpBackend
