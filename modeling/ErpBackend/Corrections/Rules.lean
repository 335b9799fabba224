import ErpBackend.Schema

/-!
# Correction rules

`correction-rules.ts`. A confirmed payment is never rewritten: a correction is a
record beside it.
-/

namespace ErpBackend.Corrections

def kindText : CorrectionKind → String
  | .refundPayout => "refund_payout"
  | .supplierSettlement => "supplier_settlement"

structure Target where
  confirmed : Bool
  branchId : Id
  amount : Int
  method : Method
  accountLabel : Option String
  deriving DecidableEq

def assertTargetCorrectable (target : Option Target) : Except Refusal Target :=
  match target with
  | none => .error (.badRequest "That payment does not exist.")
  | some target =>
      if !target.confirmed then
        .error (.coded "not_confirmed" (.conflict ("Only a confirmed payment can be corrected. " ++
          "One that is still awaiting confirmation can be changed directly.")))
      else .ok target

theorem assertTargetCorrectable_ok (found : Option Target) (target : Target)
    (done : assertTargetCorrectable found = .ok target) :
    found = some target ∧ target.confirmed = true := by
  unfold assertTargetCorrectable at done
  split at done
  · cases done
  · split at done
    · cases done
    · next other confirmed =>
      cases done
      exact ⟨rfl, by simpa using confirmed⟩

def assertNotAlreadyCorrected (existing : List CorrectionStatus) : Except Refusal Unit :=
  if .approved ∈ existing then
    .error (.coded "already_corrected" (.conflict ("This payment has already been corrected. " ++
      "Record a replacement payment instead.")))
  else .ok ()

def assertNoOpenRequest (existing : List CorrectionStatus) : Except Refusal Unit :=
  if .requested ∈ existing then
    .error (.coded "request_pending" (.conflict ("Someone has already asked for this payment " ++
      "to be corrected. That request is waiting for an owner.")))
  else .ok ()

def assertReasonGiven (reason : String) : Except Refusal String :=
  if blank (some reason) then
    .error (.coded "reason_required" (.badRequest "Say why this payment is being corrected."))
  else .ok (trim reason)

def assertDecidable (status : CorrectionStatus) : Except Refusal Unit :=
  if status ≠ .requested then
    .error (.coded "already_decided" (.conflict (if status = .approved then
      "This correction was already approved." else "This correction was already rejected.")))
  else .ok ()

def assertDayOpen (closed : Bool) (day : Day) : Except Refusal Unit :=
  if closed then
    .error (.coded "day_already_closed" (.conflict (renderDay day ++
      " is already closed for this branch. A correction posts to the current open day, " ++
      "so this must wait until the next one opens.")))
  else .ok ()

def fingerprintCorrection (targetKind : CorrectionKind) (targetId : Id) (reason : String)
    (supportingReference : Option String) : String :=
  String.intercalate "|" [kindText targetKind, toString targetId, trim reason,
    trim (supportingReference.getD "")]

end ErpBackend.Corrections
