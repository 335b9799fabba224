import Mathlib

/-!
# Shared vocabulary

Keys are `BINARY(16)` columns, money is `DECIMAL(·,2)` held in cents, a day is
the UTC day of `dayKey`. A refusal is the exception a service throws, with its
message.
-/

namespace ErpBackend

abbrev Id := Nat

/-- Milliseconds, as `Date.now()`. -/
abbrev Time := Nat

abbrev Day := Nat

def dayKey (now : Time) : Day := now / 86400000

/-- `YYYY-MM-DD` of a day counted from 1970-01-01. The year starts in March here, so
that the leap day is its last. -/
def renderDay (day : Day) : String :=
  let shifted := day + 719468
  let dayOfEra := shifted % 146097
  let yearOfEra := (dayOfEra - dayOfEra / 1460 + dayOfEra / 36524 - dayOfEra / 146096) / 365
  let dayOfYear := dayOfEra - (365 * yearOfEra + yearOfEra / 4 - yearOfEra / 100)
  let shiftedMonth := (5 * dayOfYear + 2) / 153
  let month := if shiftedMonth < 10 then shiftedMonth + 3 else shiftedMonth - 9
  let year := yearOfEra + shifted / 146097 * 400 + if month ≤ 2 then 1 else 0
  let two := fun (n : Nat) => if n < 10 then "0" ++ toString n else toString n
  toString year ++ "-" ++ two month ++ "-" ++ two (dayOfYear - (153 * shiftedMonth + 2) / 5 + 1)

example : renderDay (dayKey 1772323200000) = "2026-03-01" := by decide

/-- An amount that passed `@IsNumber({ maxDecimalPlaces: 2 }) @Min(0.01)`. -/
structure Amount where
  cents : Int
  positive : 0 < cents
  deriving DecidableEq, Repr

/-- `@IsNumber({ maxDecimalPlaces: 2 }) @Min(0)`. -/
structure Money where
  cents : Int
  nonneg : 0 ≤ cents
  deriving DecidableEq

/-- `@IsInt() @Min(1)`. -/
structure Count where
  value : Int
  positive : 0 < value
  deriving DecidableEq

section Numerals

variable (n : Nat)

instance Amount.instOfNat : OfNat Amount (n + 1) :=
  ⟨⟨(n + 1 : Nat), Int.natCast_pos.mpr n.succ_pos⟩⟩

instance Money.instOfNat : OfNat Money n := ⟨⟨n, Int.natCast_nonneg n⟩⟩

instance Count.instOfNat : OfNat Count (n + 1) :=
  ⟨⟨(n + 1 : Nat), Int.natCast_pos.mpr n.succ_pos⟩⟩

end Numerals

inductive RefusalKind where
  | badRequest
  | unauthorized
  | forbidden
  | notFound
  | conflict
  | unique
  | constraint
  | internal
  deriving DecidableEq, Repr

/-- One entry of the `problems` some exceptions carry. -/
structure Problem where
  identifier : Option String := none
  productId : Option Id := none
  product : Option String := none
  reason : Option String := none
  requested : Option Int := none
  physicalQuantity : Option Int := none
  reservedQuantity : Option Int := none
  availableQuantity : Option Int := none
  purchaseId : Option Id := none
  outstanding : Option Int := none
  amount : Option Int := none
  allocated : Option Int := none
  deriving DecidableEq, Repr

structure Refusal where
  kind : RefusalKind
  message : String
  code : Option String := none
  problems : List Problem := []
  deriving DecidableEq, Repr

namespace Refusal

def badRequest (message : String) : Refusal := { kind := .badRequest, message }
def unauthorized (message : String) : Refusal := { kind := .unauthorized, message }
def forbidden (message : String) : Refusal := { kind := .forbidden, message }
def notFound (message : String) : Refusal := { kind := .notFound, message }
def conflict (message : String) : Refusal := { kind := .conflict, message }

/-- The `code` a client switches on. -/
def coded (code : String) (refusal : Refusal) : Refusal := { refusal with code := some code }

def about (refusal : Refusal) (problems : List Problem) : Refusal := { refusal with problems }

/-- A unique key refused the statement (`P2002`). -/
def unique (name : String) : Refusal := { kind := .unique, message := name }

/-- A foreign key or `CHECK` of the schema, or a unique key no service looks at,
refused the statement. -/
def constraint (name : String) : Refusal := { kind := .constraint, message := name }

def internal (message : String) : Refusal := { kind := .internal, message }

/-- `uuidToBin` on a missing id: an `Error` that is no HTTP exception. -/
def invalidUuid : Refusal := internal "Invalid UUID string: \"\""

end Refusal

def jsSpace (c : Char) : Bool :=
  c.val ∈ [9, 10, 11, 12, 13, 32, 160, 5760, 8232, 8233, 8239, 8287, 12288, 65279] ||
    (8192 ≤ c.val && c.val ≤ 8202)

def trimChars (text : List Char) : List Char :=
  ((text.dropWhile jsSpace).reverse.dropWhile jsSpace).reverse

/-- `String.prototype.trim`. -/
def trim (text : String) : String := String.ofList (trimChars text.toList)

/-- `!text?.trim()`. -/
def blank : Option String → Bool
  | none => true
  | some text => (trimChars text.toList).isEmpty

/-- `text?.trim() || null`. -/
def trimOrNull (text : Option String) : Option String :=
  if blank text then none else text.map trim

/-- A number of cents as JavaScript prints the amount. -/
def renderAmount (amount : Int) : String :=
  let whole := toString (amount.natAbs / 100)
  let rest := amount.natAbs % 100
  let sign := if amount < 0 then "-" else ""
  if rest = 0 then sign ++ whole
  else if rest % 10 = 0 then sign ++ whole ++ "." ++ toString (rest / 10)
  else if rest < 10 then sign ++ whole ++ ".0" ++ toString rest
  else sign ++ whole ++ "." ++ toString rest

/-- `amount.toFixed(2)`. -/
def renderFixed (amount : Int) : String :=
  let rest := amount.natAbs % 100
  let sign := if amount < 0 then "-" else ""
  sign ++ toString (amount.natAbs / 100) ++ "." ++
    (if rest < 10 then "0" ++ toString rest else toString rest)

/-- How `JSON.stringify` writes one character of a string. -/
def jsonChar (c : Char) : List Char :=
  if c = '"' then ['\\', '"']
  else if c = '\\' then ['\\', '\\']
  else if c.toNat = 8 then ['\\', 'b']
  else if c.toNat = 9 then ['\\', 't']
  else if c.toNat = 10 then ['\\', 'n']
  else if c.toNat = 12 then ['\\', 'f']
  else if c.toNat = 13 then ['\\', 'r']
  else if c.toNat < 32 then
    ['\\', 'u', '0', '0', Nat.digitChar (c.toNat / 16), Nat.digitChar (c.toNat % 16)]
  else [c]

def jsonString (text : String) : String :=
  "\"" ++ String.ofList (text.toList.flatMap jsonChar) ++ "\""

def jsonList (texts : List String) : String :=
  "[" ++ String.intercalate "," (texts.map jsonString) ++ "]"

/-- `TenantContext`: who is asking, and when. -/
structure Ctx where
  companyId : Id
  branchId : Option Id
  userId : Option Id
  now : Time
  deriving DecidableEq, Repr

def Ctx.today (ctx : Ctx) : Day := dayKey ctx.now

inductive Permission where
  | discountOverride
  | returnPolicyOverride
  | returnApprove
  | returnException
  | transferApprove
  | transferCancel
  | supplierManage
  | supplierPaymentConfirm
  | expenseReview
  | expenseManage
  | catalogManage
  deriving DecidableEq

/-- `MissingTenantContextError`: a query outside a request. -/
def missingTenantContext (model operation : String) : Refusal :=
  .internal ("Tenant-scoped operation '" ++ operation ++ "' on model '" ++ model ++
    "' was executed without a company context. Refusing to run an unscoped query (fail-closed).")

def branchRequired : Refusal :=
  .badRequest "X-Branch-Id header is required for this operation"

def hexDigit (c : Char) : Nat :=
  if '0' ≤ c ∧ c ≤ '9' then c.toNat - '0'.toNat
  else if 'a' ≤ c ∧ c ≤ 'f' then c.toNat - 'a'.toNat + 10
  else if 'A' ≤ c ∧ c ≤ 'F' then c.toNat - 'A'.toNat + 10
  else 0

/-- The sixteen bytes a UUID denotes, whatever the case of its letters. -/
def uuidToBin (text : String) : Id :=
  (text.toList.filter (· != '-')).foldl (fun value c => value * 16 + hexDigit c) 0

end ErpBackend
