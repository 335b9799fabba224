import ErpBackend.Imports.ColumnMapping
import ErpBackend.Foundation.Doubles

/-!
# Deciding one row

A row is an error, a warning or valid; errors are not imported, warnings are.
Everything that is wrong with it is collected.
-/

namespace ErpBackend.Imports

open Foundation

/-- A number of JavaScript. -/
abbrev Amount := Double

namespace Amount

def zero : Amount := ⟨0, 0, 0, Nat.two_pow_pos 53, Nat.zero_le _, (Nat.zero_mul _).symm⟩

def lt (a b : Amount) : Bool := a.steps < b.steps

def whole? (a : Amount) : Option Int :=
  if a.steps % Double.one = 0 then some (a.steps / Double.one) else none

/-- What a `DECIMAL(14, 2)` keeps of it as it is printed, in cents: rounded, halves away from
zero. -/
def cents (a : Amount) : Int :=
  let rounded : Nat := (2 * a.printed.mantissa.natAbs * 100 + 10 ^ a.printed.places) /
    (2 * 10 ^ a.printed.places)
  if a.steps < 0 then -rounded else rounded

def InCents (a : Amount) : Prop := a.printed.mantissa * 100 = a.cents * 10 ^ a.printed.places

instance (a : Amount) : Decidable a.InCents := inferInstanceAs (Decidable (_ = _))

/-- The cents that are kept of such an amount are read as the amount. -/
theorem InCents.read (a : Amount) (inCents : a.InCents) :
    (Decimal.mk a.cents 2).double? = some a := by
  rw [← a.printed_read]
  exact Double.double?_same _ _ inCents.symm

end Amount

def digitsValue (digits : List Char) : Nat :=
  digits.foldl (fun value c => 10 * value + (c.toNat - 48)) 0

def unsigned (text : List Char) : Option Decimal :=
  let whole := text.takeWhile (· ≠ '.')
  let fraction := (text.dropWhile (· ≠ '.')).drop 1
  if whole ++ fraction ≠ [] ∧ (whole ++ fraction).all Char.isDigit then
    some ⟨digitsValue (whole ++ fraction), fraction.length⟩
  else none

def decimal : List Char → Option Decimal
  | [] => some ⟨0, 0⟩
  | '-' :: rest => (unsigned rest).map Decimal.neg
  | text => unsigned text

/-- `Number` of digits, points and dashes; `none` for `NaN` and what is infinite. -/
def number (text : List Char) : Option Amount := (decimal text).bind Decimal.double?

/-- How many characters stand behind the last `mark`. -/
def afterLast (mark : Char) (text : List Char) : Nat :=
  (text.reverse.takeWhile (· ≠ mark)).length

def replaceFirst (mark new : Char) : List Char → List Char
  | [] => []
  | c :: rest => if c = mark then new :: rest else c :: replaceFirst mark new rest

def numberText (raw : List Char) : List Char :=
  (((trimChars raw).map asciiDigit).filter (fun c =>
    !(jsSpace c || c.toNat = 0x27 || c.toNat = 0x66c))).filter (fun c =>
      c.isDigit || c = '.' || c = ',' || c = '-')

/-- Only a decimal point is left of the separators: of two kinds the last one is decimal, a
comma alone is by the digits that follow it. -/
def separators (text : List Char) : List Char :=
  if ',' ∈ text ∧ '.' ∈ text then
    if afterLast ',' text < afterLast '.' text then
      replaceFirst ',' '.' (text.filter (· ≠ '.'))
    else replaceFirst '.' '.' (text.filter (· ≠ ','))
  else if ',' ∈ text then
    if afterLast ',' text = 3 then text.filter (· ≠ ',') else replaceFirst ',' '.' text
  else text

def parseNumber : Option String → Option Amount
  | none => none
  | some raw =>
      let text := numberText raw.toList
      if text.isEmpty then none else number (separators text)

/-- Luhn over 15 digits: the one at the place `i` from the right. -/
def luhnDigit (i digit : Nat) : Nat :=
  if i % 2 = 1 then (if 9 < digit * 2 then digit * 2 - 9 else digit * 2) else digit

def luhnValid (digits : List Char) : Bool :=
  digits.length = 15 ∧ digits.all Char.isDigit ∧
    ((digits.reverse.zipIdx.map (fun (c, i) => luhnDigit i (c.toNat - 48))).sum) % 10 = 0

inductive RowStatus where
  | valid
  | warning
  | error
  deriving DecidableEq

structure ParsedRow where
  imei : Option String := none
  serialNo : Option String := none
  barcode : Option String := none
  brand : Option String := none
  model : Option String := none
  variant : Option String := none
  cost : Option Amount := none
  price : Option Amount := none
  quantity : Option Int := none
  note : Option String := none
  deriving DecidableEq

structure RowVerdict where
  status : RowStatus := .valid
  messages : List String := []
  parsed : ParsedRow := {}
  deriving DecidableEq

namespace RowVerdict

def fail (verdict : RowVerdict) (message : String) : RowVerdict :=
  { verdict with
    messages := verdict.messages ++ [message]
    status := .error }

def warn (verdict : RowVerdict) (message : String) : RowVerdict :=
  { verdict with
    messages := verdict.messages ++ [message]
    status := if verdict.status = .error then .error else .warning }

end RowVerdict

abbrev Cells := ImportField → Option String

/-- `cells[field]?.trim() || undefined`. -/
def text (cells : Cells) (field : ImportField) : Option String :=
  ((cells field).map trim).filter (· ≠ "")

/-- `replace(/[\s-]/g, '')`. -/
def stripMarks (raw : String) : String :=
  String.ofList (raw.toList.filter (fun c => !(jsSpace c || c = '-')))

def checkImei (raw : String) (verdict : RowVerdict) : RowVerdict :=
  let digits := raw.toList
  if digits = [] then verdict.fail "No IMEI"
  else if !digits.all Char.isDigit then
    verdict.fail "The IMEI has characters that are not digits"
  else if digits.length ≠ 15 then
    verdict.fail ("An IMEI is 15 digits; this one has " ++ toString digits.length)
  else if !luhnValid digits then
    verdict.fail "That IMEI fails its check digit — it is probably mistyped"
  else verdict

def checkQuantity (cells : Cells) (verdict : RowVerdict) : RowVerdict :=
  match parseNumber (cells .quantity) with
  | none => verdict.fail "No quantity"
  | some amount =>
      match amount.whole?.filter (0 < ·) with
      | none => verdict.fail "The quantity must be a whole number above zero"
      | some quantity =>
          { verdict with parsed := { verdict.parsed with quantity := some quantity } }

def readIdentifier (kind : ImportKind) (cells : Cells) (verdict : RowVerdict) : RowVerdict :=
  match kind with
  | .imei =>
      let raw := stripMarks ((text cells .imei).getD "")
      let checked := checkImei raw verdict
      { checked with parsed := { checked.parsed with imei := some raw |>.filter (· ≠ "") } }
  | .serial =>
      match text cells .serialNo with
      | none => verdict.fail "No serial number"
      | some raw => { verdict with parsed := { verdict.parsed with serialNo := some raw } }
  | .quantity =>
      checkQuantity cells
        { verdict with parsed := { verdict.parsed with barcode := text cells .barcode } }

/-- `parsed.imei ?? parsed.serialNo ?? parsed.barcode`. -/
def ParsedRow.identifier (parsed : ParsedRow) : Option String :=
  (parsed.imei.or parsed.serialNo).or parsed.barcode

def checkDuplicate (seenInFile existsInShop : List String) (verdict : RowVerdict) : RowVerdict :=
  match verdict.parsed.identifier with
  | none => verdict
  | some identifier =>
      if identifier ∈ seenInFile then verdict.fail "This appears earlier in the same file"
      else if identifier ∈ existsInShop then verdict.fail "This is already in stock"
      else verdict

def checkCost (cells : Cells) (verdict : RowVerdict) : RowVerdict :=
  match parseNumber (cells .cost) with
  | none => verdict.fail "No cost"
  | some cost =>
      if cost.steps < 0 then verdict.fail "The cost cannot be negative"
      else
        let read := { verdict with parsed := { verdict.parsed with cost := some cost } }
        if cost.steps = 0 then read.warn "The cost is zero — check this is really free stock"
        else read

def checkPrice (cells : Cells) (verdict : RowVerdict) : RowVerdict :=
  match parseNumber (cells .price) with
  | none => verdict
  | some price =>
      if price.steps < 0 then verdict.fail "The price cannot be negative"
      else
        let read := { verdict with parsed := { verdict.parsed with price := some price } }
        match parseNumber (cells .cost) with
        | some cost =>
            if 0 < cost.steps ∧ 0 < price.steps ∧ price.lt cost = true then
              read.warn "The selling price is below the cost"
            else read
        | none => read

def described (cells : Cells) : RowVerdict :=
  let verdict : RowVerdict := { parsed :=
    { brand := text cells .brand
      model := text cells .model
      variant := text cells .variant
      note := text cells .note } }
  if (text cells .model).isNone then verdict.fail "No model or product name" else verdict

def validateRow (kind : ImportKind) (seenInFile existsInShop : List String) (cells : Cells) :
    RowVerdict :=
  checkPrice cells (checkCost cells (checkDuplicate seenInFile existsInShop
    (readIdentifier kind cells (described cells))))

structure Summary where
  total : Nat
  valid : Nat
  warning : Nat
  error : Nat
  willImport : Nat
  deriving DecidableEq

def summarise (verdicts : List RowVerdict) : Summary where
  total := verdicts.length
  valid := verdicts.countP (fun verdict => verdict.status = .valid)
  warning := verdicts.countP (fun verdict => verdict.status = .warning)
  error := verdicts.countP (fun verdict => verdict.status = .error)
  willImport := verdicts.countP (fun verdict => verdict.status ≠ .error)

end ErpBackend.Imports
