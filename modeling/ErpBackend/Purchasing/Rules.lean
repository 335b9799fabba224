import ErpBackend.Schema

/-!
# Receiving rules

The tracking strategies, and how `createPurchase` sorts a delivery into phones,
counted goods and refused lines before it opens its transaction.
-/

namespace ErpBackend.Purchasing

/-- `luhnValid` over digits from the last to the first. -/
def luhnSum : Bool → List Nat → Nat
  | _, [] => 0
  | false, digit :: rest => digit + luhnSum true rest
  | true, digit :: rest =>
      (if 9 < digit * 2 then digit * 2 - 9 else digit * 2) + luhnSum false rest

def luhnValid (digits : List Char) : Bool :=
  digits.all Char.isDigit ∧
    luhnSum false (digits.reverse.map (fun c => c.toNat - '0'.toNat)) % 10 = 0

def isValidImei (imei : String) : Bool :=
  imei.toList.length = 15 ∧ luhnValid imei.toList

def perUnit : TrackingType → Bool
  | .imei | .serial => true
  | .quantity => false

def identifierLabel : TrackingType → Option String
  | .imei => some "IMEI"
  | .serial => some "Serial number"
  | .quantity => none

def normalize : TrackingType → String → String
  | .imei, code => String.ofList (code.toList.filter Char.isDigit)
  | .serial, code => String.ofList ((trimChars code.toList).map Char.toUpper)
  | .quantity, code => trim code

/-- The length JavaScript counts. -/
def utf16Length (text : String) : Nat :=
  (text.toList.map (fun c => if c.val < 65536 then 1 else 2)).sum

def validateIdentifier : TrackingType → String → Option String
  | .imei, code =>
      if isValidImei (normalize .imei code) then none
      else some "IMEI must be 15 digits and Luhn-valid"
  | .serial, code =>
      let length := utf16Length (normalize .serial code)
      if length < 1 then some "Serial number is required"
      else if 64 < length then some "Serial number is too long (max 64)"
      else none
  | .quantity, _ => none

structure ReceiveItemDto where
  productId : Id
  unitCost : Amount
  identifiers : Option (List String) := none
  quantity : Option Count := none
  price : Option Money := none

structure CreatePurchaseDto where
  clientUuid : Id
  supplierId : Id
  referenceNo : Option String := none
  paidAmount : Option Money := none
  dueDate : Option Day := none
  items : List ReceiveItemDto

def paidUpFront (dto : CreatePurchaseDto) : Int := (dto.paidAmount.map Money.cents).getD 0

def jsonNull (text : Option String) : String := text.getD "null"

/-- The text whose SHA-256 is stored; the order of the scans does not count. -/
def fingerprint (dto : CreatePurchaseDto) : String :=
  let item (line : ReceiveItemDto) : String :=
    "\x7b\"productId\":" ++ jsonString (toString line.productId) ++
      ",\"unitCost\":" ++ renderAmount line.unitCost.cents ++
      ",\"quantity\":" ++ jsonNull (line.quantity.map (fun count => toString count.value)) ++
      ",\"price\":" ++ jsonNull (line.price.map (fun price => renderAmount price.cents)) ++
      ",\"identifiers\":" ++
        jsonList ((line.identifiers.getD []).insertionSort (· ≤ ·)) ++ "\x7d"
  "\x7b\"supplierId\":" ++ jsonString (toString dto.supplierId) ++
    ",\"referenceNo\":" ++ jsonNull (dto.referenceNo.map jsonString) ++
    ",\"paidAmount\":" ++ renderAmount (paidUpFront dto) ++
    ",\"items\":[" ++ String.intercalate "," ((dto.items.insertionSort (fun left right =>
      left.productId ≤ right.productId)).map item) ++ "]\x7d"

structure RejectedLine where
  identifier : String
  reason : String
  deriving DecidableEq

structure PreparedUnit where
  productId : Id
  identifier : String
  imeiPrimary : Option String
  serialNo : Option String
  cost : Int

structure PreparedStock where
  productId : Id
  quantity : Int
  cost : Int
  price : Option Int

structure Delivery where
  rejected : List RejectedLine := []
  units : List PreparedUnit := []
  stock : List PreparedStock := []
  seen : List String := []

def Delivery.reject (delivery : Delivery) (identifier reason : String) : Delivery :=
  { delivery with rejected := delivery.rejected ++ [⟨identifier, reason⟩] }

/-- `identifierColumns`. -/
def preparedUnit (product : Product) (identifier : String) (cost : Int) : PreparedUnit where
  productId := product.id
  identifier := identifier
  imeiPrimary := if product.trackingType = .imei then some identifier else none
  serialNo := if product.trackingType = .serial then some identifier else none
  cost := cost

def prepareIdentifier (product : Product) (cost : Int) (delivery : Delivery) (raw : String) :
    Delivery :=
  let normalized := normalize product.trackingType raw
  match validateIdentifier product.trackingType raw with
  | some reason => delivery.reject raw reason
  | none =>
      if normalized ∈ delivery.seen then delivery.reject normalized "duplicate in batch"
      else
        { delivery with
          seen := delivery.seen ++ [normalized]
          units := delivery.units ++ [preparedUnit product normalized cost] }

def prepareItem (products : Id → Option Product) (delivery : Delivery) (item : ReceiveItemDto) :
    Delivery :=
  match products item.productId with
  | none => delivery.reject (toString item.productId) "unknown product"
  | some product =>
      if perUnit product.trackingType then
        match item.identifiers.getD [] with
        | [] => delivery.reject (toString item.productId)
            ((identifierLabel product.trackingType).getD "" ++ " required")
        | codes => codes.foldl (prepareIdentifier product item.unitCost.cents) delivery
      else match item.quantity with
        | none => delivery.reject (toString item.productId) "quantity required"
        | some quantity =>
            { delivery with
              stock := delivery.stock ++ [
                { productId := product.id
                  quantity := quantity.value
                  cost := item.unitCost.cents
                  price := (item.price.map Money.cents).or product.defaultPrice }] }

def prepare (products : Id → Option Product) (items : List ReceiveItemDto) : Delivery :=
  items.foldl (prepareItem products) {}

/-- `already registered` lines leave the delivery. -/
def Delivery.withoutExisting (delivery : Delivery) (existing : List String) : Delivery :=
  { delivery with
    rejected := delivery.rejected ++
      (delivery.units.filter (fun unit => unit.identifier ∈ existing)).map (fun unit =>
        ⟨unit.identifier, "already registered"⟩)
    units := delivery.units.filter (fun unit => unit.identifier ∉ existing) }

def Delivery.total (delivery : Delivery) : Int :=
  (delivery.units.map PreparedUnit.cost).sum +
    (delivery.stock.map (fun line => line.cost * line.quantity)).sum

def statusAtReceipt (total amountPaid : Int) : PurchaseStatus :=
  if total ≤ amountPaid then .paid else if 0 < amountPaid then .partially else .unpaid

end ErpBackend.Purchasing
