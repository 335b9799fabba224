import ErpBackend.Common

/-!
# What the columns mean

A sheet is rows of text, the first of them headers. Which field a header stands
for is guessed from a list of synonyms, after both are reduced to what a
keyboard does not change.
-/

namespace ErpBackend.Imports

inductive ImportField where
  | imei
  | serialNo
  | barcode
  | brand
  | model
  | variant
  | cost
  | price
  | quantity
  | note
  deriving DecidableEq

def ImportField.all : List ImportField :=
  [.imei, .serialNo, .barcode, .brand, .model, .variant, .cost, .price, .quantity, .note]

def synonyms : ImportField → List String
  | .imei => ["imei", "imeino", "imeinumber", "imei1", "meid", "ايمي", "الايمي", "رقمالايمي"]
  | .serialNo => ["serial", "serialno", "serialnumber", "sn", "مسلسل", "الرقمالتسلسلي",
      "رقمتسلسلي"]
  | .barcode => ["barcode", "ean", "upc", "code", "باركود", "الباركود"]
  | .brand => ["brand", "make", "manufacturer", "ماركة", "الماركة", "العلامة"]
  | .model => ["model", "modelname", "device", "product", "productname", "item", "موديل",
      "الموديل", "المنتج", "الجهاز"]
  | .variant => ["variant", "storage", "capacity", "colour", "color", "spec", "سعة", "التخزين",
      "اللون", "المواصفات"]
  | .cost => ["cost", "costprice", "purchase", "purchaseprice", "buy", "buyprice", "التكلفة",
      "سعرالشراء", "الشراء"]
  | .price => ["price", "sellprice", "sellingprice", "retail", "retailprice", "sale", "saleprice",
      "السعر", "سعرالبيع", "البيع"]
  | .quantity => ["qty", "quantity", "count", "stock", "pieces", "الكمية", "العدد", "كمية"]
  | .note => ["note", "notes", "comment", "remark", "description", "ملاحظة", "ملاحظات", "وصف"]

def asciiDigit (c : Char) : Char :=
  if 0x660 ≤ c.toNat ∧ c.toNat ≤ 0x669 then Char.ofNat (48 + (c.toNat - 0x660))
  else if 0x6f0 ≤ c.toNat ∧ c.toNat ≤ 0x6f9 then Char.ofNat (48 + (c.toNat - 0x6f0))
  else c

/-- Lower case, as far as the characters kept below go: beside `A` to `Z` only the dotted
capital I and the Kelvin sign have a lower case among them. -/
def lowerCase (c : Char) : Char :=
  if c = 'İ' then 'i' else if c.toNat = 0x212A then 'k' else c.toLower

/-- The variants of alef, ya and ta marbuta that differ by keyboard. -/
def foldLetter (c : Char) : Char :=
  if c = 'أ' ∨ c = 'إ' ∨ c = 'آ' ∨ c = 'ٱ' then 'ا'
  else if c = 'ى' then 'ي'
  else if c = 'ة' then 'ه'
  else c

def keptInHeader (c : Char) : Bool :=
  ¬(0x64b ≤ c.toNat ∧ c.toNat ≤ 0x652) ∧
    (c.isLower ∨ c.isDigit ∨ (0x600 ≤ c.toNat ∧ c.toNat ≤ 0x6ff))

def normalizeHeader (raw : String) : List Char :=
  ((trimChars raw.toList).map (fun c => foldLetter (asciiDigit (lowerCase c)))).filter keptInHeader

def normalizedSynonyms (field : ImportField) : List (List Char) :=
  (synonyms field).map normalizeHeader

structure HeaderGuess where
  index : Nat
  header : String
  field : Option ImportField
  deriving DecidableEq

/-- The first field not yet taken that has the header among its synonyms. -/
def guessField (taken : List ImportField) (header : String) : Option ImportField :=
  let key := normalizeHeader header
  if key.isEmpty then none
  else ImportField.all.find? (fun candidate =>
    candidate ∉ taken ∧ key ∈ normalizedSynonyms candidate)

def guessFrom (index : Nat) (taken : List ImportField) : List String → List HeaderGuess
  | [] => []
  | header :: rest =>
      let field := guessField taken header
      ⟨index, header, field⟩ :: guessFrom (index + 1) (field.toList ++ taken) rest

def guessMapping (headers : List String) : List HeaderGuess := guessFrom 0 [] headers

inductive ImportKind where
  | imei
  | serial
  | quantity
  deriving DecidableEq

def mapsTo (mapping : List HeaderGuess) (field : ImportField) : Bool :=
  mapping.any (fun guess => guess.field = some field)

def kindOf (mapping : List HeaderGuess) : Option ImportKind :=
  if mapsTo mapping .imei then some .imei
  else if mapsTo mapping .serialNo then some .serial
  else if mapsTo mapping .quantity ∨ mapsTo mapping .barcode then some .quantity
  else none

/-- `none` stands for the identifier, whichever column would carry it. -/
structure MappingProblem where
  field : Option ImportField
  message : String
  deriving DecidableEq

def missingRequirements (mapping : List HeaderGuess) : List MappingProblem :=
  (if (kindOf mapping).isNone then
    [⟨none, "No IMEI, serial number, barcode or quantity column was found"⟩] else []) ++
  (if mapsTo mapping .model then []
    else [⟨some .model, "No model or product name column was found"⟩]) ++
  (if mapsTo mapping .cost then [] else [⟨some .cost, "No cost column was found"⟩])

/-- The column of a field: a later column of the same field would replace an earlier one. -/
def columnOf (mapping : List HeaderGuess) (field : ImportField) : Option Nat :=
  (mapping.reverse.find? (fun guess => guess.field = some field)).map HeaderGuess.index

end ErpBackend.Imports
