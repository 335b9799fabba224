import ErpBackend.Catalog.Tracking
import ErpBackend.Purchasing.Rules
import ErpBackend.Trimming
import ErpBackend.Scanner.Confidence

/-!
# ScannerService

Every identifier enters through `scan`: it is classified, looked up in what the company has
taught, and then in the catalogue. A product keeps its barcode as `normalizeBarcode` left
it, a scanned code is looked up as `classifyCode` left it.
-/

namespace ErpBackend.Scanner

open Foundation Catalog

inductive ScanKind where
  | imei
  | barcode
  | serial
  | unknown
  deriving DecidableEq

structure Classification where
  kind : ScanKind
  normalized : String
  deriving DecidableEq

/-- `/^[A-Za-z0-9][A-Za-z0-9/\-]{2,63}$/`. -/
def serialText : List Char → Bool
  | [] => false
  | first :: rest => first.isAlphanum ∧ 2 ≤ rest.length ∧ rest.length ≤ 63 ∧
      rest.all (fun c => c.isAlphanum || c = '/' || c = '-')

/-- `/^\d{8,14}$/`. -/
def barcodeDigits (digits : List Char) : Bool :=
  8 ≤ digits.length ∧ digits.length ≤ 14 ∧ digits.all Char.isDigit

def classifyCode (raw : String) : Classification :=
  let trimmed := trimChars raw.toList
  if trimmed = [] then ⟨.unknown, ""⟩
  else
    let digits := trimmed.filter (fun c => !(jsSpace c || c = '-'))
    if Purchasing.isValidImei (String.ofList digits) then ⟨.imei, String.ofList digits⟩
    else if barcodeDigits digits then ⟨.barcode, String.ofList digits⟩
    else if serialText trimmed then ⟨.serial, String.ofList (trimmed.map Char.toUpper)⟩
    else ⟨.unknown, String.ofList trimmed⟩

/-- A row of the global `tac_catalog`. -/
structure TacEntry where
  tac : String
  brand : Option String
  model : Option String

/-- The catalogue with `products.deleted_at`, which only the browsing of it writes, and the
global table of device codes. -/
structure ScanDb where
  catalog : CatalogDb
  deletedAt : Id → Option Time
  tacCatalog : Table TacEntry TacEntry.tac

abbrev ScanRequest (α : Type) := Prog ScanDb Unit Refusal α

structure ProductSuggestion where
  productId : Id
  brand : String
  model : String
  variant : Option String
  trackingType : TrackingType
  keySpecifications : Fields
  defaultCost : Option Int
  defaultPrice : Option Int

def toSuggestion (product : Product) : ProductSuggestion where
  productId := product.id
  brand := product.brand
  model := product.model
  variant := product.variant
  trackingType := product.trackingType
  keySpecifications := product.specifications.getD []
  defaultCost := product.defaultCost
  defaultPrice := product.defaultPrice

structure ScanResult where
  code : String
  kind : ScanKind
  recognized : Bool := false
  confidence : ℚ := 0
  recognitionKey : Option (CodeType × String) := none
  suggestion : Option ProductSuggestion := none
  hint : Option String := none

def activeProducts (db : ScanDb) (companyId : Id) : List Product :=
  db.catalog.db.products.filter (fun product =>
    product.companyId = companyId ∧ db.deletedAt product.id = none)

/-- `findOrSuggest({ productId })`. -/
def suggestById (db : ScanDb) (companyId productId : Id) : Option ProductSuggestion :=
  ((activeProducts db companyId).find? (fun product => product.id = productId)).map toSuggestion

/-- `findOrSuggest({ barcode })`. -/
def suggestByBarcode (engine : Imports.Engine) (db : ScanDb) (companyId : Id) (barcode : String) :
    Option ProductSuggestion :=
  ((activeProducts db companyId).find? (fun product =>
    product.barcode.map engine.weight = some (engine.weight barcode))).map toSuggestion

def resolveCode (pick : Lookup ProductRecognition) (db : ScanDb) (companyId : Id)
    (key : CodeType × String) : Option ProductRecognition :=
  pick.pick ((mappingsForCode db.catalog.memory companyId key.1 key.2).filter (fun row =>
    row.status = .confirmed))

def tacOf (imei : String) : String := String.ofList (imei.toList.take 8)

def recognitionKeyFor (kind : ScanKind) (code : String) : Option (CodeType × String) :=
  match kind with
  | .imei =>
    let imei := Purchasing.normalize .imei code
    if Purchasing.isValidImei imei then some (.tac, tacOf imei) else none
  | .barcode => some (.barcode, code)
  | .serial | .unknown => none

/-- `recognize`, as far as a scan reads it: whether the code of the device is known, and the one
product of the company it names. -/
def recognize (engine : Imports.Engine) (db : ScanDb) (companyId : Id) (imei : String) :
    Bool × Option Id :=
  match db.tacCatalog.find? (tacOf imei) with
  | none => (false, none)
  | some entry =>
    match entry.brand.filter (· ≠ ""), entry.model.filter (· ≠ "") with
    | some brand, some model =>
      match (activeProducts db companyId).filter (fun product =>
          engine.weight product.brand = engine.weight brand ∧
            engine.weight product.model = engine.weight model) with
      | [product] => (true, some product.id)
      | _ => (true, none)
    | _, _ => (true, none)

def confidenceExactBarcode : ℚ := 1

def confidenceTacCatalog : ℚ := 3 / 5

def confidenceConflictCeiling : ℚ := 1 / 2

def serialHint : String :=
  "Serial scan — confirm the product manually (serial learning coming soon)."

/-- A learned mapping, checked against what the barcode itself says. -/
def scoreLearnedMatch (base : ScanResult) (learnedId : Id) (suggestion : ProductSuggestion)
    (learned : ℚ) (corroborating : Option ProductSuggestion) : ScanResult :=
  match corroborating with
  | none => { base with recognized := true, confidence := learned, suggestion := some suggestion }
  | some other =>
    if other.productId = learnedId then
      { base with
        recognized := true
        confidence := max learned confidenceExactBarcode
        suggestion := some suggestion }
    else
      { base with
        recognized := true
        confidence := min learned confidenceConflictCeiling
        suggestion := some suggestion
        hint := some ("This code is linked to two different products — \"" ++ suggestion.brand ++
          " " ++ suggestion.model ++ "\" and \"" ++ other.brand ++ " " ++ other.model ++
          "\". Confirm the right one.") }

def learnedMatch (engine : Imports.Engine) (pick : Lookup ProductRecognition) (companyId : Id)
    (base : ScanResult) : ScanRequest (Option ScanResult) :=
  match base.recognitionKey with
  | none => pure none
  | some key => do
    let found ← .read () (fun db => resolveCode pick db companyId key)
    match found with
    | none => pure none
    | some row => do
      let suggestion ← .read () (fun db => suggestById db companyId row.productId)
      match suggestion with
      | none => pure none
      | some suggestion =>
        if base.kind = .barcode then do
          let corroborating ← .read () (fun db => suggestByBarcode engine db companyId base.code)
          pure (some (scoreLearnedMatch base row.productId suggestion (score (signalsOf row))
            corroborating))
        else
          pure (some (scoreLearnedMatch base row.productId suggestion (score (signalsOf row)) none))

def scanImei (engine : Imports.Engine) (companyId : Id) (base : ScanResult) :
    ScanRequest ScanResult := do
  let (known, productId) ← .read () (fun db => recognize engine db companyId base.code)
  let unconfirmed := { base with hint := some (if known then
    "Recognized device — confirm the product to teach it."
    else "Unknown IMEI — create a new product template.") }
  match productId with
  | none => pure unconfirmed
  | some id => do
    let suggestion ← .read () (fun db => suggestById db companyId id)
    match suggestion with
    | none => pure unconfirmed
    | some suggestion => pure { base with
        recognized := true
        confidence := confidenceTacCatalog
        suggestion := some suggestion }

def scanBarcode (engine : Imports.Engine) (companyId : Id) (base : ScanResult) :
    ScanRequest ScanResult := do
  let suggestion ← .read () (fun db => suggestByBarcode engine db companyId base.code)
  match suggestion with
  | some suggestion => pure { base with
      recognized := true
      confidence := confidenceExactBarcode
      suggestion := some suggestion }
  | none => pure { base with hint := some "New barcode — confirm the product to teach it." }

def scan (engine : Imports.Engine) (pick : Lookup ProductRecognition) (companyId : Id)
    (rawCode : String) : ScanRequest ScanResult :=
  let classified := classifyCode rawCode
  let base : ScanResult :=
    { code := classified.normalized
      kind := classified.kind
      recognitionKey := recognitionKeyFor classified.kind classified.normalized }
  if classified.kind = .unknown then
    pure { base with hint := some "Unrecognized code — create a new product template." }
  else do
    let learned ← learnedMatch engine pick companyId base
    match learned, classified.kind with
    | some result, _ => pure result
    | none, .barcode => scanBarcode engine companyId base
    | none, .imei => scanImei engine companyId base
    | none, _ => pure { base with hint := some serialHint }

def spaceless (text : String) : List Char := text.toList.filter (fun c => !jsSpace c)

def PlainDigits (text : String) : Prop := barcodeDigits (spaceless text) = true

theorem spaceless_trim (text : List Char) :
    (trimChars text).filter (fun c => !jsSpace c) = text.filter (fun c => !jsSpace c) :=
  filter_trimChars _ (fun c blank => by simp [blank]) text

theorem digit_upper (c : Char) (digit : c.isDigit = true) : c.toUpper = c := by
  unfold Char.toUpper
  rw [dif_neg]
  intro lower
  simp only [Char.isDigit, Bool.and_eq_true, decide_eq_true_eq] at digit
  have low : 'a'.val ≤ c.val := lower.1
  have high : c.val ≤ '9'.val := digit.2
  have apart : ¬ 'a'.val ≤ '9'.val := by decide
  exact apart (UInt32.le_trans low high)

theorem digits_spaceless (digits : List Char) (all : digits.all Char.isDigit = true) :
    digits.filter (fun c => !(c = '-')) = digits ∧ digits.map Char.toUpper = digits := by
  rw [List.all_eq_true] at all
  constructor
  · apply List.filter_eq_self.mpr
    intro c member
    have digit := all c member
    by_cases dash : c = '-'
    · subst dash
      cases digit
    · simp [dash]
  · exact (List.map_congr_left (fun c member => digit_upper c (all c member))).trans
      (List.map_id digits)

variable (text : String)

theorem normalizeBarcode_eq :
    normalizeBarcode (some text) = if spaceless text = [] then none
      else some (String.ofList ((spaceless text).map Char.toUpper)) := by
  rw [normalizeBarcode, Option.bind_some, spaceless_trim]
  simp [spaceless]

theorem classified_digits :
    (trimChars text.toList).filter (fun c => !(jsSpace c || c = '-')) =
      (spaceless text).filter (fun c => !(c = '-')) := by
  have split : ∀ l : List Char, l.filter (fun c => !(jsSpace c || c = '-')) =
      (l.filter (fun c => !jsSpace c)).filter (fun c => !(c = '-')) := by
    intro l
    rw [List.filter_filter]
    congr 1
    funext c
    cases jsSpace c <;> simp
  rw [split, spaceless_trim, spaceless]

theorem not_imei_of_short (digits : List Char) (short : digits.length ≤ 14) :
    Purchasing.isValidImei (String.ofList digits) = false := by
  rw [Purchasing.isValidImei, String.toList_ofList, decide_eq_false_iff_not]
  omega

theorem classifyCode_plain (plain : PlainDigits text) :
    classifyCode text = ⟨.barcode, String.ofList (spaceless text)⟩ ∧
      normalizeBarcode (some text) = some (String.ofList (spaceless text)) := by
  have shape := plain
  rw [PlainDigits, barcodeDigits, decide_eq_true_eq] at shape
  obtain ⟨long, short, digits⟩ := shape
  obtain ⟨dashless, upper⟩ := digits_spaceless _ digits
  have some : spaceless text ≠ [] := by
    intro none
    rw [none] at long
    cases long
  have solid : trimChars text.toList ≠ [] := by
    intro none
    apply some
    rw [spaceless, ← spaceless_trim, none]
    rfl
  constructor
  · rw [classifyCode]
    dsimp only
    rw [classified_digits, dashless, if_neg solid, not_imei_of_short _ short,
      if_neg Bool.false_ne_true, if_pos (show barcodeDigits (spaceless text) = true from plain)]
  · rw [normalizeBarcode_eq, if_neg some, upper]

theorem normalisations_agree_iff :
    (classifyCode text).kind = .barcode ∧
      normalizeBarcode (some text) = some (classifyCode text).normalized ↔ PlainDigits text := by
  constructor
  · rintro ⟨kind, same⟩
    rw [classifyCode] at kind same
    dsimp only at kind same
    rw [classified_digits] at kind same
    split at kind
    · cases kind
    · next solid =>
      rw [if_neg solid] at same
      split at kind
      · cases kind
      · next other =>
        rw [if_neg other] at same
        split at kind
        · next digits =>
          rw [if_pos digits, normalizeBarcode_eq] at same
          split at same
          · cases same
          · -- as many characters are left as were there, so no dash was
            have equal := congrArg List.length (String.ofList_injective (Option.some.inj same))
            rw [List.length_map] at equal
            have whole := List.length_filter_eq_length_iff.mp equal.symm
            rw [List.filter_eq_self.mpr whole] at digits
            exact digits
        · split at kind
          · cases kind
          · cases kind
  · intro plain
    obtain ⟨classified, stored⟩ := classifyCode_plain text plain
    rw [classified, stored]
    exact ⟨rfl, rfl⟩

/-- The product is active under the barcode its text was stored as, which no other product of
the company holds. -/
structure Catalogued (engine : Imports.Engine) (db : ScanDb) (product : Product) (text : String) :
    Prop where
  stored : product ∈ db.catalog.db.products.rows
  active : db.deletedAt product.id = none
  barcode : product.barcode = normalizeBarcode (some text)
  only : ∀ other ∈ db.catalog.db.products.rows, other.companyId = product.companyId →
    other.barcode.map engine.weight = product.barcode.map engine.weight → other = product

/-- No learned mapping of the code leads to another product that is active. -/
def Undisputed (pick : Lookup ProductRecognition) (db : ScanDb) (product : Product)
    (code : String) : Prop :=
  ∀ row, resolveCode pick db product.companyId (.barcode, code) = some row →
    row.productId = product.id ∨ suggestById db product.companyId row.productId = none

variable (engine : Imports.Engine)

theorem learnedMatch_run (pick : Lookup ProductRecognition)
    (companyId : Id) (base : ScanResult) (db : ScanDb) (kind : base.kind = .barcode)
    (key : base.recognitionKey = some (.barcode, base.code)) :
    (learnedMatch engine pick companyId base).run db = (db, .ok
      ((resolveCode pick db companyId (.barcode, base.code)).bind (fun row =>
        (suggestById db companyId row.productId).map (fun suggestion =>
          scoreLearnedMatch base row.productId suggestion (score (signalsOf row))
            (suggestByBarcode engine db companyId base.code))))) := by
  rw [learnedMatch, key]
  dsimp only [Prog.read, Prog.step_bind, Prog.run]
  rw [Prog.run_bind]
  dsimp only [Prog.run, id]
  cases resolveCode pick db companyId (.barcode, base.code) with
  | none => rfl
  | some row =>
    dsimp only [Prog.run, Option.bind_some]
    rw [Prog.run_bind]
    dsimp only [Prog.run, id]
    cases suggestById db companyId row.productId with
    | none => rfl
    | some suggestion =>
      dsimp only [Option.map_some]
      rw [if_pos kind]
      rfl

section Catalogued

variable {engine : Imports.Engine} {db : ScanDb} {product : Product} {text : String}

theorem Catalogued.listed (catalogued : Catalogued engine db product text) :
    product ∈ activeProducts db product.companyId :=
  List.mem_filter.mpr ⟨catalogued.stored, by simp [catalogued.active]⟩

theorem Catalogued.byId (catalogued : Catalogued engine db product text) :
    suggestById db product.companyId product.id = some (toSuggestion product) := by
  rw [suggestById]
  cases found : (activeProducts db product.companyId).find?
      (fun other => decide (other.id = product.id)) with
  | none =>
    have missing := List.find?_eq_none.mp found product catalogued.listed
    simp at missing
  | some other =>
    have member := List.mem_of_mem_filter (List.mem_of_find?_eq_some found)
    have same := List.find?_some found
    rw [decide_eq_true_eq] at same
    rw [Table.key_injective _ other product member catalogued.stored same]
    rfl

theorem Catalogued.byBarcode (catalogued : Catalogued engine db product text) (barcode : String)
    (stored : normalizeBarcode (some text) = some barcode) :
    suggestByBarcode engine db product.companyId barcode = some (toSuggestion product) := by
  have own : product.barcode.map engine.weight = some (engine.weight barcode) := by
    rw [catalogued.barcode, stored]
    rfl
  rw [suggestByBarcode]
  cases found : (activeProducts db product.companyId).find?
      (fun other => decide (other.barcode.map engine.weight = some (engine.weight barcode))) with
  | none =>
    have missing := List.find?_eq_none.mp found product catalogued.listed
    simp [own] at missing
  | some other =>
    have member := List.mem_of_find?_eq_some found
    have same := List.find?_some found
    rw [decide_eq_true_eq] at same
    obtain ⟨row, guard⟩ := List.mem_filter.mp member
    rw [decide_eq_true_eq] at guard
    rw [catalogued.only other row guard.1 (same.trans own.symm)]
    rfl

theorem Catalogued.scanned (catalogued : Catalogued engine db product text)
    (plain : PlainDigits text) (pick : Lookup ProductRecognition)
    (undisputed : Undisputed pick db product (String.ofList (spaceless text))) :
    (scan engine pick product.companyId text).run db = (db, .ok
      { code := String.ofList (spaceless text)
        kind := .barcode
        recognized := true
        confidence := 1
        recognitionKey := some (.barcode, String.ofList (spaceless text))
        suggestion := some (toSuggestion product) }) := by
  obtain ⟨classified, stored⟩ := classifyCode_plain text plain
  have byBarcode := catalogued.byBarcode _ stored
  rw [scan, classified]
  dsimp only [recognitionKeyFor]
  rw [if_neg (by decide), Prog.run_bind, learnedMatch_run _ _ _ _ _ rfl rfl]
  dsimp only
  have directly : (scanBarcode engine product.companyId
      { code := String.ofList (spaceless text), kind := .barcode
        recognitionKey := some (.barcode, String.ofList (spaceless text)) }).run db = (db, .ok
      { code := String.ofList (spaceless text)
        kind := .barcode
        recognized := true
        confidence := 1
        recognitionKey := some (.barcode, String.ofList (spaceless text))
        suggestion := some (toSuggestion product) }) := by
    rw [scanBarcode]
    dsimp only [Prog.read, Prog.step_bind, Prog.run]
    rw [byBarcode]
    rfl
  cases resolved : resolveCode pick db product.companyId
      (.barcode, String.ofList (spaceless text)) with
  | none => exact directly
  | some row =>
    rw [Option.bind_some]
    rcases undisputed row resolved with own | archived
    · -- memory and barcode agree: the exact match decides
      have sure : max (score (signalsOf row)) confidenceExactBarcode = 1 :=
        max_eq_right (score_bounds row).2.le
      rw [own, catalogued.byId, Option.map_some, byBarcode]
      dsimp only [scoreLearnedMatch]
      rw [if_pos (show (toSuggestion product).productId = product.id from rfl), sure]
      rfl
    · rw [archived]
      exact directly

end Catalogued

/-- A product as it is stored: under the barcode of its text, apart from the rows before it. -/
structure Stored (engine : Imports.Engine) (ctx : Ctx) (dto : CreateProductDto)
    (store : CatalogDb) (product : Product) : Prop where
  company : product.companyId = ctx.companyId
  barcode : product.barcode = normalizeBarcode dto.barcode
  row : ∃ rows, store.imports.db.products.rows = rows ++ [product] ∧
    productKeys engine product rows = .ok ()

theorem createTx_stored (ctx : Ctx) (ids : ProductIds)
    (dto : CreateProductDto) (mode : Option TrackingType) (store store' : CatalogDb)
    (done : createTx engine ids (newProduct ctx ids.product dto mode) store = .ok store') :
    Stored engine ctx dto store' (newProduct ctx ids.product dto mode) := by
  obtain ⟨db, inserted, ended⟩ := (except_bind_ok _ _ _).mp done
  cases ended
  obtain ⟨⟨⟩, keys, inserted⟩ := (except_bind_ok _ _ _).mp inserted
  split at inserted
  · cases inserted
  · next products appended =>
    cases inserted
    exact ⟨rfl, rfl, store.db.products.rows, (Table.insert?_some _ _ _ appended).1, keys⟩

theorem create_stored (sweeping : Sweeping) (ctx : Ctx) (mayPrice : Bool)
    (ids : ProductIds) (dto : CreateProductDto) (store : CatalogDb) :
    (create engine sweeping ctx mayPrice ids dto).Ensures (fun store' result =>
      ∀ product, result = .ok product → Stored engine ctx dto store' product) store := by
  apply create_ensures _ _ _ _ _ _ _ _ (fun _ _ refused => by cases refused)
  rintro mode created store' done same product ⟨⟩
  have stored := createTx_stored engine ctx ids dto mode store created done
  have row := stored.row
  rw [← same] at row
  exact ⟨stored.company, stored.barcode, row⟩

theorem Stored.catalogued {engine : Imports.Engine} {ctx : Ctx} {dto : CreateProductDto}
    {store : CatalogDb} {product : Product} (stored : Stored engine ctx dto store product)
    (text : String) (sent : dto.barcode = some text) (some : (normalizeBarcode (some text)).isSome)
    (db : ScanDb) (here : db.catalog = store) (active : db.deletedAt product.id = none) :
    Catalogued engine db product text := by
  obtain ⟨rows, appended, keys⟩ := stored.row
  have own : product.barcode.isSome = true := by
    rw [stored.barcode, sent]
    exact some
  subst here
  have listed : db.catalog.db.products.rows = rows ++ [product] := appended
  refine ⟨by rw [listed]; simp, active, stored.barcode.trans (by rw [sent]), ?_⟩
  intro other member company weighs
  rw [listed] at member
  rcases List.mem_append.mp member with old | new
  · -- the unique key has kept every older product away
    unfold productKeys at keys
    split at keys
    · cases keys
    · split at keys
      · cases keys
      · next free =>
        refine absurd ⟨own, List.any_eq_true.mpr ⟨other, old, ?_⟩⟩ free
        exact decide_eq_true ⟨company, weighs⟩
  · exact List.mem_singleton.mp new

/-- Codes of plain digits are the ones stored and scanned alike, and a scan of one recognises
the product that was created with it. -/
structure BarcodesScanned (engine : Imports.Engine) : Prop where
  agree : ∀ text, (classifyCode text).kind = .barcode ∧
    normalizeBarcode (some text) = some (classifyCode text).normalized ↔ PlainDigits text
  created : ∀ sweeping ctx mayPrice ids dto store store' product text, dto.barcode = some text →
    PlainDigits text →
    (create engine sweeping ctx mayPrice ids dto).run store = (store', .ok product) →
    ∀ db : ScanDb, db.catalog = store' → db.deletedAt product.id = none →
      Catalogued engine db product text
  recognised : ∀ (db : ScanDb) product text, Catalogued engine db product text →
    PlainDigits text → ∀ pick, Undisputed pick db product (String.ofList (spaceless text)) →
      ∃ result, (scan engine pick product.companyId text).run db = (db, .ok result) ∧
        result.recognized = true ∧ result.confidence = 1 ∧
        result.suggestion = some (toSuggestion product)

theorem barcodes_scanned (engine : Imports.Engine) : BarcodesScanned engine where
  agree := normalisations_agree_iff
  created sweeping ctx mayPrice ids dto store store' product text sent plain accepted := by
    have stored := create_stored engine sweeping ctx mayPrice ids dto store
    rw [Prog.Ensures, accepted] at stored
    have some : (normalizeBarcode (some text)).isSome = true := by
      rw [(classifyCode_plain text plain).2]
      rfl
    exact (stored product rfl).catalogued text sent some
  recognised db product text catalogued plain pick undisputed :=
    ⟨_, catalogued.scanned plain pick undisputed, rfl, rfl, rfl⟩

def newShop : CatalogDb where
  imports := { db := {} }
  memory := { clock := 0 }

def keeper : Ctx where
  companyId := 1
  branchId := some 2
  userId := some 9
  now := 0

def cable (barcode : String) : CreateProductDto where
  brand := "Anker"
  model := "PowerLine"
  trackingType := some .quantity
  barcode := some barcode

def sweepingShop : Sweeping := ⟨.oldest, fun index => 50 + index⟩

/-- The shop after its first product, with the answer of the request. -/
def created (barcode : String) : CatalogDb × Except Refusal Product :=
  (create Imports.binary sweepingShop keeper false ⟨30, 40⟩ (cable barcode)).run newShop

def shelf (barcode : String) : ScanDb := ⟨(created barcode).1, fun _ => none, .empty⟩

theorem barcodes_scanned_cable : ∃ product, (created " 6001 234567890").2 = .ok product ∧
    ∃ result, (scan Imports.binary .oldest product.companyId " 6001 234567890").run
        (shelf " 6001 234567890") = (shelf " 6001 234567890", .ok result) ∧
      result.recognized = true ∧ result.confidence = 1 ∧
      result.suggestion = some (toSuggestion product) := by
  obtain ⟨product, accepted⟩ : ∃ product, (created " 6001 234567890").2 = .ok product := ⟨_, rfl⟩
  have scanned := barcodes_scanned Imports.binary
  have plain : PlainDigits " 6001 234567890" := by
    unfold PlainDigits
    decide +kernel
  refine ⟨product, accepted, scanned.recognised _ product " 6001 234567890" ?_ plain .oldest ?_⟩
  · exact scanned.created sweepingShop keeper false ⟨30, 40⟩ (cable " 6001 234567890") newShop _
      product _ rfl plain (by rw [← accepted]; rfl) _ rfl rfl
  · intro row resolved
    have none : (shelf " 6001 234567890").catalog.memory.recognitions.rows = [] := by
      decide +kernel
    have member := (List.mem_filter.mp (Lookup.oldest.mem _ _ resolved)).1
    have stored := ((mem_mappingsForCode _ _ _ _ _).mp member).1
    rw [none] at stored
    cases stored

/-- A product under a barcode with letters and a dash; the scan of the same text takes it for a
serial number. -/
theorem dashed_barcode_unknown : ∃ product, (created "CAB-100").2 = .ok product ∧
    product.barcode = normalizeBarcode (some "CAB-100") ∧
    (shelf "CAB-100").catalog.memory.recognitions.rows = [] ∧
    ∃ result, ((scan Imports.binary .oldest product.companyId "CAB-100").run (shelf "CAB-100")).2 =
      .ok result ∧ result.kind = .serial ∧ result.recognized = false := by
  obtain ⟨product, accepted⟩ : ∃ product, (created "CAB-100").2 = .ok product := ⟨_, rfl⟩
  cases accepted
  exact ⟨_, rfl, rfl, by decide +kernel, _, rfl, by decide +kernel, by decide +kernel⟩

end ErpBackend.Scanner
