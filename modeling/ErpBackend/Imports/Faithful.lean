import ErpBackend.Imports.Effects

/-!
# What a commit brings in

A unit or a quantity for every row that passed, once. Identifier and cost are
written; a price, a barcode and the cost of more of what is there are not, and
stand as the preview showed them only where the shop had them so before.
-/

namespace ErpBackend.Imports

open Foundation Inventory

def Worth (cents : Int) (amount : Amount) : Prop := amount.InCents ∧ cents = amount.cents

instance (cents : Int) (amount : Amount) : Decidable (Worth cents amount) :=
  inferInstanceAs (Decidable (_ ∧ _))

def shelfRow (db : Db) (key : Id × Id × Id) : Option CurrentRow :=
  (db.stockItems.find? key).bind (fun item =>
    item.price.map (fun price => ⟨price, item.version⟩))

def askedFor (db : Db) (kind : Option ImportKind) (companyId productId branchId : Id) :
    Option Int :=
  let productDefault := (findProduct db companyId productId).bind Product.defaultPrice
  if kind = some .quantity then
    (resolveQuantity (shelfRow db (companyId, productId, branchId)) productDefault).price
  else
    (resolveProductLevel (findBranchVariant db companyId productId branchId) productDefault).price

/-- The product is the one the row describes, and the shop asks the price of the row. -/
structure Sells (engine : Engine) (batch : ImportBatch) (db : Db) (row : ImportRow)
    (productId : Id) : Prop where
  product : ∃ product, db.products.find? productId = some product ∧
    engine.keyOf product = engine.keyFor batch.companyId row.parsed
  price : ∀ price ∈ row.parsed.price,
    ∃ cents ∈ askedFor db batch.kind batch.companyId productId batch.branchId, Worth cents price

structure UnitOf (engine : Engine) (batch : ImportBatch) (db : Db) (row : ImportRow)
    (unit : StockUnit) : Prop where
  home : unit.companyId = batch.companyId ∧ unit.branchId = batch.branchId
  status : unit.status = .inStock
  sells : Sells engine batch db row unit.productId
  identifier : identifierColumn unit = bearing batch.kind row.parsed
  cost : ∀ cost ∈ row.parsed.cost, Worth unit.cost cost

structure ShelfOf (engine : Engine) (batch : ImportBatch) (db : Db) (row : ImportRow)
    (productId : Id) : Prop where
  sells : Sells engine batch db row productId
  identifier : ∀ code ∈ row.parsed.barcode, ∃ product, db.products.find? productId = some product ∧
    product.barcode = some code
  cost : ∃ item, db.stockItems.find? (batch.companyId, productId, batch.branchId) = some item ∧
    ∀ cost ∈ row.parsed.cost, Worth item.cost cost

def quantityAt (db : Db) (key : Id × Id × Id) : Int :=
  ((db.stockItems.find? key).map StockItem.quantity).getD 0

def added (batch : ImportBatch) (key : Id × Id × Id) : List (ImportRow × Id) → Int
  | [] => 0
  | (row, productId) :: rest =>
      (if (batch.companyId, productId, batch.branchId) = key then row.parsed.quantity.getD 0
        else 0) + added batch key rest

structure Beside (batch : ImportBatch) (db db' : Db) : Prop where
  others : db' = { db with
    products := db'.products
    units := db'.units
    stockItems := db'.stockItems }
  products : ∀ id product, db.products.find? id = some product →
    db'.products.find? id = some product
  asked : ∀ id product, db.products.find? id = some product →
    askedFor db' batch.kind batch.companyId id batch.branchId =
      askedFor db batch.kind batch.companyId id batch.branchId
  shelves : ∀ key item, db.stockItems.find? key = some item →
    ∃ quantity, db'.stockItems.find? key = some { item with quantity }

/-- For every row one unit, or one quantity on a shelf, as the row says; and no other. -/
structure BroughtIn (engine : Engine) (batch : ImportBatch) (rows : List ImportRow)
    (db db' : Db) : Prop where
  beside : Beside batch db db'
  catalogue : ∃ new, db'.products.rows = db.products.rows ++ new ∧ ∀ product ∈ new,
    ∃ row ∈ rows, engine.keyOf product = engine.keyFor batch.companyId row.parsed
  units : batch.kind ≠ some .quantity → db'.stockItems = db.stockItems ∧
    ∃ carried : List (ImportRow × StockUnit), carried.map Prod.fst = rows ∧
      db'.units.rows = db.units.rows ++ carried.map Prod.snd ∧
        ∀ pair ∈ carried, UnitOf engine batch db' pair.1 pair.2
  shelves : batch.kind = some .quantity → db'.units = db.units ∧
    ∃ booked : List (ImportRow × Id), booked.map Prod.fst = rows ∧
      (∀ key, quantityAt db' key = quantityAt db key + added batch key booked) ∧
        ∀ pair ∈ booked, ShelfOf engine batch db' pair.1 pair.2

structure Fits (engine : Engine) (batch : ImportBatch) (db : Db) (row : ImportRow) : Prop where
  cost : ∀ cost ∈ row.parsed.cost, cost.InCents
  price : ∀ price ∈ row.parsed.price,
    ∃ product ∈ productFor engine db batch.companyId row.parsed,
      ∃ cents ∈ askedFor db batch.kind batch.companyId product.id batch.branchId,
        Worth cents price
  barcode : batch.kind = some .quantity → ∀ code ∈ row.parsed.barcode,
    ∃ product ∈ productFor engine db batch.companyId row.parsed, product.barcode = some code
  shelf : batch.kind = some .quantity →
    ∀ product ∈ productFor engine db batch.companyId row.parsed,
      ∀ item ∈ db.stockItems.find? (batch.companyId, product.id, batch.branchId),
        ∀ cost ∈ row.parsed.cost, Worth item.cost cost

structure AllFit (engine : Engine) (batch : ImportBatch) (db : Db) (rows : List ImportRow) :
    Prop where
  each : ∀ row ∈ rows, Fits engine batch db row
  costs : batch.kind = some .quantity → rows.Pairwise (fun a b =>
    engine.keyFor batch.companyId a.parsed = engine.keyFor batch.companyId b.parsed →
      costOf a.parsed = costOf b.parsed)

def Stocked (db : Db) : Prop :=
  ∀ item ∈ db.stockItems.rows, ∃ product, db.products.find? item.productId = some product

namespace Beside

variable {batch : ImportBatch} {db db' db'' : Db}

theorem refl (batch : ImportBatch) (db : Db) : Beside batch db db :=
  ⟨rfl, fun _ _ found => found, fun _ _ _ => rfl, fun _ item found => ⟨item.quantity, found⟩⟩

theorem trans (first : Beside batch db db') (second : Beside batch db' db'') :
    Beside batch db db'' := by
  constructor
  · have later := second.others
    rw [first.others] at later
    exact later
  · exact fun id product found => second.products id product (first.products id product found)
  · intro id product found
    rw [second.asked id product (first.products id product found), first.asked id product found]
  · intro key item found
    obtain ⟨quantity, there⟩ := first.shelves key item found
    obtain ⟨quantity', later⟩ := second.shelves key _ there
    exact ⟨quantity', later⟩

end Beside

variable {engine : Engine}

theorem Sells.later {batch : ImportBatch} {db db' : Db} {row : ImportRow}
    {productId : Id} (sells : Sells engine batch db row productId)
    (beside : Beside batch db db') : Sells engine batch db' row productId := by
  obtain ⟨product, found, key⟩ := sells.product
  constructor
  · exact ⟨product, beside.products productId product found, key⟩
  · intro price shown
    rw [beside.asked productId product found]
    exact sells.price price shown

theorem UnitOf.later {batch : ImportBatch} {db db' : Db} {row : ImportRow}
    {unit : StockUnit} (own : UnitOf engine batch db row unit) (beside : Beside batch db db') :
    UnitOf engine batch db' row unit :=
  ⟨own.home, own.status, own.sells.later beside, own.identifier, own.cost⟩

theorem ShelfOf.later {batch : ImportBatch} {db db' : Db} {row : ImportRow}
    {productId : Id} (own : ShelfOf engine batch db row productId)
    (beside : Beside batch db db') : ShelfOf engine batch db' row productId := by
  constructor
  · exact own.sells.later beside
  · intro code shown
    obtain ⟨product, found, barcode⟩ := own.identifier code shown
    exact ⟨product, beside.products productId product found, barcode⟩
  · obtain ⟨item, found, cost⟩ := own.cost
    obtain ⟨quantity, later⟩ := beside.shelves _ item found
    exact ⟨_, later, cost⟩

section Catalogue

variable {engine : Engine} {newId companyId : Id} {kind : Option ImportKind} {parsed : ParsedRow}
  {db db' : Db} {productId : Id}
  (catalogued : Catalogued engine newId companyId kind parsed db db' productId)

include catalogued

theorem catalogued_others : db' = { db with products := db'.products } := by
  cases catalogued with
  | found product known => rfl
  | created products missing inserted => rfl

theorem catalogued_new : ∃ new, db'.products.rows = db.products.rows ++ new ∧
    ∀ product ∈ new, engine.keyOf product = engine.keyFor companyId parsed := by
  cases catalogued with
  | found product known => exact ⟨[], (List.append_nil _).symm, fun _ none => (by cases none)⟩
  | created products missing inserted =>
      refine ⟨[newProduct newId companyId kind parsed], ?_, ?_⟩
      · exact (Table.insert?_some _ _ _ inserted).1
      · intro product member
        rw [List.mem_singleton.mp member]
        rfl

theorem catalogued_product : ∃ product, db'.products.find? productId = some product ∧
    engine.keyOf product = engine.keyFor companyId parsed := by
  cases catalogued with
  | found product known => exact ⟨product, productFor_some _ _ _ _ _ known⟩
  | created products missing inserted =>
      refine ⟨newProduct newId companyId kind parsed, ?_, rfl⟩
      dsimp only
      rw [Table.find?_insert _ _ _ inserted]
      exact if_pos rfl

theorem catalogued_kept (id : Id) (product : Product)
    (found : db.products.find? id = some product) : db'.products.find? id = some product := by
  cases catalogued with
  | found product known => exact found
  | created products missing inserted =>
      exact Table.find?_insert_of_found _ _ _ inserted _ _ found

theorem catalogued_next (other : ParsedRow) (product : Product)
    (found : productFor engine db companyId other = some product) :
    productFor engine db' companyId other = some product := by
  cases catalogued with
  | found product known => exact found
  | created products missing inserted =>
      have apart : engine.keyFor companyId parsed ≠ engine.keyFor companyId other := by
        intro same
        unfold productFor at missing found
        rw [same, found] at missing
        cases missing
      unfold productFor at found ⊢
      unfold Table.filter at found ⊢
      dsimp only
      rw [(Table.insert?_some _ _ _ inserted).1, List.filter_append,
        List.filter_cons_of_neg (by simp [newProduct_key, apart]), List.filter_nil,
        List.append_nil]
      exact found

theorem catalogued_before (other : ParsedRow) (product : Product)
    (found : productFor engine db' companyId other = some product) :
    productFor engine db companyId other = some product ∨
      (product.id = productId ∧ engine.keyFor companyId other = engine.keyFor companyId parsed ∧
        ∀ known, db.products.find? productId ≠ some known) := by
  rcases before : productFor engine db companyId other with _ | known
  · right
    obtain ⟨present, key⟩ := productFor_some _ _ _ _ _ found
    cases catalogued with
    | found product known =>
        rw [before] at found
        cases found
    | created products missing inserted =>
        dsimp only at present
        rw [Table.find?_insert _ _ _ inserted] at present
        split at present
        · next own =>
          cases present
          refine ⟨rfl, key.symm, fun known there => ?_⟩
          obtain ⟨member, same⟩ := (Table.find?_some _ _ _).mp there
          exact (Table.insert?_some _ _ _ inserted).2 known member same
        · have member := Table.mem_of_find? _ _ _ present
          exact absurd key (productFor_none _ _ _ _ before product member)
  · left
    rw [catalogued_next catalogued other known before] at found
    exact found

theorem catalogued_known (product : Product)
    (found : productFor engine db companyId parsed = some product) : productId = product.id := by
  cases catalogued with
  | found own known =>
      rw [known] at found
      cases found
      rfl
  | created products missing inserted =>
      rw [missing] at found
      cases found

end Catalogue

section Shelf

variable {companyId productId branchId : Id} {amount cost : Int} {db db' : Db}
  (merged : Merged companyId productId branchId amount cost db db')

include merged

theorem merged_others : db' = { db with stockItems := db'.stockItems } := by
  cases merged with
  | more item found keep => rfl
  | new stockItems missing inserted => rfl

theorem merged_shelf (key : Id × Id × Id) (item : StockItem)
    (found : db.stockItems.find? key = some item) : db'.stockItems.find? key = some
      { item with quantity := item.quantity +
        if (companyId, productId, branchId) = key then amount else 0 } := by
  cases merged with
  | more own present keep =>
      dsimp only
      rw [Table.find?_update_of_found _ _ _ _ _ _ found]
      by_cases same : key = (companyId, productId, branchId)
      · rw [if_pos same, if_pos same.symm]
      · rw [if_neg same, if_neg (Ne.symm same), Int.add_zero]
  | new stockItems missing inserted =>
      dsimp only
      rw [Table.find?_insert _ _ _ inserted]
      have apart : (companyId, productId, branchId) ≠ key := by
        rintro rfl
        rw [missing] at found
        cases found
      rw [if_neg apart, Int.add_zero, ← found]
      exact if_neg (Ne.symm apart)

theorem merged_new (key : Id × Id × Id) (missing : db.stockItems.find? key = none) :
    db'.stockItems.find? key = if (companyId, productId, branchId) = key then
      some ⟨companyId, productId, branchId, amount, cost, none, 0, 0⟩ else none := by
  cases merged with
  | more own present keep =>
      have apart : (companyId, productId, branchId) ≠ key := by
        rintro rfl
        rw [missing] at present
        cases present
      dsimp only
      rw [Table.find?_update, if_neg (Ne.symm apart), if_neg apart]
      exact missing
  | new stockItems absent inserted =>
      dsimp only
      rw [Table.find?_insert _ _ _ inserted]
      by_cases same : key = (companyId, productId, branchId)
      · rw [if_pos same.symm]
        exact if_pos same
      · rw [if_neg (Ne.symm same), ← missing]
        exact if_neg same

theorem merged_quantity (key : Id × Id × Id) : quantityAt db' key = quantityAt db key +
    if (companyId, productId, branchId) = key then amount else 0 := by
  unfold quantityAt
  rcases found : db.stockItems.find? key with _ | item
  · rw [merged_new merged key found]
    split
    · exact (Int.zero_add amount).symm
    · rfl
  · rw [merged_shelf merged key item found]
    rfl

theorem merged_shelfRow (key : Id × Id × Id) : shelfRow db' key = shelfRow db key := by
  unfold shelfRow
  rcases found : db.stockItems.find? key with _ | item
  · rw [merged_new merged key found]
    split
    · rfl
    · rfl
  · rw [merged_shelf merged key item found]
    rfl

end Shelf

theorem askedFor_of_same (db db' : Db) (kind : Option ImportKind) (companyId id branchId : Id)
    (product : db'.products.find? id = db.products.find? id)
    (variants : db'.branchVariantPrices = db.branchVariantPrices)
    (shelf : shelfRow db' (companyId, id, branchId) = shelfRow db (companyId, id, branchId)) :
    askedFor db' kind companyId id branchId = askedFor db kind companyId id branchId := by
  unfold askedFor findProduct findBranchVariant
  rw [product, variants, shelf]

section Row

variable {engine : Engine} {batch : ImportBatch} {ids : CommitIds} {index : Nat} {row : ImportRow}
  {db db₁ db₂ : Db} {productId : Id}
  (catalogued : Catalogued engine (ids.product index) batch.companyId batch.kind row.parsed db db₁
    productId)
  (booked : Booked engine batch ids index row productId db₁ db₂)

include booked in
theorem booked_others : db₂ = { db₁ with
    units := db₂.units
    stockItems := db₂.stockItems } := by
  cases booked with
  | shelved db' counted merged =>
      have others := merged_others merged
      exact others.trans (by rw [others])
  | carried units phones accepted inserted => rfl

include booked in
theorem booked_shelfRow (key : Id × Id × Id) : shelfRow db₂ key = shelfRow db₁ key := by
  cases booked with
  | shelved db' counted merged => exact merged_shelfRow merged key
  | carried units phones accepted inserted => rfl

include booked in
theorem booked_shelf (key : Id × Id × Id) (item : StockItem)
    (found : db₁.stockItems.find? key = some item) :
    ∃ quantity, db₂.stockItems.find? key = some { item with quantity } := by
  cases booked with
  | shelved db' counted merged => exact ⟨_, merged_shelf merged key item found⟩
  | carried units phones accepted inserted => exact ⟨item.quantity, found⟩

include catalogued booked

theorem row_products : db₂.products = db₁.products ∧
    db₁ = { db with products := db₂.products } := by
  have products : db₂.products = db₁.products := by rw [booked_others booked]
  refine ⟨products, ?_⟩
  rw [products]
  exact catalogued_others catalogued

theorem row_beside : Beside batch db db₂ := by
  obtain ⟨products, before⟩ := row_products catalogued booked
  have kept : ∀ id product, db.products.find? id = some product →
      db₂.products.find? id = some product := by
    intro id product found
    rw [products]
    exact catalogued_kept catalogued id product found
  constructor
  · have others := booked_others booked
    rw [before] at others
    exact others
  · exact kept
  · intro id product found
    apply askedFor_of_same
    · rw [kept id product found, found]
    · rw [booked_others booked, before]
    · rw [booked_shelfRow booked, before]
      rfl
  · intro key item found
    apply booked_shelf booked key item
    rw [before]
    exact found

theorem fits_next (stocked : Stocked db) (other : ImportRow) (fits : Fits engine batch db other)
    (costs : batch.kind = some .quantity →
      engine.keyFor batch.companyId row.parsed = engine.keyFor batch.companyId other.parsed →
        costOf row.parsed = costOf other.parsed) : Fits engine batch db₂ other := by
  obtain ⟨products, before⟩ := row_products catalogued booked
  have beside := row_beside catalogued booked
  have next : ∀ product, productFor engine db batch.companyId other.parsed = some product →
      productFor engine db₂ batch.companyId other.parsed = some product := by
    intro product found
    have later := catalogued_next catalogued other.parsed product found
    unfold productFor at later ⊢
    rw [products]
    exact later
  constructor
  · exact fits.cost
  · intro price shown
    obtain ⟨product, found, cents, asked, worth⟩ := fits.price price shown
    refine ⟨product, next product found, cents, ?_, worth⟩
    have present := (productFor_some _ _ _ _ _ found).1
    rw [Option.mem_def, beside.asked product.id product present]
    exact asked
  · intro counted code shown
    obtain ⟨product, found, barcode⟩ := fits.barcode counted code shown
    exact ⟨product, next product found, barcode⟩
  · intro counted product found item there cost shown
    have back : productFor engine db₁ batch.companyId other.parsed = some product := by
      unfold productFor at found ⊢
      rw [products] at found
      exact found
    cases booked with
    | carried units phones accepted inserted => exact absurd counted phones
    | shelved db₂ _ merged =>
        have shelf₁ : db₁.stockItems = db.stockItems := by rw [before]
        rcases missing : db.stockItems.find? (batch.companyId, product.id, batch.branchId) with
          _ | old
        · -- the shelf is new, at the cost of this row
          rw [Option.mem_def, merged_new merged _ (by rw [shelf₁]; exact missing)] at there
          split at there
          · next same =>
            cases there
            have own : productId = product.id := congrArg (fun key => key.2.1) same
            have key : engine.keyFor batch.companyId row.parsed =
                engine.keyFor batch.companyId other.parsed := by
              obtain ⟨known, foundKnown, keyKnown⟩ := catalogued_product catalogued
              obtain ⟨foundProduct, keyProduct⟩ := productFor_some _ _ _ _ _ back
              rw [own, foundProduct] at foundKnown
              cases foundKnown
              exact keyKnown.symm.trans keyProduct
            refine ⟨fits.cost cost shown, ?_⟩
            rw [Option.mem_def] at shown
            dsimp only
            rw [costs counted key, costOf, shown]
            rfl
          · cases there
        · rw [Option.mem_def, merged_shelf merged _ old (by rw [shelf₁]; exact missing)] at there
          cases there
          rcases catalogued_before catalogued other.parsed product back with known | ⟨own, -, new⟩
          · exact fits.shelf counted product known old missing cost shown
          · -- a new product has no shelf
            obtain ⟨member, key⟩ := (Table.find?_some _ _ _).mp missing
            obtain ⟨known, catalogue⟩ := stocked old member
            have id : old.productId = product.id := congrArg (fun key => key.2.1) key
            rw [id, own] at catalogue
            exact absurd catalogue (new known)

theorem row_sells (fits : Fits engine batch db row) : Sells engine batch db₂ row productId := by
  obtain ⟨products, before⟩ := row_products catalogued booked
  constructor
  · rw [products]
    exact catalogued_product catalogued
  · intro price shown
    obtain ⟨product, found, cents, asked, worth⟩ := fits.price price shown
    have present := (productFor_some _ _ _ _ _ found).1
    refine ⟨cents, ?_, worth⟩
    rw [Option.mem_def, catalogued_known catalogued product found,
      (row_beside catalogued booked).asked product.id product present]
    exact asked

theorem row_unit (phones : batch.kind ≠ some .quantity) (fits : Fits engine batch db row) :
    db₂.stockItems = db.stockItems ∧ ∃ unit, db₂.units.rows = db.units.rows ++ [unit] ∧
      UnitOf engine batch db₂ row unit := by
  obtain ⟨products, before⟩ := row_products catalogued booked
  have sells := row_sells catalogued booked fits
  cases booked with
  | shelved db₂ counted merged => exact absurd counted phones
  | carried units _ accepted inserted =>
      have tables := catalogued.tables
      refine ⟨tables.2, importedUnit (ids.unit index) batch.companyId batch.branchId productId
        batch.kind row.parsed, ?_, ?_⟩
      · dsimp only
        rw [(Table.insert?_some _ _ _ inserted).1, tables.1]
      · constructor
        · exact ⟨rfl, rfl⟩
        · rfl
        · exact sells
        · unfold identifierColumn importedUnit bearing
          dsimp only
          split
          · next imei => simp [imei]
          · rw [Option.none_or]
        · intro cost shown
          refine ⟨fits.cost cost shown, ?_⟩
          rw [Option.mem_def] at shown
          simp only [importedUnit, costOf, shown, Option.getD_some]

theorem row_shelf (stocked : Stocked db) (counted : batch.kind = some .quantity)
    (fits : Fits engine batch db row) :
    db₂.units = db.units ∧ (∀ key, quantityAt db₂ key = quantityAt db key +
      if (batch.companyId, productId, batch.branchId) = key then row.parsed.quantity.getD 0
        else 0) ∧ ShelfOf engine batch db₂ row productId := by
  have later := fits_next catalogued booked stocked row fits (fun _ _ => rfl)
  have sells := row_sells catalogued booked fits
  obtain ⟨products, before⟩ := row_products catalogued booked
  obtain ⟨product, found, key⟩ := sells.product
  cases booked with
  | carried units phones accepted inserted => exact absurd counted phones
  | shelved db₂ _ merged =>
      have tables := catalogued.tables
      have units : db₂.units = db₁.units := by rw [merged_others merged]
      refine ⟨units.trans tables.1, ?_, ?_⟩
      · intro key
        rw [merged_quantity merged key]
        unfold quantityAt
        rw [tables.2]
      · constructor
        · exact sells
        · intro code shown
          obtain ⟨own, known, barcode⟩ := fits.barcode counted code shown
          refine ⟨own, ?_, barcode⟩
          rw [catalogued_known catalogued own known, products]
          exact catalogued_kept catalogued _ _ (productFor_some _ _ _ _ _ known).1
        · -- the shelf is the one the row still fits
          have present : ∃ item, db₂.stockItems.find?
              (batch.companyId, productId, batch.branchId) = some item := by
            rcases missing : db₁.stockItems.find? (batch.companyId, productId, batch.branchId) with
              _ | old
            · exact ⟨_, (merged_new merged _ missing).trans (if_pos rfl)⟩
            · exact ⟨_, merged_shelf merged _ old missing⟩
          obtain ⟨item, there⟩ := present
          refine ⟨item, there, fun cost shown => ?_⟩
          have finds : ∃ own, productFor engine db₂ batch.companyId row.parsed = some own ∧
              own.id = productId := by
            rcases known : productFor engine db₂ batch.companyId row.parsed with _ | own
            · have member := Table.mem_of_find? _ _ _ found
              exact absurd key (productFor_none _ _ _ _ known product member)
            · refine ⟨own, rfl, ?_⟩
              have back : productFor engine db₁ batch.companyId row.parsed = some own := by
                unfold productFor at known ⊢
                rw [products] at known
                exact known
              rcases catalogued_before catalogued row.parsed own back with known | ⟨same, -, -⟩
              · exact (catalogued_known catalogued own known).symm
              · exact same
          obtain ⟨own, known, rfl⟩ := finds
          exact later.shelf counted own known item there cost shown

theorem row_stocked (stocked : Stocked db) : Stocked db₂ := by
  obtain ⟨products, before⟩ := row_products catalogued booked
  have beside := row_beside catalogued booked
  intro item member
  have there : db₂.stockItems.find? item.key = some item :=
    (Table.find?_some _ _ _).mpr ⟨member, rfl⟩
  rcases missing : db.stockItems.find? item.key with _ | old
  · cases booked with
    | carried units phones accepted inserted =>
        dsimp only at there
        rw [catalogued.tables.2, missing] at there
        cases there
    | shelved db₂ counted merged =>
        rw [merged_new merged _ (by rw [catalogued.tables.2]; exact missing)] at there
        split at there
        · cases there
          obtain ⟨product, found, -⟩ := catalogued_product catalogued
          exact ⟨product, by rw [products]; exact found⟩
        · cases there
  · obtain ⟨quantity, later⟩ := beside.shelves _ old missing
    rw [later] at there
    obtain ⟨product, found⟩ := stocked old (Table.mem_of_find? _ _ _ missing)
    cases there
    exact ⟨product, beside.products _ _ found⟩

end Row

def decidedPart (row : ImportRow) : ImportRow := { row with created := none }

theorem rows_link (store : ImportDb) (rowId : Id) (created : Created) (id : Id) :
    ((store.importRows.update rowId (linked created) (linked_id created)).filter
        (fun row => row.batchId = id)).map decidedPart = (rowsOf store id).map decidedPart := by
  unfold Table.update rowsOf
  rw [Table.filter_modify _ _ (linked created) _ (fun row => decide (row.batchId = id))
    (fun _ => rfl), List.map_map]
  apply List.map_congr_left
  intro row _
  dsimp only [Function.comp_apply]
  split
  · rfl
  · rfl

variable (engine : Engine)

theorem bringInRows_rows (batch : ImportBatch) (ids : CommitIds) (index : Nat)
    (rows : List ImportRow) (store store' : ImportDb)
    (done : bringInRows engine batch ids index rows store = .ok store') (id : Id) :
    (rowsOf store' id).map decidedPart = (rowsOf store id).map decidedPart := by
  induction rows generalizing index store with
  | nil =>
      cases done
      rfl
  | cons first rest ih =>
      unfold bringInRows at done
      obtain ⟨brought, one, others⟩ := (except_bind_ok _ _ _).mp done
      obtain ⟨db, productId, db', created, catalogued, booked, rfl⟩ :=
        bringInRow_ok _ _ _ _ _ _ _ one
      rw [ih _ _ others]
      exact rows_link store first.id created id

theorem bringInRows_stocked (batch : ImportBatch) (ids : CommitIds)
    (index : Nat) (rows : List ImportRow) (store store' : ImportDb) (stocked : Stocked store.db)
    (done : bringInRows engine batch ids index rows store = .ok store') : Stocked store'.db := by
  induction rows generalizing index store with
  | nil =>
      cases done
      exact stocked
  | cons first rest ih =>
      unfold bringInRows at done
      obtain ⟨brought, one, others⟩ := (except_bind_ok _ _ _).mp done
      obtain ⟨db, productId, db', created, catalogued, booked, rfl⟩ :=
        bringInRow_ok _ _ _ _ _ _ _ one
      refine ih _ _ ?_ others
      exact row_stocked catalogued booked stocked

theorem bringInRows_brought (batch : ImportBatch) (ids : CommitIds)
    (index : Nat) (rows : List ImportRow) (store store' : ImportDb) (stocked : Stocked store.db)
    (fit : AllFit engine batch store.db rows)
    (done : bringInRows engine batch ids index rows store = .ok store') :
    BroughtIn engine batch rows store.db store'.db := by
  induction rows generalizing index store with
  | nil =>
      cases done
      constructor
      · exact .refl batch _
      · exact ⟨[], (List.append_nil _).symm, fun _ none => (by cases none)⟩
      · intro _
        exact ⟨rfl, [], rfl, (List.append_nil _).symm, fun _ none => (by cases none)⟩
      · intro _
        exact ⟨rfl, [], rfl, fun _ => (Int.add_zero _).symm, fun _ none => (by cases none)⟩
  | cons row rest ih =>
      unfold bringInRows at done
      obtain ⟨brought, one, others⟩ := (except_bind_ok _ _ _).mp done
      obtain ⟨db₁, productId, db₂, created, catalogued, booked, rfl⟩ :=
        bringInRow_ok _ _ _ _ _ _ _ one
      have own := fit.each row (List.mem_cons_self ..)
      have next : AllFit engine batch db₂ rest := by
        constructor
        · intro other member
          apply fits_next catalogued booked stocked other
          · exact fit.each other (List.mem_cons_of_mem _ member)
          · exact fun counted => (List.pairwise_cons.mp (fit.costs counted)).1 other member
        · exact fun counted => (List.pairwise_cons.mp (fit.costs counted)).2
      have later := ih _ _ (row_stocked catalogued booked stocked) next others
      dsimp only at later
      have here := row_beside catalogued booked
      constructor
      · exact here.trans later.beside
      · obtain ⟨products, before⟩ := row_products catalogued booked
        obtain ⟨new, rows, keys⟩ := catalogued_new catalogued
        obtain ⟨new', rows', keys'⟩ := later.catalogue
        refine ⟨new ++ new', ?_, ?_⟩
        · rw [rows', products, rows, List.append_assoc]
        · intro product member
          rcases List.mem_append.mp member with first | second
          · exact ⟨row, List.mem_cons_self .., keys product first⟩
          · obtain ⟨source, inside, key⟩ := keys' product second
            exact ⟨source, List.mem_cons_of_mem _ inside, key⟩
      · intro phones
        obtain ⟨shelves, unit, inserted, mine⟩ := row_unit catalogued booked phones own
        obtain ⟨shelves', carried, sources, units, all⟩ := later.units phones
        refine ⟨shelves'.trans shelves, (row, unit) :: carried, ?_, ?_, ?_⟩
        · rw [List.map_cons, sources]
        · rw [units, inserted, List.map_cons, List.append_assoc]
          rfl
        · intro pair member
          rcases List.mem_cons.mp member with rfl | inside
          · exact mine.later later.beside
          · exact all pair inside
      · intro counted
        obtain ⟨units, quantities, mine⟩ := row_shelf catalogued booked stocked counted own
        obtain ⟨units', booked', sources, quantities', all⟩ := later.shelves counted
        refine ⟨units'.trans units, (row, productId) :: booked', ?_, ?_, ?_⟩
        · rw [List.map_cons, sources]
        · intro key
          rw [quantities' key, quantities key, added, Int.add_assoc]
        · intro pair member
          rcases List.mem_cons.mp member with rfl | inside
          · exact mine.later later.beside
          · exact all pair inside

theorem commitTx_ok (ctx : Ctx) (userId : Id) (batch : ImportBatch)
    (ids : CommitIds) (rows : List ImportRow) (store store' : ImportDb) (imported : Nat)
    (done : commitTx engine ctx userId batch ids rows store = .ok (store', imported)) :
    ∃ own brought, store.importBatches.find? batch.id = some own ∧ own.version = batch.version ∧
      own.status = .preview ∧ bringInRows engine batch ids 0 rows { store with
        importBatches := store.importBatches.update batch.id claimedBatch claimedBatch_id } =
          .ok brought ∧
      store'.db = brought.db ∧ store'.importRows = brought.importRows ∧
      ∀ id, store'.importBatches.find? id = if id = batch.id then
        some (committedBatch ctx.now userId rows.length (claimedBatch own))
          else store.importBatches.find? id := by
  unfold commitTx at done
  split at done
  · cases done
  · next importBatches won =>
    obtain ⟨own, found, guard, rfl⟩ := (Table.swap?_some _ _ _ _ _ _).mp won
    rw [decide_eq_true_eq] at guard
    obtain ⟨brought, rowsDone, ended⟩ := (except_bind_ok _ _ _).mp done
    cases ended
    refine ⟨own, brought, found, guard.2.1, guard.2.2, rowsDone, rfl, rfl, ?_⟩
    intro id
    dsimp only
    rw [Table.find?_update, bringInRows_batches _ _ _ _ _ _ _ rowsDone]
    dsimp only
    rw [Table.find?_update, if_pos rfl, found]
    split
    · rfl
    · next other => rw [Table.find?_update, if_neg other]

end ErpBackend.Imports
