import ErpBackend.Imports.Service

/-!
# What one row of a commit does

For each statement of the loop: what it leaves when it goes through, and when
it goes through.
-/

namespace ErpBackend.Imports

open Foundation Inventory

variable (engine : Engine)

theorem productFor_some (db : Db) (companyId : Id) (parsed : ParsedRow)
    (product : Product) (found : productFor engine db companyId parsed = some product) :
    db.products.find? product.id = some product ∧
      engine.keyOf product = engine.keyFor companyId parsed := by
  have member := engine.pick.mem _ _ found
  rw [Table.mem_filter, decide_eq_true_eq] at member
  exact ⟨(Table.find?_some _ _ _).mpr ⟨member.1, rfl⟩, member.2⟩

theorem productFor_none (db : Db) (companyId : Id) (parsed : ParsedRow)
    (missing : productFor engine db companyId parsed = none) (product : Product)
    (member : product ∈ db.products.rows) :
    engine.keyOf product ≠ engine.keyFor companyId parsed := by
  intro same
  have empty := engine.pick.total _ missing
  have inside : product ∈ db.products.filter (fun product =>
      engine.keyOf product = engine.keyFor companyId parsed) := by
    rw [Table.mem_filter, decide_eq_true_eq]
    exact ⟨member, same⟩
  rw [empty] at inside
  cases inside

theorem newProduct_key (id companyId : Id) (kind : Option ImportKind)
    (parsed : ParsedRow) :
    engine.keyOf (newProduct id companyId kind parsed) = engine.keyFor companyId parsed := rfl

inductive Catalogued (engine : Engine) (newId companyId : Id) (kind : Option ImportKind)
    (parsed : ParsedRow) (db : Db) : Db → Id → Prop
  | found (product : Product) (known : productFor engine db companyId parsed = some product) :
      Catalogued engine newId companyId kind parsed db db product.id
  | created (products : Table Product Product.id)
      (missing : productFor engine db companyId parsed = none)
      (inserted : db.products.insert? (newProduct newId companyId kind parsed) = some products) :
      Catalogued engine newId companyId kind parsed db { db with products } newId

theorem findOrCreateProduct_ok (newId companyId : Id)
    (kind : Option ImportKind) (parsed : ParsedRow) (db db' : Db) (productId : Id)
    (done : findOrCreateProduct engine newId companyId kind parsed db = .ok (db', productId)) :
    Catalogued engine newId companyId kind parsed db db' productId := by
  unfold findOrCreateProduct at done
  split at done
  · next product known =>
    cases done
    exact .found product known
  · next missing =>
    obtain ⟨created, inserted, done⟩ := (except_bind_ok _ _ _).mp done
    cases done
    unfold insertProduct at inserted
    split at inserted
    · cases inserted
    · split at inserted
      · cases inserted
      · next products stored =>
        cases inserted
        exact .created products missing stored

theorem Catalogued.tables {engine : Engine} {newId companyId : Id} {kind : Option ImportKind}
    {parsed : ParsedRow} {db db' : Db} {productId : Id}
    (catalogued : Catalogued engine newId companyId kind parsed db db' productId) :
    db'.units = db.units ∧ db'.stockItems = db.stockItems := by
  cases catalogued with
  | found product known => exact ⟨rfl, rfl⟩
  | created products missing inserted => exact ⟨rfl, rfl⟩

/-- The identifier of an imported unit, in the column its kind says. -/
def bearing (kind : Option ImportKind) (parsed : ParsedRow) : Option String :=
  if kind = some .imei then parsed.imei else if kind = some .serial then parsed.serialNo else none

theorem createUnit_ok (unit : StockUnit) (db db' : Db)
    (done : createUnit engine unit db = .ok db') :
    (identifierTrigger (engine.weighed unit) (db.units.rows.map engine.weighed) = .ok () ∧
      identifierKeys (engine.weighed unit) (db.units.rows.map engine.weighed) = .ok ()) ∧
      ∃ units, db.units.insert? unit = some units ∧ db' = { db with units } := by
  obtain ⟨_, triggered, done⟩ := (except_bind_ok _ _ _).mp done
  split at done
  · cases done
  · split at done
    · cases done
    · obtain ⟨_, keyed, done⟩ := (except_bind_ok _ _ _).mp done
      split at done
      · cases done
      · next units inserted =>
        cases done
        exact ⟨⟨triggered, keyed⟩, units, inserted, rfl⟩

inductive Merged (companyId productId branchId : Id) (amount cost : Int) (db : Db) : Db → Prop
  | more (item : StockItem)
      (found : db.stockItems.find? (companyId, productId, branchId) = some item)
      (keep : ∀ item : StockItem, ({ item with quantity := item.quantity + amount } :
        StockItem).key = item.key) :
      Merged companyId productId branchId amount cost db { db with
        stockItems := db.stockItems.update (companyId, productId, branchId)
          (fun item => { item with quantity := item.quantity + amount }) keep }
  | new (stockItems : Table StockItem StockItem.key)
      (missing : db.stockItems.find? (companyId, productId, branchId) = none)
      (inserted : db.stockItems.insert?
        ⟨companyId, productId, branchId, amount, cost, none, 0, 0⟩ = some stockItems) :
      Merged companyId productId branchId amount cost db { db with stockItems }

theorem mergeStock_ok (companyId productId branchId : Id) (amount cost : Int) (db db' : Db)
    (done : mergeStock companyId productId branchId amount cost db = .ok db') :
    Merged companyId productId branchId amount cost db db' := by
  unfold mergeStock at done
  split at done
  · next item found =>
    obtain ⟨⟨stocked, matched⟩, updated, done⟩ := (except_bind_ok _ _ _).mp done
    cases done
    unfold updateStock at updated
    rw [found] at updated
    simp only [Option.filter_some, if_true] at updated
    split at updated
    · cases updated
    · cases updated
      exact .more item found _
  · next missing =>
    obtain ⟨_, -, done⟩ := (except_bind_ok _ _ _).mp done
    split at done
    · cases done
    · next stockItems inserted =>
      cases done
      exact .new stockItems missing inserted

theorem linkRow_ok (rowId : Id) (created : Created) (store store' : ImportDb)
    (done : linkRow rowId created store = .ok store') :
    store' = { store with
      importRows := store.importRows.update rowId (linked created) (linked_id created) } := by
  unfold linkRow at done
  split at done
  · cases done
  · cases done
    rfl

inductive Booked (engine : Engine) (batch : ImportBatch) (ids : CommitIds) (index : Nat)
    (row : ImportRow) (productId : Id) (db : Db) : Db → Prop
  | shelved (db' : Db) (counted : batch.kind = some .quantity)
      (merged : Merged batch.companyId productId batch.branchId (row.parsed.quantity.getD 0)
        (costOf row.parsed) db db') :
      Booked engine batch ids index row productId db db'
  | carried (units : Table StockUnit StockUnit.id) (phones : batch.kind ≠ some .quantity)
      (accepted : identifierTrigger (engine.weighed (importedUnit (ids.unit index) batch.companyId
          batch.branchId productId batch.kind row.parsed)) (db.units.rows.map engine.weighed) =
            .ok () ∧
        identifierKeys (engine.weighed (importedUnit (ids.unit index) batch.companyId
          batch.branchId productId batch.kind row.parsed)) (db.units.rows.map engine.weighed) =
            .ok ())
      (inserted : db.units.insert? (importedUnit (ids.unit index) batch.companyId batch.branchId
        productId batch.kind row.parsed) = some units) :
      Booked engine batch ids index row productId db { db with units }

theorem bringInRow_ok (batch : ImportBatch) (ids : CommitIds) (index : Nat)
    (row : ImportRow) (store store' : ImportDb)
    (done : bringInRow engine batch ids index row store = .ok store') :
    ∃ db productId db' created, Catalogued engine (ids.product index) batch.companyId batch.kind
        row.parsed store.db db productId ∧
      Booked engine batch ids index row productId db db' ∧
      store' = { store with
        db := db'
        importRows := store.importRows.update row.id (linked created) (linked_id created) } := by
  obtain ⟨⟨db, productId⟩, catalogued, done⟩ := (except_bind_ok _ _ _).mp done
  have catalogued := findOrCreateProduct_ok _ _ _ _ _ _ _ _ catalogued
  dsimp only at done
  split at done
  · next counted =>
    obtain ⟨stocked, merged, done⟩ := (except_bind_ok _ _ _).mp done
    exact ⟨db, productId, stocked, _, catalogued,
      .shelved stocked counted (mergeStock_ok _ _ _ _ _ _ _ merged), linkRow_ok _ _ _ _ done⟩
  · next phones =>
    obtain ⟨stocked, unit, done⟩ := (except_bind_ok _ _ _).mp done
    obtain ⟨accepted, units, inserted, rfl⟩ := createUnit_ok _ _ _ _ unit
    exact ⟨db, productId, _, _, catalogued, .carried units phones accepted inserted,
      linkRow_ok _ _ _ _ done⟩

theorem bringInRows_batches (batch : ImportBatch) (ids : CommitIds)
    (index : Nat) (rows : List ImportRow) (store store' : ImportDb)
    (done : bringInRows engine batch ids index rows store = .ok store') :
    store'.importBatches = store.importBatches := by
  induction rows generalizing index store with
  | nil =>
      cases done
      rfl
  | cons first rest ih =>
      unfold bringInRows at done
      obtain ⟨brought, one, others⟩ := (except_bind_ok _ _ _).mp done
      obtain ⟨db, productId, db', created, catalogued, booked, rfl⟩ :=
        bringInRow_ok _ _ _ _ _ _ _ one
      have kept := ih _ _ others
      exact kept

end ErpBackend.Imports
