import ErpBackend.Catalog.Service
import ErpBackend.Imports.Faithful
import ErpBackend.Imports.Previews

/-!
# Phones are units, everything else is counted

A catalogue edit changes the mode of a product only where nothing is booked on
it. An import books on whatever product has the name: units and shelves stay
apart where every product a sheet meets is tracked the way the sheet counts.
-/

namespace ErpBackend.Catalog

open Foundation Imports

/-- The product is the company's, and counted by quantity or not. -/
def TrackedAs (db : Db) (counted : Bool) (companyId productId : Id) : Prop :=
  ∃ product, db.products.find? productId = some product ∧ product.companyId = companyId ∧
    decide (product.trackingType = .quantity) = counted

/-- Units belong to products tracked one by one, stock rows to products that are counted. -/
structure KeptApart (db : Db) : Prop where
  units : ∀ unit ∈ db.units.rows, TrackedAs db false unit.companyId unit.productId
  shelves : ∀ item ∈ db.stockItems.rows, TrackedAs db true item.companyId item.productId

def SameModes (db db' : Db) : Prop :=
  ∀ counted companyId productId, TrackedAs db counted companyId productId →
    TrackedAs db' counted companyId productId

theorem KeptApart.sameModes {db db' : Db} (apart : KeptApart db) (modes : SameModes db db')
    (units : db'.units = db.units) (shelves : db'.stockItems = db.stockItems) :
    KeptApart db' := by
  constructor
  · intro unit member
    rw [units] at member
    exact modes _ _ _ (apart.units unit member)
  · intro item member
    rw [shelves] at member
    exact modes _ _ _ (apart.shelves item member)

theorem insert_sameModes (db : Db) (product : Product) (products : Table Product Product.id)
    (inserted : db.products.insert? product = some products) :
    SameModes db { db with products } := by
  intro counted companyId productId tracked
  obtain ⟨known, found, same⟩ := tracked
  exact ⟨known, Table.find?_insert_of_found _ _ _ inserted _ _ found, same⟩

def counts (batch : ImportBatch) : Bool := batch.kind = some .quantity

/-- A row finds no product, or one that is tracked the way the sheet counts. -/
def RowSuits (engine : Engine) (batch : ImportBatch) (db : Db) (row : ImportRow) : Prop :=
  ∀ product ∈ productFor engine db batch.companyId row.parsed,
    decide (product.trackingType = .quantity) = counts batch

variable (batch : ImportBatch)

theorem trackingOf_counts :
    decide (trackingOf batch.kind = .quantity) = counts batch := by
  unfold counts trackingOf
  cases batch.kind with
  | none => rfl
  | some kind => cases kind <;> rfl

variable (engine : Engine)

theorem catalogued_tracked (newId : Id) (batch : ImportBatch)
    (row : ImportRow) (db db' : Db) (productId : Id) (suits : RowSuits engine batch db row)
    (catalogued : Catalogued engine newId batch.companyId batch.kind row.parsed db db' productId) :
    TrackedAs db' (counts batch) batch.companyId productId ∧ SameModes db db' := by
  cases catalogued with
  | found product known =>
      obtain ⟨found, same⟩ := productFor_some _ _ _ _ _ known
      refine ⟨⟨product, found, ?_, suits product known⟩, fun _ _ _ tracked => tracked⟩
      exact congrArg ProductKey.companyId same
  | created products missing inserted =>
      refine ⟨⟨Imports.newProduct newId batch.companyId batch.kind row.parsed, ?_, rfl,
        trackingOf_counts batch⟩, insert_sameModes _ _ _ inserted⟩
      rw [Table.find?_insert _ _ _ inserted]
      exact if_pos rfl

theorem booked_apart (ids : CommitIds) (index : Nat)
    (row : ImportRow) (productId : Id) (db db' : Db) (apart : KeptApart db)
    (tracked : TrackedAs db (counts batch) batch.companyId productId)
    (booked : Booked engine batch ids index row productId db db') : KeptApart db' := by
  cases booked with
  | shelved db' counted merged =>
      have counting : counts batch = true := decide_eq_true counted
      rw [counting] at tracked
      cases merged with
      | more item found keep =>
          refine ⟨apart.units, fun other member => ?_⟩
          rcases (Table.mem_update _ _ _ keep _).mp member with ⟨old, -⟩ | ⟨old, present, rfl⟩
          · exact apart.shelves other old
          · exact apart.shelves old (Table.mem_of_find? _ _ _ present)
      | new stockItems missing inserted =>
          refine ⟨apart.units, fun other member => ?_⟩
          rcases List.mem_append.mp ((Table.insert?_some _ _ _ inserted).1 ▸ member) with old | new
          · exact apart.shelves other old
          · rw [List.mem_singleton.mp new]
            exact tracked
  | carried units phones accepted inserted =>
      have counting : counts batch = false := decide_eq_false phones
      rw [counting] at tracked
      refine ⟨fun other member => ?_, apart.shelves⟩
      rcases List.mem_append.mp ((Table.insert?_some _ _ _ inserted).1 ▸ member) with old | new
      · exact apart.units other old
      · rw [List.mem_singleton.mp new]
        exact tracked

theorem booked_products (ids : CommitIds) (index : Nat)
    (row : ImportRow) (productId : Id) (db db' : Db)
    (booked : Booked engine batch ids index row productId db db') : db'.products = db.products := by
  cases booked with
  | shelved db' counted merged =>
      cases merged with
      | more item found keep => rfl
      | new stockItems missing inserted => rfl
  | carried units phones accepted inserted => rfl

theorem catalogued_suits (newId : Id) (batch : ImportBatch)
    (row other : ImportRow) (db db' : Db) (productId : Id)
    (catalogued : Catalogued engine newId batch.companyId batch.kind row.parsed db db' productId)
    (suits : RowSuits engine batch db other) : RowSuits engine batch db' other := by
  cases catalogued with
  | found product known => exact suits
  | created products missing inserted =>
      intro product picked
      have rows := (Table.insert?_some _ _ _ inserted).1
      by_cases same : engine.keyFor batch.companyId other.parsed =
          engine.keyFor batch.companyId row.parsed
      · -- only the new product has that name
        obtain ⟨found, named⟩ := productFor_some _ _ _ _ _ picked
        have member := Table.mem_of_find? _ _ _ found
        dsimp only at member
        rw [rows] at member
        rcases List.mem_append.mp member with old | new
        · exact absurd (named.trans same) (productFor_none _ _ _ _ missing product old)
        · rw [List.mem_singleton.mp new]
          exact trackingOf_counts batch
      · -- a product of another name leaves what is found for this one
        apply suits product
        unfold productFor Table.filter at picked ⊢
        dsimp only at picked
        rw [rows, List.filter_append, List.filter_cons_of_neg, List.filter_nil,
          List.append_nil] at picked
        · exact picked
        · rw [newProduct_key, decide_eq_true_eq]
          exact fun equal => same equal.symm

theorem bringInRows_apart (ids : CommitIds) (index : Nat)
    (rows : List ImportRow) (store store' : ImportDb) (apart : KeptApart store.db)
    (suits : ∀ row ∈ rows, RowSuits engine batch store.db row)
    (done : bringInRows engine batch ids index rows store = .ok store') :
    KeptApart store'.db := by
  induction rows generalizing index store with
  | nil =>
      cases done
      exact apart
  | cons first rest ih =>
      unfold bringInRows at done
      obtain ⟨brought, one, others⟩ := (except_bind_ok _ _ _).mp done
      obtain ⟨db, productId, db', created, catalogued, booked, rfl⟩ :=
        bringInRow_ok _ _ _ _ _ _ _ one
      obtain ⟨tracked, modes⟩ := catalogued_tracked _ _ _ _ _ _ _
        (suits first (List.mem_cons_self ..)) catalogued
      obtain ⟨units, shelves⟩ := catalogued.tables
      have found := apart.sameModes modes units shelves
      apply ih (index + 1) _ (booked_apart _ _ _ _ _ _ _ _ found tracked booked) _ others
      intro row member product picked
      have later := catalogued_suits _ _ _ _ _ _ _ _ catalogued
        (suits row (List.mem_cons_of_mem _ member))
      apply later product
      unfold productFor at picked ⊢
      rw [booked_products _ _ _ _ _ _ _ _ booked] at picked
      exact picked

inductive Call where
  | create (sweeping : Sweeping) (ctx : Ctx) (mayPrice : Bool) (ids : ProductIds)
      (dto : CreateProductDto)
  | update (sweeping : Sweeping) (ctx : Ctx) (eventId id : Id) (dto : UpdateProductDto)
  | commit (ctx : Ctx) (ids : CommitIds) (id : Id) (expectedVersion : Option Nat)

def Call.request (engine : Engine) : Call → Request Unit
  | .create sweeping ctx mayPrice ids dto =>
      (Catalog.create engine sweeping ctx mayPrice ids dto).void
  | .update sweeping ctx eventId id dto => (Catalog.update engine sweeping ctx eventId id dto).void
  | .commit ctx ids id expectedVersion =>
      (importing (Imports.commit engine ctx ids id expectedVersion)).void

def Call.serve (engine : Engine) (store : CatalogDb) (call : Call) : CatalogDb :=
  ((call.request engine).run store).1

/-- Every row of the batch finds no product, or one tracked the way the sheet counts. -/
def Suits (engine : Engine) (store : CatalogDb) : Call → Prop
  | .commit ctx _ id _ => ∀ branchId ∈ ctx.branchId,
      ∀ batch ∈ findBatch store.imports ctx.companyId branchId id, batch.status = .preview →
        ∀ row ∈ importable (rowsOf store.imports batch.id), RowSuits engine batch store.db row
  | _ => True

/-- Whatever it answers, the units and shelves it leaves are apart. -/
abbrev Leaves {α : Type} (p : Request α) (store : CatalogDb) : Prop :=
  p.Ensures (fun store' _ => KeptApart store'.db) store

variable (sweeping : Sweeping)

theorem processNow_imports (store : CatalogDb) :
    ((processNow sweeping).run store).1.imports = store.imports ∧
      ((processNow sweeping).run store).2 = .ok () := by
  unfold processNow
  rw [Prog.quietly_run, Prog.focus_run CatalogDb.memory CatalogDb.withMemory (fun _ => ())
    (fun _ _ => rfl) (fun _ _ _ => rfl) (fun _ => rfl)]
  exact ⟨rfl, rfl⟩

theorem leaves_processNow {α : Type} (sweeping : Sweeping) (f : Unit → Request α)
    (store : CatalogDb)
    (rest : ∀ store', store'.imports = store.imports → Leaves (f ()) store') :
    Leaves (processNow sweeping >>= f) store := by
  obtain ⟨same, answer⟩ := processNow_imports sweeping store
  rw [Leaves, Prog.ensures_bind, Prog.Ensures, answer]
  exact rest _ same

theorem createTx_apart (ids : ProductIds) (product : Product)
    (store store' : CatalogDb) (apart : KeptApart store.db)
    (done : createTx engine ids product store = .ok store') : KeptApart store'.db := by
  obtain ⟨db, created, ended⟩ := (except_bind_ok _ _ _).mp done
  cases ended
  obtain ⟨products, inserted, rfl⟩ := insertProduct_ok _ _ _ _ created
  exact apart.sameModes (insert_sameModes _ _ _ inserted) rfl rfl

variable (ctx : Ctx)

theorem reads_assertBarcodeFree (barcode : String)
    (excludeProductId : Option Id) :
    (assertBarcodeFree engine ctx barcode excludeProductId).Reads :=
  Prog.reads_bind _ _ (Prog.reads_read _ _) (fun _ => Prog.reads_require _ _)

theorem reads_modeOfNew (dto : CreateProductDto) : (modeOfNew ctx dto).Reads := by
  unfold modeOfNew
  split
  · apply Prog.reads_bind _ _ (Prog.reads_read _ _)
    intro found
    apply Prog.reads_bind _ _ (Prog.reads_expect _ _)
    intro category
    exact Prog.reads_bind _ _ (Prog.reads_liftExcept _) (fun _ => Prog.reads_pure _)
  · split
    · exact Prog.reads_bind _ _ (Prog.reads_liftExcept _) (fun _ => Prog.reads_pure _)
    · exact Prog.reads_pure _

theorem create_ensures (ctx : Ctx) (mayPrice : Bool)
    (ids : ProductIds) (dto : CreateProductDto) (store : CatalogDb)
    (post : CatalogDb → Except Refusal Product → Prop)
    (refused : ∀ refusal, post store (.error refusal))
    (stored : ∀ mode created store',
      createTx engine ids (newProduct ctx ids.product dto mode) store = .ok created →
        store'.imports = created.imports →
          post store' (.ok (newProduct ctx ids.product dto mode))) :
    (create engine sweeping ctx mayPrice ids dto).Ensures post store := by
  unfold create
  refine (Prog.ensures_require _ _ _ _ _).mpr ⟨fun _ => ?_, fun _ => refused _⟩
  refine (Prog.ensures_liftExcept _ _ _ _).mpr ⟨fun _ _ => ?_, fun _ _ => refused _⟩
  have written : ∀ a : Option TrackingType × List AttributeDef, Prog.Ensures (do
      let _ ← .liftExcept (validateValues a.2 dto.specifications)
      .commit () (createTx engine ids (newProduct ctx ids.product dto a.1))
      processNow sweeping
      pure (newProduct ctx ids.product dto a.1)) post store := by
    intro a
    refine (Prog.ensures_liftExcept _ _ _ _).mpr ⟨fun _ _ => ?_, fun _ _ => refused _⟩
    refine (Prog.ensures_commit _ _ _ _ _).mpr ⟨fun created done => ?_, fun _ _ => refused _⟩
    obtain ⟨same, answer⟩ := processNow_imports sweeping created
    rw [Prog.ensures_bind, Prog.Ensures, answer]
    exact stored a.1 created _ done same
  dsimp only
  split
  · exact Prog.ensures_reads _ _ _ _ (reads_modeOfNew ctx dto) written refused
  · apply Prog.ensures_reads _ _ _ _ (reads_assertBarcodeFree _ _ _ _) _ refused
    intro _
    exact Prog.ensures_reads _ _ _ _ (reads_modeOfNew ctx dto) written refused

theorem leaves_create (ctx : Ctx) (mayPrice : Bool)
    (ids : ProductIds) (dto : CreateProductDto) (store : CatalogDb) (apart : KeptApart store.db) :
    Leaves (create engine sweeping ctx mayPrice ids dto) store := by
  apply create_ensures _ _ _ _ _ _ _ _ (fun _ => apart)
  intro mode created store' done same
  show KeptApart store'.imports.db
  rw [same]
  exact createTx_apart _ _ _ _ _ apart done

theorem patched_tracked (db : Db) (before : Product) (patch : ProductPatch)
    (found : db.products.find? before.id = some before) (counted : Bool) (companyId productId : Id)
    (plain : productId = before.id → companyId = before.companyId → patch.trackingType = none)
    (tracked : TrackedAs db counted companyId productId) :
    TrackedAs { db with
      products := db.products.update before.id (patched patch) (patched_id patch) }
        counted companyId productId := by
  obtain ⟨product, held, company, mode⟩ := tracked
  have after := Table.find?_update_of_found db.products before.id (patched patch)
    (patched_id patch) productId product held
  by_cases this : productId = before.id
  · rw [if_pos this] at after
    subst this
    obtain rfl : before = product := Option.some.inj (found.symm.trans held)
    refine ⟨_, after, company, ?_⟩
    have unset := plain rfl company.symm
    simp only [patched, unset, Option.getD_none]
    exact mode
  · rw [if_neg this] at after
    exact ⟨_, after, company, mode⟩

theorem hasHistory_unit (db : Db) (unit : StockUnit) (member : unit ∈ db.units.rows) :
    hasHistory db unit.companyId unit.productId = true := by
  have listed : db.units.any (fun other => other.companyId = unit.companyId ∧
      other.productId = unit.productId) = true :=
    (Table.any_eq_true _ _).mpr ⟨unit, member, by simp⟩
  unfold hasHistory
  rw [listed]
  rfl

theorem hasHistory_shelf (db : Db) (item : StockItem) (member : item ∈ db.stockItems.rows) :
    hasHistory db item.companyId item.productId = true := by
  have listed : db.stockItems.any (fun other => other.companyId = item.companyId ∧
      other.productId = item.productId) = true :=
    (Table.any_eq_true _ _).mpr ⟨item, member, by simp⟩
  unfold hasHistory
  rw [listed, Bool.or_true]
  rfl

theorem updateTx_apart (eventId : Id) (before : Product)
    (patch : ProductPatch) (store store' : CatalogDb) (apart : KeptApart store.db)
    (found : store.db.products.find? before.id = some before)
    (unbooked : patch.trackingType.isSome → hasHistory store.db before.companyId before.id = false)
    (done : updateTx engine ctx eventId before patch store = .ok store') :
    KeptApart store'.db := by
  obtain ⟨db, updated, ended⟩ := (except_bind_ok _ _ _).mp done
  cases ended
  obtain rfl := updateProduct_ok _ _ _ _ _ _ updated
  have plain : hasHistory store.db before.companyId before.id = true →
      patch.trackingType = none := by
    intro booked
    cases edited : patch.trackingType with
    | none => rfl
    | some mode =>
        rw [unbooked (by rw [edited]; rfl)] at booked
        cases booked
  constructor
  · intro unit member
    apply patched_tracked store.db before patch found _ _ _ _ (apart.units unit member)
    intro product company
    exact plain (product ▸ company ▸ hasHistory_unit store.db unit member)
  · intro item member
    apply patched_tracked store.db before patch found _ _ _ _ (apart.shelves item member)
    intro product company
    exact plain (product ▸ company ▸ hasHistory_shelf store.db item member)

theorem leaves_changeTracking {α : Type} (ctx : Ctx) (before : Product)
    (categoryMode clientMode : Option TrackingType) (f : Option TrackingType → Request α)
    (store : CatalogDb) (apart : KeptApart store.db)
    (rest : ∀ next : Option TrackingType,
      (next.isSome → hasHistory store.db ctx.companyId before.id = false) → Leaves (f next) store) :
    Leaves (changeTracking ctx before categoryMode clientMode >>= f) store := by
  unfold changeTracking
  rw [Prog.bind_assoc]
  refine (Prog.ensures_liftExcept _ _ _ _).mpr ⟨fun next _ => ?_, fun _ _ => apart⟩
  split
  · exact rest none (fun changed => by cases changed)
  · rw [Prog.bind_assoc]
    refine (Prog.ensures_liftExcept _ _ _ _).mpr ⟨fun _ _ => ?_, fun _ _ => apart⟩
    rw [Prog.bind_assoc, Prog.ensures_read, Prog.bind_assoc]
    refine (Prog.ensures_liftExcept _ _ _ _).mpr ⟨fun _ safe => ?_, fun _ _ => apart⟩
    apply rest (some next)
    intro _
    unfold assertTrackingChangeSafe at safe
    split at safe
    · next free => simpa using free
    · cases safe

theorem reads_modeAfter (before : Product) (categoryId : Option (Option Id)) :
    (modeAfter ctx before categoryId).Reads := by
  unfold modeAfter
  split
  · exact Prog.reads_pure _
  · apply Prog.reads_bind _ _ (Prog.reads_read _ _)
    intro found
    exact Prog.reads_bind _ _ (Prog.reads_expect _ _) (fun _ => Prog.reads_pure _)
  · split
    · exact Prog.reads_pure _
    · exact Prog.reads_bind _ _ (Prog.reads_read _ _) (fun _ => Prog.reads_pure _)

theorem reads_changeBarcode (before : Product)
    (raw : Option String) : (changeBarcode engine ctx before raw).Reads := by
  unfold changeBarcode
  split
  · exact Prog.reads_pure _
  · dsimp only
    split
    · exact Prog.reads_pure _
    · split
      · exact Prog.reads_pure _
      · exact Prog.reads_bind _ _ (reads_assertBarcodeFree _ _ _ _) (fun _ => Prog.reads_pure _)

theorem leaves_requireProduct (id : Id) (store : CatalogDb)
    (apart : KeptApart store.db) : Leaves (requireProduct ctx id) store := by
  unfold requireProduct
  rw [Leaves, Prog.ensures_read]
  cases ownProduct store.db ctx.companyId id with
  | none => exact apart
  | some product => exact apart

theorem leaves_update (ctx : Ctx) (eventId id : Id)
    (dto : UpdateProductDto) (store : CatalogDb) (apart : KeptApart store.db) :
    Leaves (update engine sweeping ctx eventId id dto) store := by
  unfold update requireProduct
  rw [Prog.bind_assoc, Leaves, Prog.ensures_read]
  refine (Prog.ensures_expect _ _ _ _ _).mpr ⟨fun before own => ?_, fun _ => apart⟩
  obtain ⟨present, company⟩ := Option.filter_eq_some_iff.mp own
  obtain rfl := Table.key_of_find? _ _ _ present
  rw [decide_eq_true_eq] at company
  dsimp only
  refine (Prog.ensures_require _ _ _ _ _).mpr ⟨fun _ => ?_, fun _ => apart⟩
  refine (Prog.ensures_require _ _ _ _ _).mpr ⟨fun _ => ?_, fun _ => apart⟩
  refine (Prog.ensures_liftExcept _ _ _ _).mpr ⟨fun _ _ => ?_, fun _ _ => apart⟩
  refine Prog.ensures_reads _ _ _ _ (reads_modeAfter ctx before _) (fun mode => ?_)
    (fun _ => apart)
  apply leaves_changeTracking _ _ _ _ _ _ apart
  intro next unbooked
  refine Prog.ensures_reads _ _ _ _ (reads_changeBarcode engine ctx before _) (fun barcode => ?_)
    (fun _ => apart)
  refine (Prog.ensures_require _ _ _ _ _).mpr ⟨fun _ => ?_, fun _ => apart⟩
  refine (Prog.ensures_commit _ _ _ _ _).mpr ⟨fun updated done => ?_, fun _ _ => apart⟩
  rw [← company] at unbooked
  have kept := updateTx_apart _ _ _ _ _ _ _ apart present unbooked done
  split
  · apply leaves_processNow
    intro store' same
    apply leaves_requireProduct
    show KeptApart store'.imports.db
    rw [same]
    exact kept
  · exact leaves_requireProduct _ _ _ kept

theorem leaves_commit (ids : CommitIds) (id : Id)
    (expectedVersion : Option Nat) (store : CatalogDb) (apart : KeptApart store.db)
    (suits : Suits engine store (.commit ctx ids id expectedVersion)) :
    (Imports.commit engine ctx ids id expectedVersion).Ensures
      (fun store' _ => KeptApart store'.db) store.imports := by
  unfold Imports.commit
  refine (Prog.ensures_expect _ _ _ _ _).mpr ⟨fun branchId branch => ?_, fun _ => apart⟩
  refine (Prog.ensures_expect _ _ _ _ _).mpr ⟨fun userId _ => ?_, fun _ => apart⟩
  rw [Prog.ensures_read]
  refine (Prog.ensures_expect _ _ _ _ _).mpr ⟨fun read found => ?_, fun _ => apart⟩
  obtain ⟨batch, held, rfl⟩ := Option.map_eq_some_iff.mp found
  refine (Prog.ensures_require _ _ _ _ _).mpr ⟨fun _ => ?_, fun _ => apart⟩
  refine (Prog.ensures_require _ _ _ _ _).mpr ⟨fun reviewing => ?_, fun _ => apart⟩
  refine (Prog.ensures_require _ _ _ _ _).mpr ⟨fun _ => ?_, fun _ => apart⟩
  refine (Prog.ensures_require _ _ _ _ _).mpr ⟨fun _ => ?_, fun _ => apart⟩
  refine (Prog.ensures_transact _ _ _ _ _).mpr ⟨fun committed imported done => ?_,
    fun _ _ => apart⟩
  obtain ⟨own, brought, -, -, -, rows, db, -⟩ := commitTx_ok _ _ _ _ _ _ _ _ _ done
  have kept : KeptApart committed.db := by
    rw [db]
    refine bringInRows_apart _ _ _ _ _ _ _ ?_ ?_ rows
    · exact apart
    · exact suits branchId branch batch held reviewing
  rw [Prog.ensures_bind]
  apply get_ensures
  · exact fun _ _ => kept
  · exact fun _ => kept

theorem serve_apart (store : CatalogDb) (call : Call)
    (apart : KeptApart store.db) (suits : Suits engine store call) :
    KeptApart (call.serve engine store).db := by
  cases call with
  | create sweeping ctx mayPrice ids dto =>
      exact (Prog.ensures_void store _ (fun store' => KeptApart store'.db)).mpr
        (leaves_create engine sweeping ctx mayPrice ids dto store apart)
  | update sweeping ctx eventId id dto =>
      exact (Prog.ensures_void store _ (fun store' => KeptApart store'.db)).mpr
        (leaves_update engine sweeping ctx eventId id dto store apart)
  | commit ctx ids id expectedVersion =>
      apply (Prog.ensures_void store _ (fun store' => KeptApart store'.db)).mpr
      unfold importing Prog.Ensures
      rw [Prog.focus_run CatalogDb.imports CatalogDb.withImports (fun _ => ())
        (fun _ _ => rfl) (fun _ _ _ => rfl) (fun _ => rfl)]
      exact leaves_commit engine ctx ids id expectedVersion store apart suits

/-- One call after another, each of which suits the store it finds. -/
abbrev Served (engine : Engine) : CatalogDb → CatalogDb → Prop :=
  Relation.ReflTransGen (fun store store' =>
    ∃ call, Suits engine store call ∧ store' = call.serve engine store)

theorem served_apart (engine : Engine) (store store' : CatalogDb) (apart : KeptApart store.db)
    (served : Served engine store store') : KeptApart store'.db := by
  induction served with
  | refl => exact apart
  | tail _ last ih =>
      obtain ⟨call, suits, rfl⟩ := last
      exact serve_apart engine _ call ih suits

def countedCase : Product where
  id := 300
  companyId := 1
  brand := "Samsung"
  model := "A15"
  variant := none
  trackingType := .quantity
  defaultPrice := none

def phoneSheet : List (List String) :=
  [["IMEI", "Brand", "Model", "Cost"], ["490154203237518", "Samsung", "A15", "100"]]

/-- A sheet of phones under review, in a shop with these products. -/
def reviewing (products : Table Product Product.id) : CatalogDb where
  imports := ((preview binary clerk previewIds "phones.csv" phoneSheet none).run
    { db := { products } }).1
  memory := { clock := 0 }

def bringIn : Call := .commit clerk commitIds 900 (some 0)

def oldShop : CatalogDb := reviewing ⟨[countedCase], by decide⟩

theorem bare_apart (products : Table Product Product.id)
    (units : (reviewing products).db.units.rows = [])
    (stock : (reviewing products).db.stockItems.rows = []) : KeptApart (reviewing products).db := by
  constructor
  · simp [units]
  · simp [stock]

theorem phones_on_counted :
    ¬ ∀ (engine : Engine) (store : CatalogDb), KeptApart store.db → ∀ calls : List Call,
      KeptApart (calls.foldl (Call.serve engine) store).db := by
  intro claim
  have apart : KeptApart oldShop.db := bare_apart _ (by decide +kernel) (by decide +kernel)
  have after : KeptApart (bringIn.serve binary oldShop).db := claim binary oldShop apart [bringIn]
  have booked : (bringIn.serve binary oldShop).db.units.rows.map StockUnit.productId = [300] := by
    decide +kernel
  have mode : ((bringIn.serve binary oldShop).db.products.find? 300).map Product.trackingType =
      some .quantity := by
    decide +kernel
  obtain ⟨unit, member, product⟩ := List.mem_map.mp (booked ▸ List.mem_singleton_self 300)
  obtain ⟨known, found, -, single⟩ := after.units unit member
  rw [product] at found
  rw [found, Option.map_some, Option.some.injEq] at mode
  rw [mode] at single
  cases single

def countedPhone : Product := { countedCase with trackingType := .imei }

def phoneShop : CatalogDb := reviewing ⟨[countedPhone], by decide⟩

/-- Where the shop has no such product, the phone gets one of its own; where it has one of its
kind, the phone is one of it. -/
theorem served_apart_shops :
    (KeptApart (bringIn.serve binary (reviewing .empty)).db ∧
      (bringIn.serve binary (reviewing .empty)).db.units.rows.map StockUnit.productId = [2000]) ∧
    KeptApart (bringIn.serve binary phoneShop).db ∧
      (bringIn.serve binary phoneShop).db.units.rows.map StockUnit.productId = [300] := by
  refine ⟨⟨served_apart binary (reviewing .empty) _ ?_ (.single ⟨bringIn, ?_, rfl⟩), by
    decide +kernel⟩, served_apart binary phoneShop _ ?_ (.single ⟨bringIn, ?_, rfl⟩), by
    decide +kernel⟩
  · exact bare_apart _ (by decide +kernel) (by decide +kernel)
  · intro branchId _ batch _ _ row _ product picked
    have none : (reviewing .empty).db.products.rows = [] := rfl
    exact absurd (Table.mem_of_find? _ _ _ (productFor_some _ _ _ _ _ picked).1) (by simp [none])
  · exact bare_apart _ (by decide +kernel) (by decide +kernel)
  · intro branchId _ batch found _ row _ product picked
    have kinds : ∀ batch ∈ phoneShop.imports.importBatches.rows, counts batch = false := by
      decide +kernel
    have products : ∀ product ∈ phoneShop.db.products.rows, product.trackingType = .imei := by
      decide +kernel
    have imei := products product
      (Table.mem_of_find? _ _ _ (productFor_some _ _ _ _ _ picked).1)
    rw [imei, kinds batch (Table.mem_of_find? _ _ _ (Option.filter_eq_some_iff.mp found).1)]
    rfl

end ErpBackend.Catalog
