import ErpBackend.Pricing.History

/-!
# The ladder

The screens and the till read the rungs in queries of their own, and hand them to one
resolver. What a screen says is beneath a price is what the next screen shows once the price
is gone.
-/

namespace ErpBackend.Pricing

open Foundation Inventory

def unitForSale (db : Db) (unit : StockUnit) : SaleInput :=
  .unit unit.id unit.productId unit.branchId
    ((db.products.find? unit.productId).bind Product.defaultPrice)

def stockForSale (db : Db) (companyId productId branchId : Id) : SaleInput :=
  .quantity productId ((findStock db companyId productId branchId).bind row)
    ((db.products.find? productId).bind Product.defaultPrice)

def Shows (screen : EffectivePrice) (resolved : ResolvedPrice) : Prop :=
  screen.price = resolved.price ∧ screen.source = resolved.source ∧
    screen.version = resolved.version

theorem present_shows (resolved : ResolvedPrice) (branchId : Id) (productDefault : Option Int)
    (variantBeneath : Option BranchVariantPrice) :
    Shows (present resolved branchId productDefault variantBeneath) resolved :=
  ⟨rfl, rfl, rfl⟩

theorem resolvePrice_untyped (resolved : Option Int) (price : Int)
    (done : Sales.resolvePrice none resolved = .ok price) : resolved = some price := by
  cases resolved with
  | none => cases done
  | some known =>
      cases done
      rfl

theorem prepareUnit_charges {companyId branchId : Id} {db : Db} {line : Sales.SaleLineDto}
    {identifier : String} {prepared : Sales.PreparedLine} (untyped : line.price = none)
    (done : Sales.prepareUnit companyId branchId db line identifier = .ok prepared) :
    ∃ unit, Sales.findSellable db companyId identifier = some unit ∧
      prepared.unitId = some unit.id ∧
        (resolveForSaleTx companyId (unitForSale db unit) branchId db).price =
          some prepared.price := by
  unfold Sales.prepareUnit at done
  split at done
  · cases done
  · next unit found =>
    obtain ⟨_, -, done⟩ := (except_bind_ok _ _ _).mp done
    obtain ⟨price, known, done⟩ := (except_bind_ok _ _ _).mp done
    rw [untyped] at known
    cases done
    exact ⟨unit, found, rfl, resolvePrice_untyped _ _ known⟩

theorem prepareStock_charges {companyId branchId productId : Id} {db : Db}
    {line : Sales.SaleLineDto} {prepared : Sales.PreparedLine} (untyped : line.price = none)
    (done : Sales.prepareStock companyId branchId db line productId = .ok prepared) :
    (resolveForSaleTx companyId (stockForSale db companyId productId branchId) branchId db).price =
      some prepared.price := by
  unfold Sales.prepareStock at done
  dsimp only at done
  split at done
  · cases done
  · next stock found =>
    split at done
    · cases done
    · obtain ⟨price, known, done⟩ := (except_bind_ok _ _ _).mp done
      rw [untyped] at known
      cases done
      have shelf : findStock db companyId productId branchId = some stock := found
      rw [stockForSale, shelf]
      exact resolvePrice_untyped _ _ known

structure Assigned (s : Store) (ctx : Ctx) (branchId : Id) : Prop where
  named : ctx.branchId = some branchId
  member : ∃ userId, ctx.userId = some userId ∧ s.userBranches.any (fun row =>
    row.companyId = ctx.companyId ∧ row.userId = userId ∧ row.branchId = branchId) = true

/-- The prices of a phone, one of its variant, and none of its own. -/
def unitScreen (db : Db) (companyId branchId : Id) (unit : StockUnit) : EffectivePrice :=
  let productDefault := (db.products.find? unit.productId).bind Product.defaultPrice
  let variant := findBranchVariant db companyId unit.productId branchId
  present (resolveSerialized branchId unit.branchId (findOverride db companyId unit.id) variant
    productDefault) branchId productDefault variant

def productScreen (db : Db) (companyId branchId : Id) (product : Product) : EffectivePrice :=
  if product.trackingType = .quantity then
    present (resolveQuantity ((findStock db companyId product.id branchId).bind row)
      product.defaultPrice) branchId product.defaultPrice none
  else
    present (resolveProductLevel (findBranchVariant db companyId product.id branchId)
      product.defaultPrice) branchId product.defaultPrice none

variable (s s' : Store)

variable (ctx : Ctx)

theorem activeBranch_answers (branchId : Id) :
    (activeBranch ctx).run s = (s', .ok branchId) ↔ s = s' ∧ Assigned s ctx branchId := by
  simp only [activeBranch, Prog.run_bind_ok, Prog.run_expect_ok, Prog.run_read_ok,
    Prog.run_require_ok, Prog.run_pure_ok]
  constructor
  · rintro ⟨_, _, ⟨rfl, named⟩, _, userId, ⟨rfl, known⟩, _, _, ⟨rfl, rfl⟩, _, _, ⟨rfl, member⟩,
      rfl, rfl⟩
    exact ⟨rfl, named, userId, known, member⟩
  · rintro ⟨rfl, named, userId, known, member⟩
    exact ⟨s, branchId, ⟨rfl, named⟩, s, userId, ⟨rfl, known⟩, s, _, ⟨rfl, rfl⟩, s, (),
      ⟨rfl, member⟩, rfl, rfl⟩

theorem loadProduct_answers (productId : Id) (product : Product) :
    (loadProduct ctx productId).run s = (s', .ok product) ↔
      s = s' ∧ findProduct s.db ctx.companyId productId = some product := by
  simp only [loadProduct, Prog.run_bind_ok, Prog.run_expect_ok, Prog.run_read_ok]
  constructor
  · rintro ⟨_, _, ⟨rfl, rfl⟩, rfl, found⟩
    exact ⟨rfl, found⟩
  · rintro ⟨rfl, found⟩
    exact ⟨s, _, ⟨rfl, rfl⟩, rfl, found⟩

theorem loadUnit_answers (identifier : Option String) (unit : StockUnit)
    (productDefault : Option Int) :
    (loadUnit ctx identifier).run s = (s', .ok (unit, productDefault)) ↔
      s = s' ∧ loadUnitByIdentifier s.db ctx.companyId identifier = .ok unit ∧
        (s.db.products.find? unit.productId).bind Product.defaultPrice = productDefault := by
  simp only [loadUnit, Prog.run_bind_ok, Prog.run_liftExcept_ok, Prog.run_read_ok]
  constructor
  · rintro ⟨_, _, ⟨rfl, rfl⟩, rfl, loaded⟩
    obtain ⟨found, load, same⟩ := (except_map_ok _ _ _).mp loaded
    cases same
    exact ⟨rfl, load, rfl⟩
  · rintro ⟨rfl, load, rfl⟩
    exact ⟨s, _, ⟨rfl, rfl⟩, rfl, (except_map_ok _ _ _).mpr ⟨unit, load, rfl⟩⟩

theorem getUnitPricing_answers (identifier : Option String)
    (pricing : UnitPricing) :
    (getUnitPricing ctx identifier).run s = (s', .ok pricing) ↔
      s = s' ∧ ∃ branchId unit, Assigned s ctx branchId ∧
        loadUnitByIdentifier s.db ctx.companyId identifier = .ok unit ∧
          (⟨unitScreen s.db ctx.companyId branchId unit, unit.id, unit.status,
            unit.status = .inStock ∧ unit.branchId = branchId⟩ : UnitPricing) = pricing := by
  simp only [getUnitPricing, Prog.run_bind_ok, activeBranch_answers, Prog.run_read_ok,
    Prog.run_pure_ok]
  constructor
  · rintro ⟨_, branchId, ⟨rfl, assigned⟩, _, ⟨unit, productDefault⟩, loaded, _, _, ⟨rfl, rfl⟩, _, _,
      ⟨rfl, rfl⟩, rfl, same⟩
    obtain ⟨rfl, load, rfl⟩ := (loadUnit_answers _ _ _ _ _ _).mp loaded
    exact ⟨rfl, branchId, unit, assigned, load, same⟩
  · rintro ⟨rfl, branchId, unit, assigned, load, same⟩
    exact ⟨s, branchId, ⟨rfl, assigned⟩, s, (unit, _),
      (loadUnit_answers _ _ _ _ _ _).mpr ⟨rfl, load, rfl⟩, s, _, ⟨rfl, rfl⟩, s, _, ⟨rfl, rfl⟩, rfl,
      same⟩

theorem getProductPricing_answers (productId : Id)
    (pricing : EffectivePrice) :
    (getProductPricing ctx productId).run s = (s', .ok pricing) ↔
      s = s' ∧ ∃ branchId product, Assigned s ctx branchId ∧
        findProduct s.db ctx.companyId productId = some product ∧
          productScreen s.db ctx.companyId branchId product = pricing := by
  have shown : ∀ branchId product (t : Store),
      (if product.trackingType = .quantity then do
        let stock ← .read .other (fun s => findStock s.db ctx.companyId product.id branchId)
        let resolved := resolveQuantity (stock.bind row) product.defaultPrice
        pure (present resolved branchId product.defaultPrice none)
      else do
        let variant ← .read .other (fun s =>
          findBranchVariant s.db ctx.companyId product.id branchId)
        let resolved := resolveProductLevel variant product.defaultPrice
        pure (present resolved branchId product.defaultPrice none) : Request EffectivePrice).run t =
          (t, .ok (productScreen t.db ctx.companyId branchId product)) := by
    intro branchId product t
    by_cases counted : product.trackingType = .quantity
    · rw [if_pos counted, productScreen, if_pos counted]
      rfl
    · rw [if_neg counted, productScreen, if_neg counted]
      rfl
  simp only [getProductPricing, Prog.run_bind_ok, activeBranch_answers, loadProduct_answers, shown,
    Prod.mk.injEq, Except.ok.injEq]
  constructor
  · rintro ⟨_, branchId, ⟨rfl, assigned⟩, _, product, ⟨rfl, found⟩, rfl, same⟩
    exact ⟨rfl, branchId, product, assigned, found, same⟩
  · rintro ⟨rfl, branchId, product, assigned, found, same⟩
    exact ⟨s, branchId, ⟨rfl, assigned⟩, s, product, ⟨rfl, found⟩, rfl, same⟩

/-- The price of its own, where it applies; what the variant and the product say, where it
does not. -/
theorem resolveSerialized_cases (activeBranchId unitBranchId : Id)
    (override : Option UnitPriceOverride) (variant : Option BranchVariantPrice)
    (productDefault : Option Int) :
    (∃ row, override = some row ∧ row.branchId = unitBranchId ∧ activeBranchId = unitBranchId ∧
      resolveSerialized activeBranchId unitBranchId override variant productDefault =
        ⟨some row.price, .unitOverride, some row.version, false⟩) ∨
    (overrideApplies override unitBranchId activeBranchId = false ∧
      resolveSerialized activeBranchId unitBranchId override variant productDefault =
        { resolveProductLevel variant productDefault with
          staleOverrideIgnored := override.isSome }) := by
  cases override with
  | none => exact .inr ⟨rfl, rfl⟩
  | some row =>
      by_cases applies : overrideApplies (some row) unitBranchId activeBranchId = true
      · have branches := of_decide_eq_true applies
        refine .inl ⟨row, rfl, branches.1, branches.2, ?_⟩
        rw [resolveSerialized, Option.filter_some, if_pos applies]
      · refine .inr ⟨by simpa using applies, ?_⟩
        rw [resolveSerialized, Option.filter_some, if_neg applies]

theorem present_override {activeBranchId unitBranchId branchId : Id}
    {override : Option UnitPriceOverride} {variant : Option BranchVariantPrice}
    {productDefault : Option Int}
    (own : (resolveSerialized activeBranchId unitBranchId override variant
      productDefault).source = .unitOverride) :
    (present (resolveSerialized activeBranchId unitBranchId override variant productDefault)
      branchId productDefault variant).fallback =
        some ((resolveSerialized activeBranchId unitBranchId none variant productDefault).price,
          (resolveSerialized activeBranchId unitBranchId none variant productDefault).source) := by
  have beneath : resolveSerialized activeBranchId unitBranchId none variant productDefault =
      { resolveProductLevel variant productDefault with staleOverrideIgnored := false } := rfl
  simp [present, own, beneath]

theorem present_variant {activeBranchId unitBranchId branchId : Id}
    {override : Option UnitPriceOverride} {variant : Option BranchVariantPrice}
    {productDefault : Option Int}
    (shared : (resolveSerialized activeBranchId unitBranchId override variant
      productDefault).source = .branchVariant) :
    (present (resolveSerialized activeBranchId unitBranchId override variant productDefault)
      branchId productDefault variant).fallback =
        some ((resolveSerialized activeBranchId unitBranchId override none productDefault).price,
          (resolveSerialized activeBranchId unitBranchId override none productDefault).source) := by
  rcases resolveSerialized_cases activeBranchId unitBranchId override variant productDefault with
    ⟨row, -, -, -, same⟩ | ⟨idle, -⟩
  · rw [same] at shared
    cases shared
  · have beneath : resolveSerialized activeBranchId unitBranchId override none productDefault =
        { resolveProductLevel none productDefault with
          staleOverrideIgnored := override.isSome } := by
      rcases resolveSerialized_cases activeBranchId unitBranchId override none productDefault with
        ⟨row, rfl, stands, active, -⟩ | ⟨-, same⟩
      · simp [overrideApplies, stands, active] at idle
      · exact same
    simp [present, shared, beneath]

theorem productScreen_variant {db : Db} {companyId branchId : Id} {product : Product}
    (shared : (productScreen db companyId branchId product).source = .branchVariant) :
    product.trackingType ≠ .quantity ∧
      (productScreen db companyId branchId product).fallback =
        some ((resolveProductLevel none product.defaultPrice).price,
          (resolveProductLevel none product.defaultPrice).source) := by
  unfold productScreen at shared ⊢
  split at shared
  · exfalso
    generalize (findStock db companyId product.id branchId).bind row = stock at shared
    rcases stock with _ | stock
    · rcases given : product.defaultPrice with _ | price
      · simp [present, resolveQuantity, given] at shared
      · simp [present, resolveQuantity, given] at shared
    · simp [present, resolveQuantity] at shared
  · next counted =>
    have source : (resolveProductLevel (findBranchVariant db companyId product.id branchId)
        product.defaultPrice).source = .branchVariant := shared
    exact ⟨counted, by simp [counted, present, source]⟩

theorem findOverride_without {s : Store} (indexed : Indexed s) {row : UnitPriceOverride}
    (member : row ∈ s.db.unitPriceOverrides.rows) (companyId unitId : Id) :
    findOverride (withoutOverride row.id s.db) companyId unitId =
      if (companyId, unitId) = overrideColumns row then none
      else findOverride s.db companyId unitId := by
  have found := Table.findBy_of_mem indexed.overrideColumns member
  rw [findOverride_eq, findOverride_eq]
  exact Table.findBy_delete found indexed.overrideColumns (companyId, unitId)

theorem findBranchVariant_without {s : Store} (indexed : Indexed s) {row : BranchVariantPrice}
    {companyId productId branchId : Id}
    (found : findBranchVariant s.db companyId productId branchId = some row) :
    findBranchVariant (withoutVariant row.id s.db) companyId productId branchId = none := by
  rw [findBranchVariant_eq] at found ⊢
  exact (Table.findBy_delete found indexed.variantColumns _).trans (if_pos rfl)

variable {ctx : Ctx}

theorem recordChange_keeps {id branchId productId : Id} {unitId : Option Id}
    {scope : PriceScope} {previousPrice newPrice : Option Int} {reason : Option String}
    {actorId : Id}
    {s s' : Store}
    (done : recordChange ctx id branchId productId unitId scope previousPrice newPrice
      reason actorId
      s = .ok s') : s'.db = s.db ∧ s'.userBranches = s.userBranches := by
  unfold recordChange insertEvent at done
  split at done
  · cases done
  · cases done
    exact ⟨rfl, rfl⟩

theorem removeUnitOverrideTx_removes {ids : PriceIds} {branchId actorId : Id}
    {unit : StockUnit} {dto : RemovePriceDto} {s s' : Store}
    (done : removeUnitOverrideTx ctx ids branchId actorId unit dto s = .ok s') :
    ∃ existing, findOverride s.db ctx.companyId unit.id = some existing ∧
      s'.db = withoutOverride existing.id s.db ∧ s'.userBranches = s.userBranches := by
  unfold removeUnitOverrideTx at done
  split at done
  · cases done
  · next existing found =>
    obtain ⟨dropped, drop, record⟩ := (except_bind_ok _ _ _).mp done
    obtain ⟨-, rfl⟩ := dropOverride_ok found drop
    obtain ⟨db, userBranches⟩ := recordChange_keeps record
    exact ⟨existing, found, db, userBranches⟩

theorem removeBranchVariantPriceTx_removes {ids : PriceIds} {branchId actorId : Id}
    {product : Product} {dto : RemovePriceDto} {s s' : Store} {price : EffectivePrice}
    (done : removeBranchVariantPriceTx ctx ids branchId actorId product dto s = .ok (s', price)) :
    ∃ existing, findBranchVariant s.db ctx.companyId product.id branchId = some existing ∧
      s'.db = withoutVariant existing.id s.db ∧ s'.userBranches = s.userBranches := by
  unfold removeBranchVariantPriceTx at done
  split at done
  · cases done
  · next existing found =>
    obtain ⟨dropped, drop, rest⟩ := (except_bind_ok _ _ _).mp done
    obtain ⟨last, record, same⟩ := (except_bind_ok _ _ _).mp rest
    cases same
    obtain ⟨-, rfl⟩ := dropVariant_ok found drop
    obtain ⟨db, userBranches⟩ := recordChange_keeps record
    exact ⟨existing, found, db, userBranches⟩

theorem removeUnitOverride_removes {ids : PriceIds} {identifier : Option String}
    {dto : RemovePriceDto} {s s' : Store} {after : UnitPricing}
    (done : (removeUnitOverride ctx ids identifier dto).run s = (s', .ok after)) :
    ∃ existing, findOverride s.db ctx.companyId after.unitId = some existing ∧
      s'.db = withoutOverride existing.id s.db ∧ s'.userBranches = s.userBranches := by
  simp only [removeUnitOverride, requireUserId, Prog.run_bind_ok, activeBranch_answers,
    Prog.run_expect_ok, Prog.run_require_ok, Prog.run_commit_ok, getUnitPricing_answers] at done
  obtain ⟨_, branchId, ⟨rfl, assigned⟩, _, actorId, ⟨rfl, known⟩, _, ⟨unit, productDefault⟩, loaded,
    _, _, ⟨rfl, stands⟩, _, _, removed, rfl, _, again, -, reloaded, rfl⟩ := done
  obtain ⟨rfl, load, rfl⟩ := (loadUnit_answers _ _ _ _ _ _).mp loaded
  obtain ⟨existing, found, db, userBranches⟩ := removeUnitOverrideTx_removes removed
  have same : again = unit := by
    rw [db] at reloaded
    exact Except.ok.inj (reloaded.symm.trans load)
  rw [same]
  exact ⟨existing, found, db, userBranches⟩

theorem removeBranchVariantPrice_removes {ids : PriceIds} {productId : Id}
    {dto : RemovePriceDto} {s s' : Store} {price : EffectivePrice}
    (done : (removeBranchVariantPrice ctx ids productId dto).run s = (s', .ok price)) :
    ∃ branchId existing, ctx.branchId = some branchId ∧
      findBranchVariant s.db ctx.companyId productId branchId = some existing ∧
        s'.db = withoutVariant existing.id s.db ∧ s'.userBranches = s.userBranches := by
  simp only [removeBranchVariantPrice, requireUserId, Prog.run_bind_ok, activeBranch_answers,
    Prog.run_expect_ok, loadProduct_answers, Prog.run_transact_ok] at done
  obtain ⟨_, branchId, ⟨rfl, assigned⟩, _, actorId, ⟨rfl, known⟩, _, product, ⟨rfl, loaded⟩,
    removed⟩ := done
  obtain ⟨existing, found, rest⟩ := removeBranchVariantPriceTx_removes removed
  have own : product.id = productId :=
    Table.key_of_find? _ _ _ (Option.filter_eq_some_iff.mp loaded).1
  rw [own] at found
  exact ⟨branchId, existing, assigned.named, found, rest⟩

theorem Assigned.kept {s s' : Store} {ctx : Ctx} {branchId : Id}
    (assigned : Assigned s ctx branchId)
    (same : s'.userBranches = s.userBranches) : Assigned s' ctx branchId :=
  ⟨assigned.named, by rw [same]; exact assigned.member⟩

structure OneLadder (s : Store) : Prop where
  /-- A phone is sold for what its screen shows. -/
  phones : ∀ ctx identifier pricing, ((getUnitPricing ctx identifier).run s).2 = .ok pricing →
    ∃ branchId unit, ctx.branchId = some branchId ∧
      loadUnitByIdentifier s.db ctx.companyId identifier = .ok unit ∧
        Shows pricing.toEffectivePrice
          (resolveForSaleTx ctx.companyId (unitForSale s.db unit) branchId s.db)
  phonesSold : ∀ companyId branchId line identifier prepared, line.price = none →
    Sales.prepareUnit companyId branchId s.db line identifier = .ok prepared →
      ∃ unit, Sales.findSellable s.db companyId identifier = some unit ∧
        prepared.unitId = some unit.id ∧
          (resolveForSaleTx companyId (unitForSale s.db unit) branchId s.db).price =
            some prepared.price
  /-- Stock is sold for what its screen shows. -/
  stock : ∀ ctx productId pricing, ((getProductPricing ctx productId).run s).2 = .ok pricing →
    ∃ branchId product, ctx.branchId = some branchId ∧
      findProduct s.db ctx.companyId productId = some product ∧
        (product.trackingType = .quantity → Shows pricing
          (resolveForSaleTx ctx.companyId (stockForSale s.db ctx.companyId productId branchId)
            branchId s.db))
  stockSold : ∀ companyId branchId line productId prepared, line.price = none →
    Sales.prepareStock companyId branchId s.db line productId = .ok prepared →
      (resolveForSaleTx companyId (stockForSale s.db companyId productId branchId) branchId
        s.db).price = some prepared.price
  /-- Whoever removes the price of a phone, its screen then shows the fallback. -/
  overrideRemoved : ∀ ctx identifier pricing,
    ((getUnitPricing ctx identifier).run s).2 = .ok pricing → pricing.source = .unitOverride →
      ∀ remover ids number dto s' removed, remover.companyId = ctx.companyId →
        (removeUnitOverride remover ids number dto).run s = (s', .ok removed) →
          removed.unitId = pricing.unitId →
            ∃ after, ((getUnitPricing ctx identifier).run s').2 = .ok after ∧
              pricing.fallback = some (after.price, after.source)
  /-- Whoever removes the price of its variant in the branch, so it does. -/
  variantRemoved : ∀ ctx identifier pricing unit,
    ((getUnitPricing ctx identifier).run s).2 = .ok pricing → pricing.source = .branchVariant →
      loadUnitByIdentifier s.db ctx.companyId identifier = .ok unit →
        ∀ remover ids dto s' removed, remover.companyId = ctx.companyId →
          remover.branchId = ctx.branchId →
            (removeBranchVariantPrice remover ids unit.productId dto).run s = (s', .ok removed) →
              ∃ after, ((getUnitPricing ctx identifier).run s').2 = .ok after ∧
                pricing.fallback = some (after.price, after.source)
  /-- And the screen of the variant. -/
  productRemoved : ∀ ctx productId pricing,
    ((getProductPricing ctx productId).run s).2 = .ok pricing → pricing.source = .branchVariant →
      ∀ remover ids dto s' removed, remover.companyId = ctx.companyId →
        remover.branchId = ctx.branchId →
          (removeBranchVariantPrice remover ids productId dto).run s = (s', .ok removed) →
            ∃ after, ((getProductPricing ctx productId).run s').2 = .ok after ∧
              pricing.fallback = some (after.price, after.source)
  /-- A price set in one branch is no price for a phone that stands in another. -/
  elsewhere : ∀ row ∈ s.db.unitPriceOverrides.rows, ∀ unit : StockUnit,
    row.branchId ≠ unit.branchId → ∀ companyId branchId,
      let sold := resolveForSaleTx companyId (unitForSale s.db unit) branchId s.db
      let soldWithout := resolveForSaleTx companyId (unitForSale s.db unit) branchId
        (withoutOverride row.id s.db)
      sold.price = soldWithout.price ∧ sold.source = soldWithout.source ∧
        sold.version = soldWithout.version

theorem shown_elsewhere {s : Store} (indexed : Indexed s) {row : UnitPriceOverride}
    (member : row ∈ s.db.unitPriceOverrides.rows) {unit : StockUnit}
    (apart : row.branchId ≠ unit.branchId) (companyId branchId : Id) :
    let sold := resolveForSaleTx companyId (unitForSale s.db unit) branchId s.db
    let soldWithout := resolveForSaleTx companyId (unitForSale s.db unit) branchId
      (withoutOverride row.id s.db)
    sold.price = soldWithout.price ∧ sold.source = soldWithout.source ∧
      sold.version = soldWithout.version := by
  dsimp only [resolveForSaleTx, unitForSale]
  have kept : findBranchVariant (withoutOverride row.id s.db) companyId unit.productId branchId =
      findBranchVariant s.db companyId unit.productId branchId := rfl
  rw [findOverride_without indexed member, kept]
  split
  · next own =>
    have found : findOverride s.db companyId unit.id = some row := by
      rw [findOverride_eq, own]
      exact Table.findBy_of_mem indexed.overrideColumns member
    rw [found]
    rcases resolveSerialized_cases branchId unit.branchId (some row)
      (findBranchVariant s.db companyId unit.productId branchId)
      ((s.db.products.find? unit.productId).bind Product.defaultPrice) with
      ⟨other, same, stands, -, -⟩ | ⟨-, same⟩
    · cases same
      exact absurd stands apart
    · rw [same]
      exact ⟨rfl, rfl, rfl⟩
  · exact ⟨rfl, rfl, rfl⟩

/-- Till and screens read one ladder, a fallback is what a removal shows, and a price set in
one branch is none in another. -/
theorem one_ladder (s : Store) (indexed : Indexed s) : OneLadder s where
  phones := by
    intro ctx identifier pricing answered
    obtain ⟨-, branchId, unit, assigned, load, rfl⟩ :=
      (getUnitPricing_answers _ _ _ _ _).mp (Prod.ext rfl answered)
    exact ⟨branchId, unit, assigned.named, load, present_shows _ _ _ _⟩
  phonesSold _ _ _ _ _ untyped done := prepareUnit_charges untyped done
  stock := by
    intro ctx productId pricing answered
    obtain ⟨-, branchId, product, assigned, found, rfl⟩ :=
      (getProductPricing_answers _ _ _ _ _).mp (Prod.ext rfl answered)
    refine ⟨branchId, product, assigned.named, found, fun counted => ?_⟩
    have stored := (Option.filter_eq_some_iff.mp found).1
    have own : product.id = productId := Table.key_of_find? _ _ _ stored
    rw [productScreen, if_pos counted, own, stockForSale, stored]
    exact present_shows _ _ _ _
  stockSold _ _ _ _ _ untyped done := prepareStock_charges untyped done
  overrideRemoved := by
    intro ctx identifier pricing answered own remover ids number dto s' removed company done target
    obtain ⟨-, branchId, unit, assigned, load, rfl⟩ :=
      (getUnitPricing_answers _ _ _ _ _).mp (Prod.ext rfl answered)
    obtain ⟨existing, found, db, userBranches⟩ := removeUnitOverride_removes done
    rw [company, target] at found
    have gone : findOverride (withoutOverride existing.id s.db) ctx.companyId unit.id = none := by
      have matched := Table.findBy_some ((findOverride_eq _ _ _).symm.trans found)
      rw [findOverride_without indexed matched.1, if_pos matched.2.symm]
    have again := (getUnitPricing_answers s' s' ctx identifier _).mpr
      ⟨rfl, branchId, unit, assigned.kept userBranches, by rw [db]; exact load, rfl⟩
    refine ⟨_, congrArg Prod.snd again, (present_override own).trans ?_⟩
    rw [db, unitScreen, gone]
    rfl
  variantRemoved := by
    intro ctx identifier pricing unit answered shared load remover ids dto s' removed company branch
      done
    obtain ⟨-, branchId, other, assigned, load', rfl⟩ :=
      (getUnitPricing_answers _ _ _ _ _).mp (Prod.ext rfl answered)
    cases load.symm.trans load'
    obtain ⟨removedIn, existing, named, found, db, userBranches⟩ :=
      removeBranchVariantPrice_removes done
    cases named.symm.trans (branch.trans assigned.named)
    rw [company] at found
    have again := (getUnitPricing_answers s' s' ctx identifier _).mpr
      ⟨rfl, branchId, unit, assigned.kept userBranches, by rw [db]; exact load, rfl⟩
    refine ⟨_, congrArg Prod.snd again, (present_variant shared).trans ?_⟩
    rw [db, unitScreen, findBranchVariant_without indexed found]
    rfl
  productRemoved := by
    intro ctx productId pricing answered shared remover ids dto s' removed company branch done
    obtain ⟨-, branchId, product, assigned, load, rfl⟩ :=
      (getProductPricing_answers _ _ _ _ _).mp (Prod.ext rfl answered)
    obtain ⟨removedIn, existing, named, found, db, userBranches⟩ :=
      removeBranchVariantPrice_removes done
    cases named.symm.trans (branch.trans assigned.named)
    have own : product.id = productId :=
      Table.key_of_find? _ _ _ (Option.filter_eq_some_iff.mp load).1
    rw [company, ← own] at found
    have again := (getProductPricing_answers s' s' ctx productId _).mpr
      ⟨rfl, branchId, product, assigned.kept userBranches, by rw [db]; exact load, rfl⟩
    obtain ⟨counted, beneath⟩ := productScreen_variant shared
    refine ⟨_, congrArg Prod.snd again, beneath.trans ?_⟩
    rw [db, productScreen, if_neg counted, findBranchVariant_without indexed found]
    rfl
  elsewhere _ member _ apart companyId branchId :=
    shown_elsewhere indexed member apart companyId branchId

def galaxy : Product :=
  ⟨62, 1, "Samsung", "Galaxy", none, .imei, none, none, some 80000, none, none, 0⟩

def galaxyUnit : StockUnit :=
  ⟨303, 1, 62, 2, some "356938035643809", none, none, 60000, .inStock, none, none⟩

theorem manager_alone : ([⟨40, 1, 9, 2, 20⟩].map Rbac.UserBranch.id).Nodup :=
  List.nodup_singleton _

/-- In branch 2 the variant has a price, and the phone one of its own. -/
def counter : Store where
  db :=
    { products := ⟨[galaxy], List.nodup_singleton _⟩
      units := ⟨[galaxyUnit], List.nodup_singleton _⟩
      branchVariantPrices := ⟨[⟨90, 1, 2, 62, 85000, 3⟩], List.nodup_singleton _⟩
      unitPriceOverrides := ⟨[⟨91, 1, 2, 303, 95000, 1⟩], List.nodup_singleton _⟩ }
  userBranches := ⟨[⟨40, 1, 9, 2, 20⟩], manager_alone⟩

theorem counter_indexed : Indexed counter := by
  constructor
  · intro a first b second _
    rw [List.mem_singleton.mp first, List.mem_singleton.mp second]
  · intro a first b second _
    rw [List.mem_singleton.mp first, List.mem_singleton.mp second]

/-- The phone whose price of its own is removed shows the price of its variant. -/
theorem one_ladder_counter :
    ∃ after, ((getUnitPricing manager (some "356938035643809")).run
        ((removeUnitOverride manager ⟨92, 93⟩ (some "356938035643809") ⟨1, none⟩).run
          counter).1).2 = .ok after ∧
      some (some 85000, .branchVariant) = some (after.price, after.source) :=
  (one_ladder counter counter_indexed).overrideRemoved manager (some "356938035643809")
    ⟨unitScreen counter.db 1 2 galaxyUnit, 303, .inStock, true⟩ rfl rfl manager ⟨92, 93⟩
    (some "356938035643809") ⟨1, none⟩ _
    ⟨unitScreen (withoutOverride 91 counter.db) 1 2 galaxyUnit, 303, .inStock, true⟩ rfl rfl rfl

end ErpBackend.Pricing
