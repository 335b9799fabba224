import ErpBackend.Foundation.Chain
import ErpBackend.Pricing.Service

/-!
# Prices and their history

Every committed write of a price adds the event that tells of it. The events of a target
lead from the price it had to the price it has, except where stock that never had a price
gets one: that event says it was zero before.
-/

namespace ErpBackend.Pricing

open Foundation Inventory

/-- A price, or a stock row without one, and the version it is at. -/
structure Cell where
  price : Option Int
  version : Nat
  deriving DecidableEq

def cell (s : Store) : Target → Option Cell
  | .branchVariant companyId productId branchId =>
      (findBranchVariant s.db companyId productId branchId).map (fun row =>
        ⟨some row.price, row.version⟩)
  | .unit companyId unitId =>
      (findOverride s.db companyId unitId).map (fun row => ⟨some row.price, row.version⟩)
  | .stockItem companyId productId branchId =>
      (findStock s.db companyId productId branchId).map (fun item => ⟨item.price, item.version⟩)

def priceOf (s : Store) (target : Target) : Option Int := (cell s target).bind Cell.price

def PriceChangeEvent.target (event : PriceChangeEvent) : Target :=
  match event.scope with
  | .unit => .unit event.companyId (event.unitId.getD 0)
  | .branchVariant => .branchVariant event.companyId event.productId event.branchId
  | .stockItem => .stockItem event.companyId event.productId event.branchId

def history (s : Store) (target : Target) : List PriceChangeEvent :=
  s.priceChangeEvents.filter (fun event => event.target = target)

def PriceChangeEvent.change (event : PriceChangeEvent) : Option Int × Option Int :=
  (event.previousPrice, event.newPrice)

def recorded (cell : Option Cell) : Option Int := cell.map (fun c => numberOf c.price)

/-- The unique keys of the two price tables. -/
structure Indexed (s : Store) : Prop where
  variants : s.db.branchVariantPrices.Sole (fun row => (row.productId, row.branchId))
  overrides : s.db.unitPriceOverrides.Sole UnitPriceOverride.unitId

inductive Edit : Option Nat → Option Cell → Option Cell → Prop
  | create (expected : Option Nat) (price : Int) : Edit expected none (some ⟨some price, 0⟩)
  | replace (old : Option Int) (version : Nat) (price : Int) :
      Edit (some version) (some ⟨old, version⟩) (some ⟨some price, version + 1⟩)
  | remove (old : Option Int) (version : Nat) : Edit (some version) (some ⟨old, version⟩) none

structure Puts (target : Target) (after : Option Cell) (s s' : Store) : Prop where
  indexed : Indexed s → Indexed s'
  cells : ∀ other, cell s' other = if other = target then after else cell s other
  events : s'.priceChangeEvents = s.priceChangeEvents

structure Wrote (target : Target) (after : Option Cell) (s s' : Store) : Prop where
  indexed : Indexed s → Indexed s'
  cells : ∀ other, cell s' other = if other = target then after else cell s other
  event : ∃ event : PriceChangeEvent, event.target = target ∧
    event.previousPrice = recorded (cell s target) ∧ event.newPrice = after.bind Cell.price ∧
    s'.priceChangeEvents.rows = s.priceChangeEvents.rows ++ [event]

structure Untouched (s s' : Store) : Prop where
  indexed : Indexed s → Indexed s'
  cells : ∀ target, cell s' target = cell s target
  events : s'.priceChangeEvents = s.priceChangeEvents

theorem Untouched.refl (s : Store) : Untouched s s := ⟨id, fun _ => rfl, rfl⟩

variable {s s' : Store}

theorem Untouched.history (untouched : Untouched s s') (target : Target) :
    history s' target = history s target := by
  simp only [Pricing.history, untouched.events]

variable {target : Target}

theorem Wrote.history {after : Option Cell} {s s' : Store}
    (wrote : Wrote target after s s') (other : Target) :
    (other ≠ target ∧ history s' other = history s other) ∨
      (other = target ∧ ∃ event : PriceChangeEvent,
        event.change = (recorded (cell s target), after.bind Cell.price) ∧
          history s' other = history s other ++ [event]) := by
  obtain ⟨event, own, previous, next, rows⟩ := wrote.event
  have filtered : Pricing.history s' other =
      Pricing.history s other ++ [event].filter (fun event => event.target = other) := by
    simp only [Pricing.history, Table.filter, rows, List.filter_append]
  rw [filtered]
  by_cases same : other = target
  · refine .inr ⟨same, event, by rw [PriceChangeEvent.change, previous, next], ?_⟩
    rw [List.filter_cons_of_pos (by simpa [own] using same.symm), List.filter_nil]
  · refine .inl ⟨same, ?_⟩
    rw [List.filter_cons_of_neg (by simpa [own] using Ne.symm same), List.filter_nil,
      List.append_nil]

theorem insertEvent_ok (event : PriceChangeEvent) (s s' : Store)
    (done : insertEvent event s = .ok s') :
    s'.db = s.db ∧ s'.priceChangeEvents.rows = s.priceChangeEvents.rows ++ [event] := by
  unfold insertEvent at done
  split at done
  · cases done
  · next events inserted =>
    cases done
    exact ⟨rfl, (Table.insert?_some _ _ _ inserted).1⟩

theorem cell_of_db (s s' : Store) (same : s'.db = s.db) (target : Target) :
    cell s' target = cell s target := by
  cases target <;> simp only [cell, same]

theorem indexed_of_db (same : s'.db = s.db) (indexed : Indexed s) : Indexed s' :=
  ⟨by rw [same]; exact indexed.variants, by rw [same]; exact indexed.overrides⟩

theorem Puts.wrote {after : Option Cell} {s put s' : Store}
    (puts : Puts target after s put) {event : PriceChangeEvent} (own : event.target = target)
    (previous : event.previousPrice = recorded (cell s target))
    (next : event.newPrice = after.bind Cell.price) (done : insertEvent event put = .ok s') :
    Wrote target after s s' := by
  obtain ⟨db, rows⟩ := insertEvent_ok event put s' done
  refine ⟨fun unique => indexed_of_db db (puts.indexed unique), ?_, event, own, previous, next, ?_⟩
  · intro other
    rw [cell_of_db put s' db, puts.cells]
  · rw [rows, puts.events]

def variantColumns (row : BranchVariantPrice) : Id × Id × Id :=
  (row.companyId, row.productId, row.branchId)

theorem findBranchVariant_eq (db : Db) (companyId productId branchId : Id) :
    findBranchVariant db companyId productId branchId =
      db.branchVariantPrices.findBy variantColumns (companyId, productId, branchId) := by
  simp only [findBranchVariant, Table.findBy, variantColumns, Prod.mk.injEq]

variable {s : Store}

theorem Indexed.variantColumns (indexed : Indexed s) :
    s.db.branchVariantPrices.Sole variantColumns :=
  indexed.variants.of_columns (fun _ _ agree => (Prod.mk.inj agree).2)

variable {companyId productId branchId : Id}

theorem puts_variant {after : Option BranchVariantPrice}
    {s : Store} {rows : Table BranchVariantPrice BranchVariantPrice.id}
    (sole : Indexed s → rows.Sole (fun row => (row.productId, row.branchId)))
    (finds : ∀ y, rows.findBy variantColumns y = if y = (companyId, productId, branchId) then after
      else s.db.branchVariantPrices.findBy variantColumns y) :
    Puts (.branchVariant companyId productId branchId)
      (after.map (fun row => ⟨some row.price, row.version⟩)) s
      { s with db := { s.db with branchVariantPrices := rows } } := by
  refine ⟨fun indexed => ⟨sole indexed, indexed.overrides⟩, ?_, rfl⟩
  intro other
  cases other with
  | branchVariant company product branch =>
      simp only [cell, findBranchVariant_eq, finds, Target.branchVariant.injEq, Prod.mk.injEq]
      split
      · rfl
      · rfl
  | unit company unit => rfl
  | stockItem company product branch => rfl

variable {existing : BranchVariantPrice}

theorem swapVariant_puts {version : Nat} {price : Int} {s put : Store}
    (found : findBranchVariant s.db companyId productId branchId = some existing)
    (done : swapVariant companyId existing version price s = .ok put) :
    existing.version = version ∧
      Puts (.branchVariant companyId productId branchId)
        (some ⟨some price, version + 1⟩) s put := by
  rw [findBranchVariant_eq] at found
  unfold swapVariant at done
  split at done
  · cases done
  · next rows swap =>
    cases done
    obtain ⟨guard, rfl⟩ := Table.swap?_at (Table.find?_of_findBy found) swap
    simp only [decide_eq_true_eq] at guard
    rw [← guard.2]
    exact ⟨rfl, puts_variant
      (fun indexed => indexed.variants.update _ (repricedVariant price) (fun _ => rfl)
        (fun _ => rfl))
      (Table.findBy_update found (repricedVariant price) (fun _ => rfl) (fun _ => rfl))⟩

theorem insertVariant_puts (row : BranchVariantPrice) {s put : Store}
    (missing : findBranchVariant s.db row.companyId row.productId row.branchId = none)
    (done : insertVariant row s = .ok put) :
    Puts (.branchVariant row.companyId row.productId row.branchId)
      (some ⟨some row.price, row.version⟩) s put := by
  rw [findBranchVariant_eq] at missing
  unfold insertVariant at done
  split at done
  · cases done
  · next free =>
    split at done
    · cases done
    · next rows inserted =>
      cases done
      have fresh : ∀ other ∈ s.db.branchVariantPrices.rows,
          (other.productId, other.branchId) ≠ (row.productId, row.branchId) := by
        intro other member same
        simp only [Prod.mk.injEq] at same
        exact free ((Table.any_eq_true _ _).mpr ⟨other, member, by simp [same]⟩)
      exact puts_variant (fun indexed => indexed.variants.insert row inserted fresh)
        (Table.findBy_insert inserted missing)

def withoutVariant (id : Id) (db : Db) : Db :=
  { db with branchVariantPrices := db.branchVariantPrices.delete (fun row => row.id = id) }

theorem dropVariant_ok {version : Nat} {s put : Store}
    (found : findBranchVariant s.db companyId productId branchId = some existing)
    (done : dropVariant companyId existing version s = .ok put) :
    existing.version = version ∧ put = { s with db := withoutVariant existing.id s.db } := by
  rw [findBranchVariant_eq] at found
  unfold dropVariant at done
  split at done
  · cases done
  · next rows removed =>
    cases done
    obtain ⟨guard, rfl⟩ := Table.remove?_at (Table.find?_of_findBy found) removed
    exact ⟨(of_decide_eq_true guard).2, rfl⟩

theorem dropVariant_puts {version : Nat} {s put : Store} (indexed : Indexed s)
    (found : findBranchVariant s.db companyId productId branchId = some existing)
    (done : dropVariant companyId existing version s = .ok put) :
    existing.version = version ∧ Puts (.branchVariant companyId productId branchId) none s put := by
  obtain ⟨same, rfl⟩ := dropVariant_ok found done
  rw [findBranchVariant_eq] at found
  exact ⟨same, puts_variant (fun indexed => indexed.variants.delete _)
    (Table.findBy_delete found indexed.variantColumns)⟩

def overrideColumns (row : UnitPriceOverride) : Id × Id := (row.companyId, row.unitId)

theorem findOverride_eq (db : Db) (companyId unitId : Id) :
    findOverride db companyId unitId =
      db.unitPriceOverrides.findBy overrideColumns (companyId, unitId) := by
  simp only [findOverride, Table.findBy, overrideColumns, Prod.mk.injEq]

theorem Indexed.overrideColumns (indexed : Indexed s) :
    s.db.unitPriceOverrides.Sole overrideColumns :=
  indexed.overrides.of_columns (fun _ _ agree => (Prod.mk.inj agree).2)

variable {companyId unitId : Id}

theorem puts_override {after : Option UnitPriceOverride} {s : Store}
    {rows : Table UnitPriceOverride UnitPriceOverride.id}
    (sole : Indexed s → rows.Sole UnitPriceOverride.unitId)
    (finds : ∀ y, rows.findBy overrideColumns y = if y = (companyId, unitId) then after
      else s.db.unitPriceOverrides.findBy overrideColumns y) :
    Puts (.unit companyId unitId) (after.map (fun row => ⟨some row.price, row.version⟩)) s
      { s with db := { s.db with unitPriceOverrides := rows } } := by
  refine ⟨fun indexed => ⟨indexed.variants, sole indexed⟩, ?_, rfl⟩
  intro other
  cases other with
  | branchVariant company product branch => rfl
  | unit company unit =>
      simp only [cell, findOverride_eq, finds, Target.unit.injEq, Prod.mk.injEq]
      split
      · rfl
      · rfl
  | stockItem company product branch => rfl

theorem swapOverride_puts {companyId branchId unitId : Id} {existing : UnitPriceOverride}
    {version : Nat} {price : Int} {s put : Store}
    (found : findOverride s.db companyId unitId = some existing)
    (done : swapOverride companyId branchId existing version price s = .ok put) :
    existing.version = version ∧
      Puts (.unit companyId unitId) (some ⟨some price, version + 1⟩) s put := by
  rw [findOverride_eq] at found
  unfold swapOverride at done
  split at done
  · cases done
  · next rows swap =>
    cases done
    obtain ⟨guard, rfl⟩ := Table.swap?_at (Table.find?_of_findBy found) swap
    simp only [decide_eq_true_eq] at guard
    rw [← guard.2]
    exact ⟨rfl, puts_override (fun indexed =>
        indexed.overrides.update _ (repricedOverride price branchId) (fun _ => rfl) (fun _ => rfl))
      (Table.findBy_update found (repricedOverride price branchId) (fun _ => rfl) (fun _ => rfl))⟩

theorem insertOverride_puts (row : UnitPriceOverride) {s put : Store}
    (missing : findOverride s.db row.companyId row.unitId = none)
    (done : insertOverride row s = .ok put) :
    Puts (.unit row.companyId row.unitId) (some ⟨some row.price, row.version⟩) s put := by
  rw [findOverride_eq] at missing
  unfold insertOverride at done
  split at done
  · cases done
  · next free =>
    split at done
    · cases done
    · next rows inserted =>
      cases done
      have fresh : ∀ other ∈ s.db.unitPriceOverrides.rows, other.unitId ≠ row.unitId := by
        intro other member same
        exact free ((Table.any_eq_true _ _).mpr ⟨other, member, by simp [same]⟩)
      exact puts_override (fun indexed => indexed.overrides.insert row inserted fresh)
        (Table.findBy_insert inserted missing)

def withoutOverride (id : Id) (db : Db) : Db :=
  { db with unitPriceOverrides := db.unitPriceOverrides.delete (fun row => row.id = id) }

variable {existing : UnitPriceOverride}

theorem dropOverride_ok {version : Nat}
    {s put : Store} (found : findOverride s.db companyId unitId = some existing)
    (done : dropOverride companyId existing version s = .ok put) :
    existing.version = version ∧ put = { s with db := withoutOverride existing.id s.db } := by
  rw [findOverride_eq] at found
  unfold dropOverride at done
  split at done
  · cases done
  · next rows removed =>
    cases done
    obtain ⟨guard, rfl⟩ := Table.remove?_at (Table.find?_of_findBy found) removed
    exact ⟨(of_decide_eq_true guard).2, rfl⟩

theorem withoutOverride_puts (indexed : Indexed s)
    (found : findOverride s.db companyId unitId = some existing) :
    Puts (.unit companyId unitId) none s { s with db := withoutOverride existing.id s.db } := by
  rw [findOverride_eq] at found
  exact puts_override (fun indexed => indexed.overrides.delete _)
    (Table.findBy_delete found indexed.overrideColumns)

theorem dropOverride_puts {version : Nat}
    {s put : Store} (indexed : Indexed s)
    (found : findOverride s.db companyId unitId = some existing)
    (done : dropOverride companyId existing version s = .ok put) :
    existing.version = version ∧ Puts (.unit companyId unitId) none s put := by
  obtain ⟨same, rfl⟩ := dropOverride_ok found done
  exact ⟨same, withoutOverride_puts indexed found⟩

theorem swapStock_puts {existing : StockItem} {version : Nat}
    {price : Int} {s put : Store}
    (found : findStock s.db companyId productId branchId = some existing)
    (done : swapStock existing version price s = .ok put) :
    existing.version = version ∧
      Puts (.stockItem companyId productId branchId) (some ⟨some price, version + 1⟩) s put := by
  unfold swapStock at done
  split at done
  · cases done
  · next rows swap =>
    cases done
    have own : existing.key = (companyId, productId, branchId) := Table.key_of_find? _ _ _ found
    have self : s.db.stockItems.find? existing.key = some existing := by
      rw [own]
      exact found
    obtain ⟨guard, rfl⟩ := Table.swap?_at self swap
    simp only [decide_eq_true_eq] at guard
    refine ⟨guard, fun indexed => ⟨indexed.variants, indexed.overrides⟩, ?_, rfl⟩
    intro other
    cases other with
    | branchVariant company product branch => rfl
    | unit company unit => rfl
    | stockItem company product branch =>
        simp only [cell, findStock]
        rw [Table.find?_update, self, own]
        simp only [Target.stockItem.injEq, Prod.mk.injEq, ← guard]
        split
        · rfl
        · rfl

/-- The write of a transaction: an edit that fits the version it expects. -/
def Edits (target : Target) (expected : Option Nat) (s s' : Store) : Prop :=
  ∃ after, Edit expected (cell s target) after ∧ Wrote target after s s'

theorem putVariant_puts {companyId branchId productId id : Id} {dto : SetPriceDto} {s put : Store}
    {previous : Option Int}
    (done : putVariant companyId branchId productId id dto s = .ok (put, previous)) :
    ∃ after, Edit dto.expectedVersion (cell s (.branchVariant companyId productId branchId)) after ∧
      previous = recorded (cell s (.branchVariant companyId productId branchId)) ∧
      after.bind Cell.price = some dto.price.cents ∧
      Puts (.branchVariant companyId productId branchId) after s put := by
  unfold putVariant at done
  split at done
  · next existing found =>
    split at done
    · cases done
    · next version expected =>
      obtain ⟨swapped, did, same⟩ := (except_map_ok _ _ _).mp done
      cases same
      obtain ⟨rfl, puts⟩ := swapVariant_puts found did
      refine ⟨_, ?_, ?_, rfl, puts⟩
      · simp only [cell, found, Option.map_some, expected]
        exact .replace _ _ _
      · simp [cell, found, recorded, numberOf]
  · next missing =>
    obtain ⟨inserted, did, same⟩ := (except_map_ok _ _ _).mp done
    cases same
    refine ⟨_, ?_, ?_, rfl, insertVariant_puts ⟨id, companyId, branchId, productId,
      dto.price.cents, 0⟩ missing did⟩
    · simp only [cell, missing, Option.map_none]
      exact .create _ _
    · simp [cell, missing, recorded]

variable (ctx : Ctx)

variable (ids : PriceIds)

variable (branchId actorId : Id)

theorem setBranchVariantPriceTx_edits (product : Product) (dto : SetPriceDto) (s s' : Store)
    (price : EffectivePrice)
    (done : setBranchVariantPriceTx ctx ids branchId actorId product dto s = .ok (s', price)) :
    Edits (.branchVariant ctx.companyId product.id branchId) dto.expectedVersion s s' := by
  obtain ⟨⟨put, previous⟩, first, rest⟩ := (except_bind_ok _ _ _).mp done
  obtain ⟨last, second, same⟩ := (except_bind_ok _ _ _).mp rest
  cases same
  obtain ⟨after, edit, before, next, puts⟩ := putVariant_puts first
  exact ⟨after, edit, puts.wrote rfl before next.symm second⟩

theorem removeBranchVariantPriceTx_edits (product : Product) (dto : RemovePriceDto) (s s' : Store)
    (price : EffectivePrice)
    (indexed : Indexed s)
    (done : removeBranchVariantPriceTx ctx ids branchId actorId product dto s = .ok (s', price)) :
    Edits (.branchVariant ctx.companyId product.id branchId) (some dto.expectedVersion) s s' := by
  unfold removeBranchVariantPriceTx at done
  split at done
  · cases done
  · next existing found =>
    obtain ⟨dropped, first, rest⟩ := (except_bind_ok _ _ _).mp done
    obtain ⟨last, second, same⟩ := (except_bind_ok _ _ _).mp rest
    cases same
    obtain ⟨version, puts⟩ := dropVariant_puts indexed found first
    refine ⟨none, ?_, puts.wrote rfl ?_ rfl second⟩
    · simp only [cell, found, Option.map_some, ← version]
      exact .remove _ _
    · simp [cell, found, recorded, numberOf]

theorem putOverride_puts {companyId branchId unitId id : Id} {dto : SetPriceDto} {s put : Store}
    {previous : Option Int}
    (done : putOverride companyId branchId unitId id dto s = .ok (put, previous)) :
    ∃ after, Edit dto.expectedVersion (cell s (.unit companyId unitId)) after ∧
      previous = recorded (cell s (.unit companyId unitId)) ∧
      after.bind Cell.price = some dto.price.cents ∧ Puts (.unit companyId unitId) after s put := by
  unfold putOverride at done
  split at done
  · next existing found =>
    split at done
    · cases done
    · next version expected =>
      obtain ⟨swapped, did, same⟩ := (except_map_ok _ _ _).mp done
      cases same
      obtain ⟨rfl, puts⟩ := swapOverride_puts found did
      refine ⟨_, ?_, ?_, rfl, puts⟩
      · simp only [cell, found, Option.map_some, expected]
        exact .replace _ _ _
      · simp [cell, found, recorded, numberOf]
  · next missing =>
    obtain ⟨inserted, did, same⟩ := (except_map_ok _ _ _).mp done
    cases same
    refine ⟨_, ?_, ?_, rfl, insertOverride_puts ⟨id, companyId, branchId, unitId,
      dto.price.cents, 0⟩ missing did⟩
    · simp only [cell, missing, Option.map_none]
      exact .create _ _
    · simp [cell, missing, recorded]

theorem setUnitOverrideTx_edits (unit : StockUnit) (dto : SetPriceDto) (s s' : Store)
    (done : setUnitOverrideTx ctx ids branchId actorId unit dto s = .ok s') :
    Edits (.unit ctx.companyId unit.id) dto.expectedVersion s s' := by
  obtain ⟨⟨put, previous⟩, first, second⟩ := (except_bind_ok _ _ _).mp done
  obtain ⟨after, edit, before, next, puts⟩ := putOverride_puts first
  exact ⟨after, edit, puts.wrote rfl before next.symm second⟩

theorem removeUnitOverrideTx_edits (unit : StockUnit) (dto : RemovePriceDto) (s s' : Store)
    (indexed : Indexed s)
    (done : removeUnitOverrideTx ctx ids branchId actorId unit dto s = .ok s') :
    Edits (.unit ctx.companyId unit.id) (some dto.expectedVersion) s s' := by
  unfold removeUnitOverrideTx at done
  split at done
  · cases done
  · next existing found =>
    obtain ⟨dropped, first, second⟩ := (except_bind_ok _ _ _).mp done
    obtain ⟨version, puts⟩ := dropOverride_puts indexed found first
    refine ⟨none, ?_, puts.wrote rfl ?_ rfl second⟩
    · simp only [cell, found, Option.map_some, ← version]
      exact .remove _ _
    · simp [cell, found, recorded, numberOf]

variable (has : Permission → Bool)

variable (ids : PriceIds)

theorem setQuantityPriceTx_edits (branchId actorId : Id) (product : Product)
    (dto : SetQuantityPriceDto) (s s' : Store)
    (price : EffectivePrice)
    (done : setQuantityPriceTx ctx has ids branchId actorId product dto s = .ok (s', price)) :
    Edits (.stockItem ctx.companyId product.id branchId) (some dto.expectedVersion) s s' := by
  unfold setQuantityPriceTx at done
  split at done
  · cases done
  · next stock found =>
    obtain ⟨_, _, rest⟩ := (except_bind_ok _ _ _).mp done
    obtain ⟨swapped, first, rest⟩ := (except_bind_ok _ _ _).mp rest
    obtain ⟨last, second, same⟩ := (except_bind_ok _ _ _).mp rest
    cases same
    obtain ⟨version, puts⟩ := swapStock_puts found first
    refine ⟨_, ?_, puts.wrote rfl ?_ rfl second⟩
    · simp only [cell, found, Option.map_some, ← version]
      exact .replace _ _ _
    · simp [cell, found, recorded]

inductive Retires : Store → Store → Prop
  | one (companyId unitId : Id) (before : Cell) (s s' : Store)
      (held : cell s (.unit companyId unitId) = some before)
      (wrote : Wrote (.unit companyId unitId) none s s') : Retires s s'

theorem invalidateMove_retires (move : BranchMove) (s s' : Store) (count : Nat)
    (indexed : Indexed s) (done : invalidateMove ctx move s = .ok (s', count)) :
    s' = s ∨ Retires s s' := by
  unfold invalidateMove at done
  split at done
  · cases done
    exact .inl rfl
  · split at done
    · cases done
      exact .inl rfl
    · next override found =>
      obtain ⟨retired, recorded', same⟩ := (except_bind_ok _ _ _).mp done
      cases same
      refine .inr (.one ctx.companyId move.unitId ⟨some override.price, override.version⟩ s _ ?_
        ((withoutOverride_puts indexed found).wrote rfl ?_ rfl recorded'))
      · simp only [cell, found, Option.map_some]
      · simp [cell, found, recorded, numberOf]

theorem Retires.indexed (retires : Retires s s') (indexed : Indexed s) : Indexed s' := by
  obtain ⟨_, _, _, _, _, _, wrote⟩ := retires
  exact wrote.indexed indexed

theorem invalidateOnBranchMoveTx_retires (moves : List BranchMove) (s s' : Store)
    (count : Nat) (indexed : Indexed s)
    (done : invalidateOnBranchMoveTx ctx moves s = .ok (s', count)) :
    Relation.ReflTransGen Retires s s' := by
  induction moves generalizing s count with
  | nil =>
      cases done
      exact .refl
  | cons move rest ih =>
      obtain ⟨⟨retired, one⟩, first, others⟩ := (except_bind_ok _ _ _).mp done
      obtain ⟨⟨last, more⟩, second, same⟩ := (except_bind_ok _ _ _).mp others
      cases same
      rcases invalidateMove_retires ctx move s retired one indexed first with rfl | step
      · exact ih retired more indexed second
      · exact .head step (ih retired more (step.indexed indexed) second)

/-- The writes of prices, transfers that move phones, and whatever else the shop does. -/
inductive Call : Request Unit → Prop
  | setBranchVariantPrice (ctx : Ctx) (has : Permission → Bool) (ids : PriceIds) (productId : Id)
      (dto : SetPriceDto) : Call (setBranchVariantPrice ctx has ids productId dto).void
  | removeBranchVariantPrice (ctx : Ctx) (ids : PriceIds) (productId : Id) (dto : RemovePriceDto) :
      Call (removeBranchVariantPrice ctx ids productId dto).void
  | setUnitOverride (ctx : Ctx) (has : Permission → Bool) (ids : PriceIds)
      (identifier : Option String) (dto : SetPriceDto) :
      Call (setUnitOverride ctx has ids identifier dto).void
  | removeUnitOverride (ctx : Ctx) (ids : PriceIds) (identifier : Option String)
      (dto : RemovePriceDto) : Call (removeUnitOverride ctx ids identifier dto).void
  | setQuantityPrice (ctx : Ctx) (has : Permission → Bool) (ids : PriceIds) (productId : Id)
      (dto : SetQuantityPriceDto) : Call (setQuantityPrice ctx has ids productId dto).void
  | receive (ctx : Ctx) (moves : List BranchMove) (update : Store → Store)
      (kept : ∀ s, Untouched s (update s)) :
      Call (Prog.transact .move (fun s => invalidateOnBranchMoveTx ctx moves (update s))).void
  | elsewhere (update : Store → Store) (kept : ∀ s, Untouched s (update s)) :
      Call (.execute .other update)

/-- From rows with their unique keys, every step is of one of these kinds. -/
def leads : Mark → Store → Store → Option Mark → Prop
  | .other, s, s', _ => Untouched s s'
  | .write target expected, s, s', _ => s' = s ∨ (Indexed s → Edits target expected s s')
  | .move, s, s', _ => s' = s ∨ (Indexed s →
      ∃ middle, Untouched s middle ∧ Relation.ReflTransGen Retires middle s')

abbrev Led {α : Type} (p : Request α) : Prop := p.Onward leads (fun _ => True)

variable (identifier : Option String)

section Led

variable {α β : Type}

theorem read_led (query : Store → α) (f : α → Request β) (rest : ∀ a, Led (f a)) :
    Led (.read .other query >>= f) :=
  Prog.onward_read _ _ _ trivial (fun s _ _ => Untouched.refl s) rest

theorem activeBranch_led (f : Id → Request β) (rest : ∀ branchId, Led (f branchId)) :
    Led (activeBranch ctx >>= f) := by
  simp only [activeBranch, Prog.bind_assoc, Prog.pure_bind]
  apply Prog.onward_expect
  intro branchId _
  apply Prog.onward_expect
  intro userId _
  apply read_led
  intro assigned
  apply Prog.onward_require
  exact fun _ => rest branchId

theorem loadProduct_led (productId : Id) (f : Product → Request β)
    (rest : ∀ product, Led (f product)) : Led (loadProduct ctx productId >>= f) := by
  simp only [loadProduct, Prog.bind_assoc]
  apply read_led
  intro found
  apply Prog.onward_expect
  exact fun product _ => rest product

theorem loadUnit_led (f : StockUnit × Option Int → Request β) (rest : ∀ found, Led (f found)) :
    Led (loadUnit ctx identifier >>= f) := by
  simp only [loadUnit, Prog.bind_assoc]
  apply read_led
  intro found
  apply Prog.onward_liftExcept
  exact fun found _ => rest found

theorem getUnitPricing_led :
    Led (getUnitPricing ctx identifier) := by
  apply activeBranch_led
  intro branchId
  apply loadUnit_led
  intro found
  apply read_led
  intro override
  apply read_led
  exact fun variant => Prog.onward_done _

theorem write_led (target : Target) (expected : Option Nat)
    (body : Store → Except Refusal (Store × α)) (f : α → Request β)
    (edits : ∀ s s' a, Indexed s → body s = .ok (s', a) → Edits target expected s s')
    (rest : ∀ a, Led (f a)) : Led (.transact (.write target expected) body >>= f) := by
  apply Prog.onward_transact
  · trivial
  · exact fun s s' a _ done _ => .inr (fun indexed => edits s s' a indexed done)
  · exact fun s _ _ => .inl rfl
  · exact rest

theorem commit_led (target : Target) (expected : Option Nat) (body : Store → Except Refusal Store)
    (f : Unit → Request β)
    (edits : ∀ s s', Indexed s → body s = .ok s' → Edits target expected s s')
    (rest : Led (f ())) : Led (.commit (.write target expected) body >>= f) := by
  apply Prog.onward_commit
  · trivial
  · exact fun s s' _ done _ => .inr (fun indexed => edits s s' indexed done)
  · exact fun s _ _ => .inl rfl
  · exact rest

end Led

theorem setBranchVariantPrice_led (productId : Id) (dto : SetPriceDto) :
    Led (setBranchVariantPrice ctx has ids productId dto).void := by
  simp only [Prog.void, setBranchVariantPrice, assertVariantNotBelowCost, Prog.bind_assoc]
  apply activeBranch_led
  intro branchId
  apply Prog.onward_expect
  intro actorId _
  apply loadProduct_led
  intro product
  apply Prog.onward_require
  intro _
  apply read_led
  intro below
  have writes : Led (.transact (.write (.branchVariant ctx.companyId product.id branchId)
      dto.expectedVersion) (setBranchVariantPriceTx ctx ids branchId actorId product dto) >>=
        fun _ => (pure () : Request Unit)) := by
    apply write_led
    · exact fun s s' price _ done =>
        setBranchVariantPriceTx_edits ctx ids branchId actorId product dto s s' price done
    · exact fun _ => Prog.onward_done _
  split
  · exact writes
  · simp only [Prog.bind_assoc, Prog.pure_bind]
    apply Prog.onward_require
    intro _
    apply Prog.onward_require
    exact fun _ => writes

theorem removeBranchVariantPrice_led (productId : Id)
    (dto : RemovePriceDto) : Led (removeBranchVariantPrice ctx ids productId dto).void := by
  simp only [Prog.void, removeBranchVariantPrice, Prog.bind_assoc]
  apply activeBranch_led
  intro branchId
  apply Prog.onward_expect
  intro actorId _
  apply loadProduct_led
  intro product
  apply write_led
  · exact fun s s' price indexed done =>
      removeBranchVariantPriceTx_edits ctx ids branchId actorId product dto s s' price indexed done
  · exact fun _ => Prog.onward_done _

theorem setUnitOverride_led (identifier : Option String) (dto : SetPriceDto) :
    Led (setUnitOverride ctx has ids identifier dto).void := by
  simp only [Prog.void, setUnitOverride, Prog.bind_assoc]
  apply activeBranch_led
  intro branchId
  apply Prog.onward_expect
  intro actorId _
  apply loadUnit_led
  rintro ⟨unit, productDefault⟩
  apply Prog.onward_require
  intro _
  apply Prog.onward_require
  intro _
  apply Prog.onward_liftExcept
  intro _ _
  apply commit_led
  · exact fun s s' _ done => setUnitOverrideTx_edits ctx ids branchId actorId unit dto s s' done
  · exact Prog.onward_map _ _ (getUnitPricing_led ctx identifier)

theorem removeUnitOverride_led (dto : RemovePriceDto) :
    Led (removeUnitOverride ctx ids identifier dto).void := by
  simp only [Prog.void, removeUnitOverride, Prog.bind_assoc]
  apply activeBranch_led
  intro branchId
  apply Prog.onward_expect
  intro actorId _
  apply loadUnit_led
  rintro ⟨unit, productDefault⟩
  apply Prog.onward_require
  intro _
  apply commit_led
  · exact fun s s' indexed done =>
      removeUnitOverrideTx_edits ctx ids branchId actorId unit dto s s' indexed done
  · exact Prog.onward_map _ _ (getUnitPricing_led ctx identifier)

theorem setQuantityPrice_led (productId : Id) (dto : SetQuantityPriceDto) :
    Led (setQuantityPrice ctx has ids productId dto).void := by
  simp only [Prog.void, setQuantityPrice, Prog.bind_assoc]
  apply activeBranch_led
  intro branchId
  apply Prog.onward_expect
  intro actorId _
  apply loadProduct_led
  intro product
  apply Prog.onward_require
  intro _
  apply write_led
  · exact fun s s' price _ done =>
      setQuantityPriceTx_edits ctx has ids branchId actorId product dto s s' price done
  · exact fun _ => Prog.onward_done _

theorem call_led (p : Request Unit) (call : Call p) : Led p := by
  cases call with
  | setBranchVariantPrice ctx has ids productId dto =>
      exact setBranchVariantPrice_led ctx has ids productId dto
  | removeBranchVariantPrice ctx ids productId dto =>
      exact removeBranchVariantPrice_led ctx ids productId dto
  | setUnitOverride ctx has ids identifier dto =>
      exact setUnitOverride_led ctx has ids identifier dto
  | removeUnitOverride ctx ids identifier dto => exact removeUnitOverride_led ctx ids identifier dto
  | setQuantityPrice ctx has ids productId dto =>
      exact setQuantityPrice_led ctx has ids productId dto
  | receive ctx moves update kept =>
      apply Prog.onward_transact
      · trivial
      · intro s s' count _ done _
        exact .inr (fun indexed => ⟨update s, kept s,
          invalidateOnBranchMoveTx_retires ctx moves _ s' count ((kept s).indexed indexed) done⟩)
      · exact fun s _ _ => .inl rfl
      · exact fun _ => Prog.onward_done _
  | elsewhere update kept =>
      exact Prog.onward_execute (.other : Mark) update (fun _ => pure ()) trivial
        (fun s _ _ => kept s) (Prog.onward_done _)

theorem retires_indexed (retires : Relation.ReflTransGen Retires s s')
    (indexed : Indexed s) : Indexed s' := by
  induction retires with
  | refl => exact indexed
  | tail _ last ih => exact last.indexed ih

theorem leads_indexed {m : Mark} {s s' : Store} {next : Option Mark} (indexed : Indexed s)
    (led : leads m s s' next) : Indexed s' := by
  cases m with
  | other => exact led.indexed indexed
  | write target expected =>
      rcases led with rfl | edits
      · exact indexed
      · obtain ⟨after, -, wrote⟩ := edits indexed
        exact wrote.indexed indexed
  | move =>
      rcases led with rfl | retires
      · exact indexed
      · obtain ⟨middle, untouched, retired⟩ := retires indexed
        exact retires_indexed retired (untouched.indexed indexed)

/-- The unique keys hold, and every step is followed. -/
def writing : Protocol Store Mark where
  inv := Indexed
  fits _ _ := True
  leads := leads
  known _ _ := True
  apart _ _ _ := True
  apart_symm _ _ _ _ := trivial
  own _ _ _ _ indexed _ _ led := ⟨leads_indexed indexed led, fun _ _ => trivial⟩
  frame _ _ _ _ _ _ _ _ _ _ _ := ⟨trivial, fun _ _ => trivial⟩
  rest _ _ _ _ _ _ _ _ _ _ _ := trivial

theorem call_enters (p : Request Unit) (call : Call p) (s : Store) : writing.Enters p s :=
  ⟨(call_led p call).1, fun _ _ => trivial, fun _ _ _ => trivial⟩

theorem leads_keeps (holds : Store → Prop)
    (untouched : ∀ s s', Untouched s s' → holds s → holds s')
    (edits : ∀ target expected s s', Edits target expected s s' → holds s → holds s')
    (retires : ∀ s s', Retires s s' → holds s → holds s')
    {m : Mark} {s s' : Store} {next : Option Mark} (indexed : Indexed s)
    (led : leads m s s' next) (now : holds s) : holds s' := by
  cases m with
  | other => exact untouched s s' led now
  | write target expected =>
      rcases led with rfl | edited
      · exact now
      · exact edits target expected s s' (edited indexed) now
  | move =>
      rcases led with rfl | retired
      · exact now
      · obtain ⟨middle, same, moved⟩ := retired indexed
        have begun := untouched s middle same now
        clear same retired
        induction moved with
        | refl => exact begun
        | tail _ last ih => exact retires _ _ last ih

theorem run_keeps (holds : Store → Prop)
    (untouched : ∀ s s', Untouched s s' → holds s → holds s')
    (edits : ∀ target expected s s', Edits target expected s s' → holds s → holds s')
    (retires : ∀ s s', Retires s s' → holds s → holds s')
    {c c' : Config Store Mark Refusal Unit} (sound : writing.Sound c)
    (run : FittingRun Call (fun _ _ => True) c c') (now : holds c.store) : holds c'.store :=
  (sound.keeps writing (fun _ _ _ => trivial) (fun p call s _ => call_enters p call s) holds
    (fun _ _ _ _ indexed _ _ led => leads_keeps holds untouched edits retires indexed led)
    run now).2

theorem reached_sound (indexed : Indexed s) {c : Config Store Mark Refusal Unit}
    (run : FittingRun Call (fun _ _ => True) (.idle s) c) : writing.Sound c :=
  writing.run_sound Call _ c (fun p call s _ => call_enters p call s) run
    (writing.sound_idle s indexed)

/-- What a run adds to the history of a target: a chain of what was recorded, ending at a
price, and nothing where nothing was written. -/
structure Adds (target : Target) (s s' : Store) (new : List PriceChangeEvent) : Prop where
  history : history s' target = history s target ++ new
  chain : Chain (recorded (cell s target)) (new.map PriceChangeEvent.change)
    (recorded (cell s' target))
  priced : new ≠ [] → recorded (cell s' target) = priceOf s' target
  same : new = [] → cell s' target = cell s target

theorem Adds.untouched {s s' s'' : Store} {new : List PriceChangeEvent}
    (adds : Adds target s s' new) (same : cell s'' target = cell s' target)
    (events : Pricing.history s'' target = Pricing.history s' target) : Adds target s s'' new := by
  refine ⟨events.trans adds.history, ?_, ?_, ?_⟩
  · rw [same]
    exact adds.chain
  · rw [same, priceOf, same]
    exact adds.priced
  · rw [same]
    exact adds.same

theorem Adds.wrote {target changed : Target} {after : Option Cell} {s s' s'' : Store}
    {new : List PriceChangeEvent} (adds : Adds target s s' new)
    (wrote : Wrote changed after s' s'') (full : after.bind Cell.price = recorded after) :
    ∃ more, Adds target s s'' more := by
  have cells := wrote.cells target
  rcases wrote.history target with ⟨other, kept⟩ | ⟨rfl, event, change, added⟩
  · rw [if_neg other] at cells
    exact ⟨new, adds.untouched cells kept⟩
  · rw [if_pos rfl] at cells
    refine ⟨new ++ [event], ?_, ?_, ?_, ?_⟩
    · rw [added, adds.history, List.append_assoc]
    · rw [List.map_append, List.map_singleton, change, cells, full]
      exact adds.chain.snoc _
    · intro _
      rw [priceOf, cells, full]
    · simp

theorem Edit.full {expected : Option Nat} {before after : Option Cell}
    (edit : Edit expected before after) : after.bind Cell.price = recorded after := by
  cases edit <;> rfl

theorem run_adds (indexed : Indexed s) {c : Config Store Mark Refusal Unit}
    (run : FittingRun Call (fun _ _ => True) (.idle s) c) (target : Target) :
    ∃ new, Adds target s c.store new := by
  have start : ∃ new, Adds target s (Config.idle s : Config Store Mark Refusal Unit).store new :=
    ⟨[], by simp [Config.idle], rfl, fun none => absurd rfl none, fun _ => rfl⟩
  refine run_keeps (fun s' => ∃ new, Adds target s s' new) ?_ ?_ ?_
    (writing.sound_idle s indexed) run start
  · rintro s' s'' untouched ⟨new, adds⟩
    exact ⟨new, adds.untouched (untouched.cells target) (untouched.history target)⟩
  · rintro changed expected s' s'' ⟨after, edit, wrote⟩ ⟨new, adds⟩
    exact adds.wrote wrote edit.full
  · rintro s' s'' ⟨_, _, _, _, _, _, wrote⟩ ⟨new, adds⟩
    exact adds.wrote wrote rfl

def Unpriced (s : Store) (target : Target) : Prop :=
  ∃ version, cell s target = some ⟨none, version⟩

theorem recorded_of_priced (priced : ¬Unpriced s target) :
    recorded (cell s target) = priceOf s target := by
  rcases held : cell s target with _ | ⟨price, version⟩
  · simp [recorded, priceOf, held]
  · cases price with
    | none => exact absurd ⟨version, held⟩ priced
    | some price => simp [recorded, priceOf, held, numberOf]

/-- The events of a run lead from the price a target had to the price it has, unless they
begin with the first price of stock that had none. -/
theorem history_chains (s : Store) (indexed : Indexed s) (c : Config Store Mark Refusal Unit)
    (run : FittingRun Call (fun _ _ => True) (.idle s) c) (target : Target) :
    ∃ new, history c.store target = history s target ++ new ∧
      (Chain (priceOf s target) (new.map PriceChangeEvent.change) (priceOf c.store target) ↔
        ¬(Unpriced s target ∧ new ≠ [])) := by
  obtain ⟨new, adds⟩ := run_adds indexed run target
  refine ⟨new, adds.history, ?_⟩
  by_cases empty : new = []
  · simp [empty, priceOf, adds.same empty]
  · have chain := adds.chain
    rw [adds.priced empty] at chain
    constructor
    · rintro claimed ⟨⟨version, unpriced⟩, -⟩
      have zero := Chain.first_eq (by simpa using empty) claimed chain
      simp [priceOf, recorded, unpriced] at zero
    · intro ordinary
      rw [← recorded_of_priced (fun unpriced => ordinary ⟨unpriced, empty⟩)]
      exact chain

def cables : Product := ⟨60, 1, "Anker", "Cable", none, .quantity, none, none, none, none, none, 0⟩

def shelfAt (price : Option Int) : Store where
  db :=
    { products := ⟨[cables], List.nodup_singleton _⟩
      stockItems := ⟨[⟨1, 60, 2, 4, 10000, price, 0, 0⟩], List.nodup_singleton _⟩ }
  userBranches := ⟨[⟨40, 1, 9, 2, 20⟩], List.nodup_singleton _⟩

theorem shelfAt_indexed (price : Option Int) : Indexed (shelfAt price) :=
  ⟨fun _ member => (by cases member), fun _ member => (by cases member)⟩

def manager : Ctx := ⟨1, some 2, some 9, 0⟩

def nothing : Permission → Bool := fun _ => false

def firstPrice : Request Unit :=
  (setQuantityPrice manager nothing ⟨70, 71⟩ 60 ⟨⟨15000, by decide⟩, 0, none⟩).void

def pricing : List (Move Store Mark Refusal Unit) :=
  [.arrive firstPrice, .advance 0, .advance 0, .advance 0]

theorem pricing_run (price : Option Int) : FittingRun Call (fun _ _ => True) (.idle (shelfAt price))
    ((Config.idle (shelfAt price)).schedule pricing) := by
  apply fitting_schedule
  · intro p member
    simp only [pricing, List.mem_cons, Move.arrive.injEq, reduceCtorEq, List.not_mem_nil, or_false]
      at member
    rw [member]
    exact .setQuantityPrice manager nothing ⟨70, 71⟩ 60 ⟨⟨15000, by decide⟩, 0, none⟩
  · exact fits_any _ _

theorem history_broken :
    ¬ ∀ s, Indexed s → ∀ c, FittingRun Call (fun _ _ => True) (.idle s) c → ∀ target, ∃ new,
      history c.store target = history s target ++ new ∧
        Chain (priceOf s target) (new.map PriceChangeEvent.change) (priceOf c.store target) := by
  intro claim
  obtain ⟨new, added, chain⟩ := claim _ (shelfAt_indexed none) _ (pricing_run none)
    (.stockItem 1 60 2)
  have before : history (shelfAt none) (.stockItem 1 60 2) = [] := rfl
  rw [before, List.nil_append] at added
  rw [← added] at chain
  exact absurd chain (by decide +kernel)

theorem history_chains_shelf :
    Chain (some 12000) [(some 12000, some 15000)]
      (priceOf ((Config.idle (shelfAt (some 12000))).schedule pricing).store
        (.stockItem 1 60 2)) := by
  obtain ⟨new, added, chained⟩ := history_chains (shelfAt (some 12000)) (shelfAt_indexed _) _
    (pricing_run _) (.stockItem 1 60 2)
  have before : history (shelfAt (some 12000)) (.stockItem 1 60 2) = [] := rfl
  rw [before, List.nil_append] at added
  have chain := chained.mpr (by
    rintro ⟨⟨version, unpriced⟩, -⟩
    cases unpriced)
  rw [← added] at chain
  exact chain

end ErpBackend.Pricing
