import ErpBackend.Trimming
import ErpBackend.Transfers.Lines
import ErpBackend.Inventory.Identifiers
import ErpBackend.Returns.Service
import ErpBackend.Sales.Service
import ErpBackend.Transfers.Service

/-!
# One number, five lookups

Selling, pricing, requesting a transfer, receiving it and returning each look a
phone up by a number on it, each in a query of its own. Sale, pricing and
return ask all three columns; a transfer keys the phone by one.
-/

namespace ErpBackend.Inventory

open Foundation

/-- `PricingService.loadUnitByIdentifier`. -/
def loadUnitByIdentifier (db : Db) (companyId : Id) (identifier : Option String) :
    Except Refusal StockUnit :=
  match trimOrNull identifier with
  | none => .error (.badRequest "Scan or type an IMEI or serial number")
  | some trimmed =>
      match db.units.rows.find? (fun unit => unit.companyId = companyId ∧
          (unit.imeiPrimary = some trimmed ∨ unit.imeiSecondary = some trimmed ∨
            unit.serialNo = some trimmed)) with
      | none => .error (.notFound ("Not found: " ++ trimmed))
      | some unit => .ok unit

/-- The phone that `TransfersService.create` takes for one of the numbers it was sent. -/
def requestedUnit (db : Db) (companyId : Id) (identifiers : List String) (identifier : String) :
    Option StockUnit :=
  Transfers.byIdentifier (db.units.filter (fun unit => unit.companyId = companyId ∧
    (unit.imeiPrimary.any (· ∈ identifiers) ∨ unit.serialNo.any (· ∈ identifiers)))) identifier

theorem create_requested (ctx : Ctx) (has : Permission → Bool) (ids : Transfers.TransferIds)
    (dto : Transfers.CreateTransferDto) (lines : Transfers.NormalizedLines)
    (normal : Transfers.normalizeLines dto = .ok lines) (db : Db)
    (fresh : Transfers.findReplay db ctx.companyId dto lines = .ok none) :
    (Transfers.create ctx has ids dto).Ensures (fun _ result =>
      (∃ summary, result = .ok summary) → ∀ identifier ∈ lines.identifiers, ∃ unit,
        requestedUnit db ctx.companyId lines.identifiers identifier = some unit ∧
          unit.status = .inStock) db := by
  have refused : ∀ refusal : Refusal, (∃ summary : Transfers.TransferSummary,
      (.error refusal : Except Refusal Transfers.TransferSummary) = .ok summary) →
        ∀ identifier ∈ lines.identifiers, ∃ unit,
          requestedUnit db ctx.companyId lines.identifiers identifier = some unit ∧
            unit.status = .inStock := by
    intro refusal answered
    obtain ⟨summary, absurdly⟩ := answered
    cases absurdly
  unfold Transfers.create
  refine (Prog.ensures_expect _ _ _ _ _).mpr ⟨?_, fun _ => refused _⟩
  intro fromBranchId _
  refine (Prog.ensures_require _ _ _ _ _).mpr ⟨?_, fun _ => refused _⟩
  intro _
  rw [normal]
  refine (Prog.ensures_liftExcept _ _ _ _).mpr ⟨?_, fun _ _ => refused _⟩
  rintro _ ⟨⟩
  rw [Prog.ensures_read, fresh]
  refine (Prog.ensures_liftExcept _ _ _ _).mpr ⟨?_, fun _ _ => refused _⟩
  rintro _ ⟨⟩
  rw [Prog.ensures_read]
  refine (Prog.ensures_require _ _ _ _ _).mpr ⟨?_, fun _ => refused _⟩
  intro _
  rw [Prog.ensures_read, Prog.ensures_read]
  refine (Prog.ensures_liftExcept _ _ _ _).mpr ⟨?_, fun _ _ => refused _⟩
  intro planned _
  rw [Prog.ensures_read]
  refine (Prog.ensures_require _ _ _ _ _).mpr ⟨?_, fun _ => refused _⟩
  intro clear _ identifier member
  have none := List.filterMap_eq_nil_iff.mp clear identifier member
  unfold Transfers.unitProblem at none
  split at none
  · cases none
  · next unit found =>
    split at none
    · cases none
    · next status => exact ⟨unit, found, not_not.mp status⟩

/-- Every workflow that is given the number comes to this phone, and to no other. -/
structure LeadsTo (db : Db) (unit : StockUnit) (code : String) : Prop where
  sold : ({ identifier := some code } : Sales.SaleLineDto).scanned.bind
    (Sales.findSellable db unit.companyId) = some unit
  priced : loadUnitByIdentifier db unit.companyId (some code) = .ok unit
  requested : ∀ dto lines, Transfers.normalizeLines dto = .ok lines →
    .unit code ∈ Transfers.requestedLines dto →
      requestedUnit db unit.companyId lines.identifiers (trim code) = some unit
  received : ∀ items : List Transfers.Loaded,
    (∀ loaded ∈ items, ∀ other ∈ loaded.2, other ∈ db.units.rows) →
      (∃ loaded ∈ items, loaded.2 = some unit) → ∀ other,
        other ∈ Transfers.scannedUnits items (Transfers.computeDiscrepancy
          (items.filterMap (fun loaded => loaded.2.map StockUnit.identifier)) [code]) ↔
            other = unit
  returned : ∀ other ∈ db.units.rows, Returns.presents other (trim code) = true ↔ other = unit

theorem normalizeLines_mem (dto : Transfers.CreateTransferDto) (lines : Transfers.NormalizedLines)
    (normal : Transfers.normalizeLines dto = .ok lines) (code : String)
    (listed : .unit code ∈ Transfers.requestedLines dto) : trim code ∈ lines.identifiers := by
  rw [(Transfers.normalizeLines_ok dto lines normal).1]
  exact Transfers.unitsOf_mem _ code listed

theorem find?_only {α : Type} (q : α → Bool) (rows : List α) (a : α) (member : a ∈ rows)
    (matched : q a = true) (only : ∀ b ∈ rows, q b = true → b = a) : rows.find? q = some a := by
  rcases found : rows.find? q with _ | b
  · exact absurd matched (List.find?_eq_none.mp found a member)
  · rw [only b (List.mem_of_find?_eq_some found) (List.find?_some found)]

theorem carries_only (units : Units) (exclusive : Exclusive units) (a b : StockUnit)
    (memberA : a ∈ units.rows) (memberB : b ∈ units.rows) (code : String)
    (carriesA : Carries a code)
    (carriesB : Carries b code) : b = a := by
  by_cases same : b.id = a.id
  · exact units.key_injective b a memberB memberA same
  · exact absurd carriesA (exclusive b memberB a memberA same code carriesB)

theorem carries_identifier (unit : StockUnit) (code : String) (filled : code ≠ "")
    (identified : unit.identifier = code) :
    Carries unit code ∧ (unit.imeiPrimary = some code ∨ unit.serialNo = some code) := by
  unfold StockUnit.identifier at identified
  rcases primary : unit.imeiPrimary with _ | imei
  · rw [primary, Option.none_or] at identified
    rcases serial : unit.serialNo with _ | number
    · rw [serial] at identified
      exact absurd identified.symm filled
    · rw [serial] at identified
      cases identified
      exact ⟨.inr (.inr serial), .inr rfl⟩
  · rw [primary, Option.some_or] at identified
    cases identified
    exact ⟨.inl primary, .inl rfl⟩

theorem mem_scannedUnits (items : List Transfers.Loaded) (code : String) (unit : StockUnit) :
    unit ∈ Transfers.scannedUnits items (Transfers.computeDiscrepancy
        (items.filterMap (fun loaded => loaded.2.map StockUnit.identifier)) [code]) ↔
      (∃ loaded ∈ items, loaded.2 = some unit) ∧ unit.identifier = code := by
  unfold Transfers.scannedUnits Transfers.computeDiscrepancy
  rw [List.mem_filterMap]
  constructor
  · rintro ⟨loaded, member, kept⟩
    obtain ⟨holds, matched⟩ := Option.filter_eq_some_iff.mp kept
    rw [decide_eq_true_eq, List.mem_filter, decide_eq_true_eq, List.mem_singleton] at matched
    exact ⟨⟨loaded, member, holds⟩, matched.2⟩
  · rintro ⟨⟨loaded, member, holds⟩, same⟩
    refine ⟨loaded, member, Option.filter_eq_some_iff.mpr ⟨holds, ?_⟩⟩
    rw [decide_eq_true_eq, List.mem_filter, decide_eq_true_eq, List.mem_singleton]
    refine ⟨List.mem_filterMap.mpr ⟨loaded, member, ?_⟩, same⟩
    rw [holds]
    rfl

theorem leadsTo_of_identifier (db : Db) (exclusive : Exclusive db.units) (unit : StockUnit)
    (member : unit ∈ db.units.rows) (code : String) (identified : unit.identifier = code)
    (trimmed : trim code = code) (filled : code ≠ "") : LeadsTo db unit code := by
  obtain ⟨carries, column⟩ := carries_identifier unit code filled identified
  have only : ∀ other ∈ db.units.rows, Carries other code → other = unit :=
    fun other inside again =>
    carries_only db.units exclusive unit other member inside code carries again
  have lookup : db.units.rows.find? (fun other => other.companyId = unit.companyId ∧
      (other.imeiPrimary = some code ∨ other.imeiSecondary = some code ∨
        other.serialNo = some code)) = some unit := by
    refine find?_only _ _ unit member (decide_eq_true ⟨rfl, carries⟩) ?_
    intro other inside matched
    exact only other inside (of_decide_eq_true matched).2
  refine ⟨?_, ?_, ?_, ?_, ?_⟩
  · have scanned : ({ identifier := some code } : Sales.SaleLineDto).scanned = some code := by
      simp [Sales.SaleLineDto.scanned, filled]
    rw [scanned, Option.bind_some]
    exact lookup
  · unfold loadUnitByIdentifier
    rw [trimOrNull_some, trimmed, if_neg filled]
    dsimp only
    rw [lookup]
  · intro dto lines normal listed
    have inside := normalizeLines_mem dto lines normal code listed
    rw [trimmed] at inside ⊢
    unfold requestedUnit Transfers.byIdentifier
    refine find?_only _ _ unit ?_ (decide_eq_true identified) ?_
    · rw [List.mem_reverse, Table.mem_filter]
      refine ⟨member, decide_eq_true ⟨rfl, ?_⟩⟩
      rcases column with primary | serial
      · exact .inl (by simp [primary, inside])
      · exact .inr (by simp [serial, inside])
    · intro other listed matched
      obtain ⟨there, -⟩ := (Table.mem_filter _ _ _).mp (List.mem_reverse.mp listed)
      exact only other there
        (carries_identifier other code filled (of_decide_eq_true matched)).1
  · intro items stored carried other
    rw [mem_scannedUnits]
    constructor
    · rintro ⟨⟨loaded, inside, holds⟩, same⟩
      exact only other (stored loaded inside other holds)
        (carries_identifier other code filled same).1
    · rintro rfl
      exact ⟨carried, identified⟩
  · intro other inside
    rw [trimmed]
    constructor
    · intro presented
      unfold Returns.presents at presented
      rw [decide_eq_true_eq] at presented
      exact only other inside presented
    · rintro rfl
      exact decide_eq_true carries

/-- A number leads every workflow to a phone exactly when it is the one a transfer keys the
phone by, and is stored as it is typed. -/
theorem leadsTo_iff_identifier (db : Db) (exclusive : Exclusive db.units) (unit : StockUnit)
    (member : unit ∈ db.units.rows) (code : String) :
    LeadsTo db unit code ↔ unit.identifier = code ∧ trim code = code ∧ code ≠ "" := by
  constructor
  · intro leads
    have filled : code ≠ "" := by
      rintro rfl
      have sold := leads.sold
      simp [Sales.SaleLineDto.scanned, Option.filter_some] at sold
    have item : TransferItem := ⟨0, 0, 0, none, none, 1, none⟩
    have identified : unit.identifier = code := by
      have received := (leads.received [(item, some unit)] (by
        intro loaded inside other holds
        rw [List.mem_singleton.mp inside] at holds
        cases holds
        exact member) ⟨_, List.mem_singleton.mpr rfl, rfl⟩ unit).mpr rfl
      exact ((mem_scannedUnits _ _ _).mp received).2
    have visible : trim code ≠ "" := by
      intro gone
      have priced := leads.priced
      unfold loadUnitByIdentifier at priced
      rw [trimOrNull_some, if_pos gone] at priced
      cases priced
    have requested := leads.requested ⟨0, "", none, some [code]⟩ ⟨[trim code], []⟩ (by
      simp [Transfers.normalizeLines, Transfers.requestedLines, Transfers.readLine, visible])
      (by simp [Transfers.requestedLines])
    have keyed : unit.identifier = trim code := by
      unfold requestedUnit Transfers.byIdentifier at requested
      have matched := List.find?_some requested
      rw [decide_eq_true_eq] at matched
      exact matched
    exact ⟨identified, keyed.symm.trans identified, filled⟩
  · rintro ⟨identified, trimmed, filled⟩
    exact leadsTo_of_identifier db exclusive unit member code identified trimmed filled

def dualSimShop : Db where
  units := ⟨[dualSim], List.nodup_singleton _⟩

theorem dualSimShop_exclusive : Exclusive dualSimShop.units := by
  intro a memberA b memberB apart
  rw [List.mem_singleton.mp memberA, List.mem_singleton.mp memberB] at apart
  exact absurd rfl apart

/-- A transfer does not know the phone by its second IMEI. -/
theorem second_imei_lost :
    ¬ ∀ db : Db, Exclusive db.units → ∀ unit ∈ db.units.rows, ∀ code, Carries unit code →
      LeadsTo db unit code := by
  intro claim
  have leads := claim dualSimShop dualSimShop_exclusive dualSim (List.mem_singleton.mpr rfl)
    "490154203237518" (.inr (.inl rfl))
  have requested := leads.requested ⟨0, "", none, some ["490154203237518"]⟩
    ⟨["490154203237518"], []⟩ rfl (List.mem_singleton.mpr rfl)
  revert requested
  decide +kernel

theorem leadsTo_iff_identifier_primary :
    LeadsTo dualSimShop dualSim "356938035643809" ↔
      dualSim.identifier = "356938035643809" ∧ trim "356938035643809" = "356938035643809" ∧
        "356938035643809" ≠ "" :=
  leadsTo_iff_identifier dualSimShop dualSimShop_exclusive dualSim (List.mem_singleton.mpr rfl)
    "356938035643809"

end ErpBackend.Inventory
