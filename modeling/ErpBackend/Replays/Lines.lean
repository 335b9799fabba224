import ErpBackend.Foundation.Sorting
import ErpBackend.Purchasing.Rules
import ErpBackend.Replays.Json
import ErpBackend.Replays.Reports
import ErpBackend.Suppliers.Service
import ErpBackend.Transfers.Lines

/-!
# The same lines, the same text?

The texts of a delivery, of a payment to a supplier and of a transfer are meant not to depend on
the order of their lines, and to depend on everything else that is in them.
-/

namespace ErpBackend.Replays

open Foundation

section Delivery

open Purchasing

structure DeliveredLine where
  productId : Id
  unitCost : Amount
  quantity : Option Count
  price : Option Money
  identifiers : List String
  deriving DecidableEq

def deliveredLine (line : ReceiveItemDto) : DeliveredLine where
  productId := line.productId
  unitCost := line.unitCost
  quantity := line.quantity
  price := line.price
  identifiers := (line.identifiers.getD []).insertionSort (· ≤ ·)

def deliveredLines (dto : CreatePurchaseDto) : List DeliveredLine := dto.items.map deliveredLine

structure DeliveryHeader where
  supplierId : Id
  referenceNo : Option String
  paid : Int
  deriving DecidableEq

def deliveryHeader (dto : CreatePurchaseDto) : DeliveryHeader :=
  ⟨dto.supplierId, dto.referenceNo, paidUpFront dto⟩

def lineText (line : ReceiveItemDto) : String :=
  "\x7b\"productId\":" ++ jsonString (toString line.productId) ++
    ",\"unitCost\":" ++ renderAmount line.unitCost.cents ++
    ",\"quantity\":" ++ jsonNull (line.quantity.map (fun count => toString count.value)) ++
    ",\"price\":" ++ jsonNull (line.price.map (fun price => renderAmount price.cents)) ++
    ",\"identifiers\":" ++
      jsonList ((line.identifiers.getD []).insertionSort (· ≤ ·)) ++ "\x7d"

variable (dto : CreatePurchaseDto)

theorem fingerprint_text :
    fingerprint dto =
      "\x7b\"supplierId\":" ++ jsonString (toString dto.supplierId) ++
        ",\"referenceNo\":" ++ jsonNull (dto.referenceNo.map jsonString) ++
        ",\"paidAmount\":" ++ renderAmount (paidUpFront dto) ++
        ",\"items\":[" ++ String.intercalate "," ((dto.items.insertionSort (fun left right =>
          left.productId ≤ right.productId)).map lineText) ++ "]\x7d" := rfl

def writeMissing {α : Type} (write : α → List Char) (value : Option α) : List Char :=
  value.elim ('n' :: "ull".toList) write

def writeLine (line : DeliveredLine) : List Char :=
  "\x7b\"productId\":".toList ++
    ((jsonString (toString line.productId)).toList ++ (",\"unitCost\":".toList ++
      ((renderAmount line.unitCost.cents).toList ++ (",\"quantity\":".toList ++
        (writeMissing (fun count : Count => (toString count.value).toList) line.quantity ++
          (",\"price\":".toList ++
            (writeMissing (fun price : Money => (renderAmount price.cents).toList) line.price ++
              (",\"identifiers\":".toList ++
                ((jsonList line.identifiers).toList ++ "\x7d".toList)))))))))

theorem lineText_toList (line : ReceiveItemDto) :
    (lineText line).toList = writeLine (deliveredLine line) := by
  unfold lineText writeLine deliveredLine jsonNull writeMissing
  simp only [String.toList_append, List.append_assoc, null_toList, Option.elim_map,
    Function.comp_def]

theorem digit_begins (text : List Char) (nonempty : text ≠ [])
    (plainly : ∀ c ∈ text, plain c = true) : ∃ c tail, text = c :: tail ∧ c ≠ 'n' := by
  cases text with
  | nil => exact absurd rfl nonempty
  | cons c tail =>
    refine ⟨c, tail, rfl, ?_⟩
    rintro rfl
    exact absurd (plainly 'n' (by simp)) (by decide)

theorem count_begins (count : Count) :
    ∃ c tail, (toString count.value).toList = c :: tail ∧ c ≠ 'n' := by
  obtain ⟨n, value⟩ := Int.eq_ofNat_of_zero_le count.positive.le
  rw [value]
  exact digit_begins (toString n).toList (toString_filled n) (plain_toString n)

theorem price_begins (price : Money) :
    ∃ c tail, (renderAmount price.cents).toList = c :: tail ∧ c ≠ 'n' := by
  obtain ⟨n, value⟩ := Int.eq_ofNat_of_zero_le price.nonneg
  rw [value]
  refine digit_begins _ ?_ (plain_renderAmount n)
  rw [renderAmount_toList]
  simp

theorem readable_line : Readable jsonMark writeLine := by
  have identifiers := readable_strings.closed "\x7d".toList (by simp [Stops, jsonMark])
  have price := ((readable_cents Money.cents Money.nonneg money_same).option 'n' "ull".toList
    price_begins).andThen identifiers ",\"identifiers\":".toList (by simp [Stops, jsonMark])
  have quantity := (readable_count.option 'n' "ull".toList count_begins).andThen price
    ",\"price\":".toList (by simp [Stops, jsonMark])
  have cost := (readable_cents Amount.cents (fun amount => amount.positive.le) amount_same).andThen
    quantity ",\"quantity\":".toList (by simp [Stops, jsonMark])
  have product := readable_id.andThen cost ",\"unitCost\":".toList (by simp [Stops, jsonMark])
  exact (product.after "\x7b\"productId\":".toList).comp
    (fun line : DeliveredLine =>
      (line.productId, line.unitCost, line.quantity, line.price, line.identifiers))
    (by rintro ⟨_⟩ ⟨_⟩ same; simpa using same)

theorem line_begins (line : DeliveredLine) :
    ∃ c tail, writeLine line = c :: tail ∧ c ≠ ']' := by
  have lead : "\x7b\"productId\":".toList = '\x7b' :: "\"productId\":".toList := rfl
  unfold writeLine
  rw [lead]
  exact ⟨_, _, rfl, by decide⟩

def writeDelivery (delivery : (Id × Option String × Money) × List DeliveredLine) : List Char :=
  "\x7b\"supplierId\":".toList ++
    ((jsonString (toString delivery.1.1)).toList ++ (",\"referenceNo\":".toList ++
      (writeMissing (fun text => (jsonString text).toList) delivery.1.2.1 ++
        (",\"paidAmount\":".toList ++ ((renderAmount delivery.1.2.2.cents).toList ++
          (",\"items\":[".toList ++
            (writeItems ',' writeLine delivery.2 ++ ([']'] ++ "\x7d".toList))))))))

theorem readable_delivery : Readable jsonMark writeDelivery := by
  have items := (readable_line.items (.inl rfl : jsonMark ',') (.inr (.inr rfl) : jsonMark ']')
    (by decide) line_begins).closed "\x7d".toList (by simp [Stops, jsonMark])
  have paid := (readable_cents Money.cents Money.nonneg money_same).andThen items
    ",\"items\":[".toList (by simp [Stops, jsonMark])
  have reference := (readable_string.option 'n' "ull".toList
    (fun text => ⟨'"', _, jsonString_toList text, by decide⟩)).andThen paid
    ",\"paidAmount\":".toList (by simp [Stops, jsonMark])
  have supplier := readable_id.andThen reference ",\"referenceNo\":".toList
    (by simp [Stops, jsonMark])
  have all := (supplier.after "\x7b\"supplierId\":".toList).comp
    (fun delivery : (Id × Option String × Money) × List DeliveredLine =>
      (delivery.1.1, delivery.1.2.1, delivery.1.2.2, delivery.2))
    (by rintro ⟨⟨_, _, _⟩, _⟩ ⟨⟨_, _, _⟩, _⟩ same; simpa [and_assoc] using same)
  intro a b rest rest' stops stops' same
  refine all a b rest rest' stops stops' ?_
  unfold writeDelivery writeMissing at same
  simpa only [List.append_assoc, List.singleton_append] using same

def paidMoney (dto : CreatePurchaseDto) : Money := dto.paidAmount.getD 0

theorem paidUpFront_money : paidUpFront dto = (paidMoney dto).cents := by
  unfold paidUpFront paidMoney
  cases dto.paidAmount <;> rfl

theorem sorted_lines :
    ((dto.items.insertionSort (fun left right => left.productId ≤ right.productId)).map
      deliveredLine) = (deliveredLines dto).insertionSort (ByKey DeliveredLine.productId) :=
  List.map_insertionSort _ _ _ _ (fun _ _ _ _ => Iff.rfl)

theorem fingerprint_toList :
    (fingerprint dto).toList = writeDelivery ((dto.supplierId, dto.referenceNo, paidMoney dto),
      (deliveredLines dto).insertionSort (ByKey DeliveredLine.productId)) := by
  have lines : writeItems ',' (fun line => (lineText line).toList)
      (dto.items.insertionSort (fun left right => left.productId ≤ right.productId)) =
      writeItems ',' writeLine
        ((deliveredLines dto).insertionSort (ByKey DeliveredLine.productId)) := by
    rw [← sorted_lines, writeItems_map]
    simp only [lineText_toList]
  have close : "]\x7d".toList = [']'] ++ "\x7d".toList := rfl
  rw [fingerprint_text]
  unfold writeDelivery jsonNull writeMissing
  simp only [String.toList_append, List.append_assoc, null_toList, Option.elim_map,
    Function.comp_def, intercalate_items, lines, paidUpFront_money, close]

def deliveredOf (dto : CreatePurchaseDto) (product : Id) : List DeliveredLine :=
  itemsOf DeliveredLine.productId product (deliveredLines dto)

theorem fingerprint_iff (a b : CreatePurchaseDto) :
    fingerprint a = fingerprint b ↔
      deliveryHeader a = deliveryHeader b ∧
        ∀ product, deliveredOf a product = deliveredOf b product := by
  have lines := insertionSort_key_same DeliveredLine.productId (deliveredLines a) (deliveredLines b)
  have paid : paidMoney a = paidMoney b ↔ paidUpFront a = paidUpFront b := by
    rw [paidUpFront_money, paidUpFront_money]
    exact ⟨congrArg Money.cents, money_same _ _⟩
  constructor
  · intro same
    have texts := congrArg String.toList same
    rw [fingerprint_toList, fingerprint_toList] at texts
    have values := readable_delivery.injective ',' (.inl rfl) _ _ texts
    simp only [Prod.mk.injEq] at values
    obtain ⟨⟨supplier, reference, money⟩, sorted⟩ := values
    refine ⟨?_, lines.mp sorted⟩
    simp only [deliveryHeader, supplier, reference, paid.mp money]
  · rintro ⟨header, each⟩
    simp only [deliveryHeader, DeliveryHeader.mk.injEq] at header
    obtain ⟨supplier, reference, money⟩ := header
    apply String.toList_injective
    rw [fingerprint_toList, fingerprint_toList, supplier, reference, paid.mpr money, lines.mpr each]

/-- The text of a delivery does not depend on the order of its lines, and depends on them and on
the header. -/
structure DeliveryTold (a b : CreatePurchaseDto) : Prop where
  reordered : b = { a with items := b.items } → a.items.Perm b.items →
    fingerprint a = fingerprint b
  distinct : ¬ (deliveryHeader a = deliveryHeader b ∧ a.dueDate = b.dueDate ∧
    (deliveredLines a).Perm (deliveredLines b)) → fingerprint a ≠ fingerprint b

/-- Lines of one product stay in their order, and no two deliveries differ in nothing but the
day the rest is due. -/
structure DeliveryOrdered (a b : CreatePurchaseDto) : Prop where
  lines : b = { a with items := b.items } → a.items.Perm b.items →
    ∀ product, deliveredOf a product = deliveredOf b product
  due : deliveryHeader a = deliveryHeader b →
    (∀ product, deliveredOf a product = deliveredOf b product) → a.dueDate = b.dueDate

theorem delivery_told (a b : CreatePurchaseDto) : DeliveryTold a b ↔ DeliveryOrdered a b := by
  constructor
  · intro told
    constructor
    · intro rest perm
      exact ((fingerprint_iff a b).mp (told.reordered rest perm)).2
    · intro header each
      by_contra other
      exact told.distinct (fun same => other same.2.1) ((fingerprint_iff a b).mpr ⟨header, each⟩)
  · intro ordered
    constructor
    · intro rest perm
      have header : deliveryHeader a = deliveryHeader b := by rw [rest]; rfl
      exact (fingerprint_iff a b).mpr ⟨header, ordered.lines rest perm⟩
    · intro differ same
      obtain ⟨header, each⟩ := (fingerprint_iff a b).mp same
      exact differ ⟨header, ordered.due header each,
        perm_of_itemsOf DeliveredLine.productId _ _ each⟩

end Delivery

section Settlement

open Suppliers

def allocated (allocation : SettlementAllocationDto) : AllocationInput :=
  ⟨allocation.purchaseId, allocation.amount.cents⟩

/-- What `report` takes the fingerprint of. -/
def settlementText (dto : ReportSettlementDto) : String :=
  settlementFingerprint dto.supplierId dto.amount.cents dto.method dto.receivingAccountId
    (dto.allocations.map allocated)

def allocationText (allocation : SettlementAllocationDto) : String :=
  toString allocation.purchaseId ++ ":" ++ renderFixed allocation.amount.cents

theorem allocationText_toList (allocation : SettlementAllocationDto) :
    (allocationText allocation).toList = (toString allocation.purchaseId).toList ++
      ':' :: (renderFixed allocation.amount.cents).toList := by
  simp [allocationText, String.toList_append]

theorem colon_free (n : Nat) : ':' ∉ (toString n).toList := by
  intro member
  exact absurd (toString_digits n ':' member) (by decide)

theorem allocationText_same (a b : SettlementAllocationDto) :
    allocationText a = allocationText b ↔ allocated a = allocated b := by
  rw [← String.toList_inj, allocationText_toList, allocationText_toList,
    joined_free ':' _ _ _ _ (colon_free _) (colon_free _), String.toList_inj, String.toList_inj,
    renderFixed_same _ _ a.amount.positive.le b.amount.positive.le]
  simp only [allocated, AllocationInput.mk.injEq]
  exact and_congr_left' ⟨toString_injective _ _, congrArg toString⟩

structure SettlementHeader where
  supplierId : Id
  amount : Amount
  method : Method
  receivingAccountId : Option Id
  deriving DecidableEq

def settlementHeader (dto : ReportSettlementDto) : SettlementHeader :=
  ⟨dto.supplierId, dto.amount, dto.method, dto.receivingAccountId⟩

def writeSettlement (report : SettlementHeader × List String) : List Char :=
  "\x7b\"supplierId\":".toList ++
    ((jsonString (toString report.1.supplierId)).toList ++ (",\"amount\":".toList ++
      ((jsonString (renderFixed report.1.amount.cents)).toList ++ (",\"method\":".toList ++
        ((jsonString report.1.method.text).toList ++ (",\"account\":".toList ++
          (writeMissing (fun id : Nat => (jsonString (toString id)).toList)
              report.1.receivingAccountId ++
            (",\"allocations\":".toList ++ ((jsonList report.2).toList ++ "\x7d".toList)))))))))

theorem readable_settlement : Readable jsonMark writeSettlement := by
  have allocations := readable_strings.closed "\x7d".toList (by simp [Stops, jsonMark])
  have account := (readable_id.option 'n' "ull".toList
    (fun id => ⟨'"', _, jsonString_toList _, by decide⟩)).andThen allocations
    ",\"allocations\":".toList (by simp [Stops, jsonMark])
  have method :=
    (readable_string.comp Method.text (fun a b => (method_text a b).mp)).andThen account
    ",\"account\":".toList (by simp [Stops, jsonMark])
  have amount := (readable_string.comp (fun amount : Amount => renderFixed amount.cents)
    (fun a b same =>
      amount_same a b ((renderFixed_same _ _ a.positive.le b.positive.le).mp same))).andThen
    method ",\"method\":".toList (by simp [Stops, jsonMark])
  have supplier := readable_id.andThen amount ",\"amount\":".toList (by simp [Stops, jsonMark])
  exact (supplier.after "\x7b\"supplierId\":".toList).comp
    (fun report : SettlementHeader × List String => (report.1.supplierId, report.1.amount,
      report.1.method, report.1.receivingAccountId, report.2))
    (by rintro ⟨⟨_⟩, _⟩ ⟨⟨_⟩, _⟩ same; simpa [and_assoc] using same)

theorem settlementText_toList (dto : ReportSettlementDto) :
    (settlementText dto).toList = writeSettlement (settlementHeader dto,
      (dto.allocations.map allocationText).insertionSort (· ≤ ·)) := by
  have texts : (dto.allocations.map allocated).map (fun allocation =>
      toString allocation.purchaseId ++ ":" ++ renderFixed allocation.amount) =
      dto.allocations.map allocationText := by
    rw [List.map_map]
    rfl
  unfold settlementText settlementFingerprint writeSettlement writeMissing settlementHeader
  simp only [String.toList_append, List.append_assoc, null_toList, Option.elim_map,
    Function.comp_def, texts]

theorem settlementText_iff (a b : ReportSettlementDto) :
    settlementText a = settlementText b ↔ settlementHeader a = settlementHeader b ∧
      (a.allocations.map allocated).Perm (b.allocations.map allocated) := by
  have sorted := (insertionSort_same (· ≤ ·) (a.allocations.map allocationText)
    (b.allocations.map allocationText)).trans
    (perm_map_same allocationText allocated allocationText_same a.allocations b.allocations)
  rw [← sorted]
  constructor
  · intro same
    have texts := congrArg String.toList same
    rw [settlementText_toList, settlementText_toList] at texts
    simpa using readable_settlement.injective ',' (.inl rfl) _ _ texts
  · rintro ⟨header, lines⟩
    apply String.toList_injective
    rw [settlementText_toList, settlementText_toList, header, lines]

def besideSettlement (dto : ReportSettlementDto) : Option String × Option String :=
  (dto.transactionReference, dto.note)

structure SettlementTold (a b : ReportSettlementDto) : Prop where
  reordered : b = { a with allocations := b.allocations } → a.allocations.Perm b.allocations →
    settlementText a = settlementText b
  distinct : ¬ (settlementHeader a = settlementHeader b ∧ besideSettlement a = besideSettlement b ∧
    (a.allocations.map allocated).Perm (b.allocations.map allocated)) →
      settlementText a ≠ settlementText b

/-- No two payments differ in nothing but the reference or the note. -/
def SettlementComplete (a b : ReportSettlementDto) : Prop :=
  settlementHeader a = settlementHeader b →
    (a.allocations.map allocated).Perm (b.allocations.map allocated) →
      besideSettlement a = besideSettlement b

theorem settlement_told (a b : ReportSettlementDto) :
    SettlementTold a b ↔ SettlementComplete a b := by
  constructor
  · intro told header lines
    by_contra other
    exact told.distinct (fun same => other same.2.1) ((settlementText_iff a b).mpr ⟨header, lines⟩)
  · intro complete
    constructor
    · intro rest perm
      have header : settlementHeader a = settlementHeader b := by rw [rest]; rfl
      exact (settlementText_iff a b).mpr ⟨header, perm.map allocated⟩
    · intro differ same
      obtain ⟨header, lines⟩ := (settlementText_iff a b).mp same
      exact differ ⟨header, complete header lines, lines⟩

end Settlement

section Transfer

open Transfers

structure AskedTransfer where
  fromBranchId : Id
  dto : CreateTransferDto

def AskedTransfer.text (asked : AskedTransfer) : Option String :=
  (normalizeLines asked.dto).toOption.map (fun lines =>
    transferFingerprint lines asked.fromBranchId asked.dto.toBranchId)

theorem AskedTransfer.text_ok (asked : AskedTransfer) (lines : NormalizedLines)
    (accepted : normalizeLines asked.dto = .ok lines) :
    asked.text = some (transferFingerprint lines asked.fromBranchId asked.dto.toBranchId) := by
  rw [AskedTransfer.text, accepted]
  rfl

theorem AskedTransfer.text_error (asked : AskedTransfer) (refusal : Refusal)
    (refused : normalizeLines asked.dto = .error refusal) : asked.text = none := by
  rw [AskedTransfer.text, refused]
  rfl

def stocked (line : QuantityLine) : String × Int := (line.productId.toLower, line.quantity.value)

def stockedText (line : QuantityLine) : String :=
  line.productId.toLower ++ ":" ++ toString line.quantity.value

theorem stockedText_reverse (line : QuantityLine) :
    (stockedText line).toList.reverse = (toString line.quantity.value.toNat).toList.reverse ++
      ':' :: line.productId.toLower.toList.reverse := by
  obtain ⟨n, value⟩ := Int.eq_ofNat_of_zero_le line.quantity.positive.le
  have shown : toString line.quantity.value = toString n := by
    rw [value]
    rfl
  unfold stockedText
  rw [shown, value, Int.toNat_natCast]
  simp [String.toList_append]

theorem stockedText_same (a b : QuantityLine) :
    stockedText a = stockedText b ↔ stocked a = stocked b := by
  have first := a.quantity.positive
  have second := b.quantity.positive
  rw [← String.toList_inj, ← List.reverse_inj, stockedText_reverse, stockedText_reverse,
    joined_free ':' _ _ _ _ (by simpa using colon_free _) (by simpa using colon_free _),
    List.reverse_inj, List.reverse_inj, String.toList_inj, String.toList_inj]
  simp only [stocked, Prod.mk.injEq]
  constructor
  · rintro ⟨quantity, product⟩
    have values := toString_injective _ _ quantity
    exact ⟨product, by omega⟩
  · rintro ⟨product, quantity⟩
    exact ⟨by rw [quantity], product⟩

def writeTransfer (moved : (Id × String) × List String × List String) : List Char :=
  "\x7b\"fromBranchId\":".toList ++
    ((jsonString (toString moved.1.1)).toList ++ (",\"toBranchId\":".toList ++
      ((jsonString moved.1.2).toList ++ (",\"units\":".toList ++
        ((jsonList moved.2.1).toList ++ (",\"stock\":".toList ++
          ((jsonList moved.2.2).toList ++ "\x7d".toList)))))))

theorem readable_transfer : Readable jsonMark writeTransfer := by
  have stock := readable_strings.closed "\x7d".toList (by simp [Stops, jsonMark])
  have units := readable_strings.andThen stock ",\"stock\":".toList (by simp [Stops, jsonMark])
  have target := readable_string.andThen units ",\"units\":".toList (by simp [Stops, jsonMark])
  have source := readable_id.andThen target ",\"toBranchId\":".toList (by simp [Stops, jsonMark])
  exact (source.after "\x7b\"fromBranchId\":".toList).comp
    (fun moved : (Id × String) × List String × List String =>
      (moved.1.1, moved.1.2, moved.2.1, moved.2.2))
    (by rintro ⟨⟨_⟩, _⟩ ⟨⟨_⟩, _⟩ same; simpa [and_assoc] using same)

theorem transferFingerprint_toList (lines : NormalizedLines) (fromBranchId : Id)
    (toBranchId : String) :
    (transferFingerprint lines fromBranchId toBranchId).toList =
      writeTransfer ((fromBranchId, toBranchId.toLower), lines.identifiers.insertionSort (· ≤ ·),
        (lines.quantities.map stockedText).insertionSort (· ≤ ·)) := by
  unfold transferFingerprint writeTransfer
  simp only [String.toList_append, List.append_assoc]
  rfl

theorem transferFingerprint_iff (first second : NormalizedLines) (fromBranchId fromBranchId' : Id)
    (toBranchId toBranchId' : String) :
    transferFingerprint first fromBranchId toBranchId =
        transferFingerprint second fromBranchId' toBranchId' ↔
      (fromBranchId, toBranchId.toLower) = (fromBranchId', toBranchId'.toLower) ∧
        first.identifiers.Perm second.identifiers ∧
        (first.quantities.map stocked).Perm (second.quantities.map stocked) := by
  have units := insertionSort_same (· ≤ ·) first.identifiers second.identifiers
  have stock := (insertionSort_same (· ≤ ·) (first.quantities.map stockedText)
    (second.quantities.map stockedText)).trans
    (perm_map_same stockedText stocked stockedText_same first.quantities second.quantities)
  rw [← units, ← stock]
  constructor
  · intro same
    have texts := congrArg String.toList same
    rw [transferFingerprint_toList, transferFingerprint_toList] at texts
    simpa only [Prod.mk.injEq] using readable_transfer.injective ',' (.inl rfl) _ _ texts
  · rintro ⟨header, unitsSame, stockSame⟩
    apply String.toList_injective
    rw [transferFingerprint_toList, transferFingerprint_toList, header, unitsSame, stockSame]

/-- The text of a transfer does not depend on the order of its lines, and depends on them and on
the two branches. -/
structure TransferTold (a b : AskedTransfer) : Prop where
  reordered : a.fromBranchId = b.fromBranchId → a.dto.toBranchId = b.dto.toBranchId →
    (requestedLines a.dto).Perm (requestedLines b.dto) → a.text = b.text
  distinct : ∀ lines lines', normalizeLines a.dto = .ok lines → normalizeLines b.dto = .ok lines' →
    ¬ ((a.fromBranchId, a.dto.toBranchId.toLower) = (b.fromBranchId, b.dto.toBranchId.toLower) ∧
      lines.identifiers.Perm lines'.identifiers ∧
      (lines.quantities.map stocked).Perm (lines'.quantities.map stocked)) → a.text ≠ b.text

theorem transfer_told (a b : AskedTransfer) : TransferTold a b := by
  constructor
  · intro source target perm
    rcases accepted : normalizeLines a.dto with refusal | lines
    · rcases accepted' : normalizeLines b.dto with refusal' | lines'
      · rw [a.text_error refusal accepted, b.text_error refusal' accepted']
      · obtain ⟨lines, other, -⟩ := normalizeLines_perm _ _ perm.symm lines' accepted'
        rw [accepted] at other
        cases other
    · obtain ⟨lines', accepted', units, stock⟩ := normalizeLines_perm _ _ perm lines accepted
      rw [a.text_ok lines accepted, b.text_ok lines' accepted', Option.some_inj,
        transferFingerprint_iff, source, target]
      exact ⟨rfl, units, stock.map _⟩
  · intro lines lines' accepted accepted' differ same
    rw [a.text_ok lines accepted, b.text_ok lines' accepted', Option.some_inj,
      transferFingerprint_iff] at same
    exact differ same

end Transfer

/-- Where the text of a request with lines follows them and not their order. -/
structure LinesTold (a b : Purchasing.CreatePurchaseDto) (c d : Suppliers.ReportSettlementDto)
    (e f : AskedTransfer) : Prop where
  deliveries : DeliveryTold a b ↔ DeliveryOrdered a b
  settlements : SettlementTold c d ↔ SettlementComplete c d
  transfers : TransferTold e f

theorem lines_told (a b : Purchasing.CreatePurchaseDto) (c d : Suppliers.ReportSettlementDto)
    (e f : AskedTransfer) : LinesTold a b c d e f where
  deliveries := delivery_told a b
  settlements := settlement_told c d
  transfers := transfer_told e f

def chargers (cents : Int) (positive : 0 < cents) : Purchasing.ReceiveItemDto where
  productId := 7
  unitCost := ⟨cents, positive⟩
  quantity := some ⟨3, by decide⟩

def delivered (items : List Purchasing.ReceiveItemDto) : Purchasing.CreatePurchaseDto where
  clientUuid := 1
  supplierId := 2
  items := items

/-- Chargers at two costs, in the one order and the other. -/
theorem two_costs_two_texts :
    ¬ DeliveryTold
      (delivered [chargers 500 (by decide), chargers 450 (by decide)])
      (delivered [chargers 450 (by decide), chargers 500 (by decide)]) := by
  intro told
  have same := told.reordered rfl (.swap _ _ _)
  exact absurd same (by decide +kernel)

end ErpBackend.Replays
