import ErpBackend.Transfers.Rules

/-!
# Every line once

What `normalizeLines` accepts is what was asked for, line by line, with no identifier and no
product text twice. Two spellings of one product id are two texts.
-/

namespace ErpBackend.Transfers

def unitsOf : List TransferLineDto → List String
  | [] => []
  | .unit raw :: rest => trim raw :: unitsOf rest
  | .stock _ _ :: rest => unitsOf rest

def stockOf : List TransferLineDto → List QuantityLine
  | [] => []
  | .unit _ :: rest => stockOf rest
  | .stock productId quantity :: rest => ⟨productId, quantity⟩ :: stockOf rest

def Reading.products (reading : Reading) : List String :=
  reading.quantities.map QuantityLine.productId

theorem readLine_unit (reading : Reading) (raw : String)
    (clean : (readLine reading (.unit raw)).problems = []) :
    reading.problems = [] ∧ trim raw ∉ reading.identifiers ∧
      readLine reading (.unit raw) =
        { reading with identifiers := reading.identifiers ++ [trim raw] } := by
  by_cases empty : trim raw = ""
  · simp [readLine, empty] at clean
  · by_cases again : trim raw ∈ reading.identifiers
    · simp [readLine, empty, again] at clean
    · simp only [readLine, empty, again, if_false] at clean
      refine ⟨clean, again, ?_⟩
      simp only [readLine, empty, again, if_false]

theorem readLine_stock (reading : Reading) (productId : String) (quantity : LineQuantity)
    (clean : (readLine reading (.stock productId quantity)).problems = []) :
    reading.problems = [] ∧ productId ∉ reading.products ∧
      readLine reading (.stock productId quantity) =
        { reading with quantities := reading.quantities ++ [⟨productId, quantity⟩] } := by
  by_cases again : productId ∈ reading.quantities.map QuantityLine.productId
  · simp [readLine, again] at clean
  · simp only [readLine, again, if_false] at clean
    refine ⟨clean, again, ?_⟩
    simp only [readLine, again, if_false]

variable (lines : List TransferLineDto)

theorem readLines_clean (reading : Reading)
    (clean : (lines.foldl readLine reading).problems = []) :
    reading.problems = [] ∧
      lines.foldl readLine reading =
        { reading with
          identifiers := reading.identifiers ++ unitsOf lines
          quantities := reading.quantities ++ stockOf lines } := by
  induction lines generalizing reading with
  | nil => simpa [unitsOf, stockOf] using clean
  | cons line rest ih =>
    obtain ⟨before, read⟩ := ih (readLine reading line) clean
    cases line with
    | unit raw =>
      obtain ⟨none, -, taken⟩ := readLine_unit reading raw before
      refine ⟨none, ?_⟩
      rw [List.foldl_cons, read, taken]
      simp [unitsOf, stockOf]
    | stock productId quantity =>
      obtain ⟨none, -, taken⟩ := readLine_stock reading productId quantity before
      refine ⟨none, ?_⟩
      rw [List.foldl_cons, read, taken]
      simp [unitsOf, stockOf]

theorem readLines_nodup (reading : Reading)
    (clean : (lines.foldl readLine reading).problems = [])
    (units : reading.identifiers.Nodup) (products : reading.products.Nodup) :
    (lines.foldl readLine reading).identifiers.Nodup ∧
      (lines.foldl readLine reading).products.Nodup := by
  induction lines generalizing reading with
  | nil => exact ⟨units, products⟩
  | cons line rest ih =>
    have before := (readLines_clean rest (readLine reading line) clean).1
    cases line with
    | unit raw =>
      obtain ⟨-, new, taken⟩ := readLine_unit reading raw before
      refine ih _ clean ?_ ?_
      · rw [taken]
        exact List.nodup_append.mpr ⟨units, by simp, by grind⟩
      · rw [taken]
        exact products
    | stock productId quantity =>
      obtain ⟨-, new, taken⟩ := readLine_stock reading productId quantity before
      refine ih _ clean ?_ ?_
      · rw [taken]
        exact units
      · rw [taken]
        simp only [Reading.products, List.map_append, List.map_cons, List.map_nil]
        exact List.nodup_append.mpr ⟨products, by simp, by grind [Reading.products]⟩

theorem normalizeLines_ok (dto : CreateTransferDto) (lines : NormalizedLines)
    (accepted : normalizeLines dto = .ok lines) :
    lines = ⟨unitsOf (requestedLines dto), stockOf (requestedLines dto)⟩ ∧
      lines.identifiers.Nodup ∧ (lines.quantities.map QuantityLine.productId).Nodup := by
  by_cases none : requestedLines dto = []
  · simp [normalizeLines, none] at accepted
  · by_cases clean : ((requestedLines dto).foldl readLine {}).problems = []
    · simp only [normalizeLines, none, clean, if_false, ne_eq, not_true_eq_false,
        Except.ok.injEq] at accepted
      have read := (readLines_clean _ _ clean).2
      have once := readLines_nodup _ _ clean List.nodup_nil List.nodup_nil
      subst accepted
      exact ⟨by simp [read], once⟩
    · simp [normalizeLines, none, clean] at accepted

theorem readLines_clean_iff (reading : Reading)
    (units : reading.identifiers.Nodup) (products : reading.products.Nodup) :
    (lines.foldl readLine reading).problems = [] ↔
      reading.problems = [] ∧ "" ∉ unitsOf lines ∧
        (reading.identifiers ++ unitsOf lines).Nodup ∧
        (reading.products ++ (stockOf lines).map QuantityLine.productId).Nodup := by
  induction lines generalizing reading with
  | nil => simp [unitsOf, stockOf, units, products]
  | cons line rest ih =>
    rw [List.foldl_cons]
    cases line with
    | unit raw =>
      by_cases empty : trim raw = ""
      · have refused : (readLine reading (.unit raw)).problems ≠ [] := by simp [readLine, empty]
        have units' : (readLine reading (.unit raw)).identifiers.Nodup := by
          simpa [readLine, empty] using units
        have products' : (readLine reading (.unit raw)).products.Nodup := by
          simpa [readLine, empty, Reading.products] using products
        simp [ih _ units' products', refused, unitsOf, empty]
      · by_cases again : trim raw ∈ reading.identifiers
        · have refused : (readLine reading (.unit raw)).problems ≠ [] := by
            simp [readLine, empty, again]
          have units' : (readLine reading (.unit raw)).identifiers.Nodup := by
            simpa [readLine, empty, again] using units
          have products' : (readLine reading (.unit raw)).products.Nodup := by
            simpa [readLine, empty, again, Reading.products] using products
          have twice : ¬ (reading.identifiers ++ unitsOf (.unit raw :: rest)).Nodup := by
            grind [unitsOf]
          simp [ih _ units' products', refused, twice]
        · have taken : readLine reading (.unit raw) =
              { reading with identifiers := reading.identifiers ++ [trim raw] } := by
            simp [readLine, empty, again]
          have units' : (readLine reading (.unit raw)).identifiers.Nodup := by
            rw [taken]
            exact List.nodup_append.mpr ⟨units, by simp, by grind⟩
          have products' : (readLine reading (.unit raw)).products.Nodup := by
            rw [taken]
            exact products
          rw [ih _ units' products', taken]
          simp [unitsOf, stockOf, Reading.products, Ne.symm empty]
    | stock productId quantity =>
      by_cases again : productId ∈ reading.products
      · have refused : (readLine reading (.stock productId quantity)).problems ≠ [] := by
          simp [readLine, show productId ∈ reading.quantities.map QuantityLine.productId from again]
        have same : (readLine reading (.stock productId quantity)).identifiers =
            reading.identifiers ∧
            (readLine reading (.stock productId quantity)).products = reading.products := by
          simp [readLine, show productId ∈ reading.quantities.map QuantityLine.productId from again,
            Reading.products]
        have twice : ¬ (reading.products ++ (stockOf (.stock productId quantity :: rest)).map
            QuantityLine.productId).Nodup := by
          grind [stockOf]
        simp [ih _ (same.1 ▸ units) (same.2 ▸ products), refused, twice]
      · have taken : readLine reading (.stock productId quantity) =
            { reading with quantities := reading.quantities ++ [⟨productId, quantity⟩] } := by
          simp [readLine, show productId ∉ reading.quantities.map QuantityLine.productId from again]
        have listed : (readLine reading (.stock productId quantity)).products =
            reading.products ++ [productId] := by
          rw [taken]
          simp [Reading.products]
        have products' : (readLine reading (.stock productId quantity)).products.Nodup := by
          rw [listed]
          exact List.nodup_append.mpr ⟨products, by simp, by grind⟩
        have units' : (readLine reading (.stock productId quantity)).identifiers.Nodup := by
          rw [taken]
          exact units
        rw [ih _ units' products', listed, taken]
        simp [unitsOf, stockOf]

theorem normalizeLines_iff (dto : CreateTransferDto) (lines : NormalizedLines) :
    normalizeLines dto = .ok lines ↔
      (requestedLines dto ≠ [] ∧ "" ∉ unitsOf (requestedLines dto) ∧
        (unitsOf (requestedLines dto)).Nodup ∧
        ((stockOf (requestedLines dto)).map QuantityLine.productId).Nodup) ∧
      lines = ⟨unitsOf (requestedLines dto), stockOf (requestedLines dto)⟩ := by
  have clean := readLines_clean_iff (requestedLines dto) {} List.nodup_nil List.nodup_nil
  simp only [Reading.products, List.map_nil, List.nil_append, true_and] at clean
  constructor
  · intro accepted
    have taken := (normalizeLines_ok dto lines accepted).1
    by_cases none : requestedLines dto = []
    · simp [normalizeLines, none] at accepted
    · by_cases problems : ((requestedLines dto).foldl readLine {}).problems = []
      · exact ⟨⟨none, clean.mp problems⟩, taken⟩
      · simp [normalizeLines, none, problems] at accepted
  · rintro ⟨⟨none, allowed⟩, rfl⟩
    have problems := clean.mpr allowed
    have read := (readLines_clean _ _ problems).2
    simp [normalizeLines, none, read]

theorem unitsOf_perm {first second : List TransferLineDto} (perm : first.Perm second) :
    (unitsOf first).Perm (unitsOf second) := by
  induction perm with
  | nil => exact .refl _
  | cons line _ ih =>
    cases line with
    | unit raw => exact ih.cons _
    | stock productId quantity => exact ih
  | swap a b rest =>
    cases a <;> cases b <;> first | exact .refl _ | exact .swap _ _ _
  | trans _ _ first second => exact first.trans second

theorem stockOf_perm {first second : List TransferLineDto} (perm : first.Perm second) :
    (stockOf first).Perm (stockOf second) := by
  induction perm with
  | nil => exact .refl _
  | cons line _ ih =>
    cases line with
    | unit raw => exact ih
    | stock productId quantity => exact ih.cons _
  | swap a b rest =>
    cases a <;> cases b <;> first | exact .refl _ | exact .swap _ _ _
  | trans _ _ first second => exact first.trans second

theorem normalizeLines_perm (first second : CreateTransferDto)
    (perm : (requestedLines first).Perm (requestedLines second)) (lines : NormalizedLines)
    (accepted : normalizeLines first = .ok lines) :
    ∃ lines', normalizeLines second = .ok lines' ∧
      lines.identifiers.Perm lines'.identifiers ∧ lines.quantities.Perm lines'.quantities := by
  obtain ⟨⟨some_, filled, units, products⟩, rfl⟩ := (normalizeLines_iff first lines).mp accepted
  have unitsPerm := unitsOf_perm perm
  have stockPerm := stockOf_perm perm
  refine ⟨_, (normalizeLines_iff second _).mpr ⟨⟨?_, ?_, ?_, ?_⟩, rfl⟩, unitsPerm, stockPerm⟩
  · intro none
    rw [none] at perm
    exact some_ perm.eq_nil
  · exact fun member => filled (unitsPerm.mem_iff.mpr member)
  · exact unitsPerm.nodup_iff.mp units
  · exact (stockPerm.map _).nodup_iff.mp products

theorem unitsOf_mem (code : String) (listed : .unit code ∈ lines) :
    trim code ∈ unitsOf lines := by
  induction lines with
  | nil => cases listed
  | cons line rest ih =>
    cases line with
    | unit raw => grind [unitsOf]
    | stock productId quantity => grind [unitsOf]

def QuantityLine.product (line : QuantityLine) : Id := uuidToBin line.productId

/-- What the lines ask for of a product, however its id is spelt. -/
def quantityOf (lines : List QuantityLine) (product : Id) : Int :=
  ((lines.filter (fun line => line.product = product)).map (fun line => line.quantity.value)).sum

/-- The accepted lines are the request, every unit and every product once. -/
structure EveryLineOnce (dto : CreateTransferDto) (lines : NormalizedLines) : Prop where
  unitsOnce : lines.identifiers.Nodup
  productsOnce : (lines.quantities.map QuantityLine.product).Nodup
  units : ∀ identifier, identifier ∈ lines.identifiers ↔
    identifier ∈ unitsOf (requestedLines dto)
  products : ∀ product, product ∈ lines.quantities.map QuantityLine.product ↔
    product ∈ (stockOf (requestedLines dto)).map QuantityLine.product
  quantities : ∀ line ∈ lines.quantities,
    line.quantity.value = quantityOf (stockOf (requestedLines dto)) line.product

def OneSpelling (dto : CreateTransferDto) : Prop :=
  ∀ first ∈ stockOf (requestedLines dto), ∀ second ∈ stockOf (requestedLines dto),
    uuidToBin first.productId = uuidToBin second.productId → first.productId = second.productId

theorem quantityOf_once (lines : List QuantityLine)
    (once : (lines.map QuantityLine.product).Nodup) (line : QuantityLine) (member : line ∈ lines) :
    quantityOf lines line.product = line.quantity.value :=
  Foundation.Table.sum_filter_key lines QuantityLine.product _ once line member

/-- What is accepted names every product once exactly when no id is spelt in two ways. -/
theorem normalizeLines_once (dto : CreateTransferDto) (lines : NormalizedLines)
    (accepted : normalizeLines dto = .ok lines) :
    EveryLineOnce dto lines ↔ OneSpelling dto := by
  obtain ⟨rfl, units, texts⟩ := normalizeLines_ok dto lines accepted
  constructor
  · intro once first member second other same
    have equal := List.inj_on_of_nodup_map once.productsOnce member other same
    rw [equal]
  · intro spelt
    have products : ((stockOf (requestedLines dto)).map QuantityLine.product).Nodup := by
      refine List.Nodup.map_on ?_ (List.Nodup.of_map _ texts)
      intro first member second other same
      exact List.inj_on_of_nodup_map texts member other (spelt first member second other same)
    exact {
      unitsOnce := units
      productsOnce := products
      units := fun _ => Iff.rfl
      products := fun _ => Iff.rfl
      quantities := fun line member => (quantityOf_once _ products line member).symm }

def sixOf (productId : String) : TransferLineDto := .stock productId ⟨6, by decide, by decide⟩

def twiceSpelt : CreateTransferDto where
  clientUuid := 1
  toBranchId := "01920000-0000-7000-8000-0000000000b2"
  lines := some [sixOf "01920000-0000-7000-8000-0000000000c1",
    sixOf "01920000-0000-7000-8000-0000000000C1"]

theorem normalizeLines_spells_twice :
    ∃ lines, normalizeLines twiceSpelt = .ok lines ∧ ¬ EveryLineOnce twiceSpelt lines := by
  refine ⟨⟨[], stockOf (requestedLines twiceSpelt)⟩, rfl, fun once => ?_⟩
  exact absurd once.productsOnce (by decide +kernel)

def phoneAndSix : CreateTransferDto where
  clientUuid := 1
  toBranchId := "01920000-0000-7000-8000-0000000000b2"
  lines := some [.unit " 3569 ", sixOf "01920000-0000-7000-8000-0000000000C1"]

theorem normalizeLines_once_phone :
    EveryLineOnce phoneAndSix
      ⟨["3569"], stockOf (requestedLines phoneAndSix)⟩ :=
  (normalizeLines_once phoneAndSix ⟨["3569"], stockOf (requestedLines phoneAndSix)⟩ rfl).mpr
    (by simp [OneSpelling, phoneAndSix, requestedLines, stockOf, sixOf])

end ErpBackend.Transfers
