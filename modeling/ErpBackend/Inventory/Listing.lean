import ErpBackend.Pricing.Service

/-!
# InventoryService.listStock

A page of the inventory shows phones first and then counted goods, each newest first, and may
span the two. The cursor names the last row of the page and the stream it is in.
-/

namespace ErpBackend.Inventory.Listing

open Foundation

section Stream

variable {α : Type} (key : α → Id)

def newestFirst (rows : List α) : List α := rows.insertionSort (fun a b => key b ≤ key a)

/-- From a cursor on, the rows from its row's position on but the first. -/
def findMany (table : List α) (keeps : α → Bool) (cursor : Option Id) (take : Nat) : List α :=
  let rows := newestFirst key (table.filter keeps)
  match cursor with
  | none => rows.take take
  | some id =>
      if table.any (fun row => key row = id) then
        ((rows.filter (fun row => key row ≤ id)).drop 1).take take
      else []

/-- What is still to come: everything, or what stands behind the row of the cursor. -/
inductive Behind (rows : List α) : Option Id → List α → Prop
  | start : Behind rows none rows
  | after (front : List α) (last : α) (back : List α) (split : rows = front ++ last :: back) :
      Behind rows (some (key last)) back

theorem newestFirst_descends (rows : List α) (distinct : (rows.map key).Nodup) :
    (newestFirst key rows).Pairwise (fun a b => key b < key a) := by
  have sorted := List.pairwise_insertionSort (fun a b : α => key b ≤ key a) rows
  have apart :=
    ((List.perm_insertionSort (fun a b : α => key b ≤ key a) rows).map key).nodup_iff.mpr
    distinct
  rw [List.Nodup, List.pairwise_map] at apart
  exact (sorted.and apart).imp (fun both => lt_of_le_of_ne both.1 (Ne.symm both.2))

theorem findMany_behind {table : List α} (distinct : (table.map key).Nodup) {keeps : α → Bool}
    {cursor : Option Id} {back : List α}
    (behind : Behind key (newestFirst key (table.filter keeps)) cursor back) (take : Nat) :
    findMany key table keeps cursor take = back.take take := by
  have descends := newestFirst_descends key (table.filter keeps)
    (distinct.sublist (List.filter_sublist.map key))
  have kept := List.perm_insertionSort (fun a b : α => key b ≤ key a) (table.filter keeps)
  cases behind with
  | start => rfl
  | after front last back split =>
    have here : last ∈ table := by
      have inside : last ∈ newestFirst key (table.filter keeps) := by simp [split]
      exact List.mem_of_mem_filter (kept.mem_iff.mp inside)
    rw [split, List.pairwise_append, List.pairwise_cons] at descends
    obtain ⟨-, ⟨below, -⟩, above⟩ := descends
    have first : front.filter (fun row => key row ≤ key last) = [] := by
      rw [List.filter_eq_nil_iff]
      intro row member
      simpa using above row member last (List.mem_cons_self ..)
    have rest : back.filter (fun row => key row ≤ key last) = back := by
      rw [List.filter_eq_self]
      exact fun row member => decide_eq_true (below row member).le
    have known : table.any (fun row => key row = key last) = true :=
      List.any_eq_true.mpr ⟨last, here, decide_eq_true rfl⟩
    simp [findMany, known, split, List.filter_append, first, rest]

theorem Behind.turn {rows back : List α} {cursor : Option Id} (behind : Behind key rows cursor back)
    {limit : Nat} {last : α} (ends : (back.take limit).getLast? = some last) :
    Behind key rows (some (key last)) (back.drop limit) := by
  obtain ⟨page, split⟩ := List.getLast?_eq_some_iff.mp ends
  have whole : back = page ++ last :: back.drop limit := by
    conv_lhs => rw [← List.take_append_drop limit back, split]
    simp
  cases behind with
  | start => exact .after page last _ whole
  | after front other back same =>
    refine .after (front ++ other :: page) last _ ?_
    rw [same]
    conv_lhs => rw [whole]
    simp

end Stream

/-- The shop, with the primary keys of `stock_items`. -/
structure Shop extends Pricing.Store where
  rowId : StockItem → Id
  distinct : (db.stockItems.rows.map rowId).Nodup

inductive InventoryCursor where
  | unit (id : Id)
  | stock (id : Id)

structure InventoryFilter where
  status : Option UnitStatus := none
  productId : Option Id := none
  search : Option String := none
  limit : Option Int := none

inductive InventoryRow where
  | unit (unit : StockUnit)
  | stock (item : StockItem)

structure InventoryPage where
  rows : List InventoryRow
  nextCursor : Option InventoryCursor
  hasMore : Bool
  totalUnits : Nat
  totalStock : Nat

def pageLimit (filter : InventoryFilter) : Nat := (min (max (filter.limit.getD 50) 1) 200).toNat

def includeQuantity (filter : InventoryFilter) : Bool := filter.status.all (· = .inStock)

def assertAssignedToBranch (ctx : Ctx) (s : Shop) : Except Refusal Unit :=
  match ctx.branchId, ctx.userId with
  | none, _ => .ok ()
  | some _, none => .error (missingTenantContext "(request)" "userId")
  | some branchId, some userId =>
      if s.userBranches.any (fun row =>
          row.companyId = ctx.companyId ∧ row.userId = userId ∧ row.branchId = branchId) then .ok ()
      else .error (.forbidden "No access to the requested branch")

/-- The last row of a page; JavaScript finds no `id` on what is not there. -/
def lastOf {α : Type} (page : List α) : Except Refusal α :=
  match page.getLast? with
  | none => .error (.internal "Cannot read properties of undefined (reading 'id')")
  | some last => .ok last

section Page

variable (contains : String → String → Bool) (ctx : Ctx) (filter : InventoryFilter) (s : Shop)

def productMentions (q : String) (productId : Id) : Bool :=
  (s.db.products.find? productId).any (fun product =>
    contains product.brand q || contains product.model q ||
      product.variant.any (contains · q) || product.barcode.any (contains · q))

def unitWhere (unit : StockUnit) : Bool :=
  unit.companyId = ctx.companyId && ctx.branchId.all (unit.branchId = ·) &&
    filter.status.all (unit.status = ·) && filter.productId.all (unit.productId = ·) &&
    (trimOrNull filter.search).all (fun q => unit.imeiPrimary.any (contains · q) ||
      unit.imeiSecondary.any (contains · q) || unit.serialNo.any (contains · q) ||
      productMentions contains s q unit.productId)

def stockWhere (item : StockItem) : Bool :=
  item.companyId = ctx.companyId && ctx.branchId.all (item.branchId = ·) &&
    filter.productId.all (item.productId = ·) && decide (0 < item.quantity) &&
    (trimOrNull filter.search).all (fun q => productMentions contains s q item.productId)

def findUnits : Option Id → Nat → List StockUnit :=
  findMany StockUnit.id s.db.units.rows (unitWhere contains ctx filter s)

def findStock : Option Id → Nat → List StockItem :=
  findMany s.rowId s.db.stockItems.rows (stockWhere contains ctx filter s)

def fillFromStock (shown : List InventoryRow) (anchor : Option Id) :
    Except Refusal (List InventoryRow × Option InventoryCursor) :=
  if includeQuantity filter then do
    let remaining := pageLimit filter - shown.length
    let stock := findStock contains ctx filter s anchor (remaining + 1)
    let page := stock.take remaining
    if remaining < stock.length then
      let last ← lastOf page
      .ok (shown ++ page.map .stock, some (.stock (s.rowId last)))
    else .ok (shown ++ page.map .stock, none)
  else .ok (shown, none)

def unitsFirst (anchor : Option Id) :
    Except Refusal (List InventoryRow × Option InventoryCursor) := do
  let units := findUnits contains ctx filter s anchor (pageLimit filter + 1)
  let page := units.take (pageLimit filter)
  if pageLimit filter < units.length then
    let last ← lastOf page
    .ok (page.map .unit, some (.unit last.id))
  else fillFromStock contains ctx filter s (page.map .unit) none

def pageRows (cursor : Option InventoryCursor) :
    Except Refusal (List InventoryRow × Option InventoryCursor) :=
  match cursor with
  | none => unitsFirst contains ctx filter s none
  | some (.unit id) => unitsFirst contains ctx filter s (some id)
  | some (.stock id) => fillFromStock contains ctx filter s [] (some id)

def listStock (cursor : Option InventoryCursor) : Except Refusal InventoryPage := do
  assertAssignedToBranch ctx s
  let (rows, nextCursor) ← pageRows contains ctx filter s cursor
  .ok {
    rows
    nextCursor
    hasMore := nextCursor.isSome
    totalUnits := (s.db.units.filter (unitWhere contains ctx filter s)).length
    totalStock := if includeQuantity filter then
      (s.db.stockItems.filter (stockWhere contains ctx filter s)).length else 0 }

end Page

section Scroll

variable (contains : String → String → Bool) (ctx : Ctx) (filter : InventoryFilter) (s : Shop)

def unitsListed : List StockUnit :=
  newestFirst StockUnit.id (s.db.units.filter (unitWhere contains ctx filter s))

def stockListed : List StockItem :=
  if includeQuantity filter then
    newestFirst s.rowId (s.db.stockItems.filter (stockWhere contains ctx filter s))
  else []

/-- What the pages from a cursor to the last show, one after the other. -/
inductive Scrolls (list : Option InventoryCursor → Except Refusal InventoryPage) :
    Option InventoryCursor → List InventoryRow → Prop
  | last (cursor : Option InventoryCursor) (page : InventoryPage) (shown : list cursor = .ok page)
      (ends : page.nextCursor = none) : Scrolls list cursor page.rows
  | more (cursor : Option InventoryCursor) (page : InventoryPage) (next : InventoryCursor)
      (rest : List InventoryRow) (shown : list cursor = .ok page)
      (turns : page.nextCursor = some next) (onward : Scrolls list (some next) rest) :
      Scrolls list cursor (page.rows ++ rest)

/-- Units that fill their last page leave it no room, and no row for the cursor to the shelves. -/
def CutOff (units : List StockUnit) (shelves : List StockItem) : Prop :=
  units ≠ [] ∧ pageLimit filter ∣ units.length ∧ shelves ≠ []

theorem pageLimit_pos : 0 < pageLimit filter := by
  simp only [pageLimit]
  omega

variable {contains ctx filter s} {cursor : Option InventoryCursor} {rows shown : List InventoryRow}

theorem scrolls_page (assigned : assertAssignedToBranch ctx s = .ok ())
    {turns : Option InventoryCursor}
    (page : pageRows contains ctx filter s cursor = .ok (shown, turns)) :
    Scrolls (listStock contains ctx filter s) cursor rows ↔
      (turns = none ∧ rows = shown) ∨ ∃ next rest, turns = some next ∧
        Scrolls (listStock contains ctx filter s) (some next) rest ∧ rows = shown ++ rest := by
  obtain ⟨answer, listed, rfl, rfl⟩ : ∃ answer, listStock contains ctx filter s cursor =
      .ok answer ∧ answer.rows = shown ∧ answer.nextCursor = turns := by
    unfold listStock
    rw [assigned, page]
    exact ⟨_, rfl, rfl, rfl⟩
  constructor
  · intro scrolls
    cases scrolls with
    | last _ same shown ends =>
        cases listed.symm.trans shown
        exact .inl ⟨ends, rfl⟩
    | more _ same next rest shown turns onward =>
        cases listed.symm.trans shown
        exact .inr ⟨next, rest, turns, onward, rfl⟩
  · rintro (⟨ends, rfl⟩ | ⟨next, rest, turns, onward, rfl⟩)
    · exact .last cursor answer listed ends
    · exact .more cursor answer next rest listed turns onward

theorem cutOff_full {units : List StockUnit} {shelves : List StockItem}
    (fits : units.length ≤ pageLimit filter) :
    CutOff filter units shelves ↔ units.length = pageLimit filter ∧ shelves ≠ [] := by
  have limited := pageLimit_pos filter
  constructor
  · rintro ⟨some, whole, stocked⟩
    exact ⟨fits.antisymm (Nat.le_of_dvd (List.length_pos_iff.mpr some) whole), stocked⟩
  · rintro ⟨full, stocked⟩
    exact ⟨List.length_pos_iff.mp (full ▸ limited), full ▸ dvd_rfl, stocked⟩

theorem cutOff_turn {units : List StockUnit} {shelves : List StockItem}
    (more : pageLimit filter < units.length) :
    CutOff filter (units.drop (pageLimit filter)) shelves ↔ CutOff filter units shelves := by
  have left : units.drop (pageLimit filter) ≠ [] := by
    rw [ne_eq, List.drop_eq_nil_iff]
    omega
  have some : units ≠ [] := fun none => left (by rw [none, List.drop_nil])
  simp only [CutOff, left, some, ne_eq, not_false_iff, List.length_drop,
    Nat.dvd_sub_iff_left more.le dvd_rfl]

theorem not_scrolls (refused : ∀ page, listStock contains ctx filter s cursor ≠ .ok page) :
    ¬Scrolls (listStock contains ctx filter s) cursor rows := by
  intro scrolls
  cases scrolls with
  | last _ page shown _ => exact refused page shown
  | more _ page _ _ shown _ _ => exact refused page shown

theorem lastOf_take {α : Type} {list : List α} {room : Nat} (some : 0 < room)
    (more : room < list.length) :
    ∃ last, (list.take room).getLast? = .some last ∧ lastOf (list.take room) = .ok last := by
  have full : list.take room ≠ [] := by
    rw [← List.length_pos_iff, List.length_take]
    omega
  have ends := List.getLast?_eq_some_getLast full
  exact ⟨_, ends, by rw [lastOf, ends]⟩

theorem fillFromStock_behind {anchor : Option Id} {back : List StockItem}
    (behind : Behind s.rowId (stockListed contains ctx filter s) anchor back)
    (shown : List InventoryRow) :
    fillFromStock contains ctx filter s shown anchor =
      let room := pageLimit filter - shown.length
      if room < back.length then
        (lastOf (back.take room)).map (fun last =>
          (shown ++ (back.take room).map .stock, some (.stock (s.rowId last))))
      else .ok (shown ++ back.map .stock, none) := by
  unfold fillFromStock findStock
  unfold stockListed at behind
  by_cases included : includeQuantity filter
  · rw [if_pos included] at behind ⊢
    simp only [findMany_behind s.rowId s.distinct behind, List.take_take, List.length_take]
    by_cases more : pageLimit filter - shown.length < back.length
    · have page : min (pageLimit filter - shown.length) (pageLimit filter - shown.length + 1) =
          pageLimit filter - shown.length := by omega
      rw [if_pos (by omega), if_pos more, page]
      cases lastOf (back.take (pageLimit filter - shown.length)) <;> rfl
    · rw [if_neg (by omega), if_neg more, List.take_of_length_le (by omega)]
  · rw [if_neg included] at behind ⊢
    cases behind with
    | start => simp
    | after front last back split => simp at split

theorem stock_scrolls (assigned : assertAssignedToBranch ctx s = .ok ()) (anchor : Id)
    (back : List StockItem)
    (behind : Behind s.rowId (stockListed contains ctx filter s) (some anchor) back)
    (rows : List InventoryRow) :
    Scrolls (listStock contains ctx filter s) (some (.stock anchor)) rows ↔
      rows = back.map .stock := by
  have page : pageRows contains ctx filter s (some (.stock anchor)) = _ :=
    fillFromStock_behind behind []
  simp only [List.length_nil, Nat.sub_zero, List.nil_append] at page
  by_cases more : pageLimit filter < back.length
  · obtain ⟨last, ends, named⟩ := lastOf_take (pageLimit_pos filter) more
    have rest := stock_scrolls assigned _ _ (behind.turn s.rowId ends)
    rw [if_pos more, named] at page
    rw [scrolls_page assigned page]
    simp [rest]
  · rw [if_neg more] at page
    rw [scrolls_page assigned page]
    simp
termination_by back.length
decreasing_by
  have := pageLimit_pos filter
  simp only [List.length_drop]
  omega

theorem unitsFirst_behind {anchor : Option Id} {back : List StockUnit}
    (behind : Behind StockUnit.id (unitsListed contains ctx filter s) anchor back) :
    unitsFirst contains ctx filter s anchor =
      if pageLimit filter < back.length then
        (lastOf (back.take (pageLimit filter))).map (fun last =>
          ((back.take (pageLimit filter)).map .unit, some (.unit last.id)))
      else fillFromStock contains ctx filter s (back.map .unit) none := by
  unfold unitsFirst findUnits
  simp only [findMany_behind StockUnit.id s.db.units.unique behind, List.take_take,
    List.length_take]
  by_cases more : pageLimit filter < back.length
  · rw [if_pos (by omega), if_pos more, min_eq_left (Nat.le_succ _)]
    cases lastOf (back.take (pageLimit filter)) <;> rfl
  · rw [if_neg (by omega), if_neg more, List.take_of_length_le (by omega)]

theorem unit_scrolls (assigned : assertAssignedToBranch ctx s = .ok ()) (anchor : Option Id)
    (back : List StockUnit)
    (behind : Behind StockUnit.id (unitsListed contains ctx filter s) anchor back)
    (rows : List InventoryRow) :
    Scrolls (listStock contains ctx filter s) (anchor.map .unit) rows ↔
      ¬CutOff filter back (stockListed contains ctx filter s) ∧
        rows = back.map .unit ++ (stockListed contains ctx filter s).map .stock := by
  have limited := pageLimit_pos filter
  have page : pageRows contains ctx filter s (anchor.map .unit) = _ :=
    Eq.trans (by cases anchor <;> rfl) (unitsFirst_behind behind)
  by_cases more : pageLimit filter < back.length
  · obtain ⟨last, ends, named⟩ := lastOf_take limited more
    have rest := unit_scrolls assigned _ _ (behind.turn StockUnit.id ends)
    simp only [Option.map_some, cutOff_turn more] at rest
    rw [if_pos more, named] at page
    rw [scrolls_page assigned page]
    simp [rest, ← List.append_assoc]
  · rw [if_neg more, fillFromStock_behind (.start)] at page
    rw [cutOff_full (by omega)]
    simp only [List.length_map] at page
    by_cases onward : pageLimit filter - back.length < (stockListed contains ctx filter s).length
    · rw [if_pos onward] at page
      by_cases full : back.length = pageLimit filter
      · rw [full, Nat.sub_self] at onward page
        refine iff_of_false (not_scrolls (fun answer listed => ?_)) (fun ends =>
          ends.1 ⟨full, List.length_pos_iff.mp onward⟩)
        rw [listStock, assigned, page] at listed
        cases listed
      · obtain ⟨last, ends, named⟩ := lastOf_take (by omega) onward
        have rest := stock_scrolls assigned _ _ (Behind.turn s.rowId .start ends)
        rw [named] at page
        rw [scrolls_page assigned page]
        simp [rest, full]
    · rw [if_neg onward] at page
      rw [scrolls_page assigned page]
      have kept : ¬(back.length = pageLimit filter ∧ stockListed contains ctx filter s ≠ []) := by
        rw [← List.length_pos_iff]
        omega
      simp [kept]
termination_by back.length
decreasing_by
  simp only [List.length_drop]
  omega

variable (contains ctx filter s)

/-- A caller who may see the branch scrolls over every unit and every shelf he asked for, each
once, unless the units end with a page and there are shelves: then he is refused there. -/
theorem scroll_iff (rows : List InventoryRow) :
    Scrolls (listStock contains ctx filter s) none rows ↔
      assertAssignedToBranch ctx s = .ok () ∧
        ¬CutOff filter (unitsListed contains ctx filter s) (stockListed contains ctx filter s) ∧
        rows = (unitsListed contains ctx filter s).map .unit ++
          (stockListed contains ctx filter s).map .stock := by
  cases assigned : assertAssignedToBranch ctx s with
  | error refusal =>
      refine iff_of_false (not_scrolls (fun answer listed => ?_)) nofun
      rw [listStock, assigned] at listed
      cases listed
  | ok =>
      rw [eq_self, true_and]
      exact unit_scrolls assigned none _ .start rows

end Scroll

end ErpBackend.Inventory.Listing
