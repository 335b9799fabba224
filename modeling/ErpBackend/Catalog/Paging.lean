import ErpBackend.Foundation.Keyset
import ErpBackend.Catalog.Cursor
import ErpBackend.Catalog.Service

/-!
# Pages of the catalogue

A client pages through a catalogue that changes between its queries. The cursor names the last row
it was given, and the next page drops the first row from there on: the row the cursor names, as
long as the filter still lists it.
-/

namespace ErpBackend.Catalog

open Foundation

/-- A row of `products`, with the column that archives it. Its id is sixteen bytes. -/
structure ListedProduct extends Product where
  deletedAt : Option Time := none
  fits : id < 16 ^ 32

abbrev Catalogue := Table ListedProduct (fun row => row.id)

def Catalogue.ids (catalogue : Catalogue) : List Id := catalogue.rows.map (fun row => row.id)

inductive ActiveFilter where
  | active
  | inactive
  | all
  deriving DecidableEq

structure ProductFilter where
  q : Option String := none
  categoryId : Option Id := none
  trackingType : Option TrackingType := none
  active : Option ActiveFilter := none

abbrev PageSize := { size : Nat // 1 ≤ size ∧ size ≤ 100 }

structure ListProductsDto extends ProductFilter where
  limit : Option PageSize := none
  cursor : Option String := none

def defaultPage : PageSize := ⟨30, by decide⟩

def specSearchLimit : Nat := 500

/-- How the database matches a text, and which rows it takes where a `LIMIT` has no order. -/
structure Search where
  contains : String → String → Bool
  like : String → String → Bool
  /-- `LOWER(CAST(specifications AS CHAR))`. -/
  lowerText : Fields → String
  toLowerCase : String → String
  pick : List Id → List Id
  pick_sub : ∀ ids, (pick ids).Subperm ids
  pick_length : ∀ ids, (pick ids).length = min specSearchLimit ids.length

/-- The `LIKE` wildcards of a term stand for themselves. -/
def likeNeedle (search : Search) (term : String) : String :=
  "%" ++ String.ofList ((search.toLowerCase term).toList.flatMap (fun c =>
    if c = '\\' ∨ c = '%' ∨ c = '_' then ['\\', c] else [c])) ++ "%"

def mentions (search : Search) (term : String) (row : ListedProduct) : Bool :=
  row.specifications.any (fun document =>
    search.like (search.lowerText document) (likeNeedle search term))

/-- The ids of rows whose specifications contain the term, so many at most. -/
def specificationMatches (search : Search) (companyId : Id) (q : Option String)
    (catalogue : Catalogue) : List Id :=
  match trimOrNull q with
  | none => []
  | some term => search.pick ((catalogue.filter (fun row =>
      row.companyId = companyId ∧ mentions search term row)).map (fun row => row.id))

def activeMatches : ActiveFilter → ListedProduct → Bool
  | .active, row => row.deletedAt.isNone
  | .inactive, row => row.deletedAt.isSome
  | .all, _ => true

/-- The term in one of the columns a person types. -/
def columnsMatch (search : Search) (term : String) (row : ListedProduct) : Bool :=
  search.contains row.brand term || search.contains row.model term ||
    row.variant.any (fun variant => search.contains variant term) ||
    row.barcode.any (fun barcode => search.contains barcode term)

def buildWhere (search : Search) (filter : ProductFilter) (specIds : List Id)
    (row : ListedProduct) : Bool :=
  activeMatches (filter.active.getD .active) row &&
    filter.categoryId.all (fun id => row.categoryId = some id) &&
    filter.trackingType.all (fun mode => row.trackingType = mode) &&
    (trimOrNull filter.q).all (fun term =>
      columnsMatch search term row || decide (row.id ∈ specIds))

structure ProductListRow where
  id : String
  brand : String
  model : String
  variant : Option String
  label : String
  trackingType : TrackingType
  serialized : Bool
  barcode : Option String
  categoryId : Option String
  isActive : Bool
  deriving DecidableEq

def toListRow (row : ListedProduct) : ProductListRow where
  id := Auth.binToUuid row.id
  brand := row.brand
  model := row.model
  variant := row.variant
  label := row.label
  trackingType := row.trackingType
  serialized := row.trackingType ≠ .quantity
  barcode := row.barcode
  categoryId := row.categoryId.map Auth.binToUuid
  isActive := row.deletedAt.isNone

structure ListPage where
  rows : List ProductListRow
  nextCursor : Option String
  totalActive : Nat
  deriving DecidableEq

/-- The catalogue as each of the three queries of a page finds it. -/
structure Moments where
  matched : Catalogue
  listed : Catalogue
  counted : Catalogue

/-- Newest first. From a cursor on, the rows from its row's position on but the first. -/
def findMany (keeps : ListedProduct → Bool) (cursor : Option Id) (take : Nat)
    (catalogue : Catalogue) : List ListedProduct :=
  let rows := (catalogue.filter keeps).insertionSort (fun a b => b.id ≤ a.id)
  match cursor with
  | none => rows.take take
  | some id =>
      match catalogue.find? id with
      | none => []
      | some anchor => ((rows.filter (fun row => row.id ≤ anchor.id)).drop 1).take take

def pageWhere (search : Search) (companyId : Id) (filter : ProductFilter) (matched : Catalogue)
    (row : ListedProduct) : Bool :=
  row.companyId = companyId &&
    buildWhere search filter (specificationMatches search companyId filter.q matched) row

def cursorId (cursor : Option String) : Except Refusal (Option Id) :=
  match cursor.filter (· ≠ "") with
  | none => .ok none
  | some raw => (decodeCatalogCursor raw).map (fun cursor => some (uuidToBin cursor.id))

def listPage (search : Search) (companyId : Id) (query : ListProductsDto) (moments : Moments) :
    Except Refusal ListPage := do
  let limit := (query.limit.getD defaultPage).val
  let keeps := pageWhere search companyId query.toProductFilter moments.matched
  let cursor ← cursorId query.cursor
  let rows := findMany keeps cursor (limit + 1) moments.listed
  let hasMore := limit < rows.length
  let page := if hasMore then rows.take limit else rows
  .ok {
    rows := page.map toListRow
    nextCursor := if hasMore then
      page.getLast?.map (fun row => encodeCatalogCursor ⟨Auth.binToUuid row.id⟩) else none
    totalActive := (moments.counted.filter keeps).length }

theorem deletedAt_id (deletedAt : Option Time) (row : ListedProduct) :
    ({ row with deletedAt } : ListedProduct).id = row.id := rfl

def setActive (companyId id : Id) (active : Bool) (now : Time) (catalogue : Catalogue) :
    Except Refusal Catalogue :=
  match (catalogue.find? id).filter (fun row => row.companyId = companyId) with
  | none => .error productNotFound
  | some row =>
      if row.deletedAt.isNone = active then .ok catalogue
      else .ok (catalogue.update row.id
        (fun row => { row with deletedAt := if active then none else some now })
        (deletedAt_id _))

/-- A product is created, or a row is rewritten: by an edit, or by being archived or restored. -/
inductive Change : Catalogue → Catalogue → Prop
  | created (before after : Catalogue) (row : ListedProduct)
      (done : before.insert? row = some after) : Change before after
  | rewritten (before : Catalogue) (id : Id) (f : ListedProduct → ListedProduct)
      (keep : ∀ row, (f row).id = row.id) : Change before (before.update id f keep)

abbrev Later : Catalogue → Catalogue → Prop := Relation.ReflTransGen Change

theorem setActive_later (companyId id : Id) (active : Bool) (now : Time) (before after : Catalogue)
    (done : setActive companyId id active now before = .ok after) : Later before after := by
  rw [setActive] at done
  split at done
  · cases done
  · split at done
    · cases done
      exact .refl
    · cases done
      exact .single (.rewritten before _ _ _)

theorem change_ids (before after : Catalogue) (change : Change before after) :
    before.ids ⊆ after.ids := by
  cases change with
  | created _ row done =>
    obtain ⟨rows, -⟩ := before.insert?_some after row done
    intro id member
    rw [Catalogue.ids, rows, List.map_append]
    exact List.mem_append_left _ member
  | rewritten id f keep =>
    intro known member
    obtain ⟨row, present, same⟩ := List.mem_map.mp member
    refine List.mem_map.mpr ⟨_, (before.mem_modify _ f keep _).mpr ⟨row, present, rfl⟩, ?_⟩
    dsimp only
    split
    · rw [keep, same]
    · exact same

theorem later_ids (before after : Catalogue) (later : Later before after) :
    before.ids ⊆ after.ids := by
  induction later with
  | refl => exact fun _ member => member
  | tail _ change ih => exact fun _ member => change_ids _ _ change (ih member)

def Catalogue.Shows (catalogue : Catalogue) (db : Db) : Prop :=
  catalogue.rows.map ListedProduct.toProduct = db.products.rows

theorem insertProduct_change (engine : Imports.Engine) (product : Product) (db db' : Db)
    (done : insertProduct engine product db = .ok db') (fits : product.id < 16 ^ 32)
    (catalogue : Catalogue) (shows : catalogue.Shows db) :
    ∃ after, Change catalogue after ∧ after.Shows db' := by
  obtain ⟨products, inserted, rfl⟩ := insertProduct_ok engine product db db' done
  obtain ⟨rows, fresh⟩ := db.products.insert?_some products product inserted
  let row : ListedProduct := { product with fits }
  have unknown : row.id ∉ catalogue.rows.map (fun row => row.id) := by
    intro present
    obtain ⟨other, member, same⟩ := List.mem_map.mp present
    have there : other.toProduct ∈ db.products.rows := by
      rw [← shows]
      exact List.mem_map.mpr ⟨other, member, rfl⟩
    exact fresh _ there same
  obtain ⟨after, created⟩ := catalogue.insert?_of_fresh row unknown
  obtain ⟨listed, -⟩ := catalogue.insert?_some after row created
  refine ⟨after, .created _ _ row created, ?_⟩
  rw [Catalogue.Shows, listed, List.map_append, shows, rows]
  rfl

theorem updateProduct_change (engine : Imports.Engine) (id : Id) (f : Product → Product)
    (keep : ∀ product, (f product).id = product.id) (db db' : Db)
    (done : updateProduct engine id f keep db = .ok db') (catalogue : Catalogue)
    (shows : catalogue.Shows db) : ∃ after, Change catalogue after ∧ after.Shows db' := by
  obtain rfl := updateProduct_ok engine id f keep db db' done
  let g (row : ListedProduct) : ListedProduct :=
    { f row.toProduct with deletedAt := row.deletedAt, fits := by rw [keep]; exact row.fits }
  have kept : ∀ row, (g row).id = row.id := fun row => keep row.toProduct
  refine ⟨catalogue.update id g kept, .rewritten catalogue id g kept, ?_⟩
  rw [Catalogue.Shows, Table.update, Table.update, Table.modify_rows, Table.modify_rows, ← shows,
    List.map_map, List.map_map]
  apply List.map_congr_left
  intro row _
  simp only [Function.comp_apply, decide_eq_true_eq]
  split
  · rfl
  · rfl

structure PageCall where
  limit : Option PageSize
  cursor : Option String
  moments : Moments
  answer : ListPage

section Scrolls

variable (search : Search) (companyId : Id) (filter : ProductFilter)

/-- The catalogue changes before and between the queries of a call. -/
structure Answered (start : Catalogue) (call : PageCall) : Prop where
  asked : Later start call.moments.matched
  listed : Later call.moments.matched call.moments.listed
  counted : Later call.moments.listed call.moments.counted
  answered : listPage search companyId ⟨filter, call.limit, call.cursor⟩ call.moments =
    .ok call.answer

/-- Every call asks with the cursor it was given last, until it is given none. -/
inductive Scroll : Catalogue → Option String → List PageCall → Prop
  | stop (start : Catalogue) (call : PageCall)
      (answered : Answered search companyId filter start call)
      (last : call.answer.nextCursor = none) : Scroll start call.cursor [call]
  | turn (start : Catalogue) (call : PageCall) (cursor : String) (more : List PageCall)
      (answered : Answered search companyId filter start call)
      (turned : call.answer.nextCursor = some cursor)
      (onward : Scroll call.moments.counted (some cursor) more) :
      Scroll start call.cursor (call :: more)

def PageCall.keeps (call : PageCall) : ListedProduct → Bool :=
  pageWhere search companyId filter call.moments.matched

def PageCall.Matches (call : PageCall) (id : Id) : Prop :=
  ∃ row ∈ call.moments.listed.rows, row.id = id ∧ call.keeps search companyId filter row = true

def PageCall.anchor (call : PageCall) : Option Id := (cursorId call.cursor).toOption.join

/-- The row of the cursor is no longer listed, and the product is the first one after it. -/
def PageCall.Skips (call : PageCall) (id : Id) : Prop :=
  ∃ anchor, call.anchor = some anchor ∧ ¬call.Matches search companyId filter anchor ∧
    id < anchor ∧ ∀ j, call.Matches search companyId filter j → j < anchor → j ≤ id

end Scrolls

def returnedIds (calls : List PageCall) : List String :=
  calls.flatMap (fun call => call.answer.rows.map ProductListRow.id)

section Keys

variable (search : Search) (companyId : Id) (filter : ProductFilter)

def PageCall.kept (call : PageCall) : List ListedProduct :=
  (call.moments.listed.filter (call.keeps search companyId filter)).insertionSort
    (fun a b => b.id ≤ a.id)

variable (call : PageCall)

theorem kept_descends :
    ((call.kept search companyId filter).map (fun row => row.id)).Pairwise (· > ·) := by
  have sorted := List.pairwise_insertionSort (fun a b : ListedProduct => b.id ≤ a.id)
    (call.moments.listed.filter (call.keeps search companyId filter))
  have apart : ((call.kept search companyId filter).map (fun row => row.id)).Nodup := by
    have distinct := call.moments.listed.unique.sublist
      ((List.filter_sublist (p := call.keeps search companyId filter)).map (fun row => row.id))
    exact ((List.perm_insertionSort _ _).map _).nodup_iff.mpr distinct
  rw [List.Nodup, List.pairwise_map] at apart
  rw [List.pairwise_map]
  exact (sorted.and apart).imp (fun both => lt_of_le_of_ne both.1 (Ne.symm both.2))

def PageCall.asked (call : PageCall) : Keyset.Asked Id where
  keys := (call.kept search companyId filter).map (fun row => row.id)
  sorted := kept_descends search companyId filter call
  anchor := call.anchor
  limit := (call.limit.getD defaultPage).val
  positive := (call.limit.getD defaultPage).property.1

theorem mem_keys (id : Id) :
    id ∈ (call.asked search companyId filter).keys ↔ call.Matches search companyId filter id := by
  have listed : ∀ row, row ∈ call.kept search companyId filter ↔
      row ∈ call.moments.listed.rows ∧ call.keeps search companyId filter row = true := by
    intro row
    rw [PageCall.kept, (List.perm_insertionSort _ _).mem_iff, Table.mem_filter]
  simp only [PageCall.asked, PageCall.Matches, List.mem_map, listed]
  constructor
  · rintro ⟨row, ⟨present, keeps⟩, same⟩
    exact ⟨row, present, same, keeps⟩
  · rintro ⟨row, present, same, keeps⟩
    exact ⟨row, ⟨present, keeps⟩, same⟩

theorem drops_iff (id : Id) :
    (call.asked search companyId filter).Drops id ↔ call.Skips search companyId filter id := by
  simp only [Keyset.Asked.Drops, PageCall.Skips, mem_keys]
  rfl

theorem findMany_ids
    (there : ∀ anchor, call.anchor = some anchor → anchor ∈ call.moments.listed.ids) (take : Nat) :
    (findMany (call.keeps search companyId filter) call.anchor take call.moments.listed).map
      (fun row => row.id) = (call.asked search companyId filter).rest.take take := by
  unfold findMany Keyset.Asked.rest PageCall.asked
  dsimp only
  cases anchored : call.anchor with
  | none => exact List.map_take
  | some anchor =>
    dsimp only
    cases found : call.moments.listed.find? anchor with
    | none =>
      obtain ⟨row, present, same⟩ := List.mem_map.mp (there anchor anchored)
      exact absurd same ((call.moments.listed.find?_none anchor).mp found row present)
    | some row =>
      have same := call.moments.listed.key_of_find? anchor row found
      dsimp only at same ⊢
      rw [same, List.map_take, List.map_drop, List.filter_map]
      rfl

theorem answer_keys (there : ∀ anchor, call.anchor = some anchor → anchor ∈ call.moments.listed.ids)
    (answered : listPage search companyId ⟨filter, call.limit, call.cursor⟩ call.moments =
      .ok call.answer) :
    call.answer.rows.map ProductListRow.id =
        (call.asked search companyId filter).page.map Auth.binToUuid ∧
      call.answer.nextCursor = (call.asked search companyId filter).next.map
        (fun id => encodeCatalogCursor ⟨Auth.binToUuid id⟩) := by
  obtain ⟨cursor, decoded, rest⟩ := (except_bind_ok _ _ _).mp answered
  have anchored : cursor = call.anchor := by
    rw [PageCall.anchor, decoded]
    rfl
  subst anchored
  have found := findMany_ids search companyId filter call there
    ((call.limit.getD defaultPage).val + 1)
  have value := Except.ok.inj rest
  simp only [← value, List.map_map]
  unfold PageCall.keeps at found
  generalize findMany _ call.anchor _ call.moments.listed = rows at found ⊢
  have asked : (call.asked search companyId filter).limit = (call.limit.getD defaultPage).val := rfl
  rw [← asked] at found ⊢
  generalize call.asked search companyId filter = asked at found ⊢
  have many : asked.limit < rows.length ↔ asked.limit < asked.rest.length := by
    have lengths := congrArg List.length found
    rw [List.length_map, List.length_take] at lengths
    omega
  have page : ((if asked.limit < rows.length then rows.take asked.limit else rows).map
      (fun row => row.id)) = asked.page := by
    rw [Keyset.Asked.page]
    split
    · rw [List.map_take, found, List.take_take, Nat.min_eq_left (Nat.le_succ _)]
    · next few =>
      rw [found, List.take_of_length_le (by omega), List.take_of_length_le (by omega)]
  constructor
  · rw [← page, List.map_map]
    rfl
  · rw [Keyset.Asked.next, ← page]
    by_cases more : asked.limit < rows.length
    · have beyond := many.mp more
      simp only [more, beyond, if_true, List.getLast?_map, Option.map_map]
      rfl
    · have few : ¬asked.limit < asked.rest.length := fun beyond => more (many.mpr beyond)
      simp only [more, few, if_false]
      rfl

theorem cursorId_encode (id : Id) (fits : id < 16 ^ 32) :
    cursorId (some (encodeCatalogCursor ⟨Auth.binToUuid id⟩)) = .ok (some id) := by
  have read := decode_encode id
  have written : encodeCatalogCursor ⟨Auth.binToUuid id⟩ ≠ "" := by
    intro empty
    rw [empty] at read
    have refused : decodeCatalogCursor "" = .error invalidCursor := by rfl
    rw [refused] at read
    cases read
  rw [cursorId, Option.filter, if_pos (by simpa using written)]
  simp only [read, Except.map, uuidToBin_binToUuid id fits]

theorem ids_fit (catalogue : Catalogue) : ∀ id ∈ catalogue.ids, id < 16 ^ 32 := by
  intro id member
  obtain ⟨row, -, same⟩ := List.mem_map.mp member
  exact same ▸ row.fits

/-- The first call has no cursor; every other has the id of a row there once was. -/
def Given (start : Catalogue) (cursor : Option String) : Prop :=
  ∀ raw, cursor = some raw → ∃ id ∈ start.ids, raw = encodeCatalogCursor ⟨Auth.binToUuid id⟩

variable (start : Catalogue)

theorem given_there (call : PageCall) (given : Given start call.cursor)
    (answered : Answered search companyId filter start call) :
    ∀ anchor, call.anchor = some anchor → anchor ∈ call.moments.listed.ids := by
  intro anchor anchored
  rw [PageCall.anchor] at anchored
  cases asked : call.cursor with
  | none => simp [asked, cursorId, Except.toOption] at anchored
  | some raw =>
    obtain ⟨id, member, written⟩ := given raw asked
    rw [asked, written, cursorId_encode id (ids_fit start id member)] at anchored
    have same : id = anchor := by simpa [Except.toOption] using anchored
    exact later_ids _ _ (answered.asked.trans answered.listed) (same ▸ member)

theorem scroll_keyset (cursor : Option String) (calls : List PageCall)
    (scroll : Scroll search companyId filter start cursor calls) (given : Given start cursor) :
    Keyset.Scrolls (cursorId cursor).toOption.join
        (calls.map (fun call => call.asked search companyId filter)) ∧
      returnedIds calls = (Keyset.returned
        (calls.map (fun call => call.asked search companyId filter))).map Auth.binToUuid := by
  induction scroll with
  | stop start call answered last =>
    have there := given_there search companyId filter start call given answered
    obtain ⟨rows, next⟩ := answer_keys search companyId filter call there answered.answered
    rw [last] at next
    have ended := Option.map_eq_none_iff.mp next.symm
    exact ⟨.stop (call.asked search companyId filter) ended, by
      simp [returnedIds, Keyset.returned, rows]⟩
  | turn start call cursor more answered turned onward ih =>
    have there := given_there search companyId filter start call given answered
    obtain ⟨rows, next⟩ := answer_keys search companyId filter call there answered.answered
    rw [turned] at next
    obtain ⟨id, last, written⟩ := Option.map_eq_some_iff.mp next.symm
    have listed : id ∈ call.moments.listed.ids := by
      have inside := (call.asked search companyId filter).rest_sublist.subset
        (List.mem_of_mem_take ((call.asked search companyId filter).next_mem id last))
      obtain ⟨row, present, same, -⟩ := (mem_keys search companyId filter call id).mp inside
      exact List.mem_map.mpr ⟨row, present, same⟩
    have kept := later_ids _ _ answered.counted listed
    obtain ⟨scrolls, others⟩ := ih (by
      intro raw same
      exact ⟨id, kept, by rw [written, Option.some.inj same]⟩)
    rw [← written, cursorId_encode id (ids_fit _ id kept)] at scrolls
    refine ⟨.turn (call.asked search companyId filter) id _ last scrolls, ?_⟩
    rw [returnedIds, List.flatMap_cons, rows, ← returnedIds, others]
    simp [Keyset.returned]

theorem count_binToUuid (ids : List Id) (fit : ∀ id ∈ ids, id < 16 ^ 32) (id : Id)
    (fits : id < 16 ^ 32) : (ids.map Auth.binToUuid).count (Auth.binToUuid id) = ids.count id := by
  rw [List.count, List.count, List.countP_map]
  apply List.countP_congr
  intro other member
  simp only [Function.comp_apply, beq_iff_eq]
  constructor
  · intro same
    have values := congrArg uuidToBin same
    rwa [uuidToBin_binToUuid other (fit other member), uuidToBin_binToUuid id fits] at values
  · intro same
    rw [same]

theorem scroll_calls (cursor : Option String) (calls : List PageCall)
    (scroll : Scroll search companyId filter start cursor calls) : calls ≠ [] := by
  cases scroll with
  | stop start call answered last => simp
  | turn start call cursor more answered turned onward => simp

theorem matches_fit (id : Id)
    (matching : call.Matches search companyId filter id) : id < 16 ^ 32 := by
  obtain ⟨row, -, same, -⟩ := matching
  exact same ▸ row.fits

theorem returned_fit (calls : List PageCall) :
    ∀ id ∈ Keyset.returned (calls.map (fun call => call.asked search companyId filter)),
      id < 16 ^ 32 := by
  intro id member
  obtain ⟨asked, present, inside⟩ := List.mem_flatMap.mp member
  obtain ⟨call, -, rfl⟩ := List.mem_map.mp present
  have key := (call.asked search companyId filter).rest_sublist.subset (List.mem_of_mem_take inside)
  exact matches_fit search companyId filter call id
    ((mem_keys search companyId filter call id).mp key)

/-- A product the filter lists at every page is returned once, exactly where no page comes after a
row that is listed no more with the product next in line. -/
theorem scroll_returns_once_iff (start : Catalogue) (calls : List PageCall)
    (scroll : Scroll search companyId filter start none calls) (id : Id)
    (matching : ∀ call ∈ calls, call.Matches search companyId filter id) :
    (returnedIds calls).count (Auth.binToUuid id) = 1 ↔
      ∀ call ∈ calls, ¬call.Skips search companyId filter id := by
  obtain ⟨scrolls, ids⟩ :=
    scroll_keyset search companyId filter start none calls scroll (by simp [Given])
  obtain ⟨call, member⟩ := List.exists_mem_of_ne_nil calls
    (scroll_calls search companyId filter start none calls scroll)
  have fits := matches_fit search companyId filter call id (matching call member)
  have keys : ∀ asked ∈ calls.map (fun call => call.asked search companyId filter),
      id ∈ asked.keys := by
    intro asked present
    obtain ⟨call, asks, rfl⟩ := List.mem_map.mp present
    exact (mem_keys search companyId filter call id).mpr (matching call asks)
  rw [ids, count_binToUuid _ (returned_fit search companyId filter calls) id fits,
    Keyset.returned_once_iff _ _ scrolls id keys (by simp [cursorId, Except.toOption])]
  simp only [List.forall_mem_map, drops_iff]

end Keys

def plainSearch : Search where
  contains text term := term.toList <:+: text.toList
  like text pattern := (pattern.toList.drop 1).dropLast <:+: text.toList
  lowerText _ := ""
  toLowerCase text := String.ofList (text.toList.map Char.toLower)
  pick ids := ids.take specSearchLimit
  pick_sub _ := (List.take_sublist _ _).subperm
  pick_length _ := List.length_take

def phone (id : Id) (fits : id < 16 ^ 32) : ListedProduct where
  id := id
  companyId := 1
  brand := "Apple"
  model := "iPhone"
  variant := none
  trackingType := .imei
  defaultPrice := none
  fits := fits

def shelf : Catalogue where
  rows := [phone 1 (by decide), phone 2 (by decide), phone 3 (by decide)]
  unique := by decide

def shelfWithout : Catalogue :=
  shelf.update 3 (fun row => { row with deletedAt := some 100 }) (deletedAt_id _)

def onePage : PageSize := ⟨1, by decide⟩

def firstCall : PageCall where
  limit := some onePage
  cursor := none
  moments := ⟨shelf, shelf, shelf⟩
  answer := ⟨[toListRow (phone 3 (by decide))],
    some (encodeCatalogCursor ⟨Auth.binToUuid 3⟩), 3⟩

def secondCall : PageCall where
  limit := some onePage
  cursor := some (encodeCatalogCursor ⟨Auth.binToUuid 3⟩)
  moments := ⟨shelfWithout, shelfWithout, shelfWithout⟩
  answer := ⟨[toListRow (phone 1 (by decide))], none, 2⟩

theorem firstCall_answered : Answered plainSearch 1 {} shelf firstCall where
  asked := .refl
  listed := .refl
  counted := .refl
  answered := by rfl

theorem secondCall_answered : Answered plainSearch 1 {} shelf secondCall where
  asked := .single (.rewritten shelf 3 _ (deletedAt_id _))
  listed := .refl
  counted := .refl
  answered := by
    unfold listPage
    dsimp only [secondCall]
    rw [cursorId_encode 3 (by decide)]
    rfl

theorem archived_scroll : Scroll plainSearch 1 {} shelf none [firstCall, secondCall] :=
  .turn shelf firstCall _ _ firstCall_answered rfl (.stop shelf secondCall secondCall_answered rfl)

theorem unarchived_stays (id : Id) (fits : id < 16 ^ 32) (apart : id ≠ 3)
    (there : phone id fits ∈ shelf.rows) : phone id fits ∈ shelfWithout.rows :=
  (shelf.mem_update 3 _ (deletedAt_id _) (phone id fits)).mpr (.inl ⟨there, apart⟩)

theorem scroll_returns_once_first :
    (returnedIds [firstCall, secondCall]).count (Auth.binToUuid 1) = 1 ↔
    ∀ call ∈ [firstCall, secondCall], ¬call.Skips plainSearch 1 {} 1 := by
  have there : phone 1 (by decide) ∈ shelf.rows := by simp [shelf]
  have stays := unarchived_stays 1 (by decide) (by decide) there
  refine scroll_returns_once_iff plainSearch 1 {} shelf _ archived_scroll 1 ?_
  simp only [List.forall_mem_cons]
  exact ⟨⟨_, there, rfl, rfl⟩, ⟨_, stays, rfl, rfl⟩, by simp⟩

/-- The next row after the archived one is never returned, though nothing happens to it. -/
theorem next_row_skipped : ¬∀ (search : Search) (companyId : Id) (filter : ProductFilter)
    (start : Catalogue) (calls : List PageCall), Scroll search companyId filter start none calls →
    ∀ row ∈ start.rows, (∀ call ∈ calls, row ∈ call.moments.matched.rows ∧
      row ∈ call.moments.listed.rows ∧ row ∈ call.moments.counted.rows ∧
      call.keeps search companyId filter row = true) →
    (returnedIds calls).count (Auth.binToUuid row.id) = 1 := by
  intro every
  have there : phone 2 (by decide) ∈ shelf.rows := by simp [shelf]
  have stays := unarchived_stays 2 (by decide) (by decide) there
  have once := every plainSearch 1 {} shelf _ archived_scroll (phone 2 (by decide)) there (by
    simp only [List.forall_mem_cons]
    exact ⟨⟨there, there, there, rfl⟩, ⟨stays, stays, stays, rfl⟩, by simp⟩)
  revert once
  decide +kernel

end ErpBackend.Catalog
