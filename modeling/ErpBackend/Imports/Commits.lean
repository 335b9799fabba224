import ErpBackend.Foundation.Protocol
import ErpBackend.Imports.Faithful
import ErpBackend.Imports.Previews

/-!
# Batches are brought in once

Any number of previews and commits overlap, with everything else the shop does
between their steps. A commit holds the batch and its rows as it read them; the
version says whether they are still so.
-/

namespace ErpBackend.Imports

open Foundation Inventory

/-- Stored rows keep what was decided, and a batch that is closed stays as it is. -/
structure Keeps (store store' : ImportDb) : Prop where
  decided : ∀ id batch, store.importBatches.find? id = some batch →
    (rowsOf store' id).map decidedPart = (rowsOf store id).map decidedPart
  closed : ∀ id batch, store.importBatches.find? id = some batch → batch.status ≠ .preview →
    store'.importBatches.find? id = some batch

structure Quiet (store store' : ImportDb) : Prop where
  batches : ∀ id batch, store.importBatches.find? id = some batch →
    store'.importBatches.find? id = some batch
  rows : ∀ id batch, store.importBatches.find? id = some batch → rowsOf store' id = rowsOf store id
  stocked : Stocked store.db → Stocked store'.db

theorem Quiet.refl (store : ImportDb) : Quiet store store :=
  ⟨fun _ _ found => found, fun _ _ _ => rfl, fun stocked => stocked⟩

theorem Quiet.keeps {store store' : ImportDb} (quiet : Quiet store store') :
    Keeps store store' := by
  constructor
  · intro id batch found
    rw [quiet.rows id batch found]
  · exact fun id batch found _ => quiet.batches id batch found

structure Closes (engine : Engine) (batch : ImportBatch) (rows : List ImportRow)
    (store store' : ImportDb) : Prop where
  shown : (rowsOf store batch.id).map decidedPart = rows.map decidedPart
  before : store.importBatches.find? batch.id = some batch ∧ batch.status = .preview
  after : ∃ own, store'.importBatches.find? batch.id = some own ∧ own.status = .committed ∧
    own.importedRows = (importable rows).length
  brought : BroughtIn engine batch (importable rows) store.db store'.db

def Faithful (engine : Engine) (store : ImportDb) : Mark → Prop
  | .other => True
  | .bringIn batch rows => ∀ own ∈ store.importBatches.find? batch.id,
      own.version = batch.version → own.status = .preview →
        AllFit engine batch store.db (importable rows)

/-- What else goes on in the shop leaves the tables of the imports alone. -/
def Elsewhere (mark : Mark) (store store' : ImportDb) (next : Option Mark) : Prop :=
  mark = .other ∧ (∀ mark' ∈ next, mark' = .other) ∧
    store'.importBatches = store.importBatches ∧ store'.importRows = store.importRows ∧
      (Stocked store.db → Stocked store'.db)

inductive Importing (engine : Engine) : Request Unit → Prop
  | preview (ctx : Ctx) (ids : PreviewIds) (originalname : String) (sheet : List (List String))
      (clientUuid : Option Id) :
      Importing engine (preview engine ctx ids originalname sheet clientUuid).void
  | commit (ctx : Ctx) (ids : CommitIds) (id : Id) (expectedVersion : Option Nat) :
      Importing engine (commit engine ctx ids id expectedVersion).void
  | elsewhere (p : Request Unit) (walks : p.Walks Elsewhere) : Importing engine p

def importLeads (engine : Engine) : Mark → ImportDb → ImportDb → Option Mark → Prop
  | .other, store, store', next => Quiet store store' ∧ ∀ batch rows,
      next = some (.bringIn batch rows) → store' = store ∧
        store.importBatches.find? batch.id = some batch ∧ rows = rowsOf store batch.id
  | .bringIn batch rows, store, store', next => (∀ mark ∈ next, mark = .other) ∧
      (store' = store ∨ ∃ ctx userId ids imported,
        commitTx engine ctx userId batch ids (importable rows) store = .ok (store', imported))

/-- The batch is there, and as it was read unless its version is newer. -/
def Recalls (store : ImportDb) : Mark → Prop
  | .other => True
  | .bringIn batch rows => ∃ current, store.importBatches.find? batch.id = some current ∧
      batch.version ≤ current.version ∧ (current.version = batch.version →
        current = batch ∧ (rowsOf store batch.id).map decidedPart = rows.map decidedPart)

def AllOther (next : Option Mark) : Prop := ∀ mark ∈ next, mark = .other

variable (engine : Engine)

theorem quiet_leads (store store' : ImportDb) (next : Option Mark)
    (quiet : Quiet store store') (plain : AllOther next) :
    importLeads engine .other store store' next := by
  refine ⟨quiet, fun batch rows same => ?_⟩
  have other := plain _ same
  cases other

variable (ctx : Ctx)

theorem get_plain (id : Id) : AllOther (get ctx id).mark? := by
  unfold get
  cases ctx.branchId with
  | none => exact fun _ none => (by cases none)
  | some branchId => exact fun _ own => (Option.some.inj own).symm

theorem get_walks (id : Id) :
    (get ctx id).Walks (importLeads engine) := by
  unfold get
  apply Prog.walks_expect
  intro branchId _
  apply Prog.walks_read
  intro store
  rcases (findBatch store ctx.companyId branchId id).map (viewOf store) with _ | view
  · exact ⟨quiet_leads engine _ _ _ (.refl store) (fun _ none => (by cases none)), trivial⟩
  · exact ⟨quiet_leads engine _ _ _ (.refl store) (fun _ none => (by cases none)), trivial⟩

variable (batch : ImportBatch)

theorem insertBatch_quiet (store store' : ImportDb)
    (done : insertBatch batch store = .ok store') :
    Quiet store store' ∧ ∀ own, store.importBatches.find? batch.id ≠ some own := by
  unfold insertBatch at done
  split at done
  · cases done
  · split at done
    · cases done
    · next importBatches inserted =>
      cases done
      refine ⟨⟨?_, fun _ _ _ => rfl, fun stocked => stocked⟩, ?_⟩
      · exact fun id own found => Table.find?_insert_of_found _ _ _ inserted id own found
      · intro own found
        obtain ⟨member, same⟩ := (Table.find?_some _ _ _).mp found
        exact (Table.insert?_some _ _ _ inserted).2 own member same

theorem insertRows_others (companyId : Id) (ids : PreviewIds) (index : Nat)
    (decided : List Decided) (store store' : ImportDb)
    (done : insertRows companyId ids index decided store = .ok store') :
    store'.db = store.db ∧ store'.importBatches = store.importBatches ∧
      ∀ id, id ≠ ids.batch → rowsOf store' id = rowsOf store id := by
  induction decided generalizing index store with
  | nil =>
      cases done
      exact ⟨rfl, rfl, fun _ _ => rfl⟩
  | cons first rest ih =>
      unfold insertRows at done
      split at done
      · cases done
      · next importRows inserted =>
        obtain ⟨db, batches, rows⟩ := ih _ _ done
        refine ⟨db, batches, fun id other => ?_⟩
        rw [rows id other]
        unfold rowsOf Table.filter
        dsimp only
        rw [(Table.insert?_some _ _ _ inserted).1, List.filter_append,
          List.filter_cons_of_neg (by simp [importRow, other.symm]), List.filter_nil,
          List.append_nil]

theorem previewTx_quiet (ids : PreviewIds) (own : batch.id = ids.batch)
    (decided : List Decided) (store store' : ImportDb)
    (done : previewTx batch ids decided store = .ok store') : Quiet store store' := by
  obtain ⟨recorded, inserted, stored⟩ := (except_bind_ok _ _ _).mp done
  obtain ⟨first, new⟩ := insertBatch_quiet _ _ _ inserted
  obtain ⟨db, batches, rows⟩ := insertRows_others _ _ _ _ _ _ stored
  constructor
  · intro id old found
    rw [batches]
    exact first.batches id old found
  · intro id old found
    have other : id ≠ ids.batch := by
      rintro rfl
      exact new old (own ▸ found)
    rw [rows id other, first.rows id old found]
  · intro stocked
    rw [db]
    exact first.stocked stocked

theorem preview_walks (ids : PreviewIds) (originalname : String)
    (sheet : List (List String)) (clientUuid : Option Id) :
    (preview engine ctx ids originalname sheet clientUuid).Walks (importLeads engine) := by
  have plain := get_plain ctx ids.batch
  have walks := get_walks engine ctx ids.batch
  unfold preview
  apply Prog.walks_expect
  intro branchId _
  apply Prog.walks_read
  intro store
  split
  · next batch replayed =>
    exact ⟨quiet_leads engine _ _ _ (.refl store) (get_plain ctx batch.id),
      get_walks engine ctx batch.id⟩
  · refine ⟨quiet_leads engine _ _ _ (.refl store) ?_, ?_⟩
    · unfold Prog.require
      split
      · rw [Prog.pure_bind]
        dsimp only
        split
        · exact fun _ own => (Option.some.inj own).symm
        · exact fun _ own => (Option.some.inj own).symm
      · exact fun _ none => (by cases none)
    · apply Prog.walks_require
      intro _
      dsimp only
      split
      · next kind missing understood =>
        apply Prog.walks_read
        intro store₁
        refine ⟨quiet_leads engine _ _ _ (.refl store₁) (fun _ own =>
          (Option.some.inj own).symm), ?_⟩
        apply Prog.walks_commit
        · intro store₂ store₃ done
          exact quiet_leads engine _ _ _ (previewTx_quiet _ ids rfl _ _ _ done) plain
        · intro store₂ _ _
          exact quiet_leads engine _ _ _ (.refl store₂) (fun _ none => (by cases none))
        · exact walks
      · apply Prog.walks_commit
        · intro store₂ store₃ done
          refine quiet_leads engine _ _ _ (insertBatch_quiet _ _ _ done).1 ?_
          rw [Prog.mark_map]
          exact plain
        · intro store₂ _ _
          exact quiet_leads engine _ _ _ (.refl store₂) (fun _ none => (by cases none))
        · exact Prog.walks_map _ _ walks

theorem findBatch_id (store : ImportDb) (companyId branchId id : Id) (batch : ImportBatch)
    (found : findBatch store companyId branchId id = some batch) :
    store.importBatches.find? batch.id = some batch := by
  obtain ⟨present, -⟩ := Option.filter_eq_some_iff.mp found
  obtain rfl := Table.key_of_find? _ _ _ present
  exact present

theorem commit_walks (ids : CommitIds) (id : Id)
    (expectedVersion : Option Nat) :
    (commit engine ctx ids id expectedVersion).Walks (importLeads engine) := by
  unfold commit
  apply Prog.walks_expect
  intro branchId _
  apply Prog.walks_expect
  intro userId _
  apply Prog.walks_read
  intro store
  rcases found : findBatch store ctx.companyId branchId id with _ | batch
  · exact ⟨quiet_leads engine _ _ _ (.refl store) (fun _ none => (by cases none)), trivial⟩
  · refine ⟨⟨.refl store, ?_⟩, ?_⟩
    · -- what the next step holds is what was read
      intro held rows next
      have same : Mark.bringIn batch (rowsOf store batch.id) = .bringIn held rows := by
        simp only [Option.map_some, Prog.expect, Prog.pure_bind, Prog.require] at next
        split at next
        · split at next
          · split at next
            · split at next
              · exact Option.some.inj next
              · cases next
            · cases next
          · cases next
        · cases next
      cases same
      exact ⟨rfl, findBatch_id _ _ _ _ _ found, rfl⟩
    · apply Prog.walks_expect
      rintro _ ⟨⟩
      apply Prog.walks_require
      intro _
      apply Prog.walks_require
      intro _
      apply Prog.walks_require
      intro _
      apply Prog.walks_require
      intro _
      apply Prog.walks_transact
      · intro store₁ store₂ imported done
        refine ⟨⟨?_, .inr ⟨ctx, userId, ids, imported, done⟩⟩, ?_⟩
        · rw [Prog.mark_map]
          exact get_plain ctx id
        · exact Prog.walks_map _ _ (get_walks engine ctx id)
      · intro store₁ _ _
        exact ⟨fun _ none => (by cases none), .inl rfl⟩

theorem commit_plain (ids : CommitIds) (id : Id)
    (expectedVersion : Option Nat) : AllOther (commit engine ctx ids id expectedVersion).mark? := by
  unfold commit
  cases ctx.branchId with
  | none => exact fun _ none => (by cases none)
  | some branchId =>
      cases ctx.userId with
      | none => exact fun _ none => (by cases none)
      | some userId => exact fun _ own => (Option.some.inj own).symm

theorem preview_plain (ids : PreviewIds) (originalname : String)
    (sheet : List (List String)) (clientUuid : Option Id) :
    AllOther (preview engine ctx ids originalname sheet clientUuid).mark? := by
  unfold preview
  cases ctx.branchId with
  | none => exact fun _ none => (by cases none)
  | some branchId => exact fun _ own => (Option.some.inj own).symm

theorem importing_walks (p : Request Unit) (importing : Importing engine p)
    (store : ImportDb) : p.Walks (importLeads engine) ∧ AllOther p.mark? := by
  cases importing with
  | preview ctx ids originalname sheet clientUuid =>
      refine ⟨Prog.walks_void _ (preview_walks _ _ _ _ _ _), ?_⟩
      unfold Prog.void
      rw [Prog.mark_map]
      exact preview_plain _ _ _ _ _ _
  | commit ctx ids id expectedVersion =>
      refine ⟨Prog.walks_void _ (commit_walks _ _ _ _ _), ?_⟩
      unfold Prog.void
      rw [Prog.mark_map]
      exact commit_plain _ _ _ _ _
  | elsewhere _ walks =>
      constructor
      · apply Prog.walks_imp p _ walks
        rintro mark store store' next ⟨rfl, plain, batches, rows, stocked⟩
        apply quiet_leads engine store store' next _ plain
        refine ⟨?_, ?_, stocked⟩
        · intro id batch found
          rw [batches]
          exact found
        · intro id batch _
          unfold rowsOf
          rw [rows]
      · cases p with
        | done result => exact fun _ none => (by cases none)
        | step mark write next =>
            intro own same
            cases same
            exact (walks store).1.1

theorem quiet_recalls {store store' : ImportDb} (quiet : Quiet store store') (mark : Mark)
    (recalls : Recalls store mark) : Recalls store' mark := by
  cases mark with
  | other => trivial
  | bringIn batch rows =>
      obtain ⟨current, found, newer, same⟩ := recalls
      refine ⟨current, quiet.batches _ _ found, newer, ?_⟩
      rw [quiet.rows _ _ found]
      exact same

theorem commitTx_keeps (userId : Id) (batch : ImportBatch)
    (ids : CommitIds) (rows : List ImportRow) (store store' : ImportDb) (imported : Nat)
    (done : commitTx engine ctx userId batch ids rows store = .ok (store', imported)) :
    Keeps store store' ∧ (Stocked store.db → Stocked store'.db) ∧
      ∀ mark, Recalls store mark → Recalls store' mark := by
  obtain ⟨own, brought, found, version, status, rowsDone, db, importRows, batches⟩ :=
    commitTx_ok _ _ _ _ _ _ _ _ _ done
  have decided : ∀ id, (rowsOf store' id).map decidedPart = (rowsOf store id).map decidedPart := by
    intro id
    have same := bringInRows_rows _ _ _ _ _ _ _ rowsDone id
    unfold rowsOf at same ⊢
    rw [importRows]
    exact same
  refine ⟨⟨fun id _ _ => decided id, ?_⟩, ?_, ?_⟩
  · intro id other there notOpen
    rw [batches]
    split
    · next same =>
      rw [same, found] at there
      cases there
      exact absurd status notOpen
    · exact there
  · intro stocked
    rw [db]
    exact bringInRows_stocked _ _ _ _ _ _ _ (by exact stocked) rowsDone
  · intro mark recalls
    cases mark with
    | other => trivial
    | bringIn held kept =>
        obtain ⟨current, there, newer, same⟩ := recalls
        by_cases this : held.id = batch.id
        · rw [this, found] at there
          cases there
          refine ⟨_, by rw [batches, if_pos this], ?_, ?_⟩
          · exact Nat.le_add_right_of_le (Nat.le_add_right_of_le newer)
          · intro stale
            dsimp only [committedBatch, claimedBatch] at stale
            omega
        · refine ⟨current, by rw [batches, if_neg this]; exact there, newer, ?_⟩
          rw [decided]
          exact same

def importProtocol (engine : Engine) : Protocol ImportDb Mark where
  inv store := Stocked store.db
  fits := Faithful engine
  leads := importLeads engine
  known mark store := Recalls store mark
  apart _ _ _ := True
  apart_symm _ _ _ _ := trivial
  own mark store store' next stocked _ recalls leads := by
    cases mark with
    | other =>
        obtain ⟨quiet, holds⟩ := leads
        refine ⟨quiet.stocked stocked, fun after same => ?_⟩
        cases after with
        | other => trivial
        | bringIn batch rows =>
            obtain ⟨rfl, found, rfl⟩ := holds batch rows same
            exact ⟨batch, found, Nat.le_refl _, fun _ => ⟨rfl, rfl⟩⟩
    | bringIn batch rows =>
        obtain ⟨plain, outcome⟩ := leads
        refine ⟨?_, fun after same => ?_⟩
        · rcases outcome with rfl | ⟨ctx, userId, ids, imported, done⟩
          · exact stocked
          · exact (commitTx_keeps _ _ _ _ _ _ _ _ _ done).2.1 stocked
        · rw [plain after same]
          trivial
  frame mark store store' next held _ _ _ recalls _ leads := by
    refine ⟨?_, fun _ _ => trivial⟩
    cases mark with
    | other => exact quiet_recalls leads.1 held recalls
    | bringIn batch rows =>
        rcases leads.2 with rfl | ⟨ctx, userId, ids, imported, done⟩
        · exact recalls
        · exact (commitTx_keeps _ _ _ _ _ _ _ _ _ done).2.2 held recalls
  rest _ _ _ _ _ _ _ _ _ _ _ := trivial

theorem step_keeps (mark : Mark) (store store' : ImportDb)
    (next : Option Mark) (leads : importLeads engine mark store store' next) :
    Keeps store store' := by
  cases mark with
  | other => exact leads.1.keeps
  | bringIn batch rows =>
      rcases leads.2 with rfl | ⟨ctx, userId, ids, imported, done⟩
      · exact (Quiet.refl _).keeps
      · exact (commitTx_keeps _ _ _ _ _ _ _ _ _ done).1

theorem step_closes (rows : List ImportRow)
    (store store' : ImportDb) (next : Option Mark) (stocked : Stocked store.db)
    (faithful : Faithful engine store (.bringIn batch rows))
    (recalls : Recalls store (.bringIn batch rows))
    (leads : importLeads engine (.bringIn batch rows) store store' next) :
    store' = store ∨ Closes engine batch rows store store' := by
  rcases leads.2 with same | ⟨ctx, userId, ids, imported, done⟩
  · exact .inl same
  · right
    obtain ⟨own, brought, found, version, status, rowsDone, db, -, batches⟩ :=
      commitTx_ok _ _ _ _ _ _ _ _ _ done
    obtain ⟨current, there, -, read⟩ := recalls
    rw [found] at there
    cases there
    obtain ⟨rfl, shown⟩ := read version
    constructor
    · exact shown
    · exact ⟨found, status⟩
    · exact ⟨_, by rw [batches, if_pos rfl], rfl, rfl⟩
    · rw [db]
      have fit := faithful own found version status
      exact bringInRows_brought engine own ids 0 (importable rows) { store with
        importBatches := store.importBatches.update own.id claimedBatch claimedBatch_id } brought
          stocked fit rowsDone

theorem closed_stays {c c' : Config ImportDb Mark Refusal Unit}
    (run : FittingRun (Importing engine) (Faithful engine) c c')
    (sound : (importProtocol engine).Sound c) (id : Id) (batch : ImportBatch)
    (found : c.store.importBatches.find? id = some batch) (closed : batch.status ≠ .preview) :
    (importProtocol engine).Sound c' ∧ c'.store.importBatches.find? id = some batch := by
  induction run with
  | refl => exact ⟨sound, found⟩
  | @tail middle last _ taken ih =>
      obtain ⟨sound, found⟩ := ih
      have enters : ∀ p, Importing engine p → (importProtocol engine).Enters p middle.store := by
        intro p importing
        obtain ⟨walks, plain⟩ := importing_walks engine p importing middle.store
        refine ⟨walks, fun mark same => ?_, fun _ _ _ => trivial⟩
        rw [plain mark same]
        trivial
      refine ⟨(importProtocol engine).step_sound _ _ _ enters taken sound, ?_⟩
      cases taken with
      | arrive s inFlight p issued => exact found
      | advance s before after mark write next fit =>
          obtain ⟨-, leads⟩ := sound.taken
          exact (step_keeps engine mark s (write s) _ leads).closed id batch found closed

/-- In every run in which what is brought in fits, a step of a commit leaves everything as it
was, or brings the whole batch in as it was shown; and then no later step brings it in. -/
theorem brought_in_once (engine : Engine) (store : ImportDb) (stocked : Stocked store.db)
    (c : Config ImportDb Mark Refusal Unit)
    (run : FittingRun (Importing engine) (Faithful engine) (.idle store) c) (index : Nat)
    (mark : Mark) (pending : c.inFlight[index]?.bind Prog.mark? = some mark)
    (faithful : Faithful engine c.store mark) :
    Keeps c.store (c.move (.advance index)).store ∧ ∀ batch rows, mark = .bringIn batch rows →
      (c.move (.advance index)).store = c.store ∨
      Closes engine batch rows c.store (c.move (.advance index)).store ∧
        ∀ c', FittingRun (Importing engine) (Faithful engine) (c.move (.advance index)) c' →
          ∀ again batch' rows', batch'.id = batch.id →
            c'.inFlight[again]?.bind Prog.mark? = some (.bringIn batch' rows') →
              (c'.move (.advance again)).store = c'.store := by
  have enters : ∀ p, Importing engine p → ∀ s, (importProtocol engine).inv s →
      (importProtocol engine).Enters p s := by
    intro p importing s _
    obtain ⟨walks, plain⟩ := importing_walks engine p importing s
    refine ⟨walks, fun own same => ?_, fun _ _ _ => trivial⟩
    rw [plain own same]
    trivial
  have sound := (importProtocol engine).run_sound _ _ _ enters run
    ((importProtocol engine).sound_idle store stocked)
  obtain ⟨recalls, next, leads⟩ := sound.moved (importProtocol engine) index mark pending
  refine ⟨step_keeps engine mark _ _ next leads, ?_⟩
  rintro batch rows rfl
  rcases step_closes engine batch rows _ _ next sound.inv faithful recalls leads with same | closes
  · exact .inl same
  · right
    refine ⟨closes, ?_⟩
    intro c' later again batch' rows' own pending'
    obtain ⟨closed, found, status, -⟩ := closes.after
    have moved := (importProtocol engine).step_sound _ _ _ (fun p issued => enters p issued _
      sound.inv) (fitting_advance _ _ c index _ pending faithful) sound
    have notOpen : closed.status ≠ .preview := by
      rw [status]
      decide
    obtain ⟨sound', still⟩ := closed_stays engine later moved batch.id closed found notOpen
    obtain ⟨recalls', next', leads'⟩ := sound'.moved (importProtocol engine) again _ pending'
    rcases leads'.2 with same | ⟨ctx, userId, ids, imported, done⟩
    · exact same
    · -- the guard of the transaction would have found the batch open
      obtain ⟨now, -, foundNow, -, open', -⟩ := commitTx_ok _ _ _ _ _ _ _ _ _ done
      rw [own, still] at foundNow
      cases foundNow
      exact absurd open' notOpen

instance (engine : Engine) (batch : ImportBatch) (db : Db) (row : ImportRow) :
    Decidable (Fits engine batch db row) :=
  decidable_of_iff
    ((∀ cost ∈ row.parsed.cost, cost.InCents) ∧
      (∀ price ∈ row.parsed.price,
        ∃ product ∈ productFor engine db batch.companyId row.parsed,
          ∃ cents ∈ askedFor db batch.kind batch.companyId product.id batch.branchId,
            Worth cents price) ∧
      (batch.kind = some .quantity → ∀ code ∈ row.parsed.barcode,
        ∃ product ∈ productFor engine db batch.companyId row.parsed,
          product.barcode = some code) ∧
      (batch.kind = some .quantity →
        ∀ product ∈ productFor engine db batch.companyId row.parsed,
          ∀ item ∈ db.stockItems.find? (batch.companyId, product.id, batch.branchId),
            ∀ cost ∈ row.parsed.cost, Worth item.cost cost))
    ⟨fun ⟨cost, price, barcode, shelf⟩ => ⟨cost, price, barcode, shelf⟩,
      fun ⟨cost, price, barcode, shelf⟩ => ⟨cost, price, barcode, shelf⟩⟩

instance (engine : Engine) (batch : ImportBatch) (db : Db) (rows : List ImportRow) :
    Decidable (AllFit engine batch db rows) :=
  decidable_of_iff
    ((∀ row ∈ rows, Fits engine batch db row) ∧
      (batch.kind = some .quantity → rows.Pairwise (fun a b =>
        engine.keyFor batch.companyId a.parsed = engine.keyFor batch.companyId b.parsed →
          costOf a.parsed = costOf b.parsed)))
    ⟨fun ⟨each, costs⟩ => ⟨each, costs⟩, fun ⟨each, costs⟩ => ⟨each, costs⟩⟩

instance (engine : Engine) (store : ImportDb) : (mark : Mark) →
    Decidable (Faithful engine store mark)
  | .other => .isTrue trivial
  | .bringIn batch rows => inferInstanceAs (Decidable (∀ own ∈
      store.importBatches.find? batch.id, own.version = batch.version → own.status = .preview →
        AllFit engine batch store.db (importable rows)))

/-- A sheet is previewed, and its import goes as far as the transaction. -/
def importing (sheet : List (List String)) : List (Move ImportDb Mark Refusal Unit) :=
  [.arrive (preview binary clerk previewIds "phones.csv" sheet none).void,
    .advance 0, .advance 0, .advance 0, .advance 0,
    .arrive (commit binary clerk commitIds 900 (some 0)).void, .advance 1]

theorem importing_issued (sheet : List (List String)) :
    ∀ p, .arrive p ∈ importing sheet → Importing binary p := by
  intro p member
  simp only [importing, List.mem_cons, List.not_mem_nil, Move.arrive.injEq, reduceCtorEq, or_false,
    false_or] at member
  rcases member with rfl | rfl
  · exact .preview _ _ _ _ _
  · exact .commit _ _ _ _

def underway (sheet : List (List String)) : Config ImportDb Mark Refusal Unit :=
  (Config.idle newShop).schedule (importing sheet)

def phonesWith (headers : List String) : ImportBatch :=
  previewBatch clerk 20 previewIds "phones.csv" .imei (guessMapping headers) ⟨1, 1, 0, 0, 1⟩ none

def priced : List (List String) :=
  [["IMEI", "Model", "Cost", "Price"], ["490154203237518", "A15", "100", "150"]]

def unpriced : List (List String) := [["IMEI", "Model", "Cost"], ["490154203237518", "A15", "100"]]

/-- The phone of a sheet with prices is there, and no price is asked for it. -/
theorem price_not_brought_in :
    ¬ ∀ (engine : Engine) (store : ImportDb), Stocked store.db →
      ∀ (c : Config ImportDb Mark Refusal Unit), Run (Importing engine) anyOrder (.idle store) c →
        ∀ (index : Nat) (batch : ImportBatch) (rows : List ImportRow),
          c.inFlight[index]?.bind Prog.mark? = some (.bringIn batch rows) →
            (c.move (.advance index)).store = c.store ∨
              Closes engine batch rows c.store (c.move (.advance index)).store := by
  intro claim
  have stocked : Stocked newShop.db := by
    intro item member
    cases member
  have run := schedule_run (Importing binary) anyOrder (Config.idle newShop) (importing priced)
    (importing_issued priced) (admits_anyOrder _ _)
  have outcome := claim binary newShop stocked (underway priced) run 1
    (phonesWith (priced.headD [])) (rowsOf (underway priced).store 900) (by decide +kernel)
  have brought : ((underway priced).move (.advance 1)).store.db.units.rows ≠
      (underway priced).store.db.units.rows := by decide +kernel
  have shown : ∀ row ∈ importable (rowsOf (underway priced).store 900),
      row.parsed.price.isSome := by decide +kernel
  have asked : ∀ unit ∈ ((underway priced).move (.advance 1)).store.db.units.rows,
      askedFor ((underway priced).move (.advance 1)).store.db (some .imei) 1 unit.productId 20 =
        none := by decide +kernel
  rcases outcome with same | closes
  · exact brought (by rw [same])
  · obtain ⟨-, carried, sources, units, all⟩ := closes.brought.units (by decide)
    cases carried with
    | nil => exact brought (units.trans (List.append_nil _))
    | cons first rest =>
        have member : first.1 ∈ importable (rowsOf (underway priced).store 900) := by
          rw [← sources]
          exact List.mem_cons_self ..
        obtain ⟨price, given⟩ := Option.isSome_iff_exists.mp (shown first.1 member)
        obtain ⟨cents, some_price, -⟩ := (all first (List.mem_cons_self ..)).sells.price price given
        have inside : first.2 ∈ ((underway priced).move (.advance 1)).store.db.units.rows := by
          rw [units]
          exact List.mem_append_right _ (List.mem_cons_self ..)
        rw [Option.mem_def] at some_price
        have none := asked first.2 inside
        exact absurd (none.symm.trans some_price) (by simp)

theorem brought_in_once_unpriced :
    Closes binary (phonesWith (unpriced.headD [])) (rowsOf (underway unpriced).store 900)
      (underway unpriced).store ((underway unpriced).move (.advance 1)).store := by
  have stocked : Stocked newShop.db := by
    intro item member
    cases member
  have run := fitting_schedule (Importing binary) (Faithful binary) (Config.idle newShop)
    (importing unpriced) (importing_issued unpriced) (by decide +kernel)
  have outcome := (brought_in_once binary newShop stocked (underway unpriced) run 1
    (.bringIn (phonesWith (unpriced.headD [])) (rowsOf (underway unpriced).store 900))
    (by decide +kernel) (by decide +kernel)).2 _ _ rfl
  have brought : ((underway unpriced).move (.advance 1)).store.db.units.rows ≠
      (underway unpriced).store.db.units.rows := by decide +kernel
  rcases outcome with same | ⟨closes, -⟩
  · exact absurd (by rw [same]) brought
  · exact closes

end ErpBackend.Imports
