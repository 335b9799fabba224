import ErpBackend.Foundation.Failure
import ErpBackend.Imports.Commits

/-!
# What a review shows

A batch is shown with its counters and with the first 500 rows of its file, those with a
problem before the others. The counters always tell how the rows were decided. Problems
beyond the 500th row are not shown, whatever else is.
-/

namespace ErpBackend.Imports

open Foundation Inventory

def countOf (status : RowStatus) (rows : List ImportRow) : Nat :=
  rows.countP (fun row => row.status = status)

structure CountsRows (batch : ImportBatch) (rows : List ImportRow) : Prop where
  valid : batch.validRows = countOf .valid rows
  warning : batch.warningRows = countOf .warning rows
  error : batch.errorRows = countOf .error rows

/-- Rows have a batch, are numbered as in the file, below its header, and are counted. -/
structure Tallied (store : ImportDb) : Prop where
  filed : ∀ row ∈ store.importRows.rows,
    ∃ batch, store.importBatches.find? row.batchId = some batch
  numbered : ∀ id, (rowsOf store id).map ImportRow.rowNumber =
    List.range' 2 (rowsOf store id).length
  counted : ∀ id batch, store.importBatches.find? id = some batch →
    CountsRows batch (rowsOf store id)

theorem tallied_empty (db : Db) : Tallied { db } where
  filed row member := by cases member
  numbered _ := rfl
  counted id batch found := by cases found

theorem Tallied.of_same {store store' : ImportDb} (tallied : Tallied store)
    (batches : store'.importBatches = store.importBatches)
    (rows : store'.importRows = store.importRows) : Tallied store' := by
  constructor
  · rw [batches, rows]
    exact tallied.filed
  · unfold rowsOf
    rw [rows]
    exact tallied.numbered
  · unfold rowsOf
    rw [batches, rows]
    exact tallied.counted

variable {store : ImportDb}

theorem Tallied.none_filed (tallied : Tallied store) (id : Id)
    (absent : ∀ batch, store.importBatches.find? id ≠ some batch) : rowsOf store id = [] := by
  apply List.filter_eq_nil_iff.mpr
  intro row member own
  obtain ⟨batch, found⟩ := tallied.filed row member
  rw [decide_eq_true_eq] at own
  exact absent batch (own ▸ found)

section Decided

theorem decidedPart_status {rows rows' : List ImportRow}
    (same : rows'.map decidedPart = rows.map decidedPart) (status : RowStatus) :
    countOf status rows' = countOf status rows := by
  have counted : ∀ rows : List ImportRow, countOf status rows =
      countOf status (rows.map decidedPart) := by
    intro rows
    rw [countOf, countOf, List.countP_map]
    rfl
  rw [counted, same, ← counted]

theorem decidedPart_number {rows rows' : List ImportRow}
    (same : rows'.map decidedPart = rows.map decidedPart) :
    rows'.map ImportRow.rowNumber = rows.map ImportRow.rowNumber := by
  have numbers : ∀ rows : List ImportRow, rows.map ImportRow.rowNumber =
      (rows.map decidedPart).map ImportRow.rowNumber := by
    intro rows
    rw [List.map_map]
    rfl
  rw [numbers, same, ← numbers]

theorem CountsRows.decided {batch : ImportBatch} {rows rows' : List ImportRow}
    (counts : CountsRows batch rows) (same : rows'.map decidedPart = rows.map decidedPart) :
    CountsRows batch rows' := by
  constructor
  · rw [decidedPart_status same, counts.valid]
  · rw [decidedPart_status same, counts.warning]
  · rw [decidedPart_status same, counts.error]

theorem countOf_storedFrom (companyId : Id) (ids : PreviewIds) (index : Nat)
    (decided : List Decided) (status : RowStatus) :
    countOf status (storedFrom companyId ids index decided) =
      (decided.map Decided.verdict).countP (fun verdict => verdict.status = status) := by
  induction decided generalizing index with
  | nil => rfl
  | cons first rest ih =>
    rw [storedFrom, countOf, List.countP_cons, List.map_cons, List.countP_cons, ← ih (index + 1)]
    rfl

theorem number_storedFrom (companyId : Id) (ids : PreviewIds) (index : Nat)
    (decided : List Decided) :
    (storedFrom companyId ids index decided).map ImportRow.rowNumber =
      decided.map Decided.rowNumber := by
  induction decided generalizing index with
  | nil => rfl
  | cons first rest ih => simp [storedFrom, importRow, ih]

theorem number_decideFrom (kind : ImportKind) (mapping : List HeaderGuess) (inShop : List String)
    (rowNumber : Nat) (seenInFile : List String) (body : List (List String)) :
    (decideFrom kind mapping inShop rowNumber seenInFile body).map Decided.rowNumber =
      List.range' rowNumber body.length := by
  induction body generalizing rowNumber seenInFile with
  | nil => rfl
  | cons raw rest ih => simp [decideFrom, ih, List.range'_succ]

end Decided

def tallies : Mark → ImportDb → ImportDb → Option Mark → Prop :=
  fun _ store store' _ => Tallied store → Tallied store'

theorem rowsOf_append (store store' : ImportDb) (batchId : Id) (new : List ImportRow)
    (rows : store'.importRows.rows = store.importRows.rows ++ new)
    (own : ∀ row ∈ new, row.batchId = batchId) (id : Id) :
    rowsOf store' id = rowsOf store id ++ if id = batchId then new else [] := by
  rw [rowsOf, rowsOf, Table.filter, Table.filter, rows, List.filter_append]
  congr 1
  split
  · next same =>
    apply List.filter_eq_self.mpr
    intro row member
    exact decide_eq_true (same ▸ own row member)
  · next other =>
    apply List.filter_eq_nil_iff.mpr
    intro row member
    rw [own row member, decide_eq_true_eq]
    exact fun same => other same.symm

theorem Tallied.record {store store' : ImportDb} (tallied : Tallied store) (batch : ImportBatch)
    (new : List ImportRow) (fresh : ∀ own, store.importBatches.find? batch.id ≠ some own)
    (batches : ∀ id, store'.importBatches.find? id =
      if id = batch.id then some batch else store.importBatches.find? id)
    (rows : store'.importRows.rows = store.importRows.rows ++ new)
    (own : ∀ row ∈ new, row.batchId = batch.id)
    (numbered : new.map ImportRow.rowNumber = List.range' 2 new.length)
    (counts : CountsRows batch new) : Tallied store' := by
  have rowsAt := rowsOf_append store store' batch.id new rows own
  have none := tallied.none_filed batch.id fresh
  refine ⟨?_, fun id => ?_, fun id other found => ?_⟩
  · intro row member
    rw [rows] at member
    rcases List.mem_append.mp member with old | added
    · obtain ⟨filed, found⟩ := tallied.filed row old
      have other : row.batchId ≠ batch.id := fun same => fresh filed (same ▸ found)
      exact ⟨filed, by rw [batches, if_neg other, found]⟩
    · exact ⟨batch, by rw [batches, if_pos (own row added)]⟩
  · rw [rowsAt]
    split
    · next same => rw [same, none, List.nil_append, numbered]
    · rw [List.append_nil, tallied.numbered]
  · rw [rowsAt]
    rw [batches] at found
    split at found
    · next same =>
      cases found
      rw [if_pos same, same, none, List.nil_append]
      exact counts
    · next apart =>
      rw [if_neg apart, List.append_nil]
      exact tallied.counted id other found

variable (batch : ImportBatch)

theorem insertBatch_find (store store' : ImportDb)
    (done : insertBatch batch store = .ok store') (id : Id) :
    store'.importBatches.find? id =
      if id = batch.id then some batch else store.importBatches.find? id := by
  unfold insertBatch at done
  split at done
  · cases done
  · split at done
    · cases done
    · next importBatches inserted =>
      cases done
      exact Table.find?_insert _ _ _ inserted id

theorem failed_tallies (none : CountsRows batch []) (store store' : ImportDb)
    (done : insertBatch batch store = .ok store') (tallied : Tallied store) : Tallied store' := by
  obtain ⟨-, fresh⟩ := insertBatch_quiet batch store store' done
  obtain ⟨-, -, rows⟩ := insertBatch_ok batch store store' done
  exact tallied.record batch [] fresh (insertBatch_find batch store store' done)
    (by rw [rows, List.append_nil]) (fun row member => by cases member) rfl none

theorem preview_tallies (ids : PreviewIds) (own : batch.id = ids.batch)
    (kind : ImportKind) (mapping : List HeaderGuess) (inShop : List String)
    (body : List (List String))
    (counts : let verdicts := (decideFrom kind mapping inShop 2 [] body).map Decided.verdict
      batch.validRows = (summarise verdicts).valid ∧
        batch.warningRows = (summarise verdicts).warning ∧
        batch.errorRows = (summarise verdicts).error)
    (store store' : ImportDb)
    (done : previewTx batch ids (decideFrom kind mapping inShop 2 [] body) store = .ok store')
    (tallied : Tallied store) : Tallied store' := by
  obtain ⟨recorded, inserted, stored⟩ := (except_bind_ok _ _ _).mp done
  obtain ⟨-, fresh⟩ := insertBatch_quiet batch store recorded inserted
  obtain ⟨-, -, kept⟩ := insertBatch_ok batch store recorded inserted
  obtain ⟨-, batches, rows⟩ := insertRows_ok _ _ _ _ _ _ stored
  have numbers := number_storedFrom batch.companyId ids 0 (decideFrom kind mapping inShop 2 [] body)
  have length := congrArg List.length numbers
  rw [number_decideFrom, List.length_map, List.length_range'] at length
  refine tallied.record batch _ fresh ?_ (by rw [rows, kept]) ?_ ?_ ?_
  · rw [batches]
    exact insertBatch_find batch store recorded inserted
  · rw [own]
    exact storedFrom_batch _ _ _ _
  · rw [numbers, number_decideFrom, length]
  · constructor
    · rw [counts.1, countOf_storedFrom]
      rfl
    · rw [counts.2.1, countOf_storedFrom]
      rfl
    · rw [counts.2.2, countOf_storedFrom]
      rfl

variable (engine : Engine)

variable (ctx : Ctx)

theorem commit_tallies (userId : Id) (batch : ImportBatch)
    (ids : CommitIds) (rows : List ImportRow) (store store' : ImportDb) (imported : Nat)
    (done : commitTx engine ctx userId batch ids rows store = .ok (store', imported))
    (tallied : Tallied store) : Tallied store' := by
  obtain ⟨own, brought, found, -, -, rowsDone, -, importRows, batches⟩ :=
    commitTx_ok _ _ _ _ _ _ _ _ _ done
  have decided : ∀ id, (rowsOf store' id).map decidedPart = (rowsOf store id).map decidedPart := by
    intro id
    have same := bringInRows_rows _ _ _ _ _ _ _ rowsDone id
    unfold rowsOf at same ⊢
    rw [importRows]
    exact same
  refine ⟨fun row member => ?_, fun id => ?_, fun id other there => ?_⟩
  · have inside : row ∈ rowsOf store' row.batchId :=
      (Table.mem_filter _ _ row).mpr ⟨member, by simp⟩
    have kept : decidedPart row ∈ (rowsOf store row.batchId).map decidedPart := by
      rw [← decided row.batchId]
      exact List.mem_map_of_mem inside
    obtain ⟨old, present, -⟩ := List.mem_map.mp kept
    obtain ⟨there, same⟩ := (Table.mem_filter _ _ old).mp present
    obtain ⟨filed, held⟩ := tallied.filed old there
    rw [of_decide_eq_true same] at held
    rw [batches]
    split
    · exact ⟨_, rfl⟩
    · exact ⟨filed, held⟩
  · have length := congrArg List.length (decided id)
    rw [List.length_map, List.length_map] at length
    rw [decidedPart_number (decided id), length, tallied.numbered]
  · rw [batches] at there
    split at there
    · next same =>
      cases there
      have counts := (tallied.counted batch.id own found).decided (decided batch.id)
      rw [same]
      exact ⟨counts.valid, counts.warning, counts.error⟩
    · exact (tallied.counted id other there).decided (decided id)

theorem get_tallies (id : Id) : (get ctx id).Walks tallies := by
  unfold get
  apply Prog.walks_expect
  intro branchId _
  apply Prog.walks_read
  intro store
  rcases (findBatch store ctx.companyId branchId id).map (viewOf store) with _ | view
  · exact ⟨fun tallied => tallied, trivial⟩
  · exact ⟨fun tallied => tallied, trivial⟩

theorem preview_tallying (ids : PreviewIds) (originalname : String)
    (sheet : List (List String)) (clientUuid : Option Id) :
    (preview engine ctx ids originalname sheet clientUuid).Walks tallies := by
  unfold preview
  apply Prog.walks_expect
  intro branchId _
  apply Prog.walks_read
  intro store
  split
  · next batch replayed => exact ⟨fun tallied => tallied, get_tallies ctx batch.id⟩
  · refine ⟨fun tallied => tallied, ?_⟩
    apply Prog.walks_require
    intro _
    dsimp only
    split
    · next kind missing understood =>
      apply Prog.walks_read
      intro store₁
      refine ⟨fun tallied => tallied, ?_⟩
      apply Prog.walks_commit
      · intro store₂ store₃ done
        exact preview_tallies _ ids rfl kind _ _ _ ⟨rfl, rfl, rfl⟩ store₂ store₃ done
      · exact fun store₂ _ _ tallied => tallied
      · exact get_tallies ctx ids.batch
    · apply Prog.walks_commit
      · intro store₂ store₃ done
        exact failed_tallies _ ⟨rfl, rfl, rfl⟩ store₂ store₃ done
      · exact fun store₂ _ _ tallied => tallied
      · exact Prog.walks_map _ _ (get_tallies ctx ids.batch)

theorem commit_tallying (ids : CommitIds) (id : Id)
    (expectedVersion : Option Nat) : (commit engine ctx ids id expectedVersion).Walks tallies := by
  unfold commit
  apply Prog.walks_expect
  intro branchId _
  apply Prog.walks_expect
  intro userId _
  apply Prog.walks_read
  intro store
  refine ⟨fun tallied => tallied, ?_⟩
  apply Prog.walks_expect
  rintro ⟨batch, rows⟩ _
  apply Prog.walks_require
  intro _
  apply Prog.walks_require
  intro _
  apply Prog.walks_require
  intro _
  apply Prog.walks_require
  intro _
  apply Prog.walks_transact
  · intro store₁ store₂ imported done
    exact ⟨commit_tallies _ _ _ _ _ _ _ _ _ done, Prog.walks_map _ _ (get_tallies ctx id)⟩
  · exact fun store₁ _ _ tallied => tallied

theorem importing_tallies (p : Request Unit) (importing : Importing engine p) :
    p.Walks tallies := by
  cases importing with
  | preview ctx ids originalname sheet clientUuid =>
    exact Prog.walks_void _ (preview_tallying engine ctx ids originalname sheet clientUuid)
  | commit ctx ids id expectedVersion =>
    exact Prog.walks_void _ (commit_tallying engine ctx ids id expectedVersion)
  | elsewhere _ walks =>
    apply Prog.walks_imp p _ walks
    rintro mark store store' next ⟨-, -, batches, rows, -⟩ tallied
    exact tallied.of_same batches rows

theorem run_tallied (db : Db) (c : Config ImportDb Mark Refusal Unit)
    (run : FittingRun (Importing engine) (fun _ _ => True) (.idle { db }) c) :
    Tallied c.store :=
  Protocol.stateless_run Tallied (fun _ _ => True) tallies
    (fun _ _ _ _ tallied _ keeps => keeps tallied) (Importing engine) (importing_tallies engine)
    { db } (tallied_empty db) c run

abbrev Before (a b : ImportRow) : Prop :=
  rank a.status < rank b.status ∨ rank a.status = rank b.status ∧ a.rowNumber ≤ b.rowNumber

instance : IsTrans ImportRow Before := ⟨fun a b c first second => by
  unfold Before at *
  omega⟩

instance : Std.Total Before := ⟨fun a b => by
  unfold Before
  omega⟩

def rowView (row : ImportRow) : RowView :=
  ⟨row.rowNumber, row.status, row.message, row.identifier, row.parsed, row.created⟩

theorem viewRows_eq (tallied : Tallied store) (id : Id) :
    viewRows store id = (((rowsOf store id).take 500).insertionSort Before).map rowView := by
  have sorted : (rowsOf store id).Pairwise (fun a b => a.rowNumber ≤ b.rowNumber) := by
    rw [← List.pairwise_map (f := ImportRow.rowNumber) (R := fun a b => a ≤ b),
      tallied.numbered id]
    exact List.pairwise_le_range'
  unfold viewRows
  rw [sorted.insertionSort_eq]
  rfl

theorem mem_page (tallied : Tallied store) (id : Id) (row : ImportRow) :
    row ∈ (rowsOf store id).take 500 ↔ row ∈ rowsOf store id ∧ row.rowNumber ≤ 501 := by
  have numbered : ∀ i (inside : i < (rowsOf store id).length),
      (rowsOf store id)[i].rowNumber = 2 + i := by
    intro i inside
    have number := congrArg (fun numbers => numbers[i]?) (tallied.numbered id)
    simpa [inside] using number
  rw [List.mem_take_iff_getElem, List.mem_iff_getElem]
  constructor
  · rintro ⟨i, inside, rfl⟩
    have within : i < (rowsOf store id).length := by omega
    refine ⟨⟨i, within, rfl⟩, ?_⟩
    rw [numbered i within]
    omega
  · rintro ⟨⟨i, within, rfl⟩, early⟩
    rw [numbered i within] at early
    exact ⟨i, by omega, rfl⟩

theorem mem_viewRows (tallied : Tallied store) (id : Id) (shown : RowView) :
    shown ∈ viewRows store id ↔
      ∃ row ∈ rowsOf store id, row.rowNumber ≤ 501 ∧ rowView row = shown := by
  simp only [viewRows_eq tallied, List.mem_map, List.mem_insertionSort, mem_page tallied, and_assoc]

theorem rowView_shown (tallied : Tallied store) (id : Id) (row : ImportRow)
    (member : row ∈ rowsOf store id) :
    rowView row ∈ viewRows store id ↔ row.rowNumber ≤ 501 := by
  rw [mem_viewRows tallied]
  constructor
  · rintro ⟨other, -, early, same⟩
    have number : other.rowNumber = row.rowNumber := congrArg RowView.rowNumber same
    exact number ▸ early
  · exact fun early => ⟨row, member, early, rfl⟩

/-- No row without a problem is shown while one with a problem is left out, and the counts
are those of the batch. -/
structure ProblemsFirst (view : ImportView) (rows : List ImportRow) : Prop where
  shown : ∀ shown ∈ view.rows, shown.status ≠ .error →
    ∀ row ∈ rows, row.status = .error → rowView row ∈ view.rows
  ordered : view.rows.Pairwise (fun a b => rank a.status ≤ rank b.status)
  valid : view.counts.valid = countOf .valid rows
  warning : view.counts.warning = countOf .warning rows
  error : view.counts.error = countOf .error rows
  willImport : view.counts.willImport = (importable rows).length

/-- In a file no row after the 500th has a problem, or each of the first 500 has one. -/
def ProblemsOnPage (rows : List ImportRow) : Prop :=
  (∀ row ∈ rows, row.status = .error → row.rowNumber ≤ 501) ∨
    ∀ row ∈ rows, row.rowNumber ≤ 501 → row.status = .error

theorem importable_length (rows : List ImportRow) :
    (importable rows).length = countOf .valid rows + countOf .warning rows := by
  rw [importable, ← List.countP_eq_length_filter]
  induction rows with
  | nil => rfl
  | cons row rest ih =>
    simp only [countOf, List.countP_cons] at ih ⊢
    rw [ih]
    cases row.status <;> simp <;> omega

theorem get_answer (id : Id) (store : ImportDb) (view : ImportView)
    (answered : (get ctx id).run store = (store, .ok view)) :
    ∃ batch, store.importBatches.find? id = some batch ∧ view = viewOf store batch := by
  have ensured := get_ensures ctx id store
    (fun store' result => ∀ view, result = .ok view →
      ∃ batch, store.importBatches.find? id = some batch ∧ view = viewOf store batch)
    (fun batch found view same => ⟨batch, found, by cases same; rfl⟩)
    (fun refusal view same => by cases same)
  rw [Prog.Ensures, answered] at ensured
  exact ensured view rfl

theorem get_run (branchId id : Id) (store : ImportDb) (batch : ImportBatch)
    (atBranch : ctx.branchId = some branchId)
    (found : findBatch store ctx.companyId branchId id = some batch) :
    (get ctx id).run store = (store, .ok (viewOf store batch)) := by
  have ensured : Prog.Ensures (get ctx id)
      (fun store' result => store' = store ∧ result = .ok (viewOf store batch)) store := by
    unfold get
    rw [atBranch, Prog.ensures_expect]
    refine ⟨fun branch own => ?_, fun none => by cases none⟩
    cases own
    rw [Prog.ensures_read, found, Option.map_some]
    exact ⟨rfl, rfl⟩
  exact Prod.ext ensured.1 ensured.2

/-- In every run, what a review of a batch shows is as it is meant to be exactly when no
problem lies beyond the first 500 rows, or nothing else is among them. -/
theorem problems_first_iff (engine : Engine) (db : Db) (c : Config ImportDb Mark Refusal Unit)
    (run : FittingRun (Importing engine) (fun _ _ => True) (.idle { db }) c) (ctx : Ctx) (id : Id)
    (view : ImportView) (answered : (get ctx id).run c.store = (c.store, .ok view)) :
    ProblemsFirst view (rowsOf c.store id) ↔ ProblemsOnPage (rowsOf c.store id) := by
  have tallied := run_tallied engine db c run
  obtain ⟨batch, found, rfl⟩ := get_answer ctx id c.store view answered
  have own : batch.id = id := Table.key_of_find? _ _ _ found
  subst own
  have counts := tallied.counted batch.id batch found
  have page : ∀ row ∈ rowsOf c.store batch.id,
      rowView row ∈ (viewOf c.store batch).rows ↔ row.rowNumber ≤ 501 :=
    fun row member => rowView_shown tallied batch.id row member
  constructor
  · intro first
    by_cases clean : ∀ row ∈ rowsOf c.store batch.id, row.rowNumber ≤ 501 → row.status = .error
    · exact .inr clean
    · left
      push Not at clean
      obtain ⟨good, member, early, passed⟩ := clean
      intro row present failed
      exact (page row present).mp
        (first.shown (rowView good) ((page good member).mpr early) passed row present failed)
  · intro onPage
    refine ⟨fun shown listed passed row member failed => ?_, ?_, counts.valid, counts.warning,
      counts.error, ?_⟩
    · rw [page row member]
      rcases onPage with before | all
      · exact before row member failed
      · obtain ⟨good, present, early, rfl⟩ := (mem_viewRows tallied batch.id shown).mp listed
        exact absurd (all good present early) passed
    · change (viewRows c.store batch.id).Pairwise _
      rw [viewRows_eq tallied, List.pairwise_map]
      refine (List.pairwise_insertionSort Before _).imp (fun {a b} before => ?_)
      change rank a.status ≤ rank b.status
      rcases before with less | ⟨same, -⟩
      · exact less.le
      · exact same.le
    · rw [importable_length, ← counts.valid, ← counts.warning]
      rfl

/-- The phones of a sheet are reviewed with their problems first. -/
theorem problems_first_priced :
    ProblemsFirst (viewOf (underway priced).store (phonesWith (priced.headD [])))
      (rowsOf (underway priced).store 900) := by
  have run := fitting_schedule (Importing binary) (fun _ _ => True) (Config.idle newShop)
    (importing priced) (importing_issued priced) (fits_any _ _)
  have found : findBatch (underway priced).store 1 20 900 =
      some (phonesWith (priced.headD [])) := by decide +kernel
  refine (problems_first_iff binary {} (underway priced) run clerk 900 _
    (get_run clerk 20 900 _ _ rfl found)).mpr (.inl ?_)
  decide +kernel

section Recorded

variable (ids : PreviewIds)

theorem insertRows_goes (companyId : Id) (injective : Function.Injective ids.row) (index : Nat)
    (decided : List Decided) (store : ImportDb)
    (fresh : ∀ n, index ≤ n → ∀ row ∈ store.importRows.rows, row.id ≠ ids.row n) :
    ∃ store', insertRows companyId ids index decided store = .ok store' := by
  induction decided generalizing index store with
  | nil => exact ⟨store, rfl⟩
  | cons first rest ih =>
    have new : (importRow companyId ids.batch (ids.row index) first).id ∉
        store.importRows.rows.map ImportRow.id := by
      intro present
      obtain ⟨row, member, same⟩ := List.mem_map.mp present
      exact fresh index (Nat.le_refl index) row member same
    obtain ⟨importRows, inserted⟩ := store.importRows.insert?_of_fresh _ new
    obtain ⟨store', done⟩ := ih (index + 1) { store with importRows } (by
      intro n later row member same
      rw [(Table.insert?_some _ _ _ inserted).1, List.mem_append, List.mem_singleton] at member
      rcases member with old | rfl
      · exact fresh n (by omega) row old same
      · have equal := injective same
        omega)
    exact ⟨store', by rw [insertRows, inserted]; exact done⟩

theorem preview_records (injective : Function.Injective ids.row) (engine : Engine) (db : Db)
    (ctx : Ctx) (branchId : Id) (atBranch : ctx.branchId = some branchId) (originalname : String)
    (sheet : List (List String)) (kind : ImportKind) (long : 2 ≤ sheet.length)
    (missing : missingRequirements (guessMapping (sheet.headD [])) = [])
    (understood : kindOf (guessMapping (sheet.headD [])) = some kind) :
    Prog.Ensures (preview engine ctx ids originalname sheet none) (fun store' _ =>
      (∃ batch, findBatch store' ctx.companyId branchId ids.batch = some batch) ∧
        rowsOf store' ids.batch = storedFrom ctx.companyId ids 0
          (decideRows engine db ctx.companyId kind (guessMapping (sheet.headD [])) sheet.tail))
      { db } := by
  unfold preview
  rw [atBranch, Prog.ensures_expect]
  refine ⟨fun branch own => ?_, fun none => by cases none⟩
  cases own
  rw [Prog.ensures_read]
  simp only [Option.bind_none, Prog.ensures_require, missing, understood]
  refine ⟨fun _ => ?_, fun short => absurd long short⟩
  rw [Prog.ensures_read, Prog.ensures_commit]
  set decided := decideRows engine db ctx.companyId kind (guessMapping (sheet.headD [])) sheet.tail
  set batch := previewBatch ctx branchId ids originalname kind (guessMapping (sheet.headD []))
    (summarise (decided.map Decided.verdict)) none
  obtain ⟨importBatches, inserted⟩ :=
    (Table.empty : Table ImportBatch ImportBatch.id).insert?_of_fresh batch (List.not_mem_nil)
  have recorded : insertBatch batch { db } = .ok { db, importBatches } := by
    rw [insertBatch, if_neg (by simp [batch, previewBatch])]
    simp only [inserted]
  obtain ⟨store', stored⟩ := insertRows_goes ids batch.companyId injective 0 decided
    { db, importBatches } (fun n _ row member => by cases member)
  have done : previewTx batch ids decided { db } = .ok store' := by
    rw [previewTx, recorded]
    exact stored
  rw [done]
  refine ⟨fun after same => ?_, fun e failed => by cases failed⟩
  cases same
  obtain ⟨-, batches, rows⟩ := insertRows_ok _ _ _ _ _ _ stored
  have outcome : (∃ batch, findBatch store' ctx.companyId branchId ids.batch = some batch) ∧
      rowsOf store' ids.batch = storedFrom ctx.companyId ids 0 decided := by
    constructor
    · refine ⟨batch, ?_⟩
      rw [findBatch, batches]
      have there := Table.find?_insert _ _ _ inserted ids.batch
      rw [if_pos (show ids.batch = batch.id from rfl)] at there
      simp [there, batch, previewBatch]
    · rw [rowsOf, Table.filter, rows]
      apply List.filter_eq_self.mpr
      intro row member
      rcases List.mem_append.mp member with old | new
      · cases old
      · exact decide_eq_true (storedFrom_batch _ _ _ _ row new)
  exact get_ensures ctx ids.batch store' _ (fun _ _ => outcome) (fun _ => outcome)

end Recorded

def longSheet : List (List String) :=
  [["Serial", "Model", "Cost"], ["SN-1", "A15", "100"]] ++ List.replicate 500 ["", "A15", "100"]

theorem longSheet_decided :
    let rows := storedFrom 1 previewIds 0
      (decideRows binary {} 1 .serial (guessMapping (longSheet.headD [])) longSheet.tail)
    (rows.any (fun row => row.rowNumber = 2 ∧ row.status = .valid) &&
      rows.any (fun row => row.rowNumber = 502 ∧ row.status = .error)) = true := by
  decide +kernel

/-- The phone is shown, and the problem at the end of its file is not. -/
theorem late_problem_hidden :
    ¬ ∀ (engine : Engine) (db : Db) (c : Config ImportDb Mark Refusal Unit),
      FittingRun (Importing engine) (fun _ _ => True) (.idle { db }) c →
        ∀ (ctx : Ctx) (id : Id) (view : ImportView),
          (get ctx id).run c.store = (c.store, .ok view) →
            ProblemsFirst view (rowsOf c.store id) := by
  intro claim
  obtain ⟨c, run, store⟩ := inTurn_run (Importing binary) { db := {} }
    [(preview binary clerk previewIds "phones.csv" longSheet none).void]
    (fun p member => by
      rw [List.mem_singleton] at member
      exact member ▸ .preview clerk previewIds "phones.csv" longSheet none)
  have injective : Function.Injective previewIds.row := fun m n same => Nat.add_left_cancel same
  have read : 2 ≤ longSheet.length ∧ missingRequirements (guessMapping (longSheet.headD [])) = [] ∧
      kindOf (guessMapping (longSheet.headD [])) = some .serial := by decide +kernel
  have recorded := preview_records previewIds injective binary {} clerk 20 rfl "phones.csv"
    longSheet .serial read.1 read.2.1 read.2.2
  rw [← Prog.ensures_void, Prog.Ensures] at recorded
  rw [runAll, List.foldl_cons, List.foldl_nil] at store
  change (_ ∧ _) at recorded
  rw [← store] at recorded
  obtain ⟨⟨batch, found⟩, rows⟩ := recorded
  have fitting := FittingRun.of_run run
  have tallied := run_tallied binary {} c fitting
  have first := claim binary {} c fitting clerk 900 _ (get_run clerk 20 900 _ batch rfl found)
  have own : batch.id = 900 := by
    obtain ⟨present, -⟩ := Option.filter_eq_some_iff.mp found
    exact Table.key_of_find? _ _ _ present
  have decided := longSheet_decided
  rw [Bool.and_eq_true, List.any_eq_true, List.any_eq_true] at decided
  obtain ⟨⟨good, goodIn, passes⟩, ⟨bad, badIn, fails⟩⟩ := decided
  rw [decide_eq_true_eq] at passes fails
  have goodRow : good ∈ rowsOf c.store 900 := rows ▸ goodIn
  have badRow : bad ∈ rowsOf c.store 900 := rows ▸ badIn
  have shown : rowView good ∈ viewRows c.store batch.id := by
    rw [own, rowView_shown tallied 900 good goodRow]
    omega
  have hidden := first.shown (rowView good) shown (by simp [rowView, passes.2]) bad badRow
    fails.2
  change rowView bad ∈ viewRows c.store batch.id at hidden
  rw [own, rowView_shown tallied 900 bad badRow] at hidden
  omega

end ErpBackend.Imports
