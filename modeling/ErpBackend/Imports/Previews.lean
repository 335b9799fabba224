import ErpBackend.Imports.Effects

/-!
# What a preview stores

The rows of a sheet are stored with what was decided about each, under the batch of the preview.
-/

namespace ErpBackend.Imports

open Foundation Inventory

def storedFrom (companyId : Id) (ids : PreviewIds) : Nat → List Decided → List ImportRow
  | _, [] => []
  | index, decided :: rest =>
      importRow companyId ids.batch (ids.row index) decided ::
        storedFrom companyId ids (index + 1) rest

theorem insertRows_ok (companyId : Id) (ids : PreviewIds) (index : Nat) (decided : List Decided)
    (store store' : ImportDb) (done : insertRows companyId ids index decided store = .ok store') :
    store'.db = store.db ∧ store'.importBatches = store.importBatches ∧
      store'.importRows.rows = store.importRows.rows ++ storedFrom companyId ids index decided := by
  induction decided generalizing index store with
  | nil =>
      cases done
      exact ⟨rfl, rfl, by simp [storedFrom]⟩
  | cons first rest ih =>
      unfold insertRows at done
      split at done
      · cases done
      · next importRows inserted =>
        obtain ⟨db, importBatches, rows⟩ := ih _ _ done
        refine ⟨db, importBatches, ?_⟩
        rw [rows, (Table.insert?_some _ _ _ inserted).1]
        simp [storedFrom]

theorem storedFrom_batch (companyId : Id) (ids : PreviewIds) (index : Nat)
    (decided : List Decided) :
    ∀ row ∈ storedFrom companyId ids index decided, row.batchId = ids.batch := by
  induction decided generalizing index with
  | nil =>
      intro row member
      cases member
  | cons first rest ih =>
      intro row member
      rcases List.mem_cons.mp member with rfl | later
      · rfl
      · exact ih _ row later

theorem insertBatch_ok (batch : ImportBatch) (store store' : ImportDb)
    (done : insertBatch batch store = .ok store') :
    store'.importBatches.find? batch.id = some batch ∧ store'.db = store.db ∧
      store'.importRows = store.importRows := by
  unfold insertBatch at done
  split at done
  · cases done
  · split at done
    · cases done
    · next importBatches inserted =>
      cases done
      refine ⟨?_, rfl, rfl⟩
      dsimp only
      rw [Table.find?_insert _ _ _ inserted, if_pos rfl]

theorem get_ensures (ctx : Ctx) (id : Id) (store : ImportDb)
    (post : ImportDb → Except Refusal ImportView → Prop)
    (answered : ∀ batch, store.importBatches.find? id = some batch →
      post store (.ok (viewOf store batch)))
    (refused : ∀ refusal, post store (.error refusal)) : Prog.Ensures (get ctx id) post store := by
  unfold get
  rw [Prog.ensures_expect]
  refine ⟨fun branchId _ => ?_, fun _ => refused _⟩
  rw [Prog.ensures_read]
  unfold findBatch
  rcases found : store.importBatches.find? id with _ | batch
  · exact refused _
  · rw [Option.filter_some]
    split
    · exact answered batch found
    · exact refused _

def binary : Engine := ⟨id, .oldest⟩

def clerk : Ctx where
  companyId := 1
  branchId := some 20
  userId := some 7
  now := 0

def previewIds : PreviewIds := ⟨900, fun n => 1000 + n⟩

def commitIds : CommitIds := ⟨fun n => 2000 + n, fun n => 3000 + n⟩

def newShop : ImportDb where
  db := {}

end ErpBackend.Imports
