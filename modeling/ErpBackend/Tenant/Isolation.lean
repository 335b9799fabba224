import ErpBackend.Tenant.Client

/-!
# Companies apart

The extension puts the company into every filter and every inserted row. Beyond the filter
lie the rows of relations, of a cursor, of skipped duplicates and of foreign keys.
-/

namespace ErpBackend.Tenant

open Foundation

def mine (companyId : Buffer) (rows : List Row) : List Row :=
  rows.filter (fun row => companyOf row = some companyId)

def others (companyId : Buffer) (rows : List Row) : List Row :=
  rows.filter (fun row => companyOf row ≠ some companyId)

def Agree (companyId : Buffer) (db other : Database) : Prop :=
  ∀ model, mine companyId (db model) = mine companyId (other model)

theorem Agree.stored {companyId : Buffer} {db db' : Database} (agree : Agree companyId db db')
    {other : String} {row : Row}
    (stored : row ∈ db other) (own : companyOf row = some companyId) : row ∈ db' other := by
  have shared : row ∈ mine companyId (db other) :=
    List.mem_filter.mpr ⟨stored, decide_eq_true own⟩
  rw [agree other] at shared
  exact (List.mem_filter.mp shared).1

theorem Agree.symm {companyId : Buffer} {db db' : Database} (agree : Agree companyId db db') :
    Agree companyId db' db :=
  fun model => (agree model).symm

theorem filter_filterMap_keeps {α : Type} (p : α → Bool) (f : α → Option α) (rows : List α)
    (keeps : ∀ a ∈ rows, ∀ b, f a = some b → p b = p a) :
    (rows.filterMap f).filter p = (rows.filter p).filterMap f := by
  induction rows with
  | nil => rfl
  | cons a rest ih =>
      have later := ih (fun b member => keeps b (List.mem_cons_of_mem a member))
      rcases image : f a with _ | b
      · by_cases kept : p a = true
        · simp [image, kept, later]
        · simp [image, kept, later]
      · have same := keeps a List.mem_cons_self b image
        by_cases kept : p a = true
        · simp [image, kept, later, same]
        · simp [image, kept, later, same]

variable {Env : Type}

/-- From the rows that are reached, the operation goes on to rows of the company only. -/
structure Engine.Within (engine : Engine Env) (companyId : Buffer) (model operation : String)
    (args : Fields) (db : Database) : Prop where
  named : ∀ row ∈ db model, engine.named model operation args row = true →
    companyOf row = some companyId
  leads : ∀ other next row, engine.Reached model operation args db other row → ∀ row' ∈ db next,
    engine.leads model operation args (other, row) (next, row') = true →
      companyOf row' = some companyId

/-- The operation changes only rows of the company, and its answer and the rows of the company
after it are told by the rows of the company before it. -/
def Isolated (engine : Engine Env) (env : Env) (companyId : Buffer) (model operation : String)
    (args : Option Fields) (allowed : Database → Prop) : Prop :=
  ∀ db, allowed db → ∀ answer after,
    allOperations engine env (some companyId) model operation args db = .ok (answer, after) →
      (∀ other, others companyId (after other) = others companyId (db other)) ∧
      ∀ db', allowed db' → Agree companyId db db' → ∀ answer' after',
        allOperations engine env (some companyId) model operation args db' = .ok (answer', after') →
          answer' = answer ∧ Agree companyId after after'

variable (operation : String)

theorem where_scoped (offered : operation ∈ operations)
    (filters : operation ≠ "create" ∧ operation ≠ "createMany") (args : Fields)
    (companyId : Buffer) :
    (injectCompany operation args companyId).get "where" =
      withCompany (args.get "where") companyId := by
  unfold injectCompany
  rw [if_neg filters.1, if_neg filters.2]
  split
  · simp [Fields.get_set]
  · next other =>
    have listed : operation ∈ WHERE_OPERATIONS := by
      simp only [operations, List.mem_append, List.mem_cons, List.not_mem_nil, or_false] at offered
      simpa [filters.1, filters.2, other] using offered
    rw [if_pos listed, Fields.get_set, if_pos rfl]

theorem companyOf_set (fields : Fields) (companyId : Buffer) :
    companyOf (fields.set "companyId" (.bytes companyId)) = some companyId := by
  rw [companyOf, Fields.get_set, if_pos rfl]

theorem inserted_scoped (args : Fields) (companyId : Buffer) :
    inserted operation (injectCompany operation args companyId) =
      (inserted operation args).map (fun fields => fields.set "companyId" (.bytes companyId)) := by
  by_cases create : operation = "create"
  · simp [inserted, injectCompany, create, Fields.get_set, withCompany, spread]
  · by_cases createMany : operation = "createMany"
    · subst createMany
      simp only [inserted, injectCompany, create, if_false, if_true, Fields.get_set]
      cases args.get "data" <;> simp [withCompany, spread]
    · by_cases upsert : operation = "upsert"
      · simp [inserted, injectCompany, upsert, Fields.get_set, withCompany, spread]
      · simp [inserted, create, createMany, upsert]

theorem updated_scoped (args : Fields) (companyId : Buffer) :
    updated operation (injectCompany operation args companyId) = updated operation args := by
  by_cases update : operation = "update" ∨ operation = "updateMany"
  · rcases update with rfl | rfl
    · simp [updated, injectCompany, WHERE_OPERATIONS, Fields.get_set]
    · simp [updated, injectCompany, WHERE_OPERATIONS, Fields.get_set]
  · by_cases upsert : operation = "upsert"
    · simp [updated, injectCompany, upsert, Fields.get_set]
    · simp [updated, update, upsert]

theorem fields_set (fields : Fields) (name : String) (value : Value) :
    ∀ field ∈ fields.set name value, field = (name, value) ∨ field ∈ fields := by
  intro field member
  unfold Fields.set at member
  split at member
  · obtain ⟨before, stored, same⟩ := List.mem_map.mp member
    split at same
    · exact .inl same.symm
    · exact .inr (same ▸ stored)
  · simpa [or_comm] using member

theorem WritesColumns.scoped {relation : String → Bool} {operation : String} {args : Fields}
    (writes : WritesColumns relation operation args) (column : relation "companyId" = false)
    (companyId : Buffer) :
    WritesColumns relation operation (injectCompany operation args companyId) := by
  intro fields member field inside
  rw [inserted_scoped, updated_scoped, List.mem_append, List.mem_map] at member
  rcases member with ⟨given, first, rfl⟩ | kept
  · rcases fields_set _ _ _ field inside with rfl | before
    · exact column
    · exact writes given (List.mem_append_left _ first) field before
  · exact writes fields (List.mem_append_right _ kept) field inside

section Scoped

variable {engine : Engine Env} (documented : engine.Documented) {companyId : Buffer}
  {model operation : String} {args : Fields} (offered : operation ∈ operations)

include documented offered

theorem hit_mine {row : Row}
    (hit : engine.hit model operation (injectCompany operation args companyId) row = true) :
    companyOf row = some companyId := by
  obtain ⟨create, createMany, selected⟩ := of_decide_eq_true hit
  rw [where_scoped operation offered ⟨create, createMany⟩, withCompany, spread] at selected
  have own := List.all_eq_true.mp selected _ (Fields.mem_set _ _ _)
  have column : engine.columns model ("companyId", .bytes companyId) = true := by
    simp [Engine.columns, fieldNames, documented.column model]
  rw [column, Bool.not_true, Bool.false_or] at own
  exact documented.equality model companyId row own

theorem reached_mine {db : Database} {other : String} {row : Row}
    (within : engine.Within companyId model operation (injectCompany operation args companyId) db)
    (reached : engine.Reached model operation (injectCompany operation args companyId) db other
      row) : row ∈ db other ∧ companyOf row = some companyId := by
  induction reached with
  | hit stored hit => exact ⟨stored, hit_mine documented offered hit⟩
  | named stored named => exact ⟨stored, within.named _ stored named⟩
  | led before stored leads _ => exact ⟨stored, within.leads _ _ _ before _ stored leads⟩

theorem reached_agree {db db' : Database} (agree : Agree companyId db db') {other : String}
    {row : Row}
    (within : engine.Within companyId model operation (injectCompany operation args companyId) db)
    (reached : engine.Reached model operation (injectCompany operation args companyId) db other
      row) :
    engine.Reached model operation (injectCompany operation args companyId) db' other row := by
  induction reached with
  | hit stored hit => exact .hit (agree.stored stored (hit_mine documented offered hit)) hit
  | named stored named => exact .named (agree.stored stored (within.named _ stored named)) named
  | led before stored leads ih =>
      exact .led ih (agree.stored stored (within.leads _ _ _ before _ stored leads)) leads

open Classical in
theorem reached_eq {db db' : Database} (agree : Agree companyId db db')
    (within : engine.Within companyId model operation (injectCompany operation args companyId) db)
    (within' : engine.Within companyId model operation
      (injectCompany operation args companyId) db') :
    engine.reached model operation (injectCompany operation args companyId) db =
      engine.reached model operation (injectCompany operation args companyId) db' := by
  funext other
  have own : ∀ {db : Database},
      engine.Within companyId model operation (injectCompany operation args companyId) db →
        engine.reached model operation (injectCompany operation args companyId) db other =
          (mine companyId (db other)).filter (fun row => engine.Reached model operation
            (injectCompany operation args companyId) db other row) := by
    intro db within
    rw [Engine.reached, mine, List.filter_filter]
    apply List.filter_congr
    intro row stored
    by_cases reached : engine.Reached model operation (injectCompany operation args companyId) db
      other row
    · simp [reached, (reached_mine documented offered within reached).2]
    · simp [reached]
  rw [own within, own within', agree other]
  apply List.filter_congr
  intro row _
  exact decide_eq_decide.mpr ⟨reached_agree documented offered agree within,
    reached_agree documented offered agree.symm within'⟩

end Scoped

section Outcomes

variable {engine : Engine Env} {model operation : String} {args : Fields} {db : Database}
  {outcome : Outcome} (explains : engine.Explains model operation args db outcome)
  (keeps : KeepsCompany operation args) {companyId : Buffer}
  (carried : ∀ data ∈ inserted operation args, companyOf data = some companyId)

include explains keeps carried

theorem mine_apply (other : String) :
    mine companyId (outcome.apply model db other) =
      (mine companyId (db other)).filterMap (outcome.become other) ++
        if other = model then outcome.added else [] := by
  rw [Outcome.apply, mine, List.filter_append]
  congr 1
  · apply filter_filterMap_keeps
    intro row stored row' image
    rw [explains.company keeps other row stored row' image]
  · split
    · apply List.filter_eq_self.mpr
      intro row member
      obtain ⟨data, given, same⟩ := explains.added row member
      exact decide_eq_true (same.trans (carried data given))
    · rfl

theorem others_apply
    (own : ∀ other row, engine.Reached model operation args db other row →
      companyOf row = some companyId) (other : String) :
    others companyId (outcome.apply model db other) = others companyId (db other) := by
  have none_added : (if other = model then outcome.added else []).filter
      (fun row => companyOf row ≠ some companyId) = [] := by
    apply List.filter_eq_nil_iff.mpr
    intro row member
    split at member
    · obtain ⟨data, given, same⟩ := explains.added row member
      simp [same.trans (carried data given)]
    · cases member
  rw [Outcome.apply, others, List.filter_append, none_added, List.append_nil,
    filter_filterMap_keeps]
  · -- A row of another company was not reached.
    have untouched : ∀ row ∈ (db other).filter (fun row => companyOf row ≠ some companyId),
        outcome.become other row = some row := by
      intro row member
      obtain ⟨stored, foreign⟩ := List.mem_filter.mp member
      exact explains.untouched other row stored (fun reached =>
        of_decide_eq_true foreign (own other row reached))
    rw [List.filterMap_congr untouched, List.filterMap_some]
    rfl
  · intro row stored row' image
    rw [explains.company keeps other row stored row' image]

end Outcomes

/-- Whatever the operation and its arguments, as long as it goes on from the rows it reaches to no
foreign row, a company neither sees nor changes the rows of another. -/
theorem operations_isolated (engine : Engine Env) (documented : engine.Documented) (env : Env)
    (companyId : Buffer) (model operation : String) (tenant : model ∉ GLOBAL_MODELS)
    (args : Option Fields) (writes : WritesColumns (engine.relation model) operation (args.getD []))
    (keeps : KeepsCompany operation (args.getD [])) :
    Isolated engine env companyId model operation args
      (engine.Within companyId model operation
        (injectCompany operation (args.getD []) companyId)) := by
  intro db within answer after done
  have ran : ∀ db answer after,
      allOperations engine env (some companyId) model operation args db = .ok (answer, after) →
        engine.query env model operation (injectCompany operation (args.getD []) companyId) db =
          .ok (answer, after) := by
    intro db answer after done
    unfold allOperations scopeTenantArgs at done
    rw [if_neg tenant] at done
    exact done
  have offered := documented.offered _ _ _ _ _ _ _ (ran _ _ _ done)
  have column := documented.column model
  obtain ⟨told, tells⟩ := documented.explained env model operation _
    (writes.scoped column companyId)
  have kept : KeepsCompany operation (injectCompany operation (args.getD []) companyId) := by
    rw [KeepsCompany, updated_scoped]
    exact keeps
  have carried : ∀ data ∈ inserted operation (injectCompany operation (args.getD []) companyId),
      companyOf data = some companyId := by
    intro data member
    rw [inserted_scoped] at member
    obtain ⟨given, -, rfl⟩ := List.mem_map.mp member
    exact companyOf_set given companyId
  obtain ⟨explains, rfl, rfl⟩ := tells _ _ _ (ran _ _ _ done)
  refine ⟨others_apply explains kept carried
    (fun _ _ reached => (reached_mine documented offered within reached).2), ?_⟩
  intro db' within' agree answer' after' done'
  obtain ⟨explains', rfl, rfl⟩ := tells _ _ _ (ran _ _ _ done')
  have same := reached_eq documented offered agree within within'
  refine ⟨by rw [same], fun other => ?_⟩
  rw [mine_apply explains kept carried, mine_apply explains' kept carried, agree other, same]

def store (n : UInt8) : Buffer := List.replicate 16 n

/-- A counterparty of store 1, and its connection, which is of two stores. -/
def connected (status : String) : Database := fun model =>
  if model = "Counterparty" then
    [[("companyId", .bytes (store 1)), ("connectionId", .bytes (store 7))]]
  else if model = "StoreConnection" then
    [[("id", .bytes (store 7)), ("status", .text status)]]
  else []

/-- The store's own entry in the log, after one of store 2 or alone. -/
def logged (foreign : Bool) : Database := fun model =>
  if model = "AuditLog" then
    (if foreign then [[("id", .number 5), ("companyId", .bytes (store 2))]] else []) ++
      [[("id", .number 6), ("companyId", .bytes (store 1))]]
  else []

def queued (foreign : Bool) : Database := fun model =>
  if model = "RecognitionOutbox" then
    if foreign then [[("id", .bytes (store 8)), ("companyId", .bytes (store 2))]] else []
  else []

def permitted : Database := fun model =>
  if model = "Role" then [[("id", .bytes (store 3)), ("companyId", .bytes (store 1))]]
  else if model = "RolePermission" then
    [[("roleId", .bytes (store 3)), ("companyId", .bytes (store 2))]]
  else []

structure Ask where
  model : String
  operation : String
  args : Fields

def Ask.Admitted (ask : Ask) : Prop :=
  ask.model ∉ GLOBAL_MODELS ∧
    WritesColumns (client.relation ask.model) ask.operation ask.args ∧
      ∀ fields ∈ inserted ask.operation ask.args ++ updated ask.operation ask.args,
        ∀ field ∈ fields, field.1 ≠ "companyId"

def including : Ask :=
  ⟨"Counterparty", "findMany", [("include", .object [("connection", .bool true)])]⟩

def filtering : Ask :=
  ⟨"Counterparty", "findMany",
    [("where", .object [("connection", .object [("status", .text "active")])])]⟩

def paging : Ask := ⟨"AuditLog", "findMany", [("cursor", .object [("id", .number 5)])]⟩

def skipping : Ask :=
  ⟨"RecognitionOutbox", "createMany",
    [("data", .list [.object [("id", .bytes (store 8))]]), ("skipDuplicates", .bool true)]⟩

def cascading : Ask := ⟨"Role", "deleteMany", []⟩

/-- What each leads to beyond the filter: a relation it includes or filters by, the row of its
cursor, the duplicate it skips, the rows a foreign key takes along. -/
def beyond : List Ask := [including, filtering, paging, skipping, cascading]

theorem connected_agree (left right : String) :
    Agree (store 1) (connected left) (connected right) := by
  intro model
  unfold connected
  split
  · rfl
  · split
    · rfl
    · rfl

theorem logged_agree : Agree (store 1) (logged true) (logged false) := by
  intro model
  unfold logged
  split
  · rfl
  · rfl

theorem queued_agree : Agree (store 1) (queued true) (queued false) := by
  intro model
  unfold queued
  split
  · rfl
  · rfl

/-- A company does tell these apart, or changes a row of another. -/
def Ask.Leaks (ask : Ask) : Prop :=
  ask.Admitted ∧
    ¬Isolated client () (store 1) ask.model ask.operation (some ask.args) (fun _ => True)

theorem including_leaks : including.Leaks := by
  refine ⟨by unfold Ask.Admitted WritesColumns; decide, fun isolated => ?_⟩
  have told := ((isolated (connected "active") trivial
    (.list [.object [("companyId", .bytes (store 1)), ("connectionId", .bytes (store 7)),
      ("connection", .object [("id", .bytes (store 7)), ("status", .text "active")])]]) _ rfl).2
    (connected "blocked") trivial (connected_agree _ _)
    (.list [.object [("companyId", .bytes (store 1)), ("connectionId", .bytes (store 7)),
      ("connection", .object [("id", .bytes (store 7)), ("status", .text "blocked")])]]) _ rfl).1
  simp at told

theorem filtering_leaks : filtering.Leaks := by
  refine ⟨by unfold Ask.Admitted WritesColumns; decide, fun isolated => ?_⟩
  have told := ((isolated (connected "active") trivial
    (.list [.object [("companyId", .bytes (store 1)), ("connectionId", .bytes (store 7))]]) _ rfl).2
    (connected "blocked") trivial (connected_agree _ _) (.list []) _ rfl).1
  simp at told

theorem paging_leaks : paging.Leaks := by
  refine ⟨by unfold Ask.Admitted WritesColumns; decide, fun isolated => ?_⟩
  have told := ((isolated (logged true) trivial
    (.list [.object [("id", .number 6), ("companyId", .bytes (store 1))]]) _ rfl).2
    (logged false) trivial logged_agree (.list []) _ rfl).1
  simp at told

theorem skipping_leaks : skipping.Leaks := by
  refine ⟨by unfold Ask.Admitted WritesColumns; decide, fun isolated => ?_⟩
  have told := ((isolated (queued true) trivial (.object [("count", .number 0)]) _ rfl).2
    (queued false) trivial queued_agree (.object [("count", .number 1)]) _ rfl).1
  simp at told

theorem cascading_leaks : cascading.Leaks := by
  refine ⟨by unfold Ask.Admitted WritesColumns; decide, fun isolated => ?_⟩
  have kept := (isolated permitted trivial _ _ rfl).1 "RolePermission"
  exact absurd (congrArg List.length kept) (by decide)

/-- Of a documented client. -/
theorem leaks_beyond_the_filter : client.Documented ∧ ∀ ask ∈ beyond, ask.Leaks := by
  refine ⟨client_documented, ?_⟩
  simp only [beyond, List.forall_mem_cons]
  exact ⟨including_leaks, filtering_leaks, paging_leaks, skipping_leaks, cascading_leaks,
    fun _ member => by cases member⟩

/-- Lines of two stores and their sales; store 1 has a connection that is of two stores. -/
def twoStores : Database := fun model =>
  if model = "SaleItem" then
    [[("id", .bytes (store 4)), ("companyId", .bytes (store 1)), ("saleId", .bytes (store 5))],
      [("id", .bytes (store 4)), ("companyId", .bytes (store 2)), ("saleId", .bytes (store 6))]]
  else if model = "Sale" then
    [[("id", .bytes (store 5)), ("companyId", .bytes (store 1)), ("branchId", .bytes (store 9))],
      [("id", .bytes (store 6)), ("companyId", .bytes (store 2)), ("branchId", .bytes (store 9))]]
  else connected "active" model

def lineOf (companyId : Buffer) : Fields :=
  [("where", .object [("id", .bytes (store 4)),
      ("sale", .object [("branchId", .bytes (store 9))]), ("companyId", .bytes companyId)]),
    ("include", .object [("sale", .bool true)])]

theorem lineOf_leads (companyId : Buffer) (left right : String × Row)
    (leads : clientLeads "SaleItem" "findMany" (lineOf companyId) left right = true) :
    left.1 = "SaleItem" ∧ right.1 = "Sale" ∧
      same (left.2.get "saleId") (right.2.get "id") = true := by
  have asked : included (lineOf companyId) ++
      fieldNames (spread (Fields.get (lineOf companyId) "where")) =
        ["sale", "id", "sale", "companyId"] := rfl
  unfold clientLeads at leads
  rw [asked] at leads
  simpa [target] using leads

theorem twoStores_within :
    client.Within (store 1) "SaleItem" "findMany" (lineOf (store 1)) twoStores := by
  refine ⟨fun row _ named => (by cases named), ?_⟩
  intro other next row reached row' stored leads
  obtain ⟨here, sale, linked⟩ := lineOf_leads (store 1) (other, row) (next, row') leads
  dsimp only at here sale linked
  subst sale
  have sales := stored
  simp only [twoStores, String.reduceEq, if_false, if_true, List.mem_cons, List.not_mem_nil,
    or_false] at sales
  cases reached with
  | hit kept hit =>
      simp only [twoStores, if_true, List.mem_cons, List.not_mem_nil, or_false] at kept
      rcases kept with rfl | rfl
      · rcases sales with rfl | rfl
        · rfl
        · exact absurd linked (by decide)
      · exact absurd hit (by decide)
  | named _ named => cases named
  | led _ _ onward =>
      obtain ⟨-, elsewhere, -⟩ := lineOf_leads (store 1) _ _ onward
      exact absurd (here.symm.trans elsewhere) (by decide)

/-- A filter that names another store is asked of the store all the same, and what it asks of a
relation leads to the store's own sale. -/
theorem operations_isolated_lines :
    Isolated client () (store 1) "SaleItem" "findMany" (some (lineOf (store 2)))
        (client.Within (store 1) "SaleItem" "findMany" (lineOf (store 1))) ∧
      client.Within (store 1) "SaleItem" "findMany" (lineOf (store 1)) twoStores ∧
      ∃ line, allOperations client () (some (store 1)) "SaleItem" "findMany"
        (some (lineOf (store 2))) twoStores = .ok (.list [line], twoStores) := by
  refine ⟨operations_isolated client client_documented () (store 1) "SaleItem" "findMany"
    (by decide) (some (lineOf (store 2))) ?_ ?_, twoStores_within, _, rfl⟩
  · unfold WritesColumns
    decide
  · unfold KeepsCompany
    decide

end ErpBackend.Tenant
