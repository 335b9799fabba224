import ErpBackend.Foundation.Program
import ErpBackend.Tenant.Extension

/-!
# The client below the extension

What is documented of an operation: which rows it reads, that it changes no others, and that
its outcome is told by them. A small client of three operations behaves so.
-/

namespace ErpBackend.Tenant

open Foundation

def companyOf (row : Row) : Option Buffer :=
  match row.get "companyId" with
  | .bytes companyId => some companyId
  | _ => none

mutual

/-- The fields a filter, an order or a selection names, through `AND`, `OR` and `NOT`. -/
def Value.names : Value → List String
  | .list values => valuesNames values
  | .object fields => fieldNames fields
  | _ => []

def valuesNames : List Value → List String
  | [] => []
  | value :: rest => value.names ++ valuesNames rest

def fieldNames : Fields → List String
  | [] => []
  | (name, value) :: rest =>
      (if name ∈ ["AND", "OR", "NOT"] then value.names else [name]) ++ fieldNames rest

end

def inserted (operation : String) (args : Fields) : List Fields :=
  if operation = "create" then [spread (args.get "data")]
  else if operation = "createMany" then
    match args.get "data" with
    | .list rows => rows.map spread
    | data => [spread data]
  else if operation = "upsert" then [spread (args.get "create")]
  else []

/-- The columns an operation is given to change. -/
def updated (operation : String) (args : Fields) : List Fields :=
  if operation = "update" ∨ operation = "updateMany" then [spread (args.get "data")]
  else if operation = "upsert" then [spread (args.get "update")]
  else []

def WritesColumns (relation : String → Bool) (operation : String) (args : Fields) : Prop :=
  ∀ fields ∈ inserted operation args ++ updated operation args, ∀ field ∈ fields,
    relation field.1 = false

def KeepsCompany (operation : String) (args : Fields) : Prop :=
  ∀ fields ∈ updated operation args, ∀ field ∈ fields, field.1 ≠ "companyId"

/-- The operations of a model that the client has for MySQL. -/
def operations : List String := WHERE_OPERATIONS ++ ["create", "createMany", "upsert"]

variable {Env : Type}

/-- The field of a `where` asks for columns, not for relations. -/
def Engine.columns (engine : Engine Env) (model : String) (field : String × Value) : Bool :=
  (fieldNames [field]).all (fun name => !engine.relation model name)

/-- The fields of a `where` are combined by conjunction, so only what its columns select is looked
at; an insert has none. -/
def Engine.hit (engine : Engine Env) (model operation : String) (args : Fields)
    (row : Row) : Bool :=
  operation ≠ "create" ∧ operation ≠ "createMany" ∧
    (spread (args.get "where")).all (fun field =>
      !engine.columns model field || engine.selects model field row)

/-- The rows an operation reads: those it hits, those it names, and those they lead to. -/
inductive Engine.Reached (engine : Engine Env) (model operation : String) (args : Fields)
    (db : Database) : String → Row → Prop
  | hit {row : Row} (stored : row ∈ db model) (hit : engine.hit model operation args row = true) :
      engine.Reached model operation args db model row
  | named {row : Row} (stored : row ∈ db model)
      (named : engine.named model operation args row = true) :
      engine.Reached model operation args db model row
  | led {other next : String} {row row' : Row}
      (reached : engine.Reached model operation args db other row) (stored : row' ∈ db next)
      (leads : engine.leads model operation args (other, row) (next, row') = true) :
      engine.Reached model operation args db next row'

open Classical in
noncomputable def Engine.reached (engine : Engine Env) (model operation : String) (args : Fields)
    (db : Database) (other : String) : List Row :=
  (db other).filter (fun row => engine.Reached model operation args db other row)

open Classical in
theorem Engine.mem_reached (engine : Engine Env) (model operation : String) (args : Fields)
    (db : Database) (other : String) (row : Row) :
    row ∈ engine.reached model operation args db other ↔
      row ∈ db other ∧ engine.Reached model operation args db other row := by
  simp [Engine.reached]

structure Outcome where
  answer : Value
  /-- `none` is deleted. -/
  become : String → Row → Option Row
  added : List Row

def Outcome.apply (outcome : Outcome) (model : String) (db : Database) : Database :=
  fun other => (db other).filterMap (outcome.become other) ++
    if other = model then outcome.added else []

/-- Only rows that were read change, and inserted rows are the ones that were given. -/
structure Engine.Explains (engine : Engine Env) (model operation : String) (args : Fields)
    (db : Database) (outcome : Outcome) : Prop where
  untouched : ∀ other, ∀ row ∈ db other, ¬engine.Reached model operation args db other row →
    outcome.become other row = some row
  company : KeepsCompany operation args → ∀ other, ∀ row ∈ db other, ∀ row',
    outcome.become other row = some row' → companyOf row' = companyOf row
  added : ∀ row ∈ outcome.added, ∃ data ∈ inserted operation args, companyOf row = companyOf data

structure Engine.Documented (engine : Engine Env) : Prop where
  /-- A filter by company selects rows of the company. -/
  equality : ∀ model companyId row,
    engine.selects model ("companyId", .bytes companyId) row = true → companyOf row = some companyId
  /-- The company is a column. -/
  column : ∀ model, engine.relation model "companyId" = false
  offered : ∀ env model operation args db answer after,
    engine.query env model operation args db = .ok (answer, after) → operation ∈ operations
  /-- What was read tells the outcome. -/
  explained : ∀ env model operation args, WritesColumns (engine.relation model) operation args →
    ∃ told : (String → List Row) → Outcome, ∀ db answer after,
      engine.query env model operation args db = .ok (answer, after) →
        let outcome := told (engine.reached model operation args db)
        engine.Explains model operation args db outcome ∧ answer = outcome.answer ∧
          after = outcome.apply model db

/-- Equality of column values. -/
def same : Value → Value → Bool
  | .null, .null => true
  | .bool a, .bool b => a = b
  | .number a, .number b => a = b
  | .text a, .text b => a = b
  | .bytes a, .bytes b => a = b
  | _, _ => false

def selects (field : String × Value) (row : Row) : Bool := same (row.get field.1) field.2

/-- The column that links a relation, and the model it leads to. -/
def target (model name : String) : Option (String × String) :=
  if model = "Counterparty" ∧ name = "connection" then some ("connectionId", "StoreConnection")
  else if model = "SaleItem" ∧ name = "sale" then some ("saleId", "Sale")
  else none

def relation (model name : String) : Bool := (target model name).isSome

def related (db : Database) (model name : String) (row : Row) : Option Row :=
  (target model name).bind (fun link =>
    (db link.2).find? (fun found => same (row.get link.1) (found.get "id")))

def selectsIn (db : Database) (model : String) (field : String × Value) (row : Row) : Bool :=
  if relation model field.1 then
    (related db model field.1 row).any (fun found =>
      (spread field.2).all (fun inner => selects inner found))
  else selects field row

def picks (db : Database) (model : String) (args : Fields) (row : Row) : Bool :=
  (spread (args.get "where")).all (fun field => selectsIn db model field row)

def present : Value → Bool
  | .undefined => false
  | _ => true

/-- The `id` a cursor gives. -/
def cursorId (args : Fields) : Value := Fields.get (spread (args.get "cursor")) "id"

def skips (args : Fields) : Bool := same (args.get "skipDuplicates") (.bool true)

def notBefore : Value → Row → Bool
  | .number id, row => match row.get "id" with
    | .number own => id ≤ own
    | _ => false
  | _, _ => false

def page (args : Fields) (named hits : List Row) : List Row :=
  if present (args.get "cursor") then
    if named.isEmpty then [] else hits.filter (notBefore (cursorId args))
  else hits

def clientNamed (operation : String) (args : Fields) (row : Row) : Bool :=
  if operation = "findMany" then present (args.get "cursor") && same (row.get "id") (cursorId args)
  else operation = "createMany" && skips args &&
    (inserted operation args).any (fun data => same (row.get "id") (data.get "id"))

/-- The relations of an `include`. -/
def included (args : Fields) : List String := (spread (args.get "include")).map Prod.fst

def shown (args : Fields) (db : Database) (model : String) (row : Row) : Value :=
  .object (row ++ (included args).map (fun name =>
    (name, ((related db model name row).map .object).getD .null)))

def listing (model : String) (args : Fields) (db : Database) : Value :=
  .list ((page args ((db model).filter (clientNamed "findMany" args))
    ((db model).filter (picks db model args))).map (shown args db model))

def counted (rows : List Row) : Value := .object [("count", .number rows.length)]

def clashes (rows : List Row) (data : Fields) : Bool :=
  rows.any (fun row => same (row.get "id") (data.get "id"))

def permits (role : Row) (row : Row) : Bool := same (row.get "roleId") (role.get "id")

/-- By a relation that is included or asked for, or from a role to its permissions. -/
def clientLeads (model operation : String) (args : Fields) (left right : String × Row) : Bool :=
  left.1 = model && (included args ++ fieldNames (spread (args.get "where"))).any (fun name =>
      (target model name).any (fun link =>
        right.1 = link.2 && same (left.2.get link.1) (right.2.get "id"))) ||
    operation = "deleteMany" && left.1 = "Role" && right.1 = "RolePermission" &&
      permits left.2 right.2

def findMany (model : String) (args : Fields) (db : Database) : Except Refusal (Value × Database) :=
  if (included args).any (fun name => !relation model name) then
    .error (.internal "Unknown field for include statement")
  else .ok (listing model args db, db)

def createMany (model : String) (args : Fields) (db : Database) :
    Except Refusal (Value × Database) :=
  let rows := inserted "createMany" args
  let fresh := rows.filter (fun data => !clashes (db model) data)
  if skips args = false ∧ fresh.length < rows.length then .error (.unique "PRIMARY")
  else .ok (counted fresh, fun other => if other = model then db other ++ fresh else db other)

def deleteMany (model : String) (args : Fields) (db : Database) :
    Except Refusal (Value × Database) :=
  let hits := (db model).filter (picks db model args)
  .ok (counted hits, fun other => (db other).filter (fun row =>
    !(other = model && picks db model args row) &&
      !(model = "Role" && other = "RolePermission" && hits.any (fun role => permits role row))))

def client : Engine Unit where
  query _ model operation args db :=
    if operation = "findMany" then findMany model args db
    else if operation = "createMany" then createMany model args db
    else if operation = "deleteMany" then deleteMany model args db
    else .error (.internal "Unknown operation")
  selects _ := selects
  relation := relation
  named _ := clientNamed
  leads := clientLeads

theorem same_bytes (value : Value) (bytes : Buffer) (equal : same value (.bytes bytes) = true) :
    value = .bytes bytes := by
  cases value with
  | bytes own =>
      have matched : own = bytes := of_decide_eq_true equal
      rw [matched]
  | _ => cases equal

section Reached

variable {Env : Type} (engine : Engine Env) (model operation : String) (args : Fields)
    (db : Database)

theorem Engine.filter_reached (other : String) (q : Row → Bool)
    (covered : ∀ row ∈ db other, q row = true → engine.Reached model operation args db other row) :
    (engine.reached model operation args db other).filter q = (db other).filter q := by
  classical
  rw [Engine.reached, List.filter_filter]
  apply List.filter_congr
  intro row stored
  by_cases picked : q row = true
  · simp [picked, covered row stored picked]
  · simp [picked]

theorem Engine.find?_reached (other : String) (q : Row → Bool)
    (covered : ∀ row ∈ db other, q row = true → engine.Reached model operation args db other row) :
    (engine.reached model operation args db other).find? q = (db other).find? q := by
  rw [← List.head?_filter, ← List.head?_filter,
    engine.filter_reached model operation args db other q
    covered]

end Reached

theorem page_mem (args : Fields) (named hits : List Row) (row : Row)
    (member : row ∈ page args named hits) : row ∈ hits := by
  unfold page at member
  split at member
  · split at member
    · cases member
    · exact List.mem_of_mem_filter member
  · exact member

variable (model : String)

theorem relation_asked (fields : Fields) (field : String × Value) (member : field ∈ fields)
    (leads : relation model field.1 = true) : field.1 ∈ fieldNames fields := by
  have plain : field.1 ∉ ["AND", "OR", "NOT"] := by
    intro combines
    simp only [List.mem_cons, List.not_mem_nil, or_false] at combines
    rcases combines with same | same | same
    · simp [relation, target, same] at leads
    · simp [relation, target, same] at leads
    · simp [relation, target, same] at leads
  induction fields with
  | nil => cases member
  | cons first rest ih =>
      obtain ⟨own, value⟩ := first
      rw [fieldNames, List.mem_append]
      rcases List.mem_cons.mp member with rfl | later
      · exact .inl (by rw [if_neg plain]; exact List.mem_singleton.mpr rfl)
      · exact .inr (ih later)

theorem picks_hit (db : Database) (operation : String) (args : Fields)
    (filters : operation ≠ "create" ∧ operation ≠ "createMany") (row : Row)
    (picked : picks db model args row = true) : client.hit model operation args row = true := by
  refine decide_eq_true ⟨filters.1, filters.2, List.all_eq_true.mpr (fun field member => ?_)⟩
  rw [Bool.or_eq_true, Bool.not_eq_true']
  have selected := List.all_eq_true.mp picked field member
  by_cases leads : relation model field.1 = true
  · -- a relation is not among the columns
    left
    have named := relation_asked model [field] field (List.mem_singleton.mpr rfl) leads
    rw [Engine.columns, List.all_eq_false]
    exact ⟨field.1, named, by rw [show client.relation model field.1 = true from leads]; decide⟩
  · right
    rw [selectsIn, if_neg leads] at selected
    exact selected

theorem related_reached (operation : String) (args : Fields) (db : Database) (row : Row)
    (stored : row ∈ db model) (hit : client.hit model operation args row = true) (name : String)
    (asked : name ∈ included args ++ fieldNames (spread (args.get "where"))) :
    related (client.reached model operation args db) model name row =
      related db model name row := by
  unfold related
  rcases relates : target model name with _ | link
  · rfl
  · rw [Option.bind_some, Option.bind_some]
    apply client.find?_reached
    intro found there linked
    refine .led (.hit stored hit) there ?_
    have onward : (included args ++ fieldNames (spread (args.get "where"))).any (fun name =>
        (target model name).any (fun next =>
          link.2 = next.2 && same (row.get next.1) (found.get "id"))) = true :=
      List.any_eq_true.mpr ⟨name, asked, by simp [*]⟩
    simp only [client, clientLeads, decide_true, Bool.true_and, onward, Bool.true_or]

theorem picks_reached (operation : String) (args : Fields)
    (filters : operation ≠ "create" ∧ operation ≠ "createMany") (db : Database) (row : Row)
    (stored : row ∈ db model) :
    picks (client.reached model operation args db) model args row = picks db model args row := by
  have told : client.hit model operation args row = true →
      picks (client.reached model operation args db) model args row = picks db model args row := by
    intro hit
    unfold picks
    rw [Bool.eq_iff_iff, List.all_eq_true, List.all_eq_true]
    refine forall₂_congr (fun field member => ?_)
    unfold selectsIn
    split
    · next leads =>
      rw [related_reached model operation args db row stored hit field.1
        (List.mem_append_right _ (relation_asked model _ field member leads))]
    · rfl
  by_cases hit : client.hit model operation args row = true
  · exact told hit
  · have unpicked : ∀ other : Database, picks other model args row = false := by
      intro other
      rw [Bool.eq_false_iff]
      exact fun picked => hit (picks_hit model other operation args filters row picked)
    rw [unpicked, unpicked]

theorem filter_picks (operation : String) (args : Fields)
    (filters : operation ≠ "create" ∧ operation ≠ "createMany") (db : Database) :
    (client.reached model operation args db model).filter
        (picks (client.reached model operation args db) model args) =
      (db model).filter (picks db model args) := by
  rw [List.filter_congr (fun row member => picks_reached model operation args filters db row
    ((client.mem_reached _ _ _ _ _ _).mp member).1)]
  apply client.filter_reached
  exact fun row stored picked =>
    .hit stored (picks_hit model db operation args filters row picked)

theorem findMany_explained (args : Fields) :
    ∃ told : (String → List Row) → Outcome, ∀ db answer after,
      findMany model args db = .ok (answer, after) →
        let outcome := told (client.reached model "findMany" args db)
        client.Explains model "findMany" args db outcome ∧ answer = outcome.answer ∧
          after = outcome.apply model db := by
  have filters : "findMany" ≠ "create" ∧ "findMany" ≠ "createMany" := by decide
  refine ⟨fun reached =>
    { answer := listing model args reached
      become := fun _ => some
      added := [] }, ?_⟩
  intro db answer after done
  unfold findMany at done
  split at done
  · cases done
  · cases done
    refine ⟨⟨fun _ _ _ _ => rfl, ?_, ?_⟩, ?_, ?_⟩
    · intro _ other row _ row' image
      cases image
      rfl
    · intro row member
      cases member
    · simp only [listing]
      rw [filter_picks model "findMany" args filters db,
        client.filter_reached _ _ _ _ _ (clientNamed "findMany" args)
          (fun row stored (named : client.named model "findMany" args row = true) =>
            .named stored named)]
      refine congrArg Value.list (List.map_congr_left (fun row member => ?_))
      obtain ⟨stored, picked⟩ := List.mem_filter.mp (page_mem _ _ _ row member)
      have hit := picks_hit model db "findMany" args filters row picked
      unfold shown
      refine congrArg (fun more => Value.object (row ++ more)) (List.map_congr_left ?_)
      intro name asked
      rw [related_reached model "findMany" args db row stored hit name
        (List.mem_append_left _ asked)]
    · funext other
      simp [Outcome.apply]

theorem clashes_reached (args : Fields) (db : Database)
    (skipped : skips args = true) (data : Fields) (member : data ∈ inserted "createMany" args) :
    clashes (db model) data = clashes (client.reached model "createMany" args db model) data := by
  rw [clashes, clashes, Bool.eq_iff_iff, List.any_eq_true, List.any_eq_true]
  constructor
  · rintro ⟨row, stored, equal⟩
    have named : client.named model "createMany" args row = true := by
      have given : (inserted "createMany" args).any (fun data =>
          same (row.get "id") (data.get "id")) = true := List.any_eq_true.mpr ⟨data, member, equal⟩
      simp [client, clientNamed, skipped, given]
    exact ⟨row, (client.mem_reached _ _ _ _ _ _).mpr ⟨stored, .named stored named⟩, equal⟩
  · rintro ⟨row, reached, equal⟩
    exact ⟨row, ((client.mem_reached _ _ _ _ _ _).mp reached).1, equal⟩

theorem createMany_explained (args : Fields) :
    ∃ told : (String → List Row) → Outcome, ∀ db answer after,
      createMany model args db = .ok (answer, after) →
        let outcome := told (client.reached model "createMany" args db)
        client.Explains model "createMany" args db outcome ∧ answer = outcome.answer ∧
          after = outcome.apply model db := by
  refine ⟨fun reached =>
    let fresh := if skips args = true then
        (inserted "createMany" args).filter (fun data => !clashes (reached model) data)
      else inserted "createMany" args
    { answer := counted fresh
      become := fun _ => some
      added := fresh }, ?_⟩
  intro db answer after done
  unfold createMany at done
  dsimp only at done
  split at done
  · cases done
  · next allowed =>
    cases done
    have fresh : (inserted "createMany" args).filter (fun data => !clashes (db model) data) =
        if skips args = true then (inserted "createMany" args).filter (fun data =>
          !clashes (client.reached model "createMany" args db model) data)
        else inserted "createMany" args := by
      split
      · next skipped =>
        apply List.filter_congr
        intro data member
        rw [clashes_reached model args db skipped data member]
      · next kept =>
        rw [List.filter_eq_self, ← List.length_filter_eq_length_iff]
        have all := List.length_filter_le (fun data => !clashes (db model) data)
          (inserted "createMany" args)
        have none_lost : ¬((inserted "createMany" args).filter (fun data =>
            !clashes (db model) data)).length < (inserted "createMany" args).length :=
          fun fewer => allowed ⟨by simpa using kept, fewer⟩
        omega
    rw [fresh]
    refine ⟨⟨fun _ _ _ _ => rfl, ?_, ?_⟩, rfl, ?_⟩
    · intro _ other row _ row' image
      cases image
      rfl
    · intro row member
      refine ⟨row, ?_, rfl⟩
      dsimp only at member
      split at member
      · exact List.mem_of_mem_filter member
      · exact member
    · funext other
      by_cases here : other = model
      · simp [Outcome.apply, here]
      · simp [Outcome.apply, here]

theorem deleteMany_explained (args : Fields) :
    ∃ told : (String → List Row) → Outcome, ∀ db answer after,
      deleteMany model args db = .ok (answer, after) →
        let outcome := told (client.reached model "deleteMany" args db)
        client.Explains model "deleteMany" args db outcome ∧ answer = outcome.answer ∧
          after = outcome.apply model db := by
  have filters : "deleteMany" ≠ "create" ∧ "deleteMany" ≠ "createMany" := by decide
  refine ⟨fun reached =>
    let hits := (reached model).filter (picks reached model args)
    { answer := counted hits
      become := fun other => Option.guard (fun row =>
        !(other = model && picks reached model args row) &&
        !(model = "Role" && other = "RolePermission" && hits.any (fun role => permits role row)))
      added := [] }, ?_⟩
  intro db answer after done
  cases done
  have hit : ∀ row ∈ db model, picks db model args row = true →
      client.Reached model "deleteMany" args db model row := fun row stored picked =>
    .hit stored (picks_hit model db "deleteMany" args filters row picked)
  dsimp only
  rw [filter_picks model "deleteMany" args filters db]
  refine ⟨⟨?_, ?_, ?_⟩, rfl, ?_⟩
  · intro other row stored unread
    dsimp only
    refine Option.guard_eq_some_iff.mpr ⟨rfl, ?_⟩
    rw [Bool.and_eq_true, Bool.not_eq_true', Bool.not_eq_true', ← Bool.not_eq_true,
      ← Bool.not_eq_true]
    constructor
    · intro goes
      simp only [Bool.and_eq_true, decide_eq_true_eq] at goes
      obtain ⟨rfl, picked⟩ := goes
      rw [picks_reached other "deleteMany" args filters db row stored] at picked
      exact unread (hit row stored picked)
    · intro goes
      simp only [Bool.and_eq_true, decide_eq_true_eq, List.any_eq_true, List.mem_filter] at goes
      obtain ⟨⟨rfl, rfl⟩, role, ⟨held, picked⟩, permitted⟩ := goes
      exact unread (.led (hit role held picked) stored (by simp [client, clientLeads, permitted]))
  · intro _ other row _ row' image
    dsimp only at image
    obtain ⟨unchanged, -⟩ := Option.guard_eq_some_iff.mp image
    rw [unchanged]
  · intro row member
    cases member
  · funext other
    simp only [Outcome.apply, ite_self, List.append_nil, List.filterMap_eq_filter]
    apply List.filter_congr
    intro row stored
    by_cases here : other = model
    · subst here
      rw [picks_reached other "deleteMany" args filters db row stored]
    · simp [here]

theorem client_documented : client.Documented where
  equality := by
    intro model companyId row equal
    have held := same_bytes _ _ equal
    rw [companyOf, held]
  column model := by simp [client, relation, target]
  offered := by
    intro env model operation args db answer after done
    simp only [client] at done
    split at done
    · next named =>
      rw [named]
      decide
    · split at done
      · next named =>
        rw [named]
        decide
      · split at done
        · next named =>
          rw [named]
          decide
        · cases done
  explained := by
    intro env model operation args _
    by_cases reads : operation = "findMany"
    · subst reads
      exact findMany_explained model args
    · by_cases creates : operation = "createMany"
      · subst creates
        exact createMany_explained model args
      · by_cases deletes : operation = "deleteMany"
        · subst deletes
          exact deleteMany_explained model args
        · refine ⟨fun _ => ⟨.null, fun _ => some, []⟩, ?_⟩
          intro db answer after done
          simp only [client, reads, creates, deletes, if_false] at done
          cases done

end ErpBackend.Tenant
