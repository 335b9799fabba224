import ErpBackend.Common

/-!
# The tenant extension

Every operation on a model passes through `scopeTenantArgs`, which writes the company of the
request into the filter or into the rows to be inserted.
-/

namespace ErpBackend.Tenant

abbrev Buffer := List UInt8

inductive Value where
  | undefined
  | null
  | bool (value : Bool)
  | number (value : Int)
  | text (value : String)
  | bytes (value : Buffer)
  | list (values : List Value)
  | object (fields : List (String × Value))

abbrev Fields := List (String × Value)

def Fields.get (fields : Fields) (name : String) : Value :=
  ((fields.find? (fun field => field.1 = name)).map Prod.snd).getD .undefined

def Fields.set (fields : Fields) (name : String) (value : Value) : Fields :=
  if fields.any (fun field => field.1 = name) then
    fields.map (fun field => if field.1 = name then (name, value) else field)
  else fields ++ [(name, value)]

def indexed (values : List Value) : Fields :=
  values.zipIdx.map (fun (value, index) => (toString index, value))

/-- `{ ...value }`. -/
def spread : Value → Fields
  | .object fields => fields
  | .list values => indexed values
  | .text text => indexed (text.toList.map (fun char => .text (String.singleton char)))
  | .bytes bytes => indexed (bytes.map (fun byte => .number byte.toNat))
  | _ => []

theorem Fields.get_set (fields : Fields) (name other : String) (value : Value) :
    (fields.set name value).get other = if other = name then value else fields.get other := by
  unfold set
  split
  · next present =>
    -- The place of a property is kept, so the same one is found.
    have kept : ((fun field => decide (field.1 = other)) ∘ fun field : String × Value =>
        if field.1 = name then (name, value) else field) =
          fun field => decide (field.1 = other) := by
      funext field
      by_cases here : field.1 = name
      · simp [here]
      · simp [here]
    rw [get, get, List.find?_map, kept]
    rcases found : fields.find? (fun field => decide (field.1 = other)) with _ | ⟨first, held⟩
    · have absent : other ≠ name := by
        rintro rfl
        obtain ⟨field, member, same⟩ := List.any_eq_true.mp present
        exact List.find?_eq_none.mp found field member same
      rw [if_neg absent, found]
      rfl
    · have matched := List.find?_some found
      rw [decide_eq_true_eq] at matched
      rw [found]
      subst matched
      by_cases here : first = name
      · simp [here]
      · simp [here]
  · next absent =>
    have missing : fields.find? (fun field => field.1 = name) = none :=
      List.find?_eq_none.mpr (fun field member same =>
        absent (List.any_eq_true.mpr ⟨field, member, same⟩))
    rw [get, get, List.find?_append]
    by_cases here : other = name
    · simp [here, missing]
    · simp [here, Ne.symm here]

theorem Fields.mem_set (fields : Fields) (name : String) (value : Value) :
    (name, value) ∈ fields.set name value := by
  unfold set
  split
  · next present =>
    obtain ⟨field, member, same⟩ := List.any_eq_true.mp present
    exact List.mem_map.mpr ⟨field, member, if_pos (of_decide_eq_true same)⟩
  · simp

/-- Models without a `company_id`. -/
def GLOBAL_MODELS : List String := ["Permission", "TacCatalog"]

/-- Operations whose `where` is scoped. -/
def WHERE_OPERATIONS : List String :=
  ["findUnique", "findUniqueOrThrow", "findFirst", "findFirstOrThrow", "findMany", "count",
    "aggregate", "groupBy", "update", "updateMany", "delete", "deleteMany"]

/-- `{ ...value, companyId }`. -/
def withCompany (value : Value) (companyId : Buffer) : Value :=
  .object (Fields.set (spread value) "companyId" (.bytes companyId))

def injectCompany (operation : String) (args : Fields) (companyId : Buffer) : Fields :=
  if operation = "create" then args.set "data" (withCompany (args.get "data") companyId)
  else if operation = "createMany" then
    args.set "data" (match args.get "data" with
      | .list rows => .list (rows.map (fun row => withCompany row companyId))
      | data => withCompany data companyId)
  else if operation = "upsert" then
    let args := args.set "where" (withCompany (args.get "where") companyId)
    args.set "create" (withCompany (args.get "create") companyId)
  else if operation ∈ WHERE_OPERATIONS then
    args.set "where" (withCompany (args.get "where") companyId)
  else args

def scopeTenantArgs (model operation : String) (args : Fields) (companyId : Option Buffer) :
    Except Refusal Fields :=
  if model ∈ GLOBAL_MODELS then .ok args
  else match companyId with
    | none => .error (missingTenantContext model operation)
    | some companyId => .ok (injectCompany operation args companyId)

abbrev Row := Fields

abbrev Database := String → List Row

/-- The client the extension calls. Its `env` is the clock, and the keys the database hands
out. Beside `query` stand the terms in which its behaviour is documented. -/
structure Engine (Env : Type) where
  query : Env → String → String → Fields → Database → Except Refusal (Value × Database)
  /-- Whether one field of a `where` selects the row. -/
  selects : String → String × Value → Row → Bool
  /-- Whether the field of the model leads to rows of another. -/
  relation : String → String → Bool
  /-- The row has the key that a `cursor`, or a row whose duplicates are skipped, gives. -/
  named : String → String → Fields → Row → Bool
  /-- The operation goes from the first row to the second: by a relation it filters by, includes,
  selects or orders by, or against a foreign key with a referential action. -/
  leads : String → String → Fields → String × Row → String × Row → Bool

/-- `$allOperations`. -/
def allOperations {Env : Type} (engine : Engine Env) (env : Env) (companyId : Option Buffer)
    (model operation : String) (args : Option Fields) (db : Database) :
    Except Refusal (Value × Database) := do
  let scopedArgs ← scopeTenantArgs model operation (args.getD []) companyId
  engine.query env model operation scopedArgs db

end ErpBackend.Tenant
