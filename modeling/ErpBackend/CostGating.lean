import ErpBackend.Foundation.Erasure
import ErpBackend.Common

/-!
# Cost gating

Every response for a caller without `cost.view` loses the fields that reveal cost, profit or
valuation. The copy is deep: lists and objects are walked, everything else passes through.
-/

namespace ErpBackend.CostGating

open Foundation (Tree)
open Foundation.Tree (Part Step Alike Open)

/-- An own key of a response. The responses are copies the inner interceptor made by assigning
each key, and assigning `__proto__` makes no key. -/
structure Key where
  name : String
  own : name ≠ "__proto__"
  deriving DecidableEq

/-- What is not walked: the primitives, a date, a buffer. A number is as JavaScript prints it. -/
inductive Leaf where
  | undefined
  | null
  | boolean (value : Bool)
  | number (printed : String)
  | bigint (value : Int)
  | text (value : String)
  | date (time : Option Int)
  | buffer (bytes : List UInt8)
  deriving DecidableEq

/-- A list is an array, a record is what `Object.entries` gives of any other object. -/
abbrev Value := Tree Key Leaf

def FINANCIAL_FIELDS : List String :=
  ["cost", "unitCost", "defaultCost", "purchaseCost", "totalCost", "cogs", "costOfGoodsSold",
    "margin", "profit", "grossProfit", "netProfit", "totalProfit",
    "inventoryValue", "expectedProfit", "expectedRevenue",
    "inTransitValue", "totalStockValue", "outboundValue", "inboundValue", "shippedUnitCost"]

def Financial (key : Key) : Prop := key.name ∈ FINANCIAL_FIELDS

instance : DecidablePred Financial := fun key =>
  inferInstanceAs (Decidable (key.name ∈ FINANCIAL_FIELDS))

mutual

def stripFinancialFields : Value → Value
  | .list items => .list (stripItems items)
  | .record entries => .record (stripEntries entries)
  | .leaf data => .leaf data

def stripItems : List Value → List Value
  | [] => []
  | item :: rest => stripFinancialFields item :: stripItems rest

/-- The loop over the entries, which assigns to the copy what it does not skip. -/
def stripEntries : List (Key × Value) → List (Key × Value)
  | [] => []
  | (key, value) :: rest =>
      if Financial key then stripEntries rest
      else (key, stripFinancialFields value) :: stripEntries rest

end

theorem stripFinancialFields_eq (data : Value) :
    stripFinancialFields data = data.erase Financial := by
  induction data using Tree.induct with
  | leaf data => rfl
  | list items ih =>
    have same : stripItems items = items.map (Tree.erase Financial) := by
      induction items with
      | nil => rfl
      | cons item rest inner =>
        rw [stripItems, List.map_cons, ih item (List.mem_cons_self ..),
          inner (fun item member => ih item (List.mem_cons_of_mem _ member))]
    rw [stripFinancialFields, Tree.erase_list, same]
  | record entries ih =>
    have same : stripEntries entries = Tree.eraseFields Financial entries := by
      induction entries with
      | nil => rfl
      | cons entry rest inner =>
        obtain ⟨key, value⟩ := entry
        rw [stripEntries, Tree.eraseFields, ih (key, value) (List.mem_cons_self ..),
          inner (fun entry member => ih entry (List.mem_cons_of_mem _ member))]
    rw [stripFinancialFields, Tree.erase, same]

structure Stripped (data : Value) : Prop where
  /-- No object at any depth has a financial key. -/
  removed : ∀ fields, Part (.record fields) (stripFinancialFields data) →
    ∀ field ∈ fields, field.1.name ∉ FINANCIAL_FIELDS
  /-- A path through no financial key leads to the leaf it led to. -/
  preserved : ∀ path leaf, Open Financial path → data.reach path = some (.leaf leaf) →
    (stripFinancialFields data).reach path = some (.leaf leaf)
  idempotent : stripFinancialFields (stripFinancialFields data) = stripFinancialFields data
  /-- Another response is told apart only by what stands outside the financial keys. -/
  hidden : ∀ other, stripFinancialFields data = stripFinancialFields other ↔
    Alike Financial data other

theorem financial_fields_stripped (data : Value) : Stripped data where
  removed := by
    intro fields inside
    rw [stripFinancialFields_eq] at inside
    exact Tree.erase_hides Financial data inside
  preserved := by
    intro path leaf clear led
    rw [stripFinancialFields_eq, Tree.reach_erase Financial data clear, led]
    rfl
  idempotent := by
    simp only [stripFinancialFields_eq]
    exact Tree.erase_erase Financial data
  hidden := by
    intro other
    simp only [stripFinancialFields_eq]
    exact Tree.erase_eq_iff data other

structure Cls where
  userId : Option Id
  branchId : Option Id
  permissions : Option (List String)

def costView : String := "cost.view"

/-- `access` is `getEffectivePermissions`, which refuses a branch the user is not assigned to. -/
def intercept {ε : Type} (cls : Cls) (access : Id → Option Id → Except ε (List String))
    (data : Value) : Cls × Value :=
  match cls.userId with
  | none => (cls, data)
  | some userId =>
    let (cls, permissions) :=
      match cls.permissions with
      | some permissions => (cls, permissions)
      | none =>
        match access userId cls.branchId with
        | .ok permissions => ({ cls with permissions := some permissions }, permissions)
        | .error _ => (cls, [])
    if costView ∈ permissions then (cls, data) else (cls, stripFinancialFields data)

/-- What the caller may do: the permissions of the request, or those resolved now. -/
def Permitted {ε : Type} (cls : Cls) (access : Id → Option Id → Except ε (List String))
    (userId : Id) (permission : String) : Prop :=
  match cls.permissions with
  | some permissions => permission ∈ permissions
  | none => ∃ permissions, access userId cls.branchId = .ok permissions ∧ permission ∈ permissions

/-- Two responses that differ only in financial fields are one to a caller who may not see cost,
also when his permissions cannot be resolved. -/
theorem intercept_hides {ε : Type} (cls : Cls) (access : Id → Option Id → Except ε (List String))
    {userId : Id} (signedIn : cls.userId = some userId)
    (denied : ¬Permitted cls access userId costView) {data other : Value}
    (alike : Alike Financial data other) :
    intercept cls access data = intercept cls access other ∧
      (intercept cls access data).2 = stripFinancialFields data := by
  have same := ((financial_fields_stripped data).hidden other).mpr alike
  simp only [Permitted] at denied
  simp only [intercept, signedIn]
  cases given : cls.permissions with
  | some permissions =>
    simp only [given] at denied
    simp [denied, same]
  | none =>
    simp only [given] at denied
    cases resolved : access userId cls.branchId with
    | error refusal => simp [same]
    | ok permissions =>
      have absent : costView ∉ permissions := fun present => denied ⟨permissions, resolved, present⟩
      simp [absent, same]

/-- Two phones in stock and what they are worth, costs and profit among it. -/
def stockReport (first second profit : String) : Value :=
  .record
    [(⟨"items", by decide⟩, .list
      [.record [(⟨"model", by decide⟩, .leaf (.text "A15")),
          (⟨"cost", by decide⟩, .leaf (.number first))],
        .record [(⟨"model", by decide⟩, .leaf (.text "A25")),
          (⟨"cost", by decide⟩, .leaf (.number second))]]),
      (⟨"totals", by decide⟩, .record
        [(⟨"units", by decide⟩, .leaf (.number "2")),
          (⟨"grossProfit", by decide⟩, .leaf (.number profit))])]

/-- The permissions of the caller cannot be resolved, and no figure shows. -/
theorem intercept_hides_figures :
    intercept ⟨some 7, none, none⟩ (fun _ _ => Except.error ()) (stockReport "500" "700" "300") =
      intercept ⟨some 7, none, none⟩ (fun _ _ => .error ()) (stockReport "900" "650" "120") :=
  (intercept_hides _ _ rfl (by simp [Permitted])
    (((financial_fields_stripped (stockReport "500" "700" "300")).hidden _).mp rfl)).1

end ErpBackend.CostGating
