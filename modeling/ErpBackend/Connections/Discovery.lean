import ErpBackend.Schema

/-!
# Finding another shop

What a stranger may see of a company, and which searches are narrow enough to
be one.
-/

namespace ErpBackend.Connections

open Foundation

/-- What discovery reads of a row of `companies`; registration refuses a blank name. -/
structure Company where
  id : Id
  name : String
  publicStoreId : String
  isDiscoverable : Bool := false
  city : Option String := none
  logoRef : Option String := none
  publicPhone : Option String := none
  isActive : Bool := true
  named : blank (some name) = false

inductive SearchMode where
  | storeId
  | phone
  | name
  deriving DecidableEq

structure ParsedQuery where
  mode : SearchMode
  value : String
  exact : Bool
  deriving DecidableEq

def maxResults : Nat := 10

def minNameLength : Nat := 3

def storeIdLength : Nat := 10

def upperText (text : List Char) : List Char := text.map Char.toUpper

/-- `/^[0-9A-F]{10}$/`. -/
def isStoreId (text : List Char) : Bool :=
  text.length = storeIdLength ∧ text.all (fun c => c.isDigit ∨ ('A' ≤ c ∧ c ≤ 'F'))

/-- `/^[0-9+\s-]{6,20}$/`. -/
def isDigits (text : List Char) : Bool :=
  6 ≤ text.length ∧ text.length ≤ 20 ∧
    text.all (fun c => c.isDigit ∨ c = '+' ∨ jsSpace c ∨ c = '-')

def parseQuery (raw : String) : Except Refusal ParsedQuery :=
  let q := trimChars raw.toList
  if q.isEmpty then
    .error (.badRequest "Type a store ID, a phone number, or a store name")
  else if isStoreId (upperText q) then .ok ⟨.storeId, String.ofList (upperText q), true⟩
  else if isDigits q then
    .ok ⟨.phone, String.ofList (q.filter (fun c => ¬(jsSpace c ∨ c = '-'))), true⟩
  else if q.length < minNameLength then
    .error (.badRequest
      ("Type at least " ++ toString minNameLength ++ " letters of the store's name"))
  else .ok ⟨.name, String.ofList q, false⟩

/-- How the database compares the texts of `companies`. -/
structure Collation where
  same : String → String → Bool
  starts : String → String → Bool
  upTo : String → String → Bool
  total : ∀ a b, upTo a b = true ∨ upTo b a = true
  trans : ∀ a b c, upTo a b = true → upTo b c = true → upTo a c = true

def Collation.binary : Collation where
  same a b := a = b
  starts text start := start.toList.isPrefixOf text.toList
  upTo a b := (List.instLE : LE (List Char)).le a.toList b.toList
  total a b := by
    rw [decide_eq_true_eq, decide_eq_true_eq]
    exact List.le_total _ _
  trans a b c first second := by
    rw [decide_eq_true_eq] at first second ⊢
    exact List.le_trans first second

/-- The `where` of a search. -/
def Collation.accepts (collation : Collation) (parsed : ParsedQuery) (company : Company) : Bool :=
  match parsed.mode with
  | .storeId => collation.same company.publicStoreId parsed.value
  | .phone => company.publicPhone.any (collation.same · parsed.value)
  | .name => collation.starts company.name parsed.value

structure PublicStorePreview where
  publicStoreId : String
  name : String
  city : Option String
  logoRef : Option String
  verification : String := "Verified badge coming soon"
  deriving DecidableEq

def toPublicPreview (company : Company) : PublicStorePreview where
  publicStoreId := company.publicStoreId
  name := company.name
  city := company.city
  logoRef := company.logoRef

structure ConnectedStoreDetail where
  preview : PublicStorePreview
  phone : Option String
  deriving DecidableEq

def toConnectedDetail (company : Company) (accepted : Bool) : ConnectedStoreDetail where
  preview := toPublicPreview company
  phone := if accepted then company.publicPhone else none

def isVisibleInSearch (isDiscoverable isActive blockedEitherWay isSelf : Bool) : Bool :=
  if isSelf then false
  else if !isDiscoverable || !isActive then false
  else !blockedEitherWay

end ErpBackend.Connections
