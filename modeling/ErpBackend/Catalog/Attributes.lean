import ErpBackend.Common

/-!
# Product attributes

A category says which attributes its products have. What a product carries
beyond those is kept and named for review; what it carries at all is bounded in
size and depth, and holds no money.
-/

namespace ErpBackend.Catalog

/-- A number, and how JavaScript prints it. -/
structure JsNumber where
  value : Rat
  printed : String
  deriving DecidableEq

inductive Json where
  | null
  | boolean (value : Bool)
  | number (value : JsNumber)
  | text (value : String)
  | list (items : List Json)
  | object (fields : List (String × Json))

abbrev Fields := List (String × Json)

mutual

/-- `String(value)`. -/
def Json.printed : Json → String
  | .null => "null"
  | .boolean value => if value then "true" else "false"
  | .number value => value.printed
  | .text value => value
  | .list items => String.intercalate "," (Json.printedItems items)
  | .object _ => "[object Object]"

/-- An item of a list prints as nothing where it is `null`. -/
def Json.printedItems : List Json → List String
  | [] => []
  | .null :: rest => "" :: Json.printedItems rest
  | item :: rest => item.printed :: Json.printedItems rest

end

def specMaxKeys : Nat := 40
def specMaxKeyLen : Nat := 60
def specMaxValueLen : Nat := 200
def specMaxDepth : Nat := 2

/-- `/(^|_)(cost|price|margin|profit)($|_)/i`. -/
def specForbidden (key : String) : Bool :=
  ((key.splitOn "_").map (fun part => String.ofList (part.toList.map Char.toLower))).any
    (· ∈ ["cost", "price", "margin", "profit"])

/-- `levels` is how many levels may still be entered. -/
def walk : Nat → Json → Except Refusal Unit
  | 0, _ => .error (.badRequest "Specifications are nested too deeply")
  | levels + 1, value =>
      match value with
      | .text text =>
          if specMaxValueLen < text.length then
            .error (.badRequest "A specification value is too long")
          else .ok ()
      | .null | .boolean _ | .number _ => .ok ()
      | .list items =>
          if specMaxKeys < items.length then
            .error (.badRequest "A specification list is too long")
          else items.forM (walk levels)
      | .object entries =>
          if specMaxKeys < entries.length then
            .error (.badRequest "Too many specification fields")
          else entries.forM (fun entry =>
            if specMaxKeyLen < entry.1.length then
              .error (.badRequest "A specification name is too long")
            else if specForbidden entry.1 then
              .error (.badRequest ("\"" ++ entry.1 ++ "\" cannot be a specification. Cost and " ++
                "price live on receiving and stock, not on product metadata."))
            else walk levels entry.2)

def assertSpecificationsSafe : Option Fields → Except Refusal Unit
  | none => .ok ()
  | some specs => walk specMaxDepth (.object specs)

inductive AttributeType where
  | text
  | number
  | enumeration
  | measurement
  deriving DecidableEq

structure AttributeDef where
  key : String
  label : String
  type : AttributeType
  required : Bool
  options : Option (List String)
  min : Option JsNumber
  max : Option JsNumber
  deriving DecidableEq

structure AttributeError where
  key : String
  message : String
  deriving DecidableEq

def checkValue (attr : AttributeDef) (value : Json) : List AttributeError :=
  let failed (message : String) : AttributeError := ⟨attr.key, attr.label ++ message⟩
  match attr.type, value with
  | .text, .text _ => []
  | .text, _ => [failed " must be text"]
  | .enumeration, value =>
      if value.printed ∈ attr.options.getD [] then []
      else [failed (" must be one of: " ++
        String.intercalate ", " (attr.options.getD []))]
  | _, .number given =>
      (attr.min.toList.filter (fun bound => given.value < bound.value)).map
          (fun bound => failed (" must be ≥ " ++ bound.printed)) ++
        (attr.max.toList.filter (fun bound => bound.value < given.value)).map
          (fun bound => failed (" must be ≤ " ++ bound.printed))
  | _, _ => [failed " must be a number"]

/-- `undefined`, `null` and the empty text. -/
def emptyValue : Option Json → Bool
  | none => true
  | some .null => true
  | some (.text value) => value = ""
  | some _ => false

def checkAttribute (specs : Fields) (attr : AttributeDef) : List AttributeError :=
  let given := specs.lookup attr.key
  if emptyValue given then
    if attr.required then [⟨attr.key, attr.label ++ " is required"⟩] else []
  else checkValue attr (given.getD .null)

def validateValues (schema : List AttributeDef) (specifications : Option Fields) :
    Except Refusal (List String) :=
  let specs := specifications.getD []
  let errors := schema.flatMap (checkAttribute specs)
  let declared := schema.map AttributeDef.key
  if errors ≠ [] then
    .error ((Refusal.badRequest "Invalid product attributes").about
      (errors.map (fun error => { identifier := some error.key, reason := some error.message })))
  else .ok ((specs.map Prod.fst).filter (· ∉ declared))

end ErpBackend.Catalog
