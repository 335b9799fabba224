import ErpBackend.Foundation.Joined
import ErpBackend.Trimming

/-!
# Storage and colour

`device-attributes.ts`: what is typed as a variant is cut at its separators, and the pieces
go to the two slots their option lists know them by. What is left over is kept in the free
text of a slot, so that no word a shop wrote is lost.
-/

namespace ErpBackend.Catalog.Variants

open Foundation

abbrev Text := List Char

structure AttributeOption where
  key : String
  label : String
  deriving DecidableEq

def STORAGE_OPTIONS : List AttributeOption :=
  [⟨"4gb", "4 GB"⟩, ⟨"8gb", "8 GB"⟩, ⟨"16gb", "16 GB"⟩, ⟨"32gb", "32 GB"⟩, ⟨"64gb", "64 GB"⟩,
    ⟨"128gb", "128 GB"⟩, ⟨"256gb", "256 GB"⟩, ⟨"512gb", "512 GB"⟩, ⟨"1tb", "1 TB"⟩,
    ⟨"2tb", "2 TB"⟩, ⟨"other", "Other"⟩]

def COLOUR_OPTIONS : List AttributeOption :=
  [⟨"black", "Black"⟩, ⟨"white", "White"⟩, ⟨"gray", "Gray"⟩, ⟨"silver", "Silver"⟩,
    ⟨"gold", "Gold"⟩, ⟨"rose_gold", "Rose Gold"⟩, ⟨"blue", "Blue"⟩, ⟨"green", "Green"⟩,
    ⟨"red", "Red"⟩, ⟨"purple", "Purple"⟩, ⟨"pink", "Pink"⟩, ⟨"yellow", "Yellow"⟩,
    ⟨"orange", "Orange"⟩, ⟨"brown", "Brown"⟩, ⟨"beige", "Beige"⟩, ⟨"other", "Other"⟩]

structure VariantParts where
  storageKey : Option String := none
  storageCustom : Text := []
  colourKey : Option String := none
  colourCustom : Text := []
  deriving DecidableEq

/-- `toLowerCase`: of the letters outside ASCII, the Kelvin sign and the dotted capital I become
ASCII ones. -/
def lower (text : Text) : Text :=
  text.flatMap (fun c =>
    if c.toNat = 0x212A then ['k'] else if c.toNat = 0x130 then ['i', Char.ofNat 0x307]
    else [c.toLower])

def byLabel (options : List AttributeOption) (t : Text) : Option AttributeOption :=
  (options.find? (fun o => lower o.label.toList = t)).filter (fun o => o.key ≠ "other")

section

local instance text_lawful : LawfulBEq Text := List.instLawfulBEq

/-- `/^(\d+)\s*(gb|go|g|tb|to|t)?$/`, and the key it stands for. -/
def capacityKey (t : Text) : Option Text :=
  let digits := t.takeWhile Char.isDigit
  let unit := (t.dropWhile Char.isDigit).dropWhile jsSpace
  if digits = [] then none
  else if unit ∈ ["".toList, "gb".toList, "go".toList, "g".toList] then some (digits ++ "gb".toList)
  else if unit ∈ ["tb".toList, "to".toList, "t".toList] then some (digits ++ "tb".toList)
  else none

end

/-- Everything a shop has ever typed for 128 GB, mapped to the one option. -/
def matchStorage (text : Text) : Option AttributeOption :=
  let t := lower (trimChars text)
  match byLabel STORAGE_OPTIONS t with
  | some exact => some exact
  | none => (capacityKey t).bind (fun key => STORAGE_OPTIONS.find? (fun o => o.key.toList = key))

def smallLetter (c : Char) : Bool := 'a' ≤ c ∧ c ≤ 'z'

/-- `replace(/[^a-z]+/g, '_')`. -/
def underscored : Bool → Text → Text
  | _, [] => []
  | gap, c :: rest =>
    if smallLetter c then c :: underscored false rest
    else if gap then underscored true rest
    else '_' :: underscored true rest

def matchColour (text : Text) : Option AttributeOption :=
  let t := lower (trimChars text)
  match byLabel COLOUR_OPTIONS t with
  | some exact => some exact
  | none =>
    let norm := underscored false t
    if norm = "grey".toList then COLOUR_OPTIONS.find? (fun o => o.key = "gray")
    else COLOUR_OPTIONS.find? (fun o => o.key.toList = norm ∧ o.key ≠ "other")

/-- What stands before a character: nothing to cut at, white space, or white space that already
belongs to the dash before it. -/
inductive Gap where
  | none
  | open'
  | taken
  deriving DecidableEq

def Gap.after (gap : Gap) (c : Char) : Gap :=
  if jsSpace c then if gap = .taken then .taken else .open' else .none

/-- `[·,/|]`. -/
def isMark (c : Char) : Bool := c = '·' ∨ c = ',' ∨ c = '/' ∨ c = '|'

def startsSpace : Text → Bool
  | [] => false
  | c :: _ => jsSpace c

def dashCuts (gap : Gap) (c : Char) (next : Bool) : Bool := c = '-' ∧ gap = .open' ∧ next

/-- `split(/[·,/|]|\s+-\s+/)`; the white space around a dash stays with the pieces, which are
trimmed. -/
def cut : Gap → Text → List Text
  | _, [] => [[]]
  | gap, c :: rest =>
    if isMark c then [] :: cut .none rest
    else if dashCuts gap c (startsSpace rest) then [] :: cut .taken rest
    else (cut (gap.after c) rest).modifyHead (c :: ·)

def piecesOf (text : Text) : List Text := ((cut .none text).map trimChars).filter (· ≠ [])

/-- `join(VARIANT_SEPARATOR)`. -/
def joinPieces : List Text → Text
  | [] => []
  | [piece] => piece
  | piece :: rest => piece ++ ' ' :: '·' :: ' ' :: joinPieces rest

structure Slots where
  storage : Option AttributeOption := none
  colour : Option AttributeOption := none
  unmatched : List Text := []

def Slots.place (slots : Slots) (piece : Text) : Slots :=
  match matchStorage piece, slots.storage with
  | some storage, none => { slots with storage := some storage }
  | _, _ =>
    match matchColour piece, slots.colour with
    | some colour, none => { slots with colour := some colour }
    | _, _ => { slots with unmatched := slots.unmatched ++ [piece] }

/-- Leftovers go to the colour slot, or to the storage slot where that is taken. -/
def Slots.parts (slots : Slots) : VariantParts :=
  let parts : VariantParts :=
    { storageKey := slots.storage.map AttributeOption.key
      colourKey := slots.colour.map AttributeOption.key }
  if slots.unmatched = [] then parts
  else if parts.colourKey = none then
    { parts with colourKey := some "other", colourCustom := joinPieces slots.unmatched }
  else
    { parts with
      storageKey := some (parts.storageKey.getD "other")
      storageCustom := joinPieces slots.unmatched }

def parseVariant (variant : Option String) : VariantParts :=
  let raw := trimChars (variant.getD "").toList
  if raw = [] then {}
  else ((piecesOf raw).foldl Slots.place {}).parts

def labelFor (options : List AttributeOption) (key : Option String) (custom : Text) : Option Text :=
  match key with
  | none => none
  | some key =>
    if key = "other" then (if trimChars custom = [] then none else some (trimChars custom))
    else (options.find? (fun o => o.key = key)).map (fun o => o.label.toList)

def composeVariant (parts : VariantParts) : Option String :=
  let pieces := [labelFor STORAGE_OPTIONS parts.storageKey parts.storageCustom,
    labelFor COLOUR_OPTIONS parts.colourKey parts.colourCustom].filterMap
      (fun label => label.filter (· ≠ []))
  if pieces = [] then none else some (String.ofList (joinPieces pieces))

def normalise (variant : Option String) : Option String := composeVariant (parseVariant variant)

example : normalise (some "256GB / Sierra Blue") = some "256 GB · Sierra Blue" := by decide +kernel

example : normalise (some "Grey") = some "Gray" := by decide +kernel

end ErpBackend.Catalog.Variants
