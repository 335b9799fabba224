import ErpBackend.Common

/-!
# Login contacts

One canonical form of a phone number and of an email address, so that two
spellings of one contact meet in the unique indexes.
-/

namespace ErpBackend.Users

/-- `replace(/[\s\-().]/g, '')`. -/
def stripPunctuation (text : List Char) : List Char :=
  text.filter (fun c => ¬(jsSpace c ∨ c ∈ ['-', '(', ')', '.']))

/-- `/^\+[1-9]\d{7,14}$/`. -/
def isE164 : List Char → Bool
  | '+' :: first :: rest =>
      '1' ≤ first ∧ first ≤ '9' ∧ 7 ≤ rest.length ∧ rest.length ≤ 14 ∧ rest.all Char.isDigit
  | _ => false

/-- A leading `00` is the international prefix. -/
def withPlus : List Char → List Char
  | '0' :: '0' :: rest => '+' :: rest
  | text => text

def toE164 (raw : String) : Option String :=
  let s := withPlus (stripPunctuation (trimChars raw.toList))
  if isE164 s then some (String.ofList s) else none

def withoutPlus : List Char → List Char
  | '+' :: rest => rest
  | text => text

/-- Eight digits are a number of the country the product is sold in. -/
def normalisePhone (raw : String) : Option String :=
  let digits := withoutPlus (stripPunctuation (trimChars raw.toList))
  if digits.isEmpty ∨ ¬digits.all Char.isDigit then none
  else if digits.length = 8 then some (String.ofList ("+222".toList ++ digits))
  else if digits.length = 11 ∧ "222".toList <+: digits then some (String.ofList ('+' :: digits))
  else if 9 ≤ digits.length ∧ digits.length ≤ 15 then some (String.ofList ('+' :: digits))
  else none

/-- `/^[^\s@]+@[^\s@]+\.[^\s@]+$/`. -/
def emailShape (text : List Char) : Bool :=
  match text.splitOn '@' with
  | [name, domain] => text.all (fun c => ¬jsSpace c) ∧ name ≠ [] ∧
      (domain.drop 1).dropLast.any (· = '.')
  | _ => false

def isValidEmail (raw : String) : Bool := raw.length ≤ 160 ∧ emailShape raw.toList

/-- `toLowerCase` is the language's. -/
def normaliseEmail (lowerCase : List Char → List Char) (raw : String) : String :=
  String.ofList (lowerCase (trimChars raw.toList))

/-- `''` clears the phone. -/
def resolvePhone (raw : String) : Except Refusal (Option String) :=
  if raw = "" then .ok none
  else match (normalisePhone raw).or (toE164 raw) with
    | some canonical => .ok (some canonical)
    | none => .error (.badRequest "Enter a WhatsApp number, e.g. 43 21 09 87 or +222 43210987")

/-- `''` clears the email. -/
def resolveEmail (lowerCase : List Char → List Char) (raw : String) :
    Except Refusal (Option String) :=
  if raw = "" then .ok none
  else if isValidEmail raw then .ok (some (normaliseEmail lowerCase raw))
  else .error (.badRequest "That does not look like an email address")

/-- `Boolean(contact)`. -/
def present (contact : Option String) : Bool := contact.any (· ≠ "")

end ErpBackend.Users
