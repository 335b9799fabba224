import ErpBackend.Foundation.Base64
import ErpBackend.Auth.Tokens

/-!
# The catalogue's cursor

The id of the last row of a page, as JSON in base64url. What the client sends back is read as
whatever JSON it is.
-/

namespace ErpBackend.Catalog

open Foundation

/-- A JSON text read: its strings and objects. Every other value is the same to the cursor. -/
inductive Parsed where
  | text (value : List Char)
  | object (fields : List (List Char × Parsed))
  | other

def skipSpace (text : List Char) : List Char :=
  text.dropWhile (fun c => c.toNat ∈ [9, 10, 13, 32])

def escaped : Char → Option Char
  | '"' => some '"'
  | '\\' => some '\\'
  | '/' => some '/'
  | 'b' => some (Char.ofNat 8)
  | 'f' => some (Char.ofNat 12)
  | 'n' => some (Char.ofNat 10)
  | 'r' => some (Char.ofNat 13)
  | 't' => some (Char.ofNat 9)
  | _ => none

def readString : List Char → Option (List Char × List Char)
  | [] => none
  | '"' :: rest => some ([], rest)
  | '\\' :: 'u' :: a :: b :: c :: d :: rest =>
      if [a, b, c, d].all Auth.isHexDigit then
        (readString rest).map (fun read =>
          (Char.ofNat ([a, b, c, d].foldl (fun value c => value * 16 + hexDigit c) 0) :: read.1,
            read.2))
      else none
  | '\\' :: c :: rest =>
      (escaped c).bind (fun plain =>
        (readString rest).map (fun read => (plain :: read.1, read.2)))
  | c :: rest =>
      if c.toNat < 32 then none
      else (readString rest).map (fun read => (c :: read.1, read.2))

def readDigits : List Char → Option (List Char)
  | c :: rest => if c.isDigit then some (rest.dropWhile Char.isDigit) else none
  | [] => none

def readInteger : List Char → Option (List Char)
  | '-' :: '0' :: rest => some rest
  | '-' :: rest => readDigits rest
  | '0' :: rest => some rest
  | text => readDigits text

def readFraction : List Char → Option (List Char)
  | '.' :: rest => readDigits rest
  | text => some text

def readExponent : List Char → Option (List Char)
  | 'e' :: '+' :: rest | 'e' :: '-' :: rest | 'E' :: '+' :: rest | 'E' :: '-' :: rest =>
      readDigits rest
  | 'e' :: rest | 'E' :: rest => readDigits rest
  | text => some text

def readNumber (text : List Char) : Option (List Char) :=
  ((readInteger text).bind readFraction).bind readExponent

mutual

def readValue : Nat → List Char → Option (Parsed × List Char)
  | 0, _ => none
  | fuel + 1, text =>
      match skipSpace text with
      | '"' :: rest => (readString rest).map (fun read => (.text read.1, read.2))
      | '\x7b' :: rest =>
          match skipSpace rest with
          | '\x7d' :: rest => some (.object [], rest)
          | rest => (readMembers fuel rest).map (fun read => (.object read.1, read.2))
      | '[' :: rest =>
          match skipSpace rest with
          | ']' :: rest => some (.other, rest)
          | rest => (readItems fuel rest).map (fun rest => (.other, rest))
      | 't' :: 'r' :: 'u' :: 'e' :: rest => some (.other, rest)
      | 'f' :: 'a' :: 'l' :: 's' :: 'e' :: rest => some (.other, rest)
      | 'n' :: 'u' :: 'l' :: 'l' :: rest => some (.other, rest)
      | text => (readNumber text).map (fun rest => (.other, rest))

def readMembers : Nat → List Char → Option (List (List Char × Parsed) × List Char)
  | 0, _ => none
  | fuel + 1, text =>
      match skipSpace text with
      | '"' :: rest => do
          let (key, rest) ← readString rest
          match skipSpace rest with
          | ':' :: rest => do
              let (value, rest) ← readValue fuel rest
              match skipSpace rest with
              | ',' :: rest => do
                  let (others, rest) ← readMembers fuel rest
                  some ((key, value) :: others, rest)
              | '\x7d' :: rest => some ([(key, value)], rest)
              | _ => none
          | _ => none
      | _ => none

def readItems : Nat → List Char → Option (List Char)
  | 0, _ => none
  | fuel + 1, text => do
      let (_, rest) ← readValue fuel text
      match skipSpace rest with
      | ',' :: rest => readItems fuel rest
      | ']' :: rest => some rest
      | _ => none

end

/-- `JSON.parse`: every two levels of the reading take a character at least. -/
def parseJson (text : List Char) : Option Parsed :=
  match readValue (2 * text.length + 1) text with
  | some (value, rest) => if skipSpace rest = [] then some value else none
  | none => none

def Parsed.member (name : String) : Parsed → Option Parsed
  | .object fields => (fields.reverse.find? (fun field => field.1 = name.toList)).map Prod.snd
  | _ => none

structure CatalogCursor where
  id : String
  deriving DecidableEq

/-- `Buffer.from(text, 'utf8')`. -/
def utf8Bytes (text : List Char) : List UInt8 := text.flatMap String.utf8EncodeChar

/-- `toString('utf8')`. No cursor has a character beyond ASCII outside a string nobody reads,
so each byte of one is the replacement character. -/
def utf8Text (bytes : List UInt8) : List Char :=
  bytes.map (fun byte => if byte.toNat < 128 then Char.ofNat byte.toNat else '\uFFFD')

def cursorJson (cursor : CatalogCursor) : List Char :=
  ("\x7b\"id\":" ++ jsonString cursor.id ++ "\x7d").toList

def encodeCatalogCursor (cursor : CatalogCursor) : String :=
  String.ofList (Base64.encode (utf8Bytes (cursorJson cursor)))

def invalidCursor : Refusal := .badRequest "Invalid pagination cursor"

def decodeCatalogCursor (raw : String) : Except Refusal CatalogCursor :=
  match (parseJson (utf8Text (Base64.decode raw.toList))).bind (Parsed.member "id") with
  | some (.text id) =>
      if Auth.isUuid (String.ofList id) then .ok ⟨String.ofList id⟩ else .error invalidCursor
  | _ => .error invalidCursor

def Plain (c : Char) : Prop := c ≠ '"' ∧ c ≠ '\\' ∧ 32 ≤ c.toNat ∧ c.toNat < 128

theorem digitChar_plain : ∀ d < 16, Plain (Nat.digitChar d) := by
  unfold Plain
  decide

@[simp]
theorem isHexDigit_digit (n : Nat) : Auth.isHexDigit (Nat.digitChar (n % 16)) = true := by
  have every : ∀ d < 16, Auth.isHexDigit (Nat.digitChar d) = true := by decide
  exact every _ (Nat.mod_lt _ (by decide))

@[simp]
theorem digit_dashless (n : Nat) : Nat.digitChar (n % 16) ≠ '-' := by
  have every : ∀ d < 16, Nat.digitChar d ≠ '-' := by decide
  exact every _ (Nat.mod_lt _ (by decide))

@[simp]
theorem hexDigit_digit (n : Nat) : hexDigit (Nat.digitChar (n % 16)) = n % 16 := by
  have every : ∀ d < 16, hexDigit (Nat.digitChar d) = d := by decide
  exact every _ (Nat.mod_lt _ (by decide))

theorem hexDigits_value (count value : Nat) :
    (Auth.hexDigits count value).foldl (fun value c => value * 16 + hexDigit c) 0 =
      value % 16 ^ count := by
  induction count generalizing value with
  | zero => simp [Auth.hexDigits, Nat.mod_one]
  | succ count ih =>
    calc
      _ = value / 16 % 16 ^ count * 16 + value % 16 := by
        simp [Auth.hexDigits, List.foldl_append, ih]
      _ = value % (16 * 16 ^ count) := by
        rw [Nat.mod_mul]
        omega
      _ = value % 16 ^ (count + 1) := by rw [Nat.pow_succ']

theorem hexDigits_plain (count value : Nat) : ∀ c ∈ Auth.hexDigits count value, Plain c := by
  induction count generalizing value with
  | zero => simp [Auth.hexDigits]
  | succ count ih =>
    intro c member
    rcases List.mem_append.mp member with earlier | last
    · exact ih (value / 16) c earlier
    · rw [List.mem_singleton.mp last]
      exact digitChar_plain _ (Nat.mod_lt _ (by decide))

variable (bin : Id)

theorem binToUuid_hex :
    (Auth.binToUuid bin).toList.filter (· != '-') = Auth.hexDigits 32 bin := by
  simp [Auth.binToUuid, Auth.hexDigits]

theorem binToUuid_plain : ∀ c ∈ (Auth.binToUuid bin).toList, Plain c := by
  intro c member
  by_cases dash : c = '-'
  · rw [dash]
    exact ⟨by decide, by decide, by decide, by decide⟩
  · have digit : c ∈ Auth.hexDigits 32 bin := by
      rw [← binToUuid_hex]
      exact List.mem_filter.mpr ⟨member, by simpa using dash⟩
    exact hexDigits_plain 32 bin c digit

theorem isUuid_binToUuid : Auth.isUuid (Auth.binToUuid bin) = true := by
  simp [Auth.isUuid, Auth.binToUuid, Auth.hexDigits]

theorem uuidToBin_binToUuid (fits : bin < 16 ^ 32) :
    uuidToBin (Auth.binToUuid bin) = bin := by
  rw [uuidToBin, binToUuid_hex, hexDigits_value, Nat.mod_eq_of_lt fits]

theorem utf8Text_utf8Bytes (text : List Char) (ascii : ∀ c ∈ text, c.toNat < 128) :
    utf8Text (utf8Bytes text) = text := by
  induction text with
  | nil => rfl
  | cons c text ih =>
    simp only [List.forall_mem_cons] at ascii
    have one : String.utf8EncodeChar c = [UInt8.ofNat c.toNat] := by
      have small : c.toNat ≤ 127 := Nat.le_of_lt_succ ascii.1
      simp [String.utf8EncodeChar, small]
    have value : (UInt8.ofNat c.toNat).toNat = c.toNat := by
      rw [UInt8.toNat_ofNat', Nat.mod_eq_of_lt (by omega)]
    have rest := ih ascii.2
    simp only [utf8Text, utf8Bytes] at rest ⊢
    simp [one, value, ascii.1, rest]

theorem jsonString_plain (text : String) (plain : ∀ c ∈ text.toList, Plain c) :
    (jsonString text).toList = '"' :: (text.toList ++ ['"']) := by
  have itself : text.toList.flatMap jsonChar = text.toList.flatMap (fun c => [c]) := by
    apply List.flatMap_congr
    intro c member
    obtain ⟨quote, slash, printed, -⟩ := plain c member
    simp only [jsonChar, quote, slash, if_false]
    split_ifs <;> first | rfl | omega
  simp [jsonString, String.toList_append, itself]

theorem readString_plain (text rest : List Char) (plain : ∀ c ∈ text, Plain c) :
    readString (text ++ '"' :: rest) = some (text, rest) := by
  induction text with
  | nil => rfl
  | cons c text ih =>
    simp only [List.forall_mem_cons] at plain
    obtain ⟨quote, slash, printed, -⟩ := plain.1
    rw [List.cons_append, readString]
    · rw [if_neg (by omega), ih plain.2]
      rfl
    · simpa using quote
    · simp [slash]
    · simp [slash]

theorem readValue_cursor (fuel : Nat) (id : List Char) (plain : ∀ c ∈ id, Plain c) :
    readValue (fuel + 3) ("\x7b\"id\":\"".toList ++ (id ++ '"' :: ['\x7d'])) =
      some (.object [("id".toList, .text id)], []) := by
  have name : readString ("id\":\"".toList ++ (id ++ '"' :: ['\x7d'])) =
      some ("id".toList, ":\"".toList ++ (id ++ '"' :: ['\x7d'])) := by
    simp [readString]
  have value : readString (id ++ '"' :: ['\x7d']) = some (id, ['\x7d']) :=
    readString_plain id _ plain
  simp_all [readValue, readMembers, skipSpace]

theorem decode_encode :
    decodeCatalogCursor (encodeCatalogCursor ⟨Auth.binToUuid bin⟩) =
      .ok ⟨Auth.binToUuid bin⟩ := by
  have plain := binToUuid_plain bin
  have json : cursorJson ⟨Auth.binToUuid bin⟩ =
      "\x7b\"id\":\"".toList ++ ((Auth.binToUuid bin).toList ++ '"' :: ['\x7d']) := by
    simp [cursorJson, String.toList_append, jsonString_plain _ plain]
  have ascii : ∀ c ∈ cursorJson ⟨Auth.binToUuid bin⟩, c.toNat < 128 := by
    rw [json, List.forall_mem_append, List.forall_mem_append]
    exact ⟨by simp, fun c member => (plain c member).2.2.2, by simp⟩
  have parsed : parseJson (cursorJson ⟨Auth.binToUuid bin⟩) =
      some (.object [("id".toList, .text (Auth.binToUuid bin).toList)]) := by
    have enough : 2 * (cursorJson ⟨Auth.binToUuid bin⟩).length + 1 =
        2 * ((Auth.binToUuid bin).toList.length + 8) + 3 := by
      simp [json]
      omega
    rw [parseJson, enough, json, readValue_cursor _ _ plain]
    rfl
  have named : (Parsed.object [("id".toList, .text (Auth.binToUuid bin).toList)]).member "id" =
      some (.text (Auth.binToUuid bin).toList) := by
    simp [Parsed.member]
  rw [encodeCatalogCursor, decodeCatalogCursor, String.toList_ofList, Base64.decode_encode,
    utf8Text_utf8Bytes _ ascii, parsed, Option.bind_some, named]
  simp [isUuid_binToUuid]

end ErpBackend.Catalog
