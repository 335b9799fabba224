import ErpBackend.Common

/-!
# TokensService and HashingService

A refresh token is `<sessionId>.<secret>`; only a hash of the secret is stored. The
random source and Argon2 are parameters.
-/

namespace ErpBackend.Auth

/-- `randomBytes`, numbered by the draw, and Argon2id, salted by the draw. -/
structure Hashing where
  generate : Nat → String
  generate_injective : Function.Injective generate
  hash : Nat → String → String
  verify : String → String → Bool
  verify_hash : ∀ salt plain typed, verify (hash salt plain) typed = true ↔ typed = plain

def plainHashing : Hashing where
  generate k := String.ofList (List.replicate k 'a')
  generate_injective := by
    intro k l same
    have lengths := congrArg (fun text => text.toList.length) same
    simpa using lengths
  hash _ plain := plain
  verify hash typed := hash = typed
  verify_hash _ plain typed := by
    rw [decide_eq_true_iff]
    exact eq_comm

def isHexDigit (c : Char) : Bool :=
  ('0' ≤ c && c ≤ '9') || ('a' ≤ c && c ≤ 'f') || ('A' ≤ c && c ≤ 'F')

/-- `uuidToBin`, where the text is one: thirty-two digits between any dashes. -/
def uuidToBin? (text : String) : Option Id :=
  let hex := text.toList.filter (· != '-')
  if hex.length = 32 ∧ hex.all isHexDigit then some (uuidToBin text) else none

/-- The canonical form: dashes after eight, twelve, sixteen and twenty digits. -/
def isUuid (text : String) : Bool :=
  text.toList.length = 36 ∧ text.toList.zipIdx.all (fun (c, place) =>
    if place ∈ [8, 13, 18, 23] then c = '-' else isHexDigit c)

/-- The last `count` hexadecimal digits. -/
def hexDigits : Nat → Nat → List Char
  | 0, _ => []
  | count + 1, value => hexDigits count (value / 16) ++ [Nat.digitChar (value % 16)]

def binToUuid (bin : Id) : String :=
  let hex := hexDigits 32 bin
  String.ofList (hex.take 8 ++ '-' :: (hex.drop 8).take 4 ++ '-' :: (hex.drop 12).take 4 ++
    '-' :: (hex.drop 16).take 4 ++ '-' :: hex.drop 20)

example : binToUuid 255 = "00000000-0000-0000-0000-0000000000ff" := by decide +kernel

structure RefreshToken where
  sessionId : String
  secret : String
  deriving DecidableEq

def buildRefreshToken (sessionId secret : String) : String := sessionId ++ "." ++ secret

def parseRefreshToken (token : String) : Option RefreshToken :=
  let sessionId := token.toList.takeWhile (· != '.')
  match token.toList.drop sessionId.length with
  | [] => none
  | _ :: secret =>
      if sessionId.isEmpty || secret.isEmpty then none
      else some ⟨String.ofList sessionId, String.ofList secret⟩

structure AccessTokenPayload where
  sub : Id
  companyId : Id
  sid : Id
  deriving DecidableEq

end ErpBackend.Auth
