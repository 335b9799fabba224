import Mathlib

/-!
# base64url

Three bytes are four digits. The reader takes the digits of either alphabet, passes over anything
else and stops at padding.
-/

namespace ErpBackend.Foundation.Base64

def alphabet : List Char :=
  "ABCDEFGHIJKLMNOPQRSTUVWXYZabcdefghijklmnopqrstuvwxyz0123456789-_".toList

def digit (sextet : Nat) : Char := alphabet.getD sextet 'A'

def digitValue (c : Char) : Option Nat :=
  if c = '+' then some 62
  else if c = '/' then some 63
  else alphabet.idxOf? c

def sextets : List Nat → List Nat
  | a :: b :: c :: rest =>
      a / 4 :: (a % 4 * 16 + b / 16) :: (b % 16 * 4 + c / 64) :: c % 64 :: sextets rest
  | [a, b] => [a / 4, a % 4 * 16 + b / 16, b % 16 * 4]
  | [a] => [a / 4, a % 4 * 16]
  | [] => []

def octets : List Nat → List Nat
  | w :: x :: y :: z :: rest =>
      (w * 4 + x / 16) :: (x % 16 * 16 + y / 4) :: (y % 4 * 64 + z) :: octets rest
  | [w, x, y] => [w * 4 + x / 16, x % 16 * 16 + y / 4]
  | [w, x] => [w * 4 + x / 16]
  | [_] => []
  | [] => []

def encode (bytes : List UInt8) : List Char := (sextets (bytes.map UInt8.toNat)).map digit

def decode (text : List Char) : List UInt8 :=
  (octets ((text.takeWhile (· ≠ '=')).filterMap digitValue)).map UInt8.ofNat

theorem digitValue_digit : ∀ sextet < 64, digitValue (digit sextet) = some sextet := by
  decide +kernel

theorem digit_unpadded : ∀ sextet < 64, digit sextet ≠ '=' := by
  decide +kernel

theorem sextets_lt (bytes : List Nat) (small : ∀ a ∈ bytes, a < 256) :
    ∀ sextet ∈ sextets bytes, sextet < 64 := by
  fun_induction sextets bytes with
  | case1 a b c rest ih =>
    simp only [List.forall_mem_cons] at small ⊢
    have later := ih small.2.2.2
    exact ⟨by omega, by omega, by omega, by omega, later⟩
  | case2 a b =>
    simp only [List.forall_mem_cons] at small ⊢
    exact ⟨by omega, by omega, by omega, by simp⟩
  | case3 a =>
    simp only [List.forall_mem_cons] at small ⊢
    exact ⟨by omega, by omega, by simp⟩
  | case4 => simp

theorem octets_sextets (bytes : List Nat) (small : ∀ a ∈ bytes, a < 256) :
    octets (sextets bytes) = bytes := by
  fun_induction sextets bytes with
  | case1 a b c rest ih =>
    simp only [List.forall_mem_cons] at small
    rw [octets, ih small.2.2.2]
    congr 1
    · omega
    · congr 1
      · omega
      · congr 1
        omega
  | case2 a b =>
    simp only [List.forall_mem_cons] at small
    simp only [octets, List.cons.injEq, and_true]
    exact ⟨by omega, by omega⟩
  | case3 a =>
    simp only [octets, List.cons.injEq, and_true]
    omega
  | case4 => rfl

theorem values_digits (values : List Nat) (small : ∀ value ∈ values, value < 64) :
    ((values.map digit).takeWhile (· ≠ '=')).filterMap digitValue = values := by
  induction values with
  | nil => rfl
  | cons value values ih =>
    simp only [List.forall_mem_cons] at small
    have unpadded := digit_unpadded value small.1
    simpa [unpadded, digitValue_digit value small.1] using ih small.2

theorem decode_encode (bytes : List UInt8) : decode (encode bytes) = bytes := by
  have small : ∀ a ∈ bytes.map UInt8.toNat, a < 256 := by
    intro a member
    obtain ⟨byte, -, rfl⟩ := List.mem_map.mp member
    exact byte.toNat_lt
  rw [decode, encode, values_digits _ (sextets_lt _ small), octets_sextets _ small, List.map_map]
  simp [Function.comp_def]

end ErpBackend.Foundation.Base64
