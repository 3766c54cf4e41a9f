/-
This file models the hex encoding of ledger keys and the RPC hex parsing.
-/

import Mathlib.Data.List.Basic

namespace Multiflex.Pol

/-- A miner tag, or any byte vector the engine hashes or compares. -/
abbrev Bytes := List UInt8

/-- The digit `HexStr` writes for a nibble. -/
def hexChar (nibble : Nat) : Char := "0123456789abcdef".toList.getD nibble '0'

/-- The characters of `HexStr`: two per byte, high nibble first. -/
def hexChars (bytes : Bytes) : List Char :=
  bytes.flatMap fun byte => [hexChar (byte.toNat / 16), hexChar (byte.toNat % 16)]

/-- Modelled from the spec: the inherited `HexStr`, two lowercase digits a byte. -/
def hexStr (bytes : Bytes) : String := String.mk (hexChars bytes)

/-- Modelled from the spec: `HexDigit`, `none` where the table holds `-1`. -/
def hexDigit (c : Char) : Option Nat :=
  if '0' ≤ c ∧ c ≤ '9' then some (c.toNat - '0'.toNat)
  else if 'a' ≤ c ∧ c ≤ 'f' then some (c.toNat - 'a'.toNat + 10)
  else if 'A' ≤ c ∧ c ≤ 'F' then some (c.toNat - 'A'.toNat + 10)
  else none

theorem hexDigit_hexChar : ∀ nibble : Fin 16, hexDigit (hexChar nibble) = some nibble := by
  decide

theorem hexChar_injective {a b : Nat} (aSmall : a < 16) (bSmall : b < 16)
    (same : hexChar a = hexChar b) : a = b := by
  have decoded := hexDigit_hexChar ⟨a, aSmall⟩
  rw [show hexChar (⟨a, aSmall⟩ : Fin 16) = hexChar (⟨b, bSmall⟩ : Fin 16) from same,
    hexDigit_hexChar] at decoded
  exact (Option.some.inj decoded).symm

theorem byte_eq_of_nibbles {x y : UInt8} (high : x.toNat / 16 = y.toNat / 16)
    (low : x.toNat % 16 = y.toNat % 16) : x = y := by
  apply UInt8.eq_of_val_eq
  apply Fin.ext
  change x.toNat = y.toNat
  omega

theorem hexChars_injective {x y : Bytes} (same : hexChars x = hexChars y) : x = y := by
  induction x generalizing y with
  | nil => cases y <;> simp_all [hexChars]
  | cons a x inductionHypothesis =>
    cases y with
    | nil => simp [hexChars] at same
    | cons b y =>
      simp only [hexChars, List.flatMap_cons, List.cons_append, List.nil_append,
        List.cons.injEq] at same
      obtain ⟨high, low, rest⟩ := same
      have small (byte : UInt8) : byte.toNat / 16 < 16 ∧ byte.toNat % 16 < 16 :=
        ⟨by have := byte.toBitVec.isLt; change byte.toNat < 256 at this; omega,
          Nat.mod_lt _ (by decide)⟩
      rw [byte_eq_of_nibbles (hexChar_injective (small a).1 (small b).1 high)
        (hexChar_injective (small a).2 (small b).2 low), inductionHypothesis rest]

/-- Distinct tags of any lengths get distinct ledger keys. -/
theorem hexStr_injective {x y : Bytes} (same : hexStr x = hexStr y) : x = y :=
  hexChars_injective (congrArg String.data same)

end Multiflex.Pol
