/-
This file models the attribution of coinbase value to a tag's payout scripts.
-/

import MultiflexPol.AddressStatus
import Mathlib.Algebra.Ring.Int.Defs
import Mathlib.Algebra.Order.BigOperators.Group.List

namespace Multiflex.Pol

def MAX_SCRIPT_SIZE : Nat := 10000

/-- Modelled from the spec: the inherited `CScript::IsUnspendable`. -/
def isUnspendable (script : Script) : Bool :=
  (0 < script.length && script.head? == some OP_RETURN) || MAX_SCRIPT_SIZE < script.length

/-- `Tag12FromScriptPubKey`: the first `POL_TAG_LEN` bytes of the SHA-256 of the script. -/
def tag12FromScriptPubKey (script : Script) : Bytes :=
  (Sha256.hash script).take POL_TAG_LEN

/-- C++ `int64_t` addition: `none` where it overflows, which is undefined. -/
def int64Add (a b : Int) : Option Int := if FitsInt64 (a + b) then some (a + b) else none

/-- The loop body of `CoinbaseValueToTagScript`: the total after one output. -/
def payoutStep (tag : Bytes) (total : Int) (out : TxOut) : Option Int :=
  if out.nValue ≤ 0 then some total
  else if isUnspendable out.scriptPubKey then some total
  else if tag12FromScriptPubKey out.scriptPubKey = tag then int64Add total out.nValue
  else some total

def coinbaseValueToTagScript (block : Block) (tag : Bytes) : Option Int :=
  match block.vtx with
  | some coinbase :: _ => coinbase.vout.foldlM (payoutStep tag) 0
  | _ => some 0

/-- An output pays the tag: a positive value to its spendable script. -/
def paysTag (tag : Bytes) (out : TxOut) : Bool :=
  0 < out.nValue && !isUnspendable out.scriptPubKey && tag12FromScriptPubKey out.scriptPubKey == tag

theorem payoutStep_eq (tag : Bytes) (total : Int) (out : TxOut) :
    payoutStep tag total out = if paysTag tag out then int64Add total out.nValue else some total := by
  unfold payoutStep paysTag
  by_cases positive : 0 < out.nValue
  · rw [if_neg (Int.not_le.2 positive)]
    cases isUnspendable out.scriptPubKey <;> simp [positive]
  · rw [if_pos (Int.not_lt.1 positive)]
    simp [positive]

theorem valueSum_nonneg {outs : List TxOut} (values : ∀ out ∈ outs, 0 ≤ out.nValue) :
    0 ≤ (outs.map (·.nValue)).sum :=
  List.sum_nonneg fun v mem => by
    obtain ⟨out, belongs, rfl⟩ := List.mem_map.1 mem
    exact values out belongs

/-- Without negative values the tag's outputs carry no more than all. -/
theorem paidValue_le {tag : Bytes} {outs : List TxOut} (values : ∀ out ∈ outs, 0 ≤ out.nValue) :
    ((outs.filter (paysTag tag)).map (·.nValue)).sum ≤ (outs.map (·.nValue)).sum :=
  ((List.filter_sublist _).map _).sum_le_sum fun v mem => by
    obtain ⟨out, belongs, rfl⟩ := List.mem_map.1 mem
    exact values out belongs

/-- Within the money range of the whole loop, no addition overflows. -/
theorem foldlM_payoutStep_moneyRange (tag : Bytes) (outs : List TxOut) (total : Int)
    (nonneg : 0 ≤ total) (values : ∀ out ∈ outs, 0 ≤ out.nValue)
    (room : total + (outs.map (·.nValue)).sum ≤ MAX_MONEY) :
    outs.foldlM (payoutStep tag) total =
      some (total + ((outs.filter (paysTag tag)).map (·.nValue)).sum) := by
  induction outs generalizing total with
  | nil => simp
  | cons out outs inductionHypothesis =>
    have value := values out (List.mem_cons_self _ _)
    have rest := fun out mem => values out (List.mem_cons_of_mem _ mem)
    have restNonneg := valueSum_nonneg rest
    rw [List.map_cons, List.sum_cons] at room
    rw [List.foldlM_cons, payoutStep_eq, Option.bind_eq_bind]
    by_cases pays : paysTag tag out
    · rw [if_pos pays, int64Add, if_pos (by unfold FitsInt64 MAX_MONEY COIN at *; omega)]
      simp only [Option.some_bind, List.filter_cons_of_pos pays, List.map_cons, List.sum_cons]
      rw [inductionHypothesis _ (by omega) rest (by omega), Int.add_assoc]
    · rw [if_neg pays, Option.some_bind, List.filter_cons_of_neg pays,
        inductionHypothesis _ nonneg rest (by omega)]

/-- On a money-range coinbase the tag's value never overflows or exceeds the total. -/
theorem coinbaseValueToTagScript_moneyRange (block : Block) (tag : Bytes)
    (coinbase : Transaction) (later : List (Option Transaction))
    (vtx : block.vtx = some coinbase :: later) (values : ∀ out ∈ coinbase.vout, 0 ≤ out.nValue)
    (total : (coinbase.vout.map (·.nValue)).sum ≤ MAX_MONEY) :
    coinbaseValueToTagScript block tag =
        some ((coinbase.vout.filter (paysTag tag)).map (·.nValue)).sum ∧
      ((coinbase.vout.filter (paysTag tag)).map (·.nValue)).sum ≤
        (coinbase.vout.map (·.nValue)).sum := by
  refine ⟨?_, paidValue_le values⟩
  rw [coinbaseValueToTagScript, vtx]
  dsimp only
  rw [foldlM_payoutStep_moneyRange tag _ 0 le_rfl values (by omega), Int.zero_add]

/-- A coinbase paying 25 coins to one script, with a tag's marker. -/
def payoutCoinbase (script : Script) (tag : Bytes) : Transaction :=
  { vout := [{ nValue := 25 * COIN, scriptPubKey := script },
      { nValue := 0, scriptPubKey := markerScript tag }] }

theorem coinbaseValueToTagScript_moneyRange_payoutCoinbase :
    (∀ out ∈ (payoutCoinbase [0x51] [1, 2, 3, 4]).vout, 0 ≤ out.nValue) ∧
      ((payoutCoinbase [0x51] [1, 2, 3, 4]).vout.map (·.nValue)).sum ≤ MAX_MONEY ∧
      coinbaseValueToTagScript ⟨0, [some (payoutCoinbase [0x51] [1, 2, 3, 4])]⟩
          (tag12FromScriptPubKey [0x51]) =
        some (((payoutCoinbase [0x51] [1, 2, 3, 4]).vout.filter
          (paysTag (tag12FromScriptPubKey [0x51]))).map (·.nValue)).sum :=
  ⟨by decide, by decide,
    (coinbaseValueToTagScript_moneyRange ⟨0, [some (payoutCoinbase [0x51] [1, 2, 3, 4])]⟩
      (tag12FromScriptPubKey [0x51]) _ [] rfl (by decide) (by decide)).1⟩

end Multiflex.Pol
