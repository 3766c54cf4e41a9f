/-
This file models blocks and the extraction of a miner tag from the coinbase marker.
-/

import MultiflexPol.Script
import MultiflexPol.Hex

namespace Multiflex.Pol

structure TxOut where
  nValue : Int
  scriptPubKey : Script

structure Transaction where
  vout : List TxOut

/-- A block: its header time and transactions, each a pointer that may be null. -/
structure Block where
  nTime : UInt32
  vtx : List (Option Transaction)

/-- `GetBlockTime`: the header time widened to `int64_t`. -/
def Block.getBlockTime (block : Block) : Int := block.nTime.toNat

/-- The ASCII bytes of `MFLEXID`. -/
def kMflexId : Bytes := [77, 70, 76, 69, 88, 73, 68]

example : kMflexId = "MFLEXID".toList.map fun c => c.toNat.toUInt8 := by decide

/-- `std::equal(first1, last1, first2)`, which the length guard keeps in range. -/
def stdEqual : (first second : Bytes) → first.length ≤ second.length → Bool
  | [], _, _ => true
  | a :: first, b :: second, long => a == b && stdEqual first second (Nat.le_of_succ_le_succ long)
  | _ :: _, [], long => absurd long (Nat.not_succ_le_zero _)

/-- The loop body of `ExtractMinerTagFromBlock`: one output's tag, or `none`. -/
def outputMinerTag (spk : Script) : Option Bytes :=
  match getOp spk with
  | none => none
  | some (op, _, rest) =>
    if op ≠ OP_RETURN then none else
    match getOp rest with
    | none => none
    | some (_, push, _) =>
      if short : push.length < kMflexId.length + 4 then none
      else if !stdEqual kMflexId push (by omega) then none
      else
        let tagLen := push.length - kMflexId.length
        if tagLen = 4 ∨ tagLen = 8 ∨ tagLen = 12 then some (push.drop kMflexId.length) else none

def extractMinerTagFromBlock (block : Block) : Option Bytes :=
  match block.vtx with
  | some coinbase :: _ =>
    if coinbase.vout.isEmpty then none
    else coinbase.vout.findSome? fun out => outputMinerTag out.scriptPubKey
  | _ => none

theorem stdEqual_iff {first second : Bytes} (long : first.length ≤ second.length) :
    stdEqual first second long = true ↔ first <+: second := by
  induction first generalizing second with
  | nil => simp [stdEqual]
  | cons a first inductionHypothesis =>
    cases second with
    | nil => exact absurd long (Nat.not_succ_le_zero _)
    | cons b second =>
      simp [stdEqual, inductionHypothesis, List.cons_prefix_cons]

/-- A script of `OP_RETURN`, then pushes of `MFLEXID` and a 4, 8 or 12-byte tag. -/
def CarriesTag (spk : Script) (tag : Bytes) : Prop :=
  ∃ data rest pushOp after, getOp spk = some (OP_RETURN, data, rest) ∧
    getOp rest = some (pushOp, kMflexId ++ tag, after) ∧
    (tag.length = 4 ∨ tag.length = 8 ∨ tag.length = 12)

/-- The payload checks accept exactly the marker and a 4, 8 or 12-byte tag. -/
theorem payloadTag_eq_some (push tag : Bytes) :
    (if short : push.length < kMflexId.length + 4 then none
      else if !stdEqual kMflexId push (by omega) then none
      else if push.length - kMflexId.length = 4 ∨ push.length - kMflexId.length = 8 ∨
        push.length - kMflexId.length = 12 then some (push.drop kMflexId.length) else none) =
        some tag ↔
      push = kMflexId ++ tag ∧ (tag.length = 4 ∨ tag.length = 8 ∨ tag.length = 12) := by
  have marker : kMflexId.length = 7 := rfl
  constructor
  · intro accepted
    split_ifs at accepted with short mismatch sized
    obtain ⟨rest, rfl⟩ := (stdEqual_iff _).1 (by simpa using mismatch)
    simp only [List.length_append, Nat.add_sub_cancel_left] at sized
    simp only [Option.some.injEq, List.drop_left] at accepted
    exact ⟨accepted ▸ rfl, accepted ▸ sized⟩
  · rintro ⟨rfl, sized⟩
    rw [dif_neg (by simp only [List.length_append]; omega),
      if_neg (by simpa using (stdEqual_iff _).2 (List.prefix_append _ _)),
      if_pos (by simpa using sized), List.drop_left]

theorem outputMinerTag_eq_some (spk : Script) (tag : Bytes) :
    outputMinerTag spk = some tag ↔ CarriesTag spk tag := by
  unfold outputMinerTag CarriesTag
  split
  · next first => simp [first]
  · next op data rest first =>
    by_cases marker : op = OP_RETURN
    · subst marker
      rw [if_neg (not_not.2 rfl)]
      split
      · next second => simp [first, second]
      · next pushOp push after second =>
        rw [payloadTag_eq_some]
        constructor
        · rintro ⟨rfl, sized⟩
          exact ⟨data, rest, pushOp, after, first, second, sized⟩
        · rintro ⟨data', rest', pushOp', after', first', second', sized⟩
          simp only [first, Option.some.injEq, Prod.mk.injEq, true_and] at first'
          simp only [← first'.2, second, Option.some.injEq, Prod.mk.injEq] at second'
          exact ⟨second'.2.1, sized⟩
    · simp [first, marker]

/-- `ExtractMinerTagFromBlock` returns the tag of the first coinbase output carrying one. -/
theorem extractMinerTagFromBlock_eq_some (block : Block) (tag : Bytes) :
    extractMinerTagFromBlock block = some tag ↔
      ∃ coinbase later, block.vtx = some coinbase :: later ∧
        ∃ before out after, coinbase.vout = before ++ out :: after ∧
          (∀ skipped ∈ before, ∀ other, ¬ CarriesTag skipped.scriptPubKey other) ∧
          CarriesTag out.scriptPubKey tag := by
  unfold extractMinerTagFromBlock
  split
  · next coinbase later vtx =>
    have found : (coinbase.vout.isEmpty = false ∧ coinbase.vout.findSome?
        (fun out => outputMinerTag out.scriptPubKey) = some tag) ↔
        ∃ before out after, coinbase.vout = before ++ out :: after ∧
          (∀ skipped ∈ before, ∀ other, ¬ CarriesTag skipped.scriptPubKey other) ∧
          CarriesTag out.scriptPubKey tag := by
      simp only [List.findSome?_eq_some_iff, ← outputMinerTag_eq_some]
      constructor
      · rintro ⟨-, before, out, after, split, found, skipped⟩
        exact ⟨before, out, after, split, fun x mem other => by simp [skipped x mem], found⟩
      · rintro ⟨before, out, after, split, skipped, found⟩
        refine ⟨by simp [split], before, out, after, split, found, fun x mem => ?_⟩
        cases carried : outputMinerTag x.scriptPubKey with
        | none => rfl
        | some other => exact absurd carried (skipped x mem other)
    simp only [vtx, List.cons.injEq, Option.some.injEq, and_assoc, exists_and_left,
      exists_eq_left', exists_eq_left, ← found]
    split_ifs with empty <;> simp [empty]
  · next noCoinbase =>
    constructor
    · intro found; cases found
    · rintro ⟨coinbase, later, vtx, -⟩
      exact absurd vtx (noCoinbase coinbase later)

/-- The marker output the mining pool writes: `OP_RETURN <push: "MFLEXID" + tag>`. -/
def markerScript (tag : Bytes) : Script :=
  OP_RETURN :: UInt8.ofNat (kMflexId ++ tag).length :: (kMflexId ++ tag)

/-- A block whose coinbase pays nothing and carries the marker of `tag`. -/
def markerBlock (tag : Bytes) (nTime : UInt32) : Block :=
  { nTime, vtx := [some { vout := [{ nValue := 0, scriptPubKey := markerScript tag }] }] }

end Multiflex.Pol
