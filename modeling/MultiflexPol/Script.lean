/-
This file models the script reader that the tag extractor calls on each coinbase output.
-/

import Mathlib.Data.List.Basic

namespace Multiflex.Pol

/-- A script is the byte vector behind `CScript`. -/
abbrev Script := List UInt8

def OP_PUSHDATA1 : UInt8 := 0x4c
def OP_PUSHDATA2 : UInt8 := 0x4d
def OP_PUSHDATA4 : UInt8 := 0x4e
def OP_RETURN : UInt8 := 0x6a

/-- Modelled from the spec: a push opcode's operand length, as `GetScriptOp` reads it. -/
def readPushSize (opcode : UInt8) (rest : Script) : Option (Nat × Script) :=
  if opcode < OP_PUSHDATA1 then some (opcode.toNat, rest)
  else if opcode = OP_PUSHDATA1 then
    match rest with
    | b0 :: rest => some (b0.toNat, rest)
    | _ => none
  else if opcode = OP_PUSHDATA2 then
    match rest with
    | b0 :: b1 :: rest => some (b0.toNat + 256 * b1.toNat, rest)
    | _ => none
  else
    match rest with
    | b0 :: b1 :: b2 :: b3 :: rest =>
        some (b0.toNat + 256 * b1.toNat + 65536 * b2.toNat + 16777216 * b3.toNat, rest)
    | _ => none

/-- Modelled from the spec: `CScript::GetOp`, the opcode, payload and rest, or `none`. -/
def getOp : Script → Option (UInt8 × List UInt8 × Script)
  | [] => none
  | opcode :: rest =>
    if opcode ≤ OP_PUSHDATA4 then
      match readPushSize opcode rest with
      | none => none
      | some (nSize, rest) =>
        if rest.length < nSize then none else some (opcode, rest.take nSize, rest.drop nSize)
    else some (opcode, [], rest)

end Multiflex.Pol
