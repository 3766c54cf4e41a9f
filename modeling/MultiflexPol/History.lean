/-
This file shows that a tag's entry depends on its own connections alone.
-/

import MultiflexPol.Ledger

namespace Multiflex.Pol

/-- An operation on the ledger: a block connection, or a query that reads it. -/
inductive LedgerOp
  | connect (call : ConnectCall)
  | status (tag : Bytes)
  | allowedSubsidy (tag : Bytes) (height : Int)

/-- The ledger after an operation: the queries only `find` in it. -/
def LedgerOp.apply : LedgerOp → TagState → TagState
  | .connect call, state => call.apply state
  | .status _, state => state
  | .allowedSubsidy _ _, state => state

def runOps (ops : List LedgerOp) (state : TagState) : TagState :=
  ops.foldl (fun state op => op.apply state) state

/-- The connections among the operations, in order. -/
def connections (ops : List LedgerOp) : List ConnectCall :=
  ops.filterMap fun
    | .connect call => some call
    | _ => none

/-- The connections at or above the start height whose block carries exactly `tag`. -/
def creditsOf (tag : Bytes) (ops : List LedgerOp) : List ConnectCall :=
  (connections ops).filter fun call =>
    call.args.polStartHeight ≤ call.height ∧ extractMinerTagFromBlock call.block = some tag

theorem runOps_eq_connectAll (ops : List LedgerOp) (state : TagState) :
    runOps ops state = connectAll (connections ops) state := by
  induction ops generalizing state with
  | nil => rfl
  | cons op ops inductionHypothesis =>
    cases op <;> simp [runOps, LedgerOp.apply, connections, connectAll] at inductionHypothesis ⊢ <;>
      exact inductionHypothesis _

/-- A call is credited to `tag`'s key exactly when its block carries `tag`. -/
theorem key_eq_hexStr_iff (call : ConnectCall) (tag : Bytes) :
    call.key = some (hexStr tag) ↔
      call.args.polStartHeight ≤ call.height ∧ extractMinerTagFromBlock call.block = some tag :=
  creditedKey_eq_hexStr_iff call.args call.block call.height tag

theorem creditedCalls_hexStr (ops : List LedgerOp) (tag : Bytes) :
    creditedCalls (connections ops) (hexStr tag) = creditsOf tag ops := by
  unfold creditedCalls creditsOf
  congr
  funext call
  simp only [key_eq_hexStr_iff]

/-- A tag's entry is the fold over exactly the connections that credit it. -/
theorem getMinerTagStatus_runOps (ops : List LedgerOp) (tag : Bytes) :
    getMinerTagStatus (runOps ops TagState.empty) tag =
      match creditsOf tag ops with
      | [] => none
      | credits =>
        some (credits.foldl (fun s call => connectStatus s call.height call.blockTime call.month) {}) := by
  rw [getMinerTagStatus, runOps_eq_connectAll, connectAll_entry, creditedCalls_hexStr]
  cases creditsOf tag ops with
  | nil => rfl
  | cons call calls => exact foldl_entry_some calls _

end Multiflex.Pol
