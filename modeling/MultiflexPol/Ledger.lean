/-
This file models the loyalty ledger `g_tag_state` and its one writer, `OnConnectBlock`.
-/

import MultiflexPol.Block
import Mathlib.Logic.Function.Basic

namespace Multiflex.Pol

/-- The value fits the C++ `int` the engine computes it in. -/
def FitsInt (x : Int) : Prop := -2147483648 ≤ x ∧ x ≤ 2147483647

instance (x : Int) : Decidable (FitsInt x) := inferInstanceAs (Decidable (_ ∧ _))

/-- `MinerTagStatus`, with the defaults of its member initialisers. -/
structure MinerTagStatus where
  seen : Bool := false
  firstSeenHeight : Int := -1
  lastSeenHeight : Int := -1
  blocksSeen : UInt32 := 0
  lastSeenTime : Int := 0
  points : Int := 0
  lastSeenMonth : Int := -1
deriving DecidableEq, Repr

/-- The `-pol_*` options as `gArgs` returns them, with the source's defaults. -/
structure PolArgs where
  polStartHeight : Int := 1
  polMonthBlocks : Int := 4320
  polExtraNonce1Size : Int := 4
deriving DecidableEq, Repr

/-- `g_tag_state`: the entry of each key `HexStr(tag)`, `none` where the map has no entry. -/
def TagState := String → Option MinerTagStatus

/-- The empty map, as at process start and after `clear()`. -/
def TagState.empty : TagState := fun _ => none

/-- `std::clamp(value, low, high)`. -/
def clamp (value low high : Int) : Int :=
  if value < low then low else if high < value then high else value

theorem clamp_bounds (value : Int) : 0 ≤ clamp value 0 24 ∧ clamp value 0 24 ≤ 24 := by
  unfold clamp; split_ifs <;> omega

theorem clamp_le_max (value : Int) : clamp value 0 24 ≤ max 0 value := by
  unfold clamp; split_ifs <;> omega

def monthIndex (height monthBlocks : Int) : Int :=
  if monthBlocks ≤ 0 then 0 else if height < 0 then 0 else height.tdiv monthBlocks

theorem monthIndex_bounds (height monthBlocks : Int) :
    0 ≤ monthIndex height monthBlocks ∧ (0 ≤ height → monthIndex height monthBlocks ≤ height) := by
  unfold monthIndex
  split_ifs with nonPositive negative
  · omega
  · omega
  · rw [Int.tdiv_eq_ediv (by omega) (by omega)]
    exact ⟨Int.ediv_nonneg (by omega) (by omega), fun _ => Int.ediv_le_self _ (by omega)⟩

/-- The month of a height does not decrease as the height grows. -/
theorem monthIndex_mono {low high : Int} (monthBlocks : Int) (le : low ≤ high) :
    monthIndex low monthBlocks ≤ monthIndex high monthBlocks := by
  unfold monthIndex
  split_ifs <;> try omega
  · exact (monthIndex_bounds high monthBlocks).1.trans_eq (by simp [monthIndex, *])
  · rw [Int.tdiv_eq_ediv (by omega) (by omega), Int.tdiv_eq_ediv (by omega) (by omega)]
    exact Int.ediv_le_ediv (by omega) le

/-- What `OnConnectBlock` does to the entry `s` of the block's tag. -/
def connectStatus (s : MinerTagStatus) (height blockTime curMonth : Int) : MinerTagStatus :=
  let accrued :=
    if !s.seen then
      { s with
        seen := true
        firstSeenHeight := height
        lastSeenMonth := curMonth
        points := clamp (s.points + 2) 0 24 }
    else if curMonth > s.lastSeenMonth then
      let missed := curMonth - s.lastSeenMonth - 1
      let points := if missed > 0 then s.points - missed * 1 else s.points
      { s with points := clamp (points + 2) 0 24, lastSeenMonth := curMonth }
    else s
  { accrued with
    lastSeenHeight := height
    lastSeenTime := blockTime
    blocksSeen := accrued.blocksSeen + 1 }

/-- The first sighting of a tag, from the default entry. -/
theorem connectStatus_default (height blockTime curMonth : Int) :
    connectStatus {} height blockTime curMonth =
      { seen := true, firstSeenHeight := height, lastSeenHeight := height, blocksSeen := 1,
        lastSeenTime := blockTime, points := 2, lastSeenMonth := curMonth } := rfl

/-- A later month costs a point per month missed and earns two. -/
theorem connectStatus_newMonth {s : MinerTagStatus} {height blockTime curMonth : Int}
    (seen : s.seen = true) (later : s.lastSeenMonth < curMonth) :
    connectStatus s height blockTime curMonth =
      { s with
        points := clamp (s.points - (curMonth - s.lastSeenMonth - 1) + 2) 0 24
        lastSeenMonth := curMonth
        lastSeenHeight := height
        lastSeenTime := blockTime
        blocksSeen := s.blocksSeen + 1 } := by
  have missed : (if curMonth - s.lastSeenMonth - 1 > 0
      then s.points - (curMonth - s.lastSeenMonth - 1) * 1 else s.points) =
      s.points - (curMonth - s.lastSeenMonth - 1) := by split_ifs <;> omega
  simp only [connectStatus, seen, Bool.not_true, Bool.false_eq_true, ↓reduceIte, gt_iff_lt, later,
    missed]

/-- A block in a month already accrued earns nothing. -/
theorem connectStatus_sameMonth {s : MinerTagStatus} {height blockTime curMonth : Int}
    (seen : s.seen = true) (notLater : curMonth ≤ s.lastSeenMonth) :
    connectStatus s height blockTime curMonth =
      { s with
        lastSeenHeight := height
        lastSeenTime := blockTime
        blocksSeen := s.blocksSeen + 1 } := by
  simp only [connectStatus, seen, Bool.not_true, Bool.false_eq_true, ↓reduceIte, gt_iff_lt,
    Int.not_lt.2 notLater]

/-- The `int` values the update computes from the entry, in the source's order. -/
def connectIntermediates (s : MinerTagStatus) (curMonth : Int) : List Int :=
  if !s.seen then [s.points + 2]
  else if curMonth > s.lastSeenMonth then
    let missed := curMonth - s.lastSeenMonth - 1
    let points := if missed > 0 then s.points - missed * 1 else s.points
    [curMonth - s.lastSeenMonth, missed, missed * 1, points, points + 2]
  else []

def onConnectBlock (args : PolArgs) (block : Block) (height blockTime : Int)
    (state : TagState) : TagState :=
  if height < args.polStartHeight then state
  else
    match extractMinerTagFromBlock block with
    | none => state
    | some tag =>
      let key := hexStr tag
      let curMonth := monthIndex height args.polMonthBlocks
      Function.update state key
        (some (connectStatus ((state key).getD {}) height blockTime curMonth))

/-- `GetMinerTagStatus`: a `find`, so a query never inserts an entry. -/
def getMinerTagStatus (state : TagState) (tag : Bytes) : Option MinerTagStatus :=
  state (hexStr tag)

/-- The key an `OnConnectBlock` call writes, if it writes one. -/
def creditedKey (args : PolArgs) (block : Block) (height : Int) : Option String :=
  if height < args.polStartHeight then none else (extractMinerTagFromBlock block).map hexStr

/-- A call writes `tag`'s key exactly when it is started and carries `tag`. -/
theorem creditedKey_eq_hexStr_iff (args : PolArgs) (block : Block) (height : Int) (tag : Bytes) :
    creditedKey args block height = some (hexStr tag) ↔
      args.polStartHeight ≤ height ∧ extractMinerTagFromBlock block = some tag := by
  unfold creditedKey
  split_ifs with early
  · simp only [reduceCtorEq, false_iff, not_and]
    intro late; omega
  · simp only [Option.map_eq_some']
    constructor
    · rintro ⟨found, extracted, same⟩
      exact ⟨by omega, hexStr_injective same ▸ extracted⟩
    · rintro ⟨-, extracted⟩
      exact ⟨tag, extracted, rfl⟩

/-- The one entry a connection writes, given what the map held for its key. -/
def connectEntry (args : PolArgs) (height blockTime : Int)
    (entry : Option MinerTagStatus) : Option MinerTagStatus :=
  some (connectStatus (entry.getD {}) height blockTime (monthIndex height args.polMonthBlocks))

/-- Everything a call to `OnConnectBlock` can do: write its credited key, and nothing else. -/
theorem onConnectBlock_apply (args : PolArgs) (block : Block) (height blockTime : Int)
    (state : TagState) (key : String) :
    onConnectBlock args block height blockTime state key =
      if creditedKey args block height = some key then
        connectEntry args height blockTime (state key)
      else state key := by
  unfold onConnectBlock creditedKey connectEntry
  split_ifs with early credited credited
  · simp at credited
  · rfl
  · cases tag : extractMinerTagFromBlock block with
    | none => simp [tag] at credited
    | some t =>
      simp only [tag, Option.map_some', Option.some.injEq] at credited
      subst credited
      simp
  · cases tag : extractMinerTagFromBlock block with
    | none => rfl
    | some t =>
      simp only [tag, Option.map_some', Option.some.injEq] at credited
      simp [Function.update_noteq (Ne.symm credited)]

/-- One call `OnConnectBlock(block, height, block_time)` with its options. -/
structure ConnectCall where
  args : PolArgs
  block : Block
  height : Int
  blockTime : Int
  heightFits : FitsInt height

def ConnectCall.apply (call : ConnectCall) (state : TagState) : TagState :=
  onConnectBlock call.args call.block call.height call.blockTime state

def ConnectCall.key (call : ConnectCall) : Option String :=
  creditedKey call.args call.block call.height

def ConnectCall.month (call : ConnectCall) : Int :=
  monthIndex call.height call.args.polMonthBlocks

def ConnectCall.entry (call : ConnectCall) (entry : Option MinerTagStatus) :
    Option MinerTagStatus :=
  connectEntry call.args call.height call.blockTime entry

theorem ConnectCall.entry_eq (call : ConnectCall) (entry : Option MinerTagStatus) :
    call.entry entry =
      some (connectStatus (entry.getD {}) call.height call.blockTime call.month) := rfl

/-- The ledger after a run of calls, the first call first. -/
def connectAll (calls : List ConnectCall) (state : TagState) : TagState :=
  calls.foldl (fun state call => call.apply state) state

theorem connectAll_append (first second : List ConnectCall) (state : TagState) :
    connectAll (first ++ second) state = connectAll second (connectAll first state) :=
  List.foldl_append _ _ _ _

/-- The calls of a run credited to a key, in order. -/
def creditedCalls (calls : List ConnectCall) (key : String) : List ConnectCall :=
  calls.filter fun call => call.key = some key

/-- The single-entry update, folded from an existing entry. -/
theorem foldl_entry_some (calls : List ConnectCall) (s : MinerTagStatus) :
    calls.foldl (fun entry call => call.entry entry) (some s) =
      some (calls.foldl (fun s call => connectStatus s call.height call.blockTime call.month) s) := by
  induction calls generalizing s with
  | nil => rfl
  | cons call calls inductionHypothesis => exact inductionHypothesis _

/-- An entry is the fold of the update over the calls credited to its key. -/
theorem connectAll_entry (calls : List ConnectCall) (state : TagState) (key : String) :
    connectAll calls state key =
      (creditedCalls calls key).foldl (fun entry call => call.entry entry) (state key) := by
  induction calls generalizing state with
  | nil => rfl
  | cons call calls inductionHypothesis =>
    simp only [connectAll, List.foldl_cons] at inductionHypothesis ⊢
    rw [inductionHypothesis, creditedCalls, creditedCalls, List.filter_cons]
    have step := onConnectBlock_apply call.args call.block call.height call.blockTime state key
    simp only [ConnectCall.apply, ConnectCall.key, ConnectCall.entry] at step ⊢
    split_ifs with credited <;> simp_all [creditedCalls]

end Multiflex.Pol
