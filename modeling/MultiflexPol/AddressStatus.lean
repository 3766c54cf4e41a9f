/-
This file models `getpoladdressstatus` and its two ledger reads while blocks connect.
-/

import MultiflexPol.Rpc
import MultiflexPol.Level
import MultiflexPol.Sha256
import MultiflexPol.Accrual

namespace Multiflex.Pol

def POL_TAG_LEN : Nat := 12

/-- `StripWorkerSuffix`: the address up to its first `.`. -/
def stripWorkerSuffix (s : String) : String := String.mk (s.data.takeWhile (· ≠ '.'))

/-- `Tag12FromAddressString`: 12 bytes of the SHA-256 of the stripped address. -/
def tag12FromAddressString (addrIn : String) : Bytes :=
  let addr := stripWorkerSuffix addrIn
  (Sha256.hash addr.toUTF8.data.toList).take POL_TAG_LEN

theorem length_tag12FromAddressString (addrIn : String) :
    (tag12FromAddressString addrIn).length = 12 := by
  simp [tag12FromAddressString, Sha256.length_hash, POL_TAG_LEN]

/-! ### The worker suffix -/

/-- `StripWorkerSuffix` on the `std::string` bytes: those before the first `'.'`. -/
def stripWorkerSuffixBytes (bytes : List UInt8) : List UInt8 := bytes.takeWhile (· ≠ 46)

/-- A byte with its top bit set is not `'.'`. -/
theorem or_highBit_ne_dot (y : UInt8) {k : UInt8} (high : k.toNat.testBit 7 = true) :
    y ||| k ≠ 46 := by
  intro dot
  have set : (y ||| k).toNat.testBit 7 = true := by
    change (y.toBitVec ||| k.toBitVec).toNat.testBit 7 = true
    rw [BitVec.toNat_or, Nat.testBit_or]
    exact Bool.or_eq_true_iff.2 (.inr high)
  rw [dot] at set
  exact absurd set (by decide)

/-- Only the character `'.'` encodes to a UTF-8 byte `'.'`. -/
theorem utf8EncodeChar_ne_dot {c : Char} (notDot : c ≠ '.') :
    ∀ b ∈ String.utf8EncodeChar c, b ≠ 46 := by
  intro b mem
  unfold String.utf8EncodeChar at mem
  dsimp only at mem
  split_ifs at mem with ascii
  · rw [List.mem_singleton] at mem
    subst mem
    intro dot
    have small : c.val.toNat < UInt8.size := by
      have := @UInt32.toNat_le_of_le _ 127 (by decide) ascii
      unfold UInt8.size; omega
    have same := congrArg UInt8.toNat dot
    rw [UInt32.toUInt8, Nat.toUInt8, UInt8.toNat_ofNat_of_lt small] at same
    exact notDot (Char.ext (UInt32.toNat.inj same))
  all_goals
    simp only [List.mem_cons, List.not_mem_nil, or_false] at mem
    rcases mem with rfl | rfl | rfl | rfl <;> exact or_highBit_ne_dot _ (by decide)

/-- Cutting characters at the first `'.'` cuts the bytes at the first 46. -/
theorem toUTF8_stripWorkerSuffix (s : String) :
    (stripWorkerSuffix s).toUTF8.data.toList = stripWorkerSuffixBytes s.toUTF8.data.toList := by
  obtain ⟨chars⟩ := s
  change (chars.takeWhile (· ≠ '.')).flatMap String.utf8EncodeChar =
    (chars.flatMap String.utf8EncodeChar).takeWhile (· ≠ 46)
  induction chars with
  | nil => rfl
  | cons c chars inductionHypothesis =>
    by_cases dot : c = '.'
    · subst dot
      rfl
    · rw [@List.takeWhile_cons_of_pos _ (fun c => decide (c ≠ '.')) c chars (decide_eq_true dot),
        List.flatMap_cons, List.flatMap_cons, List.takeWhile_append_of_pos
        fun b mem => decide_eq_true (utf8EncodeChar_ne_dot dot b mem), inductionHypothesis]

theorem noDot_decide {a : List Char} (noDot : '.' ∉ a) : ∀ c ∈ a, decide (c ≠ '.') = true :=
  fun c mem => decide_eq_true fun (dot : c = '.') => noDot (dot ▸ mem)

theorem stripWorkerSuffix_of_noDot {a : String} (noDot : '.' ∉ a.data) :
    stripWorkerSuffix a = a :=
  congrArg String.mk (List.takeWhile_eq_self_iff.2 (noDot_decide noDot))

theorem stripWorkerSuffix_append_dot {a : String} (w : String) (noDot : '.' ∉ a.data) :
    stripWorkerSuffix (a ++ "." ++ w) = a := by
  simp only [stripWorkerSuffix, String.data_append, List.append_assoc]
  rw [List.takeWhile_append_of_pos (noDot_decide noDot)]
  simp

/-- The stripped address is the part before the first `.`, or all of it. -/
theorem stripWorkerSuffix_prefix (s : String) :
    '.' ∉ (stripWorkerSuffix s).data ∧
      (stripWorkerSuffix s = s ∨ ∃ w, s = stripWorkerSuffix s ++ "." ++ w) := by
  refine ⟨fun dot => by simpa using List.mem_takeWhile_imp dot, ?_⟩
  have split := List.takeWhile_append_dropWhile (fun c => decide (c ≠ '.')) s.data
  cases rest : s.data.dropWhile (fun c => decide (c ≠ '.')) with
  | nil =>
    rw [rest, List.append_nil] at split
    exact .inl (congrArg String.mk split)
  | cons dot after =>
    have stop := List.head_dropWhile_not (fun c => decide (c ≠ '.')) s.data
      (by rw [rest]; exact List.cons_ne_nil _ _)
    simp only [rest, List.head_cons, decide_eq_false_iff_not, not_not] at stop
    rw [rest, stop] at split
    exact .inr ⟨⟨after⟩, String.ext (by simpa [stripWorkerSuffix] using split.symm)⟩

theorem tag12FromAddressString_of_strip {s t : String}
    (same : stripWorkerSuffix s = stripWorkerSuffix t) :
    tag12FromAddressString s = tag12FromAddressString t :=
  congrArg (fun addr : String => (Sha256.hash addr.toUTF8.data.toList).take POL_TAG_LEN) same

/-- Every worker `a.w` of an address `a` has the tag of `a`. -/
theorem tag12FromAddressString_workerSuffix :
    (∀ a w : String, '.' ∉ a.data →
      tag12FromAddressString (a ++ "." ++ w) = tag12FromAddressString a ∧
        (tag12FromAddressString a).length = 12) ∧
    ∀ s : String, stripWorkerSuffix (stripWorkerSuffix s) = stripWorkerSuffix s ∧
      '.' ∉ (stripWorkerSuffix s).data ∧
      (stripWorkerSuffix s = s ∨ ∃ w, s = stripWorkerSuffix s ++ "." ++ w) ∧
      tag12FromAddressString (stripWorkerSuffix s) = tag12FromAddressString s := by
  refine ⟨fun a w noDot => ⟨tag12FromAddressString_of_strip ?_, length_tag12FromAddressString a⟩,
    fun s => ?_⟩
  · rw [stripWorkerSuffix_append_dot w noDot, stripWorkerSuffix_of_noDot noDot]
  · obtain ⟨noDot, cut⟩ := stripWorkerSuffix_prefix s
    have idempotent := stripWorkerSuffix_of_noDot noDot
    exact ⟨idempotent, noDot, cut, tag12FromAddressString_of_strip idempotent⟩

theorem tag12FromAddressString_workerSuffix_rigs :
    '.' ∉ "maddr".data ∧
      tag12FromAddressString ("maddr" ++ "." ++ "rig.7") = tag12FromAddressString "maddr" :=
  ⟨by decide, (tag12FromAddressString_workerSuffix.1 "maddr" "rig.7" (by decide)).1⟩

/-- The bytes `StripWorkerSuffix` keeps encode the address up to its first `.`. -/
theorem stripWorkerSuffixBytes_utf8 (addrIn : String) :
    ∃ addr : String, stripWorkerSuffixBytes addrIn.toUTF8.data.toList = addr.toUTF8.data.toList ∧
      '.' ∉ addr.data ∧ (addr = addrIn ∨ ∃ w, addrIn = addr ++ "." ++ w) ∧
      tag12FromAddressString addrIn = (Sha256.hash addr.toUTF8.data.toList).take POL_TAG_LEN :=
  have ⟨noDot, cut⟩ := stripWorkerSuffix_prefix addrIn
  ⟨stripWorkerSuffix addrIn, (toUTF8_stripWorkerSuffix addrIn).symm, noDot, cut, rfl⟩

def getConfiguredExtraNonce1Size (args : PolArgs) : Int :=
  let n := args.polExtraNonce1Size
  if n < 0 then 0 else if n > 16 then 16 else n

/-- `miner_tag_u32`: the first four bytes of the tag, little-endian. -/
def tagU32 (tag : Bytes) : UInt32 :=
  if tag.length ≥ 4 then
    (tag.getD 0 0).toUInt32 ||| (tag.getD 1 0).toUInt32 <<< 8 |||
      (tag.getD 2 0).toUInt32 <<< 16 ||| (tag.getD 3 0).toUInt32 <<< 24
  else 0

/-- The `getpoladdressstatus` result; `level` is `none` where it is undefined. -/
structure AddressStatusResult where
  tipHeight : Int
  height : Int
  address : String
  minerTagHex : String
  minerTagLen : Int
  minerTagU32 : UInt32
  extranonce1Size : Int
  seen : Bool
  firstSeenHeight : Int
  lastSeenHeight : Int
  blocksSeen : UInt32
  lastSeenTime : Int
  points : Int
  level : Option Int
  levelText : Option String
  lastSeenMonth : Int
  allowedSubsidy : Int
  baseSubsidy : Int
  bonusSubsidy : Int
deriving DecidableEq

/-- The entry the result reports, field by field. -/
def AddressStatusResult.status (r : AddressStatusResult) : MinerTagStatus :=
  { seen := r.seen, firstSeenHeight := r.firstSeenHeight, lastSeenHeight := r.lastSeenHeight,
    blocksSeen := r.blocksSeen, lastSeenTime := r.lastSeenTime, points := r.points,
    lastSeenMonth := r.lastSeenMonth }

/-- The `getpoladdressstatus` handler, for its tip height and the ledgers its two reads see. -/
def getpoladdressstatus (getBlockSubsidy : Int → Int) (args : PolArgs) (tipHeight : Int)
    (params : List UniValue) (statusRead allowedRead : TagState) :
    Except RpcException AddressStatusResult := do
  let addressIn ← (params.getD 0 .null).getStr
  let height ← (if params.length > 1 ∧ params.getD 1 .null ≠ .null then
      parseHeightFlexible (params.getD 1 .null)
    else pure tipHeight)
  let height := if height < 0 then 0 else height
  let tag := tag12FromAddressString addressIn
  let st : MinerTagStatus := (getMinerTagStatus statusRead tag).getD
    { seen := false, firstSeenHeight := -1, lastSeenHeight := -1, blocksSeen := 0,
      lastSeenTime := 0, points := 0, lastSeenMonth := -1 }
  let allowed := getAllowedSubsidy getBlockSubsidy allowedRead tag height
  let base := getBaseSubsidy getBlockSubsidy height
  let bonus := bonusSubsidy allowed base
  let level := Rpc.polLevelFromPoints st.seen st.points
  pure
    { tipHeight, height
      address := addressIn
      minerTagHex := hexStr tag
      minerTagLen := tag.length
      minerTagU32 := tagU32 tag
      extranonce1Size := getConfiguredExtraNonce1Size args
      seen := st.seen
      firstSeenHeight := st.firstSeenHeight
      lastSeenHeight := st.lastSeenHeight
      blocksSeen := st.blocksSeen
      lastSeenTime := st.lastSeenTime
      points := st.points
      level
      levelText := level.map fun l => if l = 0 then "No level" else "Level " ++ toString l
      lastSeenMonth := st.lastSeenMonth
      allowedSubsidy := allowed
      baseSubsidy := base
      bonusSubsidy := bonus }

def getpoladdressstatusArgs : List RPCArg :=
  [⟨"address", .STR, false⟩, ⟨"height", .STR, true⟩]

/-- A `getpoladdressstatus` call through `RPCHelpMan::HandleRequest`. -/
def getpoladdressstatusRequest (help : String) (getBlockSubsidy : Int → Int) (args : PolArgs)
    (tipHeight : Int) (params : List UniValue) (statusRead allowedRead : TagState) :
    Except RpcException AddressStatusResult :=
  handleRequest help getpoladdressstatusArgs params
    (getpoladdressstatus getBlockSubsidy args tipHeight · statusRead allowedRead)

theorem getpoladdressstatusArgs_pass (params : List UniValue) :
    (isValidNumArgs getpoladdressstatusArgs params.length = true ∧
      argMismatches getpoladdressstatusArgs params = []) ↔
    ∃ s, params = [.str s] ∨ params = [.str s, .null] ∨ ∃ t, params = [.str s, .str t] :=
  stringArgs_pass _ _ _ _ params

/-- A call with an address alone reaches the handler. -/
theorem getpoladdressstatusRequest_address (help : String) (getBlockSubsidy : Int → Int)
    (args : PolArgs) (tipHeight : Int) (address : String) (statusRead allowedRead : TagState) :
    getpoladdressstatusRequest help getBlockSubsidy args tipHeight [.str address] statusRead
        allowedRead =
      getpoladdressstatus getBlockSubsidy args tipHeight [.str address] statusRead allowedRead :=
  handleRequest_of_pass help _ ((getpoladdressstatusArgs_pass _).2 ⟨address, .inl rfl⟩)

/-- A response is the first read's entry and the second read's subsidy. -/
theorem getpoladdressstatus_ok {getBlockSubsidy : Int → Int} {args : PolArgs} {tipHeight : Int}
    {params : List UniValue} {statusRead allowedRead : TagState} {r : AddressStatusResult}
    (ok : getpoladdressstatus getBlockSubsidy args tipHeight params statusRead allowedRead =
      .ok r) :
    r.status = (getMinerTagStatus statusRead (tag12FromAddressString r.address)).getD {} ∧
      r.allowedSubsidy =
        getAllowedSubsidy getBlockSubsidy allowedRead (tag12FromAddressString r.address)
          r.height ∧
      r.baseSubsidy = getBaseSubsidy getBlockSubsidy r.height := by
  unfold getpoladdressstatus at ok
  obtain ⟨addressIn, -, ok⟩ := Except.bind_eq_ok ok
  obtain ⟨height, -, ok⟩ := Except.bind_eq_ok ok
  cases ok
  exact ⟨rfl, rfl, rfl⟩

theorem getpoladdressstatusRequest_ok {help : String} {getBlockSubsidy : Int → Int}
    {args : PolArgs} {tipHeight : Int} {params : List UniValue} {statusRead allowedRead : TagState}
    {r : AddressStatusResult}
    (ok : getpoladdressstatusRequest help getBlockSubsidy args tipHeight params statusRead
      allowedRead = .ok r) :
    getpoladdressstatus getBlockSubsidy args tipHeight params statusRead allowedRead = .ok r :=
  (handleRequest_eq_ok.1 ok).2

/-! ### The request against concurrent block connections -/

/-- Who takes `g_pol_mutex` next: the block connector or the handler. -/
inductive Turn
  | writer
  | reader
deriving DecidableEq, Repr

/-- The ledger, the connections still to make, and the ledgers the handler's reads saw. -/
structure Interleaving where
  ledger : TagState
  pending : List ConnectCall
  reads : List TagState

/-- One turn: each `OnConnectBlock` and each read is atomic under `g_pol_mutex`. -/
def Interleaving.step (sys : Interleaving) : Turn → Interleaving
  | .writer =>
    match sys.pending with
    | [] => sys
    | call :: rest => { sys with ledger := call.apply sys.ledger, pending := rest }
  | .reader => { sys with reads := sys.reads ++ [sys.ledger] }

def Interleaving.run (sys : Interleaving) (schedule : List Turn) : Interleaving :=
  schedule.foldl Interleaving.step sys

/-- The response when reads and connections interleave as `schedule` says. -/
def addressStatusResponse (help : String) (getBlockSubsidy : Int → Int) (args : PolArgs)
    (tipHeight : Int) (params : List UniValue) (initial : TagState) (updates : List ConnectCall)
    (schedule : List Turn) : Option (Except RpcException AddressStatusResult) :=
  match (Interleaving.run { ledger := initial, pending := updates, reads := [] } schedule).reads with
  | [statusRead, allowedRead] =>
    some (getpoladdressstatusRequest help getBlockSubsidy args tipHeight params statusRead
      allowedRead)
  | _ => none

/-- The reads see the ledger after growing prefixes of the connections. -/
def Interleaving.Consistent (initial : TagState) (updates : List ConnectCall)
    (sys : Interleaving) : Prop :=
  ∃ (applied : List ConnectCall) (prefixes : List (List ConnectCall)), applied ++ sys.pending = updates ∧
    sys.ledger = connectAll applied initial ∧
    prefixes.Pairwise (· <+: ·) ∧ (∀ p ∈ prefixes, p <+: applied) ∧
    sys.reads = prefixes.map (connectAll · initial)

theorem Interleaving.consistent_step {initial : TagState} {updates : List ConnectCall}
    {sys : Interleaving} (consistent : sys.Consistent initial updates) (turn : Turn) :
    (sys.step turn).Consistent initial updates := by
  obtain ⟨applied, prefixes, split, ledger, ordered, below, reads⟩ := consistent
  cases turn with
  | writer =>
    rcases pending : sys.pending with _ | ⟨call, rest⟩
    · simp only [step, pending]
      exact ⟨applied, prefixes, pending ▸ split, ledger, ordered, below, reads⟩
    · refine ⟨applied ++ [call], prefixes, ?_, ?_, ordered,
        fun p mem => (below p mem).trans (List.prefix_append _ _), ?_⟩
      · simpa [step, pending] using split
      · simp [step, pending, ledger, connectAll, ConnectCall.apply]
      · simpa [step, pending] using reads
  | reader =>
    refine ⟨applied, prefixes ++ [applied], split, ledger, ?_, ?_, ?_⟩
    · simpa [List.pairwise_append] using ⟨ordered, below⟩
    · exact fun p mem => (List.mem_append.1 mem).elim (below p) fun single =>
        List.mem_singleton.1 single ▸ List.prefix_refl _
    · simp [step, reads, ledger]

theorem Interleaving.consistent_run {initial : TagState} {updates : List ConnectCall}
    {sys : Interleaving} (consistent : sys.Consistent initial updates) (schedule : List Turn) :
    (sys.run schedule).Consistent initial updates := by
  induction schedule generalizing sys with
  | nil => exact consistent
  | cons turn schedule inductionHypothesis =>
    exact inductionHypothesis (consistent_step consistent turn)

/-- The two reads see the ledger after a prefix of the connections and an extension. -/
theorem addressStatusResponse_reads {help : String} {getBlockSubsidy : Int → Int}
    {args : PolArgs} {tipHeight : Int} {params : List UniValue} {initial : TagState}
    {updates : List ConnectCall} {schedule : List Turn}
    {response : Except RpcException AddressStatusResult}
    (respond : addressStatusResponse help getBlockSubsidy args tipHeight params initial updates
      schedule = some response) :
    ∃ before between, before ++ between <+: updates ∧
      response = getpoladdressstatusRequest help getBlockSubsidy args tipHeight params
        (connectAll before initial) (connectAll between (connectAll before initial)) := by
  have start : Interleaving.Consistent initial updates ⟨initial, updates, []⟩ :=
    ⟨[], [], rfl, rfl, List.Pairwise.nil, by simp, rfl⟩
  obtain ⟨applied, prefixes, split, -, ordered, below, reads⟩ :=
    Interleaving.consistent_run start schedule
  unfold addressStatusResponse at respond
  split at respond
  · next statusRead allowedRead twoReads =>
    rw [twoReads] at reads
    rcases prefixes with _ | ⟨before, _ | ⟨second, _ | ⟨third, rest⟩⟩⟩ <;>
      simp only [List.map_cons, List.map_nil, List.cons.injEq, reduceCtorEq, and_false, and_true] at reads
    obtain ⟨between, rfl⟩ := List.pairwise_pair.1 ordered
    refine ⟨before, between, (below _ (by simp)).trans ⟨_, split⟩, ?_⟩
    rw [← Option.some.inj respond, reads.1, reads.2, connectAll_append]
  · cases respond

/-- One block of the tag of `addr`, connected at height 1 with the default options. -/
def tagBlockCall (addr : String) : ConnectCall :=
  ⟨{}, markerBlock (tag12FromAddressString addr) 0, 1, 0, by decide⟩

end Multiflex.Pol
