/-
This file compares the live ledger with what `RebuildFromActiveChain` derives from the chain.
-/

import MultiflexPol.Ledger
import Mathlib.Data.List.Basic

namespace Multiflex.Pol

/-- `RebuildFromActiveChain` over the chain, genesis to tip, and `ReadBlock`'s success. -/
def rebuildFromActiveChain (args : PolArgs) (readBlock : Nat → Bool) (chain : List Block)
    (state : TagState) : TagState :=
  if chain.isEmpty then state
  else
    let startHeight := max 0 args.polStartHeight
    (List.range' startHeight.toNat (chain.length - startHeight.toNat)).foldl
      (fun state height =>
        match chain[height]? with
        | none => state
        | some block =>
          if readBlock height then onConnectBlock args block height block.getBlockTime state
          else state)
      TagState.empty

/-- Every block readable. -/
def allReadable : Nat → Bool := fun _ => true

/-- A call that credits no key leaves the ledger as it was. -/
theorem onConnectBlock_of_creditedKey_none {args : PolArgs} {block : Block} {height : Int}
    (blockTime : Int) (state : TagState) (uncredited : creditedKey args block height = none) :
    onConnectBlock args block height blockTime state = state := by
  funext key
  rw [onConnectBlock_apply, uncredited, if_neg (by simp)]

/-- A longer chain's rebuild replays its last block when `ReadBlock` reads it. -/
theorem rebuildFromActiveChain_snoc_read (args : PolArgs) (readBlock : Nat → Bool)
    {chain : List Block} (nonempty : chain ≠ []) (block : Block) (state : TagState) :
    rebuildFromActiveChain args readBlock (chain ++ [block]) state =
      if readBlock chain.length then
        onConnectBlock args block chain.length block.getBlockTime
          (rebuildFromActiveChain args readBlock chain state)
      else rebuildFromActiveChain args readBlock chain state := by
  have appended : (chain ++ [block]).isEmpty = false := by simp
  simp only [rebuildFromActiveChain, List.isEmpty_eq_false.2 nonempty, appended,
    Bool.false_eq_true, ↓reduceIte, List.length_append, List.length_singleton]
  by_cases reached : (max 0 args.polStartHeight).toNat ≤ chain.length
  · rw [show chain.length + 1 - (max 0 args.polStartHeight).toNat =
        chain.length - (max 0 args.polStartHeight).toNat + 1 by omega, List.range'_concat,
      List.foldl_append, List.foldl_cons, List.foldl_nil,
      show (max 0 args.polStartHeight).toNat + 1 * (chain.length - (max 0 args.polStartHeight).toNat)
        = chain.length by omega, List.getElem?_concat_length]
    have earlier : ∀ height ∈ List.range' (max 0 args.polStartHeight).toNat
        (chain.length - (max 0 args.polStartHeight).toNat), (chain ++ [block])[height]? = chain[height]? :=
      fun height mem => List.getElem?_append_left (by simp [List.mem_range'] at mem; omega)
    dsimp only
    split_ifs
    · refine congrArg _ (List.foldl_ext _ _ _ fun state height mem => ?_)
      simp only [earlier height mem]
    · refine List.foldl_ext _ _ _ fun state height mem => ?_
      simp only [earlier height mem]
  · have uncredited : creditedKey args block chain.length = none := by
      rw [creditedKey, if_pos (by omega)]
    rw [show chain.length + 1 - (max 0 args.polStartHeight).toNat = 0 by omega,
      show chain.length - (max 0 args.polStartHeight).toNat = 0 by omega, List.range'_zero,
      List.foldl_nil, List.foldl_nil, onConnectBlock_of_creditedKey_none _ _ uncredited, ite_self]


/-- With every block readable, a longer chain's rebuild replays its last block. -/
theorem rebuildFromActiveChain_snoc (args : PolArgs) {chain : List Block} (nonempty : chain ≠ [])
    (block : Block) (state : TagState) :
    rebuildFromActiveChain args allReadable (chain ++ [block]) state =
      onConnectBlock args block chain.length block.getBlockTime
        (rebuildFromActiveChain args allReadable chain state) := by
  rw [rebuildFromActiveChain_snoc_read args allReadable nonempty]
  exact if_pos rfl

/-! ### Chain events -/

/-- A chain event: a block connected at the next height, or the tip disconnected. -/
inductive ChainEvent
  | connect (block : Block)
  | disconnect

/-- The node: its active chain and its ledger. -/
structure Node where
  chain : List Block
  ledger : TagState

/-- A connection calls `OnConnectBlock`; a disconnection, never of genesis, has no operation. -/
def Node.step (args : PolArgs) (node : Node) : ChainEvent → Node
  | .connect block =>
    { chain := node.chain ++ [block]
      ledger := onConnectBlock args block node.chain.length block.getBlockTime node.ledger }
  | .disconnect =>
    { node with chain := if 1 < node.chain.length then node.chain.dropLast else node.chain }

def Node.run (args : PolArgs) (node : Node) (events : List ChainEvent) : Node :=
  events.foldl (Node.step args) node

/-- The ledger is what a rebuild derives from the active chain. -/
def Node.Agrees (args : PolArgs) (node : Node) : Prop :=
  node.chain ≠ [] ∧ ∀ state, node.ledger = rebuildFromActiveChain args allReadable node.chain state

/-- An event needing no operation: a connection, or an uncredited tip's disconnection. -/
def Node.Harmless (args : PolArgs) (node : Node) : ChainEvent → Prop
  | .connect _ => True
  | .disconnect => 1 < node.chain.length →
      ∀ tip ∈ node.chain.getLast?, creditedKey args tip node.chain.dropLast.length = none

/-- Every event of the run is harmless when it happens. -/
def Node.ReorgFree (args : PolArgs) : Node → List ChainEvent → Prop
  | _, [] => True
  | node, event :: events => node.Harmless args event ∧ (node.step args event).ReorgFree args events

theorem Node.agrees_step {args : PolArgs} {node : Node} (agrees : node.Agrees args)
    {event : ChainEvent} (harmless : node.Harmless args event) :
    (node.step args event).Agrees args := by
  obtain ⟨nonempty, ledger⟩ := agrees
  cases event with
  | connect block =>
    refine ⟨by simp [step], fun state => ?_⟩
    simp only [step]
    rw [rebuildFromActiveChain_snoc args nonempty, ← ledger]
  | disconnect =>
    simp only [step]
    split_ifs with long
    · obtain ⟨tip, last⟩ := Option.isSome_iff_exists.1
        (List.getLast?_isSome.2 nonempty)
      have split := List.dropLast_append_getLast? tip last
      have shorter : node.chain.dropLast ≠ [] := by
        intro empty
        rw [empty, List.nil_append] at split
        simp [← split] at long
      refine ⟨shorter, fun state => ?_⟩
      rw [ledger state, ← split, rebuildFromActiveChain_snoc args shorter, List.dropLast_concat,
        onConnectBlock_of_creditedKey_none _ _ (harmless long tip last)]
    · exact ⟨nonempty, ledger⟩

/-- A run of harmless events keeps the ledger in agreement with the active chain. -/
theorem Node.agrees_run {args : PolArgs} {node : Node} (agrees : node.Agrees args)
    {events : List ChainEvent} (reorgFree : node.ReorgFree args events) :
    (node.run args events).Agrees args := by
  induction events generalizing node with
  | nil => exact agrees
  | cons event events inductionHypothesis =>
    exact inductionHypothesis (agrees_step agrees reorgFree.1) reorgFree.2

/-- The connections a run makes, each with the height it connects the block at. -/
def Node.connections (args : PolArgs) : Node → List ChainEvent → List (Block × Int)
  | _, [] => []
  | node, .connect block :: events =>
    (block, node.chain.length) :: (node.step args (.connect block)).connections args events
  | node, .disconnect :: events => (node.step args .disconnect).connections args events

/-- The ledger after `OnConnectBlock` of each connection, in order. -/
def replay (args : PolArgs) (connected : List (Block × Int)) (state : TagState) : TagState :=
  connected.foldl (fun state c => onConnectBlock args c.1 c.2 c.1.getBlockTime state) state

/-- A disconnection leaves the ledger as it is, keeping every connected block's credit. -/
theorem Node.run_ledger (args : PolArgs) (node : Node) (events : List ChainEvent) :
    (node.run args events).ledger = replay args (node.connections args events) node.ledger := by
  induction events generalizing node with
  | nil => rfl
  | cons event events inductionHypothesis =>
    cases event <;> exact inductionHypothesis _

/-- Events replay every connection; with only uncredited disconnections the ledger stays rebuilt. -/
theorem rebuildFromActiveChain_live (args : PolArgs) (node : Node) (events : List ChainEvent) :
    (node.run args events).ledger = replay args (node.connections args events) node.ledger ∧
      (node.Agrees args → node.ReorgFree args events → ∀ state,
        (node.run args events).ledger =
          rebuildFromActiveChain args allReadable (node.run args events).chain state) :=
  ⟨Node.run_ledger args node events, fun agrees reorgFree => (Node.agrees_run agrees reorgFree).2⟩

/-- A block without transactions, as genesis here. -/
def emptyBlock : Block := { nTime := 0, vtx := [] }

/-- A node at genesis whose ledger is the rebuild of its chain. -/
def genesisNode : Node :=
  { chain := [emptyBlock], ledger := rebuildFromActiveChain {} allReadable [emptyBlock] TagState.empty }

theorem genesisNode_agrees : genesisNode.Agrees {} := ⟨by simp [genesisNode], fun _ => rfl⟩

/-- A block of the tag `01020304` connected, an empty block connected and disconnected. -/
def tagThenEmptyReorg : List ChainEvent :=
  [.connect (markerBlock [1, 2, 3, 4] 0), .connect emptyBlock, .disconnect]

theorem rebuildFromActiveChain_live_tagThenEmptyReorg :
    genesisNode.Agrees {} ∧ genesisNode.ReorgFree {} tagThenEmptyReorg ∧
      (genesisNode.run {} tagThenEmptyReorg).ledger =
        rebuildFromActiveChain {} allReadable (genesisNode.run {} tagThenEmptyReorg).chain
          TagState.empty :=
  have reorgFree : genesisNode.ReorgFree {} tagThenEmptyReorg := by
    simp only [tagThenEmptyReorg, Node.ReorgFree, Node.Harmless]
    decide
  ⟨genesisNode_agrees, reorgFree,
    (rebuildFromActiveChain_live {} genesisNode tagThenEmptyReorg).2 genesisNode_agrees reorgFree
      TagState.empty⟩

/-- A tag block connected then disconnected: the live ledger keeps it, the rebuild does not. -/
theorem disconnect_keeps_credit :
    genesisNode.Agrees {} ∧
      (genesisNode.run {} [.connect (markerBlock [1, 2, 3, 4] 0), .disconnect]).chain =
        [emptyBlock] ∧
      getMinerTagStatus (genesisNode.run {} [.connect (markerBlock [1, 2, 3, 4] 0), .disconnect]).ledger
          [1, 2, 3, 4] =
        some { seen := true, firstSeenHeight := 1, lastSeenHeight := 1, blocksSeen := 1,
               lastSeenTime := 0, points := 2, lastSeenMonth := 0 } ∧
      ∀ state, getMinerTagStatus (rebuildFromActiveChain {} allReadable [emptyBlock] state)
        [1, 2, 3, 4] = none :=
  ⟨genesisNode_agrees, rfl, by decide, fun _ => rfl⟩

/-! ### Reading the chain back -/

/-- The node before any block: no chain and the empty ledger. -/
def Node.initial : Node := { chain := [], ledger := TagState.empty }

/-- The live ledger of a chain: each block connected at its height from empty. -/
def connectChain (args : PolArgs) (chain : List Block) : TagState :=
  (Node.initial.run args (chain.map .connect)).ledger

theorem Node.run_connect_snoc (args : PolArgs) (node : Node) (events : List ChainEvent)
    (block : Block) :
    node.run args (events ++ [.connect block]) = (node.run args events).step args (.connect block) :=
  List.foldl_append _ _ _ _

theorem Node.initial_run_chain (args : PolArgs) (chain : List Block) :
    (Node.initial.run args (chain.map .connect)).chain = chain := by
  induction chain using List.reverseRecOn with
  | nil => rfl
  | append_singleton chain block inductionHypothesis =>
    rw [List.map_append, List.map_singleton, Node.run_connect_snoc]
    simp only [Node.step, inductionHypothesis]

theorem connectChain_snoc (args : PolArgs) (chain : List Block) (block : Block) :
    connectChain args (chain ++ [block]) =
      onConnectBlock args block chain.length block.getBlockTime (connectChain args chain) := by
  rw [connectChain, List.map_append, List.map_singleton, Node.run_connect_snoc]
  simp only [Node.step, Node.initial_run_chain]
  rfl

/-- A block with no transactions carries no tag, so connecting it changes nothing. -/
theorem onConnectBlock_emptyBlock (args : PolArgs) (height blockTime : Int) (state : TagState) :
    onConnectBlock args emptyBlock height blockTime state = state :=
  onConnectBlock_of_creditedKey_none _ _ (by rw [creditedKey]; split_ifs <;> rfl)

/-- The chain as the rebuild sees it: unreadable blocks without transactions. -/
def blankUnreadable (readBlock : Nat → Bool) (chain : List Block) : List Block :=
  chain.mapIdx fun height block => if readBlock height then block else emptyBlock

theorem rebuildFromActiveChain_singleton (args : PolArgs) (readBlock : Nat → Bool) (block : Block)
    (state : TagState) :
    rebuildFromActiveChain args readBlock [block] state =
      connectChain args (blankUnreadable readBlock [block]) := by
  have first : connectChain args (blankUnreadable readBlock [block]) =
      onConnectBlock args (if readBlock 0 then block else emptyBlock) 0
        (if readBlock 0 then block else emptyBlock).getBlockTime TagState.empty :=
    connectChain_snoc args [] _
  rw [first]
  simp only [rebuildFromActiveChain, List.isEmpty_cons, Bool.false_eq_true, ↓reduceIte,
    List.length_singleton]
  by_cases genesis : args.polStartHeight ≤ 0
  · rw [show (max 0 args.polStartHeight).toNat = 0 by omega]
    cases reads : readBlock 0 <;> simp [reads, onConnectBlock_emptyBlock]
  · have early : creditedKey args (if readBlock 0 then block else emptyBlock) 0 = none := by
      rw [creditedKey, if_pos (by omega)]
    rw [onConnectBlock_of_creditedKey_none _ _ early,
      show 1 - (max 0 args.polStartHeight).toNat = 0 by omega, List.range'_zero, List.foldl_nil]


theorem rebuildFromActiveChain_blankUnreadable (args : PolArgs) (readBlock : Nat → Bool)
    {chain : List Block} (nonempty : chain ≠ []) (state : TagState) :
    rebuildFromActiveChain args readBlock chain state =
      connectChain args (blankUnreadable readBlock chain) := by
  induction chain using List.reverseRecOn with
  | nil => exact absurd rfl nonempty
  | append_singleton chain block inductionHypothesis =>
    rcases eq_or_ne chain [] with rfl | longer
    · exact rebuildFromActiveChain_singleton args readBlock block state
    rw [rebuildFromActiveChain_snoc_read args readBlock longer, blankUnreadable, List.mapIdx_concat,
      connectChain_snoc, List.length_mapIdx, ← blankUnreadable, ← inductionHypothesis longer]
    cases reads : readBlock chain.length <;> simp [onConnectBlock_emptyBlock]

theorem blankUnreadable_allReadable (chain : List Block) :
    blankUnreadable allReadable chain = chain :=
  List.ext_getElem? fun height => by simp [blankUnreadable, allReadable]

/-- The rebuild is the live ledger of the chain as it reads it. -/
theorem rebuildFromActiveChain_eq_connectChain (args : PolArgs) (readBlock : Nat → Bool)
    {chain : List Block} (nonempty : chain ≠ []) (state : TagState) :
    rebuildFromActiveChain args readBlock chain state =
        connectChain args (blankUnreadable readBlock chain) ∧
      ((∀ height block, chain[height]? = some block → readBlock height = false →
          args.polStartHeight ≤ height → extractMinerTagFromBlock block = none) →
        rebuildFromActiveChain args readBlock chain state = connectChain args chain) := by
  refine ⟨rebuildFromActiveChain_blankUnreadable args readBlock nonempty state, fun harmless => ?_⟩
  have allRead : rebuildFromActiveChain args readBlock chain state =
      rebuildFromActiveChain args allReadable chain state := by
    simp only [rebuildFromActiveChain, allReadable]
    split_ifs
    · rfl
    refine List.foldl_ext _ _ _ fun state height mem => ?_
    cases found : chain[height]? with
    | none => rfl
    | some block =>
      cases reads : readBlock height
      · have untagged := harmless height block found reads (by simp [List.mem_range'] at mem; omega)
        exact (onConnectBlock_of_creditedKey_none _ _ (by simp [creditedKey, untagged])).symm
      · rfl
  rw [allRead, rebuildFromActiveChain_blankUnreadable args allReadable nonempty,
    blankUnreadable_allReadable]

theorem rebuildFromActiveChain_eq_connectChain_lostEmptyBlock :
    [emptyBlock, markerBlock [1, 2, 3, 4] 0, emptyBlock] ≠ [] ∧
      (∀ (height : Nat) block, [emptyBlock, markerBlock [1, 2, 3, 4] 0, emptyBlock][height]? = some block →
        (height != 2) = false → ({} : PolArgs).polStartHeight ≤ height →
        extractMinerTagFromBlock block = none) ∧
      rebuildFromActiveChain {} (fun height => height != 2)
          [emptyBlock, markerBlock [1, 2, 3, 4] 0, emptyBlock] TagState.empty =
        connectChain {} [emptyBlock, markerBlock [1, 2, 3, 4] 0, emptyBlock] :=
  have harmless : ∀ (height : Nat) block,
      [emptyBlock, markerBlock [1, 2, 3, 4] 0, emptyBlock][height]? = some block →
        (height != 2) = false → ({} : PolArgs).polStartHeight ≤ height →
        extractMinerTagFromBlock block = none := by
    intro height block found unread _
    obtain rfl : height = 2 := by simpa using unread
    cases found
    rfl
  ⟨List.cons_ne_nil _ _, harmless,
    (rebuildFromActiveChain_eq_connectChain {} (fun height => height != 2) (List.cons_ne_nil _ _)
      TagState.empty).2 harmless⟩

end Multiflex.Pol
