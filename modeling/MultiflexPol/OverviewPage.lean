/-
This file models the overview page's PoL box: how a refresh reads and shows a status.
-/

import MultiflexPol.LoyaltyPage

namespace Multiflex.Pol

/-- The `m_pol_*` members of `OverviewPage`, its status label, and the amounts its labels show. -/
structure OverviewPage.State where
  minerId : String := ""
  tagHex : String := ""
  tipHeight : Int := -1
  seen : Bool := false
  blocksSeen : Int := 0
  firstSeenHeight : Int := -1
  lastSeenHeight : Int := -1
  lastSeenTime : Int := 0
  points : Int := 0
  level : Int := 0
  haveAmounts : Bool := false
  allowedSubsidy : Int := 0
  baseSubsidy : Int := 0
  status : String := ""
  amounts : Option (Int × Int × Int) := none
deriving DecidableEq

/-- `OverviewPage::clearPolUi`: all but the miner id and the tag reset, the amounts shown `-`. -/
def OverviewPage.State.clearPolUi (page : OverviewPage.State) (message : String) :
    OverviewPage.State :=
  { minerId := page.minerId, tagHex := page.tagHex, status := message }

/-- The page as its constructor leaves it. -/
def OverviewPage.initial : OverviewPage.State :=
  OverviewPage.State.clearPolUi {} "Enter miner payout address and press Refresh."

/-- `OverviewPage::polMinerIdChanged`, for the trimmed text. -/
def OverviewPage.polMinerIdChanged (text : String) (page : OverviewPage.State) :
    OverviewPage.State :=
  let page := { page with minerId := text, tagHex := "" }
  if text.isEmpty then page.clearPolUi "Enter miner address and click Refresh."
  else page.clearPolUi "Miner address changed. Click Refresh to update PoL status."

/-- The C++20 conversion of a `long long` to `int`: the value modulo `2^32`. -/
def toInt32 (value : Int) : Int := (value + 2147483648) % 4294967296 - 2147483648

/-- `PolGetNumField<T>` of the overview page: `getInt<T>` of a number, `std::stoll` of a string. -/
def OverviewPage.polGetNumField (fits : Int → Prop) [DecidablePred fits] (cast : Int → Int)
    (obj : Reply) (key : String) : Except RpcException (Option Int) :=
  match obj with
  | .obj _ =>
    match obj.findValue key with
    | .num text => (getIntOf fits text).map some
    | .str s => .ok ((stoll s.toList).map fun (x, _) => cast x)
    | _ => .ok none
  | _ => .ok none

def OverviewPage.polGetBoolField (obj : Reply) (key : String) : Option Bool :=
  match obj with
  | .obj _ =>
    match obj.findValue key with
    | .bool value => some value
    | .str s =>
      if s = "true" ∨ s = "1" then some true
      else if s = "false" ∨ s = "0" then some false
      else none
    | _ => none
  | _ => none

/-- The reads of `OverviewPage::refreshPolStatus` after the address and the tag. -/
def OverviewPage.readStatus (st : Reply) (page : OverviewPage.State) :
    Slot OverviewPage.State := do
  let tipHeight :=
    (← OverviewPage.polGetNumField FitsInt toInt32 st "tip_height").getD page.tipHeight
  let seen := (OverviewPage.polGetBoolField st "seen").getD page.seen
  let blocksSeen64 := (← OverviewPage.polGetNumField FitsInt64 id st "blocks_seen").getD 0
  let firstSeenHeight :=
    (← OverviewPage.polGetNumField FitsInt toInt32 st "first_seen_height").getD
      page.firstSeenHeight
  let lastSeenHeight :=
    (← OverviewPage.polGetNumField FitsInt toInt32 st "last_seen_height").getD
      page.lastSeenHeight
  let lastSeenTime :=
    (← OverviewPage.polGetNumField FitsInt64 id st "last_seen_time").getD page.lastSeenTime
  let haveAllowed ← OverviewPage.polGetNumField FitsInt64 id st "allowed_subsidy"
  let haveBase ← OverviewPage.polGetNumField FitsInt64 id st "base_subsidy"
  let points := (← OverviewPage.polGetNumField FitsInt toInt32 st "points").getD 0
  let level ← match ← OverviewPage.polGetNumField FitsInt toInt32 st "level" with
    | some levelFromRpc =>
      if levelFromRpc ≥ 0 then pure levelFromRpc
      else OverviewPage.polLevelFromPoints seen points
    | none => OverviewPage.polLevelFromPoints seen points
  return { page with
    tipHeight, seen, blocksSeen := toInt32 blocksSeen64, firstSeenHeight, lastSeenHeight,
    lastSeenTime, allowedSubsidy := haveAllowed.getD page.allowedSubsidy
    baseSubsidy := haveBase.getD page.baseSubsidy
    haveAmounts := haveAllowed.isSome && haveBase.isSome, points, level }

/-- The inherited `BitcoinUnits::formatWithPrivacy` asserts that the amount is not negative. -/
def formatWithPrivacy (amount : Int) : Option Unit := if amount < 0 then none else some ()

/-- `OverviewPage::updatePolUiAmounts`: the amounts, with the bonus floored at zero. -/
def OverviewPage.State.updatePolUiAmounts (haveWalletModel : Bool) (page : OverviewPage.State) :
    Option OverviewPage.State :=
  if !haveWalletModel || !page.haveAmounts then some page
  else do
    let bonus := max 0 (← int64Sub page.allowedSubsidy page.baseSubsidy)
    formatWithPrivacy page.allowedSubsidy
    formatWithPrivacy page.baseSubsidy
    formatWithPrivacy bonus
    return { page with amounts := some (page.allowedSubsidy, page.baseSubsidy, bonus) }

/-- `OverviewPage::refreshPolStatus`; its `std::exception` catch misses a `JSONRPCError`. -/
def OverviewPage.refreshPolStatus (haveClient haveWalletModel : Bool) (minerAddr : String)
    (reply : Except RpcException Reply) (page : OverviewPage.State) :
    Slot OverviewPage.State := do
  if !haveClient then
    return page.clearPolUi "PoL unavailable: no client model"
  if minerAddr.isEmpty then
    return page.clearPolUi "Enter miner address and click Refresh."
  let page := { page with
    minerId := minerAddr, tagHex := "", tipHeight := -1, seen := false, blocksSeen := 0
    firstSeenHeight := -1, lastSeenHeight := -1, lastSeenTime := 0, haveAmounts := false
    allowedSubsidy := 0, baseSubsidy := 0 }
  match reply with
  | .error (.runtime what) => return page.clearPolUi ("PoL RPC error: " ++ what)
  | .error e => throw e
  | .ok rpcRaw =>
    let st := polUnwrapRpcResult rpcRaw
    let page := match st.findValue "address" with
      | .str address => { page with minerId := address }
      | _ => page
    let page := match st.findValue "miner_tag_hex" with
      | .str tagHex => { page with tagHex }
      | _ => page
    tryCatch
      (do
        let page ← OverviewPage.readStatus st page
        let page ← page.updatePolUiAmounts haveWalletModel
        return { page with
          status := if page.seen then "PoL status: seen" else "PoL status: not seen" })
      fun
      | .runtime what => return page.clearPolUi ("PoL RPC error: " ++ what)
      | e => throw e

/-- The overview page holding the report `r` and the level `level`. -/
def OverviewPage.State.ofReport (r : AddressStatusResult) (level : Int) : OverviewPage.State :=
  { minerId := r.address, tagHex := r.minerTagHex, tipHeight := r.tipHeight, seen := r.seen
    blocksSeen := r.blocksSeen.toNat, firstSeenHeight := r.firstSeenHeight
    lastSeenHeight := r.lastSeenHeight, lastSeenTime := r.lastSeenTime, points := r.points
    level, haveAmounts := true, allowedSubsidy := r.allowedSubsidy
    baseSubsidy := r.baseSubsidy
    status := if r.seen then "PoL status: seen" else "PoL status: not seen"
    amounts := some (r.allowedSubsidy, r.baseSubsidy, max 0 (r.allowedSubsidy - r.baseSubsidy)) }

theorem OverviewPage.polGetNumField_intText {fits : Int → Prop} [DecidablePred fits]
    {cast : Int → Int} {members : List (String × Reply)} {key : String} {value : Int}
    (found : (Reply.obj members).findValue key = .num (intText value)) (held : fits value) :
    OverviewPage.polGetNumField fits cast (.obj members) key = .ok (some value) := by
  simp only [OverviewPage.polGetNumField, found, getIntOf_intText, if_pos held]
  rfl

/-- Amounts the overview page cannot show: an `int64_t` difference overflow, or a negative one. -/
def OverviewPage.AmountsFail (allowed base : Int) : Prop :=
  ¬ FitsInt64 (allowed - base) ∨ allowed < 0 ∨ base < 0

/-- The amounts step stops the page exactly on failing amounts, with a wallet model. -/
theorem OverviewPage.State.updatePolUiAmounts_eq_none (haveWalletModel : Bool)
    (page : OverviewPage.State) :
    page.updatePolUiAmounts haveWalletModel = none ↔ haveWalletModel = true ∧
      page.haveAmounts = true ∧ OverviewPage.AmountsFail page.allowedSubsidy page.baseSubsidy := by
  unfold OverviewPage.State.updatePolUiAmounts OverviewPage.AmountsFail int64Sub
  cases haveWalletModel <;> cases page.haveAmounts <;>
    simp only [Bool.not_false, Bool.not_true, Bool.or_self, Bool.true_or, Bool.false_or,
      ↓reduceIte, reduceCtorEq, false_and, and_false, true_and, Bool.false_eq_true]
  by_cases fits : FitsInt64 (page.allowedSubsidy - page.baseSubsidy)
  · simp only [fits, ↓reduceIte, not_true_eq_false, false_or, formatWithPrivacy,
      Int.not_lt.2 (Int.le_max_left 0 _)]
    by_cases allowed : page.allowedSubsidy < 0
    · simp only [allowed, ↓reduceIte, true_or, iff_true]
      rfl
    by_cases base : page.baseSubsidy < 0
    · simp only [allowed, base, ↓reduceIte, or_true, iff_true]
      rfl
    simp only [allowed, base, ↓reduceIte, or_self, iff_false]
    nofun
  · simp only [fits, ↓reduceIte, not_false_eq_true, true_or, iff_true]
    rfl

/-- The amounts step changes nothing but the amounts shown. -/
theorem OverviewPage.State.updatePolUiAmounts_frame {haveWalletModel : Bool}
    {page page' : OverviewPage.State} (shown : page.updatePolUiAmounts haveWalletModel = some page') :
    page' = { page with amounts := page'.amounts } := by
  unfold OverviewPage.State.updatePolUiAmounts at shown
  split at shown
  · cases shown
    rfl
  · simp only [Option.bind_eq_bind, Option.bind_eq_some, Option.pure_def,
      Option.some.injEq] at shown
    obtain ⟨_, -, _, -, _, -, _, -, rfl⟩ := shown
    rfl

/-- A refresh holds the report, with the count of blocks narrowed to `int`. -/
theorem OverviewPage.refreshPolStatus_report (minerAddr : String)
    (named : minerAddr.isEmpty = false) (r : AddressStatusResult) (level : Int)
    (levelText : String) (inRange : r.InRange) (levelFits : FitsInt level) (nonneg : 0 ≤ level)
    (amounts : 0 ≤ r.baseSubsidy ∧ 0 ≤ r.allowedSubsidy) (page : OverviewPage.State) :
    OverviewPage.refreshPolStatus true true minerAddr
        (.ok (.obj (addressStatusMembers r level levelText))) page =
      some (.ok { OverviewPage.State.ofReport r level with
        blocksSeen := toInt32 r.blocksSeen.toNat }) := by
  obtain ⟨-, address, tag, seen, tip, blocks, first, last, time, points, reported, allowed, base,
    -⟩ := addressStatusMembers_findValue r level levelText
  have readSeen : OverviewPage.polGetBoolField (.obj (addressStatusMembers r level levelText))
      "seen" = some r.seen := by
    rw [OverviewPage.polGetBoolField]
    simp only [seen]
  have difference := inRange.allowedSubsidy
  have baseFits := inRange.baseSubsidy
  unfold FitsInt64 at difference baseFits
  have fits : FitsInt64 (r.allowedSubsidy - r.baseSubsidy) := by unfold FitsInt64; omega
  unfold OverviewPage.refreshPolStatus
  simp only [Bool.not_true, named, Bool.false_eq_true, ↓reduceIte, pure_bind,
    polUnwrapRpcResult_addressStatus, address, tag]
  unfold OverviewPage.readStatus
  simp only [readSeen, Option.getD_some, Slot.ok_bind,
    OverviewPage.polGetNumField_intText tip inRange.tipHeight,
    OverviewPage.polGetNumField_intText blocks (uint32_toNat_fitsInt64 _),
    OverviewPage.polGetNumField_intText first inRange.firstSeenHeight,
    OverviewPage.polGetNumField_intText last inRange.lastSeenHeight,
    OverviewPage.polGetNumField_intText time inRange.lastSeenTime,
    OverviewPage.polGetNumField_intText allowed inRange.allowedSubsidy,
    OverviewPage.polGetNumField_intText base inRange.baseSubsidy,
    OverviewPage.polGetNumField_intText points inRange.points,
    OverviewPage.polGetNumField_intText reported levelFits, ge_iff_le, nonneg, ↓reduceIte,
    pure_bind, Option.isSome_some, Bool.and_self, Bool.not_true, Bool.or_self,
    Bool.false_eq_true, OverviewPage.State.updatePolUiAmounts, int64Sub, fits, formatWithPrivacy,
    Int.not_lt.2 amounts.1, Int.not_lt.2 amounts.2, Int.not_lt.2 (Int.le_max_left 0 _)]
  rfl

/-! ### Replies the pages cannot read -/

/-- A slot returns, or lets out only a `std::runtime_error`, which the overview page catches. -/
def Slot.Catchable {α : Type} (x : Slot α) : Prop :=
  (∃ a, x = some (.ok a)) ∨ ∃ what, x = some (.error (.runtime what))

theorem Slot.catchable_pure {α : Type} (a : α) : Slot.Catchable (pure a : Slot α) := .inl ⟨a, rfl⟩

theorem Slot.catchable_bind {α β : Type} {x : Slot α} {f : α → Slot β} (first : x.Catchable)
    (rest : ∀ a, (f a).Catchable) : (x >>= f).Catchable := by
  rcases first with ⟨a, rfl⟩ | ⟨what, rfl⟩
  · exact rest a
  · exact .inr ⟨what, rfl⟩

theorem getIntOf_error {fits : Int → Prop} [DecidablePred fits] {text : String} {e : RpcException}
    (failed : getIntOf fits text = .error e) : e = .runtime "JSON integer out of range" := by
  unfold getIntOf at failed
  split at failed
  dsimp only at failed
  split_ifs at failed <;> cases failed <;> rfl

theorem OverviewPage.polGetNumField_catchable (fits : Int → Prop) [DecidablePred fits]
    (cast : Int → Int) (obj : Reply) (key : String) :
    (monadLift (OverviewPage.polGetNumField fits cast obj key) : Slot (Option Int)).Catchable := by
  unfold OverviewPage.polGetNumField
  split
  · split
    · next text _ =>
      cases read : getIntOf fits text with
      | ok value => exact .inl ⟨some value, rfl⟩
      | error e => exact .inr ⟨_, by rw [getIntOf_error read]; rfl⟩
    all_goals exact .inl ⟨_, rfl⟩
  · exact .inl ⟨none, rfl⟩

/-- Every read of the overview page returns or throws a `std::runtime_error`. -/
theorem OverviewPage.readStatus_catchable (st : Reply) (page : OverviewPage.State) :
    (OverviewPage.readStatus st page).Catchable := by
  have number := OverviewPage.polGetNumField_catchable
  have computed : ∀ seen points,
      (monadLift (OverviewPage.polLevelFromPoints seen points) : Slot Int).Catchable :=
    fun seen points => by
      rw [OverviewPage.polLevelFromPoints, clampFirstLevel_eq]
      exact .inl ⟨_, rfl⟩
  unfold OverviewPage.readStatus
  iterate 9 refine Slot.catchable_bind (number _ _ _ _) fun _ => ?_
  dsimp only
  split
  · split
    · exact Slot.catchable_bind (Slot.catchable_pure _) fun _ => Slot.catchable_pure _
    · exact Slot.catchable_bind (computed _ _) fun _ => Slot.catchable_pure _
  · exact Slot.catchable_bind (computed _ _) fun _ => Slot.catchable_pure _

/-- The amounts the reads hold are the two the reply gives, where it gives both. -/
theorem OverviewPage.readStatus_amounts (st : Reply) (page : OverviewPage.State) :
    (OverviewPage.readStatus st page).Returns fun read => read.haveAmounts = true →
      OverviewPage.polGetNumField FitsInt64 id st "allowed_subsidy" =
          .ok (some read.allowedSubsidy) ∧
        OverviewPage.polGetNumField FitsInt64 id st "base_subsidy" = .ok (some read.baseSubsidy) := by
  unfold OverviewPage.readStatus
  iterate 5 refine Slot.returns_bind_any fun _ => ?_
  refine Slot.returns_bind (Slot.returns_lift _) fun haveAllowed allowedRead => ?_
  refine Slot.returns_bind (Slot.returns_lift _) fun haveBase baseRead => ?_
  iterate 2 refine Slot.returns_bind_any fun _ => ?_
  dsimp only
  split <;> try split
  all_goals refine Slot.returns_bind_any fun _ => Slot.returns_pure fun both => ?_
  all_goals cases haveAllowed <;> cases haveBase <;>
    first | exact ⟨allowedRead, baseRead⟩ | cases both

/-- A refresh returns, passes on a reply's `JSONRPCError`, or stops on its amounts. -/
theorem OverviewPage.refreshPolStatus_cases (haveClient haveWalletModel : Bool)
    (minerAddr : String) (reply : Except RpcException Reply) (page : OverviewPage.State) :
    (∃ page', OverviewPage.refreshPolStatus haveClient haveWalletModel minerAddr reply page =
        some (.ok page')) ∨
      (∃ code message, reply = .error (.jsonRpc code message) ∧
        OverviewPage.refreshPolStatus haveClient haveWalletModel minerAddr reply page =
          some (.error (.jsonRpc code message))) ∨
      (OverviewPage.refreshPolStatus haveClient haveWalletModel minerAddr reply page = none ∧
        haveWalletModel = true ∧ ∃ rpcRaw allowed base, reply = .ok rpcRaw ∧
          OverviewPage.polGetNumField FitsInt64 id (polUnwrapRpcResult rpcRaw) "allowed_subsidy" =
            .ok (some allowed) ∧
          OverviewPage.polGetNumField FitsInt64 id (polUnwrapRpcResult rpcRaw) "base_subsidy" =
            .ok (some base) ∧ OverviewPage.AmountsFail allowed base) := by
  unfold OverviewPage.refreshPolStatus
  cases haveClient
  · exact .inl ⟨_, rfl⟩
  by_cases empty : minerAddr.isEmpty = true
  · simp only [empty]
    exact .inl ⟨_, rfl⟩
  simp only [Bool.not_true, Bool.false_eq_true, ↓reduceIte, empty, pure_bind]
  rcases reply with (⟨code, message⟩ | what) | rpcRaw
  · exact .inr (.inl ⟨code, message, rfl, rfl⟩)
  · exact .inl ⟨_, rfl⟩
  dsimp only
  generalize pageRead : (match (polUnwrapRpcResult rpcRaw).findValue "miner_tag_hex" with
    | .str tagHex => _ | _ => _) = page
  rcases OverviewPage.readStatus_catchable (polUnwrapRpcResult rpcRaw) page with
    ⟨read, returned⟩ | ⟨what, thrown⟩
  · have amounts := OverviewPage.readStatus_amounts (polUnwrapRpcResult rpcRaw) page read returned
    rw [returned]
    cases shown : read.updatePolUiAmounts haveWalletModel with
    | some page' => exact .inl ⟨_, by simp only [Slot.returned_bind, shown, Slot.some_bind]; rfl⟩
    | none =>
      obtain ⟨withWallet, present, failing⟩ :=
        (OverviewPage.State.updatePolUiAmounts_eq_none _ _).1 shown
      obtain ⟨allowedRead, baseRead⟩ := amounts present
      exact .inr (.inr ⟨by simp only [Slot.returned_bind, shown, Slot.none_bind]; rfl, withWallet,
        rpcRaw, _, _, rfl,
        allowedRead, baseRead, failing⟩)
  · rw [thrown]
    exact .inl ⟨_, rfl⟩

theorem getIntOf_unreadable {fits : Int → Prop} [DecidablePred fits] {text : String}
    (unreadable : ∀ value, getIntOf fits text ≠ .ok value) :
    getIntOf fits text = .error (.runtime "JSON integer out of range") := by
  cases read : getIntOf fits text with
  | ok value => exact absurd read (unreadable value)
  | error e => rw [getIntOf_error read]

theorem LoyaltyPage.polGetNumField_unreadable {fits : Int → Prop} [DecidablePred fits]
    {obj : Reply} {key text : String} (found : obj.findValue key = .num text)
    (unreadable : ∀ value, getIntOf fits text ≠ .ok value) :
    LoyaltyPage.polGetNumField fits obj key = .error (.runtime "JSON integer out of range") := by
  simp only [LoyaltyPage.polGetNumField, found, getIntOf_unreadable unreadable]
  rfl

theorem OverviewPage.polGetNumField_unreadable {fits : Int → Prop} [DecidablePred fits]
    {cast : Int → Int} {members : List (String × Reply)} {key text : String}
    (found : (Reply.obj members).findValue key = .num text)
    (unreadable : ∀ value, getIntOf fits text ≠ .ok value) :
    OverviewPage.polGetNumField fits cast (.obj members) key =
      .error (.runtime "JSON integer out of range") := by
  simp only [OverviewPage.polGetNumField, found, getIntOf_unreadable unreadable]
  rfl

@[simp] theorem Slot.error_bind {α β : Type} (e : RpcException) (f : α → Slot β) :
    (monadLift (Except.error e : Except RpcException α) >>= f : Slot β) = some (.error e) := rfl

/-- On an unreadable `tip_height` the loyalty page throws; the overview page clears. -/
theorem statusPages_unreadableNumber (minerAddr : String) (obj : Reply) (text : String)
    (named : minerAddr.isEmpty = false)
    (found : (polUnwrapRpcResult obj).findValue "tip_height" = .num text)
    (unreadable : ∀ value, getIntOf FitsInt text ≠ .ok value) (haveWalletModel : Bool)
    (loyaltyPage : LoyaltyPage.State) (overviewPage : OverviewPage.State) :
    LoyaltyPage.refreshPolStatus true minerAddr (.ok obj) loyaltyPage =
        some (.error (.runtime "JSON integer out of range")) ∧
      ∃ page', OverviewPage.refreshPolStatus true haveWalletModel minerAddr (.ok obj)
          overviewPage = some (.ok page') ∧
        page'.status = "PoL RPC error: JSON integer out of range" ∧
        page'.clearPolUi page'.status = page' := by
  refine ⟨?_, ?_⟩
  · unfold LoyaltyPage.refreshPolStatus
    simp only [Bool.not_true, named, Bool.false_eq_true, ↓reduceIte, pure_bind,
      LoyaltyPage.polGetNumField_unreadable found unreadable, Slot.error_bind]
  · obtain ⟨members, isObject⟩ : ∃ members, polUnwrapRpcResult obj = .obj members := by
      cases unwrapped : polUnwrapRpcResult obj with
      | obj members => exact ⟨members, rfl⟩
      | _ => rw [unwrapped] at found; cases found
    rw [isObject] at found
    unfold OverviewPage.refreshPolStatus OverviewPage.readStatus
    simp only [Bool.not_true, named, Bool.false_eq_true, ↓reduceIte, pure_bind, isObject,
      OverviewPage.polGetNumField_unreadable found unreadable, Slot.error_bind]
    exact ⟨_, rfl, rfl, rfl⟩

theorem statusPages_unreadableNumber_tipHeight :
    let obj : Reply := .obj [("tip_height", .num "3000000000")]
    "a".isEmpty = false ∧ (polUnwrapRpcResult obj).findValue "tip_height" = .num "3000000000" ∧
      (∀ value, getIntOf FitsInt "3000000000" ≠ .ok value) ∧
      LoyaltyPage.refreshPolStatus true "a" (.ok obj) LoyaltyPage.initial =
          some (.error (.runtime "JSON integer out of range")) ∧
        ∃ page', OverviewPage.refreshPolStatus true true "a" (.ok obj) OverviewPage.initial =
            some (.ok page') ∧
          page'.status = "PoL RPC error: JSON integer out of range" ∧
          page'.clearPolUi page'.status = page' :=
  have found : (polUnwrapRpcResult (.obj [("tip_height", .num "3000000000")])).findValue
      "tip_height" = .num "3000000000" := rfl
  have unreadable : ∀ value, getIntOf FitsInt "3000000000" ≠ .ok value := fun _ read =>
    nomatch (show getIntOf FitsInt "3000000000" = .error (.runtime "JSON integer out of range")
      from rfl).symm.trans read
  ⟨rfl, found, unreadable, statusPages_unreadableNumber "a" _ _ rfl found unreadable true
    LoyaltyPage.initial OverviewPage.initial⟩

end Multiflex.Pol
