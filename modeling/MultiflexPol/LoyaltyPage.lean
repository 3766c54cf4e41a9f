/-
This file models the loyalty page's PoL box: how a refresh reads and shows a status.
-/

import MultiflexPol.Reply

namespace Multiflex.Pol

/-- A slot returns, throws, or (`none`) stops the program. -/
abbrev Slot := ExceptT RpcException Option

@[simp] theorem Slot.ok_bind {α β : Type} (a : α) (f : α → Slot β) :
    (monadLift (Except.ok a : Except RpcException α) >>= f : Slot β) = f a := rfl

@[simp] theorem Slot.some_bind {α β : Type} (a : α) (f : α → Slot β) :
    (monadLift (some a) >>= f : Slot β) = f a := rfl

@[simp] theorem Slot.returned_bind {α β : Type} (a : α) (f : α → Slot β) :
    @Bind.bind Slot _ α β (some (Except.ok a)) f = f a := rfl

@[simp] theorem Slot.thrown_bind {α β : Type} (e : RpcException) (f : α → Slot β) :
    @Bind.bind Slot _ α β (some (Except.error e)) f = some (.error e) := rfl

@[simp] theorem Slot.stopped_bind {α β : Type} (f : α → Slot β) :
    @Bind.bind Slot _ α β none f = none := rfl

theorem Slot.lift_eq_none {α : Type} (x : Option α) : (monadLift x : Slot α) = none ↔ x = none := by
  cases x <;> exact ⟨fun lifted => by cases lifted <;> rfl, fun stopped => by cases stopped <;> rfl⟩

/-- Every value the slot returns has the property `P`. -/
def Slot.Returns {α : Type} (P : α → Prop) (x : Slot α) : Prop :=
  ∀ a, x = some (.ok a) → P a

theorem Slot.returns_pure {α : Type} {P : α → Prop} {a : α} (held : P a) :
    (pure a : Slot α).Returns P := by
  intro b returned
  cases returned
  exact held

theorem Slot.returns_bind {α β : Type} {Q : α → Prop} {P : β → Prop} {x : Slot α}
    {f : α → Slot β} (first : x.Returns Q) (rest : ∀ a, Q a → (f a).Returns P) :
    (x >>= f).Returns P := by
  intro b returned
  rcases x with _ | _ | a
  · cases returned
  · cases returned
  · exact rest a (first a rfl) b returned

/-- A read whose value the rest does not need to know anything about. -/
theorem Slot.returns_bind_any {α β : Type} {P : β → Prop} {x : Slot α} {f : α → Slot β}
    (rest : ∀ a, (f a).Returns P) : (x >>= f).Returns P :=
  Slot.returns_bind (fun _ _ => trivial) fun a (_ : True) => rest a

/-- A read returns the value it was given. -/
theorem Slot.returns_lift {α : Type} (x : Except RpcException α) :
    (monadLift x : Slot α).Returns (x = .ok ·) := by
  intro a returned
  cases x <;> cases returned
  rfl

/-- `a - b` in `int64_t`; `none` where it overflows, which is undefined. -/
def int64Sub (a b : Int) : Option Int := if FitsInt64 (a - b) then some (a - b) else none

/-- The inherited `BitcoinUnits::format` negates a negative amount, undefined for `INT64_MIN`. -/
def formatWithUnit (amount : Int) : Option Unit :=
  if amount = -9223372036854775808 then none else some ()

/-- A result's values fit the C++ types the handler pushes them with. -/
structure AddressStatusResult.InRange (r : AddressStatusResult) : Prop where
  tipHeight : FitsInt r.tipHeight
  firstSeenHeight : FitsInt r.firstSeenHeight
  lastSeenHeight : FitsInt r.lastSeenHeight
  lastSeenTime : FitsInt64 r.lastSeenTime
  points : FitsInt r.points
  allowedSubsidy : FitsInt64 r.allowedSubsidy
  baseSubsidy : FitsInt64 r.baseSubsidy
  bonusSubsidy : FitsInt64 r.bonusSubsidy

@[simp] theorem Slot.none_bind {α β : Type} (f : α → Slot β) :
    (monadLift (none : Option α) >>= f : Slot β) = none := rfl

/-- A status object has no member `result`, so both pages read it as it is. -/
theorem polUnwrapRpcResult_addressStatus (r : AddressStatusResult) (level : Int)
    (levelText : String) :
    polUnwrapRpcResult (.obj (addressStatusMembers r level levelText)) =
      .obj (addressStatusMembers r level levelText) := by
  rw [polUnwrapRpcResult, (addressStatusMembers_findValue r level levelText).1]

/-- The `m_pol_*` members of `LoyaltyPage`, its status label, and the amounts its labels show. -/
structure LoyaltyPage.State where
  minerId : String := ""
  haveAmounts : Bool := false
  seen : Bool := false
  tagHex : String := ""
  tipHeight : Int := -1
  blocksSeen : Int := 0
  firstSeenHeight : Int := -1
  lastSeenHeight : Int := -1
  lastSeenTime : Int := 0
  points : Int := 0
  level : Int := 0
  allowedSubsidy : Int := 0
  baseSubsidy : Int := 0
  bonusSubsidy : Int := 0
  status : String := ""
  amounts : Option (Int × Int × Int) := none
deriving DecidableEq

/-- `LoyaltyPage::clearPolUi`: all but the miner id reset; its `updatePolUiAmounts` shows `-`. -/
def LoyaltyPage.State.clearPolUi (page : LoyaltyPage.State) (statusMsg : String) :
    LoyaltyPage.State :=
  { minerId := page.minerId, status := if statusMsg.isEmpty then page.status else statusMsg }

/-- The page as its constructor leaves it. -/
def LoyaltyPage.initial : LoyaltyPage.State := LoyaltyPage.State.clearPolUi {} "PoL status updated."

/-- `LoyaltyPage::polMinerAddressChanged`, for the trimmed text. -/
def LoyaltyPage.polMinerAddressChanged (txt : String) (page : LoyaltyPage.State) :
    LoyaltyPage.State :=
  LoyaltyPage.State.clearPolUi { page with minerId := txt } ""

/-- `PolGetNumField<T>` of the loyalty page: `getInt<T>` of a number, else nothing. -/
def LoyaltyPage.polGetNumField (fits : Int → Prop) [DecidablePred fits] (obj : Reply)
    (key : String) : Except RpcException (Option Int) :=
  match obj.findValue key with
  | .num text => (getIntOf fits text).map some
  | _ => .ok none

def LoyaltyPage.polGetBoolField (obj : Reply) (key : String) : Option Bool :=
  match obj.findValue key with
  | .bool value => some value
  | _ => none

/-- `PolGetStrField`; the round trip through `QString` keeps a string. -/
def LoyaltyPage.polGetStrField (obj : Reply) (key : String) : Option String :=
  match obj.findValue key with
  | .str value => some value
  | _ => none

/-- `LoyaltyPage::updatePolUiAmounts`: `-` without a wallet model or amounts, else the amounts. -/
def LoyaltyPage.State.updatePolUiAmounts (haveWalletModel : Bool) (page : LoyaltyPage.State) :
    Option LoyaltyPage.State :=
  if !haveWalletModel || !page.haveAmounts then some { page with amounts := none }
  else do
    formatWithUnit page.allowedSubsidy
    formatWithUnit page.baseSubsidy
    let bonus ← int64Sub page.allowedSubsidy page.baseSubsidy
    formatWithUnit bonus
    return { page with amounts := some (page.allowedSubsidy, page.baseSubsidy, bonus) }

/-- Amounts in the money range, base below allowed, are shown as they are. -/
theorem LoyaltyPage.State.updatePolUiAmounts_inRange (page : LoyaltyPage.State)
    (present : page.haveAmounts = true)
    (inRange : 0 ≤ page.baseSubsidy ∧ page.baseSubsidy ≤ page.allowedSubsidy ∧
      page.allowedSubsidy ≤ MAX_MONEY) :
    page.updatePolUiAmounts true = some { page with amounts := some (page.allowedSubsidy,
      page.baseSubsidy, page.allowedSubsidy - page.baseSubsidy) } := by
  unfold MAX_MONEY COIN at inRange
  simp (disch := omega) only [LoyaltyPage.State.updatePolUiAmounts, present, Bool.not_true,
    Bool.or_self, Bool.false_eq_true, ↓reduceIte, formatWithUnit, int64Sub, FitsInt64, if_neg,
    if_pos, Option.bind_eq_bind, Option.some_bind]
  rfl

/-- `LoyaltyPage::refreshPolStatus`, with `executeRpc`'s answer as `reply`. -/
def LoyaltyPage.refreshPolStatus (haveModels : Bool) (minerAddr : String)
    (reply : Except RpcException Reply) (page : LoyaltyPage.State) : Slot LoyaltyPage.State := do
  if !haveModels then
    return page.clearPolUi "PoL status unavailable (no client/wallet)."
  let page := { page with minerId := minerAddr }
  if minerAddr.isEmpty then
    return page.clearPolUi "Enter a Miner Address."
  match reply with
  | .error (.runtime what) => return page.clearPolUi ("RPC error: " ++ what)
  | .error e => throw e
  | .ok rpcRaw =>
    let st := polUnwrapRpcResult rpcRaw
    let seen := (LoyaltyPage.polGetBoolField st "seen").getD false
    let tagHex := (LoyaltyPage.polGetStrField st "miner_tag_hex").getD ""
    let tipHeight := (← LoyaltyPage.polGetNumField FitsInt st "tip_height").getD (-1)
    let blocksSeen := (← LoyaltyPage.polGetNumField FitsInt64 st "blocks_seen").getD 0
    let firstSeenHeight :=
      (← LoyaltyPage.polGetNumField FitsInt st "first_seen_height").getD (-1)
    let lastSeenHeight := (← LoyaltyPage.polGetNumField FitsInt st "last_seen_height").getD (-1)
    let lastSeenTime := (← LoyaltyPage.polGetNumField FitsInt64 st "last_seen_time").getD 0
    let points := (← LoyaltyPage.polGetNumField FitsInt st "points").getD 0
    let computed ← LoyaltyPage.polLevelFromPoints points seen
    let level := (← LoyaltyPage.polGetNumField FitsInt st "level").getD computed
    let allowedSubsidy := (← LoyaltyPage.polGetNumField FitsInt64 st "allowed_subsidy").getD 0
    let baseSubsidy := (← LoyaltyPage.polGetNumField FitsInt64 st "base_subsidy").getD 0
    let bonusSubsidy := (← LoyaltyPage.polGetNumField FitsInt64 st "bonus_subsidy").getD 0
    let (points, level) := if seen then (points, level) else (0, 0)
    let page : LoyaltyPage.State := { page with
      haveAmounts := true, seen, tagHex, tipHeight, blocksSeen, firstSeenHeight, lastSeenHeight,
      lastSeenTime, points, level, allowedSubsidy, baseSubsidy, bonusSubsidy
      status := "PoL status: " ++ if seen then "seen" else "not seen" }
    page.updatePolUiAmounts true

/-- The loyalty page holding report `r`: no points or level for an unseen tag. -/
def LoyaltyPage.State.ofReport (minerAddr : String) (r : AddressStatusResult) (level : Int) :
    LoyaltyPage.State :=
  { minerId := minerAddr, haveAmounts := true, seen := r.seen, tagHex := r.minerTagHex
    tipHeight := r.tipHeight, blocksSeen := r.blocksSeen.toNat
    firstSeenHeight := r.firstSeenHeight, lastSeenHeight := r.lastSeenHeight
    lastSeenTime := r.lastSeenTime
    points := if r.seen then r.points else 0, level := if r.seen then level else 0
    allowedSubsidy := r.allowedSubsidy, baseSubsidy := r.baseSubsidy
    bonusSubsidy := r.bonusSubsidy
    status := "PoL status: " ++ if r.seen then "seen" else "not seen"
    amounts := some (r.allowedSubsidy, r.baseSubsidy, r.allowedSubsidy - r.baseSubsidy) }

theorem uint32_toNat_fitsInt64 (n : UInt32) : FitsInt64 (n.toNat : Int) := by
  have := n.toNat_lt_size
  unfold FitsInt64 UInt32.size at *
  omega

theorem LoyaltyPage.polGetNumField_intText {fits : Int → Prop} [DecidablePred fits] {obj : Reply}
    {key : String} {value : Int} (found : obj.findValue key = .num (intText value))
    (held : fits value) : LoyaltyPage.polGetNumField fits obj key = .ok (some value) := by
  simp only [LoyaltyPage.polGetNumField, found, getIntOf_intText, if_pos held]
  rfl

/-- A refresh holds the report, unless a seen tag's `INT_MAX` points overflow. -/
theorem LoyaltyPage.refreshPolStatus_report (minerAddr : String) (named : minerAddr.isEmpty = false)
    (r : AddressStatusResult) (level : Int) (levelText : String) (inRange : r.InRange)
    (levelFits : FitsInt level)
    (amounts : 0 ≤ r.baseSubsidy ∧ r.baseSubsidy ≤ r.allowedSubsidy ∧ r.allowedSubsidy ≤ MAX_MONEY)
    (page : LoyaltyPage.State) :
    LoyaltyPage.refreshPolStatus true minerAddr (.ok (.obj (addressStatusMembers r level levelText)))
        page =
      if r.seen = true ∧ r.points = 2147483647 then none
      else some (.ok (LoyaltyPage.State.ofReport minerAddr r level)) := by
  obtain ⟨-, -, tag, seen, tip, blocks, first, last, time, points, reported, allowed, base,
    bonus⟩ := addressStatusMembers_findValue r level levelText
  have readSeen :
      LoyaltyPage.polGetBoolField (.obj (addressStatusMembers r level levelText)) "seen" =
        some r.seen := by rw [LoyaltyPage.polGetBoolField, seen]
  have readTag : LoyaltyPage.polGetStrField (.obj (addressStatusMembers r level levelText))
      "miner_tag_hex" = some r.minerTagHex := by rw [LoyaltyPage.polGetStrField, tag]
  unfold LoyaltyPage.refreshPolStatus
  simp only [Bool.not_true, named, Bool.false_eq_true, ↓reduceIte, pure_bind,
    polUnwrapRpcResult_addressStatus, readSeen, readTag, Option.getD_some, Slot.ok_bind,
    LoyaltyPage.polGetNumField_intText tip inRange.tipHeight,
    LoyaltyPage.polGetNumField_intText blocks (uint32_toNat_fitsInt64 _),
    LoyaltyPage.polGetNumField_intText first inRange.firstSeenHeight,
    LoyaltyPage.polGetNumField_intText last inRange.lastSeenHeight,
    LoyaltyPage.polGetNumField_intText time inRange.lastSeenTime,
    LoyaltyPage.polGetNumField_intText points inRange.points,
    LoyaltyPage.polGetNumField_intText reported levelFits,
    LoyaltyPage.polGetNumField_intText allowed inRange.allowedSubsidy,
    LoyaltyPage.polGetNumField_intText base inRange.baseSubsidy,
    LoyaltyPage.polGetNumField_intText bonus inRange.bonusSubsidy,
    loyaltyPageLevel_eq r.seen r.points inRange.points]
  by_cases overflow : r.seen = true ∧ r.points = 2147483647
  · rw [if_pos overflow, if_pos overflow]
    rfl
  · rw [if_neg overflow, if_neg overflow]
    cases seenIs : r.seen <;>
      simp only [LoyaltyPage.State.ofReport, seenIs, ↓reduceIte, Bool.false_eq_true,
        LoyaltyPage.State.updatePolUiAmounts_inRange, amounts, and_self] <;> rfl

end Multiflex.Pol
