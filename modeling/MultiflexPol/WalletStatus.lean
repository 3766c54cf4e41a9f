/-
This file follows a wallet page's status request from the ledger to both pages.
-/

import MultiflexPol.OverviewPage

namespace Multiflex.Pol

/-- An entry's heights and time fit the C++ types that store them. -/
def MinerTagStatus.InRange (s : MinerTagStatus) : Prop :=
  FitsInt s.firstSeenHeight ∧ FitsInt s.lastSeenHeight ∧ FitsInt64 s.lastSeenTime

theorem connectStatus_inRange {s : MinerTagStatus} (fits : s.InRange) {height blockTime : Int}
    (month : Int) (heightFits : FitsInt height) (timeFits : FitsInt64 blockTime) :
    (connectStatus s height blockTime month).InRange := by
  obtain ⟨first, -, -⟩ := fits
  unfold connectStatus
  split_ifs <;> exact ⟨by assumption, heightFits, timeFits⟩

/-- An entry a run of connections built holds its calls' heights and time. -/
theorem entryInRange_connectAll (calls : List ConnectCall)
    (times : ∀ call ∈ calls, FitsInt64 call.blockTime) (tag : Bytes) :
    ((getMinerTagStatus (connectAll calls TagState.empty) tag).getD {}).InRange := by
  have run : ∀ (credited : List ConnectCall) (entry : Option MinerTagStatus),
      (∀ call ∈ credited, FitsInt64 call.blockTime) → (entry.getD {}).InRange →
        ((credited.foldl (fun entry call => call.entry entry) entry).getD {}).InRange := by
    intro credited
    induction credited with
    | nil => exact fun _ _ fits => fits
    | cons call credited ih =>
      intro entry times fits
      exact ih _ (fun c mem => times c (List.mem_cons_of_mem _ mem))
        (connectStatus_inRange fits _ call.heightFits (times call (List.mem_cons_self _ _)))
  unfold getMinerTagStatus
  rw [connectAll_entry]
  exact run _ none (fun call mem => times call (List.mem_filter.1 mem).1)
    ⟨by decide, by decide, by decide⟩

theorem referenceLevel_bounds (seen : Bool) (points : Int) :
    0 ≤ referenceLevel seen points ∧ referenceLevel seen points ≤ 12 := by
  unfold referenceLevel
  split_ifs with unseen
  · omega
  · simp only [Bool.or_eq_true, Bool.not_eq_true', decide_eq_true_eq, not_or, Int.not_le] at unseen
    omega

/-- A wallet page's request never fails and reports the address, tip and level. -/
theorem getpoladdressstatus_pageRequest (getBlockSubsidy : Int → Int) (args : PolArgs)
    (tipHeight : Int) (minerAddr : String) (statusRead allowedRead : TagState) :
    ∃ r, getpoladdressstatus getBlockSubsidy args tipHeight [.str minerAddr] statusRead
        allowedRead = .ok r ∧
      r.address = minerAddr ∧ r.tipHeight = tipHeight ∧
      r.level = some (referenceLevel r.seen r.points) ∧ r.levelText.isSome ∧
      r.bonusSubsidy = bonusSubsidy r.allowedSubsidy r.baseSubsidy := by
  refine ⟨_, rfl, rfl, rfl, clampFirstLevel_eq _ _, ?_, rfl⟩
  simp [Rpc.polLevelFromPoints, clampFirstLevel_eq]

/-- A built ledger's page response fits its C++ types, amounts in the money range. -/
theorem pageResponse_inRange {getBlockSubsidy : Int → Int} {args : PolArgs} {tipHeight : Int}
    {minerAddr : String} {calls : List ConnectCall} {allowedRead : TagState}
    {r : AddressStatusResult}
    (respond : getpoladdressstatus getBlockSubsidy args tipHeight [.str minerAddr]
      (connectAll calls TagState.empty) allowedRead = .ok r)
    (tipFits : FitsInt tipHeight) (times : ∀ call ∈ calls, FitsInt64 call.blockTime)
    (subsidy : 0 ≤ getBlockSubsidy r.height ∧ getBlockSubsidy r.height ≤ MAX_MONEY) :
    r.InRange ∧ (r.seen = true → r.points ≤ 24) ∧
      (0 ≤ r.baseSubsidy ∧ r.baseSubsidy ≤ r.allowedSubsidy ∧ r.allowedSubsidy ≤ MAX_MONEY) ∧
      r.bonusSubsidy = r.allowedSubsidy - r.baseSubsidy := by
  obtain ⟨reported, allowed, base⟩ := getpoladdressstatus_ok respond
  obtain ⟨_, answered, -, tip, -, -, bonus⟩ :=
    getpoladdressstatus_pageRequest getBlockSubsidy args tipHeight minerAddr
      (connectAll calls TagState.empty) allowedRead
  rw [respond] at answered
  cases answered
  obtain ⟨unseen, seen⟩ := reportedEntry_connectAll calls (tag12FromAddressString r.address)
  obtain ⟨first, last, time⟩ :=
    entryInRange_connectAll calls times (tag12FromAddressString r.address)
  rw [← reported] at unseen seen first last time
  simp only [AddressStatusResult.status] at unseen seen
  obtain ⟨above, below, -⟩ := getAllowedSubsidy_between getBlockSubsidy allowedRead
    (tag12FromAddressString r.address) r.height subsidy.1
  rw [← allowed, ← base] at above
  rw [← allowed] at below
  have half : 0 ≤ r.baseSubsidy := by
    rw [base, getBaseSubsidy]
    exact Int.tdiv_nonneg subsidy.1 (by decide)
  have capped := subsidy.2
  unfold MAX_MONEY COIN at capped
  have points : FitsInt r.points := by
    cases seenIs : r.seen
    · rw [(unseen seenIs).2.2.2.2.1]; decide
    · obtain ⟨low, high, -⟩ := seen seenIs
      unfold FitsInt; omega
  have difference : r.bonusSubsidy = r.allowedSubsidy - r.baseSubsidy := by
    rw [bonus, bonusSubsidy]; split_ifs <;> omega
  refine ⟨⟨tip ▸ tipFits, first, last, time, points, ?_, ?_, ?_⟩, fun seenIs => (seen seenIs).2.1,
    ⟨half, above, by unfold MAX_MONEY COIN; omega⟩, difference⟩ <;> unfold FitsInt64 <;> omega

theorem toInt32_natCast (n : Nat) (small : n < 4294967296) :
    toInt32 n = if n < 2147483648 then (n : Int) else n - 4294967296 := by
  unfold toInt32
  split_ifs <;> omega

/-- On a built ledger the node answers a wallet page, and either page shows it. -/
theorem walletPages_showStatus (help : String) (getBlockSubsidy : Int → Int) (args : PolArgs)
    (tipHeight : Int) (minerAddr : String) (named : minerAddr.isEmpty = false)
    (history updates : List ConnectCall) (schedule : List Turn) (tipFits : FitsInt tipHeight)
    (times : ∀ call ∈ history ++ updates, FitsInt64 call.blockTime)
    (subsidy : ∀ height, 0 ≤ getBlockSubsidy height ∧ getBlockSubsidy height ≤ MAX_MONEY)
    (response : Except RpcException AddressStatusResult)
    (respond : addressStatusResponse help getBlockSubsidy args tipHeight [.str minerAddr]
      (connectAll history TagState.empty) updates schedule = some response)
    (loyaltyPage : LoyaltyPage.State) (overviewPage : OverviewPage.State) :
    ∃ r reply, response = .ok r ∧ r.address = minerAddr ∧ addressStatusObject r = some reply ∧
      LoyaltyPage.refreshPolStatus true minerAddr (.ok reply) loyaltyPage =
        some (.ok (LoyaltyPage.State.ofReport minerAddr r (referenceLevel r.seen r.points))) ∧
      OverviewPage.refreshPolStatus true true minerAddr (.ok reply) overviewPage =
        some (.ok { OverviewPage.State.ofReport r (referenceLevel r.seen r.points) with
          blocksSeen := toInt32 r.blocksSeen.toNat }) ∧
      r.allowedSubsidy - r.baseSubsidy = r.bonusSubsidy ∧
      max 0 (r.allowedSubsidy - r.baseSubsidy) = r.bonusSubsidy ∧
      toInt32 r.blocksSeen.toNat =
        if r.blocksSeen.toNat < 2147483648 then (r.blocksSeen.toNat : Int)
        else r.blocksSeen.toNat - 4294967296 := by
  obtain ⟨before, between, growing, answer⟩ := addressStatusResponse_reads respond
  rw [← connectAll_append, getpoladdressstatusRequest_address] at answer
  obtain ⟨r, ok, address, -, level, text, -⟩ :=
    getpoladdressstatus_pageRequest getBlockSubsidy args tipHeight minerAddr
      (connectAll (history ++ before) TagState.empty)
      (connectAll between (connectAll (history ++ before) TagState.empty))
  have earlier : ∀ call ∈ history ++ before, FitsInt64 call.blockTime := by
    intro call mem
    rcases List.mem_append.1 mem with old | new
    · exact times call (List.mem_append_left _ old)
    · exact times call (List.mem_append_right _ (((List.prefix_append _ _).trans growing).subset new))
  obtain ⟨inRange, atMost, amounts, bonus⟩ :=
    pageResponse_inRange ok tipFits earlier (subsidy r.height)
  obtain ⟨levelText, textIs⟩ := Option.isSome_iff_exists.1 text
  obtain ⟨nonneg, atMostTwelve⟩ := referenceLevel_bounds r.seen r.points
  have levelFits : FitsInt (referenceLevel r.seen r.points) := by unfold FitsInt; omega
  refine ⟨r, _, answer.trans ok, address, by simp [addressStatusObject, level, textIs], ?_,
    OverviewPage.refreshPolStatus_report minerAddr named r _ levelText inRange levelFits nonneg
      ⟨amounts.1, by omega⟩ overviewPage, bonus.symm, by omega,
    toInt32_natCast _ r.blocksSeen.toNat_lt_size⟩
  rw [LoyaltyPage.refreshPolStatus_report minerAddr named r _ levelText inRange levelFits amounts,
    if_neg fun overflow => by have := atMost overflow.1; omega]

/-- The address `a` whose one block the node has connected, asked for by both pages. -/
theorem walletPages_showStatus_seenTag :
    "a".isEmpty = false ∧ FitsInt 1 ∧
      (∀ call ∈ [tagBlockCall "a"] ++ [], FitsInt64 call.blockTime) ∧
      (∀ height : Int, 0 ≤ (fun _ => 25 * COIN : Int → Int) height ∧
        (fun _ => 25 * COIN : Int → Int) height ≤ MAX_MONEY) ∧
      ∃ response, addressStatusResponse "" (fun _ => 25 * COIN) {} 1 [.str "a"]
          (connectAll [tagBlockCall "a"] TagState.empty) [] [.reader, .reader] = some response ∧
        ∃ r reply, response = .ok r ∧ r.address = "a" ∧ addressStatusObject r = some reply ∧
          LoyaltyPage.refreshPolStatus true "a" (.ok reply) LoyaltyPage.initial =
            some (.ok (LoyaltyPage.State.ofReport "a" r (referenceLevel r.seen r.points))) ∧
          OverviewPage.refreshPolStatus true true "a" (.ok reply) OverviewPage.initial =
            some (.ok { OverviewPage.State.ofReport r (referenceLevel r.seen r.points) with
              blocksSeen := toInt32 r.blocksSeen.toNat }) ∧
          r.allowedSubsidy - r.baseSubsidy = r.bonusSubsidy ∧
          max 0 (r.allowedSubsidy - r.baseSubsidy) = r.bonusSubsidy ∧
          toInt32 r.blocksSeen.toNat =
            if r.blocksSeen.toNat < 2147483648 then (r.blocksSeen.toNat : Int)
            else r.blocksSeen.toNat - 4294967296 := by
  have named : "a".isEmpty = false := rfl
  have tipFits : FitsInt 1 := by decide
  have times : ∀ call ∈ [tagBlockCall "a"] ++ [], FitsInt64 call.blockTime := by
    intro call mem
    rw [List.append_nil, List.mem_singleton] at mem
    rw [mem]
    decide
  have subsidy : ∀ height : Int, 0 ≤ (fun _ => 25 * COIN : Int → Int) height ∧
      (fun _ => 25 * COIN : Int → Int) height ≤ MAX_MONEY :=
    fun _ => show (0 : Int) ≤ 25 * COIN ∧ 25 * COIN ≤ MAX_MONEY by decide
  obtain ⟨response, respond⟩ : ∃ response, addressStatusResponse "" (fun _ => 25 * COIN) {} 1
      [.str "a"] (connectAll [tagBlockCall "a"] TagState.empty) [] [.reader, .reader] =
        some response := ⟨_, rfl⟩
  exact ⟨named, tipFits, times, subsidy, response, respond,
    walletPages_showStatus "" _ {} 1 "a" named [tagBlockCall "a"] [] [.reader, .reader] tipFits
      times subsidy response respond _ _⟩

end Multiflex.Pol
