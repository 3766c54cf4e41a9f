/-
This file shows that every `getpoladdressstatus` response keeps its help text's promises.
-/

import MultiflexPol.AddressStatus

namespace Multiflex.Pol

theorem toUInt32_shiftLeft_toNat (byte : UInt8) (shift : UInt32) (small : shift.toNat ≤ 24) :
    (byte.toUInt32 <<< shift).toNat = 2 ^ shift.toNat * byte.toNat := by
  have bound : byte.toNat < 256 := byte.toNat_lt_size
  have masked : (shift.mod 32).toBitVec.toNat = shift.toNat := by
    change (shift.toBitVec % BitVec.ofNat 32 32).toNat = shift.toNat
    rw [BitVec.toNat_umod, BitVec.toNat_ofNat]
    change shift.toNat % 32 = shift.toNat
    omega
  change (byte.toUInt32.toBitVec <<< (shift.mod 32).toBitVec.toNat).toNat = _
  rw [masked, BitVec.toNat_shiftLeft, Nat.shiftLeft_eq]
  change byte.toNat * 2 ^ shift.toNat % 2 ^ 32 = _
  rw [Nat.mod_eq_of_lt, Nat.mul_comm]
  calc byte.toNat * 2 ^ shift.toNat < 256 * 2 ^ shift.toNat :=
        Nat.mul_lt_mul_of_pos_right bound (Nat.two_pow_pos _)
    _ ≤ 256 * 2 ^ 24 := Nat.mul_le_mul_left _ (Nat.pow_le_pow_right (by decide) small)
    _ = 2 ^ 32 := by decide

/-- A value below `2^i` and a multiple of `2^i` share no bit. -/
theorem or_two_pow_mul {low : Nat} {i : Nat} (small : low < 2 ^ i) (high : Nat) :
    low ||| 2 ^ i * high = 2 ^ i * high + low := by
  rw [Nat.or_comm, Nat.mul_add_lt_is_or small]

theorem UInt32.toNat_or' (a b : UInt32) : (a ||| b).toNat = a.toNat ||| b.toNat :=
  BitVec.toNat_or _ _

/-- `miner_tag_u32` is the little-endian value of the first four bytes of the tag. -/
theorem tagU32_toNat {tag : Bytes} (long : 4 ≤ tag.length) :
    (tagU32 tag).toNat = (tag.getD 0 0).toNat + 2 ^ 8 * (tag.getD 1 0).toNat +
      2 ^ 16 * (tag.getD 2 0).toNat + 2 ^ 24 * (tag.getD 3 0).toNat := by
  have b0 : (tag.getD 0 0).toNat < 256 := (tag.getD 0 0).toNat_lt_size
  have b1 : (tag.getD 1 0).toNat < 256 := (tag.getD 1 0).toNat_lt_size
  have b2 : (tag.getD 2 0).toNat < 256 := (tag.getD 2 0).toNat_lt_size
  rw [tagU32, if_pos long]
  simp only [UInt32.toNat_or', toUInt32_shiftLeft_toNat _ 8 (by decide),
    toUInt32_shiftLeft_toNat _ 16 (by decide), toUInt32_shiftLeft_toNat _ 24 (by decide)]
  change (((tag.getD 0 0).toNat ||| 2 ^ 8 * _) ||| 2 ^ 16 * _) ||| 2 ^ 24 * _ = _
  rw [@or_two_pow_mul _ 8 (by omega), @or_two_pow_mul _ 16 (by omega),
    @or_two_pow_mul _ 24 (by omega)]
  omega

/-- The allowed subsidy lies between base and `S`; the bonus is the difference. -/
theorem getAllowedSubsidy_between (getBlockSubsidy : Int → Int) (state : TagState) (tag : Bytes)
    (height : Int) (nonneg : 0 ≤ getBlockSubsidy height) :
    getBaseSubsidy getBlockSubsidy height ≤ getAllowedSubsidy getBlockSubsidy state tag height ∧
      getAllowedSubsidy getBlockSubsidy state tag height ≤ getBlockSubsidy height ∧
      bonusSubsidy (getAllowedSubsidy getBlockSubsidy state tag height)
          (getBaseSubsidy getBlockSubsidy height) =
        getAllowedSubsidy getBlockSubsidy state tag height - getBaseSubsidy getBlockSubsidy height := by
  obtain ⟨low, high⟩ := subsidyPoints_bounds state tag
  obtain ⟨-, -, above, below⟩ := subsidyForPoints_bounds nonneg low high
  have base : getBaseSubsidy getBlockSubsidy height = getBlockSubsidy height / 2 :=
    Int.tdiv_eq_ediv nonneg (by decide)
  rw [base, getAllowedSubsidy_eq getBlockSubsidy state tag height nonneg, bonusSubsidy]
  refine ⟨above, below, ?_⟩
  split_ifs <;> omega

/-- What the help text of `getpoladdressstatus` says of each field of a result. -/
structure AddressStatusResult.Documented (getBlockSubsidy : Int → Int)
    (r : AddressStatusResult) : Prop where
  height : 0 ≤ r.height
  tag : r.minerTagHex = hexStr (tag12FromAddressString r.address) ∧ r.minerTagLen = 12
  tagU32 : r.minerTagU32.toNat = ((tag12FromAddressString r.address).getD 0 0).toNat +
    2 ^ 8 * ((tag12FromAddressString r.address).getD 1 0).toNat +
    2 ^ 16 * ((tag12FromAddressString r.address).getD 2 0).toNat +
    2 ^ 24 * ((tag12FromAddressString r.address).getD 3 0).toNat
  extranonce : 0 ≤ r.extranonce1Size ∧ r.extranonce1Size ≤ 16
  unseen : r.seen = false → r.firstSeenHeight = -1 ∧ r.lastSeenHeight = -1 ∧ r.blocksSeen = 0 ∧
    r.lastSeenTime = 0 ∧ r.points = 0 ∧ r.lastSeenMonth = -1
  seen : r.seen = true → 0 ≤ r.points ∧ r.points ≤ 24 ∧ 0 ≤ r.lastSeenMonth
  level : r.level = some (referenceLevel r.seen r.points)
  subsidy : r.baseSubsidy = getBaseSubsidy getBlockSubsidy r.height ∧
    r.baseSubsidy ≤ r.allowedSubsidy ∧ r.allowedSubsidy ≤ getBlockSubsidy r.height ∧
    r.bonusSubsidy = r.allowedSubsidy - r.baseSubsidy

/-- On a built ledger the reported entry is the unseen default or a seen one. -/
theorem reportedEntry_connectAll (calls : List ConnectCall) (tag : Bytes) :
    let st := (getMinerTagStatus (connectAll calls TagState.empty) tag).getD
      { seen := false, firstSeenHeight := -1, lastSeenHeight := -1, blocksSeen := 0,
        lastSeenTime := 0, points := 0, lastSeenMonth := -1 }
    (st.seen = false → st.firstSeenHeight = -1 ∧ st.lastSeenHeight = -1 ∧ st.blocksSeen = 0 ∧
      st.lastSeenTime = 0 ∧ st.points = 0 ∧ st.lastSeenMonth = -1) ∧
    (st.seen = true → 0 ≤ st.points ∧ st.points ≤ 24 ∧ 0 ≤ st.lastSeenMonth) := by
  have bound := accrualBound_connectAll calls (hexStr tag)
  unfold getMinerTagStatus
  cases entry : connectAll calls TagState.empty (hexStr tag) with
  | none => exact ⟨fun _ => ⟨rfl, rfl, rfl, rfl, rfl, rfl⟩, fun unseen => by cases unseen⟩
  | some s =>
    rw [entry] at bound
    obtain ⟨seen, low, high, -, lastActive, -⟩ := bound
    refine ⟨fun unseen => ?_, fun _ => ⟨low, high, (activeMonths_bounds _ _ lastActive).1⟩⟩
    simp [seen] at unseen

/-- Every interleaved response on a built ledger keeps its help text's promises. -/
theorem addressStatusResponse_documented (help : String) (getBlockSubsidy : Int → Int)
    (args : PolArgs) (tipHeight : Int) (params : List UniValue)
    (history updates : List ConnectCall) (schedule : List Turn) (r : AddressStatusResult)
    (respond : addressStatusResponse help getBlockSubsidy args tipHeight params
      (connectAll history TagState.empty) updates schedule = some (.ok r))
    (inRange : 0 ≤ getBlockSubsidy r.height ∧ getBlockSubsidy r.height ≤ MAX_MONEY) :
    r.Documented getBlockSubsidy := by
  obtain ⟨before, between, -, response⟩ := addressStatusResponse_reads respond
  have answered := getpoladdressstatusRequest_ok response.symm
  rw [← connectAll_append] at answered
  unfold getpoladdressstatus at answered
  obtain ⟨addressIn, -, answered⟩ := Except.bind_eq_ok answered
  obtain ⟨height, -, answered⟩ := Except.bind_eq_ok answered
  cases answered
  obtain ⟨unseen, seen⟩ := reportedEntry_connectAll (history ++ before)
    (tag12FromAddressString addressIn)
  have sized := length_tag12FromAddressString addressIn
  refine ⟨?_, ⟨rfl, by simp [sized]⟩, tagU32_toNat (by omega), ?_, unseen, seen,
    clampFirstLevel_eq _ _, ⟨rfl, getAllowedSubsidy_between _ _ _ _ inRange.1⟩⟩
  · dsimp only
    split_ifs <;> omega
  · unfold getConfiguredExtraNonce1Size
    dsimp only
    split_ifs <;> omega

theorem addressStatusResponse_documented_tornRead :
    ∃ r, addressStatusResponse "" (fun _ => 25 * COIN) {} 1 [.str "a"]
        (connectAll [] TagState.empty) [tagBlockCall "a"] [.reader, .writer, .reader] =
          some (.ok r) ∧
      (0 ≤ (fun _ => 25 * COIN : Int → Int) r.height ∧
        (fun _ => 25 * COIN : Int → Int) r.height ≤ MAX_MONEY) ∧
      r.Documented (fun _ => 25 * COIN) := by
  obtain ⟨r, respond⟩ : ∃ r, addressStatusResponse "" (fun _ => 25 * COIN) {} 1 [.str "a"]
      (connectAll [] TagState.empty) [tagBlockCall "a"] [.reader, .writer, .reader] =
        some (.ok r) := ⟨_, rfl⟩
  have inRange : 0 ≤ (fun _ => 25 * COIN : Int → Int) r.height ∧
      (fun _ => 25 * COIN : Int → Int) r.height ≤ MAX_MONEY :=
    show (0 : Int) ≤ 25 * COIN ∧ 25 * COIN ≤ MAX_MONEY by decide
  exact ⟨r, respond, inRange, addressStatusResponse_documented "" _ {} 1 [.str "a"] []
    [tagBlockCall "a"] _ r respond inRange⟩

end Multiflex.Pol
