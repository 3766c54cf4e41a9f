/-
This file models the subsidy a tag may claim and bounds it by the emission schedule.
-/

import MultiflexPol.Ledger

namespace Multiflex.Pol

/-- The value fits the `int64_t` of a `CAmount`. -/
def FitsInt64 (x : Int) : Prop := -9223372036854775808 ≤ x ∧ x ≤ 9223372036854775807

instance (x : Int) : Decidable (FitsInt64 x) := inferInstanceAs (Decidable (_ ∧ _))

def COIN : Int := 100000000

/-- Modelled from the spec: the inherited consensus code's money range bound. -/
def MAX_MONEY : Int := 21000000 * COIN

/-- The points `GetAllowedSubsidy` uses for a tag: its clamped points, or `0` if unseen. -/
def subsidyPoints (state : TagState) (tag : Bytes) : Int :=
  match getMinerTagStatus state tag with
  | some st => clamp st.points 0 24
  | none => 0

/-- `GetAllowedSubsidy` over the consensus code's emission schedule `GetBlockSubsidy`. -/
def getAllowedSubsidy (getBlockSubsidy : Int → Int) (state : TagState) (tag : Bytes)
    (height : Int) : Int :=
  let S := getBlockSubsidy height
  let sBase := S.tdiv 2
  let sLoyal := S - sBase
  let bonus := (sLoyal * subsidyPoints state tag).tdiv 24
  sBase + bonus

def getBaseSubsidy (getBlockSubsidy : Int → Int) (height : Int) : Int :=
  (getBlockSubsidy height).tdiv 2

/-- The `int64_t` values `GetAllowedSubsidy` computes from `S` and the points. -/
def subsidyIntermediates (S points : Int) : List Int :=
  [S.tdiv 2, S - S.tdiv 2, (S - S.tdiv 2) * points, ((S - S.tdiv 2) * points).tdiv 24,
    S.tdiv 2 + ((S - S.tdiv 2) * points).tdiv 24]

/-- The bonus `getpoladdressstatus` reports: the allowed subsidy above the base, or zero. -/
def bonusSubsidy (allowed base : Int) : Int := if allowed > base then allowed - base else 0

/-- The allowed subsidy for `S` and clamped points, in non-negative floor division. -/
def subsidyForPoints (S points : Int) : Int := S / 2 + (S - S / 2) * points / 24

theorem subsidyPoints_bounds (state : TagState) (tag : Bytes) :
    0 ≤ subsidyPoints state tag ∧ subsidyPoints state tag ≤ 24 := by
  unfold subsidyPoints
  split
  · exact clamp_bounds _
  · decide

theorem getAllowedSubsidy_eq (getBlockSubsidy : Int → Int) (state : TagState) (tag : Bytes)
    (height : Int) (nonneg : 0 ≤ getBlockSubsidy height) :
    getAllowedSubsidy getBlockSubsidy state tag height =
      subsidyForPoints (getBlockSubsidy height) (subsidyPoints state tag) := by
  have points := subsidyPoints_bounds state tag
  have loyal : 0 ≤ getBlockSubsidy height - getBlockSubsidy height / 2 := by omega
  simp only [getAllowedSubsidy, subsidyForPoints]
  rw [Int.tdiv_eq_ediv nonneg (by decide), Int.tdiv_eq_ediv (Int.mul_nonneg loyal points.1)
    (by decide)]

/-- The loyal half is paid out in 24ths, truncated, and more points never pay less. -/
theorem loyalShare_mono {loyal p q : Int} (nonneg : 0 ≤ loyal) (le : p ≤ q) :
    loyal * p / 24 ≤ loyal * q / 24 :=
  Int.ediv_le_ediv (by decide) (Int.mul_le_mul_of_nonneg_left le nonneg)

theorem subsidyForPoints_mono {S p q : Int} (nonneg : 0 ≤ S) (le : p ≤ q) :
    subsidyForPoints S p ≤ subsidyForPoints S q := by
  have := loyalShare_mono (show 0 ≤ S - S / 2 by omega) le
  unfold subsidyForPoints
  omega

/-- Between zero and 24 points the subsidy runs from exactly the base to exactly `S`. -/
theorem subsidyForPoints_bounds {S p : Int} (nonneg : 0 ≤ S) (low : 0 ≤ p) (high : p ≤ 24) :
    subsidyForPoints S 0 = S / 2 ∧ subsidyForPoints S 24 = S ∧
      S / 2 ≤ subsidyForPoints S p ∧ subsidyForPoints S p ≤ S := by
  have bottom : subsidyForPoints S 0 = S / 2 := by simp [subsidyForPoints]
  have top : subsidyForPoints S 24 = S := by
    rw [subsidyForPoints, Int.mul_ediv_cancel _ (by decide)]; omega
  exact ⟨bottom, top, bottom.symm.trans_le (subsidyForPoints_mono nonneg low),
    (subsidyForPoints_mono nonneg high).trans_eq top⟩

theorem subsidyIntermediates_fit {S p : Int} (nonneg : 0 ≤ S) (capped : S ≤ MAX_MONEY)
    (low : 0 ≤ p) (high : p ≤ 24) : ∀ x ∈ subsidyIntermediates S p, FitsInt64 x := by
  have loyal : 0 ≤ S - S / 2 := by omega
  have product : (S - S / 2) * p ≤ (S - S / 2) * 24 := Int.mul_le_mul_of_nonneg_left high loyal
  have share := loyalShare_mono loyal low
  rw [Int.mul_zero, Int.zero_ediv] at share
  have shareTop := loyalShare_mono loyal high
  rw [Int.mul_ediv_cancel _ (by decide)] at shareTop
  have positive := Int.mul_nonneg loyal low
  unfold subsidyIntermediates
  rw [Int.tdiv_eq_ediv nonneg (by decide), Int.tdiv_eq_ediv positive (by decide)]
  simp only [List.mem_cons, List.mem_singleton, List.not_mem_nil, or_false, forall_eq_or_imp,
    forall_eq, FitsInt64]
  unfold MAX_MONEY COIN at capped
  omega

/-- The subsidy falls short of `S` while the points are below 24. -/
theorem subsidyForPoints_lt {S p : Int} (positive : 0 < S) (high : p ≤ 23) :
    subsidyForPoints S p < S := by
  have loyal : 0 < S - S / 2 := by omega
  have below : (S - S / 2) * p ≤ (S - S / 2) * 23 :=
    Int.mul_le_mul_of_nonneg_left high (Int.le_of_lt loyal)
  unfold subsidyForPoints
  omega

/-- In the money range, the allowed subsidy is the spec's formula, from base to `S`. -/
theorem getAllowedSubsidy_bounds (getBlockSubsidy : Int → Int) (height : Int)
    (inRange : 0 ≤ getBlockSubsidy height ∧ getBlockSubsidy height ≤ MAX_MONEY)
    (state : TagState) (tag : Bytes) (p : Int)
    (tagPoints : p = match getMinerTagStatus state tag with
      | some st => clamp st.points 0 24
      | none => 0) :
    (∀ x ∈ subsidyIntermediates (getBlockSubsidy height) p, FitsInt64 x) ∧
    getAllowedSubsidy getBlockSubsidy state tag height =
      getBlockSubsidy height / 2 + (getBlockSubsidy height - getBlockSubsidy height / 2) * p / 24 ∧
    getBaseSubsidy getBlockSubsidy height ≤ getAllowedSubsidy getBlockSubsidy state tag height ∧
    getAllowedSubsidy getBlockSubsidy state tag height ≤ getBlockSubsidy height ∧
    (p = 0 →
      getAllowedSubsidy getBlockSubsidy state tag height = getBaseSubsidy getBlockSubsidy height) ∧
    (p = 24 → getAllowedSubsidy getBlockSubsidy state tag height = getBlockSubsidy height) ∧
    (0 < getBlockSubsidy height →
      getAllowedSubsidy getBlockSubsidy state tag height = getBlockSubsidy height → p = 24) ∧
    (∀ state' q, (q = match getMinerTagStatus state' tag with
        | some st => clamp st.points 0 24
        | none => 0) → p ≤ q →
      getAllowedSubsidy getBlockSubsidy state tag height ≤
        getAllowedSubsidy getBlockSubsidy state' tag height) ∧
    bonusSubsidy (getAllowedSubsidy getBlockSubsidy state tag height)
        (getBaseSubsidy getBlockSubsidy height) =
      getAllowedSubsidy getBlockSubsidy state tag height - getBaseSubsidy getBlockSubsidy height := by
  obtain ⟨nonneg, capped⟩ := inRange
  have subsidy : subsidyPoints state tag = p := tagPoints.symm
  obtain ⟨low, high⟩ : 0 ≤ p ∧ p ≤ 24 := subsidy ▸ subsidyPoints_bounds state tag
  obtain ⟨bottom, top, above, below⟩ := subsidyForPoints_bounds nonneg low high
  have base : getBaseSubsidy getBlockSubsidy height = getBlockSubsidy height / 2 :=
    Int.tdiv_eq_ediv nonneg (by decide)
  rw [base, getAllowedSubsidy_eq getBlockSubsidy state tag height nonneg, subsidy]
  refine ⟨subsidyIntermediates_fit nonneg capped low high, rfl, above, below,
    fun zero => by rw [zero, bottom], fun full => by rw [full, top], fun positive full => ?_,
    fun state' q points le => ?_, ?_⟩
  · by_contra short
    exact Int.ne_of_lt (subsidyForPoints_lt positive (by omega)) full
  · rw [getAllowedSubsidy_eq getBlockSubsidy state' tag height nonneg]
    exact subsidyForPoints_mono nonneg (le.trans_eq points)
  · rw [bonusSubsidy]
    split_ifs <;> omega

/-- The ledger after one block of tag `01020304` at height 1, default options. -/
def oneTagBlock : TagState := onConnectBlock {} (markerBlock [1, 2, 3, 4] 0) 1 0 TagState.empty

theorem getAllowedSubsidy_bounds_seenTag :
    (0 ≤ 25 * COIN ∧ 25 * COIN ≤ MAX_MONEY) ∧
      (2 = match getMinerTagStatus oneTagBlock [1, 2, 3, 4] with
        | some st => clamp st.points 0 24
        | none => 0) ∧
      getAllowedSubsidy (fun _ => 25 * COIN) oneTagBlock [1, 2, 3, 4] 1 =
        25 * COIN / 2 + (25 * COIN - 25 * COIN / 2) * 2 / 24 :=
  have inRange : 0 ≤ 25 * COIN ∧ 25 * COIN ≤ MAX_MONEY := by decide
  have seen : 2 = match getMinerTagStatus oneTagBlock [1, 2, 3, 4] with
      | some st => clamp st.points 0 24
      | none => 0 := by decide
  ⟨inRange, seen,
    (getAllowedSubsidy_bounds (fun _ => 25 * COIN) 1 inRange oneTagBlock [1, 2, 3, 4] 2 seen).2.1⟩

/-! ### What one block does to the subsidy of a tag -/

theorem clamp_mono {a b : Int} (le : a ≤ b) : clamp a 0 24 ≤ clamp b 0 24 := by
  unfold clamp; split_ifs <;> omega

theorem clamp_clamp (value : Int) : clamp (clamp value 0 24) 0 24 = clamp value 0 24 := by
  unfold clamp; split_ifs <;> omega

/-- The points `GetAllowedSubsidy` reads after a block: the credited entry's, else the old. -/
theorem subsidyPoints_onConnectBlock (args : PolArgs) (block : Block) (height blockTime : Int)
    (state : TagState) (tag : Bytes) :
    subsidyPoints (onConnectBlock args block height blockTime state) tag =
      if creditedKey args block height = some (hexStr tag) then
        clamp (connectStatus ((getMinerTagStatus state tag).getD {}) height blockTime
          (monthIndex height args.polMonthBlocks)).points 0 24
      else subsidyPoints state tag := by
  unfold subsidyPoints getMinerTagStatus
  rw [onConnectBlock_apply]
  split_ifs <;> rfl

/-- An update keeps the clamped points unless four or more months passed. -/
theorem connectStatus_points_ge (s : MinerTagStatus) (height blockTime month : Int)
    (recent : s.seen = true → month ≤ s.lastSeenMonth + 3) :
    clamp s.points 0 24 ≤ clamp (connectStatus s height blockTime month).points 0 24 := by
  cases seen : s.seen
  · have first : (connectStatus s height blockTime month).points = clamp (s.points + 2) 0 24 := by
      simp [connectStatus, seen]
    rw [first, clamp_clamp]
    exact clamp_mono (by omega)
  · by_cases later : s.lastSeenMonth < month
    · rw [connectStatus_newMonth seen later]
      dsimp only
      rw [clamp_clamp]
      exact clamp_mono (by have := recent seen; omega)
    · simp only [connectStatus_sameMonth seen (Int.not_lt.1 later)]
      exact Int.le_refl _

/-- A block changes only its own tag's subsidy, lowering it only after four idle months. -/
theorem onConnectBlock_allowedSubsidy (getBlockSubsidy : Int → Int) (args : PolArgs)
    (block : Block) (height blockTime : Int) (state : TagState) (tag : Bytes) (claimHeight : Int)
    (inRange : 0 ≤ getBlockSubsidy claimHeight ∧ getBlockSubsidy claimHeight ≤ MAX_MONEY) :
    (creditedKey args block height ≠ some (hexStr tag) →
      getAllowedSubsidy getBlockSubsidy (onConnectBlock args block height blockTime state) tag
          claimHeight =
        getAllowedSubsidy getBlockSubsidy state tag claimHeight) ∧
    ((∀ s, getMinerTagStatus state tag = some s → s.seen = true →
        monthIndex height args.polMonthBlocks ≤ s.lastSeenMonth + 3) →
      getAllowedSubsidy getBlockSubsidy state tag claimHeight ≤
        getAllowedSubsidy getBlockSubsidy (onConnectBlock args block height blockTime state) tag
          claimHeight) := by
  have points := subsidyPoints_onConnectBlock args block height blockTime state tag
  refine ⟨fun other => by simp only [getAllowedSubsidy, points, if_neg other], fun recent => ?_⟩
  rw [getAllowedSubsidy_eq _ _ _ _ inRange.1, getAllowedSubsidy_eq _ _ _ _ inRange.1]
  refine subsidyForPoints_mono inRange.1 ?_
  rw [points]
  split_ifs
  · unfold subsidyPoints
    cases entry : getMinerTagStatus state tag with
    | none => exact (clamp_bounds _).1
    | some s => exact connectStatus_points_ge s height blockTime _ (recent s entry)
  · exact Int.le_refl _

/-- A second block of seen tag `01020304` at height 2; tag `05060708` unseen. -/
theorem onConnectBlock_allowedSubsidy_secondBlock :
    (0 ≤ 25 * COIN ∧ 25 * COIN ≤ MAX_MONEY) ∧
    (creditedKey {} (markerBlock [1, 2, 3, 4] 0) 2 ≠ some (hexStr [5, 6, 7, 8]) ∧
      getAllowedSubsidy (fun _ => 25 * COIN)
          (onConnectBlock {} (markerBlock [1, 2, 3, 4] 0) 2 0 oneTagBlock) [5, 6, 7, 8] 3 =
        getAllowedSubsidy (fun _ => 25 * COIN) oneTagBlock [5, 6, 7, 8] 3) ∧
    ((∀ s, getMinerTagStatus oneTagBlock [1, 2, 3, 4] = some s → s.seen = true →
        monthIndex 2 ({} : PolArgs).polMonthBlocks ≤ s.lastSeenMonth + 3) ∧
      getAllowedSubsidy (fun _ => 25 * COIN) oneTagBlock [1, 2, 3, 4] 3 ≤
        getAllowedSubsidy (fun _ => 25 * COIN)
          (onConnectBlock {} (markerBlock [1, 2, 3, 4] 0) 2 0 oneTagBlock) [1, 2, 3, 4] 3) :=
  have inRange : 0 ≤ 25 * COIN ∧ 25 * COIN ≤ MAX_MONEY := by decide
  have other : creditedKey {} (markerBlock [1, 2, 3, 4] 0) 2 ≠ some (hexStr [5, 6, 7, 8]) := by
    decide
  have recent : ∀ s, getMinerTagStatus oneTagBlock [1, 2, 3, 4] = some s → s.seen = true →
      monthIndex 2 ({} : PolArgs).polMonthBlocks ≤ s.lastSeenMonth + 3 := by
    intro s found _
    cases found
    decide
  have connected := onConnectBlock_allowedSubsidy (fun _ => 25 * COIN) {}
    (markerBlock [1, 2, 3, 4] 0) 2 0 oneTagBlock
  ⟨inRange, ⟨other, (connected [5, 6, 7, 8] 3 inRange).1 other⟩,
    ⟨recent, (connected [1, 2, 3, 4] 3 inRange).2 recent⟩⟩

end Multiflex.Pol
