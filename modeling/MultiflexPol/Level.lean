/-
This file models the three `PolLevelFromPoints` and compares them with the spec.
-/

import MultiflexPol.Ledger

namespace Multiflex.Pol

/-- C++ `int` addition: `none` where it overflows, which is undefined. -/
def intAdd (a b : Int) : Option Int := if FitsInt (a + b) then some (a + b) else none

/-- The spec's level: `0` if unseen or without points, otherwise `min(12, ⌈points/2⌉)`. -/
def referenceLevel (seen : Bool) (points : Int) : Int :=
  if !seen || points ≤ 0 then 0 else min 12 (-((-points) / 2))

/-- The level of the RPC layer and the overview page, clamping first. -/
def clampFirstLevel (seen : Bool) (points : Int) : Option Int :=
  if !seen || points ≤ 0 then some 0
  else
    let points := if points > 24 then 24 else points
    (intAdd points 1).map fun sum => min 12 (max 0 (sum.tdiv 2))

/-- `PolLevelFromPoints(seen, points)` of `rpc/pol.cpp`. -/
def Rpc.polLevelFromPoints (seen : Bool) (points : Int) : Option Int :=
  clampFirstLevel seen points

/-- `PolLevelFromPoints(seen, points)` of the overview page. -/
def OverviewPage.polLevelFromPoints (seen : Bool) (points : Int) : Option Int :=
  clampFirstLevel seen points

/-- `PolLevelFromPoints(points, seen)` of the loyalty page, which adds one before clamping. -/
def LoyaltyPage.polLevelFromPoints (points : Int) (seen : Bool) : Option Int :=
  if !seen then some 0
  else if points ≤ 0 then some 0
  else
    (intAdd points 1).map fun sum =>
      let lvl := sum.tdiv 2
      let lvl := if lvl < 0 then 0 else lvl
      if lvl > 12 then 12 else lvl

/-- The RPC and overview levels are the spec's level for every `int`. -/
theorem clampFirstLevel_eq (seen : Bool) (points : Int) :
    clampFirstLevel seen points = some (referenceLevel seen points) := by
  cases seen
  · rfl
  · simp only [clampFirstLevel, referenceLevel, Bool.not_true, Bool.false_or, decide_eq_true_eq]
    split_ifs with nonPositive large
    · rfl
    all_goals
      simp only [intAdd, FitsInt]
      rw [if_pos (by omega), Option.map_some', Int.tdiv_eq_ediv (by omega) (by decide)]
      congr 1
      omega

/-- The loyalty page's level is the spec's, except at `INT_MAX` seen. -/
theorem loyaltyPageLevel_eq (seen : Bool) (points : Int) (fits : FitsInt points) :
    LoyaltyPage.polLevelFromPoints points seen =
      if seen ∧ points = 2147483647 then none else some (referenceLevel seen points) := by
  unfold FitsInt at fits
  cases seen
  · rfl
  · simp only [LoyaltyPage.polLevelFromPoints, referenceLevel, Bool.not_true, Bool.false_or,
      decide_eq_true_eq, true_and, Bool.false_eq_true, ↓reduceIte]
    split_ifs with nonPositive top top
    · omega
    · rfl
    · simp [intAdd, FitsInt, top]
    · simp only [intAdd, FitsInt]
      rw [if_pos (by omega), Option.map_some', Int.tdiv_eq_ediv (by omega) (by decide)]
      congr 1
      split_ifs <;> omega

/-- At `INT_MAX` seen, the loyalty page's `points + 1` overflows. -/
theorem polLevelFromPoints_intMax :
    Rpc.polLevelFromPoints true 2147483647 = some 12 ∧
      OverviewPage.polLevelFromPoints true 2147483647 = some 12 ∧
      LoyaltyPage.polLevelFromPoints 2147483647 true = none := by
  decide

end Multiflex.Pol
