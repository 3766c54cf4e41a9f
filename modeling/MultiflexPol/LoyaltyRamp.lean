/-
This file follows a tag's points and subsidy over consecutive active months.
-/

import MultiflexPol.MonthFold
import MultiflexPol.Subsidy

namespace Multiflex.Pol

/-- Over `n + 1` consecutive months the spec's fold gains two points a month. -/
theorem referenceAccrual_consecutive (first : Int) (n : Nat) :
    referenceAccrual ((List.range (n + 1)).map fun i : Nat => first + i) =
      some (min (2 * ((n : Int) + 1)) 24, first + n) := by
  induction n with
  | zero => rfl
  | succ n ih =>
    rw [List.range_succ, List.map_append, List.map_singleton, referenceAccrual_snoc _ _ _ _ ih]
    simp only [clamp, Option.some.injEq, Prod.mk.injEq, and_true]
    split_ifs <;> omega

/-- Calls in exactly the months `first` to `first + n` have those distinct months. -/
theorem distinctMonths_interval (args : PolArgs) (calls : List ConnectCall)
    (fixed : ∀ call ∈ calls, call.args = args)
    (increasing : (calls.map (·.height)).Sorted (· < ·)) (key : String) (first : Int) (n : Nat)
    (interval : ∀ m, m ∈ activeMonths (creditedCalls calls key) ↔ first ≤ m ∧ m ≤ first + n) :
    distinctMonths (activeMonths (creditedCalls calls key)) =
      (List.range (n + 1)).map fun i : Nat => first + (i : Int) := by
  have distinctSorted := distinctMonths_sorted (activeMonths_sorted args calls fixed increasing key)
  have rangeSorted : ((List.range (n + 1)).map fun i : Nat => first + (i : Int)).Sorted (· < ·) :=
    (List.pairwise_lt_range _).map _ fun _ _ lt => by omega
  refine List.eq_of_perm_of_sorted ((List.perm_ext_iff_of_nodup distinctSorted.nodup
    rangeSorted.nodup).2 fun m => ?_) distinctSorted rangeSorted
  rw [mem_distinctMonths, interval, List.mem_map]
  simp only [List.mem_range]
  exact ⟨fun within => ⟨(m - first).toNat, by omega, by omega⟩, fun ⟨i, below, sum⟩ => by omega⟩

/-- Calls credited to other keys leave an entry as it was. -/
theorem connectAll_entry_of_uncredited (calls : List ConnectCall) (state : TagState)
    (key : String) (quiet : ∀ call ∈ calls, call.key ≠ some key) :
    connectAll calls state key = state key := by
  rw [connectAll_entry, creditedCalls, List.filter_eq_nil_iff.2 fun call mem => by
    simpa using quiet call mem]
  rfl

/-- The loyalty ramp: consecutive months earn points; other tags' blocks change nothing. -/
theorem loyaltyRamp (getBlockSubsidy : Int → Int) (args : PolArgs) (calls : List ConnectCall)
    (fixed : ∀ call ∈ calls, call.args = args)
    (increasing : (calls.map (·.height)).Sorted (· < ·)) (tag : Bytes) (first : Int) (n : Nat)
    (consecutive : ∀ m, m ∈ activeMonths (creditedCalls calls (hexStr tag)) ↔
      first ≤ m ∧ m ≤ first + n) :
    (∃ s, getMinerTagStatus (connectAll calls TagState.empty) tag = some s ∧
        s.points = min (2 * ((n : Int) + 1)) 24 ∧ s.lastSeenMonth = first + n) ∧
      (∀ height, 0 ≤ getBlockSubsidy height ∧ getBlockSubsidy height ≤ MAX_MONEY →
        getAllowedSubsidy getBlockSubsidy (connectAll calls TagState.empty) tag height =
          subsidyForPoints (getBlockSubsidy height) (min (2 * ((n : Int) + 1)) 24)) ∧
      (11 ≤ n → ∀ height, 0 ≤ getBlockSubsidy height ∧ getBlockSubsidy height ≤ MAX_MONEY →
        getAllowedSubsidy getBlockSubsidy (connectAll calls TagState.empty) tag height =
          getBlockSubsidy height) ∧
      ∀ later : List ConnectCall, (∀ call ∈ later, call.key ≠ some (hexStr tag)) →
        getMinerTagStatus (connectAll (calls ++ later) TagState.empty) tag =
          getMinerTagStatus (connectAll calls TagState.empty) tag := by
  have fold := connectAll_referenceAccrual args calls fixed increasing (hexStr tag)
  rw [distinctMonths_interval args calls fixed increasing _ first n consecutive,
    referenceAccrual_consecutive] at fold
  obtain ⟨s, entry, points, month⟩ : ∃ s, getMinerTagStatus (connectAll calls TagState.empty)
      tag = some s ∧ s.points = min (2 * ((n : Int) + 1)) 24 ∧ s.lastSeenMonth = first + n := by
    cases found : connectAll calls TagState.empty (hexStr tag) with
    | none => rw [found] at fold; cases fold
    | some s =>
      rw [found, Option.map_some', Option.some.injEq, Prod.mk.injEq] at fold
      exact ⟨s, found, fold⟩
  have allowed : ∀ height, 0 ≤ getBlockSubsidy height ∧ getBlockSubsidy height ≤ MAX_MONEY →
      getAllowedSubsidy getBlockSubsidy (connectAll calls TagState.empty) tag height =
        subsidyForPoints (getBlockSubsidy height) (min (2 * ((n : Int) + 1)) 24) := by
    intro height ⟨nonneg, _⟩
    have clamped : clamp (min (2 * ((n : Int) + 1)) 24) 0 24 = min (2 * ((n : Int) + 1)) 24 := by
      unfold clamp
      split_ifs <;> omega
    rw [getAllowedSubsidy_eq _ _ _ _ nonneg, subsidyPoints, entry]
    dsimp only
    rw [points, clamped]
  refine ⟨⟨s, entry, points, month⟩, allowed, fun twelve height inRange => ?_,
    fun later quiet => ?_⟩
  · rw [allowed height inRange, show min (2 * ((n : Int) + 1)) 24 = 24 by omega]
    exact (subsidyForPoints_bounds inRange.1 (Int.le_refl 0) (by decide : (0 : Int) ≤ 24)).2.1
  · rw [getMinerTagStatus, getMinerTagStatus, connectAll_append,
      connectAll_entry_of_uncredited later _ _ quiet]

/-- One tag mined at heights 5 and 15, in months 0 and 1. -/
def steadyCalls : List ConnectCall :=
  [⟨tenBlockMonths, markerBlock [1, 2, 3, 4] 0, 5, 100, by decide⟩,
   ⟨tenBlockMonths, markerBlock [1, 2, 3, 4] 0, 15, 200, by decide⟩]

theorem loyaltyRamp_steadyCalls :
    (∀ call ∈ steadyCalls, call.args = tenBlockMonths) ∧
      (steadyCalls.map (·.height)).Sorted (· < ·) ∧
      (∀ m, m ∈ activeMonths (creditedCalls steadyCalls (hexStr [1, 2, 3, 4])) ↔
        0 ≤ m ∧ m ≤ 0 + (1 : Nat)) ∧
      ∃ s, getMinerTagStatus (connectAll steadyCalls TagState.empty) [1, 2, 3, 4] = some s ∧
        s.points = 4 ∧ s.lastSeenMonth = 1 :=
  have fixed : ∀ call ∈ steadyCalls, call.args = tenBlockMonths := by decide
  have increasing : (steadyCalls.map (·.height)).Sorted (· < ·) := by decide
  have consecutive : ∀ m, m ∈ activeMonths (creditedCalls steadyCalls (hexStr [1, 2, 3, 4])) ↔
      0 ≤ m ∧ m ≤ 0 + (1 : Nat) := fun m => by
    rw [show activeMonths (creditedCalls steadyCalls (hexStr [1, 2, 3, 4])) = [0, 1] by decide]
    simp only [List.mem_cons, List.mem_singleton, List.not_mem_nil, or_false]
    omega
  ⟨fixed, increasing, consecutive, (loyaltyRamp (fun _ => 25 * COIN) tenBlockMonths steadyCalls
    fixed increasing [1, 2, 3, 4] 0 1 consecutive).1⟩

end Multiflex.Pol
