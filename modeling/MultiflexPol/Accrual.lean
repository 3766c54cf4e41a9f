/-
This file bounds every entry's points by the months it was active in.
-/

import MultiflexPol.Ledger
import Mathlib.Data.Finset.Card

namespace Multiflex.Pol

/-- The months of the calls credited to an entry. -/
def activeMonths (credited : List ConnectCall) : List Int := credited.map (·.month)

/-- What every update keeps of an entry, for any heights and month lengths. -/
def AccrualBound (credited : List ConnectCall) : Option MinerTagStatus → Prop
  | none => credited = []
  | some s => s.seen = true ∧ 0 ≤ s.points ∧ s.points ≤ 24 ∧
      s.points ≤ 2 * ((activeMonths credited).toFinset.card : Int) ∧
      s.lastSeenMonth ∈ activeMonths credited ∧ ∀ m ∈ activeMonths credited, m ≤ s.lastSeenMonth

theorem ConnectCall.month_bounds (call : ConnectCall) : 0 ≤ call.month ∧ call.month ≤ 2147483647 := by
  have bounds := monthIndex_bounds call.height call.args.polMonthBlocks
  have fits := call.heightFits
  unfold ConnectCall.month FitsInt at *
  constructor <;> [exact bounds.1; skip]
  by_cases negative : call.height < 0
  · unfold monthIndex; split_ifs <;> omega
  · have := bounds.2 (by omega); omega

theorem activeMonths_snoc (credited : List ConnectCall) (call : ConnectCall) :
    activeMonths (credited ++ [call]) = activeMonths credited ++ [call.month] := by
  simp [activeMonths]

theorem card_activeMonths_snoc_le (credited : List ConnectCall) (call : ConnectCall) :
    (activeMonths credited).toFinset.card ≤ (activeMonths (credited ++ [call])).toFinset.card := by
  rw [activeMonths_snoc]
  exact Finset.card_le_card (by simp [Finset.subset_iff]; tauto)

/-- A month later than every active month adds one to the count of active months. -/
theorem card_activeMonths_snoc_new (credited : List ConnectCall) (call : ConnectCall)
    (fresh : ∀ m ∈ activeMonths credited, m < call.month) :
    (activeMonths (credited ++ [call])).toFinset.card =
      (activeMonths credited).toFinset.card + 1 := by
  rw [activeMonths_snoc, List.toFinset_append, List.toFinset_cons, List.toFinset_nil,
    Finset.union_insert, Finset.union_empty, Finset.card_insert_of_not_mem]
  simpa using fun known => (lt_irrefl _ (fresh _ known))

theorem accrualBound_step (credited : List ConnectCall) (call : ConnectCall)
    (entry : Option MinerTagStatus) (bound : AccrualBound credited entry) :
    AccrualBound (credited ++ [call]) (call.entry entry) := by
  rw [ConnectCall.entry_eq]
  cases entry with
  | none =>
    cases (bound : credited = [])
    simp [AccrualBound, connectStatus_default, activeMonths]
  | some s =>
    obtain ⟨seen, nonneg, capped, earned, lastActive, lastMax⟩ := bound
    have grown := card_activeMonths_snoc_le credited call
    simp only [Option.getD_some, AccrualBound, activeMonths_snoc, List.mem_append,
      List.mem_singleton]
    by_cases later : s.lastSeenMonth < call.month
    · have counted := card_activeMonths_snoc_new credited call
        fun m active => lt_of_le_of_lt (lastMax m active) later
      have kept := clamp_le_max (s.points - (call.month - s.lastSeenMonth - 1) + 2)
      rw [connectStatus_newMonth seen later, ← activeMonths_snoc, counted]
      refine ⟨seen, (clamp_bounds _).1, (clamp_bounds _).2, ?_, .inr rfl, ?_⟩
      · push_cast; omega
      · rintro m (active | rfl)
        · exact (lastMax m active).trans later.le
        · exact le_rfl
    · rw [connectStatus_sameMonth seen (Int.not_lt.1 later), ← activeMonths_snoc]
      dsimp only
      refine ⟨seen, nonneg, capped, by omega, .inl lastActive, ?_⟩
      rintro m (active | rfl)
      · exact lastMax m active
      · exact Int.not_lt.1 later

theorem accrualBound_run (credited calls : List ConnectCall) (entry : Option MinerTagStatus)
    (bound : AccrualBound credited entry) :
    AccrualBound (credited ++ calls) (calls.foldl (fun entry call => call.entry entry) entry) := by
  induction calls generalizing credited entry with
  | nil => simpa using bound
  | cons call calls inductionHypothesis =>
    rw [List.foldl_cons, ← List.singleton_append, ← List.append_assoc]
    exact inductionHypothesis _ _ (accrualBound_step credited call entry bound)

theorem accrualBound_connectAll (calls : List ConnectCall) (key : String) :
    AccrualBound (creditedCalls calls key) (connectAll calls TagState.empty key) := by
  rw [connectAll_entry]
  simpa using accrualBound_run [] (creditedCalls calls key) none rfl

theorem activeMonths_bounds (credited : List ConnectCall) (m : Int)
    (active : m ∈ activeMonths credited) : 0 ≤ m ∧ m ≤ 2147483647 := by
  obtain ⟨call, -, rfl⟩ := List.mem_map.1 active
  exact call.month_bounds

/-- Every `int` value a call computes: the month, then the update's intermediate values. -/
def ConnectCall.intermediates (call : ConnectCall) (state : TagState) : List Int :=
  match call.key with
  | none => []
  | some key => call.month :: connectIntermediates ((state key).getD {}) call.month

theorem connectIntermediates_fit (credited : List ConnectCall) (call : ConnectCall)
    (entry : Option MinerTagStatus) (bound : AccrualBound credited entry) :
    ∀ x ∈ call.month :: connectIntermediates (entry.getD {}) call.month, FitsInt x := by
  have month := call.month_bounds
  cases entry with
  | none => simp [connectIntermediates, FitsInt]; omega
  | some s =>
    obtain ⟨seen, nonneg, capped, -, lastActive, -⟩ := bound
    have last := activeMonths_bounds credited _ lastActive
    simp only [Option.getD_some, connectIntermediates, seen, Bool.not_true, Bool.false_eq_true,
      ↓reduceIte]
    split_ifs <;> simp only [List.mem_cons, List.mem_singleton, List.not_mem_nil, or_false,
      forall_eq_or_imp, forall_eq, FitsInt, Int.mul_one] <;> omega

/-- Any run from the empty ledger keeps every entry within 24 points and `int` range. -/
theorem onConnectBlock_points_bound (calls : List ConnectCall) :
    (∀ key s, connectAll calls TagState.empty key = some s →
      s.seen = true ∧ 0 ≤ s.points ∧
        s.points ≤ min 24 (2 * ((activeMonths (creditedCalls calls key)).toFinset.card : Int))) ∧
    ∀ (before : List ConnectCall) (call : ConnectCall),
      ∀ x ∈ call.intermediates (connectAll before TagState.empty), FitsInt x := by
  constructor
  · intro key s entry
    have bound := accrualBound_connectAll calls key
    rw [entry] at bound
    obtain ⟨seen, nonneg, capped, earned, -⟩ := bound
    exact ⟨seen, nonneg, le_min capped earned⟩
  · intro before call x computed
    unfold ConnectCall.intermediates at computed
    split at computed
    · cases computed
    · next key credited =>
      exact connectIntermediates_fit _ call _ (accrualBound_connectAll before key) x computed

end Multiflex.Pol
