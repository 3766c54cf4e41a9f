/-
This file shows that a tag's points follow the spec's fold over its active months.
-/

import MultiflexPol.Accrual
import Mathlib.Data.List.Sort

namespace Multiflex.Pol

/-- The spec's accrual over active months `m₁ < … < m_k`, with the last month. -/
def referenceAccrual : List Int → Option (Int × Int)
  | [] => none
  | first :: rest =>
    some (rest.foldl (fun accrued m => (clamp (accrued.1 - (m - accrued.2 - 1) + 2) 0 24, m))
      (2, first))

theorem referenceAccrual_snoc (months : List Int) (m : Int) (points last : Int)
    (accrued : referenceAccrual months = some (points, last)) :
    referenceAccrual (months ++ [m]) = some (clamp (points - (m - last - 1) + 2) 0 24, m) := by
  cases months with
  | nil => cases accrued
  | cons first rest =>
    simp only [referenceAccrual, Option.some.injEq] at accrued
    simp [referenceAccrual, accrued]

/-- The distinct months of a list, in the order they first occur. -/
def distinctMonths (months : List Int) : List Int :=
  months.foldl (fun distinct m => if m ∈ distinct then distinct else distinct ++ [m]) []

theorem distinctMonths_snoc (months : List Int) (m : Int) :
    distinctMonths (months ++ [m]) =
      if m ∈ distinctMonths months then distinctMonths months
      else distinctMonths months ++ [m] := by
  simp [distinctMonths]

theorem mem_distinctMonths {months : List Int} {m : Int} :
    m ∈ distinctMonths months ↔ m ∈ months := by
  induction months using List.reverseRecOn with
  | nil => simp [distinctMonths]
  | append_singleton months last inductionHypothesis =>
    rw [distinctMonths_snoc]
    split_ifs with known
    · simp only [List.mem_append, List.mem_singleton, inductionHypothesis]
      constructor
      · exact .inl
      · rintro (old | rfl)
        · exact old
        · exact inductionHypothesis.1 known
    · simp [inductionHypothesis]

/-- On non-decreasing months, the distinct months are strictly increasing. -/
theorem distinctMonths_sorted {months : List Int} (ordered : months.Sorted (· ≤ ·)) :
    (distinctMonths months).Sorted (· < ·) := by
  induction months using List.reverseRecOn with
  | nil => simp [distinctMonths]
  | append_singleton months last inductionHypothesis =>
    simp only [List.Sorted, List.pairwise_append, List.mem_singleton] at ordered
    rw [distinctMonths_snoc]
    split_ifs with known
    · exact inductionHypothesis ordered.1
    · simp only [List.Sorted, List.pairwise_append, List.mem_singleton]
      refine ⟨inductionHypothesis ordered.1, List.pairwise_singleton _ _, ?_⟩
      rintro m active _ rfl
      exact lt_of_le_of_ne (ordered.2.2 m (mem_distinctMonths.1 active) _ rfl)
        fun same => known (same ▸ active)

/-- The two points of an entry that the spec's fold describes. -/
def MonthFold (credited : List ConnectCall) (entry : Option MinerTagStatus) : Prop :=
  entry.map (fun s => (s.points, s.lastSeenMonth)) =
    referenceAccrual (distinctMonths (activeMonths credited))

theorem monthFold_step (credited : List ConnectCall) (call : ConnectCall)
    (entry : Option MinerTagStatus) (bound : AccrualBound credited entry)
    (fold : MonthFold credited entry) (ordered : ∀ m ∈ activeMonths credited, m ≤ call.month) :
    MonthFold (credited ++ [call]) (call.entry entry) := by
  unfold MonthFold at fold ⊢
  rw [ConnectCall.entry_eq, activeMonths_snoc, distinctMonths_snoc]
  cases entry with
  | none =>
    cases (bound : credited = [])
    simp [connectStatus_default, activeMonths, distinctMonths, referenceAccrual]
  | some s =>
    obtain ⟨seen, -, -, -, lastActive, lastMax⟩ := bound
    simp only [Option.map_some', Option.getD_some] at fold ⊢
    by_cases later : s.lastSeenMonth < call.month
    · have fresh : call.month ∉ distinctMonths (activeMonths credited) := fun known =>
        absurd (lastMax _ (mem_distinctMonths.1 known)) (Int.not_le.2 later)
      rw [if_neg fresh, connectStatus_newMonth seen later,
        referenceAccrual_snoc _ _ _ _ fold.symm]
    · have same : call.month = s.lastSeenMonth :=
        le_antisymm (Int.not_lt.1 later) (ordered _ lastActive)
      rw [if_pos (mem_distinctMonths.2 (same ▸ lastActive)),
        connectStatus_sameMonth seen (Int.not_lt.1 later)]
      exact fold

theorem monthFold_run (credited calls : List ConnectCall) (entry : Option MinerTagStatus)
    (bound : AccrualBound credited entry) (fold : MonthFold credited entry)
    (ordered : (activeMonths (credited ++ calls)).Sorted (· ≤ ·)) :
    MonthFold (credited ++ calls) (calls.foldl (fun entry call => call.entry entry) entry) := by
  induction calls generalizing credited entry with
  | nil => simpa using fold
  | cons call calls inductionHypothesis =>
    have earlier : ∀ m ∈ activeMonths credited, m ≤ call.month := by
      simp only [List.Sorted, activeMonths, List.map_append, List.map_cons,
        List.pairwise_append] at ordered
      exact fun m active => ordered.2.2 m active _ (List.mem_cons_self _ _)
    rw [← List.singleton_append, ← List.append_assoc] at ordered ⊢
    rw [List.foldl_append]
    exact inductionHypothesis _ _ (accrualBound_step credited call entry bound)
      (monthFold_step credited call entry bound fold earlier) ordered

/-- On a chain the months of a key's credited calls never decrease. -/
theorem activeMonths_sorted (args : PolArgs) (calls : List ConnectCall)
    (fixed : ∀ call ∈ calls, call.args = args)
    (increasing : (calls.map (·.height)).Sorted (· < ·)) (key : String) :
    (activeMonths (creditedCalls calls key)).Sorted (· ≤ ·) := by
  unfold activeMonths creditedCalls List.Sorted at *
  rw [List.pairwise_map] at increasing ⊢
  refine (increasing.imp_of_mem ?_).filter _
  intro first second firstMem secondMem lt
  simp only [ConnectCall.month, fixed first firstMem, fixed second secondMem]
  exact monthIndex_mono _ lt.le

/-- On a chain a key's points are the spec's fold over its distinct months. -/
theorem connectAll_referenceAccrual (args : PolArgs) (calls : List ConnectCall)
    (fixed : ∀ call ∈ calls, call.args = args)
    (increasing : (calls.map (·.height)).Sorted (· < ·)) (key : String) :
    (connectAll calls TagState.empty key).map (fun s => (s.points, s.lastSeenMonth)) =
      referenceAccrual (distinctMonths (activeMonths (creditedCalls calls key))) := by
  have fold := monthFold_run [] (creditedCalls calls key) none rfl rfl
    (by simpa using activeMonths_sorted args calls fixed increasing key)
  rwa [List.nil_append, MonthFold,
    show (none : Option MinerTagStatus) = TagState.empty key from rfl, ← connectAll_entry] at fold

/-- On a chain a key's entry is the spec's fold over its ascending active months. -/
theorem onConnectBlock_monthFold (args : PolArgs) (calls : List ConnectCall)
    (fixed : ∀ call ∈ calls, call.args = args)
    (increasing : (calls.map (·.height)).Sorted (· < ·)) (key : String) (months : List Int)
    (ascending : months.Sorted (· < ·))
    (same : ∀ m, m ∈ months ↔ m ∈ activeMonths (creditedCalls calls key)) :
    (connectAll calls TagState.empty key).map (fun s => (s.points, s.lastSeenMonth)) =
      referenceAccrual months := by
  have distinctSorted := distinctMonths_sorted (activeMonths_sorted args calls fixed increasing key)
  have canonical : months = distinctMonths (activeMonths (creditedCalls calls key)) :=
    List.eq_of_perm_of_sorted
      ((List.perm_ext_iff_of_nodup ascending.nodup distinctSorted.nodup).2
        fun m => (same m).trans mem_distinctMonths.symm) ascending distinctSorted
  rw [canonical, connectAll_referenceAccrual args calls fixed increasing key]

/-- Ten blocks a month, as in the spec's worked example. -/
def tenBlockMonths : PolArgs := { polMonthBlocks := 10 }

/-- One tag mined at heights 5 and 25, with nothing in the month between. -/
def spacedCalls : List ConnectCall :=
  [⟨tenBlockMonths, markerBlock [1, 2, 3, 4] 0, 5, 100, by decide⟩,
   ⟨tenBlockMonths, markerBlock [1, 2, 3, 4] 0, 25, 200, by decide⟩]

def spacedStatus : MinerTagStatus :=
  { seen := true, firstSeenHeight := 5, lastSeenHeight := 25, blocksSeen := 2,
    lastSeenTime := 200, points := 3, lastSeenMonth := 2 }

theorem onConnectBlock_monthFold_spacedCalls :
    (∀ call ∈ spacedCalls, call.args = tenBlockMonths) ∧
      (spacedCalls.map (·.height)).Sorted (· < ·) ∧ [(0 : Int), 2].Sorted (· < ·) ∧
      (∀ m, m ∈ [(0 : Int), 2] ↔ m ∈ activeMonths (creditedCalls spacedCalls (hexStr [1, 2, 3, 4]))) ∧
      (connectAll spacedCalls TagState.empty (hexStr [1, 2, 3, 4])).map
          (fun s => (s.points, s.lastSeenMonth)) = referenceAccrual [0, 2] :=
  have fixed : ∀ call ∈ spacedCalls, call.args = tenBlockMonths := by decide
  have increasing : (spacedCalls.map (·.height)).Sorted (· < ·) := by decide
  have ascending : [(0 : Int), 2].Sorted (· < ·) := by decide
  have same : ∀ m, m ∈ [(0 : Int), 2] ↔
      m ∈ activeMonths (creditedCalls spacedCalls (hexStr [1, 2, 3, 4])) := fun m => by
    rw [show activeMonths (creditedCalls spacedCalls (hexStr [1, 2, 3, 4])) = [0, 2] by decide]
  ⟨fixed, increasing, ascending, same, onConnectBlock_monthFold tenBlockMonths spacedCalls fixed
    increasing (hexStr [1, 2, 3, 4]) [0, 2] ascending same⟩

end Multiflex.Pol
