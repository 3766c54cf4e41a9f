/-
This file relates the counters and heights of every entry on a chain.
-/

import MultiflexPol.MonthFold

namespace Multiflex.Pol

/-- What an entry records of the calls credited to it, on a chain. -/
structure CounterRecord (args : PolArgs) (credited : List ConnectCall) (s : MinerTagStatus) :
    Prop where
  seen : s.seen = true
  first : credited.head?.map (·.height) = some s.firstSeenHeight
  last : credited.getLast?.map (·.height) = some s.lastSeenHeight
  time : credited.getLast?.map (·.blockTime) = some s.lastSeenTime
  month : s.lastSeenMonth = monthIndex s.lastSeenHeight args.polMonthBlocks
  count : s.blocksSeen.toNat = credited.length % UInt32.size

def CounterInvariant (args : PolArgs) (credited : List ConnectCall) :
    Option MinerTagStatus → Prop
  | none => credited = []
  | some s => CounterRecord args credited s

theorem blocksSeen_succ (blocksSeen : UInt32) (n : Nat)
    (count : blocksSeen.toNat = n % UInt32.size) :
    (blocksSeen + 1).toNat = (n + 1) % UInt32.size := by
  change (blocksSeen.toNat + 1) % UInt32.size = _
  rw [count, Nat.mod_add_mod]

theorem counterInvariant_step (args : PolArgs) (credited : List ConnectCall) (call : ConnectCall)
    (entry : Option MinerTagStatus) (invariant : CounterInvariant args credited entry)
    (fixed : call.args = args) (later : ∀ c ∈ credited, c.height < call.height) :
    CounterInvariant args (credited ++ [call]) (call.entry entry) := by
  have callMonth : call.month = monthIndex call.height args.polMonthBlocks := by
    rw [ConnectCall.month, fixed]
  rw [ConnectCall.entry_eq]
  cases entry with
  | none =>
    cases (invariant : credited = [])
    exact ⟨rfl, rfl, rfl, rfl, callMonth, rfl⟩
  | some s =>
    obtain ⟨seen, first, last, -, month, count⟩ := invariant
    obtain ⟨lastCall, lastMem, lastHeight⟩ : ∃ c ∈ credited, c.height = s.lastSeenHeight := by
      cases tail : credited.getLast? with
      | none => simp [tail] at last
      | some c =>
        simp only [tail, Option.map_some', Option.some.injEq] at last
        exact ⟨c, List.mem_of_getLast?_eq_some tail, last⟩
    have grows : s.lastSeenMonth ≤ call.month := by
      rw [month, callMonth]
      exact monthIndex_mono _ (by have := later lastCall lastMem; omega)
    have kept : (credited ++ [call]).head?.map (·.height) = some s.firstSeenHeight := by
      rw [List.head?_append_of_ne_nil _ (List.ne_nil_of_mem lastMem), first]
    have ends : (credited ++ [call]).getLast? = some call := List.getLast?_concat _
    have counted : (s.blocksSeen + 1).toNat = (credited ++ [call]).length % UInt32.size := by
      simpa using blocksSeen_succ s.blocksSeen credited.length count
    simp only [Option.getD_some, CounterInvariant]
    by_cases newMonth : s.lastSeenMonth < call.month
    · rw [connectStatus_newMonth seen newMonth]
      exact ⟨seen, kept, by rw [ends]; rfl, by rw [ends]; rfl, callMonth, counted⟩
    · rw [connectStatus_sameMonth seen (Int.not_lt.1 newMonth)]
      refine ⟨seen, kept, by rw [ends]; rfl, by rw [ends]; rfl, ?_, counted⟩
      exact (le_antisymm (Int.not_lt.1 newMonth) grows).symm.trans callMonth

theorem counterInvariant_run (args : PolArgs) (credited calls : List ConnectCall)
    (entry : Option MinerTagStatus) (invariant : CounterInvariant args credited entry)
    (fixed : ∀ call ∈ calls, call.args = args)
    (increasing : ((credited ++ calls).map (·.height)).Sorted (· < ·)) :
    CounterInvariant args (credited ++ calls)
      (calls.foldl (fun entry call => call.entry entry) entry) := by
  induction calls generalizing credited entry with
  | nil => simpa using invariant
  | cons call calls inductionHypothesis =>
    have later : ∀ c ∈ credited, c.height < call.height := by
      simp only [List.Sorted, List.map_append, List.map_cons, List.pairwise_append,
        List.mem_map] at increasing
      exact fun c mem => increasing.2.2 _ ⟨c, mem, rfl⟩ _ (List.mem_cons_self _ _)
    rw [← List.singleton_append, ← List.append_assoc] at increasing ⊢
    rw [List.foldl_append]
    exact inductionHypothesis _ _
      (counterInvariant_step args credited call entry invariant (fixed call (by simp)) later)
      (fun c mem => fixed c (List.mem_cons_of_mem _ mem)) increasing

/-- Strictly increasing heights from `low` to `high` number at most `high - low + 1`. -/
theorem length_le_of_sorted {heights : List Int} (sorted : heights.Sorted (· < ·)) {low high : Int}
    (first : heights.head? = some low) (last : heights.getLast? = some high) :
    (heights.length : Int) ≤ high - low + 1 := by
  induction heights generalizing low with
  | nil => cases first
  | cons a rest inductionHypothesis =>
    cases (Option.some.inj first : a = low)
    cases rest with
    | nil =>
      cases (Option.some.inj last : a = high)
      simp
    | cons b rest =>
      have step : a < b := List.rel_of_sorted_cons sorted _ (List.mem_cons_self _ _)
      have tail := inductionHypothesis sorted.of_cons rfl (by simpa using last)
      simp only [List.length_cons, Nat.cast_add, Nat.cast_one] at tail ⊢
      omega

/-- The calls credited to a key keep the run's order of heights. -/
theorem creditedCalls_increasing {calls : List ConnectCall}
    (increasing : (calls.map (·.height)).Sorted (· < ·)) (key : String) :
    ((creditedCalls calls key).map (·.height)).Sorted (· < ·) := by
  unfold List.Sorted creditedCalls at *
  rw [List.pairwise_map] at increasing ⊢
  exact increasing.filter _

/-- On a chain every entry keeps the counter invariant of its credited calls. -/
theorem counterInvariant_connectAll (args : PolArgs) (calls : List ConnectCall)
    (fixed : ∀ call ∈ calls, call.args = args)
    (increasing : (calls.map (·.height)).Sorted (· < ·)) (key : String) :
    CounterInvariant args (creditedCalls calls key) (connectAll calls TagState.empty key) := by
  rw [connectAll_entry]
  simpa using counterInvariant_run args [] (creditedCalls calls key) none rfl
    (fun call mem => fixed call (List.mem_filter.1 mem).1)
    (by simpa using creditedCalls_increasing increasing key)

/-- On a chain of non-negative heights every entry counts its blocks without wrapping. -/
theorem onConnectBlock_counters (args : PolArgs) (calls : List ConnectCall)
    (fixed : ∀ call ∈ calls, call.args = args)
    (increasing : (calls.map (·.height)).Sorted (· < ·))
    (nonneg : ∀ call ∈ calls, 0 ≤ call.height) (key : String) (s : MinerTagStatus)
    (entry : connectAll calls TagState.empty key = some s) :
    args.polStartHeight ≤ s.firstSeenHeight ∧ s.firstSeenHeight ≤ s.lastSeenHeight ∧
    s.lastSeenMonth = monthIndex s.lastSeenHeight args.polMonthBlocks ∧
    (creditedCalls calls key).getLast?.map (·.blockTime) = some s.lastSeenTime ∧
    s.blocksSeen.toNat = (creditedCalls calls key).length ∧
    1 ≤ s.blocksSeen.toNat ∧
    (s.blocksSeen.toNat : Int) ≤ s.lastSeenHeight - s.firstSeenHeight + 1 := by
  have creditedFixed : ∀ call ∈ creditedCalls calls key, call.args = args :=
    fun call mem => fixed call (List.mem_filter.1 mem).1
  have record := counterInvariant_connectAll args calls fixed increasing key
  rw [entry] at record
  obtain ⟨-, first, last, time, month, count⟩ := record
  obtain ⟨firstCall, firstIs, firstHeight⟩ := Option.map_eq_some'.1 first
  obtain ⟨lastCall, lastIs, lastHeight⟩ := Option.map_eq_some'.1 last
  have firstMem := List.mem_of_mem_head? firstIs
  have started : args.polStartHeight ≤ s.firstSeenHeight := by
    have credited := (List.mem_filter.1 firstMem).2
    simp only [decide_eq_true_eq, ConnectCall.key, creditedKey] at credited
    rw [← firstHeight, ← creditedFixed firstCall firstMem]
    by_cases early : firstCall.height < firstCall.args.polStartHeight
    · simp [early] at credited
    · omega
  have bounded := length_le_of_sorted (creditedCalls_increasing increasing key)
    (by rw [List.head?_map, first]) (by rw [List.getLast?_map, last])
  rw [List.length_map] at bounded
  have nonempty : 1 ≤ (creditedCalls calls key).length :=
    List.length_pos.2 (List.ne_nil_of_mem firstMem)
  have firstNonneg : 0 ≤ s.firstSeenHeight :=
    firstHeight ▸ nonneg firstCall (List.mem_filter.1 firstMem).1
  have lastFits := lastCall.heightFits
  unfold FitsInt at lastFits
  have exact : s.blocksSeen.toNat = (creditedCalls calls key).length := by
    rw [count, Nat.mod_eq_of_lt]
    change _ < 4294967296
    omega
  refine ⟨started, by omega, month, time, exact, exact ▸ nonempty, exact ▸ bounded⟩

theorem onConnectBlock_counters_spacedCalls :
    (∀ call ∈ spacedCalls, call.args = tenBlockMonths) ∧
      (spacedCalls.map (·.height)).Sorted (· < ·) ∧ (∀ call ∈ spacedCalls, 0 ≤ call.height) ∧
      connectAll spacedCalls TagState.empty (hexStr [1, 2, 3, 4]) = some spacedStatus ∧
      spacedStatus.blocksSeen.toNat = (creditedCalls spacedCalls (hexStr [1, 2, 3, 4])).length :=
  have fixed : ∀ call ∈ spacedCalls, call.args = tenBlockMonths := by decide
  have increasing : (spacedCalls.map (·.height)).Sorted (· < ·) := by decide
  have nonneg : ∀ call ∈ spacedCalls, 0 ≤ call.height := by decide
  have entry : connectAll spacedCalls TagState.empty (hexStr [1, 2, 3, 4]) = some spacedStatus := by
    decide
  ⟨fixed, increasing, nonneg, entry, (onConnectBlock_counters tenBlockMonths spacedCalls fixed
    increasing nonneg (hexStr [1, 2, 3, 4]) spacedStatus entry).2.2.2.2.1⟩

end Multiflex.Pol
