/-
This file models the overview page's PoL box as its signals drive it.
-/

import MultiflexPol.OverviewPage

namespace Multiflex.Pol

theorem Slot.returns_tryCatch {α : Type} {P : α → Prop} {x : Slot α}
    {handler : RpcException → Slot α} (body : x.Returns P) (caught : ∀ e, (handler e).Returns P) :
    (tryCatch x handler).Returns P := by
  intro a returned
  rcases x with _ | e | b
  · cases returned
  · exact caught e a returned
  · cases returned
    exact body a rfl

/-- The amounts a page holds can be shown. -/
def OverviewPage.State.Showable (page : OverviewPage.State) : Prop :=
  page.haveAmounts = true → ¬ OverviewPage.AmountsFail page.allowedSubsidy page.baseSubsidy

theorem OverviewPage.State.clearPolUi_showable (page : OverviewPage.State) (message : String) :
    (page.clearPolUi message).Showable :=
  fun present => nomatch present

/-- The overview page's PoL signals: address edits, refreshes and display unit changes. -/
inductive OverviewPage.Signal
  | minerIdChanged (text : String)
  | refresh (haveClient haveWalletModel : Bool) (minerAddr : String)
      (reply : Except RpcException Reply)
  | displayUnitChanged (haveWalletModel : Bool)

def OverviewPage.Signal.handle :
    OverviewPage.Signal → OverviewPage.State → Slot OverviewPage.State
  | .minerIdChanged text, page => pure (OverviewPage.polMinerIdChanged text page)
  | .refresh haveClient haveWalletModel minerAddr reply, page =>
    OverviewPage.refreshPolStatus haveClient haveWalletModel minerAddr reply page
  | .displayUnitChanged haveWalletModel, page => page.updatePolUiAmounts haveWalletModel

/-- The slots of `signals` in turn, up to the first that does not return. -/
def OverviewPage.session (signals : List OverviewPage.Signal) (page : OverviewPage.State) :
    Slot OverviewPage.State :=
  signals.foldlM (fun page signal => signal.handle page) page

/-- The two amounts a reply gives, where it gives both. -/
def OverviewPage.ReplyAmounts (reply : Except RpcException Reply) (allowed base : Int) : Prop :=
  ∃ rpcRaw, reply = .ok rpcRaw ∧
    OverviewPage.polGetNumField FitsInt64 id (polUnwrapRpcResult rpcRaw) "allowed_subsidy" =
      .ok (some allowed) ∧
    OverviewPage.polGetNumField FitsInt64 id (polUnwrapRpcResult rpcRaw) "base_subsidy" =
      .ok (some base)

/-- Where a slot stops the page: showing, with a wallet model, amounts it cannot show. -/
def OverviewPage.Signal.StopsAt : OverviewPage.Signal → OverviewPage.State → Prop
  | .minerIdChanged _, _ => False
  | .refresh _ haveWalletModel _ reply, _ => haveWalletModel = true ∧
    ∃ allowed base, OverviewPage.ReplyAmounts reply allowed base ∧
      OverviewPage.AmountsFail allowed base
  | .displayUnitChanged haveWalletModel, page => haveWalletModel = true ∧
    page.haveAmounts = true ∧ OverviewPage.AmountsFail page.allowedSubsidy page.baseSubsidy

/-- A refresh's reply gives amounts the page can show, where it gives both. -/
def OverviewPage.Signal.ShowableReply : OverviewPage.Signal → Prop
  | .refresh _ _ _ reply =>
    ∀ allowed base, OverviewPage.ReplyAmounts reply allowed base →
      ¬ OverviewPage.AmountsFail allowed base
  | _ => True

theorem OverviewPage.Signal.handle_stopsAt {signal : OverviewPage.Signal}
    {page : OverviewPage.State} (stopped : signal.handle page = none) : signal.StopsAt page := by
  cases signal with
  | minerIdChanged text => cases stopped
  | refresh haveClient haveWalletModel minerAddr reply =>
    rcases OverviewPage.refreshPolStatus_cases haveClient haveWalletModel minerAddr reply page with
      ⟨page', returned⟩ | ⟨code, message, -, thrown⟩ | ⟨-, withWallet, rpcRaw, allowed, base, raw,
        allowedRead, baseRead, failing⟩
    · exact nomatch stopped.symm.trans returned
    · exact nomatch stopped.symm.trans thrown
    · exact ⟨withWallet, allowed, base, ⟨rpcRaw, raw, allowedRead, baseRead⟩, failing⟩
  | displayUnitChanged haveWalletModel =>
    exact (OverviewPage.State.updatePolUiAmounts_eq_none _ _).1 ((Slot.lift_eq_none _).1 stopped)

theorem Slot.returns_liftOption {α : Type} {P : α → Prop} {x : Option α}
    (held : ∀ a, x = some a → P a) : (monadLift x : Slot α).Returns P := by
  intro a returned
  cases x <;> cases returned
  exact held a rfl

theorem OverviewPage.refreshPolStatus_showable (haveClient haveWalletModel : Bool)
    (minerAddr : String) (reply : Except RpcException Reply) (page : OverviewPage.State)
    (showable : (OverviewPage.Signal.refresh haveClient haveWalletModel minerAddr reply).ShowableReply) :
    (OverviewPage.refreshPolStatus haveClient haveWalletModel minerAddr reply page).Returns
      OverviewPage.State.Showable := by
  have cleared := fun page message =>
    Slot.returns_pure (OverviewPage.State.clearPolUi_showable page message)
  unfold OverviewPage.refreshPolStatus
  dsimp only
  split
  · exact cleared _ _
  simp only [pure_bind]
  split
  · exact cleared _ _
  split
  · exact cleared _ _
  · intro a thrown
    cases thrown
  · next rpcRaw =>
    refine Slot.returns_tryCatch ?_ fun e => ?_
    · refine Slot.returns_bind (OverviewPage.readStatus_amounts _ _) fun read amounts => ?_
      refine Slot.returns_bind (Slot.returns_liftOption fun page' shown present => ?_)
        fun _ shownPage => Slot.returns_pure shownPage
      rw [OverviewPage.State.updatePolUiAmounts_frame shown] at present ⊢
      obtain ⟨allowedRead, baseRead⟩ := amounts present
      exact showable _ _ ⟨rpcRaw, rfl, allowedRead, baseRead⟩
    · split
      · exact cleared _ _
      · intro a thrown
        cases thrown

/-- On showable amounts, a slot returns a showable page or throws. -/
theorem OverviewPage.Signal.handle_showable (signal : OverviewPage.Signal)
    {page : OverviewPage.State} (showable : page.Showable) (reply : signal.ShowableReply) :
    signal.handle page ≠ none ∧ (signal.handle page).Returns OverviewPage.State.Showable := by
  refine ⟨fun stopped => ?_, ?_⟩
  · have stops := handle_stopsAt stopped
    cases signal with
    | minerIdChanged text => exact stops
    | refresh haveClient haveWalletModel minerAddr reply' =>
      obtain ⟨-, allowed, base, amounts, failing⟩ := stops
      exact reply allowed base amounts failing
    | displayUnitChanged haveWalletModel => exact showable stops.2.1 stops.2.2
  · cases signal with
    | minerIdChanged text =>
      refine Slot.returns_pure ?_
      dsimp only [OverviewPage.polMinerIdChanged]
      split <;> exact OverviewPage.State.clearPolUi_showable _ _
    | refresh haveClient haveWalletModel minerAddr reply' =>
      exact OverviewPage.refreshPolStatus_showable _ _ _ _ page reply
    | displayUnitChanged haveWalletModel =>
      refine Slot.returns_liftOption fun page' shown => ?_
      rw [OverviewPage.State.updatePolUiAmounts_frame shown]
      exact showable

theorem OverviewPage.session_cons (signal : OverviewPage.Signal)
    (rest : List OverviewPage.Signal) (page : OverviewPage.State) :
    OverviewPage.session (signal :: rest) page =
      signal.handle page >>= OverviewPage.session rest :=
  List.foldlM_cons _ _ _ _

/-- A session stops only at a slot that shows amounts it cannot show. -/
theorem OverviewPage.session_stopsAt {signals : List OverviewPage.Signal}
    {page : OverviewPage.State} (stopped : OverviewPage.session signals page = none) :
    ∃ before signal after page', signals = before ++ signal :: after ∧
      OverviewPage.session before page = some (.ok page') ∧ signal.StopsAt page' := by
  induction signals generalizing page with
  | nil => cases stopped
  | cons signal rest ih =>
    rw [OverviewPage.session_cons] at stopped
    rcases handled : signal.handle page with _ | e | page'
    · exact ⟨[], signal, rest, page, rfl, rfl, OverviewPage.Signal.handle_stopsAt handled⟩
    · rw [handled, Slot.thrown_bind] at stopped
      cases stopped
    · rw [handled, Slot.returned_bind] at stopped
      obtain ⟨before, signal', after, page'', split, reached, stops⟩ := ih stopped
      refine ⟨signal :: before, signal', after, page'', by rw [split]; rfl, ?_, stops⟩
      rw [OverviewPage.session_cons, handled, Slot.returned_bind, reached]

/-- The one exception a session lets out is a `JSONRPCError` a refresh's reply carried. -/
theorem OverviewPage.session_thrown {signals : List OverviewPage.Signal}
    {page : OverviewPage.State} {e : RpcException}
    (thrown : OverviewPage.session signals page = some (.error e)) :
    ∃ code message haveClient haveWalletModel minerAddr, e = .jsonRpc code message ∧
      OverviewPage.Signal.refresh haveClient haveWalletModel minerAddr (.error e) ∈ signals := by
  induction signals generalizing page with
  | nil => cases thrown
  | cons signal rest ih =>
    rw [OverviewPage.session_cons] at thrown
    rcases handled : signal.handle page with _ | e' | page'
    · rw [handled, Slot.stopped_bind] at thrown
      cases thrown
    · rw [handled, Slot.thrown_bind] at thrown
      cases thrown
      cases signal with
      | minerIdChanged text => cases handled
      | refresh haveClient haveWalletModel minerAddr reply =>
        rcases OverviewPage.refreshPolStatus_cases haveClient haveWalletModel minerAddr reply page
          with ⟨page', returned⟩ | ⟨code, message, carried, threw⟩ | ⟨stopped, -⟩
        · exact nomatch handled.symm.trans returned
        · obtain rfl := Except.error.inj (Option.some.inj (handled.symm.trans threw))
          exact ⟨code, message, haveClient, haveWalletModel, minerAddr, rfl,
            carried ▸ List.mem_cons_self _ _⟩
        · exact nomatch handled.symm.trans stopped
      | displayUnitChanged haveWalletModel =>
        rcases shown : page.updatePolUiAmounts haveWalletModel with _ | page'' <;>
          rw [OverviewPage.Signal.handle, shown] at handled <;> cases handled
    · rw [handled, Slot.returned_bind] at thrown
      obtain ⟨code, message, haveClient, haveWalletModel, minerAddr, jsonRpc, carried⟩ := ih thrown
      exact ⟨code, message, haveClient, haveWalletModel, minerAddr, jsonRpc,
        List.mem_cons_of_mem _ carried⟩

/-- On showable amounts and replies, a session never stops. -/
theorem OverviewPage.session_showable (signals : List OverviewPage.Signal)
    {page : OverviewPage.State} (showable : page.Showable)
    (replies : ∀ signal ∈ signals, signal.ShowableReply) :
    OverviewPage.session signals page ≠ none ∧
      (OverviewPage.session signals page).Returns OverviewPage.State.Showable := by
  induction signals generalizing page with
  | nil => exact ⟨(nomatch ·), Slot.returns_pure showable⟩
  | cons signal rest ih =>
    have step := signal.handle_showable showable (replies signal (List.mem_cons_self _ _))
    have later := fun (page' : OverviewPage.State) (showable' : page'.Showable) =>
      ih showable' fun signal' mem => replies signal' (List.mem_cons_of_mem _ mem)
    rw [OverviewPage.session_cons]
    rcases handled : signal.handle page with _ | e | page'
    · exact absurd handled step.1
    · rw [Slot.thrown_bind]
      exact ⟨(nomatch ·), fun _ thrown => nomatch thrown⟩
    · rw [Slot.returned_bind]
      exact later page' (step.2 page' handled)

/-- The overview page stops only on failing amounts and throws only a reply's error. -/
theorem overviewPage_session (signals : List OverviewPage.Signal) (page : OverviewPage.State) :
    (OverviewPage.session signals page = none →
      ∃ before signal after page', signals = before ++ signal :: after ∧
        OverviewPage.session before page = some (.ok page') ∧ signal.StopsAt page') ∧
    (∀ e, OverviewPage.session signals page = some (.error e) →
      ∃ code message haveClient haveWalletModel minerAddr, e = .jsonRpc code message ∧
        OverviewPage.Signal.refresh haveClient haveWalletModel minerAddr (.error e) ∈ signals) ∧
    (page.Showable → (∀ signal ∈ signals, signal.ShowableReply) →
      OverviewPage.session signals page ≠ none ∧
        (OverviewPage.session signals page).Returns OverviewPage.State.Showable) :=
  ⟨OverviewPage.session_stopsAt, fun _ thrown => OverviewPage.session_thrown thrown,
    fun showable replies => OverviewPage.session_showable signals showable replies⟩

/-- A refresh on amounts `2^63` apart stops the page, with a wallet model. -/
theorem overviewPage_session_overflow :
    let reply : Reply := .obj [("allowed_subsidy", .num "9223372036854775807"),
      ("base_subsidy", .num "-1")]
    OverviewPage.session [.refresh true true "a" (.ok reply)] OverviewPage.initial = none ∧
      ∃ before signal after page', [OverviewPage.Signal.refresh true true "a" (.ok reply)] =
          before ++ signal :: after ∧
        OverviewPage.session before OverviewPage.initial = some (.ok page') ∧
        signal.StopsAt page' :=
  have stopped : OverviewPage.session [.refresh true true "a" (.ok (.obj
      [("allowed_subsidy", .num "9223372036854775807"), ("base_subsidy", .num "-1")]))]
      OverviewPage.initial = none := rfl
  ⟨stopped, (overviewPage_session _ _).1 stopped⟩

end Multiflex.Pol
