import Mathlib.Algebra.Order.BigOperators.Group.List
import Sagittarius.Trading.SubmissionGuard

set_option autoImplicit false

namespace Sagittarius

open Interleaving

def TradeEvent.isAcceptance : TradeEvent → Bool
  | .accepted _ _ => true
  | _ => false

def TradeEvent.isFailure : TradeEvent → Bool
  | .failed _ _ => true
  | _ => false

def acceptedCount (history : List TradeEvent) : ℕ := history.countP TradeEvent.isAcceptance

def failedCount (history : List TradeEvent) : ℕ := history.countP TradeEvent.isFailure

-- The order that the exchange has and the session does not, while the
-- dispatch that placed it may still record it.
def Dispatch.owed : Dispatch → Option Attempt
  | .accepted attempt => some attempt
  | .returned attempt => some attempt
  | _ => none

-- "The next dispatch sees it in its limits."
def Counted (session : TradingSessionState) (symbol : String) : Prop :=
  symbol ∈ session.knownOpenSymbols ∧ (session.lastOrderTimeBySymbol symbol).isSome = true

structure AcceptanceLedger (session : TradingSessionState) (owed : Option Attempt) (history : List TradeEvent) :
    Prop where
  count : acceptedCount history = session.ordersSentThisSession + failedCount history + owed.toList.length
  marked : failedCount history = 0 → ∀ party symbol, .accepted party symbol ∈ history →
    (∃ attempt ∈ owed, attempt.symbol = symbol) ∨ Counted session symbol

def AcceptancesKept (state : SubmissionSection) : Prop :=
  AcceptanceLedger state.session (state.inside.bind Dispatch.owed) state.history

theorem acceptance_ledger_plain (session : TradingSessionState) (owed owed' : Option Attempt)
    (history : List TradeEvent) (event : Option TradeEvent) (ledger : AcceptanceLedger session owed history)
    (same : owed' = owed)
    (plain : ∀ happened, event = some happened → happened.isAcceptance = false ∧ happened.isFailure = false) :
    AcceptanceLedger session owed' (event.toList ++ history) := by
  subst same
  cases event with
  | none => exact ledger
  | some happened =>
      obtain ⟨unaccepted, unfailed⟩ := plain happened rfl
      have accepts : acceptedCount (happened :: history) = acceptedCount history :=
        List.countP_cons_of_neg (by simp [unaccepted])
      have fails : failedCount (happened :: history) = failedCount history :=
        List.countP_cons_of_neg (by simp [unfailed])
      refine ⟨?_, fun clean party symbol member => ?_⟩
      · exact accepts.trans (by rw [ledger.count]; exact congrArg (fun lost => _ + lost + _) fails.symm)
      · refine ledger.marked (fails ▸ clean) party symbol ?_
        rcases List.mem_cons.mp member with new | old
        · subst new
          cases unaccepted
        · exact old

theorem acceptance_ledger_accept (session : TradingSessionState) (history : List TradeEvent) (party : ℕ)
    (attempt : Attempt) (ledger : AcceptanceLedger session none history) :
    AcceptanceLedger session (some attempt) (.accepted party attempt.symbol :: history) := by
  have accepts : acceptedCount (.accepted party attempt.symbol :: history) = acceptedCount history + 1 :=
    List.countP_cons_of_pos rfl
  have fails : failedCount (.accepted party attempt.symbol :: history) = failedCount history :=
    List.countP_cons_of_neg (by simp [TradeEvent.isFailure])
  refine ⟨?_, fun clean first symbol member => ?_⟩
  · rw [accepts, fails, ledger.count]
    rfl
  · rcases List.mem_cons.mp member with new | old
    · cases new
      exact .inl ⟨attempt, rfl, rfl⟩
    · rcases ledger.marked (fails ▸ clean) first symbol old with ⟨pending, isPending, _⟩ | counted
      · cases isPending
      · exact .inr counted

theorem acceptance_ledger_fail (session : TradingSessionState) (history : List TradeEvent) (party : ℕ)
    (attempt : Attempt) (ledger : AcceptanceLedger session (some attempt) history) :
    AcceptanceLedger session none (.failed party attempt.symbol :: history) := by
  have accepts : acceptedCount (.failed party attempt.symbol :: history) = acceptedCount history :=
    List.countP_cons_of_neg (by simp [TradeEvent.isAcceptance])
  have fails : failedCount (.failed party attempt.symbol :: history) = failedCount history + 1 :=
    List.countP_cons_of_pos rfl
  refine ⟨?_, fun clean => ?_⟩
  · rw [accepts, fails, ledger.count]
    simp only [Option.toList_some, Option.toList_none, List.length_singleton, List.length_nil]
    omega
  · omega

theorem acceptance_ledger_record (session : TradingSessionState) (history : List TradeEvent) (party : ℕ)
    (attempt : Attempt) (ledger : AcceptanceLedger session (some attempt) history) :
    AcceptanceLedger (session.perform (.recordOrderSent attempt.symbol attempt.now)) none
      (.recorded party attempt.symbol attempt.now :: history) := by
  have accepts : acceptedCount (.recorded party attempt.symbol attempt.now :: history) = acceptedCount history :=
    List.countP_cons_of_neg (by simp [TradeEvent.isAcceptance])
  have fails : failedCount (.recorded party attempt.symbol attempt.now :: history) = failedCount history :=
    List.countP_cons_of_neg (by simp [TradeEvent.isFailure])
  refine ⟨?_, fun clean first symbol member => .inr ?_⟩
  · rw [accepts, fails, ledger.count, TradingSessionState.record_orders_sent]
    simp only [Option.toList_some, Option.toList_none, List.length_singleton, List.length_nil]
    omega
  · unfold Counted
    rw [TradingSessionState.record_known, TradingSessionState.record_last_order_time]
    by_cases same : symbol = attempt.symbol
    · subst same
      simp
    · rw [Function.update_of_ne same, Finset.mem_insert]
      rcases List.mem_cons.mp member with new | old
      · cases new
      · rcases ledger.marked (fails ▸ clean) first symbol old with ⟨pending, isPending, isSame⟩ | counted
        · cases isPending
          exact absurd isSame.symm same
        · exact ⟨.inr counted.1, counted.2⟩

theorem acceptances_kept_move (setup : TradingSetup) (state : SubmissionSection) (party : ℕ) (before after : Dispatch)
    (op : Option SessionOp) (event : Option TradeEvent) (kept : AcceptancesKept state)
    (entered : state.inside = some before) (held : before.holdsGuard = true)
    (moved : DispatchMove setup state.session party before after op event) :
    AcceptancesKept
      { session := TradingSystem.performOp state.session op
        inside := if after.holdsGuard then some after else none
        history := event.toList ++ state.history } := by
  have ledger : AcceptanceLedger state.session before.owed state.history := by
    simpa [AcceptancesKept, entered] using kept
  have plain := fun happened => acceptance_ledger_plain state.session before.owed before.owed state.history happened
    ledger rfl
  have silent : ∀ happened, (none : Option TradeEvent) = some happened →
      happened.isAcceptance = false ∧ happened.isFailure = false := fun _ logged => by cases logged
  cases moved with
  | call command => cases held
  | switchOff command result => cases held
  | switchOn command on => cases held
  | connect command => cases held
  | disconnected command result => cases held
  | unknownSymbol command => cases held
  | tooSmall command result => cases held
  | preview prepared => cases held
  | acquire prepared => cases held
  | readClock prepared now => exact plain none silent
  | readOrdersSent prepared now => exact plain none silent
  | readOpenCount prepared now ordersSent => exact plain none silent
  | readLastOrder attempt read => exact plain none silent
  | decline attempt result => exact plain none silent
  | pass attempt within => exact plain none silent
  | place attempt => exact plain (some (.placed party)) fun _ logged => by cases logged; exact ⟨rfl, rfl⟩
  | refuse attempt => exact plain none silent
  | accept attempt => exact acceptance_ledger_accept state.session state.history party attempt ledger
  | fail attempt => exact acceptance_ledger_fail state.session state.history party attempt ledger
  | reply attempt =>
      exact plain (some (.returned party attempt.symbol attempt.now)) fun _ logged => by cases logged; exact ⟨rfl, rfl⟩
  | record attempt result => exact acceptance_ledger_record state.session state.history party attempt ledger

theorem acceptances_kept_step (setup : TradingSetup) (state next : SubmissionSection) (kept : AcceptancesKept state)
    (moved : GuardStep setup state next) : AcceptancesKept next := by
  cases moved with
  | outside => exact kept
  | switchRead party =>
      exact acceptance_ledger_plain _ _ _ _ (some (.switchRead party)) kept rfl
        fun _ logged => by cases logged; exact ⟨rfl, rfl⟩
  | enter prepared free => simpa [AcceptancesKept, free, Dispatch.owed] using kept
  | move party before after op event entered held moved =>
      exact acceptances_kept_move setup state party before after op event kept entered held moved

theorem acceptances_kept_opened (positions : Finset String) : AcceptancesKept (opened positions).submission where
  count := rfl
  marked := fun _ _ _ member => by cases member

def TradeLabel.failures : TradeLabel → ℕ
  | .dispatch _ .fail => 1
  | _ => 0

theorem dispatch_event_failures (setup : TradingSetup) (session : TradingSessionState) (party : ℕ)
    (before after : Dispatch) (step : DispatchStep) (moved : Dispatch.next setup session before step = some after) :
    failedCount (TradingSystem.dispatchEvent setup session party before step).toList =
      (TradeLabel.dispatch party step).failures := by
  unfold Dispatch.next at moved
  split at moved
  case h_2 =>
    unfold TradingSystem.dispatchEvent
    dsimp only
    split_ifs <;> rfl
  all_goals first | rfl | cases moved

theorem op_event_failures (session : TradingSessionState) (op : Option SessionOp) :
    failedCount (op.bind (TradingSystem.opEvent session)).toList = 0 := by
  cases op with
  | none => rfl
  | some op =>
      cases op with
      | enable openSymbols expectedGeneration =>
          simp only [Option.bind_some, TradingSystem.opEvent]
          split_ifs <;> rfl
      | disable => rfl
      | recordOrderSent symbol now => rfl
      | reconcilePosition symbol hasPosition => rfl

theorem failed_count_step (setup : TradingSetup) (system : TradingSystem) (label : TradeLabel) (next : TradingSystem)
    (completed : system.step setup label = some next) :
    failedCount next.history = failedCount system.history + label.failures := by
  have logged : failedCount (system.event setup label).toList = label.failures := by
    cases label with
    | dispatch party step =>
        obtain ⟨moved, proceeds, _⟩ := Option.map_eq_some_iff.mp completed
        obtain ⟨after, isNext, _⟩ := Option.bind_eq_some_iff.mp proceeds
        exact dispatch_event_failures setup system.session party _ after step isNext
    | enabling party step => exact op_event_failures system.session _
    | stopping party step => exact op_event_failures system.session _
    | session op => exact op_event_failures system.session (some op)
  rw [step_history setup system next label completed, ← logged, Nat.add_comm]
  exact List.countP_append

theorem failed_count_run (setup : TradingSetup) (positions : Finset String) (labels : List TradeLabel)
    (final : TradingSystem) (completed : run (TradingSystem.step setup) (opened positions) labels = some final) :
    failedCount final.history = 0 ↔ ∀ party, .dispatch party .fail ∉ labels := by
  have counted := run_count (TradingSystem.step setup) TradeLabel.failures (fun system => failedCount system.history)
    (failed_count_step setup) labels (opened positions) final completed
  have total : failedCount final.history = (labels.map TradeLabel.failures).sum := counted.trans (Nat.zero_add _)
  rw [total, List.sum_eq_zero_iff]
  constructor
  · intro clean party member
    exact absurd (clean _ (List.mem_map_of_mem member)) Nat.one_ne_zero
  · intro absent weight member
    obtain ⟨label, isLabel, rfl⟩ := List.mem_map.mp member
    unfold TradeLabel.failures
    split
    · exact absurd isLabel (absent _)
    · rfl

-- When no dispatch is in the block, every order the exchange accepted is
-- counted and marked, so that the next dispatch sees it; but for the orders
-- whose place_order raised after they were accepted.
theorem accepted_orders_counted (setup : TradingSetup) (positions : Finset String) (labels : List TradeLabel)
    (dispatches : ∀ label ∈ labels, label.isDispatch = true) (final : TradingSystem)
    (completed : run (TradingSystem.step setup) (opened positions) labels = some final)
    (free : final.guardOwner = none) :
    (acceptedCount final.history ≤ final.session.ordersSentThisSession ∧
      ∀ party symbol, .accepted party symbol ∈ final.history → Counted final.session symbol) ↔
      ∀ party, .dispatch party .fail ∉ labels := by
  have kept : AcceptancesKept final.submission :=
    dispatch_invariant setup AcceptancesKept (opened positions) (guard_held_initial _)
      (acceptances_kept_opened positions) (acceptances_kept_step setup) labels dispatches final completed
  have ledger : AcceptanceLedger final.session none final.history := by
    simpa [AcceptancesKept, TradingSystem.submission, free] using kept
  rw [← failed_count_run setup positions labels final completed]
  have balance : acceptedCount final.history = final.session.ordersSentThisSession + failedCount final.history :=
    ledger.count
  constructor
  · rintro ⟨atMost, _⟩
    omega
  · intro clean
    refine ⟨by omega, fun party symbol member => ?_⟩
    rcases ledger.marked clean party symbol member with ⟨pending, isPending, _⟩ | counted
    · cases isPending
    · exact counted

theorem accepted_orders_counted_twice :
    ∃ final, run (TradingSystem.step { limits := .configured }) (opened ∅)
        (previewSchedule 0 (marketOrder "BTCUSDT" .buy false) ++ placeSchedule 0 0 ++ acceptSchedule 0 ++
          previewSchedule 1 (marketOrder "ETHUSDT" .buy false) ++ placeSchedule 1 0 ++
          [.dispatch 1 .refuse]) = some final ∧
      acceptedCount final.history ≤ final.session.ordersSentThisSession ∧
      ∀ party symbol, .accepted party symbol ∈ final.history → Counted final.session symbol := by
  have runs : (run (TradingSystem.step { limits := .configured }) (opened ∅)
      (previewSchedule 0 (marketOrder "BTCUSDT" .buy false) ++ placeSchedule 0 0 ++ acceptSchedule 0 ++
        previewSchedule 1 (marketOrder "ETHUSDT" .buy false) ++ placeSchedule 1 0 ++
        [.dispatch 1 .refuse])).map TradingSystem.guardOwner = some none := by decide +kernel
  obtain ⟨final, completed, free⟩ := Option.map_eq_some_iff.mp runs
  exact ⟨final, completed, (accepted_orders_counted _ ∅ _ (by decide) final completed free).mpr fun party => by
    simp [previewSchedule, placeSchedule, acceptSchedule]⟩

theorem accepted_order_not_counted :
    ¬ ∀ (setup : TradingSetup) (positions : Finset String) (labels : List TradeLabel),
      (∀ label ∈ labels, label.isDispatch = true) → ∀ final : TradingSystem,
      run (TradingSystem.step setup) (opened positions) labels = some final → final.guardOwner = none →
        acceptedCount final.history ≤ final.session.ordersSentThisSession ∧
          ∀ party symbol, .accepted party symbol ∈ final.history → Counted final.session symbol := by
  intro claimed
  have counts : (run (TradingSystem.step { limits := .configured }) (opened ∅)
      (previewSchedule 0 (marketOrder "BTCUSDT" .buy false) ++ placeSchedule 0 0 ++
        [.dispatch 0 .accept, .dispatch 0 .fail])).map
      (fun system => (system.guardOwner, acceptedCount system.history, system.session.ordersSentThisSession)) =
      some (none, 1, 0) := by decide +kernel
  obtain ⟨final, completed, observed⟩ := Option.map_eq_some_iff.mp counts
  have atMost := (claimed _ ∅ _ (by decide) final completed (congrArg Prod.fst observed)).1
  have accepted : acceptedCount final.history = 1 := congrArg (fun seen => seen.2.1) observed
  have sent : final.session.ordersSentThisSession = 0 := congrArg (fun seen => seen.2.2) observed
  omega

end Sagittarius
