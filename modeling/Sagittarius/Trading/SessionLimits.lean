import Mathlib.Algebra.Order.Group.Unbundled.Abs
import Mathlib.Algebra.Order.Ring.Int
import Sagittarius.Library.History
import Sagittarius.Trading.SubmissionGuard

set_option autoImplicit false

namespace Sagittarius

open Interleaving

def TradeEvent.isReturn : TradeEvent → Bool
  | .returned _ _ _ => true
  | _ => false

def returnCount (history : List TradeEvent) : ℕ := history.countP TradeEvent.isReturn

def returnedOn (symbol : String) (event : TradeEvent) : Prop := ∃ party now, event = .returned party symbol now

def reopened (symbol : String) (event : TradeEvent) : Prop := event = .reconciled symbol false ∨ event = .enabled

def Apart (interval : ℤ) (later earlier : TradeEvent) : Prop :=
  ∀ second first symbol now before, later = .returned second symbol now → earlier = .returned first symbol before →
    interval ≤ |now - before|

def Dispatch.unrecorded : Dispatch → Option Attempt
  | .returned attempt => some attempt
  | _ => none

structure Snapshot (session : TradingSessionState) (history : List TradeEvent) (attempt : Attempt) : Prop where
  orders : attempt.context.ordersSentThisSession = session.ordersSentThisSession
  mark : attempt.context.openPositionCountForSymbol = 0 →
    Cleared (returnedOn attempt.symbol) (reopened attempt.symbol) history
  time : attempt.context.timeSinceLastOrderForSymbol = session.timeSinceLastOrder attempt.symbol attempt.now

def Dispatch.Reading (limits : TradingLimits) (session : TradingSessionState) (history : List TradeEvent) :
    Dispatch → Prop
  | .counted _ _ ordersSent => ordersSent = session.ordersSentThisSession
  | .positioned prepared _ ordersSent openCount =>
      ordersSent = session.ordersSentThisSession ∧
        (openCount = 0 → Cleared (returnedOn prepared.symbol) (reopened prepared.symbol) history)
  | .measured attempt => Snapshot session history attempt
  | .placing attempt => Snapshot session history attempt ∧ limits.Within attempt.context
  | .submitting attempt => Snapshot session history attempt ∧ limits.Within attempt.context
  | .accepted attempt => Snapshot session history attempt ∧ limits.Within attempt.context
  | .returned attempt =>
      0 ≤ limits.minOrderInterval → ∀ party now, .returned party attempt.symbol now ∈ history → now ≤ attempt.now
  | _ => True

structure Ledger (limits : TradingLimits) (session : TradingSessionState) (unrecorded : Option Attempt)
    (history : List TradeEvent) : Prop where
  count : returnCount history = session.ordersSentThisSession + unrecorded.toList.length
  capped : returnCount history ≤ limits.maxOrdersPerSession.toNat
  marks : ∀ symbol, symbol ∉ session.knownOpenSymbols →
    (∃ attempt ∈ unrecorded, attempt.symbol = symbol) ∨ Cleared (returnedOn symbol) (reopened symbol) history
  times : 0 ≤ limits.minOrderInterval → ∀ party symbol now, .returned party symbol now ∈ history →
    (∃ attempt ∈ unrecorded, attempt.symbol = symbol) ∨
      ∃ last, session.lastOrderTimeBySymbol symbol = some last ∧ now ≤ last
  apart : history.Pairwise (Apart limits.minOrderInterval)
  spaced : limits.maxPositionsPerSymbol = 1 →
    ∀ symbol, Guarded (returnedOn symbol) (reopened symbol) (returnedOn symbol) history

structure LimitsKept (limits : TradingLimits) (state : SubmissionSection) : Prop where
  ledger : Ledger limits state.session (state.inside.bind Dispatch.unrecorded) state.history
  reading : ∀ dispatch, state.inside = some dispatch → dispatch.Reading limits state.session state.history

section Quiet

variable {limits : TradingLimits} {session next : TradingSessionState} {history history' : List TradeEvent}
  {event : Option TradeEvent}

def Unreturned (event : Option TradeEvent) : Prop := ∀ happened, event = some happened → happened.isReturn = false

structure Quiet (session next : TradingSessionState) (event : Option TradeEvent) : Prop where
  orders : next.ordersSentThisSession = session.ordersSentThisSession
  times : next.lastOrderTimeBySymbol = session.lastOrderTimeBySymbol
  unreturned : Unreturned event

theorem not_returned_on (happened : TradeEvent) (quiet : happened.isReturn = false) (symbol : String) :
    ¬ returnedOn symbol happened := by
  rintro ⟨party, now, rfl⟩
  cases quiet

theorem unreturned_cleared (unreturned : Unreturned event) (symbol : String)
    (cleared : Cleared (returnedOn symbol) (reopened symbol) history) :
    Cleared (returnedOn symbol) (reopened symbol) (event.toList ++ history) := by
  cases event with
  | none => exact cleared
  | some happened =>
      exact cleared_harmless _ _ _ _ (not_returned_on happened (unreturned happened rfl) symbol) cleared

theorem unreturned_count (unreturned : Unreturned event) :
    returnCount (event.toList ++ history) = returnCount history := by
  cases event with
  | none => rfl
  | some happened =>
      simp [returnCount, unreturned happened rfl]

theorem unreturned_returned (unreturned : Unreturned event) (party : ℕ) (symbol : String) (now : ℤ)
    (member : .returned party symbol now ∈ event.toList ++ history) : .returned party symbol now ∈ history := by
  rcases List.mem_append.mp member with new | old
  · cases unreturned _ (by simpa using new)
  · exact old

theorem unreturned_apart (unreturned : Unreturned event) (interval : ℤ) (apart : history.Pairwise (Apart interval)) :
    (event.toList ++ history).Pairwise (Apart interval) := by
  cases event with
  | none => exact apart
  | some happened =>
      refine List.pairwise_cons.mpr ⟨fun earlier _ second first symbol now before isLater _ => ?_, apart⟩
      subst isLater
      cases unreturned _ rfl

theorem unreturned_spaced (unreturned : Unreturned event) (symbol : String)
    (spaced : Guarded (returnedOn symbol) (reopened symbol) (returnedOn symbol) history) :
    Guarded (returnedOn symbol) (reopened symbol) (returnedOn symbol) (event.toList ++ history) := by
  cases event with
  | none => exact spaced
  | some happened =>
      exact guarded_cons _ _ _ _ _ spaced fun returned =>
        absurd returned (not_returned_on happened (unreturned happened rfl) symbol)

theorem quiet_snapshot (quiet : Quiet session next event) (attempt : Attempt)
    (snapshot : Snapshot session history attempt) : Snapshot next (event.toList ++ history) attempt where
  orders := snapshot.orders.trans quiet.orders.symm
  mark := fun unmarked => unreturned_cleared quiet.unreturned attempt.symbol (snapshot.mark unmarked)
  time := by
    rw [snapshot.time, TradingSessionState.timeSinceLastOrder, TradingSessionState.timeSinceLastOrder, quiet.times]

theorem quiet_reading (quiet : Quiet session next event) (dispatch : Dispatch)
    (reading : dispatch.Reading limits session history) :
    dispatch.Reading limits next (event.toList ++ history) := by
  cases dispatch with
  | counted prepared now ordersSent => exact reading.trans quiet.orders.symm
  | positioned prepared now ordersSent openCount =>
      exact ⟨reading.1.trans quiet.orders.symm, fun unmarked =>
        unreturned_cleared quiet.unreturned prepared.symbol (reading.2 unmarked)⟩
  | measured attempt => exact quiet_snapshot quiet attempt reading
  | placing attempt => exact ⟨quiet_snapshot quiet attempt reading.1, reading.2⟩
  | submitting attempt => exact ⟨quiet_snapshot quiet attempt reading.1, reading.2⟩
  | accepted attempt => exact ⟨quiet_snapshot quiet attempt reading.1, reading.2⟩
  | returned attempt =>
      exact fun nonneg party now member =>
        reading nonneg party now (unreturned_returned quiet.unreturned party attempt.symbol now member)
  | _ => trivial

theorem quiet_ledger (quiet : Quiet session next event) (unrecorded : Option Attempt)
    (ledger : Ledger limits session unrecorded history)
    (marks : ∀ symbol, symbol ∉ next.knownOpenSymbols → symbol ∉ session.knownOpenSymbols ∨
      ∃ happened, event = some happened ∧ reopened symbol happened) :
    Ledger limits next unrecorded (event.toList ++ history) where
  count := by rw [unreturned_count quiet.unreturned, quiet.orders, ledger.count]
  capped := by rw [unreturned_count quiet.unreturned]; exact ledger.capped
  marks := by
    intro symbol unmarked
    rcases marks symbol unmarked with already | ⟨happened, rfl, remedy⟩
    · exact (ledger.marks symbol already).imp_right (unreturned_cleared quiet.unreturned symbol)
    · right
      exact cleared_good _ _ _ _ (not_returned_on happened (quiet.unreturned happened rfl) symbol) remedy
  times := by
    intro nonneg party symbol now member
    rw [quiet.times]
    exact ledger.times nonneg party symbol now (unreturned_returned quiet.unreturned party symbol now member)
  apart := unreturned_apart quiet.unreturned limits.minOrderInterval ledger.apart
  spaced := fun single symbol => unreturned_spaced quiet.unreturned symbol (ledger.spaced single symbol)

end Quiet

theorem limits_kept_call (limits : TradingLimits) (state : SubmissionSection) (op : SessionOp)
    (foreign : ∀ symbol now, op ≠ .recordOrderSent symbol now) (kept : LimitsKept limits state) :
    LimitsKept limits
      { state with
        session := state.session.perform op
        history := (TradingSystem.opEvent state.session op).toList ++ state.history } := by
  have quiet : Quiet state.session (state.session.perform op) (TradingSystem.opEvent state.session op) := by
    refine ⟨TradingSessionState.perform_orders_sent state.session op foreign,
      TradingSessionState.perform_last_order_time state.session op foreign, fun happened logged => ?_⟩
    cases op with
    | enable openSymbols expectedGeneration =>
        simp only [TradingSystem.opEvent] at logged
        split_ifs at logged
        cases logged
        rfl
    | disable => cases logged; rfl
    | recordOrderSent symbol now => cases logged
    | reconcilePosition symbol hasPosition => cases logged; rfl
  refine ⟨quiet_ledger quiet _ kept.ledger fun symbol unmarked => ?_,
    fun dispatch inside => quiet_reading quiet dispatch (kept.reading dispatch inside)⟩
  cases op with
  | enable openSymbols expectedGeneration =>
      cases expected : state.session.expects expectedGeneration with
      | false =>
          rw [TradingSessionState.enable_superseded _ _ _ expected] at unmarked
          exact .inl unmarked
      | true => exact .inr ⟨.enabled, by simp [TradingSystem.opEvent, expected], .inr rfl⟩
  | disable => exact .inl unmarked
  | recordOrderSent symbol now => exact absurd rfl (foreign symbol now)
  | reconcilePosition reconciled hasPosition =>
      rw [TradingSessionState.reconcile_known] at unmarked
      by_cases same : symbol = reconciled
      · subst same
        cases hasPosition with
        | true => simp at unmarked
        | false => exact .inr ⟨.reconciled symbol false, rfl, .inl rfl⟩
      · rw [if_neg same] at unmarked
        exact .inl unmarked

theorem limits_kept_plain_move (limits : TradingLimits) (state : SubmissionSection) (before after : Dispatch)
    (event : Option TradeEvent) (kept : LimitsKept limits state) (entered : state.inside = some before)
    (plain : before.unrecorded = none) (still : after.unrecorded = none) (unreturned : Unreturned event)
    (reads : after.holdsGuard = true → after.Reading limits state.session (event.toList ++ state.history)) :
    LimitsKept limits
      { session := state.session
        inside := if after.holdsGuard then some after else none
        history := event.toList ++ state.history } := by
  have quiet : Quiet state.session state.session event := ⟨rfl, rfl, unreturned⟩
  have ledger := kept.ledger
  rw [entered, Option.bind_some, plain] at ledger
  have settled : (if after.holdsGuard then some after else none).bind Dispatch.unrecorded = none := by
    split_ifs
    · exact still
    · rfl
  refine ⟨?_, fun dispatch inside => ?_⟩
  · rw [settled]
    exact quiet_ledger quiet none ledger fun symbol unmarked => .inl unmarked
  · split_ifs at inside with held
    cases inside
    exact reads held

theorem elapsed_bound (limits : TradingLimits) (session : TradingSessionState) (history : List TradeEvent)
    (attempt : Attempt) (snapshot : Snapshot session history attempt) (within : limits.Within attempt.context)
    (last : ℤ) (sent : session.lastOrderTimeBySymbol attempt.symbol = some last) :
    limits.minOrderInterval ≤ attempt.now - last := by
  refine within.interval _ ?_
  rw [snapshot.time, TradingSessionState.timeSinceLastOrder, sent]
  rfl

theorem returned_before (limits : TradingLimits) (session : TradingSessionState) (history : List TradeEvent)
    (attempt : Attempt) (ledger : Ledger limits session none history) (snapshot : Snapshot session history attempt)
    (within : limits.Within attempt.context) (nonneg : 0 ≤ limits.minOrderInterval) (party : ℕ) (now : ℤ)
    (member : .returned party attempt.symbol now ∈ history) : limits.minOrderInterval ≤ attempt.now - now := by
  rcases ledger.times nonneg party attempt.symbol now member with ⟨pending, isPending, _⟩ | ⟨last, sent, bound⟩
  · cases isPending
  · have elapsed := elapsed_bound limits session history attempt snapshot within last sent
    omega

theorem limits_kept_reply (limits : TradingLimits) (state : SubmissionSection) (party : ℕ) (attempt : Attempt)
    (kept : LimitsKept limits state) (entered : state.inside = some (.accepted attempt)) :
    LimitsKept limits
      { session := state.session
        inside := some (.returned attempt)
        history := .returned party attempt.symbol attempt.now :: state.history } := by
  have ledger := kept.ledger
  rw [entered] at ledger
  obtain ⟨snapshot, within⟩ := kept.reading _ entered
  have before := returned_before limits state.session state.history attempt ledger snapshot within
  have other : ∀ symbol, symbol ≠ attempt.symbol →
      ¬ returnedOn symbol (.returned party attempt.symbol attempt.now) := by
    rintro symbol different ⟨_, _, same⟩
    cases same
    exact different rfl
  have count : returnCount (.returned party attempt.symbol attempt.now :: state.history) =
      returnCount state.history + 1 := List.countP_cons_of_pos rfl
  have sent : returnCount state.history = state.session.ordersSentThisSession := ledger.count
  refine ⟨⟨?_, ?_, ?_, ?_, ?_, ?_⟩, ?_⟩
  · rw [count, sent]
    rfl
  · have orders := within.orders
    rw [snapshot.orders] at orders
    rw [count, sent]
    omega
  · intro symbol unmarked
    by_cases same : symbol = attempt.symbol
    · exact .inl ⟨attempt, rfl, same.symm⟩
    · rcases ledger.marks symbol unmarked with ⟨pending, isPending, _⟩ | cleared
      · cases isPending
      · exact .inr (cleared_harmless _ _ _ _ (other symbol same) cleared)
  · intro nonneg first symbol now member
    rcases List.mem_cons.mp member with new | old
    · cases new
      exact .inl ⟨attempt, rfl, rfl⟩
    · rcases ledger.times nonneg first symbol now old with ⟨pending, isPending, _⟩ | last
      · cases isPending
      · exact .inr last
  · refine List.pairwise_cons.mpr ⟨?_, ledger.apart⟩
    rintro _ member second first symbol now earlier isLater rfl
    cases isLater
    rcases le_or_gt 0 limits.minOrderInterval with nonneg | negative
    · exact (before nonneg first earlier member).trans (le_abs_self _)
    · exact negative.le.trans (abs_nonneg _)
  · intro single symbol
    refine guarded_cons _ _ _ _ _ (ledger.spaced single symbol) ?_
    rintro ⟨_, _, same⟩
    cases same
    have positions := within.positions
    rw [single] at positions
    exact snapshot.mark (by omega)
  · intro dispatch inside
    cases inside
    intro nonneg first now member
    rcases List.mem_cons.mp member with new | old
    · cases new
      exact le_rfl
    · have elapsed := before nonneg first now old
      omega

theorem limits_kept_record (limits : TradingLimits) (state : SubmissionSection) (party : ℕ) (attempt : Attempt)
    (kept : LimitsKept limits state) (entered : state.inside = some (.returned attempt)) :
    LimitsKept limits
      { session := state.session.perform (.recordOrderSent attempt.symbol attempt.now)
        inside := none
        history := .recorded party attempt.symbol attempt.now :: state.history } := by
  have ledger := kept.ledger
  rw [entered] at ledger
  have latest := kept.reading _ entered
  have unreturned : Unreturned (some (TradeEvent.recorded party attempt.symbol attempt.now)) := by
    intro happened logged
    cases logged
    rfl
  refine ⟨⟨?_, ?_, ?_, ?_, ?_, ?_⟩, fun dispatch inside => by cases inside⟩
  · exact (unreturned_count unreturned).trans ledger.count
  · exact (unreturned_count unreturned).trans_le ledger.capped
  · intro symbol unmarked
    rw [TradingSessionState.record_known, Finset.mem_insert, not_or] at unmarked
    rcases ledger.marks symbol unmarked.2 with ⟨pending, isPending, same⟩ | cleared
    · cases isPending
      exact absurd same.symm unmarked.1
    · exact .inr (unreturned_cleared unreturned symbol cleared)
  · intro nonneg first symbol now member
    have old := unreturned_returned unreturned first symbol now member
    right
    rw [TradingSessionState.record_last_order_time]
    by_cases same : symbol = attempt.symbol
    · subst same
      exact ⟨attempt.now, Function.update_self .., latest nonneg first now old⟩
    · rw [Function.update_of_ne same]
      rcases ledger.times nonneg first symbol now old with ⟨pending, isPending, isSame⟩ | last
      · cases isPending
        exact absurd isSame.symm same
      · exact last
  · exact unreturned_apart unreturned _ ledger.apart
  · exact fun single symbol => unreturned_spaced unreturned symbol (ledger.spaced single symbol)

theorem limits_kept_move (setup : TradingSetup) (state : SubmissionSection) (party : ℕ) (before after : Dispatch)
    (op : Option SessionOp) (event : Option TradeEvent) (kept : LimitsKept setup.limits state)
    (entered : state.inside = some before) (held : before.holdsGuard = true)
    (moved : DispatchMove setup state.session party before after op event) :
    LimitsKept setup.limits
      { session := TradingSystem.performOp state.session op
        inside := if after.holdsGuard then some after else none
        history := event.toList ++ state.history } := by
  have reading := kept.reading before entered
  have plain := fun happened => limits_kept_plain_move setup.limits state before after happened kept entered
  have silent : Unreturned none := fun _ logged => by cases logged
  cases moved with
  | call command => cases held
  | switchOff command result => cases held
  | switchOn command on => cases held
  | connect command => cases held
  | disconnected command result => cases held
  | unknownSymbol command => cases held
  | tooSmall command result => cases held
  | preview prepared => cases held
  | acquire prepared => cases held
  | readClock prepared now => exact plain none rfl rfl silent fun _ => trivial
  | readOrdersSent prepared now => exact plain none rfl rfl silent fun _ => rfl
  | readOpenCount prepared now ordersSent =>
      refine plain none rfl rfl silent fun _ => ⟨reading, fun unmarked => ?_⟩
      have ledger := kept.ledger
      rw [entered] at ledger
      have absent : prepared.symbol ∉ state.session.knownOpenSymbols := by
        intro known
        simp [TradingSessionState.openPositionCount, known] at unmarked
      rcases ledger.marks prepared.symbol absent with ⟨pending, isPending, _⟩ | cleared
      · cases isPending
      · exact cleared
  | readLastOrder attempt read =>
      exact plain none rfl rfl silent fun _ => { orders := reading.1, mark := reading.2, time := read }
  | decline attempt result => exact plain none rfl rfl silent fun holds => by cases holds
  | pass attempt within => exact plain none rfl rfl silent fun _ => ⟨reading, within⟩
  | place attempt =>
      have unreturned : Unreturned (some (.placed party)) := fun _ logged => by cases logged; rfl
      exact plain _ rfl rfl unreturned fun _ =>
        ⟨quiet_snapshot ⟨rfl, rfl, unreturned⟩ attempt reading.1, reading.2⟩
  | refuse attempt => exact plain none rfl rfl silent fun holds => by cases holds
  | accept attempt =>
      have unreturned : Unreturned (some (.accepted party attempt.symbol)) := fun _ logged => by cases logged; rfl
      exact plain _ rfl rfl unreturned fun _ =>
        ⟨quiet_snapshot ⟨rfl, rfl, unreturned⟩ attempt reading.1, reading.2⟩
  | fail attempt => exact plain _ rfl rfl (fun _ logged => by cases logged; rfl) fun holds => by cases holds
  | reply attempt => exact limits_kept_reply setup.limits state party attempt kept entered
  | record attempt result => exact limits_kept_record setup.limits state party attempt kept entered

theorem limits_kept_step (setup : TradingSetup) (state next : SubmissionSection) (kept : LimitsKept setup.limits state)
    (moved : SectionStep setup state next) : LimitsKept setup.limits next := by
  cases moved with
  | call op foreign => exact limits_kept_call setup.limits state op foreign kept
  | dispatch _ moved =>
      cases moved with
      | outside => exact kept
      | switchRead party =>
          have quiet : Quiet state.session state.session (some (.switchRead party)) :=
            ⟨rfl, rfl, fun _ logged => by cases logged; rfl⟩
          exact ⟨quiet_ledger quiet _ kept.ledger fun symbol unmarked => .inl unmarked,
            fun dispatch inside => quiet_reading quiet dispatch (kept.reading dispatch inside)⟩
      | enter prepared free =>
          have ledger := kept.ledger
          rw [free] at ledger
          exact ⟨ledger, fun dispatch inside => by cases inside; trivial⟩
      | move party before after op event entered held moved =>
          exact limits_kept_move setup state party before after op event kept entered held moved

theorem limits_kept_initial (limits : TradingLimits) :
    LimitsKept limits { session := {}, inside := none, history := [] } where
  ledger :=
    { count := rfl
      capped := Nat.zero_le _
      marks := fun symbol _ => .inr (cleared_nil _ _)
      times := fun _ _ _ _ member => by cases member
      apart := .nil
      spaced := fun _ _ => guarded_nil _ _ _ }
  reading := fun _ inside => by cases inside

theorem session_limits_hold (setup : TradingSetup) (labels : List TradeLabel) (final : TradingSystem)
    (completed : run (TradingSystem.step setup) {} labels = some final) :
    returnCount final.history ≤ setup.limits.maxOrdersPerSession.toNat ∧
      final.history.Pairwise (Apart setup.limits.minOrderInterval) ∧
      (setup.limits.maxPositionsPerSymbol = 1 →
        ∀ symbol, Guarded (returnedOn symbol) (reopened symbol) (returnedOn symbol) final.history) := by
  have kept := section_invariant setup (LimitsKept setup.limits) {} (guard_held_initial {})
    (limits_kept_initial setup.limits)
    (limits_kept_step setup) labels final completed
  exact ⟨kept.ledger.capped, kept.ledger.apart, kept.ledger.spaced⟩

theorem session_limits_hold_twice :
    ∃ final, run (TradingSystem.step { limits := .configured }) {}
        (enableSchedule 0 ++ previewSchedule 0 (marketOrder "BTCUSDT" .buy false) ++
          previewSchedule 1 (marketOrder "BTCUSDT" .buy false) ++ placeSchedule 0 0 ++ acceptSchedule 0 ++
          [.session (.reconcilePosition "BTCUSDT" false)] ++ placeSchedule 1 60000000 ++ acceptSchedule 1) =
        some final ∧
      returnCount final.history = 2 ∧
      (returnCount final.history ≤ 20 ∧ final.history.Pairwise (Apart 60000000) ∧
        ∀ symbol, Guarded (returnedOn symbol) (reopened symbol) (returnedOn symbol) final.history) := by
  have runs : (run (TradingSystem.step { limits := .configured }) {}
      (enableSchedule 0 ++ previewSchedule 0 (marketOrder "BTCUSDT" .buy false) ++
        previewSchedule 1 (marketOrder "BTCUSDT" .buy false) ++ placeSchedule 0 0 ++ acceptSchedule 0 ++
        [.session (.reconcilePosition "BTCUSDT" false)] ++ placeSchedule 1 60000000 ++ acceptSchedule 1)).map
      (fun final => returnCount final.history) = some 2 := by decide +kernel
  obtain ⟨final, completed, twice⟩ := Option.map_eq_some_iff.mp runs
  obtain ⟨capped, apart, spaced⟩ := session_limits_hold { limits := .configured } _ final completed
  exact ⟨final, completed, twice, capped, apart, spaced rfl⟩

end Sagittarius
