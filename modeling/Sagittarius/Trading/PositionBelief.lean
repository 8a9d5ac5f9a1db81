import Sagittarius.Library.History
import Sagittarius.Trading.TradingSystem

set_option autoImplicit false

namespace Sagittarius

open Interleaving

-- The exchange fills a MARKET order as it accepts it. A reduce-only order
-- shrinks the position it finds; with none to shrink it is not accepted.
-- Orders of another type do not fill at once and are not of this system.
def marketFill (position : ℚ) (order : Order) : Option ℚ :=
  let signed := match order.side with
    | .buy => order.quantity
    | .sell => -order.quantity
  if order.orderType ≠ .market ∨ order.quantity ≤ 0 then none
  else if order.reduceOnly then
    if position * signed < 0 then some (if order.quantity ≤ |position| then position + signed else 0) else none
  else some (position + signed)

inductive AccountUpdateHandling
  | waiting
  | received (symbol : String)
  | fetched (symbol : String) (hasPosition : Bool)
deriving DecidableEq

def AccountUpdateHandling.symbol : AccountUpdateHandling → Option String
  | .waiting => none
  | .received symbol => some symbol
  | .fetched symbol _ => some symbol

structure FillSystem where
  trading : TradingSystem
  positions : String → ℚ
  accountUpdates : List String := []
  stream : AccountUpdateHandling := .waiting

inductive FillLabel
  | dispatch (party : ℕ) (step : DispatchStep)
  | receive
  | getPositions
  | reconcile
deriving DecidableEq

def Dispatch.fills : Dispatch → DispatchStep → Option Order
  | .submitting attempt, .accept => some attempt.prepared.preview.order
  | _, _ => none

namespace FillSystem

def fill (system : FillSystem) (order : Order) : Option FillSystem :=
  (marketFill (system.positions order.symbol) order).map fun position =>
    { system with
      positions := Function.update system.positions order.symbol position
      accountUpdates := system.accountUpdates ++ [order.symbol] }

-- Every fill is followed by its ACCOUNT_UPDATE, and the stream's one thread
-- handles these in turn: `get_positions`, then `reconcile_position`.
def step (setup : TradingSetup) (system : FillSystem) : FillLabel → Option FillSystem
  | .dispatch party step =>
      (system.trading.step setup (.dispatch party step)).bind fun trading =>
        let moved := { system with trading }
        ((system.trading.dispatches party).fills step).elim (some moved) moved.fill
  | .receive =>
      match system.stream, system.accountUpdates with
      | .waiting, symbol :: rest => some { system with accountUpdates := rest, stream := .received symbol }
      | _, _ => none
  | .getPositions =>
      match system.stream with
      | .received symbol => some { system with stream := .fetched symbol (system.positions symbol ≠ 0) }
      | _ => none
  | .reconcile =>
      match system.stream with
      | .fetched symbol hasPosition =>
          (system.trading.step setup (.session (.reconcilePosition symbol hasPosition))).map fun trading =>
            { system with trading, stream := .waiting }
      | _ => none

end FillSystem

def recordedOn (symbol : String) (event : TradeEvent) : Prop := ∃ party now, event = .recorded party symbol now

def reconciledOn (symbol : String) (event : TradeEvent) : Prop := ∃ hasPosition, event = .reconciled symbol hasPosition

inductive FillMove (system : FillSystem) : FillSystem → Prop
  | pass (trading : TradingSystem) (event : Option TradeEvent)
      (silent : ∀ happened, event = some happened → ∀ symbol, ¬ recordedOn symbol happened ∧ ¬ reconciledOn symbol happened)
      (session : trading.session = system.trading.session)
      (history : trading.history = event.toList ++ system.trading.history) :
      FillMove system { system with trading }
  | fill (trading : TradingSystem) (event : Option TradeEvent)
      (silent : ∀ happened, event = some happened → ∀ symbol, ¬ recordedOn symbol happened ∧ ¬ reconciledOn symbol happened)
      (session : trading.session = system.trading.session)
      (history : trading.history = event.toList ++ system.trading.history) (symbol : String) (position : ℚ) :
      FillMove system
        { system with
          trading
          positions := Function.update system.positions symbol position
          accountUpdates := system.accountUpdates ++ [symbol] }
  | record (trading : TradingSystem) (party : ℕ) (symbol : String) (now : ℤ)
      (session : trading.session = system.trading.session.perform (.recordOrderSent symbol now))
      (history : trading.history = .recorded party symbol now :: system.trading.history) :
      FillMove system { system with trading }
  | receive (symbol : String) (rest : List String) (waiting : system.stream = .waiting)
      (queued : system.accountUpdates = symbol :: rest) :
      FillMove system { system with accountUpdates := rest, stream := .received symbol }
  | fetch (symbol : String) (received : system.stream = .received symbol) :
      FillMove system { system with stream := .fetched symbol (system.positions symbol ≠ 0) }
  | reconcile (trading : TradingSystem) (symbol : String) (hasPosition : Bool)
      (fetched : system.stream = .fetched symbol hasPosition)
      (session : trading.session = system.trading.session.perform (.reconcilePosition symbol hasPosition))
      (history : trading.history = .reconciled symbol hasPosition :: system.trading.history) :
      FillMove system { system with trading, stream := .waiting }

theorem dispatch_marks (setup : TradingSetup) (session : TradingSessionState) (party : ℕ) (before after : Dispatch)
    (op : Option SessionOp) (event : Option TradeEvent)
    (moved : DispatchMove setup session party before after op event) :
    (∃ symbol now, op = some (.recordOrderSent symbol now) ∧ event = some (.recorded party symbol now)) ∨
      (op = none ∧ ∀ happened, event = some happened →
        ∀ symbol, ¬ recordedOn symbol happened ∧ ¬ reconciledOn symbol happened) := by
  cases moved
  case record attempt result => exact .inl ⟨attempt.symbol, attempt.now, rfl, rfl⟩
  all_goals
    refine .inr ⟨rfl, fun happened logged symbol => ?_⟩
    cases logged
    try simp [recordedOn, reconciledOn]

theorem fills_submitting (before : Dispatch) (step : DispatchStep) (order : Order)
    (fills : before.fills step = some order) : ∃ attempt, before = .submitting attempt := by
  unfold Dispatch.fills at fills
  split at fills
  · exact ⟨_, rfl⟩
  · cases fills

theorem fill_move (setup : TradingSetup) (system next : FillSystem) (label : FillLabel)
    (completed : system.step setup label = some next) : FillMove system next := by
  cases label with
  | dispatch party step =>
      obtain ⟨trading, moved, filled⟩ := Option.bind_eq_some_iff.mp completed
      obtain ⟨after, op, event, move, _, same⟩ := step_dispatch setup system.trading trading party step moved
      have session : trading.session = TradingSystem.performOp system.trading.session op := by rw [same]
      have history : trading.history = event.toList ++ system.trading.history := by rw [same]
      cases fills : (system.trading.dispatches party).fills step with
      | none =>
          rw [fills] at filled
          cases filled
          rcases dispatch_marks setup _ party _ after op event move with ⟨symbol, now, rfl, rfl⟩ | ⟨rfl, silent⟩
          · exact .record trading party symbol now session history
          · exact .pass trading event silent session history
      | some order =>
          rw [fills] at filled
          obtain ⟨position, _, rfl⟩ := Option.map_eq_some_iff.mp filled
          obtain ⟨attempt, submitting⟩ := fills_submitting _ step order fills
          rw [submitting] at move
          rcases dispatch_marks setup _ party _ after op event move with ⟨symbol, now, rfl, _⟩ | ⟨rfl, silent⟩
          · cases move
          · exact .fill trading event silent session history order.symbol position
  | receive =>
      simp only [FillSystem.step] at completed
      split at completed
      · cases completed
        exact .receive _ _ ‹_› ‹_›
      · cases completed
  | getPositions =>
      simp only [FillSystem.step] at completed
      split at completed
      · cases completed
        exact .fetch _ ‹_›
      · cases completed
  | reconcile =>
      simp only [FillSystem.step] at completed
      split at completed
      · obtain ⟨trading, moved, rfl⟩ := Option.map_eq_some_iff.mp completed
        cases moved
        exact .reconcile _ _ _ ‹_› rfl rfl
      · cases completed

-- The belief about a symbol is right unless an order on it was recorded after
-- its last reconcile.
def Settled (system : FillSystem) (symbol : String) : Prop :=
  Cleared (recordedOn symbol) (reconciledOn symbol) system.trading.history →
    (symbol ∈ system.trading.session.knownOpenSymbols ↔ system.positions symbol ≠ 0)

structure BeliefKept (system : FillSystem) (symbol : String) : Prop where
  marked : ¬ Cleared (recordedOn symbol) (reconciledOn symbol) system.trading.history →
    symbol ∈ system.trading.session.knownOpenSymbols
  current : symbol ∈ system.accountUpdates ∨ system.stream = .received symbol ∨
    system.stream = .fetched symbol (system.positions symbol ≠ 0) ∨
    (system.stream.symbol ≠ some symbol ∧ Settled system symbol)

theorem belief_kept_elsewhere (system next : FillSystem) (symbol : String) (event : Option TradeEvent)
    (kept : BeliefKept system symbol)
    (silent : ∀ happened, event = some happened → ¬ recordedOn symbol happened ∧ ¬ reconciledOn symbol happened)
    (history : next.trading.history = event.toList ++ system.trading.history)
    (known : symbol ∈ next.trading.session.knownOpenSymbols ↔ symbol ∈ system.trading.session.knownOpenSymbols)
    (position : next.positions symbol = system.positions symbol)
    (queued : symbol ∈ system.accountUpdates → symbol ∈ next.accountUpdates)
    (stream : next.stream = system.stream ∨
      (system.stream.symbol ≠ some symbol ∧ next.stream.symbol ≠ some symbol)) : BeliefKept next symbol := by
  have cleared := cleared_silent_iff (recordedOn symbol) (reconciledOn symbol) system.trading.history event silent
  rw [← history] at cleared
  refine ⟨by rw [cleared, known]; exact kept.marked, kept.current.imp queued fun settled => ?_⟩
  simp only [Settled, cleared, known, position]
  rcases stream with same | ⟨notBefore, notAfter⟩
  · rw [same]
    exact settled
  · refine .inr (.inr ⟨notAfter, ?_⟩)
    rcases settled with received | fetched | ⟨_, settled⟩
    · exact absurd (by rw [received]; rfl) notBefore
    · exact absurd (by rw [fetched]; rfl) notBefore
    · exact settled

theorem belief_kept_record (system : FillSystem) (trading : TradingSystem) (party : ℕ) (symbol : String) (now : ℤ)
    (kept : BeliefKept system symbol)
    (session : trading.session = system.trading.session.perform (.recordOrderSent symbol now))
    (history : trading.history = .recorded party symbol now :: system.trading.history) :
    BeliefKept { system with trading } symbol := by
  have uncleared : ¬ Cleared (recordedOn symbol) (reconciledOn symbol) trading.history := by
    rw [history, cleared_cons_iff]
    exact fun cleared => cleared.1 ⟨party, now, rfl⟩
  refine ⟨fun _ => ?_, ?_⟩
  · rw [session, TradingSessionState.record_known]
    exact Finset.mem_insert_self _ _
  · exact kept.current.imp_right (Or.imp_right (Or.imp_right
      (And.imp_right fun _ cleared => absurd cleared uncleared)))

theorem belief_kept_reconcile (system : FillSystem) (trading : TradingSystem) (symbol : String) (hasPosition : Bool)
    (kept : BeliefKept system symbol) (fetched : system.stream = .fetched symbol hasPosition)
    (session : trading.session = system.trading.session.perform (.reconcilePosition symbol hasPosition))
    (history : trading.history = .reconciled symbol hasPosition :: system.trading.history) :
    BeliefKept { system with trading, stream := .waiting } symbol := by
  have cleared : Cleared (recordedOn symbol) (reconciledOn symbol) trading.history := by
    rw [history]
    exact cleared_good _ _ _ _ (by simp [recordedOn]) ⟨hasPosition, rfl⟩
  refine ⟨fun uncleared => absurd cleared uncleared, ?_⟩
  rcases kept.current with pending | received | current | ⟨elsewhere, _⟩
  · exact .inl pending
  · rw [fetched] at received
    cases received
  · rw [fetched, AccountUpdateHandling.fetched.injEq] at current
    refine .inr (.inr (.inr ⟨by simp [AccountUpdateHandling.symbol], fun _ => ?_⟩))
    rw [session, TradingSessionState.reconcile_known, if_pos rfl, current.2, decide_eq_true_eq]
  · exact absurd (by rw [fetched]; rfl) elsewhere

theorem belief_kept_move (system next : FillSystem) (symbol : String) (kept : BeliefKept system symbol)
    (move : FillMove system next) : BeliefKept next symbol := by
  have unlogged : ∀ happened, (none : Option TradeEvent) = some happened →
      ¬ recordedOn symbol happened ∧ ¬ reconciledOn symbol happened := fun _ logged => by cases logged
  cases move with
  | pass trading event silent session history =>
      exact belief_kept_elsewhere system _ symbol event kept (fun happened logged => silent happened logged symbol)
        history (by rw [session]) rfl id (.inl rfl)
  | fill trading event silent session history filled position =>
      by_cases same : symbol = filled
      · have cleared := cleared_silent_iff (recordedOn symbol) (reconciledOn symbol) system.trading.history event
          fun happened logged => silent happened logged symbol
        rw [← history] at cleared
        exact ⟨by rw [cleared, session]; exact kept.marked, .inl (by simp [same])⟩
      · exact belief_kept_elsewhere system _ symbol event kept (fun happened logged => silent happened logged symbol)
          history (by rw [session]) (Function.update_of_ne same _ _) (List.mem_append_left _) (.inl rfl)
  | record trading party recorded now session history =>
      by_cases same : symbol = recorded
      · subst same
        exact belief_kept_record system trading party symbol now kept session history
      · refine belief_kept_elsewhere system _ symbol (some (.recorded party recorded now)) kept ?_ history ?_ rfl id
          (.inl rfl)
        · rintro happened ⟨⟩
          simp [recordedOn, reconciledOn, Ne.symm same]
        · rw [session, TradingSessionState.record_known, Finset.mem_insert, or_iff_right same]
  | receive received rest waiting queued =>
      by_cases same : symbol = received
      · exact ⟨kept.marked, .inr (.inl (by rw [same]))⟩
      · refine belief_kept_elsewhere system _ symbol none kept unlogged rfl Iff.rfl rfl ?_ (.inr ⟨?_, ?_⟩)
        · rw [queued, List.mem_cons]
          exact fun member => member.resolve_left same
        · simp [waiting, AccountUpdateHandling.symbol]
        · simp [AccountUpdateHandling.symbol, Ne.symm same]
  | fetch received isReceived =>
      by_cases same : symbol = received
      · exact ⟨kept.marked, .inr (.inr (.inl (by rw [same])))⟩
      · refine belief_kept_elsewhere system _ symbol none kept unlogged rfl Iff.rfl rfl id (.inr ⟨?_, ?_⟩)
        · simp [isReceived, AccountUpdateHandling.symbol, Ne.symm same]
        · simp [AccountUpdateHandling.symbol, Ne.symm same]
  | reconcile trading reconciled hasPosition fetched session history =>
      by_cases same : symbol = reconciled
      · subst same
        exact belief_kept_reconcile system trading symbol hasPosition kept fetched session history
      · refine belief_kept_elsewhere system _ symbol (some (.reconciled reconciled hasPosition)) kept ?_ history ?_ rfl id
          (.inr ⟨?_, ?_⟩)
        · rintro happened ⟨⟩
          simp [recordedOn, reconciledOn, Ne.symm same]
        · rw [session, TradingSessionState.reconcile_known, if_neg same]
        · simp [fetched, AccountUpdateHandling.symbol, Ne.symm same]
        · simp [AccountUpdateHandling.symbol]

def Dispatch.ended : Dispatch → Bool
  | .idle => true
  | .finished _ => true
  | .raised => true
  | _ => false

structure FillSystem.Quiet (system : FillSystem) : Prop where
  returned : ∀ party, (system.trading.dispatches party).ended = true
  drained : system.accountUpdates = []
  waiting : system.stream = .waiting

-- Where nothing is under way the belief is right, but for the flat symbols on
-- which an order was recorded after their last reconcile. The start may be any
-- quiet state in which the belief is right.
theorem position_belief_converges (setup : TradingSetup) (session : TradingSessionState) (positions : String → ℚ)
    (agrees : ∀ symbol, symbol ∈ session.knownOpenSymbols ↔ positions symbol ≠ 0) (labels : List FillLabel)
    (final : FillSystem)
    (completed : run (FillSystem.step setup) { trading := { session }, positions } labels = some final)
    (quiet : final.Quiet) :
    (∀ symbol, symbol ∈ final.trading.session.knownOpenSymbols ↔ final.positions symbol ≠ 0) ↔
      ∀ symbol, final.positions symbol = 0 →
        Cleared (recordedOn symbol) (reconciledOn symbol) final.trading.history := by
  have kept : ∀ symbol, BeliefKept final symbol := by
    intro symbol
    refine run_invariant (FillSystem.step setup) (fun system => BeliefKept system symbol)
      (fun system label next kept moved => belief_kept_move system next symbol kept (fill_move setup _ _ label moved))
      labels _ final ⟨fun uncleared => absurd (cleared_nil _ _) uncleared, ?_⟩ completed
    exact .inr (.inr (.inr ⟨by simp [AccountUpdateHandling.symbol], fun _ => agrees symbol⟩))
  have settled : ∀ symbol, Settled final symbol := by
    intro symbol
    have current := (kept symbol).current
    simpa [quiet.drained, quiet.waiting, AccountUpdateHandling.symbol] using current
  constructor
  · intro right symbol flat
    by_contra uncleared
    exact (right symbol).mp ((kept symbol).marked uncleared) flat
  · intro cleared symbol
    by_cases isCleared : Cleared (recordedOn symbol) (reconciledOn symbol) final.trading.history
    · exact settled symbol isCleared
    · exact ⟨fun _ flat => isCleared (cleared symbol flat), fun _ => (kept symbol).marked isCleared⟩

def FillLabel.party : FillLabel → Option ℕ
  | .dispatch party _ => some party
  | _ => none

theorem untouched_dispatch (setup : TradingSetup) (party : ℕ) (start final : FillSystem) (labels : List FillLabel)
    (idle : start.trading.dispatches party = .idle) (untouched : ∀ label ∈ labels, label.party ≠ some party)
    (completed : run (FillSystem.step setup) start labels = some final) :
    final.trading.dispatches party = .idle := by
  refine run_invariant_on (FillSystem.step setup) (fun label => label.party ≠ some party)
    (fun system => system.trading.dispatches party = .idle) ?_ labels start final idle untouched completed
  intro system label next idle other moved
  cases label with
  | dispatch mover step =>
      have different : party ≠ mover := fun same => other (congrArg some same.symm)
      obtain ⟨trading, traded, filled⟩ := Option.bind_eq_some_iff.mp moved
      obtain ⟨after, op, event, _, _, rfl⟩ := step_dispatch setup system.trading trading mover step traded
      cases fills : (system.trading.dispatches mover).fills step with
      | none =>
          rw [fills] at filled
          cases filled
          simpa [Function.update_of_ne different] using idle
      | some order =>
          rw [fills] at filled
          obtain ⟨position, _, rfl⟩ := Option.map_eq_some_iff.mp filled
          simpa [Function.update_of_ne different] using idle
  | receive =>
      simp only [FillSystem.step] at moved
      split at moved <;> cases moved
      exact idle
  | getPositions =>
      simp only [FillSystem.step] at moved
      split at moved <;> cases moved
      exact idle
  | reconcile =>
      simp only [FillSystem.step] at moved
      split at moved
      · cases moved
        exact idle
      · cases moved

def FillLabel.ofTrade : TradeLabel → Option FillLabel
  | .dispatch party step => some (.dispatch party step)
  | _ => none

def updateSchedule : List FillLabel := [.receive, .getPositions, .reconcile]

def openSchedule : List FillLabel :=
  (previewSchedule 0 (marketOrder "BTCUSDT" .buy false) ++ placeSchedule 0 0 ++ acceptSchedule 0).filterMap
    FillLabel.ofTrade ++ updateSchedule

def closeSchedule (rest : List FillLabel) : List FillLabel :=
  (previewSchedule 1 (marketOrder "BTCUSDT" .sell true) ++ placeSchedule 1 (60 * 1000000)).filterMap
    FillLabel.ofTrade ++ .dispatch 1 .accept :: rest

def closedBeforeUpdate : List FillLabel :=
  openSchedule ++ closeSchedule ([.dispatch 1 .reply, .dispatch 1 .record] ++ updateSchedule)

def closedAfterUpdate : List FillLabel :=
  openSchedule ++ closeSchedule (updateSchedule ++ [.dispatch 1 .reply, .dispatch 1 .record])

def twoPositions : TradingSetup where
  limits := { TradingLimits.configured with maxPositionsPerSymbol := 2 }

def flatAccount : FillSystem where
  trading := opened ∅
  positions := fun _ => 0

structure Sighting where
  ended : Bool
  accountUpdates : List String
  stream : AccountUpdateHandling
  position : ℚ
  believed : Bool
deriving DecidableEq

def FillSystem.sighting (system : FillSystem) : Sighting where
  ended := (system.trading.dispatches 0).ended && (system.trading.dispatches 1).ended
  accountUpdates := system.accountUpdates
  stream := system.stream
  position := system.positions "BTCUSDT"
  believed := "BTCUSDT" ∈ system.trading.session.knownOpenSymbols

def quietSighting (believed : Bool) : Sighting where
  ended := true
  accountUpdates := []
  stream := .waiting
  position := 0
  believed := believed

theorem quiet_of_sighting (setup : TradingSetup) (labels : List FillLabel) (final : FillSystem) (believed : Bool)
    (parties : ∀ label ∈ labels, label.party ∈ [none, some 0, some 1])
    (completed : run (FillSystem.step setup) flatAccount labels = some final)
    (seen : final.sighting = quietSighting believed) : final.Quiet where
  returned := by
    intro party
    have both : ((final.trading.dispatches 0).ended && (final.trading.dispatches 1).ended) = true :=
      congrArg Sighting.ended seen
    rw [Bool.and_eq_true] at both
    by_cases touched : party = 0 ∨ party = 1
    · rcases touched with rfl | rfl
      · exact both.1
      · exact both.2
    · have untouched : ∀ label ∈ labels, label.party ≠ some party := by
        intro label member same
        have named := parties label member
        simp [same, touched] at named
      rw [untouched_dispatch setup party flatAccount final labels rfl untouched completed]
      rfl
  drained := congrArg Sighting.accountUpdates seen
  waiting := congrArg Sighting.stream seen

theorem flat_account_agrees (symbol : String) :
    symbol ∈ flatAccount.trading.session.knownOpenSymbols ↔ flatAccount.positions symbol ≠ 0 := by
  simp [flatAccount, opened, TradingSessionState.enable, TradingSessionState.expects]

theorem position_belief_converges_after_close :
    ∃ final, run (FillSystem.step twoPositions) flatAccount closedBeforeUpdate = some final ∧
      ((∀ symbol, symbol ∈ final.trading.session.knownOpenSymbols ↔ final.positions symbol ≠ 0) ↔
        ∀ symbol, final.positions symbol = 0 →
          Cleared (recordedOn symbol) (reconciledOn symbol) final.trading.history) := by
  have runs : (run (FillSystem.step twoPositions) flatAccount closedBeforeUpdate).map FillSystem.sighting =
      some (quietSighting false) := by decide +kernel
  obtain ⟨final, completed, seen⟩ := Option.map_eq_some_iff.mp runs
  have quiet := quiet_of_sighting twoPositions closedBeforeUpdate final false (by decide) completed seen
  exact ⟨final, completed, position_belief_converges twoPositions _ _ flat_account_agrees _ final completed quiet⟩

-- The update of the fill is processed while place_order is still returning;
-- the close is recorded after it, and marks the flat symbol open for good.
theorem position_belief_left_open :
    ¬ ∀ (setup : TradingSetup) (session : TradingSessionState) (positions : String → ℚ),
      (∀ symbol, symbol ∈ session.knownOpenSymbols ↔ positions symbol ≠ 0) →
      ∀ (labels : List FillLabel) (final : FillSystem),
        run (FillSystem.step setup) { trading := { session }, positions } labels = some final → final.Quiet →
          ∀ symbol, symbol ∈ final.trading.session.knownOpenSymbols ↔ final.positions symbol ≠ 0 := by
  intro claimed
  have runs : (run (FillSystem.step twoPositions) flatAccount closedAfterUpdate).map FillSystem.sighting =
      some (quietSighting true) := by decide +kernel
  obtain ⟨final, completed, seen⟩ := Option.map_eq_some_iff.mp runs
  have quiet := quiet_of_sighting twoPositions closedAfterUpdate final true (by decide) completed seen
  have believed : "BTCUSDT" ∈ final.trading.session.knownOpenSymbols :=
    of_decide_eq_true (congrArg Sighting.believed seen)
  exact (claimed twoPositions _ _ flat_account_agrees _ final completed quiet "BTCUSDT").mp believed
    (congrArg Sighting.position seen)

end Sagittarius
