import Sagittarius.Library.Machine
import Sagittarius.Trading.ExecuteOrder

set_option autoImplicit false

namespace Sagittarius

inductive EnableTradingBlockReason
  | tradingVenueDisabled
  | connectionNotReady
  | unexpectedPositions
  | supersededByConcurrentStateChange
deriving DecidableEq

inductive Enabling
  | idle
  | called
  | read (generation : ℕ)
  | connected (generation : ℕ)
  | reconciled (generation : ℕ)
  | applied
  | enabled
  | refused (reason : EnableTradingBlockReason)
  | raised
deriving DecidableEq

inductive EnablingStep
  | call
  | readGeneration
  | checkConnection (status : ExchangeConnectionStatus)
  | readAccount (positions : List String)
  | loseAccount
  | apply
  | startStream
deriving DecidableEq

def Enabling.next (setup : TradingSetup) (session : TradingSessionState) : Enabling → EnablingStep → Option Enabling
  | .idle, .call => some .called
  | .called, .readGeneration =>
      some (if setup.venue = .futuresTestnet then .read session.generation else .refused .tradingVenueDisabled)
  | .read generation, .checkConnection status =>
      some (if status.ready then .connected generation else .refused .connectionNotReady)
  | .connected generation, .readAccount positions =>
      some (if positions = [] then .reconciled generation else .refused .unexpectedPositions)
  | .connected _, .loseAccount => some .raised
  | .reconciled generation, .apply =>
      some (if session.expects (some generation) then .applied else .refused .supersededByConcurrentStateChange)
  | .applied, .startStream => some .enabled
  | _, _ => none

-- DisableTrading and EmergencyStop begin alike. What an emergency stop does
-- after that, cancelling orders and closing positions, leaves the session and
-- the stream alone.
inductive Stopping
  | idle
  | called
  | disabled
  | stopped
deriving DecidableEq

inductive StoppingStep
  | call
  | disable
  | stopStream
deriving DecidableEq

def Stopping.next : Stopping → StoppingStep → Option Stopping
  | .idle, .call => some .called
  | .called, .disable => some .disabled
  | .disabled, .stopStream => some .stopped
  | _, _ => none

inductive TradeEvent
  | enabled
  | disabled
  | reconciled (symbol : String) (hasPosition : Bool)
  | switchRead (party : ℕ)
  | placed (party : ℕ)
  | accepted (party : ℕ) (symbol : String)
  | failed (party : ℕ) (symbol : String)
  | returned (party : ℕ) (symbol : String) (now : ℤ)
  | recorded (party : ℕ) (symbol : String) (now : ℤ)
deriving DecidableEq

structure TradingSystem where
  session : TradingSessionState := {}
  guardOwner : Option ℕ := none
  dispatches : ℕ → Dispatch := fun _ => .idle
  enablings : ℕ → Enabling := fun _ => .idle
  stops : ℕ → Stopping := fun _ => .idle
  streaming : Bool := false
  history : List TradeEvent := []

-- `session` is a call that reaches the state from elsewhere: the user-data
-- stream reconciling, or any other caller of `enable` and `disable`.
inductive TradeLabel
  | dispatch (party : ℕ) (step : DispatchStep)
  | enabling (party : ℕ) (step : EnablingStep)
  | stopping (party : ℕ) (step : StoppingStep)
  | session (op : SessionOp)
deriving DecidableEq

def Dispatch.sessionOp : Dispatch → DispatchStep → Option SessionOp
  | .returned attempt, .record => some (.recordOrderSent attempt.symbol attempt.now)
  | _, _ => none

def Enabling.sessionOp : Enabling → EnablingStep → Option SessionOp
  | .reconciled generation, .apply => some (.enable ∅ (some generation))
  | _, _ => none

def Stopping.sessionOp : StoppingStep → Option SessionOp
  | .disable => some .disable
  | _ => none

namespace TradingSystem

def sessionOp (system : TradingSystem) : TradeLabel → Option SessionOp
  | .dispatch party step => (system.dispatches party).sessionOp step
  | .enabling party step => (system.enablings party).sessionOp step
  | .stopping _ step => Stopping.sessionOp step
  | .session op => some op

def opEvent (session : TradingSessionState) : SessionOp → Option TradeEvent
  | .enable _ expectedGeneration => if session.expects expectedGeneration then some .enabled else none
  | .disable => some .disabled
  | .recordOrderSent _ _ => none
  | .reconcilePosition symbol hasPosition => some (.reconciled symbol hasPosition)

def dispatchEvent (setup : TradingSetup) (session : TradingSessionState) (party : ℕ) :
    Dispatch → DispatchStep → Option TradeEvent
  | .called _, .readSwitch =>
      if setup.venue = .futuresTestnet ∧ session.enabled = true then some (.switchRead party) else none
  | .placing _, .place => some (.placed party)
  | .submitting attempt, .accept => some (.accepted party attempt.symbol)
  | .accepted attempt, .fail => some (.failed party attempt.symbol)
  | .accepted attempt, .reply => some (.returned party attempt.symbol attempt.now)
  | .returned attempt, .record => some (.recorded party attempt.symbol attempt.now)
  | _, _ => none

def event (setup : TradingSetup) (system : TradingSystem) (label : TradeLabel) : Option TradeEvent :=
  match label with
  | .dispatch party step => dispatchEvent setup system.session party (system.dispatches party) step
  | other => (system.sessionOp other).bind (opEvent system.session)

-- Only an owned guard makes a step wait.
def entersGuard (before after : Dispatch) : Bool := !before.holdsGuard && after.holdsGuard

def ownerAfter (owner : Option ℕ) (party : ℕ) (before after : Dispatch) : Option ℕ :=
  if after.holdsGuard then some party else if before.holdsGuard then none else owner

def advance (setup : TradingSetup) (system : TradingSystem) : TradeLabel → Option TradingSystem
  | .dispatch party step =>
      (Dispatch.next setup system.session (system.dispatches party) step).bind fun after =>
        if entersGuard (system.dispatches party) after ∧ system.guardOwner.isSome then none
        else
          some { system with
            dispatches := Function.update system.dispatches party after
            guardOwner := ownerAfter system.guardOwner party (system.dispatches party) after }
  | .enabling party step =>
      (Enabling.next setup system.session (system.enablings party) step).map fun after =>
        { system with
          enablings := Function.update system.enablings party after
          streaming := system.streaming || decide (step = .startStream) }
  | .stopping party step =>
      (Stopping.next (system.stops party) step).map fun after =>
        { system with
          stops := Function.update system.stops party after
          streaming := system.streaming && decide (step ≠ .stopStream) }
  | .session (.recordOrderSent _ _) => none
  | .session _ => some system

def performOp (session : TradingSessionState) (op : Option SessionOp) : TradingSessionState :=
  op.elim session session.perform

def step (setup : TradingSetup) (system : TradingSystem) (label : TradeLabel) : Option TradingSystem :=
  (system.advance setup label).map fun moved =>
    { moved with
      session := performOp system.session (system.sessionOp label)
      history := (system.event setup label).toList ++ system.history }

end TradingSystem

-- Everything a dispatch can do in one step, with the call it makes on the
-- session state and the event that leaves behind.
inductive DispatchMove (setup : TradingSetup) (session : TradingSessionState) (party : ℕ) :
    Dispatch → Dispatch → Option SessionOp → Option TradeEvent → Prop
  | call (command : ExecuteOrderCommand) : DispatchMove setup session party .idle (.called command) none none
  | switchOff (command : ExecuteOrderCommand) (result : ExecuteOrderResult) :
      DispatchMove setup session party (.called command) (.finished result) none none
  | switchOn (command : ExecuteOrderCommand) (on : session.enabled = true) :
      DispatchMove setup session party (.called command) (.switchedOn command) none (some (.switchRead party))
  | connect (command : ExecuteOrderCommand) :
      DispatchMove setup session party (.switchedOn command) (.connected command) none none
  | disconnected (command : ExecuteOrderCommand) (result : ExecuteOrderResult) :
      DispatchMove setup session party (.switchedOn command) (.finished result) none none
  | unknownSymbol (command : ExecuteOrderCommand) :
      DispatchMove setup session party (.connected command) .raised none none
  | tooSmall (command : ExecuteOrderCommand) (result : ExecuteOrderResult) :
      DispatchMove setup session party (.connected command) (.finished result) none none
  | preview (prepared : Prepared) :
      DispatchMove setup session party (.connected prepared.command) (.previewed prepared) none none
  | acquire (prepared : Prepared) : DispatchMove setup session party (.previewed prepared) (.guarded prepared) none none
  | readClock (prepared : Prepared) (now : ℤ) :
      DispatchMove setup session party (.guarded prepared) (.timed prepared now) none none
  | readOrdersSent (prepared : Prepared) (now : ℤ) :
      DispatchMove setup session party (.timed prepared now) (.counted prepared now session.ordersSentThisSession)
        none none
  | readOpenCount (prepared : Prepared) (now : ℤ) (ordersSent : ℕ) :
      DispatchMove setup session party (.counted prepared now ordersSent)
        (.positioned prepared now ordersSent (session.openPositionCount prepared.symbol)) none none
  | readLastOrder (attempt : Attempt)
      (read : attempt.context.timeSinceLastOrderForSymbol = session.timeSinceLastOrder attempt.symbol attempt.now) :
      DispatchMove setup session party
        (.positioned attempt.prepared attempt.now attempt.context.ordersSentThisSession
          attempt.context.openPositionCountForSymbol) (.measured attempt) none none
  | decline (attempt : Attempt) (result : ExecuteOrderResult) :
      DispatchMove setup session party (.measured attempt) (.finished result) none none
  | pass (attempt : Attempt) (within : setup.limits.Within attempt.context) :
      DispatchMove setup session party (.measured attempt) (.placing attempt) none none
  | place (attempt : Attempt) :
      DispatchMove setup session party (.placing attempt) (.submitting attempt) none (some (.placed party))
  | refuse (attempt : Attempt) : DispatchMove setup session party (.submitting attempt) .raised none none
  | accept (attempt : Attempt) :
      DispatchMove setup session party (.submitting attempt) (.accepted attempt) none
        (some (.accepted party attempt.symbol))
  | fail (attempt : Attempt) :
      DispatchMove setup session party (.accepted attempt) .raised none (some (.failed party attempt.symbol))
  | reply (attempt : Attempt) :
      DispatchMove setup session party (.accepted attempt) (.returned attempt) none
        (some (.returned party attempt.symbol attempt.now))
  | record (attempt : Attempt) (result : ExecuteOrderResult) :
      DispatchMove setup session party (.returned attempt) (.finished result)
        (some (.recordOrderSent attempt.symbol attempt.now)) (some (.recorded party attempt.symbol attempt.now))

theorem dispatch_move (setup : TradingSetup) (session : TradingSessionState) (party : ℕ) (before after : Dispatch)
    (step : DispatchStep) (moved : Dispatch.next setup session before step = some after) :
    DispatchMove setup session party before after (before.sessionOp step)
      (TradingSystem.dispatchEvent setup session party before step) := by
  unfold Dispatch.next at moved
  split at moved
  · cases moved
    exact .call _
  · simp only [TradingSystem.dispatchEvent, Dispatch.sessionOp]
    split_ifs at moved with venue on
    · cases moved
      rw [if_neg (fun both => venue both.1)]
      exact .switchOff _ _
    · cases moved
      rw [if_pos ⟨not_not.mp venue, on⟩]
      exact .switchOn _ on
    · cases moved
      rw [if_neg (fun both => on both.2)]
      exact .switchOff _ _
  · cases moved
    split_ifs
    · exact .connect _
    · exact .disconnected _ _
  · split at moved
    · cases moved
      exact .unknownSymbol _
    · split at moved
      · cases moved
        exact .tooSmall _ _
      · cases moved
        exact .preview { command := _, preview := _ }
  · cases moved
    exact .acquire _
  · cases moved
    exact .readClock _ _
  · cases moved
    exact .readOrdersSent _ _
  · cases moved
    exact .readOpenCount _ _ _
  · rename_i prepared now ordersSent openCount
    cases moved
    exact .readLastOrder
      { prepared, now,
        context :=
          { ordersSentThisSession := ordersSent
            orderNotional := prepared.preview.estimatedNotional
            openPositionCountForSymbol := openCount
            timeSinceLastOrderForSymbol := session.timeSinceLastOrder prepared.symbol now } } rfl
  · cases moved
    unfold Dispatch.afterEvaluate
    dsimp only
    split_ifs with declined
    · exact .decline _ _
    · refine .pass _ ((TradingLimits.first_violation_none _ _).mp ?_)
      simpa using (not_or.mp declined).1
  · cases moved
    exact .place _
  · cases moved
    exact .refuse _
  · cases moved
    exact .accept _
  · cases moved
    exact .reply _
  · cases moved
    exact .fail _
  · cases moved
    exact .record _ _
  · cases moved

theorem step_session (setup : TradingSetup) (system next : TradingSystem) (label : TradeLabel)
    (completed : system.step setup label = some next) :
    next.session = TradingSystem.performOp system.session (system.sessionOp label) := by
  simp only [TradingSystem.step, Option.map_eq_some_iff] at completed
  obtain ⟨moved, _, rfl⟩ := completed
  rfl

theorem step_history (setup : TradingSetup) (system next : TradingSystem) (label : TradeLabel)
    (completed : system.step setup label = some next) :
    next.history = (system.event setup label).toList ++ system.history := by
  simp only [TradingSystem.step, Option.map_eq_some_iff] at completed
  obtain ⟨moved, _, rfl⟩ := completed
  rfl

theorem step_dispatch_move (setup : TradingSetup) (system next : TradingSystem) (party : ℕ) (step : DispatchStep)
    (completed : system.step setup (.dispatch party step) = some next) :
    ∃ after, DispatchMove setup system.session party (system.dispatches party) after
        (system.sessionOp (.dispatch party step)) (system.event setup (.dispatch party step)) ∧
      (TradingSystem.entersGuard (system.dispatches party) after = true → system.guardOwner = none) ∧
      next = { system with
        session := TradingSystem.performOp system.session (system.sessionOp (.dispatch party step))
        dispatches := Function.update system.dispatches party after
        guardOwner := TradingSystem.ownerAfter system.guardOwner party (system.dispatches party) after
        history := (system.event setup (.dispatch party step)).toList ++ system.history } := by
  simp only [TradingSystem.step, TradingSystem.advance, Option.map_eq_some_iff, Option.bind_eq_some_iff] at completed
  obtain ⟨moved, ⟨after, proceeds, unblocked⟩, rfl⟩ := completed
  split_ifs at unblocked with held
  cases unblocked
  refine ⟨after, dispatch_move setup system.session party _ _ _ proceeds, fun enters => ?_, rfl⟩
  by_contra owned
  exact held ⟨enters, Option.isSome_iff_ne_none.mpr owned⟩

theorem step_dispatch (setup : TradingSetup) (system next : TradingSystem) (party : ℕ) (step : DispatchStep)
    (completed : system.step setup (.dispatch party step) = some next) :
    ∃ after op event, DispatchMove setup system.session party (system.dispatches party) after op event ∧
      (TradingSystem.entersGuard (system.dispatches party) after = true → system.guardOwner = none) ∧
      next = { system with
        session := TradingSystem.performOp system.session op
        dispatches := Function.update system.dispatches party after
        guardOwner := TradingSystem.ownerAfter system.guardOwner party (system.dispatches party) after
        history := event.toList ++ system.history } := by
  obtain ⟨after, move, free, moved⟩ := step_dispatch_move setup system next party step completed
  exact ⟨after, _, _, move, free, moved⟩

theorem step_other (setup : TradingSetup) (system next : TradingSystem) (label : TradeLabel)
    (other : ∀ party step, label ≠ .dispatch party step) (completed : system.step setup label = some next) :
    ∃ op : Option SessionOp, (∀ symbol now, op ≠ some (.recordOrderSent symbol now)) ∧
      next.dispatches = system.dispatches ∧ next.guardOwner = system.guardOwner ∧
      next.session = TradingSystem.performOp system.session op ∧
      next.history = (op.bind (TradingSystem.opEvent system.session)).toList ++ system.history := by
  simp only [TradingSystem.step, Option.map_eq_some_iff] at completed
  obtain ⟨moved, proceeds, rfl⟩ := completed
  refine ⟨system.sessionOp label, ?_, ?_⟩
  · intro symbol now records
    cases label with
    | dispatch party step => exact other party step rfl
    | enabling party step =>
        simp only [TradingSystem.sessionOp, Enabling.sessionOp] at records
        split at records <;> cases records
    | stopping party step => cases step <;> cases records
    | session op =>
        cases records
        cases proceeds
  · cases label with
    | dispatch party step => exact absurd rfl (other party step)
    | enabling party step =>
        obtain ⟨after, _, rfl⟩ := Option.map_eq_some_iff.mp proceeds
        exact ⟨rfl, rfl, rfl, rfl⟩
    | stopping party step =>
        obtain ⟨after, _, rfl⟩ := Option.map_eq_some_iff.mp proceeds
        exact ⟨rfl, rfl, rfl, rfl⟩
    | session op =>
        cases op with
        | recordOrderSent symbol now => cases proceeds
        | enable openSymbols expectedGeneration => cases proceeds; exact ⟨rfl, rfl, rfl, rfl⟩
        | disable => cases proceeds; exact ⟨rfl, rfl, rfl, rfl⟩
        | reconcilePosition symbol hasPosition => cases proceeds; exact ⟨rfl, rfl, rfl, rfl⟩

theorem dispatch_or_other (label : TradeLabel) :
    (∃ party step, label = .dispatch party step) ∨ ∀ party step, label ≠ .dispatch party step := by
  cases label with
  | dispatch party step => exact .inl ⟨party, step, rfl⟩
  | enabling party step => exact .inr (by simp)
  | stopping party step => exact .inr (by simp)
  | session op => exact .inr (by simp)

theorem event_other (setup : TradingSetup) (system : TradingSystem) (label : TradeLabel)
    (other : ∀ party step, label ≠ .dispatch party step) :
    system.event setup label = (system.sessionOp label).bind (TradingSystem.opEvent system.session) := by
  cases label with
  | dispatch party step => exact absurd rfl (other party step)
  | enabling party step => rfl
  | stopping party step => rfl
  | session op => rfl

def opened (positions : Finset String) : TradingSystem where
  session := (TradingSessionState.enable {} positions none).2

def enableSchedule (party : ℕ) : List TradeLabel :=
  [.call, .readGeneration, .checkConnection { reachable := true, failed := false }, .readAccount [], .apply,
    .startStream].map (.enabling party)

def stopSchedule (party : ℕ) : List TradeLabel := [.call, .disable, .stopStream].map (.stopping party)

def marketOrder (symbol : String) (side : OrderSide) (reduceOnly : Bool) : ExecuteOrderCommand where
  orderRequest := { symbol, side, orderType := .market, quantity := 2, referencePrice := 100, reduceOnly }
  live := true

def previewSchedule (party : ℕ) (command : ExecuteOrderCommand) : List TradeLabel :=
  [.call command, .readSwitch, .checkConnection { reachable := true, failed := false },
    .preview (some thousandths)].map (.dispatch party)

def placeSchedule (party : ℕ) (now : ℤ) : List TradeLabel :=
  [.acquire, .readClock now, .readOrdersSent, .readOpenCount, .readLastOrder, .evaluate, .place].map (.dispatch party)

def acceptSchedule (party : ℕ) : List TradeLabel := [.accept, .reply, .record].map (.dispatch party)

end Sagittarius
