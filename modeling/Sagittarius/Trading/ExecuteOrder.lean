import Mathlib.Logic.Function.Basic
import Sagittarius.Trading.OrderRequest
import Sagittarius.Trading.TradingLimitPolicy
import Sagittarius.Trading.TradingSessionState

set_option autoImplicit false

namespace Sagittarius

inductive TradingVenue
  | disabled
  | futuresTestnet
deriving DecidableEq

structure ExchangeConnectionStatus where
  reachable : Bool
  failed : Bool
deriving DecidableEq

def ExchangeConnectionStatus.ready (status : ExchangeConnectionStatus) : Bool :=
  status.reachable && !status.failed

inductive SafetyGate
  | tradingVenueDisabled
  | tradingSwitchOff
  | connectionNotReady
deriving DecidableEq

inductive BlockReason
  | gate (gate : SafetyGate)
  | minNotional
  | limit (violation : TradingLimitViolation)
deriving DecidableEq

structure ExecuteOrderResult where
  blockedBy : Option BlockReason
  preview : Option OrderPreview := none
  limitChecks : List TradingLimitCheck := []
  submittedOrder : Option Order := none
  limitContext : Option TradingLimitContext := none
deriving DecidableEq

-- An order whose preview is done, then what is read of the session about it
-- while the submission guard is held, read by read.
structure Prepared where
  command : ExecuteOrderCommand
  preview : OrderPreview
deriving DecidableEq

structure Attempt where
  prepared : Prepared
  now : ℤ
  context : TradingLimitContext
deriving DecidableEq

def Prepared.symbol (prepared : Prepared) : String := prepared.command.orderRequest.symbol

def Attempt.symbol (attempt : Attempt) : String := attempt.prepared.symbol

-- Where one `execute` call stands. Between `guarded` and `returned` it is in
-- the `with live_submission_guard()` block.
inductive Dispatch
  | idle
  | called (command : ExecuteOrderCommand)
  | switchedOn (command : ExecuteOrderCommand)
  | connected (command : ExecuteOrderCommand)
  | previewed (prepared : Prepared)
  | guarded (prepared : Prepared)
  | timed (prepared : Prepared) (now : ℤ)
  | counted (prepared : Prepared) (now : ℤ) (ordersSent : ℕ)
  | positioned (prepared : Prepared) (now : ℤ) (ordersSent openCount : ℕ)
  | measured (attempt : Attempt)
  | placing (attempt : Attempt)
  | submitting (attempt : Attempt)
  | accepted (attempt : Attempt)
  | returned (attempt : Attempt)
  | finished (result : ExecuteOrderResult)
  | raised
deriving DecidableEq

-- The steps of a call; what the clock, the metadata provider and the exchange
-- answer is part of the step. `place` enters `place_order`, which then refuses
-- (it raises and nothing was accepted), or is accepted and replies or fails.
inductive DispatchStep
  | call (command : ExecuteOrderCommand)
  | readSwitch
  | checkConnection (status : ExchangeConnectionStatus)
  | preview (metadata : Option FuturesSymbolMetadata)
  | acquire
  | readClock (now : ℤ)
  | readOrdersSent
  | readOpenCount
  | readLastOrder
  | evaluate
  | place
  | refuse
  | accept
  | reply
  | fail
  | record
deriving DecidableEq

structure TradingSetup where
  venue : TradingVenue := .futuresTestnet
  limits : TradingLimits
deriving DecidableEq

namespace Dispatch

def holdsGuard : Dispatch → Bool
  | .guarded _ => true
  | .timed _ _ => true
  | .counted _ _ _ => true
  | .positioned _ _ _ _ => true
  | .measured _ => true
  | .placing _ => true
  | .submitting _ => true
  | .accepted _ => true
  | .returned _ => true
  | _ => false

def blocked (gate : SafetyGate) : Dispatch := .finished { blockedBy := some (.gate gate) }

def afterEvaluate (limits : TradingLimits) (attempt : Attempt) : Dispatch :=
  let result : ExecuteOrderResult :=
    { blockedBy := (limits.firstViolation attempt.context).map .limit
      preview := some attempt.prepared.preview
      limitChecks := limits.evaluate attempt.context
      limitContext := some attempt.context }
  if result.blockedBy.isSome ∨ attempt.prepared.command.live = false then .finished result else .placing attempt

def next (setup : TradingSetup) (session : TradingSessionState) : Dispatch → DispatchStep → Option Dispatch
  | .idle, .call command => some (.called command)
  | .called command, .readSwitch =>
      if setup.venue ≠ .futuresTestnet then some (blocked .tradingVenueDisabled)
      else if session.enabled then some (.switchedOn command)
      else some (blocked .tradingSwitchOff)
  | .switchedOn command, .checkConnection status =>
      some (if status.ready then .connected command else blocked .connectionNotReady)
  | .connected command, .preview metadata =>
      match previewOrder command.orderRequest metadata with
      | .error _ => some .raised
      | .ok preview =>
          match preview.notionalCheck with
          | .insufficient => some (.finished { blockedBy := some .minNotional, preview := some preview })
          | .sufficient => some (.previewed { command, preview })
  | .previewed prepared, .acquire => some (.guarded prepared)
  | .guarded prepared, .readClock now => some (.timed prepared now)
  | .timed prepared now, .readOrdersSent => some (.counted prepared now session.ordersSentThisSession)
  | .counted prepared now ordersSent, .readOpenCount =>
      some (.positioned prepared now ordersSent (session.openPositionCount prepared.symbol))
  | .positioned prepared now ordersSent openCount, .readLastOrder =>
      some (.measured
        { prepared
          now
          context :=
            { ordersSentThisSession := ordersSent
              orderNotional := prepared.preview.estimatedNotional
              openPositionCountForSymbol := openCount
              timeSinceLastOrderForSymbol := session.timeSinceLastOrder prepared.symbol now } })
  | .measured attempt, .evaluate => some (afterEvaluate setup.limits attempt)
  | .placing attempt, .place => some (.submitting attempt)
  | .submitting _, .refuse => some .raised
  | .submitting attempt, .accept => some (.accepted attempt)
  | .accepted attempt, .reply => some (.returned attempt)
  | .accepted _, .fail => some .raised
  | .returned attempt, .record =>
      some (.finished
        { blockedBy := none
          preview := some attempt.prepared.preview
          limitChecks := setup.limits.evaluate attempt.context
          submittedOrder := some attempt.prepared.preview.order
          limitContext := some attempt.context })
  | _, _ => none

-- A call that nothing else comes between, whose order the exchange accepts.
def undisturbed (setup : TradingSetup) (session : TradingSessionState) (status : ExchangeConnectionStatus)
    (metadata : Option FuturesSymbolMetadata) (now : ℤ) (command : ExecuteOrderCommand) : Dispatch :=
  [.call command, .readSwitch, .checkConnection status, .preview metadata, .acquire, .readClock now, .readOrdersSent,
    .readOpenCount, .readLastOrder, .evaluate, .place, .accept, .reply, .record].foldl
      (fun dispatch step => (dispatch.next setup session step).getD dispatch) .idle

def submitted : Dispatch → Option Order
  | .finished result => result.submittedOrder
  | _ => none

end Dispatch

-- What `ExecuteOrderCommandHandler` asks the policy about an order, all of it
-- read from one session state.
def TradingSessionState.limitContext (session : TradingSessionState) (preview : OrderPreview) (symbol : String)
    (now : ℤ) : TradingLimitContext where
  ordersSentThisSession := session.ordersSentThisSession
  orderNotional := preview.estimatedNotional
  openPositionCountForSymbol := session.openPositionCount symbol
  timeSinceLastOrderForSymbol := session.timeSinceLastOrder symbol now

structure TradingSetup.Admits (setup : TradingSetup) (session : TradingSessionState) (status : ExchangeConnectionStatus)
    (preview : OrderPreview) (symbol : String) (now : ℤ) : Prop where
  venue : setup.venue = .futuresTestnet
  enabled : session.enabled = true
  connected : status.ready = true
  notional : preview.notionalCheck = .sufficient
  limits : setup.limits.Within (session.limitContext preview symbol now)

section Undisturbed

variable (setup : TradingSetup) (session : TradingSessionState) (status : ExchangeConnectionStatus)
  (metadata : FuturesSymbolMetadata) (now : ℤ) (request : PreviewOrderQuery)

theorem undisturbed_gated
    (gated : ¬(setup.venue = .futuresTestnet ∧ session.enabled = true ∧ status.ready = true)) :
    (Dispatch.undisturbed setup session status (some metadata) now { orderRequest := request, live := true }).submitted =
      none := by
  by_cases venue : setup.venue = .futuresTestnet
  · cases enabled : session.enabled with
    | false => simp [Dispatch.undisturbed, Dispatch.next, Dispatch.blocked, Dispatch.submitted, venue, enabled]
    | true =>
        have disconnected : status.ready = false := Bool.eq_false_iff.mpr fun ready => gated ⟨venue, enabled, ready⟩
        simp [Dispatch.undisturbed, Dispatch.next, Dispatch.blocked, Dispatch.submitted, venue, enabled, disconnected]
  · simp [Dispatch.undisturbed, Dispatch.next, Dispatch.blocked, Dispatch.submitted, venue]

theorem undisturbed_submits (order : Order) :
    let preview := OrderPreview.build request metadata
    (Dispatch.undisturbed setup session status (some metadata) now { orderRequest := request, live := true }).submitted =
        some order ↔
      setup.Admits session status preview request.symbol now ∧ preview.order = order := by
  intro preview
  have refused (different : ¬setup.Admits session status preview request.symbol now) :
      none = some order ↔ setup.Admits session status preview request.symbol now ∧ preview.order = order :=
    iff_of_false (Option.some_ne_none order).symm fun both => different both.1
  by_cases gated : setup.venue = .futuresTestnet ∧ session.enabled = true ∧ status.ready = true
  · obtain ⟨venue, enabled, connected⟩ := gated
    have previewed : previewOrder request (some metadata) = .ok preview := rfl
    cases notional : preview.notionalCheck with
    | insufficient =>
        have small : (Dispatch.undisturbed setup session status (some metadata) now
            { orderRequest := request, live := true }).submitted = none := by
          simp [Dispatch.undisturbed, Dispatch.next, Dispatch.submitted, venue, enabled, connected, previewed, notional]
        rw [small]
        exact refused fun admits => NotionalCheck.noConfusion (notional.symm.trans admits.notional)
    | sufficient =>
        have context : ({
            ordersSentThisSession := session.ordersSentThisSession
            orderNotional := preview.estimatedNotional
            openPositionCountForSymbol := session.openPositionCount request.symbol
            timeSinceLastOrderForSymbol := session.timeSinceLastOrder request.symbol now } : TradingLimitContext) =
              session.limitContext preview request.symbol now := rfl
        have ran : (Dispatch.undisturbed setup session status (some metadata) now
            { orderRequest := request, live := true }).submitted =
              if setup.limits.firstViolation (session.limitContext preview request.symbol now) = none then
                some preview.order else none := by
          cases violated : setup.limits.firstViolation (session.limitContext preview request.symbol now) <;>
            simp [Dispatch.undisturbed, Dispatch.next, Dispatch.submitted, Dispatch.afterEvaluate, Prepared.symbol,
              venue, enabled, connected, previewed, notional, context, violated]
        by_cases clear : setup.limits.firstViolation (session.limitContext preview request.symbol now) = none
        · have within := (TradingLimits.first_violation_none setup.limits _).mp clear
          rw [ran, if_pos clear]
          exact Option.some_inj.trans (iff_and_self.mpr fun _ => ⟨venue, enabled, connected, notional, within⟩)
        · rw [ran, if_neg clear]
          exact refused fun admits => clear ((TradingLimits.first_violation_none setup.limits _).mpr admits.limits)
  · rw [undisturbed_gated setup session status metadata now request gated]
    exact refused fun admits => gated ⟨admits.venue, admits.enabled, admits.connected⟩

end Undisturbed

end Sagittarius
