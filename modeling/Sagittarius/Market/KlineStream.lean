import Sagittarius.Domain.MarketData
import Sagittarius.Library.Machine
import Sagittarius.Market.BinanceWebsocketService

set_option autoImplicit false

namespace Sagittarius

structure KlinePayload where
  s : String
  i : String
  t : ℤ
  o : String
  h : String
  l : String
  c : String
  v : String
  T : ℤ
  q : String
  n : ℤ
  V : String
  Q : String
  x : Bool
deriving DecidableEq

-- What `recv()` returns: nothing, or an event, as it is or as the `data` of a
-- multiplex envelope.
inductive StreamEvent
  | kline (payload : KlinePayload)
  | other (kind : Option String)
deriving DecidableEq

inductive StreamResponse
  | nothing
  | plain (event : StreamEvent)
  | enveloped (event : StreamEvent)
deriving DecidableEq

section Parsing

variable {α : Type} (float : String → Except PyError α)

def parseKline (k : KlinePayload) : Except PyError (MarketData α) := do
  let openPrice ← float k.o
  let highPrice ← float k.h
  let lowPrice ← float k.l
  let closePrice ← float k.c
  let volume ← float k.v
  let quoteAssetVolume ← float k.q
  let takerBuyBaseAssetVolume ← float k.V
  let takerBuyQuoteAssetVolume ← float k.Q
  return {
    symbol := k.s
    interval := k.i
    openTime := k.t * 1000
    openPrice, highPrice, lowPrice, closePrice, volume
    closeTime := k.T * 1000
    quoteAssetVolume
    numberOfTrades := k.n
    takerBuyBaseAssetVolume, takerBuyQuoteAssetVolume
    isClosed := k.x }

def StreamResponse.event : StreamResponse → Option StreamEvent
  | .nothing => none
  | .plain event => some event
  | .enveloped event => some event

-- `_process_socket_message` after its `recv()`: the MarketTickEvent it emits.
-- An unparsable kline is logged.
def processSocketMessage (response : StreamResponse) : Option (MarketData α) :=
  match response.event with
  | some (.kline payload) => (parseKline float payload).toOption
  | _ => none

end Parsing

inductive KlinePhase
  -- awaits `AsyncClient.create`
  | creating
  -- at the test of the outer loop, of the inner one
  | outerTest
  | innerTest
  -- awaits the connection of the socket it creates
  | connecting
  -- awaits `recv()`
  | receiving
  -- has the numbered message that `recv()` returned
  | processing (number : ℕ) (response : StreamResponse)
  -- in the OSError clause, and in the sleep it ends in
  | failed
  | sleeping
  | ended
deriving DecidableEq

-- A coroutine, with what its socket holds for it: the klines pushed since it
-- connected, numbered in the order of the pushes.
structure KlineCoroutine where
  keys : List StreamKey
  token : ℕ
  phase : KlinePhase
  socket : Option (List (ℕ × StreamResponse))
deriving DecidableEq

-- How what a coroutine awaits ends. A `recv()` may also return something that
-- is no kline event.
inductive KlineAnswer
  | returned
  | noKline
  | osError
  | cancelledError
  | raised
deriving DecidableEq

namespace KlineCoroutine

def spawned (task : KlineTask) : KlineCoroutine :=
  { keys := task.keys, token := task.token, phase := .creating, socket := none }

def moved (coroutine : KlineCoroutine) (phase : KlinePhase) : KlineCoroutine := { coroutine with phase }

def left (coroutine : KlineCoroutine) (phase : KlinePhase) : KlineCoroutine :=
  { coroutine with phase, socket := none }

def caught (coroutine : KlineCoroutine) : KlineAnswer → Option KlineCoroutine
  | .osError => some (coroutine.left .failed)
  | .cancelledError => some (coroutine.left .ended)
  | .raised => some (coroutine.left .ended)
  | _ => none

def uncaught (coroutine : KlineCoroutine) : KlineAnswer → Option KlineCoroutine
  | .osError => some (coroutine.left .ended)
  | .cancelledError => some (coroutine.left .ended)
  | .raised => some (coroutine.left .ended)
  | _ => none

-- One step of a coroutine whose token is cancelled or not, with the answer to
-- what it awaits. The tests and the processing of a message await nothing.
def advance (coroutine : KlineCoroutine) (cancelled : Bool) (answer : KlineAnswer) : Option KlineCoroutine :=
  match coroutine.phase with
  | .creating => if answer = .returned then some (coroutine.moved .outerTest) else coroutine.uncaught answer
  | .outerTest => some (coroutine.moved (if cancelled then .ended else .connecting))
  | .connecting =>
      if answer = .returned then some { coroutine with phase := .innerTest, socket := some [] }
      else coroutine.caught answer
  | .innerTest => some (if cancelled then coroutine.left .outerTest else coroutine.moved .receiving)
  | .receiving =>
      match answer with
      | .returned =>
          match coroutine.socket with
          | some ((number, response) :: rest) =>
              some { coroutine with phase := .processing number response, socket := some rest }
          | _ => none
      | .noKline => some (coroutine.moved .innerTest)
      | answer => coroutine.caught answer
  | .processing _ _ => some (coroutine.moved .innerTest)
  | .failed => some (coroutine.moved (if cancelled then .outerTest else .sleeping))
  | .sleeping => if answer = .returned then some (coroutine.moved .outerTest) else coroutine.uncaught answer
  | .ended => none

def inHand (coroutine : KlineCoroutine) : Option (ℕ × StreamResponse) :=
  match coroutine.phase with
  | .processing number response => some (number, response)
  | _ => none

def messages (coroutine : KlineCoroutine) : List (ℕ × StreamResponse) :=
  coroutine.inHand.toList ++ coroutine.socket.getD []

end KlineCoroutine

def upper (text : String) : List Char := text.toList.map Char.toUpper

-- The exchange sends a kline on a socket for the key of its symbol and interval,
-- whatever the case the symbol was subscribed in.
def StreamKey.Feeds (key : StreamKey) (payload : KlinePayload) : Prop :=
  upper key.1 = upper payload.s ∧ key.2 = payload.i

instance (key : StreamKey) (payload : KlinePayload) : Decidable (StreamKey.Feeds key payload) :=
  inferInstanceAs (Decidable (_ ∧ _))

def KlineCoroutine.push (coroutine : KlineCoroutine) (number : ℕ) (payload : KlinePayload) : KlineCoroutine :=
  match coroutine.socket with
  | none => coroutine
  | some queue =>
      if ∃ key ∈ coroutine.keys, StreamKey.Feeds key payload then
        let event := StreamEvent.kline payload
        let response := if coroutine.keys.length = 1 then StreamResponse.plain event else .enveloped event
        { coroutine with socket := some (queue ++ [(number, response)]) }
      else coroutine

structure LiveStream where
  service : BinanceWebsocketService
  coroutines : List KlineCoroutine
  pushed : ℕ
deriving DecidableEq

inductive LiveStreamLabel
  | call (call : RegistryCall)
  | push (payload : KlinePayload)
  | advance (n : ℕ) (answer : KlineAnswer)
deriving DecidableEq

namespace LiveStream

def start : LiveStream := { service := .start, coroutines := [], pushed := 0 }

def superseded (state : LiveStream) (coroutine : KlineCoroutine) : Bool :=
  coroutine.token ∈ state.service.cancelledTokens

def step (state : LiveStream) : LiveStreamLabel → Option LiveStream
  | .call call =>
      let service := (state.service.call call).2
      some { state with
        service
        coroutines := state.coroutines ++ (service.tasks.drop state.service.tasks.length).map .spawned }
  | .push payload =>
      some { state with
        coroutines := state.coroutines.map fun coroutine => coroutine.push state.pushed payload
        pushed := state.pushed + 1 }
  | .advance n answer => do
      let coroutine ← state.coroutines[n]?
      let next ← coroutine.advance (state.superseded coroutine) answer
      return { state with coroutines := state.coroutines.set n next }

end LiveStream

-- A MarketTickEvent on the bus: from which kline, whether by a superseded task,
-- and whether its key is held by anybody.
structure EmittedTick (α : Type) where
  number : ℕ
  event : MarketData α
  superseded : Bool
  held : Bool

section Emissions

variable {α : Type} (float : String → Except PyError α)

namespace LiveStream

def emits (state : LiveStream) : LiveStreamLabel → Option (EmittedTick α)
  | .advance n _ => do
      let coroutine ← state.coroutines[n]?
      let (number, response) ← coroutine.inHand
      let event ← processSocketMessage float response
      return {
        number, event
        superseded := state.superseded coroutine
        held := state.service.subscriptions.keys.any fun key =>
          upper key.1 = upper event.symbol ∧ key.2 = event.interval }
  | _ => none

def HoldsNothing (coroutine : KlineCoroutine) : Prop :=
  ∀ message ∈ coroutine.inHand, (processSocketMessage float message.2).isNone = true

instance (coroutine : KlineCoroutine) : Decidable (HoldsNothing float coroutine) :=
  inferInstanceAs (Decidable (∀ message ∈ coroutine.inHand, _))

-- A call that supersedes a task finds it with no kline in hand, and the `recv()`
-- of a superseded task returns none.
def SupersedesQuietly (state : LiveStream) : LiveStreamLabel → Prop
  | .call call =>
      ∀ coroutine ∈ state.coroutines, coroutine.token ∈ (state.service.call call).2.cancelledTokens →
        HoldsNothing float coroutine
  | .push _ => True
  | .advance n answer =>
      ∀ coroutine ∈ state.coroutines[n]?, state.superseded coroutine = true → coroutine.phase = .receiving →
        ∀ next ∈ coroutine.advance true answer, HoldsNothing float next

instance (state : LiveStream) : (label : LiveStreamLabel) → Decidable (state.SupersedesQuietly float label)
  | .call _ => inferInstanceAs (Decidable (∀ coroutine ∈ state.coroutines, _ → HoldsNothing float coroutine))
  | .push _ => .isTrue trivial
  | .advance n _ => inferInstanceAs (Decidable (∀ coroutine ∈ state.coroutines[n]?, _ → _ → ∀ next ∈ _, HoldsNothing float next))

end LiveStream

end Emissions

namespace KlineCoroutine

def task (coroutine : KlineCoroutine) : KlineTask := { keys := coroutine.keys, token := coroutine.token }

structure Moves (coroutine next : KlineCoroutine) : Prop where
  task : next.task = coroutine.task
  messages : next.messages.Sublist coroutine.messages
  handled : ∀ message ∈ coroutine.inHand, coroutine.messages = message :: next.messages
  received : coroutine.phase = .receiving ∨ next.inHand = none

theorem moves_idle (coroutine next : KlineCoroutine) (task : next.task = coroutine.task) (before : coroutine.inHand = none)
    (idle : next.inHand = none) (sublist : (next.socket.getD []).Sublist (coroutine.socket.getD [])) :
    coroutine.Moves next := by
  refine ⟨task, ?_, by simp [before], .inr idle⟩
  simpa [messages, before, idle] using sublist

-- One step by what it does with messages: it takes one, is done with one,
-- comes to a `recv()`, or goes on without any.
inductive Turn (coroutine : KlineCoroutine) (cancelled : Bool) : KlineCoroutine → Prop
  | takes (number : ℕ) (response : StreamResponse) (rest : List (ℕ × StreamResponse))
      (receiving : coroutine.phase = .receiving) (socket : coroutine.socket = some ((number, response) :: rest)) :
      Turn coroutine cancelled { coroutine with phase := .processing number response, socket := some rest }
  | done (number : ℕ) (response : StreamResponse) (holds : coroutine.phase = .processing number response) :
      Turn coroutine cancelled (coroutine.moved .innerTest)
  | awaits (before : coroutine.inHand = none) (runs : cancelled = false) :
      Turn coroutine cancelled (coroutine.moved .receiving)
  | connects (before : coroutine.inHand = none) :
      Turn coroutine cancelled { coroutine with phase := .innerTest, socket := some [] }
  | moves (phase : KlinePhase) (before : coroutine.inHand = none) (idle : (coroutine.moved phase).inHand = none)
      (elsewhere : phase ≠ .receiving) : Turn coroutine cancelled (coroutine.moved phase)
  | leaves (phase : KlinePhase) (before : coroutine.inHand = none) (idle : (coroutine.left phase).inHand = none)
      (elsewhere : phase ≠ .receiving) : Turn coroutine cancelled (coroutine.left phase)

theorem caught_turn (coroutine next : KlineCoroutine) (cancelled : Bool) (answer : KlineAnswer)
    (before : coroutine.inHand = none) (caught : coroutine.caught answer = some next) : coroutine.Turn cancelled next := by
  cases answer <;> cases caught
  · exact .leaves .failed before rfl nofun
  · exact .leaves .ended before rfl nofun
  · exact .leaves .ended before rfl nofun

theorem uncaught_turn (coroutine next : KlineCoroutine) (cancelled : Bool) (answer : KlineAnswer)
    (before : coroutine.inHand = none) (uncaught : coroutine.uncaught answer = some next) :
    coroutine.Turn cancelled next := by
  cases answer <;> cases uncaught
  · exact .leaves .ended before rfl nofun
  · exact .leaves .ended before rfl nofun
  · exact .leaves .ended before rfl nofun

theorem receive_turn (coroutine next : KlineCoroutine) (cancelled : Bool) (answer : KlineAnswer)
    (receiving : coroutine.phase = .receiving) (advanced : coroutine.advance cancelled answer = some next) :
    coroutine.Turn cancelled next := by
  have before : coroutine.inHand = none := by rw [inHand, receiving]
  unfold advance at advanced
  rw [receiving] at advanced
  cases answer with
  | returned =>
      dsimp only at advanced
      split at advanced
      · rename_i number response rest socket
        cases advanced
        exact .takes number response rest receiving socket
      · cases advanced
  | noKline =>
      cases advanced
      exact .moves .innerTest before rfl nofun
  | osError => exact coroutine.caught_turn next cancelled .osError before advanced
  | cancelledError => exact coroutine.caught_turn next cancelled .cancelledError before advanced
  | raised => exact coroutine.caught_turn next cancelled .raised before advanced

theorem advance_turn (coroutine next : KlineCoroutine) (cancelled : Bool) (answer : KlineAnswer)
    (advanced : coroutine.advance cancelled answer = some next) : coroutine.Turn cancelled next := by
  cases phase : coroutine.phase with
  | receiving => exact coroutine.receive_turn next cancelled answer phase advanced
  | processing number response =>
      unfold advance at advanced
      rw [phase] at advanced
      cases advanced
      exact .done number response phase
  | creating =>
      have before : coroutine.inHand = none := by rw [inHand, phase]
      unfold advance at advanced
      rw [phase] at advanced
      dsimp only at advanced
      split_ifs at advanced
      · cases advanced
        exact .moves .outerTest before rfl nofun
      · exact coroutine.uncaught_turn next cancelled answer before advanced
  | outerTest =>
      have before : coroutine.inHand = none := by rw [inHand, phase]
      unfold advance at advanced
      rw [phase] at advanced
      cases advanced
      cases cancelled with
      | true => exact .moves .ended before rfl nofun
      | false => exact .moves .connecting before rfl nofun
  | connecting =>
      have before : coroutine.inHand = none := by rw [inHand, phase]
      unfold advance at advanced
      rw [phase] at advanced
      dsimp only at advanced
      split_ifs at advanced
      · cases advanced
        exact .connects before
      · exact coroutine.caught_turn next cancelled answer before advanced
  | innerTest =>
      have before : coroutine.inHand = none := by rw [inHand, phase]
      unfold advance at advanced
      rw [phase] at advanced
      cases advanced
      cases cancelled with
      | true => exact .leaves .outerTest before rfl nofun
      | false => exact .awaits before rfl
  | failed =>
      have before : coroutine.inHand = none := by rw [inHand, phase]
      unfold advance at advanced
      rw [phase] at advanced
      cases advanced
      cases cancelled with
      | true => exact .moves .outerTest before rfl nofun
      | false => exact .moves .sleeping before rfl nofun
  | sleeping =>
      have before : coroutine.inHand = none := by rw [inHand, phase]
      unfold advance at advanced
      rw [phase] at advanced
      dsimp only at advanced
      split_ifs at advanced
      · cases advanced
        exact .moves .outerTest before rfl nofun
      · exact coroutine.uncaught_turn next cancelled answer before advanced
  | ended =>
      unfold advance at advanced
      rw [phase] at advanced
      cases advanced

theorem advance_moves (coroutine next : KlineCoroutine) (cancelled : Bool) (answer : KlineAnswer)
    (advanced : coroutine.advance cancelled answer = some next) : coroutine.Moves next := by
  cases coroutine.advance_turn next cancelled answer advanced with
  | takes number response rest receiving socket =>
      have before : coroutine.inHand = none := by rw [inHand, receiving]
      refine ⟨rfl, ?_, by simp [before], .inl receiving⟩
      simp [messages, socket, inHand]
  | done number response phase =>
      have holds : coroutine.inHand = some (number, response) := by rw [inHand, phase]
      refine ⟨rfl, ?_, ?_, .inr rfl⟩
      · rw [messages, messages, holds]
        exact List.sublist_append_right _ _
      · rw [messages, messages, holds]
        simp [inHand, moved]
  | awaits before runs => exact coroutine.moves_idle _ rfl before rfl (List.Sublist.refl _)
  | connects before => exact coroutine.moves_idle _ rfl before rfl (List.nil_sublist _)
  | moves phase before idle elsewhere => exact coroutine.moves_idle _ rfl before idle (List.Sublist.refl _)
  | leaves phase before idle elsewhere => exact coroutine.moves_idle _ rfl before idle (List.nil_sublist _)

end KlineCoroutine

theorem parsed_key {α : Type} (float : String → Except PyError α) (payload : KlinePayload) (response : StreamResponse)
    (event : MarketData α) (isKline : response.event = some (.kline payload))
    (processed : processSocketMessage float response = some event) :
    event.symbol = payload.s ∧ event.interval = payload.i := by
  rw [processSocketMessage, isKline] at processed
  have parsed : parseKline float payload = .ok event := by
    dsimp only at processed
    cases result : parseKline float payload with
    | error raised =>
        rw [result] at processed
        cases processed
    | ok made =>
        rw [result] at processed
        cases processed
        rfl
  obtain ⟨_, _, parsed⟩ := bind_ok _ _ _ parsed
  obtain ⟨_, _, parsed⟩ := bind_ok _ _ _ parsed
  obtain ⟨_, _, parsed⟩ := bind_ok _ _ _ parsed
  obtain ⟨_, _, parsed⟩ := bind_ok _ _ _ parsed
  obtain ⟨_, _, parsed⟩ := bind_ok _ _ _ parsed
  obtain ⟨_, _, parsed⟩ := bind_ok _ _ _ parsed
  obtain ⟨_, _, parsed⟩ := bind_ok _ _ _ parsed
  obtain ⟨_, _, parsed⟩ := bind_ok _ _ _ parsed
  cases parsed
  exact ⟨rfl, rfl⟩

namespace LiveStream

variable {α : Type} (float : String → Except PyError α)

structure Quiet (state : LiveStream) (log : List (EmittedTick α)) : Prop where
  consistent : state.service.Consistent
  tasks : state.coroutines.map KlineCoroutine.task = state.service.tasks
  quiet : ∀ coroutine ∈ state.coroutines, state.superseded coroutine = true → HoldsNothing float coroutine
  delivered : ∀ coroutine ∈ state.coroutines, ∀ message ∈ coroutine.messages, message.1 < state.pushed ∧
    ∃ payload, message.2.event = some (.kline payload) ∧ ∃ key ∈ coroutine.keys, StreamKey.Feeds key payload
  ordered : ∀ coroutine ∈ state.coroutines, coroutine.messages.Pairwise fun a b => a.1 < b.1
  fresh : ∀ handle ∈ state.service.taskHandle, ∀ coroutine ∈ state.coroutines[handle]?, ∀ tick ∈ log,
    ∀ message ∈ coroutine.messages, tick.number < message.1
  logged : ∀ tick ∈ log, tick.superseded = false ∧ tick.held = true ∧ tick.number < state.pushed
  distinct : (log.map EmittedTick.number).Nodup

variable {float}

theorem coroutine_numbered (state : LiveStream) (log : List (EmittedTick α)) (inv : state.Quiet float log) (n : ℕ)
    (coroutine : KlineCoroutine) (listed : state.coroutines[n]? = some coroutine) :
    state.service.tasks[n]? = some coroutine.task ∧ coroutine.token = n := by
  have isTask : state.service.tasks[n]? = some coroutine.task := by
    rw [← inv.tasks, List.getElem?_map, listed]
    rfl
  exact ⟨isTask, inv.consistent.running.numbered n coroutine.task isTask⟩

theorem unsuperseded_current (state : LiveStream) (log : List (EmittedTick α)) (inv : state.Quiet float log) (n : ℕ)
    (coroutine : KlineCoroutine) (listed : state.coroutines[n]? = some coroutine)
    (runs : state.superseded coroutine = false) :
    n ∈ state.service.taskHandle ∧ ∀ key ∈ coroutine.keys, key ∈ state.service.subscriptions.keys := by
  obtain ⟨isTask, token⟩ := state.coroutine_numbered log inv n coroutine listed
  have inside := (List.getElem?_eq_some_iff.mp isTask).1
  have current : n ∈ state.service.taskHandle := by
    by_contra other
    have cancelled := (inv.consistent.running.cancelled n).mpr ⟨inside, other⟩
    simp [superseded, token, cancelled] at runs
  refine ⟨current, fun key listedKey => ?_⟩
  obtain ⟨task, sameTask, keys⟩ := inv.consistent.running.current n current
  rw [isTask] at sameTask
  cases sameTask
  rw [inv.consistent.active] at keys
  exact List.mem_toFinset.mp (keys ▸ List.mem_toFinset.mpr listedKey)

theorem start_quiet : start.Quiet float ([] : List (EmittedTick α)) where
  consistent := BinanceWebsocketService.start_consistent
  tasks := rfl
  quiet := by simp [start]
  delivered := by simp [start]
  ordered := by simp [start]
  fresh := by simp
  logged := by simp
  distinct := List.nodup_nil

theorem push_messages (coroutine : KlineCoroutine) (number : ℕ) (payload : KlinePayload) :
    (coroutine.push number payload).task = coroutine.task ∧ (coroutine.push number payload).inHand = coroutine.inHand ∧
      ((coroutine.push number payload).messages = coroutine.messages ∨
        ∃ response : StreamResponse, (coroutine.push number payload).messages = coroutine.messages ++ [(number, response)] ∧
          response.event = some (.kline payload) ∧ ∃ key ∈ coroutine.keys, StreamKey.Feeds key payload) := by
  unfold KlineCoroutine.push
  cases socket : coroutine.socket with
  | none => exact ⟨rfl, rfl, .inl rfl⟩
  | some queue =>
      dsimp only
      split_ifs with feeds single
      · refine ⟨rfl, rfl, .inr ⟨.plain (.kline payload), ?_, rfl, feeds⟩⟩
        simp [KlineCoroutine.messages, KlineCoroutine.inHand, socket]
      · refine ⟨rfl, rfl, .inr ⟨.enveloped (.kline payload), ?_, rfl, feeds⟩⟩
        simp [KlineCoroutine.messages, KlineCoroutine.inHand, socket]
      · exact ⟨rfl, rfl, .inl rfl⟩

theorem pushed_message (coroutine : KlineCoroutine) (number : ℕ) (payload : KlinePayload) (message : ℕ × StreamResponse)
    (isMessage : message ∈ (coroutine.push number payload).messages) : message ∈ coroutine.messages ∨
      (message.1 = number ∧ message.2.event = some (.kline payload) ∧ ∃ key ∈ coroutine.keys, StreamKey.Feeds key payload) := by
  obtain ⟨_, _, same | ⟨response, appended, isKline, fed⟩⟩ := push_messages coroutine number payload
  · exact .inl (same ▸ isMessage)
  · rw [appended, List.mem_append, List.mem_singleton] at isMessage
    rcases isMessage with before | rfl
    · exact .inl before
    · exact .inr ⟨rfl, isKline, fed⟩

theorem push_quiet (state next : LiveStream) (log : List (EmittedTick α)) (payload : KlinePayload)
    (inv : state.Quiet float log) (moved : state.step (.push payload) = some next) : next.Quiet float log := by
  cases moved
  refine ⟨inv.consistent, ?_, ?_, ?_, ?_, ?_, ?_, inv.distinct⟩
  · rw [List.map_map, ← inv.tasks]
    exact List.map_congr_left fun coroutine _ => (push_messages coroutine state.pushed payload).1
  · intro pushed listed superseded
    obtain ⟨coroutine, isCoroutine, rfl⟩ := List.mem_map.mp listed
    obtain ⟨task, inHand, _⟩ := push_messages coroutine state.pushed payload
    have token := congrArg KlineTask.token task
    unfold HoldsNothing
    rw [inHand]
    refine inv.quiet coroutine isCoroutine ?_
    simp only [LiveStream.superseded, KlineCoroutine.task] at token superseded ⊢
    rw [← token]
    exact superseded
  · intro pushed listed message isMessage
    obtain ⟨coroutine, isCoroutine, rfl⟩ := List.mem_map.mp listed
    have keys := congrArg KlineTask.keys (push_messages coroutine state.pushed payload).1
    simp only [KlineCoroutine.task] at keys
    rw [keys]
    rcases pushed_message coroutine state.pushed payload message isMessage with before | ⟨number, isKline, fed⟩
    · obtain ⟨number, fed⟩ := inv.delivered coroutine isCoroutine message before
      exact ⟨Nat.lt_succ_of_lt number, fed⟩
    · exact ⟨number ▸ Nat.lt_succ_self _, payload, isKline, fed⟩
  · intro pushed listed
    obtain ⟨coroutine, isCoroutine, rfl⟩ := List.mem_map.mp listed
    obtain ⟨_, _, messages⟩ := push_messages coroutine state.pushed payload
    rcases messages with same | ⟨response, appended, _⟩
    · rw [same]
      exact inv.ordered coroutine isCoroutine
    · rw [appended, List.pairwise_append]
      refine ⟨inv.ordered coroutine isCoroutine, List.pairwise_singleton _ _, fun message before last isLast => ?_⟩
      rw [List.mem_singleton.mp isLast]
      exact (inv.delivered coroutine isCoroutine message before).1
  · intro handle isHandle pushed listed tick isTick message isMessage
    obtain ⟨coroutine, isCoroutine, rfl⟩ := Option.map_eq_some_iff.mp ((List.getElem?_map ..).symm.trans listed)
    rcases pushed_message coroutine state.pushed payload message isMessage with before | ⟨number, _⟩
    · exact inv.fresh handle isHandle coroutine isCoroutine tick isTick message before
    · exact number ▸ (inv.logged tick isTick).2.2
  · intro tick isTick
    obtain ⟨runs, held, number⟩ := inv.logged tick isTick
    exact ⟨runs, held, Nat.lt_succ_of_lt number⟩

theorem spawned_messages (task : KlineTask) :
    (KlineCoroutine.spawned task).messages = [] ∧ (KlineCoroutine.spawned task).inHand = none := ⟨rfl, rfl⟩

theorem call_quiet (state next : LiveStream) (log : List (EmittedTick α)) (call : RegistryCall)
    (inv : state.Quiet float log) (quietly : state.SupersedesQuietly float (.call call))
    (moved : state.step (.call call) = some next) : next.Quiet float log := by
  cases moved
  obtain ⟨⟨spawned, tasks⟩, handles⟩ := state.service.call_spawns call inv.consistent
  have drops : (state.service.call call).2.tasks.drop state.service.tasks.length = spawned := by
    rw [tasks, List.drop_left]
  have counted : state.coroutines.length = state.service.tasks.length := by
    rw [← inv.tasks, List.length_map]
  have listed_cases : ∀ coroutine ∈ state.coroutines ++ spawned.map .spawned,
      coroutine ∈ state.coroutines ∨ (coroutine.messages = [] ∧ coroutine.inHand = none) := by
    intro coroutine listed
    rcases List.mem_append.mp listed with old | new
    · exact .inl old
    · obtain ⟨task, _, rfl⟩ := List.mem_map.mp new
      exact .inr (spawned_messages task)
  simp only [drops]
  refine ⟨(state.service.call_cases call inv.consistent).1, ?_, ?_, ?_, ?_, ?_, inv.logged, inv.distinct⟩
  · rw [List.map_append, List.map_map, inv.tasks, tasks]
    exact congrArg (state.service.tasks ++ ·) (List.map_id spawned)
  · intro coroutine listed superseded
    rcases listed_cases coroutine listed with old | ⟨_, idle⟩
    · exact quietly coroutine old (by simpa [LiveStream.superseded] using superseded)
    · simp [HoldsNothing, idle]
  · intro coroutine listed message isMessage
    rcases listed_cases coroutine listed with old | ⟨empty, _⟩
    · exact inv.delivered coroutine old message isMessage
    · simp [empty] at isMessage
  · intro coroutine listed
    rcases listed_cases coroutine listed with old | ⟨empty, _⟩
    · exact inv.ordered coroutine old
    · simp [empty]
  · intro handle isHandle coroutine listed tick isTick message isMessage
    rcases handles handle isHandle with old | rfl
    · obtain ⟨task, isTask, _⟩ := inv.consistent.running.current handle old
      have inside := (List.getElem?_eq_some_iff.mp isTask).1
      rw [Option.mem_def, List.getElem?_append_left (counted ▸ inside)] at listed
      exact inv.fresh handle old coroutine listed tick isTick message isMessage
    · rw [Option.mem_def, List.getElem?_append_right counted.le] at listed
      obtain ⟨task, _, rfl⟩ := List.mem_map.mp (List.mem_of_getElem? listed)
      cases isMessage

theorem advance_cases (state next : LiveStream) (n : ℕ) (answer : KlineAnswer)
    (moved : state.step (.advance n answer) = some next) :
    ∃ coroutine advanced, state.coroutines[n]? = some coroutine ∧
      coroutine.advance (state.superseded coroutine) answer = some advanced ∧ coroutine.Moves advanced ∧
      next = { state with coroutines := state.coroutines.set n advanced } := by
  obtain ⟨coroutine, listed, continued⟩ := Option.bind_eq_some_iff.mp moved
  obtain ⟨advanced, isNext, same⟩ := Option.bind_eq_some_iff.mp continued
  cases same
  exact ⟨coroutine, advanced, listed, isNext, coroutine.advance_moves advanced _ answer isNext, rfl⟩

theorem advance_keeps (state next : LiveStream) (log : List (EmittedTick α)) (n : ℕ) (answer : KlineAnswer)
    (inv : state.Quiet float log) (quietly : state.SupersedesQuietly float (.advance n answer))
    (moved : state.step (.advance n answer) = some next) : next.Quiet float log := by
  obtain ⟨coroutine, advanced, listed, isNext, moves, rfl⟩ := state.advance_cases next n answer moved
  have isCoroutine : coroutine ∈ state.coroutines := List.mem_of_getElem? listed
  have keys : advanced.keys = coroutine.keys := congrArg KlineTask.keys moves.task
  have token : advanced.token = coroutine.token := congrArg KlineTask.token moves.task
  have inside := (List.getElem?_eq_some_iff.mp listed).1
  refine ⟨inv.consistent, ?_, ?_, ?_, ?_, ?_, inv.logged, inv.distinct⟩
  · obtain ⟨_, isTask⟩ := List.getElem?_eq_some_iff.mp (state.coroutine_numbered log inv n coroutine listed).1
    rw [List.map_set, moves.task, inv.tasks, ← isTask]
    exact List.set_getElem_self _
  · intro other isOther superseded
    rcases List.mem_or_eq_of_mem_set isOther with old | rfl
    · exact inv.quiet other old superseded
    · have supersededBefore : state.superseded coroutine = true := by
        simp only [LiveStream.superseded, token] at superseded ⊢
        exact superseded
      rcases moves.received with receiving | idle
      · rw [supersededBefore] at isNext
        exact quietly coroutine listed supersededBefore receiving _ isNext
      · simp [HoldsNothing, idle]
  · intro other isOther message isMessage
    rcases List.mem_or_eq_of_mem_set isOther with old | rfl
    · exact inv.delivered other old message isMessage
    · rw [keys]
      exact inv.delivered coroutine isCoroutine message (moves.messages.subset isMessage)
  · intro other isOther
    rcases List.mem_or_eq_of_mem_set isOther with old | rfl
    · exact inv.ordered other old
    · exact (inv.ordered coroutine isCoroutine).sublist moves.messages
  · intro handle isHandle other isOther tick isTick message isMessage
    by_cases same : n = handle
    · subst same
      rw [Option.mem_def, List.getElem?_set_self inside] at isOther
      cases isOther
      exact inv.fresh n isHandle coroutine listed tick isTick message (moves.messages.subset isMessage)
    · rw [Option.mem_def, List.getElem?_set_ne same] at isOther
      exact inv.fresh handle isHandle other isOther tick isTick message isMessage

theorem advance_quiet (state next : LiveStream) (log : List (EmittedTick α)) (n : ℕ) (answer : KlineAnswer)
    (inv : state.Quiet float log) (quietly : state.SupersedesQuietly float (.advance n answer))
    (moved : state.step (.advance n answer) = some next) :
    next.Quiet float ((state.emits float (.advance n answer)).toList ++ log) := by
  have kept := state.advance_keeps next log n answer inv quietly moved
  obtain ⟨coroutine, advanced, listed, isNext, moves, rfl⟩ := state.advance_cases next n answer moved
  have isCoroutine : coroutine ∈ state.coroutines := List.mem_of_getElem? listed
  cases emitted : state.emits float (.advance n answer) with
  | none => exact kept
  | some tick =>
      simp only [emits, listed, Option.bind_eq_bind, Option.bind_some, Option.bind_eq_some_iff] at emitted
      obtain ⟨⟨number, response⟩, inHand, event, processed, same⟩ := emitted
      cases same
      have first : coroutine.messages = (number, response) :: advanced.messages := moves.handled _ inHand
      have isMessage : (number, response) ∈ coroutine.messages := by simp [first]
      obtain ⟨numbered, payload, isKline, key, isKey, feeds⟩ := inv.delivered coroutine isCoroutine _ isMessage
      have runs : state.superseded coroutine = false := by
        by_contra superseded
        have nothing := inv.quiet coroutine isCoroutine (by simpa using superseded) _ inHand
        simp [processed] at nothing
      obtain ⟨current, held⟩ := state.unsuperseded_current log inv n coroutine listed runs
      obtain ⟨symbol, interval⟩ := parsed_key float payload response event isKline processed
      have later : ∀ tick ∈ log, tick.number < number := fun tick isTick =>
        inv.fresh n current coroutine listed tick isTick _ isMessage
      refine ⟨kept.consistent, kept.tasks, kept.quiet, kept.delivered, kept.ordered, ?_, ?_, ?_⟩
      · intro handle isHandle other isOther tick isTick message isOtherMessage
        rcases List.mem_cons.mp isTick with rfl | old
        · have sameTask : handle = n := Option.mem_unique isHandle current
          subst sameTask
          rw [Option.mem_def, List.getElem?_set_self (List.getElem?_eq_some_iff.mp listed).1] at isOther
          cases isOther
          have ordered := inv.ordered coroutine isCoroutine
          rw [first] at ordered
          exact (List.pairwise_cons.mp ordered).1 message isOtherMessage
        · exact kept.fresh handle isHandle other isOther tick old message isOtherMessage
      · intro tick isTick
        rcases List.mem_cons.mp isTick with rfl | old
        · refine ⟨runs, List.any_eq_true.mpr ⟨key, held key isKey, ?_⟩, numbered⟩
          rw [symbol, interval]
          exact decide_eq_true feeds
        · exact inv.logged tick old
      · refine List.nodup_cons.mpr ⟨fun listedToo => ?_, inv.distinct⟩
        obtain ⟨tick, isTick, sameNumber⟩ := List.mem_map.mp listedToo
        exact (later tick isTick).ne sameNumber

theorem step_quiet (state : LiveStream) (label : LiveStreamLabel) (next : LiveStream) (log : List (EmittedTick α))
    (inv : state.Quiet float log) (quietly : state.SupersedesQuietly float label) (moved : state.step label = some next) :
    next.Quiet float ((state.emits float label).toList ++ log) := by
  cases label with
  | call call => exact state.call_quiet next log call inv quietly moved
  | push payload => exact state.push_quiet next log payload inv moved
  | advance n answer => exact state.advance_quiet next log n answer inv quietly moved

end LiveStream

-- What reaches the bus of a run whose tasks are superseded quietly: no tick of
-- a superseded task, none for a key that nobody holds, and no kline twice.
theorem superseded_streams_silent {α : Type} (float : String → Except PyError α) (labels : List LiveStreamLabel)
    (final : LiveStream) (completed : Interleaving.run LiveStream.step .start labels = some final)
    (quietly : Interleaving.StepsMeet LiveStream.step (LiveStream.SupersedesQuietly float) .start labels) :
    let ticks := Interleaving.watched LiveStream.step (LiveStream.emits float) .start labels []
    (∀ tick ∈ ticks, tick.superseded = false ∧ tick.held = true) ∧ (ticks.map EmittedTick.number).Nodup := by
  intro ticks
  have inv := Interleaving.run_watched_invariant_meeting LiveStream.step (LiveStream.emits float)
    (LiveStream.SupersedesQuietly float) (LiveStream.Quiet float)
    (fun state label next log inv meets moved => state.step_quiet label next log inv meets moved) labels .start final []
    LiveStream.start_quiet quietly completed
  exact ⟨fun tick listed => ⟨(inv.logged tick listed).1, (inv.logged tick listed).2.1⟩, inv.distinct⟩

def btcKline (close : String) : KlinePayload where
  s := "BTCUSDT"
  i := "1m"
  t := 0
  o := "100"
  h := "101"
  l := "99"
  c := close
  v := "1"
  T := 59999
  q := "100"
  n := 1
  V := "1"
  Q := "100"
  x := true

def readFloat (text : String) : Except PyError ℚ :=
  if text.toList.all Char.isDigit then .ok (text.toList.foldl (fun value digit => 10 * value + (digit.toNat - 48)) 0)
  else .error (.valueError ("could not convert string to float: " ++ pyRepr text))

def connects (n : ℕ) : List LiveStreamLabel := List.replicate 4 (.advance n .returned)

def quietSwitch : List LiveStreamLabel :=
  .call (.subscribe "live" ["BTCUSDT"] .oneMinute) :: connects 0 ++
    [.push (btcKline "100"), .advance 0 .returned, .advance 0 .returned,
      .call (.subscribe "chart" ["ETHUSDT"] .oneMinute)] ++ connects 1 ++
    [.push (btcKline "101"), .advance 0 .returned, .advance 1 .returned, .advance 1 .returned]

theorem quiet_switch_silent :
    let ticks := Interleaving.watched LiveStream.step (LiveStream.emits readFloat) .start quietSwitch []
    ticks.map EmittedTick.number = [1, 0] ∧ (∀ tick ∈ ticks, tick.superseded = false ∧ tick.held = true) ∧
      (ticks.map EmittedTick.number).Nodup := by
  intro ticks
  obtain ⟨final, completed⟩ : ∃ final, Interleaving.run LiveStream.step .start quietSwitch = some final :=
    Option.isSome_iff_exists.mp (by decide +kernel)
  exact ⟨by decide +kernel, superseded_streams_silent readFloat quietSwitch final completed (by decide +kernel)⟩

-- The old coroutine awaits `recv()` when another key is subscribed, and takes
-- the kline that the new one takes too.
def overlappingSwitch : List LiveStreamLabel :=
  .call (.subscribe "live" ["BTCUSDT"] .oneMinute) :: connects 0 ++
    [.call (.subscribe "chart" ["ETHUSDT"] .oneMinute)] ++ connects 1 ++
    [.push (btcKline "100"), .advance 0 .returned, .advance 0 .returned, .advance 1 .returned, .advance 1 .returned]

def strayKline : List LiveStreamLabel :=
  .call (.subscribe "live" ["BTCUSDT"] .oneMinute) :: connects 0 ++
    [.call (.releaseOwner "live"), .push (btcKline "100"), .advance 0 .returned, .advance 0 .returned]

theorem superseded_stream_emits :
    (Interleaving.run LiveStream.step .start overlappingSwitch).isSome = true ∧
      (Interleaving.watched LiveStream.step (LiveStream.emits readFloat) .start overlappingSwitch []).map
        (fun tick => (tick.number, tick.superseded)) = [(0, false), (0, true)] ∧
      (Interleaving.run LiveStream.step .start strayKline).isSome = true ∧
      (Interleaving.watched LiveStream.step (LiveStream.emits readFloat) .start strayKline []).map
        (fun tick => (tick.superseded, tick.held)) = [(true, false)] := by
  decide +kernel

end Sagittarius
