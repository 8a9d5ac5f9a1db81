import Sagittarius.Trading.UserDataCoroutines

set_option autoImplicit false

namespace Sagittarius

inductive StreamCallPlace
  | starting (place : StartCall)
  | stopping (place : StopCall)
deriving DecidableEq

namespace StreamCallPlace

def advance (stream : FuturesUserDataStream) : StreamCallPlace → Option (StreamCallPlace × FuturesUserDataStream)
  | .starting place => (place.advance stream).map fun after => (.starting after.1, after.2)
  | .stopping place => (place.advance stream).map fun after => (.stopping after.1, after.2)

def writes : StreamCallPlace → Option ℕ
  | .starting (.writeGeneration read) => some (read + 1)
  | .stopping (.writeGeneration read) => some (read + 1)
  | _ => none

def concluding : StreamCallPlace → Bool
  | .starting (.setHandle _) => true
  | .stopping .clearToken => true
  | _ => false

def concluded : StreamCallPlace → Bool
  | .starting (.returned true) => true
  | .stopping (.returned true) => true
  | _ => false

end StreamCallPlace

-- A call of a command, and how many coroutines there were when it wrote the
-- generation: those are of an older one.
structure StreamCall where
  place : StreamCallPlace
  older : ℕ := 0
deriving DecidableEq

structure UserDataSystem where
  shared : UserDataShared := {}
  calls : List StreamCall := []
  coroutines : List UserDataCoroutine := []

inductive UserDataLabel
  | start
  | stop
  | call (n : ℕ)
  | coroutine (n : ℕ) (answer : UserDataAnswer)
  | session (op : SessionOp)
deriving DecidableEq

section System

variable (decimal : String → Except PyError ℚ)

namespace UserDataSystem

def step (system : UserDataSystem) : UserDataLabel → Option UserDataSystem
  | .start => some { system with calls := system.calls ++ [{ place := .starting .check }] }
  | .stop => some { system with calls := system.calls ++ [{ place := .stopping .check }] }
  | .call n => do
      let call ← system.calls[n]?
      let (place, stream) ← call.place.advance system.shared.stream
      let older := if call.place.writes.isSome then system.coroutines.length else call.older
      let spawned := stream.tasks.drop system.shared.stream.tasks.length
      return {
        shared := { system.shared with stream }
        calls := system.calls.set n { place, older }
        coroutines := system.coroutines ++ spawned.map fun task => { task, phase := .resolving } }
  | .coroutine n answer => do
      let coroutine ← system.coroutines[n]?
      let (phase, effect) ← coroutine.advance decimal system.shared n answer
      return { system with
        shared := effect.elim system.shared system.shared.perform
        coroutines := system.coroutines.set n { coroutine with phase } }
  | .session op =>
      some { system with shared := { system.shared with session := system.shared.session.perform op } }

-- A stop() or a start() has returned True that wrote a generation after the
-- n-th coroutine was spawned.
def superseded (system : UserDataSystem) (n : ℕ) : Bool :=
  system.calls.any fun call => call.place.concluded && decide (n < call.older)

def SupersededSilent (system : UserDataSystem) : UserDataLabel → Prop
  | .coroutine n answer =>
      system.superseded n = true →
        ∀ next, system.step decimal (.coroutine n answer) = some next → next.shared = system.shared
  | _ => True

end UserDataSystem

-- It is about to touch what is shared, whatever happens meanwhile. The sum of
-- the totals does not decide whether there is a sample.
def HandlingPlace.pending : HandlingPlace → Bool
  | .orderTradeUpdate o => (handleOrderTradeUpdate decimal o).toOption.join.isSome
  | .positionPnls payload => (accountUpdatePositionPnls decimal payload).toOption.isSome
  | .equity payload => (sampleEquity decimal [] payload).toOption.join.isSome
  | .emitEquity _ _ => true
  | .positions _ => false
  | .reconcile _ _ _ => true
  | .emitPosition _ _ _ => true

def UserDataPhase.pending : UserDataPhase → Bool
  | .assigning => true
  | .handling place => place.pending decimal
  | _ => false

-- The answers that let a coroutine go on to touch what is shared without
-- another test of its generation.
def UserDataAnswer.leadsOn : UserDataAnswer → Bool
  | .credentials configured => configured
  | .positions _ => true
  | _ => false

namespace UserDataSystem

-- No generation is written that a coroutine still running has; a call that
-- returns True finds no coroutine it supersedes about to touch what is shared;
-- a superseded one that has yet to resolve its credentials or is inside
-- `get_positions` gets none.
def Fences (system : UserDataSystem) : UserDataLabel → Prop
  | .call n =>
      ∀ call ∈ system.calls[n]?,
        (∀ number ∈ call.place.writes, ∀ coroutine ∈ system.coroutines,
          coroutine.phase ≠ .ended → coroutine.task.generation ≠ number) ∧
        (call.place.concluding = true → ∀ coroutine ∈ system.coroutines.take call.older,
          coroutine.phase.pending decimal = false)
  | .coroutine n answer => system.superseded n = true → answer.leadsOn = false
  | _ => True

instance (system : UserDataSystem) : (label : UserDataLabel) → Decidable (system.Fences decimal label)
  | .start => .isTrue trivial
  | .stop => .isTrue trivial
  | .call n => inferInstanceAs (Decidable (∀ call ∈ system.calls[n]?, _ ∧ _))
  | .coroutine n answer => inferInstanceAs (Decidable (system.superseded n = true → answer.leadsOn = false))
  | .session _ => .isTrue trivial

end UserDataSystem

theorem perform_generation (shared : UserDataShared) (effect : UserDataEffect) :
    (shared.perform effect).stream.generation = shared.stream.generation := by
  cases effect with
  | setTradingClient builder => rfl
  | updatePnls pnls => rfl
  | recordEquity sample => rfl
  | reconcilePosition symbol hasPosition => rfl
  | emit event => rfl

theorem call_advance (stream after : FuturesUserDataStream) (place next : StreamCallPlace)
    (moved : place.advance stream = some (next, after)) :
    after.generation = place.writes.getD stream.generation ∧ (next.concluded = true → place.concluding = true) := by
  cases place with
  | starting place =>
      cases place with
      | check =>
          cases running : stream.taskHandle.isSome <;> simp [StreamCallPlace.advance, StartCall.advance, running] at moved <;>
            obtain ⟨rfl, rfl⟩ := moved <;> exact ⟨rfl, by simp [StreamCallPlace.concluded]⟩
      | returned started => cases moved
      | _ =>
          cases moved
          exact ⟨rfl, by simp [StreamCallPlace.concluded, StreamCallPlace.concluding]⟩
  | stopping place =>
      cases place with
      | check =>
          cases running : stream.taskHandle.isSome <;> simp [StreamCallPlace.advance, StopCall.advance, running] at moved <;>
            obtain ⟨rfl, rfl⟩ := moved <;> exact ⟨rfl, by simp [StreamCallPlace.concluded]⟩
      | checkToken =>
          cases held : stream.token.isSome <;> simp [StreamCallPlace.advance, StopCall.advance, held] at moved <;>
            obtain ⟨rfl, rfl⟩ := moved <;> exact ⟨rfl, by simp [StreamCallPlace.concluded]⟩
      | cancelToken =>
          cases held : stream.token <;> simp [StreamCallPlace.advance, StopCall.advance, held] at moved <;>
            obtain ⟨rfl, rfl⟩ := moved <;> exact ⟨rfl, by simp [StreamCallPlace.concluded]⟩
      | cancelTask =>
          cases held : stream.taskHandle <;> simp [StreamCallPlace.advance, StopCall.advance, held] at moved <;>
            obtain ⟨rfl, rfl⟩ := moved <;> exact ⟨rfl, by simp [StreamCallPlace.concluded]⟩
      | returned stopped => cases moved
      | raised => cases moved
      | _ =>
          cases moved
          exact ⟨rfl, by simp [StreamCallPlace.concluded, StreamCallPlace.concluding]⟩

theorem sample_equity_totals (totals : List (String × ℚ)) (payload : AccountUpdate) :
    (sampleEquity decimal totals payload).toOption.join.isSome =
      (sampleEquity decimal [] payload).toOption.join.isSome := by
  unfold sampleEquity
  cases accountUpdateWalletBalance decimal payload with
  | error error => rfl
  | ok balance =>
      cases held : balance with
      | none => rfl
      | some amount => cases accountUpdateCapturedAt payload <;> rfl

theorem changed_symbols_quiet (payload : AccountUpdate) :
    (UserDataPhase.changedSymbols payload).pending decimal = false := by
  unfold UserDataPhase.changedSymbols
  cases accountUpdateChangedSymbols payload <;> rfl

theorem excepted_quiet (onOsError phase : UserDataPhase) (answer : UserDataAnswer)
    (quiet : onOsError.pending decimal = false) (excepted : onOsError.excepted answer = some phase) :
    phase.pending decimal = false := by
  cases answer <;> cases excepted
  · exact quiet
  · rfl
  · rfl

theorem awaited_quiet (next onOsError phase : UserDataPhase) (answer : UserDataAnswer)
    (goesOn : next.pending decimal = false) (quiet : onOsError.pending decimal = false)
    (awaited : next.awaited onOsError answer = some phase) : phase.pending decimal = false := by
  unfold UserDataPhase.awaited at awaited
  split_ifs at awaited
  · cases awaited
    exact goesOn
  · exact excepted_quiet decimal onOsError phase answer quiet awaited

theorem quietly_moved (next : Option UserDataPhase) (phase : UserDataPhase) (effect : Option UserDataEffect)
    (settled : ∀ later, next = some later → later.pending decimal = false)
    (moved : (next.map fun later => (later, (none : Option UserDataEffect))) = some (phase, effect)) :
    effect = none ∧ phase.pending decimal = false := by
  obtain ⟨later, isNext, same⟩ := Option.map_eq_some_iff.mp moved
  cases same
  exact ⟨rfl, settled _ isNext⟩

theorem handling_quiet (shared : UserDataShared) (answer : UserDataAnswer) (place : HandlingPlace)
    (phase : UserDataPhase) (effect : Option UserDataEffect) (quiet : place.pending decimal = false)
    (moved : place.advance decimal shared answer = some (phase, effect)) :
    effect = none ∧ (answer.leadsOn = false → phase.pending decimal = false) := by
  cases place with
  | orderTradeUpdate o =>
      simp only [HandlingPlace.pending] at quiet
      simp only [HandlingPlace.advance] at moved
      cases handled : handleOrderTradeUpdate decimal o with
      | error error =>
          rw [handled] at moved
          cases moved
          exact ⟨rfl, fun _ => rfl⟩
      | ok event =>
          rw [handled] at moved quiet
          cases event with
          | none =>
              cases moved
              exact ⟨rfl, fun _ => rfl⟩
          | some filled => cases quiet
  | positionPnls payload =>
      simp only [HandlingPlace.pending] at quiet
      simp only [HandlingPlace.advance] at moved
      cases parsed : accountUpdatePositionPnls decimal payload with
      | error error =>
          rw [parsed] at moved
          split_ifs at moved
          · cases moved
            exact ⟨rfl, fun _ => rfl⟩
          · cases moved
            exact ⟨rfl, fun _ => rfl⟩
      | ok pnls =>
          rw [parsed] at quiet
          cases quiet
  | equity payload =>
      simp only [HandlingPlace.pending, ← sample_equity_totals decimal shared.stream.unrealizedPnlBySymbol] at quiet
      simp only [HandlingPlace.advance] at moved
      cases sampled : sampleEquity decimal shared.stream.unrealizedPnlBySymbol payload with
      | error error =>
          rw [sampled] at moved
          cases moved
          exact ⟨rfl, fun _ => rfl⟩
      | ok sample =>
          rw [sampled] at moved quiet
          cases sample with
          | none =>
              cases moved
              exact ⟨rfl, fun _ => changed_symbols_quiet decimal payload⟩
          | some sample => cases quiet
  | emitEquity sample payload => cases quiet
  | positions symbols =>
      cases symbols with
      | nil =>
          cases moved
          exact ⟨rfl, fun _ => rfl⟩
      | cons symbol rest =>
          simp only [HandlingPlace.advance] at moved
          split at moved
          · cases moved
            exact ⟨rfl, fun silent => by cases silent⟩
          · obtain ⟨silent, settled⟩ := quietly_moved decimal _ phase effect
              (fun later => excepted_quiet decimal .failed later answer rfl) moved
            exact ⟨silent, fun _ => settled⟩
  | reconcile symbol held rest => cases quiet
  | emitPosition symbol held rest => cases quiet

theorem advance_quiet (shared : UserDataShared) (n : ℕ) (coroutine : UserDataCoroutine) (answer : UserDataAnswer)
    (phase : UserDataPhase) (effect : Option UserDataEffect) (quiet : coroutine.phase.pending decimal = false)
    (moved : coroutine.advance decimal shared n answer = some (phase, effect)) :
    effect = none ∧ (coroutine.task.generation ≠ shared.stream.generation → answer.leadsOn = false →
      phase.pending decimal = false) := by
  obtain ⟨task, place⟩ := coroutine
  simp only [UserDataCoroutine.advance] at moved
  have passive : ∀ next, (∀ later, next = some later → later.pending decimal = false) →
      (next.map fun later => (later, (none : Option UserDataEffect))) = some (phase, effect) →
      effect = none ∧ (task.generation ≠ shared.stream.generation → answer.leadsOn = false →
        phase.pending decimal = false) := fun next settled isNext =>
    have silent := quietly_moved decimal next phase effect settled isNext
    ⟨silent.1, fun _ _ => silent.2⟩
  have tested : ∀ later : UserDataPhase, later.pending decimal = false → some (later, none) = some (phase, effect) →
      effect = none ∧ (task.generation ≠ shared.stream.generation → answer.leadsOn = false →
        phase.pending decimal = false) := fun later settled isNext =>
    passive (some later) (fun other same => by cases same; exact settled) isNext
  cases place with
  | resolving =>
      dsimp only at moved
      split at moved
      · cases moved
        refine ⟨rfl, fun _ silent => ?_⟩
        simp only [UserDataAnswer.leadsOn] at silent
        rw [silent]
        rfl
      · exact passive _ (fun later => excepted_quiet decimal .ended later answer rfl) moved
  | assigning => cases quiet
  | creating => exact passive _ (fun later => awaited_quiet decimal .outerToken .ended later answer rfl rfl) moved
  | outerToken => exact tested _ (by split_ifs <;> rfl) moved
  | outerGeneration => exact tested _ (by split_ifs <;> rfl) moved
  | connecting => exact passive _ (fun later => awaited_quiet decimal .innerToken .failed later answer rfl rfl) moved
  | innerToken =>
      dsimp only at moved
      split at moved <;> exact tested _ rfl moved
  | innerGeneration => exact tested _ (by split_ifs <;> rfl) moved
  | receiving =>
      dsimp only at moved
      split at moved
      · exact tested _ rfl moved
      · exact passive _ (fun later => excepted_quiet decimal .failed later answer rfl) moved
  | rechecking message =>
      cases moved
      refine ⟨rfl, fun other _ => ?_⟩
      rw [if_neg other]
      rfl
  | handling place =>
      obtain ⟨silent, settled⟩ := handling_quiet decimal shared answer place phase effect quiet moved
      exact ⟨silent, fun _ => settled⟩
  | failed =>
      dsimp only at moved
      split at moved <;> exact tested _ rfl moved
  | sleeping => exact passive _ (fun later => awaited_quiet decimal .outerToken .ended later answer rfl rfl) moved
  | ended => cases moved

theorem effect_generation (shared : UserDataShared) (effect : Option UserDataEffect) :
    (effect.elim shared shared.perform).stream.generation = shared.stream.generation := by
  cases effect with
  | none => rfl
  | some effect => exact perform_generation shared effect

theorem concluding_writes (place : StreamCallPlace) (concluding : place.concluding = true) : place.writes = none := by
  unfold StreamCallPlace.concluding at concluding
  split at concluding
  · rfl
  · rfl
  · cases concluding

namespace UserDataSystem

theorem superseded_iff (system : UserDataSystem) (i : ℕ) :
    system.superseded i = true ↔ ∃ call ∈ system.calls, call.place.concluded = true ∧ i < call.older := by
  simp [superseded]

structure Fenced (system : UserDataSystem) : Prop where
  known : ∀ call ∈ system.calls, call.older ≤ system.coroutines.length
  apart : ∀ call ∈ system.calls, ∀ i < call.older, ∀ coroutine ∈ system.coroutines[i]?,
    coroutine.phase = .ended ∨ coroutine.task.generation ≠ system.shared.stream.generation
  quiet : ∀ i, system.superseded i = true → ∀ coroutine ∈ system.coroutines[i]?,
    coroutine.phase.pending decimal = false

theorem start_fenced : Fenced decimal {} := by
  refine ⟨by simp, by simp, fun i superseded => ?_⟩
  obtain ⟨call, listed, _⟩ := (superseded_iff _ i).mp superseded
  cases listed

theorem begin_fenced (system : UserDataSystem) (place : StreamCallPlace) (inv : Fenced decimal system) :
    Fenced decimal { system with calls := system.calls ++ [{ place := place }] } := by
  have older : ∀ (i : ℕ) (call : StreamCall), call ∈ system.calls ++ [{ place := place }] → i < call.older → call ∈ system.calls := by
    intro i call listed less
    rcases List.mem_append.mp listed with before | new
    · exact before
    · rw [List.mem_singleton.mp new] at less
      exact absurd less (Nat.not_lt_zero i)
  refine ⟨fun call listed => ?_, fun call listed i less => inv.apart call (older i call listed less) i less, ?_⟩
  · rcases Nat.eq_zero_or_pos call.older with none | some
    · rw [none]
      exact Nat.zero_le _
    · exact inv.known call (older 0 call listed some)
  · intro i superseded
    obtain ⟨call, listed, concluded, less⟩ := (superseded_iff _ i).mp superseded
    exact inv.quiet i ((superseded_iff system i).mpr ⟨call, older i call listed less, concluded, less⟩)

theorem coroutine_fenced (system next : UserDataSystem) (n : ℕ) (answer : UserDataAnswer) (inv : Fenced decimal system)
    (fences : system.Fences decimal (.coroutine n answer)) (moved : system.step decimal (.coroutine n answer) = some next) :
    Fenced decimal next := by
  obtain ⟨coroutine, listed, moved⟩ := Option.bind_eq_some_iff.mp moved
  obtain ⟨after, advanced, same⟩ := Option.bind_eq_some_iff.mp moved
  obtain ⟨phase, effect⟩ := after
  cases same
  have running : coroutine.phase ≠ .ended := by
    intro ended
    simp [UserDataCoroutine.advance, ended] at advanced
  have other : ∀ call ∈ system.calls, n < call.older → coroutine.task.generation ≠ system.shared.stream.generation :=
    fun call isCall less => (inv.apart call isCall n less coroutine listed).resolve_left running
  refine ⟨fun call isCall => ?_, fun call isCall i less moved at_i => ?_, fun i superseded moved at_i => ?_⟩
  · rw [List.length_set]
    exact inv.known call isCall
  · dsimp only
    rw [effect_generation]
    rcases eq_or_ne n i with rfl | elsewhere
    · rw [List.getElem?_set_self (List.getElem?_eq_some_iff.mp listed).1] at at_i
      cases at_i
      exact .inr (other call isCall less)
    · rw [List.getElem?_set_ne elsewhere] at at_i
      exact inv.apart call isCall i less moved at_i
  · have before : system.superseded i = true := superseded
    rcases eq_or_ne n i with rfl | elsewhere
    · rw [List.getElem?_set_self (List.getElem?_eq_some_iff.mp listed).1] at at_i
      cases at_i
      obtain ⟨call, isCall, _, less⟩ := (superseded_iff system n).mp before
      have quiet := inv.quiet n before coroutine listed
      exact (advance_quiet decimal system.shared n coroutine answer phase effect quiet advanced).2
        (other call isCall less) (fences before)
    · rw [List.getElem?_set_ne elsewhere] at at_i
      exact inv.quiet i before moved at_i

theorem call_fenced (system next : UserDataSystem) (n : ℕ) (inv : Fenced decimal system)
    (fences : system.Fences decimal (.call n)) (moved : system.step decimal (.call n) = some next) :
    Fenced decimal next := by
  obtain ⟨call, listed, moved⟩ := Option.bind_eq_some_iff.mp moved
  obtain ⟨after, advanced, same⟩ := Option.bind_eq_some_iff.mp moved
  obtain ⟨place, stream⟩ := after
  cases same
  obtain ⟨distinct, unspoken⟩ := fences call listed
  obtain ⟨generation, concludes⟩ := call_advance system.shared.stream stream call.place place advanced
  have isCall : call ∈ system.calls := List.mem_of_getElem? listed
  have spawned : ∀ (more : List UserDataCoroutine), ∀ i < system.coroutines.length,
      (system.coroutines ++ more)[i]? = system.coroutines[i]? := fun more i inside => List.getElem?_append_left inside
  have known : (if call.place.writes.isSome then system.coroutines.length else call.older) ≤ system.coroutines.length := by
    split_ifs
    · exact le_rfl
    · exact inv.known call isCall
  refine ⟨fun other isOther => ?_, fun other isOther i less coroutine at_i => ?_, fun i superseded coroutine at_i => ?_⟩
  · rw [List.length_append]
    rcases List.mem_or_eq_of_mem_set isOther with before | rfl
    · exact (inv.known other before).trans (Nat.le_add_right _ _)
    · exact known.trans (Nat.le_add_right _ _)
  · have inside : i < system.coroutines.length := by
      rcases List.mem_or_eq_of_mem_set isOther with before | rfl
      · exact less.trans_le (inv.known other before)
      · exact less.trans_le known
    rw [spawned _ i inside] at at_i
    dsimp only
    rw [generation]
    cases writes : call.place.writes with
    | some number =>
        have apart := distinct number writes coroutine (List.mem_of_getElem? at_i)
        by_cases ended : coroutine.phase = .ended
        · exact .inl ended
        · exact .inr (apart ended)
    | none =>
        rcases List.mem_or_eq_of_mem_set isOther with before | rfl
        · exact inv.apart other before i less coroutine at_i
        · rw [writes] at less
          exact inv.apart call isCall i less coroutine at_i
  · obtain ⟨other, isOther, concluded, less⟩ := (superseded_iff _ i).mp superseded
    rcases List.mem_or_eq_of_mem_set isOther with before | rfl
    · rw [spawned _ i (less.trans_le (inv.known other before))] at at_i
      exact inv.quiet i ((superseded_iff system i).mpr ⟨other, before, concluded, less⟩) coroutine at_i
    · have concluding := concludes concluded
      rw [spawned _ i (less.trans_le known)] at at_i
      rw [concluding_writes call.place concluding] at less
      refine unspoken concluding coroutine (List.mem_iff_getElem?.mpr ⟨i, ?_⟩)
      rw [List.getElem?_take_of_lt (show i < call.older from less)]
      exact at_i

theorem step_fenced (system next : UserDataSystem) (label : UserDataLabel) (inv : Fenced decimal system)
    (fences : system.Fences decimal label) (moved : system.step decimal label = some next) : Fenced decimal next := by
  cases label with
  | start =>
      cases moved
      exact begin_fenced decimal system _ inv
  | stop =>
      cases moved
      exact begin_fenced decimal system _ inv
  | call n => exact call_fenced decimal system next n inv fences moved
  | coroutine n answer => exact coroutine_fenced decimal system next n answer inv fences moved
  | session op =>
      cases moved
      exact ⟨inv.known, inv.apart, inv.quiet⟩

theorem fenced_silent (system : UserDataSystem) (label : UserDataLabel) (inv : Fenced decimal system) :
    system.SupersededSilent decimal label := by
  cases label with
  | coroutine n answer =>
      intro superseded next moved
      obtain ⟨coroutine, listed, moved⟩ := Option.bind_eq_some_iff.mp moved
      obtain ⟨after, advanced, same⟩ := Option.bind_eq_some_iff.mp moved
      obtain ⟨phase, effect⟩ := after
      cases same
      have quiet := inv.quiet n superseded coroutine listed
      rw [(advance_quiet decimal system.shared n coroutine answer phase effect quiet advanced).1]
      rfl
  | _ => trivial

end UserDataSystem

theorem superseded_stream_has_no_effect (labels : List UserDataLabel)
    (fenced : Interleaving.StepsMeet (UserDataSystem.step decimal) (UserDataSystem.Fences decimal) {} labels) :
    Interleaving.StepsMeet (UserDataSystem.step decimal) (UserDataSystem.SupersededSilent decimal) {} labels :=
  Interleaving.steps_meet_of_invariant (UserDataSystem.step decimal) (UserDataSystem.Fences decimal)
    (UserDataSystem.SupersededSilent decimal) (UserDataSystem.Fenced decimal)
    (fun system label inv _ => system.fenced_silent decimal label inv)
    (fun system label next inv fences moved => system.step_fenced decimal next label inv fences moved)
    labels {} (UserDataSystem.start_fenced decimal) fenced

end System

def returnsTrue (n : ℕ) : UserDataLabel → List UserDataLabel
  | .start => .start :: List.replicate 7 (.call n)
  | .stop => .stop :: List.replicate 8 (.call n)
  | label => [label]

def opensSocket (n : ℕ) : List UserDataLabel :=
  .coroutine n (.credentials true) :: List.replicate 7 (.coroutine n .returned)

def filledUpdate : UserDataMessage :=
  .accountUpdate { E := some 1000, P := [{ s := some "BTCUSDT", up := some "5" }], B := [{ a := some "USDT", wb := some "100" }] }

def receivesUpdate (n : ℕ) : List UserDataLabel :=
  .coroutine n (.received (some filledUpdate)) :: List.replicate 4 (.coroutine n .returned)

def quietRestart : List UserDataLabel :=
  returnsTrue 0 .start ++ opensSocket 0 ++ receivesUpdate 0 ++ [.coroutine 0 (.positions [])] ++
    List.replicate 5 (.coroutine 0 .returned) ++ returnsTrue 1 .stop ++ returnsTrue 2 .start ++
    .coroutine 0 (.received (some filledUpdate)) :: List.replicate 3 (.coroutine 0 .returned)

theorem quiet_restart_silent :
    ((Interleaving.run (UserDataSystem.step readDecimal) {} quietRestart).map fun system =>
        (system.superseded 0, system.superseded 1, system.shared.emitted.length)) = some (true, false, 2) ∧
      Interleaving.StepsMeet (UserDataSystem.step readDecimal) (UserDataSystem.SupersededSilent readDecimal) {}
        quietRestart :=
  ⟨by decide +kernel, superseded_stream_has_no_effect readDecimal quietRestart (by decide +kernel)⟩

def lateAssignment : List UserDataLabel :=
  returnsTrue 0 .start ++ .coroutine 0 (.credentials true) :: returnsTrue 1 .stop

def lateReconcile : List UserDataLabel :=
  returnsTrue 0 .start ++ opensSocket 0 ++ receivesUpdate 0 ++ returnsTrue 1 .stop ++ returnsTrue 2 .start ++
    [.coroutine 0 (.positions [])]

theorem shared_changed (decimal : String → Except PyError ℚ) (labels : List UserDataLabel) (n : ℕ) (answer : UserDataAnswer)
    (system next : UserDataSystem) (reached : Interleaving.run (UserDataSystem.step decimal) {} labels = some system)
    (superseded : system.superseded n = true) (moved : system.step decimal (.coroutine n answer) = some next)
    (changed : next.shared ≠ system.shared) :
    ¬ Interleaving.StepsMeet (UserDataSystem.step decimal) (UserDataSystem.SupersededSilent decimal) {}
      (labels ++ [.coroutine n answer]) := fun silent =>
  changed (Interleaving.steps_meet_last _ _ labels (.coroutine n answer) {} system silent reached superseded next moved)

theorem superseded_stream_interferes :
    ((Interleaving.run (UserDataSystem.step readDecimal) {} lateAssignment).map fun system =>
        (system.superseded 0, system.shared.tradingClient)) = some (true, none) ∧
      ((Interleaving.run (UserDataSystem.step readDecimal) {} (lateAssignment ++ [.coroutine 0 .returned])).map fun system =>
        system.shared.tradingClient) = some (some 0) ∧
      ((Interleaving.run (UserDataSystem.step readDecimal) {} lateReconcile).map fun system =>
        (system.superseded 0, system.shared.session.generation, system.shared.emitted.length)) = some (true, 0, 1) ∧
      ((Interleaving.run (UserDataSystem.step readDecimal) {} (lateReconcile ++ List.replicate 2 (.coroutine 0 .returned))).map
        fun system => (system.shared.session.generation, system.shared.emitted.length)) = some (1, 2) ∧
      ¬ Interleaving.StepsMeet (UserDataSystem.step readDecimal) (UserDataSystem.SupersededSilent readDecimal) {}
        (lateAssignment ++ [.coroutine 0 .returned]) := by
  refine ⟨by decide +kernel, by decide +kernel, by decide +kernel, by decide +kernel, ?_⟩
  obtain ⟨system, reached, seen⟩ := Option.map_eq_some_iff.mp
    (show ((Interleaving.run (UserDataSystem.step readDecimal) {} lateAssignment).map fun system =>
      (system.superseded 0, system.shared.tradingClient,
        (system.step readDecimal (.coroutine 0 .returned)).map fun next => next.shared.tradingClient)) =
          some (true, none, some (some 0)) by decide +kernel)
  simp only [Prod.mk.injEq] at seen
  obtain ⟨superseded, before, after⟩ := seen
  obtain ⟨next, moved, client⟩ := Option.map_eq_some_iff.mp after
  refine shared_changed readDecimal lateAssignment 0 .returned system next reached superseded moved fun same => ?_
  rw [same, before] at client
  cases client

end Sagittarius
