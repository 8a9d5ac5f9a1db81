import Sagittarius.Library.Machine
import Sagittarius.Market.SyncMarketData

set_option autoImplicit false

namespace Sagittarius

variable {α : Type}

structure InFlightSyncGuard where
  inFlight : List (String × String) := []

namespace InFlightSyncGuard

-- Both run under the lock, so each is one step.
def tryAcquire (guard : InFlightSyncGuard) (symbol interval : String) : Option InFlightSyncGuard :=
  if (symbol, interval) ∈ guard.inFlight then none else some ⟨(symbol, interval) :: guard.inFlight⟩

def release (guard : InFlightSyncGuard) (symbol interval : String) : InFlightSyncGuard :=
  ⟨guard.inFlight.filter fun key => key ≠ (symbol, interval)⟩

end InFlightSyncGuard

structure SyncMarketDataCommand where
  symbols : List String
  interval : String
  daysBackIfEmpty : ℤ := 30
  startTime : Option ℤ := none

-- What the exchange yields in chunks for a symbol and an interval from a start
-- on, until it ends or raises.
abbrev KlineStreams (α : Type) := String → String → ℤ → List (List (MarketData α))

namespace SyncMarketDataCommand

def determineStartTime (command : SyncMarketDataCommand) (symbol : String) (now : ℤ) (rows : KlineRows α) : ℤ :=
  match command.startTime with
  | some startTime => startTime
  | none =>
      (rows.getLatestKlineTime symbol command.interval).getD (now - command.daysBackIfEmpty * 86400000000)

def streamed (command : SyncMarketDataCommand) (symbol : String) (now : ℤ) (streams : KlineStreams α)
    (rows : KlineRows α) : List (List (MarketData α)) :=
  streams symbol command.interval (formattedStart (command.determineStartTime symbol now rows))

end SyncMarketDataCommand

-- Where an execution stands: in the loop over the symbols, past the
-- cancellation check, holding the key, consuming the stream, in the `finally`.
inductive SyncPhase (α : Type)
  | between (pending : List String)
  | starting (symbol : String) (pending : List String)
  | acquired (symbol : String) (pending : List String)
  | streaming (symbol : String) (pending : List String) (chunks : List (List (MarketData α)))
  | ended (symbol : String) (pending : List String) (raised : Bool)
  | returned (raised : Bool)

namespace SyncPhase

def holds : SyncPhase α → Option String
  | .acquired symbol _ => some symbol
  | .streaming symbol _ _ => some symbol
  | .ended symbol _ _ => some symbol
  | _ => none

def named : SyncPhase α → List String
  | .between pending => pending
  | .starting symbol pending => symbol :: pending
  | .acquired symbol pending => symbol :: pending
  | .streaming symbol pending _ => symbol :: pending
  | .ended symbol pending _ => symbol :: pending
  | .returned _ => []

end SyncPhase

structure SyncSystem (α : Type) where
  rows : KlineRows α
  guard : InFlightSyncGuard
  phase : ℕ → SyncPhase α

-- A label names the execution that moves and what it meets: the answer of the
-- cancellation check, the clock and the exchange, a read or a save that raises.
-- `raised` is an error other than the cancellation of the request.
inductive SyncLabel (α : Type)
  | nextSymbol (id : ℕ) (cancelled : Bool)
  | tryAcquire (id : ℕ)
  | determineStart (id : ℕ) (now : ℤ) (streams : KlineStreams α)
  | readRaises (id : ℕ)
  | consume (id : ℕ) (cancelled saveRaises : Bool)
  | streamEnds (id : ℕ) (raised : Bool)
  | release (id : ℕ)

namespace SyncSystem

def start (commands : ℕ → SyncMarketDataCommand) (rows : KlineRows α) : SyncSystem α where
  rows := rows
  guard := {}
  phase id := .between (commands id).symbols

def move (system : SyncSystem α) (id : ℕ) (phase : SyncPhase α) : SyncSystem α :=
  { system with phase := Function.update system.phase id phase }

-- Any number of threads in `SyncMarketDataCommandHandler.execute`, the id-th
-- with its own command, over one guard and one store.
def step (commands : ℕ → SyncMarketDataCommand) (system : SyncSystem α) : SyncLabel α → Option (SyncSystem α)
  | .nextSymbol id cancelled =>
      match system.phase id with
      | .between [] => some (system.move id (.returned false))
      | .between (symbol :: pending) =>
          some (system.move id (if cancelled then .returned false else .starting symbol pending))
      | _ => none
  | .tryAcquire id =>
      match system.phase id with
      | .starting symbol pending =>
          match system.guard.tryAcquire symbol (commands id).interval with
          | none => some (system.move id (.between pending))
          | some guard => some ({ system with guard := guard }.move id (.acquired symbol pending))
      | _ => none
  | .determineStart id now streams =>
      match system.phase id with
      | .acquired symbol pending =>
          some (system.move id (.streaming symbol pending ((commands id).streamed symbol now streams system.rows)))
      | _ => none
  | .readRaises id =>
      match system.phase id with
      | .acquired symbol pending => some (system.move id (.ended symbol pending true))
      | _ => none
  | .consume id cancelled saveRaises =>
      match system.phase id with
      | .streaming symbol pending (chunk :: chunks) =>
          if cancelled then some (system.move id (.ended symbol pending false))
          else if saveRaises then some (system.move id (.ended symbol pending true))
          else some ({ system with rows := system.rows.saveKlines chunk }.move id (.streaming symbol pending chunks))
      | _ => none
  | .streamEnds id raised =>
      match system.phase id with
      | .streaming symbol pending [] => some (system.move id (.ended symbol pending raised))
      | _ => none
  | .release id =>
      match system.phase id with
      | .ended symbol pending raised =>
          some ({ system with guard := system.guard.release symbol (commands id).interval }.move id
            (if raised then .returned true else .between pending))
      | _ => none

def Holds (commands : ℕ → SyncMarketDataCommand) (system : SyncSystem α) (id : ℕ) (symbol interval : String) : Prop :=
  (system.phase id).holds = some symbol ∧ (commands id).interval = interval

variable (commands : ℕ → SyncMarketDataCommand)

-- What a step can do: change the guard, the chunks that an execution has left
-- to consume or the store, or none of these.
inductive Stepped (system : SyncSystem α) : SyncLabel α → SyncSystem α → Prop
  | moved (label : SyncLabel α) (id : ℕ) (phase : SyncPhase α) (held : phase.holds = (system.phase id).holds)
      (fewer : phase.named ⊆ (system.phase id).named)
      (idle : ∀ symbol pending chunks, phase ≠ .streaming symbol pending chunks)
      (unasked : ∀ id now streams, label ≠ .determineStart id now streams) :
      Stepped system label (system.move id phase)
  | acquired (id : ℕ) (symbol : String) (pending : List String) (before : system.phase id = .starting symbol pending)
      (free : (symbol, (commands id).interval) ∉ system.guard.inFlight) :
      Stepped system (.tryAcquire id)
        ({ system with guard := ⟨(symbol, (commands id).interval) :: system.guard.inFlight⟩ }.move id
          (.acquired symbol pending))
  | determined (id : ℕ) (now : ℤ) (streams : KlineStreams α) (symbol : String) (pending : List String)
      (before : system.phase id = .acquired symbol pending) :
      Stepped system (.determineStart id now streams)
        (system.move id (.streaming symbol pending ((commands id).streamed symbol now streams system.rows)))
  | saved (id : ℕ) (symbol : String) (pending : List String) (chunk : List (MarketData α))
      (chunks : List (List (MarketData α))) (before : system.phase id = .streaming symbol pending (chunk :: chunks)) :
      Stepped system (.consume id false false)
        ({ system with rows := system.rows.saveKlines chunk }.move id (.streaming symbol pending chunks))
  | released (id : ℕ) (symbol : String) (pending : List String) (raised : Bool)
      (before : system.phase id = .ended symbol pending raised) :
      Stepped system (.release id)
        ({ system with guard := system.guard.release symbol (commands id).interval }.move id
          (if raised then .returned true else .between pending))

variable {commands}

theorem step_cases (system next : SyncSystem α) (label : SyncLabel α)
    (stepped : system.step commands label = some next) : Stepped commands system label next := by
  cases label with
  | nextSymbol id cancelled =>
      simp only [step] at stepped
      split at stepped
      · next before =>
          cases stepped
          exact .moved _ id _ (by rw [before]; rfl) (by simp [SyncPhase.named]) (by simp) (by simp)
      · next symbol pending before =>
          cases stepped
          cases cancelled
          · exact .moved _ id _ (by rw [before]; rfl) (by rw [before]; exact List.Subset.refl _) (by simp) (by simp)
          · exact .moved _ id _ (by rw [before]; rfl) (by simp [SyncPhase.named]) (by simp) (by simp)
      · cases stepped
  | tryAcquire id =>
      simp only [step] at stepped
      split at stepped
      · next symbol pending before =>
          by_cases held : (symbol, (commands id).interval) ∈ system.guard.inFlight
          · rw [InFlightSyncGuard.tryAcquire, if_pos held] at stepped
            cases stepped
            exact .moved _ id _ (by rw [before]; rfl) (by rw [before]; exact List.subset_cons_self _ _) (by simp) (by simp)
          · rw [InFlightSyncGuard.tryAcquire, if_neg held] at stepped
            cases stepped
            exact .acquired id symbol pending before held
      · cases stepped
  | determineStart id now streams =>
      simp only [step] at stepped
      split at stepped
      · next symbol pending before =>
          cases stepped
          exact .determined id now streams symbol pending before
      · cases stepped
  | readRaises id =>
      simp only [step] at stepped
      split at stepped
      · next symbol pending before =>
          cases stepped
          exact .moved _ id _ (by rw [before]; rfl) (by rw [before]; exact List.Subset.refl _) (by simp) (by simp)
      · cases stepped
  | consume id cancelled saveRaises =>
      simp only [step] at stepped
      split at stepped
      · next symbol pending chunk chunks before =>
          split_ifs at stepped with isCancelled raises
          · cases stepped
            exact .moved _ id _ (by rw [before]; rfl) (by rw [before]; exact List.Subset.refl _) (by simp) (by simp)
          · cases stepped
            exact .moved _ id _ (by rw [before]; rfl) (by rw [before]; exact List.Subset.refl _) (by simp) (by simp)
          · cases stepped
            rw [Bool.not_eq_true] at isCancelled raises
            subst isCancelled raises
            exact .saved id symbol pending chunk chunks before
      · cases stepped
  | streamEnds id raised =>
      simp only [step] at stepped
      split at stepped
      · next symbol pending before =>
          cases stepped
          exact .moved _ id _ (by rw [before]; rfl) (by rw [before]; exact List.Subset.refl _) (by simp) (by simp)
      · cases stepped
  | release id =>
      simp only [step] at stepped
      split at stepped
      · next symbol pending raised before =>
          cases stepped
          exact .released id symbol pending raised before
      · cases stepped

-- The keys in the guard are the keys that executions hold, one each.
structure Guarded (commands : ℕ → SyncMarketDataCommand) (system : SyncSystem α) : Prop where
  held : ∀ symbol interval, (symbol, interval) ∈ system.guard.inFlight ↔ ∃ id, Holds commands system id symbol interval
  alone : ∀ id other symbol interval,
    Holds commands system id symbol interval → Holds commands system other symbol interval → id = other

theorem move_holds (system : SyncSystem α) (id other : ℕ) (phase : SyncPhase α) :
    ((system.move id phase).phase other).holds = if other = id then phase.holds else (system.phase other).holds := by
  by_cases same : other = id
  · simp [move, same]
  · simp [move, same]

theorem guarded_of_same (system next : SyncSystem α) (guarded : Guarded commands system)
    (sameGuard : next.guard = system.guard) (same : ∀ id, (next.phase id).holds = (system.phase id).holds) :
    Guarded commands next := by
  constructor
  · intro symbol interval
    simp only [Holds, sameGuard, same]
    exact guarded.held symbol interval
  · intro id other symbol interval
    simp only [Holds, same]
    exact guarded.alone id other symbol interval

theorem move_same (system : SyncSystem α) (id : ℕ) (phase : SyncPhase α) (same : phase.holds = (system.phase id).holds)
    (other : ℕ) : ((system.move id phase).phase other).holds = (system.phase other).holds := by
  rw [move_holds]
  split_ifs with isId
  · rw [same, isId]
  · rfl

theorem guarded_acquired (system : SyncSystem α) (id : ℕ) (symbol : String) (pending : List String)
    (guarded : Guarded commands system) (before : system.phase id = .starting symbol pending)
    (free : (symbol, (commands id).interval) ∉ system.guard.inFlight) :
    Guarded commands ({ system with guard := ⟨(symbol, (commands id).interval) :: system.guard.inFlight⟩ }.move id
      (.acquired symbol pending)) := by
  have nobody : ∀ other, ¬ Holds commands system other symbol (commands id).interval := fun other holds =>
    free ((guarded.held _ _).mpr ⟨other, holds⟩)
  have kept : ∀ other named interval,
      Holds commands ({ system with guard := ⟨(symbol, (commands id).interval) :: system.guard.inFlight⟩ }.move id
        (.acquired symbol pending)) other named interval ↔
        other = id ∧ (named, interval) = (symbol, (commands id).interval) ∨ Holds commands system other named interval := by
    intro other named interval
    by_cases same : other = id
    · subst same
      rw [Holds, Holds, move_holds, if_pos rfl, before]
      simp [SyncPhase.holds, eq_comm]
    · simp [Holds, move_holds, same]
  constructor
  · intro named interval
    rw [move, List.mem_cons, guarded.held]
    constructor
    · rintro (same | ⟨other, holds⟩)
      · exact ⟨id, (kept id named interval).mpr (.inl ⟨rfl, same⟩)⟩
      · exact ⟨other, (kept other named interval).mpr (.inr holds)⟩
    · rintro ⟨other, holds⟩
      rcases (kept other named interval).mp holds with ⟨_, same⟩ | held
      · exact .inl same
      · exact .inr ⟨other, held⟩
  · intro first second named interval holdsFirst holdsSecond
    rcases (kept first named interval).mp holdsFirst with ⟨rfl, same⟩ | heldFirst
    · rcases (kept second named interval).mp holdsSecond with ⟨rfl, _⟩ | heldSecond
      · rfl
      · cases same
        exact absurd heldSecond (nobody second)
    · rcases (kept second named interval).mp holdsSecond with ⟨rfl, same⟩ | heldSecond
      · cases same
        exact absurd heldFirst (nobody first)
      · exact guarded.alone first second named interval heldFirst heldSecond

theorem guarded_released (system : SyncSystem α) (id : ℕ) (symbol : String) (pending : List String) (raised : Bool)
    (after : SyncPhase α) (guarded : Guarded commands system) (before : system.phase id = .ended symbol pending raised)
    (gone : after.holds = none) :
    Guarded commands ({ system with guard := system.guard.release symbol (commands id).interval }.move id after) := by
  have holder : Holds commands system id symbol (commands id).interval := ⟨by rw [before]; rfl, rfl⟩
  have kept : ∀ other named interval,
      Holds commands ({ system with guard := system.guard.release symbol (commands id).interval }.move id after) other
        named interval ↔ other ≠ id ∧ Holds commands system other named interval := by
    intro other named interval
    simp only [Holds, move_holds]
    by_cases same : other = id
    · simp [same, gone]
    · simp [same]
  constructor
  · intro named interval
    simp only [move, InFlightSyncGuard.release, List.mem_filter, decide_eq_true_eq]
    rw [guarded.held]
    constructor
    · rintro ⟨⟨other, holds⟩, different⟩
      refine ⟨other, (kept other named interval).mpr ⟨?_, holds⟩⟩
      rintro rfl
      exact different (by rw [← Option.some.inj (holder.1.symm.trans holds.1), holds.2])
    · rintro ⟨other, holds⟩
      obtain ⟨different, held⟩ := (kept other named interval).mp holds
      refine ⟨⟨other, held⟩, fun same => different ?_⟩
      cases same
      exact guarded.alone other id symbol _ held holder
  · intro first second named interval holdsFirst holdsSecond
    exact guarded.alone first second named interval ((kept _ _ _).mp holdsFirst).2 ((kept _ _ _).mp holdsSecond).2

theorem step_guarded (system next : SyncSystem α) (label : SyncLabel α) (guarded : Guarded commands system)
    (stepped : system.step commands label = some next) : Guarded commands next := by
  cases step_cases system next label stepped with
  | moved _ id phase same => exact guarded_of_same system _ guarded rfl (move_same system id phase same)
  | acquired id symbol pending before free => exact guarded_acquired system id symbol pending guarded before free
  | determined id now streams symbol pending before =>
      exact guarded_of_same system _ guarded rfl (move_same system id _ (by rw [before]; rfl))
  | saved id symbol pending chunk chunks before =>
      have same := move_same { system with rows := system.rows.saveKlines chunk } id (.streaming symbol pending chunks)
      exact guarded_of_same system _ guarded rfl (same (by rw [before]; rfl))
  | released id symbol pending raised before =>
      exact guarded_released system id symbol pending raised _ guarded before (by cases raised <;> rfl)

theorem start_guarded (rows : KlineRows α) : Guarded commands (start commands rows) := by
  constructor
  · intro symbol interval
    simp [start, Holds, SyncPhase.holds]
  · intro id other symbol interval holds
    simp [start, Holds, SyncPhase.holds] at holds

end SyncSystem

-- At most one execution fetches a pair. Its key goes as it leaves, however it
-- ends, and no other key keeps an execution from starting.
theorem concurrent_syncs_exclusive (commands : ℕ → SyncMarketDataCommand) (rows : KlineRows α)
    (labels : List (SyncLabel α)) (system : SyncSystem α)
    (completed : Interleaving.run (SyncSystem.step commands) (SyncSystem.start commands rows) labels = some system) :
    (∀ id other symbol interval, system.Holds commands id symbol interval → system.Holds commands other symbol interval →
        id = other) ∧
      (∀ symbol interval, (symbol, interval) ∈ system.guard.inFlight ↔ ∃ id, system.Holds commands id symbol interval) ∧
      ((∀ id, ∃ raised, system.phase id = .returned raised) → system.guard.inFlight = []) ∧
      ∀ id symbol pending, system.phase id = .starting symbol pending →
        ∃ next, system.step commands (.tryAcquire id) = some next ∧
          (next.Holds commands id symbol (commands id).interval ↔
            ∀ other, ¬ system.Holds commands other symbol (commands id).interval) := by
  have guarded : system.Guarded commands := Interleaving.run_invariant (SyncSystem.step commands)
    (SyncSystem.Guarded commands) (fun before label after => SyncSystem.step_guarded before after label) labels _ system
    (SyncSystem.start_guarded rows) completed
  refine ⟨guarded.alone, guarded.held, fun returned => ?_, fun id symbol pending before => ?_⟩
  · rw [List.eq_nil_iff_forall_not_mem]
    rintro ⟨symbol, interval⟩ inFlight
    obtain ⟨id, holds⟩ := (guarded.held symbol interval).mp inFlight
    obtain ⟨raised, isReturned⟩ := returned id
    rw [SyncSystem.Holds, isReturned] at holds
    cases holds.1
  · by_cases held : (symbol, (commands id).interval) ∈ system.guard.inFlight
    · refine ⟨system.move id (.between pending), ?_, ?_⟩
      · simp only [SyncSystem.step, before, InFlightSyncGuard.tryAcquire, if_pos held]
      · refine iff_of_false (fun holds => ?_) fun nobody => ?_
        · rw [SyncSystem.Holds, SyncSystem.move_holds, if_pos rfl] at holds
          cases holds.1
        · obtain ⟨other, holds⟩ := (guarded.held _ _).mp held
          exact nobody other holds
    · refine ⟨_, by simp only [SyncSystem.step, before, InFlightSyncGuard.tryAcquire, if_neg held]; rfl, ?_⟩
      refine iff_of_true ?_ fun other holds => held ((guarded.held _ _).mpr ⟨other, holds⟩)
      rw [SyncSystem.Holds, SyncSystem.move_holds, if_pos rfl]
      exact ⟨rfl, rfl⟩

structure SyncRequest (α : Type) where
  command : SyncMarketDataCommand
  now : ℤ
  streams : KlineStreams α

structure SerialSync (α : Type) extends SyncRequest α where
  savedChunks : ℕ

namespace SerialSync

def chunks (part : SerialSync α) (symbol : String) (rows : KlineRows α) : List (List (MarketData α)) :=
  part.command.streamed symbol part.now part.streams rows

def sync (symbol : String) (rows : KlineRows α) (part : SerialSync α) : KlineRows α :=
  rows.saveKlines ((part.chunks symbol rows).take part.savedChunks).flatten

end SerialSync

def KlineStreams.OfPairs (streams : KlineStreams α) : Prop :=
  ∀ symbol interval requested, ∀ kline ∈ (streams symbol interval requested).flatten,
    kline.key.symbol = symbol ∧ kline.key.interval = interval

theorem save_of_other_pair (rows : KlineRows α) (klines : List (MarketData α)) (symbol interval : String)
    (others : ∀ kline ∈ klines, ¬ (kline.key.symbol = symbol ∧ kline.key.interval = interval)) :
    (rows.saveKlines klines).ofPair symbol interval = rows.ofPair symbol interval := by
  induction klines generalizing rows with
  | nil => rfl
  | cons kline rest ih =>
      have upserted := KeyedRows.upsert_filter MarketData.key
        (fun key => decide (key.symbol = symbol ∧ key.interval = interval)) rows kline
      rw [if_neg (by simpa using others kline (by simp))] at upserted
      have later := ih (KeyedRows.upsert MarketData.key rows kline) fun other listed => others other (by simp [listed])
      exact later.trans upserted

theorem streamed_of_pair_rows (command : SyncMarketDataCommand) (symbol : String) (now : ℤ) (streams : KlineStreams α)
    (rows serial : KlineRows α) (same : rows.ofPair symbol command.interval = serial.ofPair symbol command.interval) :
    command.streamed symbol now streams rows = command.streamed symbol now streams serial := by
  rw [SyncMarketDataCommand.streamed, SyncMarketDataCommand.streamed, SyncMarketDataCommand.determineStartTime,
    SyncMarketDataCommand.determineStartTime, KlineRows.getLatestKlineTime, KlineRows.getLatestKlineTime, same]

namespace SyncSystem

variable (commands : ℕ → SyncMarketDataCommand) (labels : List (SyncLabel α))

-- What the executions still have to consume is of the pair they asked for, and
-- they are at the symbols of their commands.
structure Consuming (system : SyncSystem α) : Prop where
  symbols : ∀ id, ∀ symbol ∈ (system.phase id).named, symbol ∈ (commands id).symbols
  ofPair : ∀ id symbol pending chunks, system.phase id = .streaming symbol pending chunks →
    ∀ kline ∈ chunks.flatten, kline.key.symbol = symbol ∧ kline.key.interval = (commands id).interval

def asks (symbol interval : String) (system : SyncSystem α) : SyncLabel α → Option (SyncRequest α)
  | .determineStart id now streams =>
      if (system.phase id).holds = some symbol ∧ (commands id).interval = interval then some ⟨commands id, now, streams⟩
      else none
  | _ => none

def PartOf (symbol interval : String) (part : SerialSync α) : Prop :=
  ∃ id, part.command = commands id ∧ symbol ∈ (commands id).symbols ∧ (commands id).interval = interval ∧
    SyncLabel.determineStart id part.now part.streams ∈ labels

-- The rows of the pair are those of the parts one after the other, and who
-- consumes a stream of it is the last of them.
def SerialisedAs (rows : KlineRows α) (symbol interval : String) (system : SyncSystem α) (log : List (SyncRequest α))
    (parts : List (SerialSync α)) : Prop :=
  (parts.map (·.toSyncRequest) = log.reverse ∧ ∀ part ∈ parts, PartOf commands labels symbol interval part) ∧
    system.rows.ofPair symbol interval = (parts.foldl (SerialSync.sync symbol) rows).ofPair symbol interval ∧
      ∀ id pending chunks, system.phase id = .streaming symbol pending chunks → (commands id).interval = interval →
        ∃ earlier part, parts = earlier ++ [part] ∧ part.command = commands id ∧
          chunks = (part.chunks symbol (earlier.foldl (SerialSync.sync symbol) rows)).drop part.savedChunks

variable {commands labels}

theorem moved_streaming (system : SyncSystem α) (id other : ℕ) (phase : SyncPhase α) (symbol : String)
    (pending : List String) (chunks : List (List (MarketData α)))
    (streaming : (system.move id phase).phase other = .streaming symbol pending chunks) :
    other = id ∧ phase = .streaming symbol pending chunks ∨
      other ≠ id ∧ system.phase other = .streaming symbol pending chunks := by
  by_cases same : other = id
  · subst same
    exact .inl ⟨rfl, by simpa [move] using streaming⟩
  · exact .inr ⟨same, by simpa [move, same] using streaming⟩

theorem consuming_moved (system : SyncSystem α) (id : ℕ) (phase : SyncPhase α) (rows : KlineRows α)
    (guard : InFlightSyncGuard) (consuming : Consuming commands system) (fewer : phase.named ⊆ (system.phase id).named)
    (ofPair : ∀ symbol pending chunks, phase = .streaming symbol pending chunks →
      ∀ kline ∈ chunks.flatten, kline.key.symbol = symbol ∧ kline.key.interval = (commands id).interval) :
    Consuming commands ({ system with rows := rows, guard := guard }.move id phase) := by
  constructor
  · intro other symbol listed
    by_cases same : other = id
    · subst same
      exact consuming.symbols other symbol (fewer (by simpa [move] using listed))
    · exact consuming.symbols other symbol (by simpa [move, same] using listed)
  · intro other symbol pending chunks streaming
    rcases moved_streaming _ id other phase symbol pending chunks streaming with ⟨rfl, now⟩ | ⟨_, before⟩
    · exact ofPair symbol pending chunks now
    · exact consuming.ofPair other symbol pending chunks before

theorem step_consuming (system next : SyncSystem α) (label : SyncLabel α) (consuming : Consuming commands system)
    (answered : ∀ id now streams, label = .determineStart id now streams → streams.OfPairs)
    (stepped : system.step commands label = some next) : Consuming commands next := by
  cases step_cases system next label stepped with
  | moved _ id phase _ fewer idle =>
      exact consuming_moved system id phase _ _ consuming fewer fun symbol pending chunks same =>
        absurd same (idle symbol pending chunks)
  | acquired id symbol pending before =>
      refine consuming_moved system id _ _ _ consuming ?_ fun _ _ _ same => by cases same
      rw [before]
      exact List.Subset.refl _
  | determined id now streams symbol pending before =>
      refine consuming_moved system id _ _ _ consuming ?_ fun named _ chunks same kline listed => ?_
      · rw [before]
        exact List.Subset.refl _
      · cases same
        exact answered id now streams rfl symbol _ _ kline listed
  | saved id symbol pending chunk chunks before =>
      refine consuming_moved system id _ _ _ consuming ?_ fun named _ left same kline listed => ?_
      · rw [before]
        exact List.Subset.refl _
      · cases same
        exact consuming.ofPair id symbol pending _ before kline (by simp [listed])
  | released id symbol pending raised before =>
      refine consuming_moved system id _ _ _ consuming ?_ fun _ _ _ same => by cases raised <;> cases same
      rw [before]
      cases raised
      · exact List.subset_cons_self _ _
      · exact List.nil_subset _

theorem serialised_of_same (rows : KlineRows α) (symbol interval : String) (system next : SyncSystem α)
    (log : List (SyncRequest α)) (parts : List (SerialSync α))
    (serialised : SerialisedAs commands labels rows symbol interval system log parts)
    (sameRows : next.rows.ofPair symbol interval = system.rows.ofPair symbol interval)
    (same : ∀ id pending chunks, next.phase id = .streaming symbol pending chunks → (commands id).interval = interval →
      system.phase id = .streaming symbol pending chunks) :
    SerialisedAs commands labels rows symbol interval next log parts := by
  obtain ⟨partOf, stored, consumed⟩ := serialised
  exact ⟨partOf, sameRows.trans stored, fun id pending chunks streaming ofInterval =>
    consumed id pending chunks (same id pending chunks streaming ofInterval) ofInterval⟩

theorem serialised_determined (rows : KlineRows α) (symbol : String) (system : SyncSystem α)
    (log : List (SyncRequest α)) (parts : List (SerialSync α)) (id : ℕ) (now : ℤ) (streams : KlineStreams α)
    (pending : List String) (guarded : Guarded commands system)
    (consuming : Consuming commands system) (listed : SyncLabel.determineStart id now streams ∈ labels)
    (serialised : SerialisedAs commands labels rows symbol (commands id).interval system log parts)
    (before : system.phase id = .acquired symbol pending) :
    SerialisedAs commands labels rows symbol (commands id).interval
      (system.move id (.streaming symbol pending ((commands id).streamed symbol now streams system.rows)))
      (⟨commands id, now, streams⟩ :: log) (parts ++ [⟨⟨commands id, now, streams⟩, 0⟩]) := by
  obtain ⟨⟨inOrder, partOf⟩, stored, _⟩ := serialised
  refine ⟨⟨by simp [inOrder], fun part isPart => ?_⟩, ?_, fun other left chunks streaming ofInterval => ?_⟩
  · rcases List.mem_append.mp isPart with earlier | new
    · exact partOf part earlier
    · rw [List.mem_singleton.mp new]
      exact ⟨id, rfl, consuming.symbols id symbol (by simp [before, SyncPhase.named]), rfl, listed⟩
  · rw [List.foldl_append]
    exact stored
  · rcases moved_streaming system id other _ symbol left chunks streaming with ⟨rfl, now⟩ | ⟨different, earlier⟩
    · cases now
      exact ⟨parts, _, rfl, rfl, streamed_of_pair_rows _ symbol _ _ _ _ stored⟩
    · refine absurd (guarded.alone other id symbol (commands id).interval ?_ ?_) different
      · exact ⟨by rw [earlier]; rfl, ofInterval⟩
      · exact ⟨by rw [before]; rfl, rfl⟩

theorem serial_sync_more (rows : KlineRows α) (symbol interval : String) (part : SerialSync α)
    (chunk : List (MarketData α)) (chunks : List (List (MarketData α)))
    (left : chunk :: chunks = (part.chunks symbol rows).drop part.savedChunks)
    (ofPair : ∀ kline ∈ chunk, kline.key.symbol = symbol ∧ kline.key.interval = interval) :
    chunks = (part.chunks symbol rows).drop (part.savedChunks + 1) ∧
      (SerialSync.sync symbol rows { part with savedChunks := part.savedChunks + 1 }).ofPair symbol interval =
        KlineRows.saveKlines ((SerialSync.sync symbol rows part).ofPair symbol interval) chunk := by
  have at_next : (part.chunks symbol rows)[part.savedChunks]? = some chunk := by
    rw [← List.head?_drop, ← left]
    rfl
  constructor
  · rw [← List.tail_drop, ← left]
    rfl
  · have more : SerialSync.sync symbol rows { part with savedChunks := part.savedChunks + 1 } =
        (SerialSync.sync symbol rows part).saveKlines chunk := by
      change rows.saveKlines ((part.chunks symbol rows).take (part.savedChunks + 1)).flatten = _
      rw [List.take_add_one, at_next]
      simp [SerialSync.sync, KlineRows.saveKlines]
    rw [more, ExchangeKlines.save_of_pair _ chunk ofPair]

theorem serialised_saved (rows : KlineRows α) (symbol : String) (system : SyncSystem α) (log : List (SyncRequest α))
    (parts : List (SerialSync α)) (id : ℕ) (pending : List String) (chunk : List (MarketData α))
    (chunks : List (List (MarketData α)))
    (guarded : Guarded commands system) (consuming : Consuming commands system)
    (serialised : SerialisedAs commands labels rows symbol (commands id).interval system log parts)
    (before : system.phase id = .streaming symbol pending (chunk :: chunks)) :
    ∃ parts, SerialisedAs commands labels rows symbol (commands id).interval
      ({ system with rows := system.rows.saveKlines chunk }.move id (.streaming symbol pending chunks)) log parts := by
  obtain ⟨⟨inOrder, partOf⟩, stored, consumed⟩ := serialised
  have ofPair : ∀ kline ∈ chunk, kline.key.symbol = symbol ∧ kline.key.interval = (commands id).interval :=
    fun kline listed => consuming.ofPair id symbol pending _ before kline (by simp [listed])
  obtain ⟨earlier, part, rfl, sameCommand, left⟩ := consumed id pending _ before rfl
  obtain ⟨leftAfter, more⟩ := serial_sync_more _ symbol (commands id).interval part chunk chunks left ofPair
  refine ⟨earlier ++ [{ part with savedChunks := part.savedChunks + 1 }], ⟨by simpa using inOrder, fun other isPart => ?_⟩,
    ?_, ?_⟩
  · rcases List.mem_append.mp isPart with isEarlier | isLast
    · exact partOf other (List.mem_append_left _ isEarlier)
    · rw [List.mem_singleton.mp isLast]
      exact partOf part (by simp)
  · rw [List.foldl_append] at stored ⊢
    change (system.rows.saveKlines chunk).ofPair symbol (commands id).interval = _
    rw [ExchangeKlines.save_of_pair system.rows chunk ofPair, stored]
    exact more.symm
  · intro other leftPending leftChunks streaming ofInterval
    rcases moved_streaming _ id other _ symbol leftPending leftChunks streaming with ⟨rfl, now⟩ | ⟨different, streams⟩
    · cases now
      exact ⟨earlier, _, rfl, sameCommand, leftAfter⟩
    · refine absurd (guarded.alone other id symbol (commands id).interval ?_ ?_) different
      · exact ⟨by rw [streams]; rfl, ofInterval⟩
      · exact ⟨by rw [before]; rfl, rfl⟩

theorem step_serialised (rows : KlineRows α) (symbol interval : String) (system next : SyncSystem α)
    (label : SyncLabel α) (log : List (SyncRequest α)) (guarded : Guarded commands system)
    (consuming : Consuming commands system) (listed : label ∈ labels)
    (serialised : ∃ parts, SerialisedAs commands labels rows symbol interval system log parts)
    (stepped : system.step commands label = some next) :
    ∃ parts, SerialisedAs commands labels rows symbol interval next
      ((asks commands symbol interval system label).toList ++ log) parts := by
  obtain ⟨parts, serialised⟩ := serialised
  cases step_cases system next label stepped with
  | moved _ id phase _ _ idle unasked =>
      have silent : asks commands symbol interval system label = none := by
        cases label with
        | determineStart other now streams => exact absurd rfl (unasked other now streams)
        | _ => rfl
      rw [silent]
      refine ⟨parts, serialised_of_same rows symbol interval system _ log parts serialised rfl ?_⟩
      intro other pending chunks streaming _
      rcases moved_streaming system id other phase symbol pending chunks streaming with ⟨_, now⟩ | ⟨_, earlier⟩
      · exact absurd now (idle symbol pending chunks)
      · exact earlier
  | acquired id named left before =>
      refine ⟨parts, serialised_of_same rows symbol interval system _ log parts serialised rfl ?_⟩
      intro other pending chunks streaming _
      rcases moved_streaming _ id other _ symbol pending chunks streaming with ⟨_, now⟩ | ⟨_, earlier⟩
      · cases now
      · exact earlier
  | determined id now streams named left before =>
      by_cases ofPair : named = symbol ∧ (commands id).interval = interval
      · obtain ⟨rfl, rfl⟩ := ofPair
        rw [asks, if_pos ⟨by rw [before]; rfl, rfl⟩]
        exact ⟨_, serialised_determined rows named system log parts id now streams left guarded consuming listed serialised
          before⟩
      · rw [asks, if_neg (by simpa [before, SyncPhase.holds] using ofPair)]
        refine ⟨parts, serialised_of_same rows symbol interval system _ log parts serialised rfl ?_⟩
        intro other pending chunks streaming ofInterval
        rcases moved_streaming system id other _ symbol pending chunks streaming with ⟨rfl, now⟩ | ⟨_, earlier⟩
        · cases now
          exact absurd ⟨rfl, ofInterval⟩ ofPair
        · exact earlier
  | saved id named left chunk chunks before =>
      by_cases ofPair : named = symbol ∧ (commands id).interval = interval
      · obtain ⟨rfl, rfl⟩ := ofPair
        exact serialised_saved rows named system log parts id left chunk chunks guarded consuming serialised before
      · refine ⟨parts, serialised_of_same rows symbol interval system _ log parts serialised ?_ ?_⟩
        · refine save_of_other_pair system.rows chunk symbol interval fun kline isSaved same => ofPair ?_
          have named := consuming.ofPair id named left _ before kline (by simp [isSaved])
          exact ⟨named.1.symm.trans same.1, named.2.symm.trans same.2⟩
        · intro other pending leftChunks streaming ofInterval
          rcases moved_streaming _ id other _ symbol pending leftChunks streaming with ⟨rfl, now⟩ | ⟨_, earlier⟩
          · cases now
            exact absurd ⟨rfl, ofInterval⟩ ofPair
          · exact earlier
  | released id named left raised before =>
      refine ⟨parts, serialised_of_same rows symbol interval system _ log parts serialised rfl ?_⟩
      intro other pending chunks streaming _
      rcases moved_streaming _ id other _ symbol pending chunks streaming with ⟨_, now⟩ | ⟨_, earlier⟩
      · cases raised <;> cases now
      · exact earlier

def requests (commands : ℕ → SyncMarketDataCommand) (rows : KlineRows α) (labels : List (SyncLabel α))
    (symbol interval : String) : List (SyncRequest α) :=
  (Interleaving.watched (step commands) (asks commands symbol interval) (start commands rows) labels []).reverse

theorem run_serialised (rows : KlineRows α) (symbol interval : String) (system : SyncSystem α)
    (answered : ∀ id now streams, SyncLabel.determineStart id now streams ∈ labels → streams.OfPairs)
    (completed : Interleaving.run (step commands) (start commands rows) labels = some system) :
    ∃ parts, SerialisedAs commands labels rows symbol interval system
      (requests commands rows labels symbol interval).reverse parts := by
  have reached := Interleaving.run_watched_invariant_meeting (step commands) (asks commands symbol interval)
    (fun _ label => label ∈ labels)
    (fun system log => Guarded commands system ∧ Consuming commands system ∧
      ∃ parts, SerialisedAs commands labels rows symbol interval system log parts)
    (fun before label after log ⟨guarded, consuming, serialised⟩ listed stepped =>
      ⟨step_guarded before after label guarded stepped,
        step_consuming before after label consuming (fun id now streams same => answered id now streams (same ▸ listed))
          stepped,
        step_serialised rows symbol interval before after label log guarded consuming listed serialised stepped⟩)
    labels _ system [] ⟨start_guarded rows, ⟨fun _ _ listed => listed, fun _ _ _ _ streaming => by cases streaming⟩, [],
      by simp, rfl, fun _ _ _ streaming => by cases streaming⟩
    (Interleaving.steps_meet_of_labels _ (· ∈ labels) labels _ fun _ listed => listed) completed
  rw [requests, List.reverse_reverse]
  exact reached.2.2

end SyncSystem

-- The klines stored of a pair are those that its requests would have stored
-- one after the other, each as far as it got.
theorem concurrent_syncs_serialise (commands : ℕ → SyncMarketDataCommand) (rows : KlineRows α)
    (labels : List (SyncLabel α)) (system : SyncSystem α) (symbol interval : String)
    (answered : ∀ id now streams, SyncLabel.determineStart id now streams ∈ labels → streams.OfPairs)
    (completed : Interleaving.run (SyncSystem.step commands) (SyncSystem.start commands rows) labels = some system) :
    ∃ parts : List (SerialSync α), parts.map (·.toSyncRequest) = SyncSystem.requests commands rows labels symbol interval ∧
      system.rows.ofPair symbol interval = (parts.foldl (SerialSync.sync symbol) rows).ofPair symbol interval := by
  obtain ⟨parts, ⟨inOrder, _⟩, stored, _⟩ := SyncSystem.run_serialised rows symbol interval system answered completed
  exact ⟨parts, inOrder.trans (List.reverse_reverse _), stored⟩

namespace ExchangeKlines

variable {symbol interval : String} (exchange : ExchangeKlines α symbol interval)

structure Delivers (streams : KlineStreams α) : Prop where
  ofPairs : streams.OfPairs
  segment : ∀ requested first, exchange.OpensFirst requested first →
    exchange.SegmentFrom first (streams symbol interval requested).flatten

theorem serial_sync_contiguous (rows : KlineRows α) (part : SerialSync α) (delivers : exchange.Delivers part.streams)
    (ofInterval : part.command.interval = interval) (latest : part.command.startTime = none)
    (contiguous : exchange.Contiguous rows) : exchange.Contiguous (SerialSync.sync symbol rows part) := by
  let run : SyncRun α :=
    { now := part.now, daysBackIfEmpty := part.command.daysBackIfEmpty, stream := part.streams symbol interval }
  have asked : part.chunks symbol rows = run.stream (formattedStart (run.determineStartTime rows symbol interval)) := by
    rw [SerialSync.chunks, SyncMarketDataCommand.streamed, SyncMarketDataCommand.determineStartTime, latest, ofInterval]
    rfl
  refine exchange.save_keeps_contiguous run rows _ delivers.segment contiguous ?_
  rw [← asked]
  exact ⟨((part.chunks symbol rows).drop part.savedChunks).flatten, by rw [← List.flatten_append, List.take_append_drop]⟩

theorem serial_syncs_contiguous (parts : List (SerialSync α)) (rows : KlineRows α)
    (fromLatest : ∀ part ∈ parts, exchange.Delivers part.streams ∧ part.command.interval = interval ∧
      part.command.startTime = none)
    (contiguous : exchange.Contiguous rows) : exchange.Contiguous (parts.foldl (SerialSync.sync symbol) rows) := by
  induction parts generalizing rows with
  | nil => exact contiguous
  | cons part rest ih =>
      obtain ⟨delivers, ofInterval, latest⟩ := fromLatest part (by simp)
      refine ih _ (fun other listed => fromLatest other (by simp [listed])) ?_
      exact exchange.serial_sync_contiguous rows part delivers ofInterval latest contiguous

end ExchangeKlines

theorem concurrent_syncs_contiguous {symbol interval : String} (exchange : ExchangeKlines α symbol interval)
    (commands : ℕ → SyncMarketDataCommand) (rows : KlineRows α) (labels : List (SyncLabel α)) (system : SyncSystem α)
    (answered : ∀ id now streams, SyncLabel.determineStart id now streams ∈ labels → exchange.Delivers streams)
    (fromLatest : ∀ id, symbol ∈ (commands id).symbols → (commands id).interval = interval →
      (commands id).startTime = none)
    (contiguous : exchange.Contiguous rows)
    (completed : Interleaving.run (SyncSystem.step commands) (SyncSystem.start commands rows) labels = some system) :
    exchange.Contiguous system.rows ∧ ((system.rows.ofPair symbol interval).map MarketData.key).Nodup := by
  obtain ⟨parts, ⟨_, partOf⟩, stored, _⟩ := SyncSystem.run_serialised rows symbol interval system
    (fun id now streams listed => (answered id now streams listed).ofPairs) completed
  obtain ⟨first, segment⟩ := exchange.serial_syncs_contiguous parts rows (fun part listed => by
    obtain ⟨id, sameCommand, ofSymbol, ofInterval, asked⟩ := partOf part listed
    rw [sameCommand]
    exact ⟨answered id part.now part.streams asked, ofInterval, fromLatest id ofSymbol ofInterval⟩) contiguous
  rw [← stored] at segment
  exact ⟨⟨first, segment⟩, exchange.segment_keys_nodup first _ segment⟩

-- The first execution's stream is cut after its first chunk. The second meets
-- its key and skips the pair, the third resumes.
def minuteStreams : KlineStreams ℚ := fun symbol interval requested =>
  if symbol = "BTCUSDT" ∧ interval = "1m" then (minuteRun none).stream requested else []

def minuteCommands (_ : ℕ) : SyncMarketDataCommand where
  symbols := ["BTCUSDT"]
  interval := "1m"

def overlappingSyncs : List (SyncLabel ℚ) :=
  [.nextSymbol 0 false, .nextSymbol 1 false, .tryAcquire 0, .determineStart 0 2592000060000000 minuteStreams,
    .consume 0 false false, .tryAcquire 1, .nextSymbol 2 false, .consume 0 false true, .release 0, .tryAcquire 2,
    .determineStart 2 2592000060000000 minuteStreams, .consume 2 false false, .consume 2 false false,
    .nextSymbol 1 false, .streamEnds 2 false, .release 2, .nextSymbol 2 false]

theorem minute_streams_deliver : minuteExchange.Delivers minuteStreams := by
  constructor
  · intro symbol interval requested kline listed
    unfold minuteStreams at listed
    split_ifs at listed with ofPair
    · simp only [minuteRun, List.flatten_cons, List.flatten_nil, List.append_nil, List.cons_append, List.nil_append,
        List.mem_cons, List.not_mem_nil, or_false] at listed
      rcases listed with rfl | rfl
      · exact ⟨ofPair.1.symm, ofPair.2.symm⟩
      · exact ⟨ofPair.1.symm, ofPair.2.symm⟩
    · cases listed
  · intro requested first opens
    exact minute_run_honest none requested first opens

theorem overlapping_syncs_complete :
    (Interleaving.run (SyncSystem.step minuteCommands) (SyncSystem.start minuteCommands []) overlappingSyncs).isSome := by
  decide +kernel

theorem overlapping_syncs_answered (id : ℕ) (now : ℤ) (streams : KlineStreams ℚ)
    (listed : SyncLabel.determineStart id now streams ∈ overlappingSyncs) : minuteExchange.Delivers streams := by
  simp only [overlappingSyncs, List.mem_cons, SyncLabel.determineStart.injEq, reduceCtorEq, List.not_mem_nil, or_false,
    false_or] at listed
  rcases listed with ⟨_, _, rfl⟩ | ⟨_, _, rfl⟩
  · exact minute_streams_deliver
  · exact minute_streams_deliver

theorem overlapping_syncs_exclusive :
    ∃ system, Interleaving.run (SyncSystem.step minuteCommands) (SyncSystem.start minuteCommands []) overlappingSyncs =
        some system ∧
      ∀ id other symbol interval, system.Holds minuteCommands id symbol interval →
        system.Holds minuteCommands other symbol interval → id = other := by
  obtain ⟨system, completed⟩ := Option.isSome_iff_exists.mp overlapping_syncs_complete
  exact ⟨system, completed, (concurrent_syncs_exclusive minuteCommands [] overlappingSyncs system completed).1⟩

theorem overlapping_syncs_serialise :
    ∃ system, Interleaving.run (SyncSystem.step minuteCommands) (SyncSystem.start minuteCommands []) overlappingSyncs =
        some system ∧
      ∃ parts : List (SerialSync ℚ),
        parts.map (·.toSyncRequest) = SyncSystem.requests minuteCommands [] overlappingSyncs "BTCUSDT" "1m" ∧
          system.rows.ofPair "BTCUSDT" "1m" =
            (parts.foldl (SerialSync.sync "BTCUSDT") ([] : KlineRows ℚ)).ofPair "BTCUSDT" "1m" := by
  obtain ⟨system, completed⟩ := Option.isSome_iff_exists.mp overlapping_syncs_complete
  exact ⟨system, completed, concurrent_syncs_serialise minuteCommands [] overlappingSyncs system "BTCUSDT" "1m"
    (fun id now streams listed => (overlapping_syncs_answered id now streams listed).ofPairs) completed⟩

theorem overlapping_syncs_contiguous :
    ∃ system, Interleaving.run (SyncSystem.step minuteCommands) (SyncSystem.start minuteCommands []) overlappingSyncs =
        some system ∧
      minuteExchange.Contiguous system.rows ∧ ((system.rows.ofPair "BTCUSDT" "1m").map MarketData.key).Nodup := by
  obtain ⟨system, completed⟩ := Option.isSome_iff_exists.mp overlapping_syncs_complete
  exact ⟨system, completed, concurrent_syncs_contiguous minuteExchange minuteCommands [] overlappingSyncs system
    overlapping_syncs_answered (fun _ _ _ => rfl) ⟨0, minuteExchange.segment_nil 0⟩ completed⟩

end Sagittarius
