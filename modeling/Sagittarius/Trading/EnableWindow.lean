import Sagittarius.Library.History
import Sagittarius.Library.Versioned
import Sagittarius.Trading.TradingSystem

set_option autoImplicit false

namespace Sagittarius

open Interleaving Versioned

-- The session state as an object with a version: every call on it mutates it,
-- except an `enable` that expected another generation.
abbrev SessionEvent := Event SessionOp

def TradingSessionState.mutates (session : TradingSessionState) : SessionOp → Bool
  | .enable _ expectedGeneration => session.expects expectedGeneration
  | .disable => true
  | .recordOrderSent _ _ => true
  | .reconcilePosition _ _ => true

def TradingSessionState.observe (session : TradingSessionState) (op : SessionOp) : Option SessionEvent :=
  if session.mutates op then some (.mutated op) else none

def Enabling.observe (setup : TradingSetup) (session : TradingSessionState) (party : ℕ) :
    Enabling → EnablingStep → Option SessionEvent
  | .called, .readGeneration => if setup.venue = .futuresTestnet then some (.read party session.generation) else none
  | .reconciled generation, .apply =>
      some (if session.expects (some generation) then .applied party else .superseded party)
  | _, _ => none

def TradingSystem.observe (setup : TradingSetup) (system : TradingSystem) : TradeLabel → Option SessionEvent
  | .enabling party step => (system.enablings party).observe setup system.session party step
  | other => (system.sessionOp other).bind system.session.observe

def sessionLog (setup : TradingSetup) (labels : List TradeLabel) : List SessionEvent :=
  watched (TradingSystem.step setup) (TradingSystem.observe setup) {} labels []

def disables (event : SessionEvent) : Prop := event = .mutated .disable

def enables (event : SessionEvent) : Prop :=
  (∃ party, event = .applied party) ∨
    ∃ openSymbols expectedGeneration, event = .mutated (.enable openSymbols expectedGeneration)

def Enabling.holds : Enabling → Option ℕ
  | .read generation => some generation
  | .connected generation => some generation
  | .reconciled generation => some generation
  | _ => none

def Enabling.unread : Enabling → Bool
  | .idle => true
  | .called => true
  | _ => false

inductive EnablingMove (session : TradingSessionState) (party : ℕ) :
    Enabling → Enabling → Option SessionOp → Option SessionEvent → Prop
  | call : EnablingMove session party .idle .called none none
  | closed (reason : EnableTradingBlockReason) : EnablingMove session party .called (.refused reason) none none
  | read : EnablingMove session party .called (.read session.generation) none (some (.read party session.generation))
  | connect (generation : ℕ) : EnablingMove session party (.read generation) (.connected generation) none none
  | disconnected (generation : ℕ) (reason : EnableTradingBlockReason) :
      EnablingMove session party (.read generation) (.refused reason) none none
  | reconcile (generation : ℕ) : EnablingMove session party (.connected generation) (.reconciled generation) none none
  | unexpected (generation : ℕ) (reason : EnableTradingBlockReason) :
      EnablingMove session party (.connected generation) (.refused reason) none none
  | lose (generation : ℕ) : EnablingMove session party (.connected generation) .raised none none
  | apply (generation : ℕ) (expected : session.expects (some generation) = true) :
      EnablingMove session party (.reconciled generation) .applied (some (.enable ∅ (some generation)))
        (some (.applied party))
  | supersede (generation : ℕ) (reason : EnableTradingBlockReason)
      (other : session.expects (some generation) = false) :
      EnablingMove session party (.reconciled generation) (.refused reason) (some (.enable ∅ (some generation)))
        (some (.superseded party))
  | startStream : EnablingMove session party .applied .enabled none none

theorem enabling_move (setup : TradingSetup) (session : TradingSessionState) (party : ℕ) (before after : Enabling)
    (step : EnablingStep) (moved : Enabling.next setup session before step = some after) :
    EnablingMove session party before after (before.sessionOp step) (before.observe setup session party step) := by
  unfold Enabling.next at moved
  split at moved
  · cases moved
    exact .call
  · simp only [Enabling.observe, Enabling.sessionOp]
    split_ifs at moved with venue
    · cases moved
      rw [if_pos venue]
      exact .read
    · cases moved
      rw [if_neg venue]
      exact .closed _
  · cases moved
    split_ifs
    · exact .connect _
    · exact .disconnected _ _
  · cases moved
    split_ifs
    · exact .reconcile _
    · exact .unexpected _ _
  · cases moved
    exact .lose _
  · simp only [Enabling.observe, Enabling.sessionOp]
    split_ifs at moved with expected
    · cases moved
      rw [if_pos expected]
      exact .apply _ expected
    · cases moved
      rw [if_neg expected]
      exact .supersede _ _ (Bool.eq_false_iff.mpr expected)
  · cases moved
    exact .startStream
  · cases moved

section Moves

variable {session : TradingSessionState} {party : ℕ} {before after : Enabling} {op : Option SessionOp}
  {event : Option SessionEvent}

theorem enabling_read (move : EnablingMove session party before after op event) (reader seen : ℕ)
    (logged : event = some (.read reader seen)) :
    reader = party ∧ seen = session.generation ∧ before.unread = true ∧ after.unread = false := by
  cases move <;> cases logged
  exact ⟨rfl, rfl, rfl, rfl⟩

theorem enabling_applied (move : EnablingMove session party before after op event) (applier : ℕ)
    (logged : event = some (.applied applier)) : applier = party ∧ before.holds = some session.generation := by
  cases move <;> cases logged
  rename_i generation expected
  refine ⟨rfl, ?_⟩
  simpa [Enabling.holds, TradingSessionState.expects] using expected

theorem enabling_holds (move : EnablingMove session party before after op event) (generation : ℕ)
    (held : after.holds = some generation) :
    before.holds = some generation ∨ event = some (.read party generation) := by
  cases move <;> first | exact .inl held | (cases held; exact .inr rfl) | cases held

theorem enabling_unread (move : EnablingMove session party before after op event) (unread : after.unread = true) :
    before.unread = true ∧ event = none := by
  cases move <;> first | exact ⟨rfl, rfl⟩ | cases unread

end Moves

structure Watches (session : TradingSessionState) (op : Option SessionOp) (event : Option SessionEvent) : Prop where
  counted : (TradingSystem.performOp session op).generation = session.generation + version event.toList
  switched : (TradingSystem.performOp session op).enabled = true →
    (∃ happened, event = some happened ∧ enables happened) ∨
      (session.enabled = true ∧ event ≠ some (.mutated .disable))
  silent : (∀ happened, event = some happened → happened.mutates = false) → TradingSystem.performOp session op = session

theorem watches_nothing (session : TradingSessionState) : Watches session none none where
  counted := rfl
  switched := fun on => .inr ⟨on, by simp⟩
  silent := fun _ => rfl

theorem watches_enable (session : TradingSessionState) (openSymbols : Finset String) (expectedGeneration : Option ℕ)
    (event : SessionEvent) (expected : session.expects expectedGeneration = true) (mutating : event.mutates = true)
    (enabling : enables event) : Watches session (some (.enable openSymbols expectedGeneration)) (some event) where
  counted := by
    rw [TradingSystem.performOp, Option.elim_some, TradingSessionState.enable_applied session _ _ expected]
    simp [version, mutating]
  switched := fun _ => .inl ⟨event, rfl, enabling⟩
  silent := fun quiet => by
    rw [quiet event rfl] at mutating
    cases mutating

theorem watches_superseded (session : TradingSessionState) (openSymbols : Finset String) (expectedGeneration : Option ℕ)
    (event : Option SessionEvent) (other : session.expects expectedGeneration = false)
    (quiet : ∀ happened, event = some happened → happened.mutates = false) :
    Watches session (some (.enable openSymbols expectedGeneration)) event := by
  have same : TradingSystem.performOp session (some (.enable openSymbols expectedGeneration)) = session :=
    TradingSessionState.enable_superseded session openSymbols expectedGeneration other
  refine ⟨?_, fun on => .inr ⟨same ▸ on, fun disabled => ?_⟩, fun _ => same⟩
  · rw [same]
    cases event with
    | none => rfl
    | some happened => simp [version, quiet happened rfl]
  · have mutating := quiet _ disabled
    cases mutating

theorem watches_observe (session : TradingSessionState) (op : SessionOp) :
    Watches session (some op) (session.observe op) := by
  cases op with
  | enable openSymbols expectedGeneration =>
      cases expected : session.expects expectedGeneration with
      | false =>
          refine watches_superseded session openSymbols expectedGeneration _ expected ?_
          simp [TradingSessionState.observe, TradingSessionState.mutates, expected]
      | true =>
          have observed : session.observe (.enable openSymbols expectedGeneration) =
              some (.mutated (.enable openSymbols expectedGeneration)) := if_pos expected
          rw [observed]
          exact watches_enable session openSymbols expectedGeneration _ expected rfl (.inr ⟨_, _, rfl⟩)
  | disable =>
      refine ⟨rfl, fun on => ?_, fun quiet => by cases quiet _ rfl⟩
      cases on
  | recordOrderSent symbol now =>
      refine ⟨rfl, fun on => .inr ⟨on, fun disabled => ?_⟩, fun quiet => by cases quiet _ rfl⟩
      cases disabled
  | reconcilePosition symbol hasPosition =>
      refine ⟨rfl, fun on => .inr ⟨on, fun disabled => ?_⟩, fun quiet => by cases quiet _ rfl⟩
      cases disabled

theorem enabling_watches {session : TradingSessionState} {party : ℕ} {before after : Enabling} {op : Option SessionOp}
    {event : Option SessionEvent} (move : EnablingMove session party before after op event) :
    Watches session op event := by
  cases move with
  | apply generation expected => exact watches_enable session _ _ _ expected rfl (.inl ⟨party, rfl⟩)
  | supersede generation reason other =>
      refine watches_superseded session _ _ _ other fun happened logged => ?_
      cases logged
      rfl
  | read => exact ⟨rfl, fun on => .inr ⟨on, by simp⟩, fun _ => rfl⟩
  | call => exact watches_nothing session
  | closed reason => exact watches_nothing session
  | connect generation => exact watches_nothing session
  | disconnected generation reason => exact watches_nothing session
  | reconcile generation => exact watches_nothing session
  | unexpected generation reason => exact watches_nothing session
  | lose generation => exact watches_nothing session
  | startStream => exact watches_nothing session

theorem step_enabling (setup : TradingSetup) (system next : TradingSystem) (party : ℕ) (step : EnablingStep)
    (completed : system.step setup (.enabling party step) = some next) :
    ∃ after, EnablingMove system.session party (system.enablings party) after
        (system.sessionOp (.enabling party step)) (system.observe setup (.enabling party step)) ∧
      next.enablings = Function.update system.enablings party after := by
  simp only [TradingSystem.step, TradingSystem.advance, Option.map_eq_some_iff] at completed
  obtain ⟨moved, ⟨after, proceeds, rfl⟩, rfl⟩ := completed
  exact ⟨after, enabling_move setup system.session party _ after step proceeds, rfl⟩

theorem step_beside_enabling (setup : TradingSetup) (system next : TradingSystem) (label : TradeLabel)
    (other : ∀ party step, label ≠ .enabling party step) (completed : system.step setup label = some next) :
    next.enablings = system.enablings ∧
      system.observe setup label = (system.sessionOp label).bind system.session.observe := by
  simp only [TradingSystem.step, Option.map_eq_some_iff] at completed
  obtain ⟨moved, proceeds, rfl⟩ := completed
  cases label with
  | dispatch party step =>
      obtain ⟨after, _, unblocked⟩ := Option.bind_eq_some_iff.mp proceeds
      split_ifs at unblocked
      cases unblocked
      exact ⟨rfl, rfl⟩
  | enabling party step => exact absurd rfl (other party step)
  | stopping party step =>
      obtain ⟨after, _, rfl⟩ := Option.map_eq_some_iff.mp proceeds
      exact ⟨rfl, rfl⟩
  | session op =>
      refine ⟨?_, rfl⟩
      cases op <;> cases proceeds <;> rfl

theorem step_watches (setup : TradingSetup) (system next : TradingSystem) (label : TradeLabel)
    (completed : system.step setup label = some next) :
    Watches system.session (system.sessionOp label) (system.observe setup label) := by
  by_cases enabling : ∃ party step, label = .enabling party step
  · obtain ⟨party, step, rfl⟩ := enabling
    obtain ⟨after, move, _⟩ := step_enabling setup system next party step completed
    exact enabling_watches move
  · have other : ∀ party step, label ≠ .enabling party step := fun party step same => enabling ⟨party, step, same⟩
    rw [(step_beside_enabling setup system next label other completed).2]
    cases system.sessionOp label with
    | none => exact watches_nothing system.session
    | some op => exact watches_observe system.session op

-- The log misses nothing: a step without a mutating event in it leaves the
-- session state as it was, generation included.
theorem step_unobserved (setup : TradingSetup) (system next : TradingSystem) (label : TradeLabel)
    (completed : system.step setup label = some next)
    (quiet : ∀ event, system.observe setup label = some event → event.mutates = false) : next.session = system.session := by
  rw [step_session setup system next label completed]
  exact (step_watches setup system next label completed).silent quiet

-- Every call that has read the generation is still marked in the log by its
-- read, and none that has yet to read is.
structure Tracked (system : TradingSystem) (log : List SessionEvent) : Prop where
  generation : system.session.generation = version log
  consistent : Consistent log
  held : ∀ party generation, (system.enablings party).holds = some generation → .read party generation ∈ log
  fresh : ∀ party, (system.enablings party).unread = true → ∀ seen, .read party seen ∉ log
  switched : system.session.enabled = true → Cleared disables enables log

theorem tracked_initial : Tracked {} [] where
  generation := rfl
  consistent := consistent_nil
  held := fun _ _ held => by cases held
  fresh := fun _ _ _ => List.not_mem_nil
  switched := fun _ => cleared_nil _ _

theorem watches_cleared {session : TradingSessionState} {op : Option SessionOp} {event : Option SessionEvent}
    (watches : Watches session op event) (log : List SessionEvent)
    (before : session.enabled = true → Cleared disables enables log)
    (on : (TradingSystem.performOp session op).enabled = true) : Cleared disables enables (event.toList ++ log) := by
  rcases watches.switched on with ⟨happened, rfl, enabling⟩ | ⟨wasOn, other⟩
  · refine cleared_good _ _ log happened ?_ enabling
    rcases enabling with ⟨party, rfl⟩ | ⟨openSymbols, expectedGeneration, rfl⟩ <;> simp [disables]
  · cases event with
    | none => exact before wasOn
    | some happened =>
        exact cleared_harmless _ _ log happened (fun disabled => other (congrArg some disabled)) (before wasOn)

theorem tracked_enabling (setup : TradingSetup) (system next : TradingSystem) (party : ℕ) (step : EnablingStep)
    (log : List SessionEvent) (tracked : Tracked system log)
    (completed : system.step setup (.enabling party step) = some next) :
    Tracked next ((system.observe setup (.enabling party step)).toList ++ log) := by
  have session := step_session setup system next _ completed
  have watches := step_watches setup system next _ completed
  obtain ⟨after, move, enablings⟩ := step_enabling setup system next party step completed
  refine ⟨?_, ?_, ?_, ?_, ?_⟩
  · rw [session, watches.counted, version_append, tracked.generation, add_comm]
  · cases logged : system.observe setup (.enabling party step) with
    | none => exact tracked.consistent
    | some event =>
        refine consistent_cons log event tracked.consistent ?_ ?_
        · rintro reader seen rfl
          obtain ⟨rfl, current, unread, _⟩ := enabling_read move reader seen logged
          exact ⟨current.trans tracked.generation, tracked.fresh reader unread⟩
        · rintro applier rfl
          obtain ⟨rfl, held⟩ := enabling_applied move applier logged
          rw [← tracked.generation]
          exact tracked.held applier _ held
  · intro holder generation held
    rw [enablings] at held
    by_cases mover : holder = party
    · subst mover
      rw [Function.update_self] at held
      rcases enabling_holds move generation held with before | logged
      · exact List.mem_append_right _ (tracked.held holder generation before)
      · simp [logged]
    · rw [Function.update_of_ne mover] at held
      exact List.mem_append_right _ (tracked.held holder generation held)
  · intro reader unread seen read
    rw [enablings] at unread
    rcases List.mem_append.mp read with logged | earlier
    · obtain ⟨rfl, _, _, done⟩ := enabling_read move reader seen (Option.mem_toList.mp logged)
      rw [Function.update_self, done] at unread
      cases unread
    · by_cases mover : reader = party
      · subst mover
        rw [Function.update_self] at unread
        exact tracked.fresh reader (enabling_unread move unread).1 seen earlier
      · rw [Function.update_of_ne mover] at unread
        exact tracked.fresh reader unread seen earlier
  · intro on
    exact watches_cleared watches log tracked.switched (session ▸ on)

theorem observe_mutates (session : TradingSessionState) (op : Option SessionOp) (event : SessionEvent)
    (logged : op.bind session.observe = some event) : ∃ mutation, event = .mutated mutation := by
  obtain ⟨mutation, _, observed⟩ := Option.bind_eq_some_iff.mp logged
  unfold TradingSessionState.observe at observed
  split_ifs at observed
  cases observed
  exact ⟨mutation, rfl⟩

theorem tracked_beside_enabling (setup : TradingSetup) (system next : TradingSystem) (label : TradeLabel)
    (log : List SessionEvent) (other : ∀ party step, label ≠ .enabling party step) (tracked : Tracked system log)
    (completed : system.step setup label = some next) : Tracked next ((system.observe setup label).toList ++ log) := by
  have session := step_session setup system next label completed
  have watches := step_watches setup system next label completed
  obtain ⟨enablings, observed⟩ := step_beside_enabling setup system next label other completed
  have mutated : ∀ event, system.observe setup label = some event → ∃ mutation, event = .mutated mutation :=
    fun event logged => observe_mutates system.session _ event (observed ▸ logged)
  refine ⟨?_, ?_, ?_, ?_, ?_⟩
  · rw [session, watches.counted, version_append, tracked.generation, add_comm]
  · cases logged : system.observe setup label with
    | none => exact tracked.consistent
    | some event =>
        obtain ⟨mutation, rfl⟩ := mutated event logged
        exact consistent_cons log _ tracked.consistent (by simp) (by simp)
  · intro holder generation held
    exact List.mem_append_right _ (tracked.held holder generation (enablings ▸ held))
  · intro reader unread seen read
    rcases List.mem_append.mp read with logged | earlier
    · obtain ⟨mutation, same⟩ := mutated _ (Option.mem_toList.mp logged)
      cases same
    · exact tracked.fresh reader (enablings ▸ unread) seen earlier
  · intro on
    exact watches_cleared watches log tracked.switched (session ▸ on)

theorem tracked_step (setup : TradingSetup) (system : TradingSystem) (label : TradeLabel) (next : TradingSystem)
    (log : List SessionEvent) (tracked : Tracked system log) (completed : system.step setup label = some next) :
    Tracked next ((system.observe setup label).toList ++ log) := by
  by_cases enabling : ∃ party step, label = .enabling party step
  · obtain ⟨party, step, rfl⟩ := enabling
    exact tracked_enabling setup system next party step log tracked completed
  · exact tracked_beside_enabling setup system next label log (fun party step same => enabling ⟨party, step, same⟩)
      tracked completed

-- An enable that applies follows its own read of the generation with nothing
-- that mutates the state in between.
theorem enable_applies_unchanged (setup : TradingSetup) (labels : List TradeLabel) (final : TradingSystem)
    (completed : run (TradingSystem.step setup) {} labels = some final) :
    (∀ newest past party, sessionLog setup labels = newest ++ .applied party :: past →
      ∃ newer older, past = newer ++ .read party (version older) :: older ∧
        ∀ event ∈ newer, event.mutates = false) ∧
    (∀ newer older party seen, sessionLog setup labels = newer ++ .mutated .disable :: older →
      .read party seen ∈ older →
      .applied party ∉ newer ∧
        ((∀ event ∈ newer, enables event → event = .applied party) → final.session.enabled = false)) ∧
    (∀ first second seen, .read first seen ∈ sessionLog setup labels → .read second seen ∈ sessionLog setup labels →
      .applied first ∈ sessionLog setup labels → .applied second ∈ sessionLog setup labels → first = second) := by
  have tracked : Tracked final (sessionLog setup labels) :=
    run_watched_invariant (TradingSystem.step setup) (TradingSystem.observe setup) Tracked
      (fun system label next log inv moved => tracked_step setup system label next log inv moved) labels {} final []
      tracked_initial completed
  refine ⟨applied_window_quiet tracked.consistent, ?_, version_applies_once tracked.consistent⟩
  intro newer older party seen split read
  have superseded : .applied party ∉ newer := by
    intro applied
    obtain ⟨newest, between, newerSplit⟩ := List.append_of_mem applied
    refine mutated_window_supersedes tracked.consistent newest between older party seen (.mutated .disable) rfl read ?_
    rw [split, newerSplit, List.append_assoc, List.cons_append]
  refine ⟨superseded, fun alone => Bool.eq_false_iff.mpr fun on => ?_⟩
  obtain ⟨remedy, member, enabling⟩ := tracked.switched on newer _ older split rfl
  rw [alone remedy member enabling] at member
  exact superseded member

theorem stop_between_read_and_apply :
    ∃ final, run (TradingSystem.step { limits := .configured }) {}
        ((enableSchedule 0).take 2 ++ stopSchedule 0 ++ ((enableSchedule 0).drop 2).dropLast) = some final ∧
      final.session.enabled = false := by
  have runs : (run (TradingSystem.step { limits := .configured }) {}
      ((enableSchedule 0).take 2 ++ stopSchedule 0 ++ ((enableSchedule 0).drop 2).dropLast)).isSome = true := by
    decide +kernel
  have log : sessionLog { limits := .configured }
      ((enableSchedule 0).take 2 ++ stopSchedule 0 ++ ((enableSchedule 0).drop 2).dropLast) =
      [.superseded 0, .mutated .disable, .read 0 0] := by decide +kernel
  obtain ⟨final, completed⟩ := Option.isSome_iff_exists.mp runs
  obtain ⟨_, stops, _⟩ := enable_applies_unchanged _ _ final completed
  refine ⟨final, completed, (stops [.superseded 0] [.read 0 0] 0 0 log (by simp)).2 fun event member enabling => ?_⟩
  cases List.mem_singleton.mp member
  rcases enabling with ⟨party, same⟩ | ⟨openSymbols, expectedGeneration, same⟩ <;> cases same

end Sagittarius
