import Mathlib.Algebra.Order.BigOperators.Group.Finset
import Mathlib.Algebra.Order.Ring.Rat
import Mathlib.Data.Finset.Card
import Mathlib.Tactic.Linarith
import Sagittarius.Domain.TimeFrame
import Sagittarius.Library.Machine

set_option autoImplicit false

namespace Sagittarius

open Interleaving

structure SyncTarget where
  symbol : String
  interval : TimeFrame

structure BulkSyncProgressEvent where
  currentIndex : ℕ
  totalTargets : ℕ
  symbol : String
  interval : String
  hasError : Bool := false
  isComplete : Bool := false
  message : String
deriving DecidableEq

structure TargetResult where
  hasError : Bool
  errorMsg : String
deriving DecidableEq

def cancelledResult : TargetResult where
  hasError := false
  errorMsg := "Cancelled"

def dispatchedResult (error : Option String) : TargetResult :=
  match error with
  | none => { hasError := false, errorMsg := "" }
  | some exc => { hasError := true, errorMsg := exc }

namespace BulkSyncProgressEvent

def ofTarget (total index : ℕ) (target : SyncTarget) (result : TargetResult) : BulkSyncProgressEvent where
  currentIndex := index
  totalTargets := total
  symbol := target.symbol
  interval := target.interval.value
  hasError := result.hasError
  message :=
    if result.hasError then "Failed: " ++ result.errorMsg
    else s!"[{index}/{total}] {target.symbol} ({target.interval.value}) complete."

def ofEnd (total : ℕ) : BulkSyncProgressEvent where
  currentIndex := total
  totalTargets := total
  symbol := ""
  interval := ""
  isComplete := true
  message := if total = 0 then "No targets to sync." else "Bulk sync completed successfully."

end BulkSyncProgressEvent

structure ThreadSafeRateLimiter where
  delaySec : ℚ
  lastTime : ℚ := 0

namespace ThreadSafeRateLimiter

def ofDelay (delaySec : ℚ) : ThreadSafeRateLimiter := { delaySec := max 0 delaySec }

def remaining (limiter : ThreadSafeRateLimiter) (now : ℚ) : ℚ :=
  if now - limiter.lastTime < limiter.delaySec then limiter.delaySec - (now - limiter.lastTime) else 0

end ThreadSafeRateLimiter

inductive TargetPhase
  | queued
  | waiting
  | granted
  | dispatching
  | done (result : TargetResult)
  | cancelled
  | reported (result : TargetResult)
  | skipped
deriving DecidableEq

namespace TargetPhase

def busy : TargetPhase → Bool
  | waiting => true
  | granted => true
  | dispatching => true
  | _ => false

def sent : TargetPhase → Bool
  | dispatching => true
  | done result => decide (result ≠ cancelledResult)
  | reported result => decide (result ≠ cancelledResult)
  | _ => false

def result? : TargetPhase → Option TargetResult
  | reported result => some result
  | _ => none

def seen (phase : TargetPhase) : Bool := phase.result?.isSome || phase = skipped

def rank : TargetPhase → ℕ
  | queued => 5
  | waiting => 4
  | granted => 3
  | dispatching => 2
  | done _ => 1
  | cancelled => 1
  | reported _ => 0
  | skipped => 0

def withdrawn (phase : TargetPhase) : Bool :=
  phase = cancelled || phase = skipped || phase = done cancelledResult || phase = reported cancelledResult

end TargetPhase

structure BulkSync where
  phase : ℕ → TargetPhase
  cancellationRequested : Bool := false
  limiter : ThreadSafeRateLimiter
  -- when `acquire` let a target go, the latest first
  grants : List ℚ := []
  -- the targets whose command was dispatched, in order
  dispatched : List ℕ := []
  completedCount : ℕ := 0
  events : List BulkSyncProgressEvent := []
  finished : Bool := false

-- One step of a worker, of the main thread or of the user. A sleep takes at
-- least as long as it is asked to.
inductive BulkSyncLabel
  | cancel
  | pickUp (target : ℕ)
  | cancelFuture (target : ℕ)
  | acquired (target : ℕ) (now after : ℚ)
  | gaveUp (target : ℕ) (now : ℚ)
  | dispatch (target : ℕ)
  | returned (target : ℕ) (error : Option String)
  | completed (target : ℕ)
  | finish

def BulkSyncLabel.advances : BulkSyncLabel → Bool
  | cancel => false
  | _ => true

def maxWorkers (total : ℕ) : ℕ := max 1 (min 10 total)

namespace BulkSync

variable (targets : List SyncTarget)

def busyTargets (state : BulkSync) : Finset ℕ := (Finset.range targets.length).filter fun i => (state.phase i).busy

def start (delaySec : ℚ) : BulkSync where
  phase := fun _ => .queued
  limiter := .ofDelay delaySec

def move (state : BulkSync) (i : ℕ) (phase : TargetPhase) : BulkSync :=
  { state with phase := Function.update state.phase i phase }

def step (state : BulkSync) : BulkSyncLabel → Option BulkSync
  | .cancel => some { state with cancellationRequested := true }
  | .pickUp i =>
      if i < targets.length ∧ state.phase i = .queued ∧ (state.busyTargets targets).card < maxWorkers targets.length then
        some (state.move i (if state.cancellationRequested then .done cancelledResult else .waiting))
      else none
  | .cancelFuture i =>
      if i < targets.length ∧ state.phase i = .queued ∧ state.cancellationRequested then some (state.move i .cancelled)
      else none
  | .acquired i now after =>
      if state.phase i = .waiting ∧ now + state.limiter.remaining now ≤ after then
        some { state.move i .granted with
          limiter := { state.limiter with lastTime := after }
          grants := after :: state.grants }
      else none
  | .gaveUp i now =>
      if state.phase i = .waiting ∧ state.cancellationRequested ∧ 0 < state.limiter.remaining now then
        some (state.move i .granted)
      else none
  | .dispatch i =>
      if state.phase i = .granted then
        if state.cancellationRequested then some (state.move i (.done cancelledResult))
        else some { state.move i .dispatching with dispatched := state.dispatched ++ [i] }
      else none
  | .returned i error =>
      if state.phase i = .dispatching then some (state.move i (.done (dispatchedResult error))) else none
  | .completed i =>
      match state.phase i, targets[i]? with
      | .done result, some target =>
          some { state.move i (.reported result) with
            completedCount := state.completedCount + 1
            events := state.events ++ [.ofTarget targets.length (state.completedCount + 1) target result] }
      | .cancelled, some _ => some (state.move i .skipped)
      | _, _ => none
  | .finish =>
      if (∀ i < targets.length, (state.phase i).seen) ∧ state.finished = false then
        some { state with events := state.events ++ [.ofEnd targets.length], finished := true }
      else none

def targetEvents (state : BulkSync) (order : List ℕ) : List BulkSyncProgressEvent :=
  order.zipIdx.filterMap fun (i, n) =>
    match targets[i]?, (state.phase i).result? with
    | some target, some result => some (.ofTarget targets.length (n + 1) target result)
    | _, _ => none

-- The events are those of the targets reported, numbered from 1, and the last
-- one once the batch is finished.
structure Reports (state : BulkSync) (order : List ℕ) : Prop where
  distinct : order.Nodup
  listed : ∀ i, i ∈ order ↔ (state.phase i).result?.isSome
  counted : state.completedCount = order.length
  events : state.events = targetEvents targets state order ++ if state.finished then [.ofEnd targets.length] else []

structure Accounts (delaySec : ℚ) (state : BulkSync) : Prop where
  outside : ∀ i, targets.length ≤ i → state.phase i = .queued
  workers : (state.busyTargets targets).card ≤ maxWorkers targets.length
  sent : ∀ i, i ∈ state.dispatched ↔ (state.phase i).sent
  once : state.dispatched.Nodup
  uncancelled : state.cancellationRequested = false → ∀ i, (state.phase i).withdrawn = false
  reports : ∃ order, Reports targets state order
  ended : state.finished = true → ∀ i < targets.length, (state.phase i).seen
  delay : state.limiter.delaySec = max 0 delaySec
  latest : ∀ time ∈ state.grants, time ≤ state.limiter.lastTime
  spaced : state.grants.Pairwise fun later earlier => earlier + state.limiter.delaySec ≤ later

theorem remaining_spaces (limiter : ThreadSafeRateLimiter) (now after : ℚ)
    (slept : now + limiter.remaining now ≤ after) : limiter.lastTime + limiter.delaySec ≤ after := by
  rw [ThreadSafeRateLimiter.remaining] at slept
  by_cases early : now - limiter.lastTime < limiter.delaySec
  · rw [if_pos early] at slept
    linarith
  · rw [if_neg early] at slept
    linarith

theorem inside_of_moved (delaySec : ℚ) (state : BulkSync) (accounts : Accounts targets delaySec state) (i : ℕ)
    (moved : state.phase i ≠ .queued) : i < targets.length := by
  by_contra past
  exact moved (accounts.outside i (by omega))

theorem busy_moved (state : BulkSync) (i : ℕ) (phase : TargetPhase) :
    (state.move i phase).busyTargets targets ⊆
      if phase.busy then insert i (state.busyTargets targets) else state.busyTargets targets := by
  intro j inside
  obtain ⟨inRange, busy⟩ := Finset.mem_filter.mp inside
  by_cases same : j = i
  · subst same
    have isPhase : (state.move j phase).phase j = phase := Function.update_self ..
    rw [isPhase] at busy
    rw [if_pos busy]
    exact Finset.mem_insert_self _ _
  · have kept : (state.move i phase).phase j = state.phase j := Function.update_of_ne same ..
    rw [kept] at busy
    have old : j ∈ state.busyTargets targets := Finset.mem_filter.mpr ⟨inRange, busy⟩
    split_ifs
    · exact Finset.mem_insert_of_mem old
    · exact old

theorem target_events_moved (state : BulkSync) (order : List ℕ) (i : ℕ) (phase : TargetPhase) (absent : i ∉ order) :
    targetEvents targets (state.move i phase) order = targetEvents targets state order := by
  refine List.filterMap_congr fun numbered listed => ?_
  have different : numbered.1 ≠ i := fun same => absent (same ▸ List.fst_mem_of_mem_zipIdx listed)
  have kept : (state.move i phase).phase numbered.1 = state.phase numbered.1 := Function.update_of_ne different ..
  simp only [kept]

theorem target_events_reported (state : BulkSync) (order : List ℕ) (i : ℕ) (result : TargetResult) (target : SyncTarget)
    (absent : i ∉ order) (isTarget : targets[i]? = some target) :
    targetEvents targets (state.move i (.reported result)) (order ++ [i]) =
      targetEvents targets state order ++ [.ofTarget targets.length (order.length + 1) target result] := by
  have kept := target_events_moved targets state order i (.reported result) absent
  have isPhase : (state.move i (.reported result)).phase i = .reported result := Function.update_self ..
  rw [← kept, targetEvents, List.zipIdx_append, List.filterMap_append]
  simp [isTarget, isPhase, TargetPhase.result?, targetEvents]

theorem moved_result (state : BulkSync) (i j : ℕ) (after : TargetPhase) (fresh : (state.phase i).seen = false) :
    ((state.move i after).phase j).result?.isSome = true ↔
      j = i ∧ after.result?.isSome = true ∨ (state.phase j).result?.isSome = true := by
  have unreported : (state.phase i).result?.isSome = false := (Bool.or_eq_false_iff.mp fresh).1
  by_cases same : j = i
  · subst same
    have isPhase : (state.move j after).phase j = after := Function.update_self ..
    rw [isPhase, unreported]
    simp
  · have kept : (state.move i after).phase j = state.phase j := Function.update_of_ne same ..
    rw [kept]
    simp [same]

def ReportsMove (state next : BulkSync) (i : ℕ) (after : TargetPhase) : Prop :=
  (after.result? = none ∧ next.completedCount = state.completedCount ∧ next.events = state.events) ∨
    ∃ result target, after = .reported result ∧ targets[i]? = some target ∧
      next.completedCount = state.completedCount + 1 ∧
      next.events = state.events ++ [.ofTarget targets.length (state.completedCount + 1) target result]

theorem moved_reports (state next : BulkSync) (i : ℕ) (after : TargetPhase) (order : List ℕ)
    (reports : Reports targets state order) (fresh : (state.phase i).seen = false) (unfinished : state.finished = false)
    (phase : next.phase = (state.move i after).phase) (finished : next.finished = state.finished)
    (reporting : ReportsMove targets state next i after) : ∃ later, Reports targets next later := by
  have absent : i ∉ order := by
    rw [reports.listed, (Bool.or_eq_false_iff.mp fresh).1]
    exact Bool.false_ne_true
  have sameEvents : ∀ listed, targetEvents targets next listed = targetEvents targets (state.move i after) listed := by
    intro listed
    rw [targetEvents, phase]
    rfl
  cases reporting with
  | inl silent =>
      obtain ⟨unreported, counted, events⟩ := silent
      refine ⟨order, reports.distinct, fun j => ?_, counted.trans reports.counted, ?_⟩
      · rw [phase, moved_result state i j after fresh, unreported, reports.listed]
        simp
      · rw [events, reports.events, finished, sameEvents, target_events_moved targets state order i after absent]
  | inr told =>
      obtain ⟨result, target, rfl, isTarget, counted, events⟩ := told
      refine ⟨order ++ [i], ?_, fun j => ?_, ?_, ?_⟩
      · exact List.Nodup.append reports.distinct (List.nodup_singleton i) (by simpa using absent)
      · rw [phase, moved_result state i j _ fresh, List.mem_append, reports.listed, List.mem_singleton]
        simp [TargetPhase.result?, or_comm]
      · rw [counted, reports.counted, List.length_append, List.length_singleton]
      · rw [events, reports.events, finished, sameEvents,
          target_events_reported targets state order i result target absent isTarget, unfinished, reports.counted]
        simp

def SendsMove (state next : BulkSync) (i : ℕ) (after : TargetPhase) : Prop :=
  (after.sent = (state.phase i).sent ∧ next.dispatched = state.dispatched) ∨
    ((state.phase i).sent = false ∧ after.sent = true ∧ next.dispatched = state.dispatched ++ [i])

def LimitsMove (state next : BulkSync) : Prop :=
  (next.limiter = state.limiter ∧ next.grants = state.grants) ∨
    ∃ time, state.limiter.lastTime + state.limiter.delaySec ≤ time ∧
      next.limiter = { state.limiter with lastTime := time } ∧ next.grants = time :: state.grants

structure Moved (state next : BulkSync) (i : ℕ) (after : TargetPhase) : Prop where
  inside : i < targets.length
  fresh : (state.phase i).seen = false
  advances : after.rank < (state.phase i).rank
  phase : next.phase = (state.move i after).phase
  cancellation : next.cancellationRequested = state.cancellationRequested
  finished : next.finished = state.finished
  workers : after.busy = true → (state.phase i).busy = true ∨
    (state.busyTargets targets).card < maxWorkers targets.length
  withdrawn : state.cancellationRequested = false → after.withdrawn = false
  sending : SendsMove state next i after
  limiting : LimitsMove state next
  reporting : ReportsMove targets state next i after

theorem quiet_move (state : BulkSync) (i : ℕ) (before after : TargetPhase) (isPhase : state.phase i = before)
    (inside : i < targets.length) (fresh : before.seen = false) (advances : after.rank < before.rank)
    (sent : after.sent = before.sent) (unreported : after.result? = none)
    (workers : after.busy = true → before.busy = true ∨ (state.busyTargets targets).card < maxWorkers targets.length)
    (withdrawn : state.cancellationRequested = false → after.withdrawn = false) :
    Moved targets state (state.move i after) i after := by
  subst isPhase
  exact { inside, fresh, advances, workers, withdrawn, phase := rfl, cancellation := rfl, finished := rfl
          sending := .inl ⟨sent, rfl⟩, limiting := .inl ⟨rfl, rfl⟩, reporting := .inl ⟨unreported, rfl, rfl⟩ }

theorem moved_accounts (delaySec : ℚ) (state next : BulkSync) (i : ℕ) (after : TargetPhase)
    (accounts : Accounts targets delaySec state) (moved : Moved targets state next i after) :
    Accounts targets delaySec next := by
  obtain ⟨inside, fresh, _, phase, cancellation, finished, workers, withdrawn, sending, limiting, reporting⟩ := moved
  have isPhase : next.phase i = after := by
    rw [phase]
    exact Function.update_self ..
  have kept : ∀ j, j ≠ i → next.phase j = state.phase j := by
    intro j different
    rw [phase]
    exact Function.update_of_ne different ..
  have unfinished : state.finished = false := by
    by_contra ended
    rw [accounts.ended (Bool.eq_true_of_not_eq_false ended) i inside] at fresh
    cases fresh
  obtain ⟨order, reports⟩ := accounts.reports
  refine {
    outside := ?_, workers := ?_, sent := ?_, once := ?_, uncancelled := ?_
    reports := moved_reports targets state next i after order reports fresh unfinished phase finished reporting
    ended := fun ended => absurd (finished.symm.trans ended) (by simp [unfinished])
    delay := ?_, latest := ?_, spaced := ?_ }
  · intro j past
    rw [kept j (by omega)]
    exact accounts.outside j past
  · have busy := busy_moved targets state i after
    have same : next.busyTargets targets = (state.move i after).busyTargets targets := by
      rw [busyTargets, phase]
      rfl
    rw [same]
    by_cases isBusy : after.busy = true
    · rw [if_pos isBusy] at busy
      have bounded := Finset.card_le_card busy
      cases workers isBusy with
      | inl before =>
          have member : i ∈ state.busyTargets targets := Finset.mem_filter.mpr ⟨Finset.mem_range.mpr inside, before⟩
          rw [Finset.insert_eq_of_mem member] at bounded
          exact bounded.trans accounts.workers
      | inr room =>
          have inserted := Finset.card_insert_le i (state.busyTargets targets)
          omega
    · rw [if_neg isBusy] at busy
      exact (Finset.card_le_card busy).trans accounts.workers
  · intro j
    by_cases same : j = i
    · subst same
      rw [isPhase]
      cases sending with
      | inl unsent => rw [unsent.2, unsent.1, accounts.sent]
      | inr new => simp [new.2.1, new.2.2]
    · rw [kept j same, ← accounts.sent]
      cases sending with
      | inl unsent => rw [unsent.2]
      | inr new => simp [new.2.2, same]
  · cases sending with
    | inl unsent =>
        rw [unsent.2]
        exact accounts.once
    | inr new =>
        have absent : i ∉ state.dispatched := by
          rw [accounts.sent, new.1]
          exact Bool.false_ne_true
        rw [new.2.2]
        exact List.Nodup.append accounts.once (List.nodup_singleton i) (by simpa using absent)
  · intro uncancelled j
    rw [cancellation] at uncancelled
    by_cases same : j = i
    · rw [same, isPhase]
      exact withdrawn uncancelled
    · rw [kept j same]
      exact accounts.uncancelled uncancelled j
  · cases limiting with
    | inl same =>
        rw [same.1]
        exact accounts.delay
    | inr granted =>
        obtain ⟨time, _, limiter, _⟩ := granted
        rw [limiter]
        exact accounts.delay
  · cases limiting with
    | inl same =>
        rw [same.1, same.2]
        exact accounts.latest
    | inr granted =>
        obtain ⟨time, spaced, limiter, grants⟩ := granted
        rw [limiter, grants]
        refine List.forall_mem_cons.mpr ⟨le_refl time, fun earlier isGrant => ?_⟩
        have latest := accounts.latest earlier isGrant
        have delay := le_max_left 0 delaySec
        rw [← accounts.delay] at delay
        linarith
  · cases limiting with
    | inl same =>
        rw [same.1, same.2]
        exact accounts.spaced
    | inr granted =>
        obtain ⟨time, spaced, limiter, grants⟩ := granted
        rw [limiter, grants]
        refine List.pairwise_cons.mpr ⟨fun earlier isGrant => ?_, accounts.spaced⟩
        have latest := accounts.latest earlier isGrant
        linarith

theorem start_accounts (delaySec : ℚ) : Accounts targets delaySec (start delaySec) where
  outside := fun _ _ => rfl
  workers := by simp [busyTargets, start, TargetPhase.busy]
  sent := fun _ => iff_of_false List.not_mem_nil Bool.false_ne_true
  once := .nil
  uncancelled := fun _ _ => rfl
  reports := ⟨[], .nil, fun _ => iff_of_false List.not_mem_nil Bool.false_ne_true, rfl, rfl⟩
  ended := nofun
  delay := rfl
  latest := nofun
  spaced := .nil

theorem dispatched_result_sent (error : Option String) : dispatchedResult error ≠ cancelledResult := by
  cases error with
  | none => decide
  | some exc => exact fun same => Bool.noConfusion (congrArg TargetResult.hasError same)

theorem step_cases (delaySec : ℚ) (state : BulkSync) (label : BulkSyncLabel) (next : BulkSync)
    (accounts : Accounts targets delaySec state) (moved : step targets state label = some next) :
    (label = .cancel ∧ next = { state with cancellationRequested := true }) ∨
      (∃ i after, Moved targets state next i after) ∨
      ((∀ i < targets.length, (state.phase i).seen) ∧ state.finished = false ∧
        next = { state with events := state.events ++ [.ofEnd targets.length], finished := true }) := by
  cases label with
  | cancel =>
      cases moved
      exact .inl ⟨rfl, rfl⟩
  | pickUp i =>
      rw [step] at moved
      by_cases ready : i < targets.length ∧ state.phase i = .queued ∧
          (state.busyTargets targets).card < maxWorkers targets.length
      · rw [if_pos ready] at moved
        cases moved
        obtain ⟨inside, isQueued, room⟩ := ready
        by_cases cancelled : state.cancellationRequested = true
        · rw [if_pos cancelled]
          refine .inr (.inl ⟨i, (.done cancelledResult), ?_⟩)
          exact quiet_move targets state i _ _ isQueued inside rfl (by decide) rfl rfl nofun
            fun uncancelled => absurd cancelled (by simp [uncancelled])
        · rw [if_neg cancelled]
          refine .inr (.inl ⟨i, .waiting, ?_⟩)
          exact quiet_move targets state i _ _ isQueued inside rfl (by decide) rfl rfl (fun _ => .inr room) fun _ => rfl
      · rw [if_neg ready] at moved
        cases moved
  | cancelFuture i =>
      rw [step] at moved
      by_cases ready : i < targets.length ∧ state.phase i = .queued ∧ state.cancellationRequested
      · rw [if_pos ready] at moved
        cases moved
        obtain ⟨inside, isQueued, cancelled⟩ := ready
        refine .inr (.inl ⟨i, .cancelled, ?_⟩)
        exact quiet_move targets state i _ _ isQueued inside rfl (by decide) rfl rfl nofun
          fun uncancelled => absurd cancelled (by simp [uncancelled])
      · rw [if_neg ready] at moved
        cases moved
  | acquired i now after =>
      rw [step] at moved
      by_cases ready : state.phase i = .waiting ∧ now + state.limiter.remaining now ≤ after
      · rw [if_pos ready] at moved
        cases moved
        obtain ⟨isWaiting, slept⟩ := ready
        have inside := inside_of_moved targets delaySec state accounts i (by rw [isWaiting]; nofun)
        have quiet := quiet_move targets state i _ .granted isWaiting inside rfl (by decide) rfl rfl
          (fun _ => .inl rfl) fun _ => rfl
        have spaced := remaining_spaces state.limiter now after slept
        exact .inr (.inl ⟨i, .granted, { quiet with limiting := .inr ⟨after, spaced, rfl, rfl⟩ }⟩)
      · rw [if_neg ready] at moved
        cases moved
  | gaveUp i now =>
      rw [step] at moved
      by_cases ready : state.phase i = .waiting ∧ state.cancellationRequested ∧ 0 < state.limiter.remaining now
      · rw [if_pos ready] at moved
        cases moved
        have inside := inside_of_moved targets delaySec state accounts i (by rw [ready.1]; nofun)
        refine .inr (.inl ⟨i, .granted, ?_⟩)
        exact quiet_move targets state i _ _ ready.1 inside rfl (by decide) rfl rfl (fun _ => .inl rfl) fun _ => rfl
      · rw [if_neg ready] at moved
        cases moved
  | dispatch i =>
      rw [step] at moved
      by_cases isGranted : state.phase i = .granted
      · rw [if_pos isGranted] at moved
        have inside := inside_of_moved targets delaySec state accounts i (by rw [isGranted]; nofun)
        by_cases cancelled : state.cancellationRequested = true
        · rw [if_pos cancelled] at moved
          cases moved
          refine .inr (.inl ⟨i, (.done cancelledResult), ?_⟩)
          exact quiet_move targets state i _ _ isGranted inside rfl (by decide) rfl rfl nofun
            fun uncancelled => absurd cancelled (by simp [uncancelled])
        · rw [if_neg cancelled] at moved
          cases moved
          refine .inr (.inl ⟨i, .dispatching, ?_⟩)
          exact { inside, phase := rfl, cancellation := rfl, finished := rfl
                  fresh := by rw [isGranted]; rfl
                  advances := by rw [isGranted]; decide
                  workers := fun _ => .inl (by rw [isGranted]; rfl)
                  withdrawn := fun _ => rfl
                  sending := .inr ⟨by rw [isGranted]; rfl, rfl, rfl⟩
                  limiting := .inl ⟨rfl, rfl⟩
                  reporting := .inl ⟨rfl, rfl, rfl⟩ }
      · rw [if_neg isGranted] at moved
        cases moved
  | returned i error =>
      rw [step] at moved
      by_cases isDispatching : state.phase i = .dispatching
      · rw [if_pos isDispatching] at moved
        cases moved
        have inside := inside_of_moved targets delaySec state accounts i (by rw [isDispatching]; nofun)
        have isSent := dispatched_result_sent error
        refine .inr (.inl ⟨i, (.done (dispatchedResult error)), ?_⟩)
        exact quiet_move targets state i _ _ isDispatching inside rfl Nat.one_lt_two (decide_eq_true isSent) rfl nofun
          fun _ => by simp [TargetPhase.withdrawn, isSent]
      · rw [if_neg isDispatching] at moved
        cases moved
  | completed i =>
      rw [step] at moved
      cases isTarget : targets[i]? with
      | none =>
          rw [isTarget] at moved
          cases isPhase : state.phase i with
          | _ =>
              rw [isPhase] at moved
              cases moved
      | some target =>
          have inside : i < targets.length := (List.getElem?_eq_some_iff.mp isTarget).1
          rw [isTarget] at moved
          cases isPhase : state.phase i with
          | done result =>
              rw [isPhase] at moved
              cases moved
              refine .inr (.inl ⟨i, (.reported result), ?_⟩)
              refine { inside, phase := rfl, cancellation := rfl, finished := rfl
                       fresh := by rw [isPhase]; rfl
                       advances := by rw [isPhase]; exact Nat.one_pos
                       workers := nofun
                       withdrawn := fun uncancelled => ?_
                       sending := .inl ⟨by rw [isPhase]; rfl, rfl⟩
                       limiting := .inl ⟨rfl, rfl⟩
                       reporting := .inr ⟨result, target, rfl, isTarget, rfl, rfl⟩ }
              have kept := accounts.uncancelled uncancelled i
              rw [isPhase] at kept
              simpa [TargetPhase.withdrawn] using kept
          | cancelled =>
              rw [isPhase] at moved
              cases moved
              refine .inr (.inl ⟨i, .skipped, ?_⟩)
              refine quiet_move targets state i _ _ isPhase inside rfl (by decide) rfl rfl nofun fun uncancelled => ?_
              have kept := accounts.uncancelled uncancelled i
              rw [isPhase] at kept
              cases kept
          | _ =>
              rw [isPhase] at moved
              cases moved
  | finish =>
      rw [step] at moved
      by_cases ready : (∀ i < targets.length, (state.phase i).seen) ∧ state.finished = false
      · rw [if_pos ready] at moved
        cases moved
        exact .inr (.inr ⟨ready.1, ready.2, rfl⟩)
      · rw [if_neg ready] at moved
        cases moved

theorem step_accounts (delaySec : ℚ) (state : BulkSync) (label : BulkSyncLabel) (next : BulkSync)
    (accounts : Accounts targets delaySec state) (moved : step targets state label = some next) :
    Accounts targets delaySec next := by
  obtain ⟨_, rfl⟩ | ⟨i, after, target⟩ | ⟨seen, unfinished, rfl⟩ :=
    step_cases targets delaySec state label next accounts moved
  · obtain ⟨order, reports⟩ := accounts.reports
    exact { accounts with reports := ⟨order, { reports with }⟩, uncancelled := nofun }
  · exact moved_accounts targets delaySec state next i after accounts target
  · obtain ⟨order, reports⟩ := accounts.reports
    refine { accounts with reports := ⟨order, { reports with events := ?_ }⟩, ended := fun _ => seen }
    have events := reports.events
    rw [unfinished, if_neg Bool.false_ne_true, List.append_nil] at events
    change state.events ++ [.ofEnd targets.length] = targetEvents targets state order ++ [.ofEnd targets.length]
    rw [events]

theorem run_accounts (delaySec : ℚ) (labels : List BulkSyncLabel) (final : BulkSync)
    (completed : run (step targets) (start delaySec) labels = some final) : Accounts targets delaySec final :=
  run_invariant (step targets) (Accounts targets delaySec) (step_accounts targets delaySec) labels _ final
    (start_accounts targets delaySec) completed

def stepsLeft (state : BulkSync) : ℕ :=
  (∑ i ∈ Finset.range targets.length, (state.phase i).rank) + if state.finished then 0 else 1

theorem steps_left_decrease (delaySec : ℚ) (state : BulkSync) (label : BulkSyncLabel) (next : BulkSync)
    (accounts : Accounts targets delaySec state) (moved : step targets state label = some next) :
    next.stepsLeft targets + label.advances.toNat ≤ state.stepsLeft targets := by
  have most : label.advances.toNat ≤ 1 := Bool.toNat_le _
  obtain ⟨rfl, rfl⟩ | ⟨i, after, target⟩ | ⟨_, unfinished, rfl⟩ :=
    step_cases targets delaySec state label next accounts moved
  · exact le_refl _
  · have less : ∑ j ∈ Finset.range targets.length, (next.phase j).rank <
        ∑ j ∈ Finset.range targets.length, (state.phase j).rank := by
      refine Finset.sum_lt_sum (fun j _ => ?_) ⟨i, Finset.mem_range.mpr target.inside, ?_⟩
      · rw [target.phase]
        by_cases same : j = i
        · subst same
          have isPhase : (state.move j after).phase j = after := Function.update_self ..
          rw [isPhase]
          exact target.advances.le
        · have kept : (state.move i after).phase j = state.phase j := Function.update_of_ne same ..
          rw [kept]
      · have isPhase : (state.move i after).phase i = after := Function.update_self ..
        rw [target.phase, isPhase]
        exact target.advances
    rw [stepsLeft, stepsLeft, target.finished]
    omega
  · rw [stepsLeft, stepsLeft, unfinished]
    simp only [if_true, Bool.false_eq_true, if_false]
    omega

theorem busy_enabled (state : BulkSync) (i : ℕ) (busy : (state.phase i).busy = true) :
    ∃ label, label.advances = true ∧ (step targets state label).isSome = true := by
  cases isPhase : state.phase i with
  | waiting =>
      refine ⟨.acquired i 0 (0 + state.limiter.remaining 0), rfl, ?_⟩
      rw [step, if_pos ⟨isPhase, le_refl _⟩]
      rfl
  | granted =>
      refine ⟨.dispatch i, rfl, ?_⟩
      rw [step, if_pos isPhase]
      split_ifs <;> rfl
  | dispatching =>
      refine ⟨.returned i none, rfl, ?_⟩
      rw [step, if_pos isPhase]
      rfl
  | _ =>
      rw [isPhase] at busy
      cases busy

theorem unfinished_enabled (state : BulkSync) (unfinished : state.finished = false) :
    ∃ label, label.advances = true ∧ (step targets state label).isSome = true := by
  by_cases all : ∀ i < targets.length, (state.phase i).seen
  · refine ⟨.finish, rfl, ?_⟩
    rw [step, if_pos ⟨all, unfinished⟩]
    rfl
  push Not at all
  obtain ⟨i, inside, unseen⟩ := all
  have isTarget : targets[i]? = some targets[i] := List.getElem?_eq_getElem inside
  cases isPhase : state.phase i with
  | queued =>
      by_cases room : (state.busyTargets targets).card < maxWorkers targets.length
      · refine ⟨.pickUp i, rfl, ?_⟩
        rw [step, if_pos ⟨inside, isPhase, room⟩]
        rfl
      · have some : 0 < maxWorkers targets.length := le_max_left 1 _
        obtain ⟨j, member⟩ := Finset.card_pos.mp (by omega : 0 < (state.busyTargets targets).card)
        exact busy_enabled targets state j (Finset.mem_filter.mp member).2
  | done result =>
      refine ⟨.completed i, rfl, ?_⟩
      rw [step, isPhase, isTarget]
      rfl
  | cancelled =>
      refine ⟨.completed i, rfl, ?_⟩
      rw [step, isPhase, isTarget]
      rfl
  | reported result =>
      rw [isPhase] at unseen
      exact absurd rfl unseen
  | skipped =>
      rw [isPhase] at unseen
      exact absurd rfl unseen
  | _ => exact busy_enabled targets state i (by rw [isPhase]; rfl)

end BulkSync

-- However the workers interleave and whenever the batch is cancelled: every
-- target reported is reported once, numbered in turn, and the batch ends with
-- its last event. No more workers run than there may, no command is dispatched
-- twice, grants lie a delay apart, and whatever was dispatched is reported by
-- the end, which is every target unless the batch is cancelled.
theorem bulk_sync_accounts (targets : List SyncTarget) (delaySec : ℚ) (labels : List BulkSyncLabel) (final : BulkSync)
    (completed : run (BulkSync.step targets) (.start delaySec) labels = some final) :
    (∃ order, BulkSync.Reports targets final order) ∧
      (final.busyTargets targets).card ≤ maxWorkers targets.length ∧
      final.dispatched.Nodup ∧
      (final.grants.Pairwise fun later earlier => earlier + max 0 delaySec ≤ later) ∧
      (final.finished = true → ∀ i < targets.length,
        (i ∈ final.dispatched → ∃ result, final.phase i = .reported result ∧ result ≠ cancelledResult) ∧
          (final.cancellationRequested = false → i ∈ final.dispatched)) := by
  have accounts := BulkSync.run_accounts targets delaySec labels final completed
  refine ⟨accounts.reports, accounts.workers, accounts.once, by rw [← accounts.delay]; exact accounts.spaced, ?_⟩
  intro ended i inside
  have seen := accounts.ended ended i inside
  have sent := accounts.sent i
  cases isPhase : final.phase i with
  | reported result =>
      rw [isPhase] at sent
      refine ⟨fun dispatched => ⟨result, rfl, of_decide_eq_true (sent.mp dispatched)⟩, fun uncancelled => sent.mpr ?_⟩
      have kept := accounts.uncancelled uncancelled i
      rw [isPhase] at kept
      simpa [TargetPhase.withdrawn, TargetPhase.sent] using kept
  | skipped =>
      rw [isPhase] at sent
      refine ⟨fun dispatched => absurd (sent.mp dispatched) Bool.false_ne_true, fun uncancelled => ?_⟩
      have kept := accounts.uncancelled uncancelled i
      rw [isPhase] at kept
      cases kept
  | _ =>
      rw [isPhase] at seen
      cases seen

def twoTargets : List SyncTarget :=
  [{ symbol := "BTCUSDT", interval := .oneMinute }, { symbol := "ETHUSDT", interval := .oneHour }]

def overtakingBatch : List BulkSyncLabel :=
  [.pickUp 0, .pickUp 1, .acquired 0 10 10, .dispatch 0, .acquired 1 10 (21 / 2), .dispatch 1,
    .returned 1 (some "Connection reset"), .completed 1, .returned 0 none, .completed 0, .finish]

theorem overtaking_batch_accounts :
    ∃ final, run (BulkSync.step twoTargets) (.start (1 / 2)) overtakingBatch = some final ∧
      final.dispatched.Nodup ∧ final.grants.Pairwise fun later earlier => earlier + max 0 (1 / 2) ≤ later := by
  have completes : (run (BulkSync.step twoTargets) (.start (1 / 2)) overtakingBatch).isSome = true := by decide +kernel
  obtain ⟨final, completed⟩ := Option.isSome_iff_exists.mp completes
  obtain ⟨_, _, once, spaced, _⟩ := bulk_sync_accounts twoTargets (1 / 2) overtakingBatch final completed
  exact ⟨final, completed, once, spaced⟩

-- A batch never stalls before its last event, and takes a bounded number of
-- steps whatever the order they come in.
theorem bulk_sync_ends (targets : List SyncTarget) (delaySec : ℚ) (labels : List BulkSyncLabel) (state : BulkSync)
    (completed : run (BulkSync.step targets) (.start delaySec) labels = some state) :
    (state.finished = false → ∃ label, label.advances = true ∧ (BulkSync.step targets state label).isSome = true) ∧
      (labels.map fun label => label.advances.toNat).sum ≤ 5 * targets.length + 1 := by
  refine ⟨BulkSync.unfinished_enabled targets state, ?_⟩
  have bounded := run_bounded (BulkSync.step targets) (BulkSync.Accounts targets delaySec)
    (fun label => label.advances.toNat) (BulkSync.stepsLeft targets) (BulkSync.step_accounts targets delaySec)
    (BulkSync.steps_left_decrease targets delaySec) labels _ state (BulkSync.start_accounts targets delaySec) completed
  have started : (BulkSync.start delaySec).stepsLeft targets = 5 * targets.length + 1 := by
    simp [BulkSync.stepsLeft, BulkSync.start, TargetPhase.rank, Nat.mul_comm]
  omega

theorem overtaking_batch_ends : (overtakingBatch.map fun label => label.advances.toNat).sum ≤ 5 * 2 + 1 := by
  have completes : (run (BulkSync.step twoTargets) (.start (1 / 2)) overtakingBatch).isSome = true := by decide +kernel
  obtain ⟨final, completed⟩ := Option.isSome_iff_exists.mp completes
  exact (bulk_sync_ends twoTargets (1 / 2) overtakingBatch final completed).2

end Sagittarius
