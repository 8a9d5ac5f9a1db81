import Mathlib.Algebra.BigOperators.Group.List.Basic
import Mathlib.Algebra.GroupWithZero.Nat

set_option autoImplicit false

-- A system of interleaved parties is a partial step function: a label names
-- the party that moves together with what the environment answers it, so a
-- schedule is a list of labels and a label that is not enabled has no step.
namespace Interleaving

variable {σ ℓ : Type}

def run (step : σ → ℓ → Option σ) : σ → List ℓ → Option σ
  | state, [] => some state
  | state, label :: rest => (step state label).bind fun next => run step next rest

theorem run_cons_some (step : σ → ℓ → Option σ) (state final : σ) (label : ℓ) (rest : List ℓ)
    (completed : run step state (label :: rest) = some final) :
    ∃ next, step state label = some next ∧ run step next rest = some final :=
  Option.bind_eq_some_iff.mp completed

-- The condition a schedule meets when each of its steps does, in the state
-- that step is taken from.
def StepsMeet (step : σ → ℓ → Option σ) (condition : σ → ℓ → Prop) : σ → List ℓ → Prop
  | _, [] => True
  | state, label :: rest =>
      condition state label ∧ ∀ next, step state label = some next → StepsMeet step condition next rest

instance decidableStepsMeet (step : σ → ℓ → Option σ) (condition : σ → ℓ → Prop)
    [∀ state label, Decidable (condition state label)] :
    (state : σ) → (labels : List ℓ) → Decidable (StepsMeet step condition state labels)
  | _, [] => .isTrue trivial
  | state, label :: rest =>
      match moved : step state label with
      | none => decidable_of_iff (condition state label) ⟨fun met => ⟨met, by simp [moved]⟩, And.left⟩
      | some next =>
          have := decidableStepsMeet step condition next rest
          decidable_of_iff (condition state label ∧ StepsMeet step condition next rest)
            (by simp [StepsMeet, moved])

theorem run_invariant_meeting (step : σ → ℓ → Option σ) (condition : σ → ℓ → Prop) (Inv : σ → Prop)
    (preserved : ∀ state label next, Inv state → condition state label → step state label = some next → Inv next)
    (labels : List ℓ) (state final : σ) (holds : Inv state) (meets : StepsMeet step condition state labels)
    (completed : run step state labels = some final) : Inv final := by
  induction labels generalizing state with
  | nil =>
      cases completed
      exact holds
  | cons label rest ih =>
      obtain ⟨next, moved, continued⟩ := run_cons_some step state final label rest completed
      exact ih next (preserved state label next holds meets.1 moved) (meets.2 next moved) continued

theorem steps_meet_of_labels (step : σ → ℓ → Option σ) (allowed : ℓ → Prop) (labels : List ℓ) (state : σ)
    (all : ∀ label ∈ labels, allowed label) : StepsMeet step (fun _ label => allowed label) state labels := by
  induction labels generalizing state with
  | nil => trivial
  | cons label rest ih =>
      exact ⟨all label (by simp), fun next _ => ih next fun other member => all other (by simp [member])⟩

theorem steps_meet_congr_ahead (step : σ → ℓ → Option σ) (first second : σ → ℓ → Prop) (Inv : σ → List ℓ → Prop)
    (same : ∀ state label rest, Inv state (label :: rest) → (first state label ↔ second state label))
    (preserved : ∀ state label rest next, Inv state (label :: rest) → step state label = some next → Inv next rest)
    (labels : List ℓ) (state : σ) (holds : Inv state labels) :
    StepsMeet step first state labels ↔ StepsMeet step second state labels := by
  induction labels generalizing state with
  | nil => rfl
  | cons label rest ih =>
      refine and_congr (same state label rest holds) (forall_congr' fun next => ?_)
      exact imp_congr_right fun moved => ih next (preserved state label rest next holds moved)

theorem steps_meet_congr (step : σ → ℓ → Option σ) (first second : σ → ℓ → Prop) (Inv : σ → Prop)
    (same : ∀ state label, Inv state → (first state label ↔ second state label))
    (preserved : ∀ state label next, Inv state → step state label = some next → Inv next)
    (labels : List ℓ) (state : σ) (holds : Inv state) :
    StepsMeet step first state labels ↔ StepsMeet step second state labels :=
  steps_meet_congr_ahead step first second (fun state _ => Inv state) (fun state label _ inv => same state label inv)
    (fun state label _ next inv moved => preserved state label next inv moved) labels state holds

theorem steps_meet_last (step : σ → ℓ → Option σ) (condition : σ → ℓ → Prop) (labels : List ℓ) (last : ℓ)
    (state final : σ) (meets : StepsMeet step condition state (labels ++ [last]))
    (completed : run step state labels = some final) : condition final last := by
  induction labels generalizing state with
  | nil =>
      cases completed
      exact meets.1
  | cons label rest ih =>
      obtain ⟨next, moved, continued⟩ := run_cons_some step state final label rest completed
      exact ih next (meets.2 next moved) continued

theorem steps_meet_front (step : σ → ℓ → Option σ) (condition : σ → ℓ → Prop) (front rest : List ℓ) (state : σ)
    (meets : StepsMeet step condition state (front ++ rest)) : StepsMeet step condition state front := by
  induction front generalizing state with
  | nil => trivial
  | cons label front ih => exact ⟨meets.1, fun next moved => ih next (meets.2 next moved)⟩

theorem steps_meet_rest (step : σ → ℓ → Option σ) (condition : σ → ℓ → Prop) (front rest : List ℓ) (state middle : σ)
    (meets : StepsMeet step condition state (front ++ rest)) (completed : run step state front = some middle) :
    StepsMeet step condition middle rest := by
  induction front generalizing state with
  | nil =>
      cases completed
      exact meets
  | cons label front ih =>
      obtain ⟨next, moved, continued⟩ := run_cons_some step state middle label front completed
      exact ih next (meets.2 next moved) continued

theorem steps_meet_iff_cut (step : σ → ℓ → Option σ) (condition : σ → ℓ → Prop) (labels : List ℓ) (state : σ) :
    StepsMeet step condition state labels ↔
      ∀ front label rest middle, labels = front ++ label :: rest → run step state front = some middle →
        condition middle label := by
  induction labels generalizing state with
  | nil => exact iff_of_true trivial fun front label rest middle cut => by simp at cut
  | cons first labels ih =>
      constructor
      · rintro ⟨met, later⟩ front label rest middle cut reached
        cases front with
        | nil =>
            cases cut
            cases reached
            exact met
        | cons head front =>
            cases cut
            obtain ⟨next, moved, continued⟩ := run_cons_some step state middle first front reached
            exact (ih next).mp (later next moved) front label rest middle rfl continued
      · intro all
        refine ⟨all [] first labels state rfl rfl, fun next moved => (ih next).mpr ?_⟩
        intro front label rest middle cut reached
        refine all (first :: front) label rest middle (by rw [cut]; rfl) ?_
        rw [run, moved]
        exact reached

theorem steps_meet_of_invariant (step : σ → ℓ → Option σ) (condition property : σ → ℓ → Prop) (Inv : σ → Prop)
    (entails : ∀ state label, Inv state → condition state label → property state label)
    (preserved : ∀ state label next, Inv state → condition state label → step state label = some next → Inv next)
    (labels : List ℓ) (state : σ) (holds : Inv state) (meets : StepsMeet step condition state labels) :
    StepsMeet step property state labels := by
  induction labels generalizing state with
  | nil => trivial
  | cons label rest ih =>
      refine ⟨entails state label holds meets.1, fun next moved => ?_⟩
      exact ih next (preserved state label next holds meets.1 moved) (meets.2 next moved)

theorem run_invariant_on (step : σ → ℓ → Option σ) (allowed : ℓ → Prop) (Inv : σ → Prop)
    (preserved : ∀ state label next, Inv state → allowed label → step state label = some next → Inv next)
    (labels : List ℓ) (state final : σ) (holds : Inv state) (all : ∀ label ∈ labels, allowed label)
    (completed : run step state labels = some final) : Inv final :=
  run_invariant_meeting step (fun _ label => allowed label) Inv preserved labels state final holds
    (steps_meet_of_labels step allowed labels state all) completed

theorem run_invariant (step : σ → ℓ → Option σ) (Inv : σ → Prop)
    (preserved : ∀ state label next, Inv state → step state label = some next → Inv next)
    (labels : List ℓ) (state final : σ) (holds : Inv state)
    (completed : run step state labels = some final) : Inv final :=
  run_invariant_on step (fun _ => True) Inv (fun state label next inv _ moved => preserved state label next inv moved)
    labels state final holds (fun _ _ => trivial) completed

-- A property that a step keeps exactly when it meets the condition holds at
-- the end of exactly the runs that meet it throughout.
theorem run_meets_iff (step : σ → ℓ → Option σ) (condition : σ → ℓ → Prop) (Inv Good : σ → Prop)
    (preserved : ∀ state label next, Inv state → step state label = some next → Inv next)
    (kept : ∀ state label next, Inv state → step state label = some next →
      (Good next ↔ Good state ∧ condition state label))
    (labels : List ℓ) (state final : σ) (holds : Inv state) (completed : run step state labels = some final) :
    Good final ↔ Good state ∧ StepsMeet step condition state labels := by
  induction labels generalizing state with
  | nil =>
      cases completed
      simp [StepsMeet]
  | cons label rest ih =>
      obtain ⟨next, moved, continued⟩ := run_cons_some step state final label rest completed
      rw [ih next (preserved state label next holds moved) continued, kept state label next holds moved, and_assoc]
      simp only [StepsMeet, moved, Option.some.injEq, forall_eq']

def Throughout (step : σ → ℓ → Option σ) (Good : σ → Prop) : σ → List ℓ → Prop
  | state, [] => Good state
  | state, label :: rest => Good state ∧ ∀ next, step state label = some next → Throughout step Good next rest

theorem throughout_start (step : σ → ℓ → Option σ) (Good : σ → Prop) (state : σ) (labels : List ℓ)
    (all : Throughout step Good state labels) : Good state := by
  cases labels with
  | nil => exact all
  | cons label rest => exact all.1

theorem throughout_end (step : σ → ℓ → Option σ) (Good : σ → Prop) (labels : List ℓ) (state final : σ)
    (all : Throughout step Good state labels) (completed : run step state labels = some final) : Good final := by
  induction labels generalizing state with
  | nil =>
      cases completed
      exact all
  | cons label rest ih =>
      obtain ⟨next, moved, continued⟩ := run_cons_some step state final label rest completed
      exact ih next (all.2 next moved) continued

-- Where a step from a good state leads to a good one exactly when it meets the
-- condition, exactly the runs that meet it throughout are good throughout.
theorem run_throughout_iff (step : σ → ℓ → Option σ) (condition : σ → ℓ → Prop) (Inv Good : σ → Prop)
    (preserved : ∀ state label next, Inv state → step state label = some next → Inv next)
    (kept : ∀ state label next, Inv state → Good state → step state label = some next →
      (Good next ↔ condition state label))
    (labels : List ℓ) (state final : σ) (holds : Inv state) (good : Good state)
    (completed : run step state labels = some final) :
    Throughout step Good state labels ↔ StepsMeet step condition state labels := by
  induction labels generalizing state with
  | nil => exact iff_of_true good trivial
  | cons label rest ih =>
      obtain ⟨next, moved, continued⟩ := run_cons_some step state final label rest completed
      have here := kept state label next holds good moved
      have later := fun goodNext => ih next (preserved state label next holds moved) goodNext continued
      simp only [Throughout, StepsMeet, moved, Option.some.injEq, forall_eq']
      constructor
      · rintro ⟨_, all⟩
        have goodNext := throughout_start step Good next rest all
        exact ⟨here.mp goodNext, (later goodNext).mp all⟩
      · rintro ⟨met, all⟩
        exact ⟨good, (later (here.mpr met)).mpr all⟩

-- Whether every step since the last reset met the condition, given whether
-- all did until the schedule starts.
def MetSince (step : σ → ℓ → Option σ) (resets condition : σ → ℓ → Prop) : Prop → σ → List ℓ → Prop
  | met, _, [] => met
  | met, state, label :: rest =>
      ∀ next, step state label = some next →
        MetSince step resets condition (resets state label ∨ met ∧ condition state label) next rest

theorem run_met_since_iff (step : σ → ℓ → Option σ) (resets condition : σ → ℓ → Prop) (Inv Good : σ → Prop)
    (preserved : ∀ state label next, Inv state → step state label = some next → Inv next)
    (kept : ∀ state label next, Inv state → step state label = some next →
      (Good next ↔ resets state label ∨ Good state ∧ condition state label))
    (labels : List ℓ) (state final : σ) (holds : Inv state) (completed : run step state labels = some final) :
    Good final ↔ MetSince step resets condition (Good state) state labels := by
  induction labels generalizing state with
  | nil =>
      cases completed
      rfl
  | cons label rest ih =>
      obtain ⟨next, moved, continued⟩ := run_cons_some step state final label rest completed
      have same : Good next = (resets state label ∨ Good state ∧ condition state label) :=
        propext (kept state label next holds moved)
      rw [ih next (preserved state label next holds moved) continued, same]
      simp only [MetSince, moved, Option.some.injEq, forall_eq']

-- What a watcher of the run logs, newest first. It sees each step taken, in
-- the state the step is taken from.
def watched {ε : Type} (step : σ → ℓ → Option σ) (watch : σ → ℓ → Option ε) : σ → List ℓ → List ε → List ε
  | _, [], log => log
  | state, label :: rest, log =>
      (step state label).elim log fun next => watched step watch next rest ((watch state label).toList ++ log)

theorem run_watched_invariant_meeting {ε : Type} (step : σ → ℓ → Option σ) (watch : σ → ℓ → Option ε)
    (condition : σ → ℓ → Prop) (Inv : σ → List ε → Prop)
    (preserved : ∀ state label next log, Inv state log → condition state label → step state label = some next →
      Inv next ((watch state label).toList ++ log))
    (labels : List ℓ) (state final : σ) (log : List ε) (holds : Inv state log)
    (meets : StepsMeet step condition state labels) (completed : run step state labels = some final) :
    Inv final (watched step watch state labels log) := by
  induction labels generalizing state log with
  | nil =>
      cases completed
      exact holds
  | cons label rest ih =>
      obtain ⟨next, moved, continued⟩ := run_cons_some step state final label rest completed
      rw [watched, moved]
      exact ih next _ (preserved state label next log holds meets.1 moved) (meets.2 next moved) continued

theorem run_watched_invariant {ε : Type} (step : σ → ℓ → Option σ) (watch : σ → ℓ → Option ε) (Inv : σ → List ε → Prop)
    (preserved : ∀ state label next log, Inv state log → step state label = some next →
      Inv next ((watch state label).toList ++ log))
    (labels : List ℓ) (state final : σ) (log : List ε) (holds : Inv state log)
    (completed : run step state labels = some final) : Inv final (watched step watch state labels log) :=
  run_watched_invariant_meeting step watch (fun _ _ => True) Inv
    (fun state label next log inv _ moved => preserved state label next log inv moved) labels state final log holds
    (steps_meet_of_labels step (fun _ => True) labels state fun _ _ => trivial) completed

def lastWrite {β : Type} (writes : ℓ → Option β) (initial : β) : List ℓ → β
  | [] => initial
  | label :: rest => lastWrite writes ((writes label).getD initial) rest

theorem run_last_write {β : Type} (step : σ → ℓ → Option σ) (writes : ℓ → Option β) (field : σ → β)
    (written : ∀ state label next, step state label = some next → field next = (writes label).getD (field state))
    (labels : List ℓ) (state final : σ) (completed : run step state labels = some final) :
    field final = lastWrite writes (field state) labels := by
  induction labels generalizing state with
  | nil =>
      cases completed
      rfl
  | cons label rest ih =>
      obtain ⟨next, moved, continued⟩ := run_cons_some step state final label rest completed
      rw [ih next continued, written state label next moved]
      rfl

theorem run_count (step : σ → ℓ → Option σ) (weight : ℓ → ℕ) (counter : σ → ℕ)
    (counted : ∀ state label next, step state label = some next → counter next = counter state + weight label)
    (labels : List ℓ) (state final : σ) (completed : run step state labels = some final) :
    counter final = counter state + (labels.map weight).sum := by
  induction labels generalizing state with
  | nil =>
      cases completed
      rfl
  | cons label rest ih =>
      obtain ⟨next, moved, continued⟩ := run_cons_some step state final label rest completed
      rw [ih next continued, counted state label next moved, List.map_cons, List.sum_cons, Nat.add_assoc]

theorem run_at_most (step : σ → ℓ → Option σ) (Inv : σ → Prop) (weight : ℓ → ℕ) (counter : σ → ℕ)
    (preserved : ∀ state label next, Inv state → step state label = some next → Inv next)
    (counted : ∀ state label next, Inv state → step state label = some next →
      counter next ≤ counter state + weight label)
    (labels : List ℓ) (state final : σ) (holds : Inv state) (completed : run step state labels = some final) :
    counter final ≤ counter state + (labels.map weight).sum := by
  induction labels generalizing state with
  | nil =>
      cases completed
      exact Nat.le_add_right _ _
  | cons label rest ih =>
      obtain ⟨next, moved, continued⟩ := run_cons_some step state final label rest completed
      have later := ih next (preserved state label next holds moved) continued
      have here := counted state label next holds moved
      rw [List.map_cons, List.sum_cons]
      omega

theorem run_bounded (step : σ → ℓ → Option σ) (Inv : σ → Prop) (weight : ℓ → ℕ) (potential : σ → ℕ)
    (preserved : ∀ state label next, Inv state → step state label = some next → Inv next)
    (spent : ∀ state label next, Inv state → step state label = some next →
      potential next + weight label ≤ potential state)
    (labels : List ℓ) (state final : σ) (holds : Inv state) (completed : run step state labels = some final) :
    potential final + (labels.map weight).sum ≤ potential state := by
  induction labels generalizing state with
  | nil =>
      cases completed
      simp
  | cons label rest ih =>
      obtain ⟨next, moved, continued⟩ := run_cons_some step state final label rest completed
      have later := ih next (preserved state label next holds moved) continued
      have here := spent state label next holds moved
      rw [List.map_cons, List.sum_cons]
      omega

end Interleaving
