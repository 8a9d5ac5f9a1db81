import Mathlib.Data.List.Basic
import Mathlib.Data.List.Induction

set_option autoImplicit false

-- A stream processor takes one input at a time, may fail in a monad and emits
-- at most one output for it.
namespace Streaming

variable {m : Type → Type} [Monad m] {σ ι κ ο : Type}

def feed (step : σ → ι → m (Option ο × σ)) : σ → List ι → m (List ο × σ)
  | state, [] => pure ([], state)
  | state, input :: rest => do
      let (emitted, next) ← step state input
      let (outputs, final) ← feed step next rest
      pure (emitted.toList ++ outputs, final)

@[simp] theorem feed_nil (step : σ → ι → m (Option ο × σ)) (state : σ) :
    feed step state [] = pure ([], state) := rfl

theorem feed_cons (step : σ → ι → m (Option ο × σ)) (state : σ) (input : ι) (rest : List ι) :
    feed step state (input :: rest) = (do
      let (emitted, next) ← step state input
      let (outputs, final) ← feed step next rest
      pure (emitted.toList ++ outputs, final)) := rfl

def observations {ρ : Type} (observe : List ι → ι → Option ρ) : List ι → List ι → List ρ
  | _, [] => []
  | earlier, input :: rest => (observe earlier input).toList ++ observations observe (earlier ++ [input]) rest

theorem observations_append {ρ : Type} (observe : List ι → ι → Option ρ) (earlier inputs : List ι) (input : ι) :
    observations observe earlier (inputs ++ [input]) =
      observations observe earlier inputs ++ (observe (earlier ++ inputs) input).toList := by
  induction inputs generalizing earlier with
  | nil => simp [observations]
  | cons first rest ih => simp [observations, ih]

theorem observations_length {ρ : Type} (observe : List ι → ι → Option ρ) (earlier inputs : List ι) :
    (observations observe earlier inputs).length ≤ inputs.length := by
  induction inputs generalizing earlier with
  | nil => exact Nat.le_refl 0
  | cons input rest ih =>
      have later := ih (earlier ++ [input])
      have one : (observe earlier input).toList.length ≤ 1 := by
        cases observe earlier input with
        | none => exact Nat.zero_le 1
        | some seen => exact Nat.le_refl 1
      rw [observations, List.length_append, List.length_cons]
      omega

section Fold

variable {ε : Type} (step : σ → ι → Except ε σ)

theorem fold_cons (state final : σ) (input : ι) (rest : List ι) :
    (input :: rest).foldlM step state = .ok final ↔
      ∃ next, step state input = .ok next ∧ rest.foldlM step next = .ok final := by
  rw [List.foldlM_cons]
  cases step state input with
  | error raised => simp [bind, Except.bind]
  | ok next => simp [bind, Except.bind]

theorem fold_append (state final : σ) (first second : List ι) :
    (first ++ second).foldlM step state = .ok final ↔
      ∃ middle, first.foldlM step state = .ok middle ∧ second.foldlM step middle = .ok final := by
  rw [List.foldlM_append]
  cases first.foldlM step state with
  | error raised => simp [bind, Except.bind]
  | ok middle => simp [bind, Except.bind]

theorem fold_snoc (state final : σ) (inputs : List ι) (input : ι) :
    (inputs ++ [input]).foldlM step state = .ok final ↔
      ∃ middle, inputs.foldlM step state = .ok middle ∧ step middle input = .ok final := by
  rw [fold_append]
  simp only [List.foldlM_cons, List.foldlM_nil, bind_pure]

theorem fold_split (state final : σ) (inputs : List ι) (folded : inputs.foldlM step state = .ok final) (n : ℕ) :
    ∃ middle, (inputs.take n).foldlM step state = .ok middle ∧ (inputs.drop n).foldlM step middle = .ok final := by
  rw [← fold_append, List.take_append_drop]
  exact folded

theorem fold_invariant (Inv : List ι → σ → Prop)
    (preserved : ∀ done state input next, Inv done state → step state input = .ok next → Inv (done ++ [input]) next)
    (state final : σ) (inputs : List ι) (holds : Inv [] state) (folded : inputs.foldlM step state = .ok final) :
    Inv inputs final := by
  induction inputs using List.reverseRecOn generalizing final with
  | nil =>
      cases folded
      exact holds
  | append_singleton done input ih =>
      obtain ⟨middle, earlier, stepped⟩ := (fold_snoc step state final done input).mp folded
      exact preserved done middle input final (ih middle earlier) stepped

theorem fold_needs (Needed : σ → Prop)
    (needs : ∀ state input next, step state input = .ok next → Needed next → Needed state) (state final : σ)
    (inputs : List ι) (folded : inputs.foldlM step state = .ok final) (reached : Needed final) : Needed state := by
  induction inputs generalizing state with
  | nil =>
      cases folded
      exact reached
  | cons input rest ih =>
      obtain ⟨next, stepped, continued⟩ := (fold_cons step state final input rest).mp folded
      exact needs state input next stepped (ih next continued)

theorem fold_returns (Inv : σ → Prop)
    (returns : ∀ state input, Inv state → ∃ next, step state input = .ok next ∧ Inv next) (state : σ)
    (inputs : List ι) (holds : Inv state) : ∃ final, inputs.foldlM step state = .ok final ∧ Inv final := by
  induction inputs generalizing state with
  | nil => exact ⟨state, rfl, holds⟩
  | cons input rest ih =>
      obtain ⟨next, stepped, nextHolds⟩ := returns state input holds
      obtain ⟨final, folded, finalHolds⟩ := ih next nextHolds
      exact ⟨final, (fold_cons step state final input rest).mpr ⟨next, stepped, folded⟩, finalHolds⟩

end Fold

variable [LawfulMonad m]

-- An outer processor that ignores the inputs outside `relevant`, and on the
-- others is the inner one seen through `lift`, computes on a stream what the
-- inner one computes on the relevant part of it.
theorem feed_filter {τ : Type} (outer : τ → ι → m (Option ο × τ)) (inner : σ → ι → m (Option ο × σ))
    (lift : σ → τ) (relevant : ι → Bool) (Admitted : ι → Prop)
    (ignores : ∀ state input, Admitted input → relevant input = false → outer (lift state) input = pure (none, lift state))
    (follows : ∀ state input, Admitted input → relevant input = true →
      outer (lift state) input = (fun result => (result.1, lift result.2)) <$> inner state input)
    (state : σ) (inputs : List ι) (admitted : ∀ input ∈ inputs, Admitted input) :
    feed outer (lift state) inputs =
      (fun result => (result.1, lift result.2)) <$> feed inner state (inputs.filter relevant) := by
  induction inputs generalizing state with
  | nil => simp
  | cons input rest ih =>
      have here : Admitted input := admitted input (by simp)
      have later : ∀ other ∈ rest, Admitted other := fun other member => admitted other (by simp [member])
      cases kept : relevant input with
      | false =>
          rw [List.filter_cons_of_neg (by simp [kept]), feed_cons, ignores state input here kept]
          simp [ih state later]
      | true =>
          rw [List.filter_cons_of_pos kept, feed_cons, feed_cons, follows state input here kept]
          simp only [map_eq_pure_bind, bind_assoc, pure_bind]
          congr 1
          funext result
          simp [ih result.2 later]

end Streaming
