import Mathlib.Data.List.Forall2

set_option autoImplicit false

-- A loop over items that ends at the first one that fails.
namespace Attempts

variable {ι : Type}

theorem comprehension_each {ε ρ : Type} (f : ι → Except ε ρ) (items : List ι) (results : List ρ)
    (completed : items.mapM f = .ok results) : List.Forall₂ (fun item result => f item = .ok result) items results := by
  induction items generalizing results with
  | nil =>
      cases completed
      exact .nil
  | cons first rest ih =>
      rw [List.mapM_cons] at completed
      cases head : f first with
      | error error =>
          rw [head] at completed
          cases completed
      | ok result =>
          rw [head] at completed
          cases tail : rest.mapM f with
          | error error =>
              rw [tail] at completed
              cases completed
          | ok later =>
              rw [tail] at completed
              cases completed
              exact .cons head (ih later tail)

def forEach {σ ε : Type} (body : σ → ι → σ × Option ε) : σ → List ι → σ × Option ε
  | state, [] => (state, none)
  | state, item :: rest =>
      match (body state item).2 with
      | some raised => ((body state item).1, some raised)
      | none => forEach body (body state item).1 rest

section

variable {σ τ ε : Type} (body : σ → ι → σ × Option ε)

theorem for_each_cons_ok (state : σ) (item : ι) (rest : List ι) (returned : (body state item).2 = none) :
    forEach body state (item :: rest) = forEach body (body state item).1 rest := by
  rw [forEach, returned]

theorem for_each_cons_raised (state : σ) (item : ι) (rest : List ι) (raised : ε) (raises : (body state item).2 = some raised) :
    forEach body state (item :: rest) = ((body state item).1, some raised) := by
  rw [forEach, raises]

theorem for_each_cons_stopped (state : σ) (item : ι) (rest : List ι) (raised : ε) (raises : (body state item).2 = some raised) :
    (forEach body state (item :: rest)).1 = (body state item).1 ∧ (forEach body state (item :: rest)).2 = some raised := by
  rw [for_each_cons_raised body state item rest raised raises]
  exact ⟨rfl, rfl⟩

theorem for_each_cons_returned (state : σ) (item : ι) (rest : List ι)
    (completed : (forEach body state (item :: rest)).2 = none) : (body state item).2 = none := by
  cases raises : (body state item).2 with
  | none => rfl
  | some raised =>
      rw [for_each_cons_raised body state item rest raised raises] at completed
      cases completed

theorem for_each_invariant (Inv : σ → Prop) (items : List ι) (state : σ) (holds : Inv state)
    (preserved : ∀ state, ∀ item ∈ items, Inv state → Inv (body state item).1) : Inv (forEach body state items).1 := by
  induction items generalizing state with
  | nil => exact holds
  | cons item rest ih =>
      have after := preserved state item (by simp) holds
      cases raises : (body state item).2 with
      | none =>
          rw [for_each_cons_ok body state item rest raises]
          exact ih _ after fun state other later => preserved state other (by simp [later])
      | some raised =>
          rw [for_each_cons_raised body state item rest raised raises]
          exact after

theorem for_each_related (other : τ → ι → τ × Option ε) (Related : σ → τ → Prop)
    (preserved : ∀ first second item, Related first second →
      Related (body first item).1 (other second item).1 ∧ (body first item).2 = (other second item).2)
    (items : List ι) (first : σ) (second : τ) (related : Related first second) :
    Related (forEach body first items).1 (forEach other second items).1 ∧
      (forEach body first items).2 = (forEach other second items).2 := by
  induction items generalizing first second with
  | nil => exact ⟨related, rfl⟩
  | cons item rest ih =>
      obtain ⟨after, same⟩ := preserved first second item related
      cases raises : (body first item).2 with
      | none =>
          rw [for_each_cons_ok body first item rest raises, for_each_cons_ok other second item rest (same ▸ raises)]
          exact ih _ _ after
      | some raised =>
          rw [for_each_cons_raised body first item rest raised raises,
            for_each_cons_raised other second item rest raised (same ▸ raises)]
          exact ⟨after, rfl⟩

theorem for_each_raised (items : List ι) (state : σ) (raised : ε) (ended : (forEach body state items).2 = some raised) :
    ∃ item ∈ items, ∃ before, (body before item).2 = some raised := by
  induction items generalizing state with
  | nil => cases ended
  | cons item rest ih =>
      cases raises : (body state item).2 with
      | none =>
          rw [for_each_cons_ok body state item rest raises] at ended
          obtain ⟨later, listed, before, raisesLater⟩ := ih _ ended
          exact ⟨later, List.mem_cons_of_mem _ listed, before, raisesLater⟩
      | some error =>
          rw [for_each_cons_raised body state item rest error raises] at ended
          exact ⟨item, List.mem_cons_self, state, raises.trans ended⟩

theorem for_each_established (Done : ι → σ → Prop)
    (established : ∀ state item, (body state item).2 = none → Done item (body state item).1)
    (preserved : ∀ state item earlier, Done earlier state → Done earlier (body state item).1)
    (items : List ι) (state : σ) (completed : (forEach body state items).2 = none) :
    ∀ item ∈ items, Done item (forEach body state items).1 := by
  induction items generalizing state with
  | nil => simp
  | cons item rest ih =>
      have returned := for_each_cons_returned body state item rest completed
      rw [for_each_cons_ok body state item rest returned] at completed ⊢
      refine List.forall_mem_cons.mpr ⟨?_, ih _ completed⟩
      exact for_each_invariant body (Done item) rest _ (established state item returned)
        fun state other _ => preserved state other item

section

variable {κ ν : Type} (key : ι → κ) (view : σ → κ → ν)
  (apart : ∀ state item other, other ≠ key item → view (body state item).1 other = view state other)

include apart

theorem for_each_elsewhere (items : List ι) (state : σ) (other : κ) (absent : other ∉ items.map key) :
    view (forEach body state items).1 other = view state other := by
  refine for_each_invariant body (fun after => view after other = view state other) items state rfl ?_
  intro after item listed same
  exact (apart after item other fun isKey => absent (isKey ▸ List.mem_map_of_mem listed)).trans same

theorem for_each_at (items : List ι) (distinct : (items.map key).Nodup) (state : σ) (item : ι) (listed : item ∈ items) :
    (view (forEach body state items).1 (key item) = view state (key item) ∧ (forEach body state items).2 ≠ none ∧
        ∃ other ∈ items, key other ≠ key item ∧ ∃ before, (body before other).2 ≠ none) ∨
      ∃ before, view before (key item) = view state (key item) ∧
        view (forEach body state items).1 (key item) = view (body before item).1 (key item) ∧
        ((forEach body state items).2 = none → (body before item).2 = none) := by
  induction items generalizing state with
  | nil => cases listed
  | cons first rest ih =>
      obtain ⟨fresh, later⟩ := List.nodup_cons.mp distinct
      rcases List.mem_cons.mp listed with rfl | inRest
      · refine .inr ⟨state, rfl, ?_, for_each_cons_returned body state item rest⟩
        cases raises : (body state item).2 with
        | none =>
            rw [for_each_cons_ok body state item rest raises]
            exact for_each_elsewhere body key view apart rest _ _ fresh
        | some raised => rw [for_each_cons_raised body state item rest raised raises]
      · have other : key item ≠ key first := fun same => fresh (same ▸ List.mem_map_of_mem inRest)
        have before := apart state first (key item) other
        cases raises : (body state first).2 with
        | none =>
            rw [for_each_cons_ok body state first rest raises, ← before]
            rcases ih later _ inRest with ⟨same, ended, raiser, isRaiser, isOther, raised⟩ | reached
            · exact .inl ⟨same, ended, raiser, List.mem_cons_of_mem _ isRaiser, isOther, raised⟩
            · exact .inr reached
        | some raised =>
            rw [for_each_cons_raised body state first rest raised raises]
            refine .inl ⟨before, Option.some_ne_none raised, first, List.mem_cons_self, other.symm, state, ?_⟩
            rw [raises]
            exact Option.some_ne_none raised

end

end

variable (succeeds : ι → Bool)

def untilFailure : List ι → List ι
  | [] => []
  | item :: rest => item :: if succeeds item then untilFailure rest else []

theorem until_failure_initial (items : List ι) : untilFailure succeeds items <+: items := by
  induction items with
  | nil => exact List.prefix_rfl
  | cons first rest ih =>
      rw [untilFailure]
      split_ifs
      · exact (List.prefix_cons_inj first).mpr ih
      · exact (List.prefix_cons_inj first).mpr (List.nil_prefix)

theorem until_failure_all_iff (items : List ι) :
    untilFailure succeeds items = items ↔ ∀ item ∈ items.dropLast, succeeds item = true := by
  induction items with
  | nil => simp [untilFailure]
  | cons first rest ih =>
      cases rest with
      | nil => simp [untilFailure]
      | cons second rest =>
          rw [untilFailure, List.dropLast_cons_of_ne_nil (List.cons_ne_nil _ _), List.forall_mem_cons, ← ih]
          cases good : succeeds first with
          | true => simp
          | false => simp

theorem until_failure_map_iff {ρ : Type} (f : ι → ρ) (items : List ι) :
    (untilFailure succeeds items).map f = items.map f ↔ ∀ item ∈ items.dropLast, succeeds item = true := by
  rw [← until_failure_all_iff]
  refine ⟨fun same => ?_, congrArg (List.map f)⟩
  exact (until_failure_initial succeeds items).eq_of_length (by simpa using congrArg List.length same)

theorem until_failure_reaches_iff (items : List ι) (distinct : items.Nodup) :
    (∀ item ∈ items, item ∈ untilFailure succeeds items) ↔ ∀ item ∈ items.dropLast, succeeds item = true := by
  rw [← until_failure_all_iff]
  constructor
  · intro reached
    induction items with
    | nil => rfl
    | cons first rest ih =>
        obtain ⟨fresh, later⟩ := List.nodup_cons.mp distinct
        cases good : succeeds first with
        | true =>
            rw [untilFailure, good, if_pos rfl, ih later fun item listed => ?_]
            have gets := reached item (List.mem_cons_of_mem _ listed)
            rw [untilFailure, good, if_pos rfl] at gets
            exact (List.mem_cons.mp gets).resolve_left fun same => fresh (same ▸ listed)
        | false =>
            cases rest with
            | nil => simp [untilFailure]
            | cons second rest =>
                have gets := reached second (by simp)
                rw [untilFailure, good, if_neg Bool.false_ne_true, List.mem_singleton] at gets
                exact absurd (gets ▸ List.mem_cons_self) fresh
  · intro all item listed
    rw [all]
    exact listed

end Attempts
