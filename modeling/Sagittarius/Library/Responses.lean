import Mathlib.Data.List.Basic

set_option autoImplicit false

-- Services that answer one request after the other.
namespace Responses

variable {σ τ ο ρ : Type}

def serve (step : σ → ο → ρ × σ) : σ → List ο → List ρ × σ
  | state, [] => ([], state)
  | state, request :: rest =>
      let answered := step state request
      let later := serve step answered.2 rest
      (answered.1 :: later.1, later.2)

-- To an allowed request the concrete service gives the answer of the abstract
-- one, and leaves what represents the state that the abstract one is left in.
def Simulates (allowed : ο → Prop) (concrete : σ → ο → ρ × σ) (abstract : τ → ο → ρ × τ)
    (Represents : σ → τ → Prop) : Prop :=
  ∀ state shadow request, allowed request → Represents state shadow →
    (concrete state request).1 = (abstract shadow request).1 ∧
      Represents (concrete state request).2 (abstract shadow request).2

theorem serve_refines (allowed : ο → Prop) (concrete : σ → ο → ρ × σ) (abstract : τ → ο → ρ × τ)
    (Represents : σ → τ → Prop) (simulates : Simulates allowed concrete abstract Represents) (requests : List ο)
    (state : σ) (shadow : τ) (represents : Represents state shadow) (all : ∀ request ∈ requests, allowed request) :
    (serve concrete state requests).1 = (serve abstract shadow requests).1 ∧
      Represents (serve concrete state requests).2 (serve abstract shadow requests).2 := by
  induction requests generalizing state shadow with
  | nil => exact ⟨rfl, represents⟩
  | cons request rest ih =>
      obtain ⟨allowedFirst, allowedRest⟩ := List.forall_mem_cons.mp all
      obtain ⟨same, next⟩ := simulates state shadow request allowedFirst represents
      obtain ⟨sameRest, final⟩ := ih _ _ next allowedRest
      exact ⟨congrArg₂ List.cons same sameRest, final⟩

end Responses
