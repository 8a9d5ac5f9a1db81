import Mathlib.Logic.Function.Basic

set_option autoImplicit false

-- A producer that sends what it holds on several output channels, and a
-- consumer that keeps what it was sent last on each.
namespace Outputs

variable {χ π σ : Type}

abbrev Shown (χ π : Type) := χ → Option π

def emit [DecidableEq χ] (shown : Shown χ π) (channel : χ) (payload : π) : Shown χ π :=
  Function.update shown channel (some payload)

def emitAll [DecidableEq χ] (shown : Shown χ π) (outputs : List (χ × π)) : Shown χ π :=
  outputs.foldl (fun shown output => emit shown output.1 output.2) shown

variable (holds : σ → χ → Option π)

def Refreshed (before after : σ × Shown χ π) : Prop :=
  ∀ channel, (∃ payload, holds after.1 channel = some payload ∧ after.2 channel = some payload) ∨
    after.2 channel = before.2 channel ∧ holds after.1 channel = holds before.1 channel

theorem refreshed_unchanged (before after : σ) (shown : Shown χ π)
    (same : ∀ channel, holds after channel = holds before channel) : Refreshed holds (before, shown) (after, shown) :=
  fun channel => .inr ⟨rfl, same channel⟩

theorem refreshed_trans (first second third : σ × Shown χ π) (earlier : Refreshed holds first second)
    (later : Refreshed holds second third) : Refreshed holds first third := by
  intro channel
  rcases later channel with sent | ⟨silent, same⟩
  · exact .inl sent
  · rcases earlier channel with ⟨payload, held, sent⟩ | ⟨silentBefore, sameBefore⟩
    · exact .inl ⟨payload, same.trans held, silent.trans sent⟩
    · exact .inr ⟨silent.trans silentBefore, same.trans sameBefore⟩

theorem refreshed_emit [DecidableEq χ] (before after : σ) (shown : Shown χ π) (channel : χ) (payload : π)
    (held : holds after channel = some payload)
    (same : ∀ other, other ≠ channel → holds after other = holds before other) :
    Refreshed holds (before, shown) (after, emit shown channel payload) := by
  intro other
  by_cases isChannel : other = channel
  · subst isChannel
    exact .inl ⟨payload, held, Function.update_self ..⟩
  · exact .inr ⟨Function.update_of_ne isChannel .., same other isChannel⟩

def Current (state : σ) (shown : Shown χ π) (channel : χ) : Prop :=
  ∀ payload, holds state channel = some payload → shown channel = some payload

theorem emit_current [DecidableEq χ] (state : σ) (shown : Shown χ π) (channel : χ) (payload : π)
    (held : holds state channel = some payload) : Current holds state (emit shown channel payload) channel := by
  intro other isOther
  rw [emit, Function.update_self, ← held, isOther]

theorem refreshed_current (before after : σ × Shown χ π) (channel : χ) (refreshed : Refreshed holds before after)
    (current : Current holds before.1 before.2 channel) : Current holds after.1 after.2 channel := by
  intro payload held
  rcases refreshed channel with ⟨sent, isHeld, isShown⟩ | ⟨silent, same⟩
  · rw [isShown, ← isHeld, held]
  · rw [silent]
    exact current payload (same ▸ held)

def Sent (state : σ) (before after : Shown χ π) : Prop := ∀ channel, after channel = (holds state channel).or (before channel)

theorem sent_current (state : σ) (before after : Shown χ π) (sent : Sent holds state before after) (channel : χ) :
    Current holds state after channel := by
  intro payload held
  rw [sent channel, held]
  rfl

theorem refreshed_sent (before after : σ × Shown χ π) (refreshed : Refreshed holds before after)
    (current : ∀ channel, Current holds after.1 after.2 channel) : Sent holds after.1 before.2 after.2 := by
  intro channel
  cases held : holds after.1 channel with
  | some payload => exact current channel payload held
  | none =>
      rcases refreshed channel with ⟨payload, isHeld, _⟩ | ⟨silent, _⟩
      · rw [held] at isHeld
        cases isHeld
      · exact silent

theorem emit_all_held [DecidableEq χ] (state : σ) (shown : Shown χ π) (outputs : List (χ × π))
    (held : ∀ output ∈ outputs, holds state output.1 = some output.2) (channel : χ) :
    emitAll shown outputs channel = if channel ∈ outputs.map Prod.fst then holds state channel else shown channel := by
  induction outputs generalizing shown with
  | nil => rfl
  | cons output rest ih =>
      rw [emitAll, List.foldl_cons]
      refine (ih (emit shown output.1 output.2) fun other later => held other (by simp [later])).trans ?_
      by_cases later : channel ∈ rest.map Prod.fst
      · rw [if_pos later, if_pos (by simp [later])]
      · rw [if_neg later]
        by_cases first : channel = output.1
        · rw [if_pos (by simp [first]), first, held output (by simp)]
          exact Function.update_self ..
        · rw [if_neg (by simp [first, later])]
          exact Function.update_of_ne first ..

theorem emit_all_sent [DecidableEq χ] (state : σ) (shown : Shown χ π) (outputs : List (χ × π))
    (held : ∀ output ∈ outputs, holds state output.1 = some output.2)
    (all : ∀ channel payload, holds state channel = some payload → channel ∈ outputs.map Prod.fst) :
    Sent holds state shown (emitAll shown outputs) := by
  intro channel
  rw [emit_all_held holds state shown outputs held]
  cases isHeld : holds state channel with
  | some payload => rw [if_pos (all channel payload isHeld)]; rfl
  | none =>
      by_cases listed : channel ∈ outputs.map Prod.fst
      · obtain ⟨output, inside, rfl⟩ := List.mem_map.mp listed
        rw [held output inside] at isHeld
        cases isHeld
      · rw [if_neg listed]
        rfl

end Outputs
