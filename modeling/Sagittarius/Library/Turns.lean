import Mathlib.Data.List.Destutter

set_option autoImplicit false

-- The values at which a sequence changes, what it starts with left out.
namespace Turning

variable {τ : Type} [DecidableEq τ]

def turns (values : List τ) : List τ := (values.destutter (· ≠ ·)).tail

theorem destutter_concat (first value : τ) (rest : List τ) :
    (rest ++ [value]).destutter' (· ≠ ·) first =
      rest.destutter' (· ≠ ·) first ++ if (first :: rest).getLast? = some value then [] else [value] := by
  induction rest generalizing first with
  | nil => by_cases same : first = value <;> simp [same]
  | cons next rest ih =>
      by_cases differs : first ≠ next
      · rw [List.cons_append, List.destutter'_cons_pos _ differs, List.destutter'_cons_pos _ differs, ih next,
          List.getLast?_cons_cons, List.cons_append]
      · rw [List.cons_append, List.destutter'_cons_neg _ differs, List.destutter'_cons_neg _ differs, ih first]
        obtain rfl := not_not.mp differs
        rw [List.getLast?_cons_cons]

theorem destutter_last (first : τ) (rest : List τ) :
    (rest.destutter' (· ≠ ·) first).getLast? = (first :: rest).getLast? := by
  induction rest using List.reverseRecOn with
  | nil => rfl
  | append_singleton rest value ih =>
      rw [destutter_concat, ← List.cons_append, List.getLast?_concat]
      by_cases same : (first :: rest).getLast? = some value
      · rw [if_pos same, List.append_nil, ih, same]
      · rw [if_neg same, List.getLast?_concat]

@[simp] theorem turns_nil : turns ([] : List τ) = [] := rfl

theorem turns_append (values : List τ) (value : τ) :
    turns (values ++ [value]) =
      turns values ++ if values.getLast?.all (· = value) then [] else [value] := by
  cases values with
  | nil => rfl
  | cons first rest =>
      have kept : rest.destutter' (· ≠ ·) first ≠ [] := List.destutter'_ne_nil rest (· ≠ ·)
      rw [turns, turns, List.cons_append, List.destutter_cons', List.destutter_cons', destutter_concat,
        List.tail_append_of_ne_nil kept]
      simp [List.getLast?_cons]

theorem turns_alternate (values : List τ) : (turns values).IsChain (· ≠ ·) :=
  (List.isChain_destutter (· ≠ ·) values).tail

theorem turns_last (values : List τ) (last : τ) (turned : (turns values).getLast? = some last) :
    values.getLast? = some last := by
  cases values with
  | nil => cases turned
  | cons first rest =>
      rw [← destutter_last]
      rw [turns, List.destutter_cons'] at turned
      cases kept : rest.destutter' (· ≠ ·) first with
      | nil => exact absurd kept (List.destutter'_ne_nil rest (· ≠ ·))
      | cons start later =>
          rw [kept, List.tail_cons] at turned
          rw [List.getLast?_cons, turned]
          rfl

end Turning
