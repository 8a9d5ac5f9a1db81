import Mathlib.Logic.Function.Basic

set_option autoImplicit false

-- An original and its image. A party that writes the original owes the image
-- an update with the value it wrote, and the updates land in any order.
structure Mirror (π β : Type) where
  original : β
  image : β
  underWay : π → Option β

namespace Mirror

variable {π β : Type}

inductive Change (π β : Type)
  | stay
  | write (party : π) (value : β)
  | land (party : π) (value : β)
  | drop (party : π)

def Change.Writes (change : Change π β) : Prop := ∃ party value, change = .write party value

def Awaits (mirror : Mirror π β) (party : π) : Prop :=
  ∃ other, other ≠ party ∧ mirror.underWay other = some mirror.original

-- An update that ends leaves the image as the original is, or leaves it to
-- another update that will.
def Lawful (mirror : Mirror π β) : Change π β → Prop
  | .stay => True
  | .write _ _ => True
  | .land party value => value = mirror.original ∨ mirror.Awaits party
  | .drop party => mirror.image = mirror.original ∨ mirror.Awaits party

def Due (mirror : Mirror π β) : Change π β → Prop
  | .land party value => mirror.underWay party = some value
  | _ => True

def Settling (mirror : Mirror π β) : Prop :=
  mirror.image = mirror.original ∨ ∃ party, mirror.underWay party = some mirror.original

theorem awaits_settling (mirror : Mirror π β) (party : π) (awaits : mirror.Awaits party) : mirror.Settling := by
  obtain ⟨other, _, carries⟩ := awaits
  exact .inr ⟨other, carries⟩

theorem settling_quiet_iff (mirror : Mirror π β) (quiet : ∀ party, mirror.underWay party = none) :
    mirror.Settling ↔ mirror.image = mirror.original := by
  simp [Settling, quiet]

def Shows (mirror : Mirror π β) (change : Change π β) : Prop := ∃ party, change = .land party mirror.original

variable [DecidableEq π]

def apply (mirror : Mirror π β) : Change π β → Mirror π β
  | .stay => mirror
  | .write party value =>
      { mirror with original := value, underWay := Function.update mirror.underWay party (some value) }
  | .land party value => { mirror with image := value, underWay := Function.update mirror.underWay party none }
  | .drop party => { mirror with underWay := Function.update mirror.underWay party none }

theorem awaits_iff_cleared (mirror : Mirror π β) (party : π) :
    mirror.Awaits party ↔ ∃ other, Function.update mirror.underWay party none other = some mirror.original := by
  constructor
  · rintro ⟨other, different, carries⟩
    exact ⟨other, by rw [Function.update_of_ne different, carries]⟩
  · rintro ⟨other, carries⟩
    by_cases same : other = party
    · rw [same, Function.update_self] at carries
      cases carries
    · rw [Function.update_of_ne same] at carries
      exact ⟨other, same, carries⟩

theorem settling_write (mirror : Mirror π β) (party : π) (value : β) : (mirror.apply (.write party value)).Settling :=
  .inr ⟨party, by simp [apply]⟩

theorem settling_land_iff (mirror : Mirror π β) (party : π) (value : β) :
    (mirror.apply (.land party value)).Settling ↔ mirror.Lawful (.land party value) :=
  or_congr_right (mirror.awaits_iff_cleared party).symm

theorem settling_drop_iff (mirror : Mirror π β) (party : π) :
    (mirror.apply (.drop party)).Settling ↔ mirror.Lawful (.drop party) :=
  or_congr_right (mirror.awaits_iff_cleared party).symm

theorem settling_apply_iff (mirror : Mirror π β) (change : Change π β) (due : mirror.Due change) :
    (mirror.apply change).Settling ↔ change.Writes ∨ mirror.Settling ∧ mirror.Lawful change := by
  cases change with
  | stay => simp [apply, Change.Writes, Lawful]
  | write party value => exact iff_of_true (mirror.settling_write party value) (.inl ⟨party, value, rfl⟩)
  | land party value =>
      have before : mirror.Lawful (.land party value) → mirror.Settling := by
        rintro (same | awaits)
        · exact .inr ⟨party, by rw [← same]; exact due⟩
        · exact mirror.awaits_settling party awaits
      rw [mirror.settling_land_iff party value, or_iff_right (by rintro ⟨_, _, writes⟩; cases writes)]
      exact ⟨fun lawful => ⟨before lawful, lawful⟩, And.right⟩
  | drop party =>
      have before : mirror.Lawful (.drop party) → mirror.Settling := by
        rintro (same | awaits)
        · exact .inl same
        · exact mirror.awaits_settling party awaits
      rw [mirror.settling_drop_iff party, or_iff_right (by rintro ⟨_, _, writes⟩; cases writes)]
      exact ⟨fun lawful => ⟨before lawful, lawful⟩, And.right⟩

theorem settling_shown_iff (mirror : Mirror π β) (change : Change π β) :
    (mirror.apply change).Settling ↔
      (change.Writes ∨ mirror.Shows change) ∨ mirror.Settling ∧ mirror.Lawful change := by
  by_cases shows : mirror.Shows change
  · obtain ⟨party, rfl⟩ := shows
    exact iff_of_true (.inl rfl) (.inl (.inr ⟨party, rfl⟩))
  rw [or_iff_left shows]
  cases change with
  | land party value =>
      have differs : value ≠ mirror.original := fun same => shows ⟨party, same ▸ rfl⟩
      rw [mirror.settling_land_iff party value, or_iff_right (by rintro ⟨_, _, writes⟩; cases writes)]
      refine ⟨fun lawful => ⟨?_, lawful⟩, And.right⟩
      exact mirror.awaits_settling party (Or.resolve_left lawful differs)
  | stay => exact mirror.settling_apply_iff .stay trivial
  | write party value => exact mirror.settling_apply_iff (.write party value) trivial
  | drop party => exact mirror.settling_apply_iff (.drop party) trivial

inductive Moves (party : π) (original image : β) (debt : Option β) (originalAfter imageAfter : β)
    (debtAfter : Option β) : Change π β → Prop
  | stay (kept : originalAfter = original) (shown : imageAfter = image) (same : debtAfter = debt) :
      Moves party original image debt originalAfter imageAfter debtAfter .stay
  | write (value : β) (written : originalAfter = value) (shown : imageAfter = image) (owed : debtAfter = some value) :
      Moves party original image debt originalAfter imageAfter debtAfter (.write party value)
  | land (value : β) (kept : originalAfter = original) (shown : imageAfter = value) (paid : debtAfter = none) :
      Moves party original image debt originalAfter imageAfter debtAfter (.land party value)
  | drop (kept : originalAfter = original) (shown : imageAfter = image) (paid : debtAfter = none) :
      Moves party original image debt originalAfter imageAfter debtAfter (.drop party)

theorem moves_apply (mirror after : Mirror π β) (party : π) (debt : Option β) (change : Change π β)
    (moves : Moves party mirror.original mirror.image (mirror.underWay party) after.original after.image debt change)
    (owed : after.underWay = Function.update mirror.underWay party debt) : after = mirror.apply change := by
  cases after with
  | mk original image underWay =>
      cases moves with
      | stay kept shown same =>
          cases kept
          cases shown
          rw [same, Function.update_eq_self] at owed
          exact congrArg (Mirror.mk _ _) owed
      | write value written shown carries =>
          cases written
          cases shown
          cases carries
          exact congrArg (Mirror.mk _ _) owed
      | land value kept shown paid =>
          cases kept
          cases shown
          cases paid
          exact congrArg (Mirror.mk _ _) owed
      | drop kept shown paid =>
          cases kept
          cases shown
          cases paid
          exact congrArg (Mirror.mk _ _) owed

end Mirror
