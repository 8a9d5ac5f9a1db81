import Sagittarius.Library.Python

set_option autoImplicit false

namespace Sagittarius

def defaultHistory : ℕ := 16

def minimumHistory : ℕ := 2

-- `values` is newest first. The outer `Option` of `provisional` is the
-- sentinel: a poked `None` is not the absence of a poke.
structure Series (α : Type) where
  history : ℕ
  comparable : minimumHistory ≤ history
  values : List (Option α)
  bounded : values.length ≤ history
  provisional : Option (Option α)
deriving DecidableEq

namespace Series

variable {α : Type}

def empty (history : ℕ) (comparable : minimumHistory ≤ history) : Series α where
  history := history
  comparable := comparable
  values := []
  bounded := Nat.zero_le history
  provisional := none

def fresh : Series α := empty defaultHistory (by decide)

def push (series : Series α) (value : Option α) : Series α where
  history := series.history
  comparable := series.comparable
  values := (value :: series.values).take series.history
  bounded := by simp
  provisional := none

def pokeProvisional (series : Series α) (value : Option α) : Series α :=
  { series with provisional := some value }

def committed (series : Series α) (offset : ℕ) : Option α := (series.values[offset]?).join

def item (series : Series α) (offset : ℕ) : Option α :=
  match series.provisional, offset with
  | some tentative, 0 => tentative
  | some _, back + 1 => series.committed back
  | none, back => series.committed back

def length (series : Series α) : ℕ := series.values.length

def constant (value : α) : Series α :=
  Nat.iterate (fun series => series.push (some value)) defaultHistory fresh

variable [PyFloat α]

def pair (a b : Series α) : Option (α × α × α × α) := do
  let aNow ← a.item 0
  let bNow ← b.item 0
  let aPrev ← a.item 1
  let bPrev ← b.item 1
  return (aNow, bNow, aPrev, bPrev)

def crossedAbove (a b : Series α) : Bool :=
  match pair a b with
  | none => false
  | some (aNow, bNow, aPrev, bPrev) => decide (aPrev < bPrev) && decide (bNow < aNow)

def crossedBelow (a b : Series α) : Bool :=
  match pair a b with
  | none => false
  | some (aNow, bNow, aPrev, bPrev) => decide (bPrev < aPrev) && decide (aNow < bNow)

def isAbove (a b : Series α) : Bool :=
  match a.item 0, b.item 0 with
  | some aNow, some bNow => decide (bNow < aNow)
  | _, _ => false

end Series

end Sagittarius
