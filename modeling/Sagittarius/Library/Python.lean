import Mathlib.Data.Rat.Floor

set_option autoImplicit false

-- What Python's float offers a computation. Nothing is assumed of the
-- operations, so a result over every instance holds of IEEE doubles, NaN
-- included, and of the exact rationals alike.
class PyFloat (α : Type) extends Add α, Sub α, Mul α, Div α, Neg α, LT α, LE α where
  ltDecidable : DecidableRel (α := α) (· < ·)
  leDecidable : DecidableRel (α := α) (· ≤ ·)
  -- a literal, or `float()` of a Decimal
  literal : ℚ → α
  ofInt : ℤ → α
  toInt : α → ℤ
  absolute : α → α
  -- the built-in `sum`, which compensates rounding on floats
  total : List α → α
  -- format code `.nf`
  fixed : ℕ → α → String
  -- `Decimal(str(value))`
  decimal : α → ℚ

namespace PyFloat

variable {α : Type} [PyFloat α]

instance : DecidableRel (α := α) (· < ·) := ltDecidable

instance : DecidableRel (α := α) (· ≤ ·) := leDecidable

-- `max` and `min` keep the first of the values they compare equal.
def larger (a b : α) : α := if a < b then b else a

def smaller (a b : α) : α := if b < a then b else a

def largest (first : α) (rest : List α) : α := rest.foldl larger first

def smallest (first : α) (rest : List α) : α := rest.foldl smaller first

def Equal (a b : α) : Prop := a ≤ b ∧ b ≤ a

instance (a b : α) : Decidable (Equal a b) := inferInstanceAs (Decidable (_ ∧ _))

def percent (a : α) : String := fixed 0 (a * literal 100) ++ "%"

end PyFloat

inductive PyError
  | keyError (key : String)
  | typeError (message : String)
  | valueError (message : String)
  | invalidOperation (message : String)
deriving DecidableEq

theorem bind_ok {ε β γ : Type} (first : Except ε β) (rest : β → Except ε γ) (result : γ)
    (bound : (first >>= rest) = .ok result) : ∃ value, first = .ok value ∧ rest value = .ok result := by
  cases first with
  | error raised => cases bound
  | ok value => exact ⟨value, rfl, bound⟩

-- `repr` of a str. Characters beyond ASCII are taken to be printable.
def pyRepr (text : String) : String :=
  let single := Char.ofNat 39
  let double := Char.ofNat 34
  let quote := if text.toList.contains single && !text.toList.contains double then double else single
  let escape (c : Char) : String :=
    if c = quote ∨ c = '\\' then "\\" ++ c.toString
    else if c = '\n' then "\\n"
    else if c = '\r' then "\\r"
    else if c = '\t' then "\\t"
    else if c.toNat < 32 ∨ c.toNat = 127 then
      "\\x" ++ String.ofList (Nat.toDigits 16 (c.toNat / 16) ++ Nat.toDigits 16 (c.toNat % 16))
    else c.toString
  quote.toString ++ String.join (text.toList.map escape) ++ quote.toString

def PyError.text : PyError → String
  | .keyError key => pyRepr key
  | .typeError message => message
  | .valueError message => message
  | .invalidOperation message => message

namespace Rat

def roundHalfEven (q : ℚ) : ℤ :=
  let below := ⌊q⌋
  if q - below < 1 / 2 then below
  else if 1 / 2 < q - below then below + 1
  else if below % 2 = 0 then below else below + 1

theorem round_half_even_floor (q : ℚ) : ⌊q⌋ ≤ roundHalfEven q ∧ roundHalfEven q ≤ ⌊q⌋ + 1 := by
  unfold roundHalfEven
  dsimp only
  split_ifs <;> omega

theorem round_half_even_int (z : ℤ) : roundHalfEven z = z := by
  simp [roundHalfEven]

theorem le_round_half_even (z : ℤ) (q : ℚ) (below : (z : ℚ) ≤ q) : z ≤ roundHalfEven q :=
  (Int.le_floor.mpr below).trans (round_half_even_floor q).1

theorem round_half_even_le (z : ℤ) (q : ℚ) (above : q ≤ z) : roundHalfEven q ≤ z := by
  rcases above.lt_or_eq with less | same
  · have floored : ⌊q⌋ < z := Int.floor_lt.mpr less
    have bounded := (round_half_even_floor q).2
    omega
  · rw [same, round_half_even_int]

def fixedPoint (digits : ℕ) (q : ℚ) : String :=
  let scaled := (roundHalfEven (q * 10 ^ digits)).natAbs
  let whole := toString (scaled / 10 ^ digits)
  let fraction := toString (scaled % 10 ^ digits)
  let padding := "".pushn '0' (digits - fraction.length)
  (if q < 0 then "-" else "") ++ whole ++ if digits = 0 then "" else "." ++ padding ++ fraction

end Rat

instance : PyFloat ℚ where
  ltDecidable := inferInstance
  leDecidable := inferInstance
  literal := id
  ofInt := fun z => z
  toInt := fun q => if q < 0 then ⌈q⌉ else ⌊q⌋
  absolute := fun q => if q < 0 then -q else q
  total := List.sum
  fixed := Rat.fixedPoint
  decimal := id

@[simp] theorem rat_literal (q : ℚ) : (PyFloat.literal q : ℚ) = q := rfl

@[simp] theorem rat_of_int (z : ℤ) : (PyFloat.ofInt z : ℚ) = z := rfl

@[simp] theorem rat_total (values : List ℚ) : PyFloat.total values = values.sum := rfl

theorem rat_equal (a b : ℚ) : PyFloat.Equal a b ↔ a = b := le_antisymm_iff.symm

theorem rat_larger (a b : ℚ) : PyFloat.larger a b = max a b := by
  unfold PyFloat.larger
  split_ifs with less
  · rw [max_eq_right less.le]
  · rw [max_eq_left (not_lt.mp less)]

theorem rat_smaller (a b : ℚ) : PyFloat.smaller a b = min a b := by
  unfold PyFloat.smaller
  split_ifs with less
  · rw [min_eq_right less.le]
  · rw [min_eq_left (not_lt.mp less)]

theorem rat_largest (first : ℚ) (rest : List ℚ) :
    PyFloat.largest first rest ∈ first :: rest ∧ ∀ value ∈ first :: rest, value ≤ PyFloat.largest first rest := by
  induction rest generalizing first with
  | nil => simp [PyFloat.largest]
  | cons next rest ih =>
      obtain ⟨inside, bounded⟩ := ih (PyFloat.larger first next)
      change PyFloat.largest (PyFloat.larger first next) rest ∈ _ ∧
        ∀ value ∈ _, value ≤ PyFloat.largest (PyFloat.larger first next) rest
      have covers := bounded _ List.mem_cons_self
      rw [rat_larger] at inside bounded covers ⊢
      simp only [List.mem_cons] at inside bounded ⊢
      constructor
      · rcases inside with same | later
        · rcases max_choice first next with left | right
          · exact .inl (same.trans left)
          · exact .inr (.inl (same.trans right))
        · exact .inr (.inr later)
      · rintro value (rfl | rfl | later)
        · exact (le_max_left _ _).trans covers
        · exact (le_max_right _ _).trans covers
        · exact bounded value (.inr later)

theorem rat_smallest (first : ℚ) (rest : List ℚ) :
    PyFloat.smallest first rest ∈ first :: rest ∧ ∀ value ∈ first :: rest, PyFloat.smallest first rest ≤ value := by
  induction rest generalizing first with
  | nil => simp [PyFloat.smallest]
  | cons next rest ih =>
      obtain ⟨inside, bounded⟩ := ih (PyFloat.smaller first next)
      change PyFloat.smallest (PyFloat.smaller first next) rest ∈ _ ∧
        ∀ value ∈ _, PyFloat.smallest (PyFloat.smaller first next) rest ≤ value
      have covers := bounded _ List.mem_cons_self
      rw [rat_smaller] at inside bounded covers ⊢
      simp only [List.mem_cons] at inside bounded ⊢
      constructor
      · rcases inside with same | later
        · rcases min_choice first next with left | right
          · exact .inl (same.trans left)
          · exact .inr (.inl (same.trans right))
        · exact .inr (.inr later)
      · rintro value (rfl | rfl | later)
        · exact covers.trans (min_le_left _ _)
        · exact covers.trans (min_le_right _ _)
        · exact bounded value (.inr later)

def pyIsSpace (c : Char) : Bool :=
  decide ((9 ≤ c.toNat ∧ c.toNat ≤ 13) ∨ (28 ≤ c.toNat ∧ c.toNat ≤ 32) ∨ (8192 ≤ c.toNat ∧ c.toNat ≤ 8202) ∨
    c.toNat ∈ [133, 160, 5760, 8232, 8233, 8239, 8287, 12288])

def pyStrip (text : List Char) : List Char := ((text.dropWhile pyIsSpace).reverse.dropWhile pyIsSpace).reverse

def pySlices {τ : Type} (size : ℕ) (items : List τ) : List (List τ) :=
  (List.range ((items.length + size - 1) / size)).map fun i => (items.drop (i * size)).take size

theorem py_slices_front {τ : Type} (size count : ℕ) (items : List τ) :
    ((List.range count).map fun i => (items.drop (i * size)).take size).flatten = items.take (count * size) := by
  induction count with
  | zero => simp
  | succ count ih => rw [List.range_succ, List.map_append, List.flatten_append, ih, Nat.succ_mul, List.take_add]; simp

theorem py_slices_flatten {τ : Type} (size : ℕ) (positive : 0 < size) (items : List τ) :
    (pySlices size items).flatten = items := by
  rw [pySlices, py_slices_front]
  refine List.take_of_length_le ?_
  have divided := Nat.div_add_mod (items.length + size - 1) size
  have remainder := Nat.mod_lt (items.length + size - 1) positive
  rw [mul_comm] at divided
  omega
