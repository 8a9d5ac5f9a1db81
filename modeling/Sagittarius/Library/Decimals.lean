import Mathlib.Algebra.Order.Field.Power
import Mathlib.Algebra.Order.Floor.Ring
import Mathlib.Data.Int.Log
import Mathlib.Data.List.TakeWhile
import Mathlib.Tactic.FieldSimp
import Mathlib.Tactic.Linarith
import Mathlib.Tactic.Positivity
import Mathlib.Tactic.Ring
import Sagittarius.Library.Python

set_option autoImplicit false

-- Decimal floating point: the exact result of an operation is rounded once,
-- half to even, to the digits of a context, and takes the exponent closest to
-- the operation's ideal one.
namespace Decimals

structure Context where
  prec : ℕ
  emin : ℤ
  emax : ℤ
deriving DecidableEq

inductive Trap
  | invalidOperation
  | divisionByZero
  | overflow
deriving DecidableEq

inductive Number
  | finite (negative : Bool) (coefficient : ℕ) (exponent : ℤ)
  | infinity (negative : Bool)
  | nan (signaling : Bool)
deriving DecidableEq

def magnitude (coefficient : ℕ) (exponent : ℤ) : ℚ := coefficient * 10 ^ exponent

def Number.value : Number → Option ℚ
  | .finite negative coefficient exponent =>
      some (if negative then -magnitude coefficient exponent else magnitude coefficient exponent)
  | .infinity _ => none
  | .nan _ => none

namespace Context

variable (context : Context)

def etiny : ℤ := context.emin - context.prec + 1

def unit (x : ℚ) : ℤ := max (Int.log 10 x - context.prec + 1) context.etiny

def rounded (x : ℚ) : ℚ := (x / 10 ^ context.unit x).roundHalfEven * 10 ^ context.unit x

def towardIdeal (x : ℚ) (unit : ℤ) : ℕ → ℤ
  | 0 => unit
  | n + 1 => if (x / 10 ^ (unit + (n + 1))).den = 1 then unit + (n + 1) else towardIdeal x unit n

def finish (negative : Bool) (x : ℚ) (ideal : ℤ) : Except Trap Number :=
  if x = 0 then .ok (.finite negative 0 (max context.etiny (min ideal context.emax)))
  else
    let unit := context.unit x
    let exponent := towardIdeal x unit (ideal - unit).toNat
    let coefficient := (x / 10 ^ exponent).roundHalfEven.toNat
    let carried := coefficient = 10 ^ context.prec
    let coefficient := if carried then 10 ^ (context.prec - 1) else coefficient
    let exponent := if carried then exponent + 1 else exponent
    if context.emax < exponent + Nat.log 10 coefficient then .error .overflow
    else .ok (.finite negative coefficient exponent)

end Context

def operands (a b : Number) (result : Except Trap Number) : Except Trap Number :=
  match a, b with
  | .nan true, _ => .error .invalidOperation
  | _, .nan true => .error .invalidOperation
  | .nan false, _ => .ok (.nan false)
  | _, .nan false => .ok (.nan false)
  | _, _ => result

def divide (context : Context) (a b : Number) : Except Trap Number :=
  operands a b <|
    match a, b with
    | .finite s c e, .finite t d f =>
        if d = 0 then .error (if c = 0 then .invalidOperation else .divisionByZero)
        else context.finish (s ^^ t) (magnitude c e / magnitude d f) (e - f)
    | .infinity s, .finite t _ _ => .ok (.infinity (s ^^ t))
    | .finite s _ _, .infinity t => .ok (.finite (s ^^ t) 0 context.etiny)
    | _, _ => .error .invalidOperation

def multiply (context : Context) (a b : Number) : Except Trap Number :=
  operands a b <|
    match a, b with
    | .finite s c e, .finite t d f => context.finish (s ^^ t) (magnitude c e * magnitude d f) (e + f)
    | .infinity s, .infinity t => .ok (.infinity (s ^^ t))
    | .infinity s, .finite t d _ => if d = 0 then .error .invalidOperation else .ok (.infinity (s ^^ t))
    | .finite s c _, .infinity t => if c = 0 then .error .invalidOperation else .ok (.infinity (s ^^ t))
    | _, _ => .error .invalidOperation

def remainder (context : Context) (a b : Number) : Except Trap Number :=
  operands a b <|
    match a, b with
    | .finite s c e, .finite _ d f =>
        let quotient := ⌊magnitude c e / magnitude d f⌋
        if d = 0 ∨ 10 ^ context.prec ≤ quotient then .error .invalidOperation
        else context.finish s (magnitude c e - quotient * magnitude d f) (min e f)
    | .finite s c e, .infinity _ => context.finish s (magnitude c e) e
    | _, _ => .error .invalidOperation

inductive Direction
  | floor
  | ceiling
deriving DecidableEq

def Direction.round (direction : Direction) (x : ℚ) : ℤ :=
  match direction with
  | .floor => ⌊x⌋
  | .ceiling => ⌈x⌉

def toIntegral (direction : Direction) : Number → Except Trap Number
  | .finite s c e =>
      if 0 ≤ e then .ok (.finite s c e)
      else
        let x := if s then -magnitude c e else magnitude c e
        .ok (.finite s (direction.round x).natAbs 0)
  | .infinity s => .ok (.infinity s)
  | .nan true => .error .invalidOperation
  | .nan false => .ok (.nan false)

def absolute (context : Context) : Number → Except Trap Number
  | .finite _ c e => context.finish false (magnitude c e) e
  | .infinity _ => .ok (.infinity false)
  | .nan true => .error .invalidOperation
  | .nan false => .ok (.nan false)

def atMost (a b : Number) : Except Trap Bool :=
  match a, b with
  | .nan _, _ => .error .invalidOperation
  | _, .nan _ => .error .invalidOperation
  | .infinity s, .infinity t => .ok (s || !t)
  | .infinity s, .finite _ _ _ => .ok s
  | .finite _ _ _, .infinity t => .ok (!t)
  | .finite s c e, .finite t d f =>
      let x := if s then -magnitude c e else magnitude c e
      let y := if t then -magnitude d f else magnitude d f
      .ok (decide (x ≤ y))

def isZero : Number → Except Trap Bool
  | .finite _ c _ => .ok (decide (c = 0))
  | .infinity _ => .ok false
  | .nan true => .error .invalidOperation
  | .nan false => .ok false

def numeral (coefficient : ℕ) (exponent : ℤ) : List Char :=
  let digits := Nat.toDigits 10 coefficient
  let leftDigits := exponent + digits.length
  let dotPlace := if exponent ≤ 0 ∧ -6 < leftDigits then leftDigits else 1
  let mantissa :=
    if dotPlace ≤ 0 then '0' :: '.' :: List.replicate (-dotPlace).toNat '0' ++ digits
    else if (digits.length : ℤ) ≤ dotPlace then digits ++ List.replicate (dotPlace - digits.length).toNat '0'
    else digits.take dotPlace.toNat ++ '.' :: digits.drop dotPlace.toNat
  let power := leftDigits - dotPlace
  if power = 0 then mantissa
  else mantissa ++ 'E' :: (if power < 0 then '-' else '+') :: Nat.toDigits 10 power.natAbs

def Number.str : Number → String
  | .finite negative coefficient exponent =>
      String.ofList ((if negative then ['-'] else []) ++ numeral coefficient exponent)
  | .infinity negative => if negative then "-Infinity" else "Infinity"
  | .nan signaling => if signaling then "sNaN" else "NaN"

def readPlain (text : String) : Option ℚ :=
  let whole := text.toList.takeWhile (· ≠ '.')
  let fraction := (text.toList.dropWhile (· ≠ '.')).drop 1
  if whole ++ fraction ≠ [] ∧ (whole ++ fraction).all Char.isDigit then
    some (Nat.ofDigitChars 10 (whole ++ fraction) 0 / 10 ^ fraction.length)
  else none

theorem magnitude_zero (exponent : ℤ) : magnitude 0 exponent = 0 := by simp [magnitude]

theorem magnitude_pos (coefficient : ℕ) (exponent : ℤ) (nonzero : coefficient ≠ 0) : 0 < magnitude coefficient exponent :=
  mul_pos (by exact_mod_cast Nat.pos_of_ne_zero nonzero) (by positivity)

theorem le_adjusted_iff (coefficient : ℕ) (exponent place : ℤ) (nonzero : coefficient ≠ 0) :
    place ≤ exponent + Nat.log 10 coefficient ↔ 10 ^ place ≤ magnitude coefficient exponent := by
  have positive : (0 : ℚ) < coefficient := by exact_mod_cast Nat.pos_of_ne_zero nonzero
  have shifted : (10 : ℚ) ^ place ≤ magnitude coefficient exponent ↔ (10 : ℚ) ^ (place - exponent) ≤ coefficient := by
    rw [magnitude, zpow_sub₀ (by norm_num), div_le_iff₀ (by positivity)]
  have logged := Int.zpow_le_iff_le_log (R := ℚ) (b := 10) (by norm_num) (x := place - exponent) positive
  rw [Int.log_natCast] at logged
  rw [shifted]
  push_cast at logged
  rw [logged]
  omega

def Whole (x : ℚ) (exponent : ℤ) : Prop := ∃ z : ℤ, x = z * 10 ^ exponent

theorem whole_iff_den (x : ℚ) (exponent : ℤ) : (x / 10 ^ exponent).den = 1 ↔ Whole x exponent := by
  have nonzero : (10 : ℚ) ^ exponent ≠ 0 := by positivity
  constructor
  · intro integral
    refine ⟨(x / 10 ^ exponent).num, ?_⟩
    rw [Rat.den_eq_one_iff _ |>.mp integral, div_mul_cancel₀ _ nonzero]
  · rintro ⟨z, rfl⟩
    rw [mul_div_cancel_right₀ _ nonzero]
    exact Rat.den_intCast z

theorem whole_below (x : ℚ) (upper lower : ℤ) (whole : Whole x upper) (below : lower ≤ upper) : Whole x lower := by
  obtain ⟨z, rfl⟩ := whole
  obtain ⟨gap, rfl⟩ := Int.le.dest below
  refine ⟨z * 10 ^ gap, ?_⟩
  rw [zpow_add₀ (by norm_num), zpow_natCast]
  push_cast
  ring

theorem whole_magnitude (coefficient : ℕ) (exponent : ℤ) : Whole (magnitude coefficient exponent) exponent :=
  ⟨coefficient, rfl⟩

namespace Context

theorem toward_ideal_spec (x : ℚ) (unit : ℤ) (n : ℕ) :
    let exponent := towardIdeal x unit n
    unit ≤ exponent ∧ exponent ≤ unit + n ∧ (exponent = unit ∨ Whole x exponent) ∧
      ∀ higher, exponent < higher → higher ≤ unit + n → ¬ Whole x higher := by
  induction n with
  | zero =>
      refine ⟨le_refl _, ?_, .inl rfl, fun higher above within => ?_⟩
      · simp [towardIdeal]
      · simp only [towardIdeal] at above
        push_cast at within
        omega
  | succ n ih =>
      simp only [towardIdeal]
      split_ifs with integral
      · have whole : Whole x (unit + (n + 1)) := (whole_iff_den x _).mp integral
        refine ⟨by omega, by push_cast; omega, .inr whole, fun higher above within => ?_⟩
        push_cast at within
        omega
      · obtain ⟨least, most, exact, highest⟩ := ih
        refine ⟨least, by push_cast; omega, exact, fun higher above within => ?_⟩
        push_cast at within
        by_cases last : higher = unit + (n + 1)
        · rw [last]
          exact fun whole => integral ((whole_iff_den x _).mpr whole)
        · exact highest higher above (by omega)

variable (context : Context)

theorem lt_unit (x : ℚ) : x < 10 ^ (context.unit x + context.prec) := by
  have logged := Int.lt_zpow_succ_log_self (R := ℚ) (b := 10) (by norm_num) x
  push_cast at logged
  refine logged.trans_le (zpow_le_zpow_right₀ (by norm_num) ?_)
  have kept : Int.log 10 x - context.prec + 1 ≤ context.unit x := le_max_left _ _
  omega

theorem rounded_whole (x : ℚ) (exponent : ℤ) (kept : context.unit x ≤ exponent) (whole : Whole x exponent) :
    context.rounded x = x := by
  obtain ⟨z, same⟩ := whole_below x exponent (context.unit x) whole kept
  have nonzero : (10 : ℚ) ^ context.unit x ≠ 0 := by positivity
  have quotient : x / 10 ^ context.unit x = z := by
    rw [div_eq_iff nonzero]
    exact same
  rw [rounded, quotient, Rat.round_half_even_int]
  exact same.symm

theorem leading_le_rounded (x : ℚ) (place : ℤ) (kept : context.unit x ≤ place) (least : 10 ^ place ≤ x) :
    10 ^ place ≤ context.rounded x := by
  obtain ⟨gap, rfl⟩ := Int.le.dest kept
  have positive : (0 : ℚ) < 10 ^ context.unit x := by positivity
  have split : (10 : ℚ) ^ (context.unit x + (gap : ℤ)) = ((10 ^ gap : ℤ) : ℚ) * 10 ^ context.unit x := by
    rw [zpow_add₀ (by norm_num), zpow_natCast]
    push_cast
    ring
  rw [split] at least ⊢
  have quotient : ((10 ^ gap : ℤ) : ℚ) ≤ x / 10 ^ context.unit x := (le_div_iff₀ positive).mpr least
  refine mul_le_mul_of_nonneg_right ?_ positive.le
  exact_mod_cast Rat.le_round_half_even _ _ quotient

theorem rounded_at_exponent (x : ℚ) (exponent : ℤ) (nonnegative : 0 ≤ x) (kept : context.unit x ≤ exponent)
    (exact : exponent = context.unit x ∨ Whole x exponent) :
    let coefficient := (x / 10 ^ exponent).roundHalfEven
    0 ≤ coefficient ∧ coefficient ≤ 10 ^ context.prec ∧ coefficient * 10 ^ exponent = context.rounded x := by
  have positive : (0 : ℚ) < 10 ^ exponent := by positivity
  refine ⟨Rat.le_round_half_even 0 _ (by positivity), Rat.round_half_even_le _ _ ?_, ?_⟩
  · rw [div_le_iff₀ positive]
    push_cast
    rw [← zpow_natCast, ← zpow_add₀ (by norm_num)]
    exact (context.lt_unit x).le.trans (zpow_le_zpow_right₀ (by norm_num) (by omega))
  · rcases exact with same | whole
    · rw [same]
      rfl
    · rw [context.rounded_whole x exponent kept whole]
      obtain ⟨z, same⟩ := whole
      have quotient : x / 10 ^ exponent = z := by
        rw [div_eq_iff positive.ne']
        exact same
      rw [quotient, Rat.round_half_even_int]
      exact same.symm

theorem rounded_reaches (digits : 1 ≤ context.prec) (x : ℚ) (place : ℤ) (positive : 0 < x)
    (normal : context.etiny ≤ place) (beneath : place < context.unit x) :
    10 ^ (context.prec + place) ≤ context.rounded x := by
  have leading := Int.zpow_log_le_self (R := ℚ) (b := 10) (by norm_num) positive
  push_cast at leading
  have unit : context.unit x = Int.log 10 x - context.prec + 1 := by
    unfold Context.unit at beneath ⊢
    omega
  have reached := context.leading_le_rounded x (Int.log 10 x) (by omega) leading
  refine le_trans (zpow_le_zpow_right₀ (by norm_num) ?_) reached
  omega

-- What a result is, and when its exponent goes no higher than a place: the
-- digits stop below it, and the ideal exponent does not draw zeros past it.
theorem finish_positive (digits : 1 ≤ context.prec) (negative : Bool) (x : ℚ) (ideal : ℤ) (number : Number)
    (positive : 0 < x) (finished : context.finish negative x ideal = .ok number) :
    ∃ coefficient exponent, number = .finite negative coefficient exponent ∧
      magnitude coefficient exponent = context.rounded x ∧
      ∀ place, context.etiny ≤ place → (exponent ≤ place ↔
        context.rounded x < 10 ^ (context.prec + place) ∧ ¬ (place < ideal ∧ Whole x (place + 1))) := by
  obtain ⟨least, most, exact, highest⟩ := toward_ideal_spec x (context.unit x) (ideal - context.unit x).toNat
  simp only [finish, if_neg positive.ne'] at finished
  generalize towardIdeal x (context.unit x) (ideal - context.unit x).toNat = j at *
  obtain ⟨nonnegative, bounded, sum⟩ := context.rounded_at_exponent x j positive.le least exact
  obtain ⟨k, counted⟩ := Int.eq_ofNat_of_zero_le nonnegative
  rw [counted] at finished bounded sum
  simp only [Int.toNat_natCast, Int.cast_natCast] at finished bounded sum
  have fits : k ≤ 10 ^ context.prec := by exact_mod_cast bounded
  have outside := context.lt_unit x
  by_cases carried : k = 10 ^ context.prec
  · simp only [if_pos carried] at finished
    split_ifs at finished
    cases finished
    have total : context.rounded x = 10 ^ (context.prec + j) := by
      rw [← sum, carried, zpow_add₀ (by norm_num), zpow_natCast]
      push_cast
      rfl
    have inexact : ¬ Whole x j := by
      intro whole
      rw [context.rounded_whole x j least whole] at total
      have below := (zpow_lt_zpow_iff_right₀ (by norm_num : (1 : ℚ) < 10)).mp (total.symm.trans_lt outside)
      omega
    refine ⟨_, _, rfl, ?_, fun place _ => ?_⟩
    · rw [total, magnitude]
      push_cast
      rw [← zpow_natCast, ← zpow_add₀ (by norm_num)]
      congr 1
      omega
    · rw [total, zpow_lt_zpow_iff_right₀ (by norm_num)]
      constructor
      · intro under
        exact ⟨by omega, fun drawn => inexact (whole_below x _ j drawn.2 (by omega))⟩
      · rintro ⟨under, _⟩
        omega
  · simp only [if_neg carried] at finished
    split_ifs at finished
    cases finished
    have short : context.rounded x < 10 ^ (context.prec + j) := by
      rw [← sum, zpow_add₀ (by norm_num), zpow_natCast]
      refine mul_lt_mul_of_pos_right ?_ (by positivity)
      exact_mod_cast lt_of_le_of_ne fits carried
    refine ⟨_, _, rfl, sum, fun place subnormal => ?_⟩
    constructor
    · intro under
      refine ⟨short.trans_le (zpow_le_zpow_right₀ (by norm_num) (by omega)), ?_⟩
      rintro ⟨drawn, whole⟩
      exact highest (place + 1) (by omega) (by omega) whole
    · rintro ⟨under, undrawn⟩
      by_contra beneath
      have reaches (same : j = context.unit x) : False :=
        absurd under (not_lt.mpr (context.rounded_reaches digits x place positive subnormal (by omega)))
      rcases exact with same | whole
      · exact reaches same
      · by_cases drawn : place < ideal
        · exact undrawn ⟨drawn, whole_below x j (place + 1) whole (by omega)⟩
        · exact reaches (by omega)

end Context

theorem digits_length (n : ℕ) : (Nat.toDigits 10 n).length = Nat.log 10 n + 1 := by
  rcases eq_or_ne n 0 with rfl | nonzero
  · simp
  have bounded (k : ℕ) : (Nat.toDigits 10 n).length ≤ k + 1 ↔ Nat.log 10 n + 1 ≤ k + 1 := by
    rw [Nat.length_toDigits_le_iff (by norm_num) (by omega), ← Nat.log_lt_iff_lt_pow (by norm_num) nonzero]
    omega
  have least : 0 < (Nat.toDigits 10 n).length := Nat.length_toDigits_pos
  have upper := (bounded (Nat.log 10 n)).mpr (le_refl _)
  have lower := (bounded ((Nat.toDigits 10 n).length - 1)).mp (by omega)
  omega

theorem read_plain_point (whole fraction : List Char) (nonempty : whole ++ fraction ≠ [])
    (digits : ∀ char ∈ whole ++ fraction, char.isDigit = true) :
    readPlain (String.ofList (whole ++ '.' :: fraction)) =
      some ((Nat.ofDigitChars 10 (whole ++ fraction) 0 : ℚ) / 10 ^ fraction.length) := by
  have undotted : ∀ char ∈ whole, decide (char ≠ '.') = true := by
    intro char member
    rw [decide_eq_true_eq]
    rintro rfl
    exact absurd (digits '.' (List.mem_append_left _ member)) (by decide)
  rw [readPlain]
  rw [String.toList_ofList, List.takeWhile_append_of_pos undotted, List.dropWhile_append_of_pos undotted]
  have point : decide ('.' ≠ '.') = false := by decide
  simp only [List.takeWhile_cons, List.dropWhile_cons, point, Bool.false_eq_true, if_false, List.append_nil,
    List.drop_one, List.tail_cons]
  rw [if_pos ⟨nonempty, List.all_eq_true.mpr digits⟩]

theorem read_plain_whole (whole : List Char) (nonempty : whole ≠ []) (digits : ∀ char ∈ whole, char.isDigit = true) :
    readPlain (String.ofList whole) = some (Nat.ofDigitChars 10 whole 0 : ℚ) := by
  have undotted : ∀ char ∈ whole, decide (char ≠ '.') = true := by
    intro char member
    rw [decide_eq_true_eq]
    rintro rfl
    exact absurd (digits '.' member) (by decide)
  rw [readPlain]
  have taken : whole.takeWhile (fun char => decide (char ≠ '.')) = whole := List.takeWhile_eq_self_iff.mpr undotted
  have dropped : whole.dropWhile (fun char => decide (char ≠ '.')) = [] := List.dropWhile_eq_nil_iff.mpr undotted
  simp only [String.toList_ofList, taken, dropped, List.drop_nil, List.append_nil, List.length_nil, pow_zero, div_one]
  rw [if_pos ⟨nonempty, List.all_eq_true.mpr digits⟩]

theorem read_plain_foreign (text : List Char) (char : Char) (member : char ∈ text) (undotted : char ≠ '.')
    (foreign : char.isDigit = false) : readPlain (String.ofList text) = none := by
  rw [readPlain]
  rw [String.toList_ofList]
  refine if_neg fun plain => ?_
  have inside : char ∈ text.takeWhile (· ≠ '.') ++ (text.dropWhile (· ≠ '.')).drop 1 := by
    rw [← List.takeWhile_append_dropWhile (p := (· ≠ '.')) (l := text)] at member
    rcases List.mem_append.mp member with before | after
    · exact List.mem_append_left _ before
    · refine List.mem_append_right _ ?_
      cases rest : text.dropWhile (· ≠ '.') with
      | nil =>
          rw [rest] at after
          cases after
      | cons head tail =>
          have remains : text.dropWhile (· ≠ '.') ≠ [] := by
            rw [rest]
            exact List.cons_ne_nil _ _
          have stopped := List.head_dropWhile_not _ remains
          simp only [rest, List.head_cons] at stopped
          simp only [decide_not, Bool.not_eq_false', decide_eq_true_eq] at stopped
          rw [rest] at after
          rcases List.mem_cons.mp after with same | later
          · exact absurd (same.trans stopped) undotted
          · exact later
  have digit := List.all_eq_true.mp plain.2 char inside
  rw [foreign] at digit
  cases digit

theorem numeral_plain (coefficient : ℕ) (exponent : ℤ) (unscaled : exponent ≤ 0)
    (leading : -6 ≤ exponent + Nat.log 10 coefficient) :
    readPlain (String.ofList (numeral coefficient exponent)) = some (magnitude coefficient exponent) := by
  have length := digits_length coefficient
  have digit : ∀ char ∈ Nat.toDigits 10 coefficient, char.isDigit = true := fun char member =>
    Nat.isDigit_of_mem_toDigits (by norm_num) (by norm_num) member
  have value : Nat.ofDigitChars 10 (Nat.toDigits 10 coefficient) 0 = coefficient := Nat.ofDigitChars_ten_toDigits
  have filled : Nat.toDigits 10 coefficient ≠ [] := Nat.toDigits_ne_nil
  have scaled (places : ℕ) (same : -exponent = places) : (coefficient : ℚ) / 10 ^ places = magnitude coefficient exponent := by
    rw [magnitude, show exponent = -(places : ℤ) by omega, zpow_neg, zpow_natCast, div_eq_mul_inv]
  have placed : exponent ≤ 0 ∧ -6 < exponent + ((Nat.toDigits 10 coefficient).length : ℤ) := ⟨unscaled, by omega⟩
  rw [numeral]
  simp only [if_pos placed, sub_self, if_true]
  generalize Nat.toDigits 10 coefficient = digits at *
  split_ifs with small large
  · rw [List.cons_append, List.cons_append]
    have zeros : ∀ char ∈ ['0'] ++ (List.replicate (-(exponent + (digits.length : ℤ))).toNat '0' ++ digits),
        char.isDigit = true := by
      intro char member
      simp only [List.singleton_append, List.mem_cons, List.mem_append, List.mem_replicate] at member
      rcases member with rfl | ⟨_, rfl⟩ | member
      · decide
      · decide
      · exact digit char member
    have read := read_plain_point ['0'] (List.replicate (-(exponent + (digits.length : ℤ))).toNat '0' ++ digits)
      (by simp) zeros
    have places : -exponent =
        ((List.replicate (-(exponent + (digits.length : ℤ))).toNat '0' ++ digits).length : ℤ) := by
      rw [List.length_append, List.length_replicate]
      omega
    refine read.trans (congrArg some ?_)
    rw [← scaled _ places, List.singleton_append, Nat.ofDigitChars_cons, Nat.ofDigitChars_append,
      Nat.ofDigitChars_replicate_zero]
    simp [value]
  · have exact : exponent = 0 := by omega
    subst exact
    simp only [zero_add, sub_self, Int.toNat_zero, List.replicate_zero, List.append_nil]
    rw [read_plain_whole digits filled digit, value]
    simp [magnitude]
  · have joined : digits.take (exponent + digits.length).toNat ++ digits.drop (exponent + digits.length).toNat = digits :=
      List.take_append_drop _ _
    rw [read_plain_point _ _ (by rw [joined]; exact filled) (by rw [joined]; exact digit), joined, value,
      List.length_drop, scaled _ (by omega)]

theorem numeral_scientific (coefficient : ℕ) (exponent : ℤ)
    (scientific : ¬ (exponent ≤ 0 ∧ -6 ≤ exponent + Nat.log 10 coefficient)) : 'E' ∈ numeral coefficient exponent := by
  have length := digits_length coefficient
  have unplaced : ¬ (exponent ≤ 0 ∧ -6 < exponent + ((Nat.toDigits 10 coefficient).length : ℤ)) := by
    rintro ⟨unscaled, placed⟩
    exact scientific ⟨unscaled, by omega⟩
  rw [numeral]
  simp only [if_neg unplaced]
  rw [if_neg (by omega)]
  exact List.mem_append_right _ List.mem_cons_self

def Number.Plain (number : Number) : Prop :=
  ∃ value, number.value = some value ∧ readPlain number.str = some value

theorem plain_iff (number : Number) :
    number.Plain ↔ ∃ coefficient exponent, number = .finite false coefficient exponent ∧ exponent ≤ 0 ∧
      -6 ≤ exponent + Nat.log 10 coefficient := by
  constructor
  · rintro ⟨value, finite, plain⟩
    cases number with
    | infinity negative => cases finite
    | nan signaling => cases finite
    | finite negative coefficient exponent =>
        cases negative with
        | true =>
            rw [Number.str, read_plain_foreign _ '-' (by simp) (by decide) (by decide)] at plain
            cases plain
        | false =>
            refine ⟨coefficient, exponent, rfl, ?_⟩
            by_contra scientific
            have marked := numeral_scientific coefficient exponent scientific
            rw [Number.str, read_plain_foreign _ 'E' (by simpa using marked) (by decide) (by decide)] at plain
            cases plain
  · rintro ⟨coefficient, exponent, rfl, unscaled, leading⟩
    exact ⟨_, rfl, numeral_plain coefficient exponent unscaled leading⟩

theorem negative_not_plain (coefficient : ℕ) (exponent : ℤ) : ¬ (Number.finite true coefficient exponent).Plain := by
  rw [plain_iff]
  rintro ⟨_, _, same, _⟩
  cases same

namespace Context

variable (context : Context)

theorem finish_finite (negative : Bool) (x : ℚ) (ideal : ℤ) (number : Number)
    (finished : context.finish negative x ideal = .ok number) :
    ∃ coefficient exponent, number = .finite negative coefficient exponent := by
  simp only [finish] at finished
  split_ifs at finished <;> cases finished <;> exact ⟨_, _, rfl⟩

theorem le_rounded (digits : 1 ≤ context.prec) (x : ℚ) (place : ℤ) (normal : context.etiny ≤ place)
    (least : 10 ^ place ≤ x) : 10 ^ place ≤ context.rounded x := by
  rcases le_or_gt (context.unit x) place with kept | lost
  · exact context.leading_le_rounded x place kept least
  · have positive : 0 < x := lt_of_lt_of_le (by positivity) least
    refine le_trans (zpow_le_zpow_right₀ (by norm_num) ?_) (context.rounded_reaches digits x place positive normal lost)
    omega

theorem finish_zero_plain_iff (small : context.etiny ≤ -7) (large : 0 < context.emax) (ideal : ℤ) (number : Number)
    (finished : context.finish false 0 ideal = .ok number) : number.Plain ↔ -6 ≤ ideal ∧ ideal ≤ 0 := by
  rw [finish, if_pos rfl] at finished
  rw [← Except.ok.inj finished, plain_iff]
  constructor
  · rintro ⟨coefficient, exponent, same, unscaled, leading⟩
    rw [Number.finite.injEq] at same
    obtain ⟨_, nothing, clamped⟩ := same
    rw [← nothing, Nat.log_zero_right] at leading
    push_cast at leading
    omega
  · rintro ⟨least, most⟩
    refine ⟨0, _, rfl, by omega, ?_⟩
    rw [Nat.log_zero_right]
    push_cast
    omega

-- A positive result prints plainly when it neither outgrows the digits nor
-- starts beyond the sixth place, and nothing draws its exponent above zero.
theorem finish_plain_iff (digits : 1 ≤ context.prec) (small : context.etiny ≤ -7) (x : ℚ) (ideal : ℤ) (number : Number)
    (positive : 0 < x) (finished : context.finish false x ideal = .ok number) :
    number.Plain ↔ 10 ^ (-6 : ℤ) ≤ context.rounded x ∧ context.rounded x < 10 ^ (context.prec : ℤ) ∧
      ¬ (0 < ideal ∧ Whole x 1) := by
  obtain ⟨coefficient, exponent, rfl, sum, places⟩ :=
    context.finish_positive digits false x ideal number positive finished
  have unscaled := places 0 (by omega)
  rw [add_zero, zero_add] at unscaled
  rw [plain_iff]
  by_cases zero : coefficient = 0
  · subst zero
    rw [magnitude_zero] at sum
    have far : exponent ≤ -7 := by
      refine (places (-7) small).mpr ⟨sum.symm.trans_lt (by positivity), ?_⟩
      rintro ⟨_, z, same⟩
      have counted : 1 ≤ z := by
        by_contra none
        have nonpositive : (z : ℚ) ≤ 0 := by exact_mod_cast not_lt.mp none
        have product : (z : ℚ) * 10 ^ (-7 + 1 : ℤ) ≤ 0 := mul_nonpos_of_nonpos_of_nonneg nonpositive (by positivity)
        exact absurd positive (not_lt.mpr (same.trans_le product))
      have least : (10 : ℚ) ^ (-7 + 1 : ℤ) ≤ x := by
        rw [same]
        exact le_mul_of_one_le_left (by positivity) (by exact_mod_cast counted)
      have kept := context.le_rounded digits x _ (by omega) least
      rw [← sum] at kept
      exact absurd kept (not_le.mpr (by positivity))
    constructor
    · rintro ⟨_, _, same, _, leading⟩
      cases same
      rw [Nat.log_zero_right] at leading
      push_cast at leading
      omega
    · rintro ⟨reached, _⟩
      rw [← sum] at reached
      exact absurd reached (not_le.mpr (by positivity))
  · rw [← sum] at unscaled ⊢
    have leading := le_adjusted_iff coefficient exponent (-6) zero
    constructor
    · rintro ⟨_, _, same, below, first⟩
      cases same
      exact ⟨leading.mp first, unscaled.mp below⟩
    · rintro ⟨reached, below⟩
      exact ⟨coefficient, exponent, rfl, unscaled.mpr below, leading.mpr reached⟩

end Context

namespace Direction

theorem round_int (direction : Direction) (z : ℤ) : direction.round z = z := by
  cases direction with
  | floor => exact Int.floor_intCast z
  | ceiling => exact Int.ceil_intCast z

theorem round_zero (direction : Direction) : direction.round 0 = 0 := by
  rw [← Int.cast_zero, direction.round_int]

theorem le_round (direction : Direction) (z : ℤ) (x : ℚ) (below : (z : ℚ) ≤ x) : z ≤ direction.round x := by
  cases direction with
  | floor => exact Int.le_floor.mpr below
  | ceiling => exact (Int.le_floor.mpr below).trans (Int.floor_le_ceil x)

end Direction

theorem to_integral_finite (direction : Direction) (coefficient : ℕ) (exponent : ℤ) (steps : Number)
    (done : toIntegral direction (.finite false coefficient exponent) = .ok steps) :
    ∃ count, steps = .finite false count (max exponent 0) ∧
      magnitude count (max exponent 0) = direction.round (magnitude coefficient exponent) := by
  simp only [toIntegral, Bool.false_eq_true, if_false] at done
  split_ifs at done with integral
  · cases done
    rw [max_eq_left integral]
    refine ⟨coefficient, rfl, ?_⟩
    obtain ⟨z, same⟩ := whole_below _ exponent 0 (whole_magnitude coefficient exponent) integral
    rw [zpow_zero, mul_one] at same
    rw [same, direction.round_int]
  · cases done
    rw [max_eq_right (by omega)]
    refine ⟨_, rfl, ?_⟩
    have nonnegative : 0 ≤ direction.round (magnitude coefficient exponent) := by
      refine direction.le_round 0 _ ?_
      rw [magnitude]
      push_cast
      positivity
    rw [magnitude, zpow_zero, mul_one]
    rw [← Int.cast_natCast, Int.natAbs_of_nonneg nonnegative]

def Number.signed (negative : Bool) (coefficient : ℕ) (exponent : ℤ) : ℚ :=
  if negative then -magnitude coefficient exponent else magnitude coefficient exponent

def nearestIntegral : Number → Except Trap Number
  | .finite s c e =>
      if 0 ≤ e then .ok (.finite s c e) else .ok (.finite s (Number.signed s c e).roundHalfEven.natAbs 0)
  | .infinity s => .ok (.infinity s)
  | .nan true => .error .invalidOperation
  | .nan false => .ok (.nan false)

def Number.truncated : Number → Option ℤ
  | .finite s c e => some (if s then -⌊magnitude c e⌋ else ⌊magnitude c e⌋)
  | .infinity _ => none
  | .nan _ => none

theorem magnitude_nonneg (coefficient : ℕ) (exponent : ℤ) : 0 ≤ magnitude coefficient exponent := by
  rw [magnitude]
  positivity

theorem signed_round_nonpos (coefficient : ℕ) (exponent : ℤ) : (Number.signed true coefficient exponent).roundHalfEven ≤ 0 := by
  have below := magnitude_nonneg coefficient exponent
  refine Rat.round_half_even_le 0 _ ?_
  rw [Number.signed, if_pos rfl]
  push_cast
  linarith

theorem nearest_truncated (negative : Bool) (coefficient : ℕ) (exponent : ℤ) :
    ∃ number, nearestIntegral (.finite negative coefficient exponent) = .ok number ∧
      number.truncated = some (Number.signed negative coefficient exponent).roundHalfEven := by
  rw [nearestIntegral]
  by_cases integral : 0 ≤ exponent
  · rw [if_pos integral]
    refine ⟨_, rfl, ?_⟩
    obtain ⟨z, same⟩ := whole_below _ exponent 0 (whole_magnitude coefficient exponent) integral
    rw [zpow_zero, mul_one] at same
    cases negative with
    | false => simp [Number.truncated, Number.signed, same, Rat.round_half_even_int]
    | true =>
        have negated : (-(z : ℚ)).roundHalfEven = -z := by
          rw [← Int.cast_neg, Rat.round_half_even_int]
        simp [Number.truncated, Number.signed, same, negated]
  · rw [if_neg integral]
    refine ⟨_, rfl, ?_⟩
    cases negative with
    | false =>
        have above : 0 ≤ (Number.signed false coefficient exponent).roundHalfEven :=
          Rat.le_round_half_even 0 _ (by simpa [Number.signed] using magnitude_nonneg coefficient exponent)
        simp [Number.truncated, magnitude, abs_of_nonneg above]
    | true =>
        have below := signed_round_nonpos coefficient exponent
        simp only [Number.truncated, if_true, magnitude, zpow_zero, mul_one]
        rw [Nat.cast_natAbs, abs_of_nonpos below, Int.floor_intCast, neg_neg]

theorem Context.finish_range (context : Context) (digits : 1 ≤ context.prec) (tiny : context.etiny ≤ 0) (negative : Bool)
    (x : ℚ) (ideal : ℤ) (large : 1 ≤ x) :
    ∃ coefficient exponent, magnitude coefficient exponent = context.rounded x ∧
      context.finish negative x ideal =
        if context.rounded x < 10 ^ (context.emax + 1) then .ok (.finite negative coefficient exponent)
        else .error .overflow := by
  have positive : 0 < x := one_pos.trans_le large
  have reached : 1 ≤ context.rounded x := by
    have kept := context.le_rounded digits x 0 tiny (by simpa using large)
    simpa using kept
  have ranged : ∀ (coefficient : ℕ) (exponent : ℤ), magnitude coefficient exponent = context.rounded x →
      (context.emax < exponent + Nat.log 10 coefficient ↔ ¬ context.rounded x < 10 ^ (context.emax + 1)) := by
    intro coefficient exponent same
    have nonzero : coefficient ≠ 0 := by
      rintro rfl
      rw [magnitude_zero] at same
      linarith
    rw [← Int.add_one_le_iff, le_adjusted_iff coefficient exponent _ nonzero, same, not_lt]
  obtain ⟨least, -, exact, -⟩ := toward_ideal_spec x (context.unit x) (ideal - context.unit x).toNat
  simp only [finish, if_neg positive.ne']
  generalize towardIdeal x (context.unit x) (ideal - context.unit x).toNat = j at *
  obtain ⟨nonnegative, -, sum⟩ := context.rounded_at_exponent x j positive.le least exact
  obtain ⟨k, counted⟩ := Int.eq_ofNat_of_zero_le nonnegative
  rw [counted] at sum ⊢
  simp only [Int.toNat_natCast, Int.cast_natCast] at sum ⊢
  by_cases carried : k = 10 ^ context.prec
  · have value : magnitude (10 ^ (context.prec - 1)) (j + 1) = context.rounded x := by
      rw [← sum, carried, magnitude]
      push_cast
      rw [← zpow_natCast, ← zpow_natCast, ← zpow_add₀ (by norm_num), ← zpow_add₀ (by norm_num)]
      congr 1
      omega
    refine ⟨10 ^ (context.prec - 1), j + 1, value, ?_⟩
    simp only [if_pos carried, ranged _ _ value, ite_not]
  · refine ⟨k, j, sum, ?_⟩
    simp only [if_neg carried, ranged k j sum, ite_not]

theorem Context.rounded_integral (context : Context) (z : ℤ) : ∃ whole : ℤ, context.rounded z = whole := by
  rcases le_or_gt (context.unit z) 0 with kept | lost
  · exact ⟨z, context.rounded_whole z 0 kept ⟨z, by rw [zpow_zero, mul_one]⟩⟩
  · obtain ⟨gap, same⟩ := Int.eq_ofNat_of_zero_le lost.le
    refine ⟨((z : ℚ) / 10 ^ context.unit z).roundHalfEven * 10 ^ gap, ?_⟩
    rw [rounded, same]
    push_cast
    rw [zpow_natCast]

end Decimals
