import Sagittarius.Trading.FuturesParams

set_option autoImplicit false

namespace Sagittarius

open DecimalArithmetic
open Decimals (Direction Number Trap magnitude Whole)

-- The exponent of a zero amount: the division clamps that of a zero dividend.
def zeroExponent (c : ℕ) (e f : ℤ) : ℤ := if c = 0 then max f (min e (f + defaultContext.emax)) else f

-- An amount that has been brought to this many steps of a size prints plainly:
-- the amount, the size and the product in the digits of the context.
def PrintsPlain (direction : Direction) : Number → Number → Prop
  | .finite negative c e, .finite _ d f =>
      let steps := direction.round (defaultContext.rounded (magnitude c e / magnitude d f))
      let product := defaultContext.rounded (steps * magnitude d f)
      negative = false ∧
        if steps = 0 then -6 ≤ zeroExponent c e f ∧ zeroExponent c e f ≤ 0
        else f ≤ 0 ∧ ¬ (0 < e ∧ 10 * d ∣ c * 10 ^ e.toNat) ∧ 10 ^ (-6 : ℤ) ≤ product ∧ product < 10 ^ (28 : ℤ)
  | _, _ => False

instance (direction : Direction) : (amount size : Number) → Decidable (PrintsPlain direction amount size)
  | .finite _ _ _, .finite _ _ _ => by
      dsimp only [PrintsPlain]
      infer_instance
  | .finite _ _ _, .infinity _ => .isFalse id
  | .finite _ _ _, .nan _ => .isFalse id
  | .infinity _, _ => .isFalse id
  | .nan _, _ => .isFalse id

theorem digits_kept : 1 ≤ defaultContext.prec := by decide

theorem tiny_exponents : defaultContext.etiny ≤ -7 := by decide

theorem rounded_zero : defaultContext.rounded 0 = 0 := by
  have zero : (0 : ℚ).roundHalfEven = 0 := Rat.round_half_even_int 0
  rw [Decimals.Context.rounded, zero_div, zero]
  simp

theorem vanishing_exponent (direction : Direction) (x : ℚ) (ideal : ℤ) (coefficient : ℕ) (exponent : ℤ) (positive : 0 < x)
    (divided : defaultContext.finish false x ideal = .ok (.finite false coefficient exponent))
    (none : direction.round (defaultContext.rounded x) = 0) : exponent ≤ 0 := by
  obtain ⟨_, _, same, _, places⟩ := defaultContext.finish_positive digits_kept false x ideal _ positive divided
  cases same
  have short : x < 10 ^ (0 : ℤ) := by
    by_contra long
    have kept := defaultContext.le_rounded digits_kept x 0 (by decide) (not_lt.mp long)
    have counted := direction.le_round 1 _ (by simpa using kept)
    omega
  refine (places 0 (by decide)).mpr ⟨?_, ?_⟩
  · by_contra large
    have counted := direction.le_round 1 (defaultContext.rounded x)
      (le_trans (by norm_num [defaultContext]) (not_lt.mp large))
    omega
  · rintro ⟨_, whole⟩
    obtain ⟨z, same⟩ := Decimals.whole_below x _ 0 whole (by norm_num)
    rw [zpow_zero, mul_one] at same
    rw [zpow_zero, same] at short
    rw [same] at positive
    have lower : 0 < z := by exact_mod_cast positive
    have upper : z < 1 := by exact_mod_cast short
    omega

theorem whole_quotient_iff (c d : ℕ) (e f : ℤ) (nonzero : d ≠ 0) (scaled : 0 < e) :
    Whole (magnitude c e / magnitude d f) (-f + 1) ↔ 10 * d ∣ c * 10 ^ e.toNat := by
  have size : magnitude d f ≠ 0 := (Decimals.magnitude_pos d f nonzero).ne'
  have amount : magnitude c e = ((c * 10 ^ e.toNat : ℕ) : ℚ) := by
    rw [magnitude]
    conv_lhs => rw [← Int.toNat_of_nonneg scaled.le]
    rw [zpow_natCast]
    push_cast
    rfl
  have unit : (10 : ℚ) ^ (-f + 1) * magnitude d f = ((10 * d : ℕ) : ℚ) := by
    rw [magnitude, mul_left_comm, ← zpow_add₀ (by norm_num), show -f + 1 + f = 1 by omega]
    push_cast
    ring
  unfold Whole
  constructor
  · rintro ⟨z, same⟩
    rw [div_eq_iff size, mul_assoc, unit, amount] at same
    have divides : ((10 * d : ℕ) : ℤ) ∣ ((c * 10 ^ e.toNat : ℕ) : ℤ) := ⟨z, by exact_mod_cast same.trans (mul_comm _ _)⟩
    exact Int.natCast_dvd_natCast.mp divides
  · rintro ⟨k, same⟩
    refine ⟨k, ?_⟩
    rw [div_eq_iff size, mul_assoc, unit, amount, same]
    push_cast
    ring

theorem steps_not_negative (direction : Direction) (x : ℚ) (nonnegative : 0 ≤ x) :
    0 ≤ direction.round (defaultContext.rounded x) := by
  refine direction.le_round 0 _ ?_
  rw [Int.cast_zero]
  exact mul_nonneg (by exact_mod_cast Rat.le_round_half_even 0 _ (by push_cast; positivity)) (by positivity)

theorem exponent_drawn_iff (direction : Direction) (c d : ℕ) (e f : ℤ) (coefficient : ℕ) (exponent : ℤ)
    (sized : d ≠ 0) (divided : defaultContext.finish false (magnitude c e / magnitude d f) (e - f) =
      .ok (.finite false coefficient exponent))
    (some : direction.round (defaultContext.rounded (magnitude c e / magnitude d f)) ≠ 0)
    (bounded : defaultContext.rounded
      (direction.round (defaultContext.rounded (magnitude c e / magnitude d f)) * magnitude d f) < 10 ^ (28 : ℤ)) :
    max exponent 0 + f ≤ 0 ↔ f ≤ 0 ∧ ¬ (0 < e ∧ 10 * d ∣ c * 10 ^ e.toNat) := by
  have size := Decimals.magnitude_pos d f sized
  have filled : c ≠ 0 := by
    rintro rfl
    rw [Decimals.magnitude_zero, zero_div, rounded_zero] at some
    exact some direction.round_zero
  have quotient : 0 < magnitude c e / magnitude d f := div_pos (Decimals.magnitude_pos c e filled) size
  obtain ⟨_, _, same, _, places⟩ := defaultContext.finish_positive digits_kept false _ _ _ quotient divided
  cases same
  by_cases fractional : f ≤ 0
  · have within : defaultContext.rounded (magnitude c e / magnitude d f) < 10 ^ ((28 : ℤ) + -f) := by
      by_contra outside
      obtain ⟨gap, same⟩ := Int.le.dest (show (0 : ℤ) ≤ 28 + -f by omega)
      rw [zero_add] at same
      have counted : (10 ^ gap : ℤ) ≤ direction.round (defaultContext.rounded (magnitude c e / magnitude d f)) := by
        refine direction.le_round _ _ ?_
        push_cast
        rw [← zpow_natCast, same]
        exact not_lt.mp outside
      have counted' : (10 : ℚ) ^ ((28 : ℤ) + -f) ≤
          direction.round (defaultContext.rounded (magnitude c e / magnitude d f)) := by
        rw [← same, zpow_natCast]
        exact_mod_cast counted
      have unit : (10 : ℚ) ^ f ≤ magnitude d f :=
        le_mul_of_one_le_left (by positivity) (by exact_mod_cast Nat.one_le_iff_ne_zero.mpr sized)
      have reached : (10 : ℚ) ^ (28 : ℤ) ≤
          direction.round (defaultContext.rounded (magnitude c e / magnitude d f)) * magnitude d f := by
        calc (10 : ℚ) ^ (28 : ℤ) = 10 ^ ((28 : ℤ) + -f) * 10 ^ f := by
              rw [← zpow_add₀ (by norm_num), neg_add_cancel_right]
          _ ≤ _ := mul_le_mul counted' unit (by positivity) (le_trans (by positivity) counted')
      exact absurd bounded (not_lt.mpr (defaultContext.le_rounded digits_kept _ 28 (by decide) reached))
    have drawn : exponent ≤ -f ↔ ¬ (0 < e ∧ 10 * d ∣ c * 10 ^ e.toNat) := by
      have subnormal := tiny_exponents
      refine (places (-f) (by omega)).trans ((and_iff_right within).trans (not_congr ?_))
      constructor
      · rintro ⟨scaled, whole⟩
        exact ⟨by omega, (whole_quotient_iff c d e f sized (by omega)).mp whole⟩
      · rintro ⟨scaled, divides⟩
        exact ⟨by omega, (whole_quotient_iff c d e f sized scaled).mpr divides⟩
    rw [and_iff_right fractional, ← drawn]
    omega
  · refine iff_of_false (by omega) (fun both => fractional both.1)

theorem product_plain_iff (direction : Direction) (c d : ℕ) (e f : ℤ) (quotient steps product : Number) (sized : d ≠ 0)
    (divided : defaultContext.finish false (magnitude c e / magnitude d f) (e - f) = .ok quotient)
    (counted : Decimals.toIntegral direction quotient = .ok steps)
    (multiplied : Decimals.multiply defaultContext steps (.finite false d f) = .ok product) :
    product.Plain ↔ PrintsPlain direction (.finite false c e) (.finite false d f) := by
  obtain ⟨coefficient, exponent, rfl⟩ := defaultContext.finish_finite false _ _ quotient divided
  obtain ⟨count, rfl, same⟩ := Decimals.to_integral_finite direction coefficient exponent steps counted
  have size := Decimals.magnitude_pos d f sized
  have finished : defaultContext.finish false (magnitude count (max exponent 0) * magnitude d f) (max exponent 0 + f) =
      .ok product := multiplied
  have subnormal := tiny_exponents
  by_cases filled : c = 0
  · subst filled
    rw [Decimals.magnitude_zero, zero_div] at divided
    rw [Decimals.Context.finish, if_pos rfl] at divided
    obtain ⟨_, nothing, clamped⟩ := Number.finite.injEq .. |>.mp (Except.ok.inj divided)
    rw [← nothing, Decimals.magnitude_zero, direction.round_zero, Int.cast_zero] at same
    rw [same, zero_mul] at finished
    rw [defaultContext.finish_zero_plain_iff tiny_exponents (by decide) _ product finished]
    have left : max exponent 0 + f = zeroExponent 0 e f := by
      rw [zeroExponent, if_pos rfl]
      omega
    rw [left]
    simp only [PrintsPlain, Decimals.magnitude_zero, zero_div, rounded_zero]
    rw [direction.round_zero, if_pos rfl]
    exact (and_iff_right trivial).symm
  · have positive : 0 < magnitude c e / magnitude d f := div_pos (Decimals.magnitude_pos c e filled) size
    obtain ⟨_, _, alike, sum, _⟩ := defaultContext.finish_positive digits_kept false _ _ _ positive divided
    cases alike
    rw [sum] at same
    simp only [PrintsPlain]
    rw [and_iff_right trivial]
    generalize reached : direction.round (defaultContext.rounded (magnitude c e / magnitude d f)) = n at *
    by_cases none : n = 0
    · subst none
      have shrunk := vanishing_exponent direction _ _ _ _ positive divided reached
      rw [Int.cast_zero] at same
      rw [same, zero_mul] at finished
      rw [defaultContext.finish_zero_plain_iff tiny_exponents (by decide) _ product finished, if_pos rfl]
      have left : max exponent 0 + f = zeroExponent c e f := by
        rw [zeroExponent, if_neg filled]
        omega
      rw [left]
    · rw [if_neg none]
      have natural : 0 ≤ n := reached ▸ steps_not_negative direction _ positive.le
      have total : 0 < magnitude count (max exponent 0) * magnitude d f := by
        rw [same]
        exact mul_pos (by exact_mod_cast lt_of_le_of_ne natural (Ne.symm none)) size
      have whole : 0 < max exponent 0 + f → Whole (magnitude count (max exponent 0) * magnitude d f) 1 := by
        intro drawn
        refine Decimals.whole_below _ (max exponent 0 + f) 1 ⟨count * d, ?_⟩ (by omega)
        rw [magnitude, magnitude, zpow_add₀ (by norm_num)]
        push_cast
        ring
      have plain := defaultContext.finish_plain_iff digits_kept tiny_exponents _ _ product total finished
      have drawn (bounded : defaultContext.rounded (n * magnitude d f) < 10 ^ (28 : ℤ)) :=
        exponent_drawn_iff direction c d e f coefficient exponent sized divided (by rw [reached]; exact none)
          (by rw [reached]; exact bounded)
      rw [same] at plain whole
      refine plain.trans ?_
      constructor
      · rintro ⟨reaches, bounded, undrawn⟩
        obtain ⟨fractional, indivisible⟩ := (drawn bounded).mp (not_lt.mp fun past => undrawn ⟨past, whole past⟩)
        exact ⟨fractional, indivisible, reaches, bounded⟩
      · rintro ⟨fractional, indivisible, reaches, bounded⟩
        exact ⟨reaches, bounded, fun past => absurd past.1 (not_lt.mpr ((drawn bounded).mpr ⟨fractional, indivisible⟩))⟩

def Above (size : Number) : Prop := Decimals.atMost size zero = .ok false

theorem above_iff (size : Number) :
    Above size ↔ size = .infinity false ∨ ∃ d f, d ≠ 0 ∧ size = .finite false d f := by
  cases size with
  | nan signaling =>
      refine iff_of_false (fun above => by cases above) ?_
      rintro (same | ⟨_, _, _, same⟩) <;> cases same
  | infinity negative =>
      cases negative with
      | false => exact iff_of_true rfl (.inl rfl)
      | true =>
          refine iff_of_false (fun above => by cases above) ?_
          rintro (same | ⟨_, _, _, same⟩) <;> cases same
  | finite negative d f =>
      have compared : Above (.finite negative d f) ↔ 0 < if negative then -magnitude d f else magnitude d f := by
        change Except.ok (decide ((if negative then -magnitude d f else magnitude d f) ≤ magnitude 0 0)) =
          (.ok false : Except Trap Bool) ↔ _
        rw [Except.ok.injEq, decide_eq_false_iff_not, not_le, Decimals.magnitude_zero]
      rw [compared]
      have unsigned : 0 ≤ magnitude d f := by
        unfold magnitude
        positivity
      cases negative with
      | true =>
          refine iff_of_false (not_lt.mpr (neg_nonpos.mpr unsigned)) ?_
          rintro (same | ⟨_, _, _, same⟩) <;> cases same
      | false =>
          constructor
          · intro above
            refine .inr ⟨d, f, ?_, rfl⟩
            rintro rfl
            exact above.ne' (Decimals.magnitude_zero f)
          · rintro (same | ⟨_, _, sized, same⟩)
            · cases same
            · cases same
              exact Decimals.magnitude_pos d f sized

theorem to_multiple_steps (direction : Direction) (amount size rounded : Number) (above : Above size)
    (done : OrderQuantityRoundingPolicy.toMultiple direction amount size = .ok rounded) :
    ∃ quotient steps, Decimals.divide defaultContext amount size = .ok quotient ∧
      Decimals.toIntegral direction quotient = .ok steps ∧
      Decimals.multiply defaultContext steps size = .ok rounded := by
  obtain ⟨unbounded, compared, done⟩ := bind_ok _ _ _ done
  obtain rfl : unbounded = false := Except.ok.inj (compared.symm.trans above)
  obtain ⟨quotient, divided, done⟩ := bind_ok _ _ _ done
  obtain ⟨steps, counted, done⟩ := bind_ok _ _ _ done
  exact ⟨quotient, steps, divided, counted, done⟩

theorem infinity_not_plain (negative : Bool) : ¬ (Number.infinity negative).Plain := by
  rintro ⟨value, finite, _⟩
  cases finite

theorem nan_not_plain (signaling : Bool) : ¬ (Number.nan signaling).Plain := by
  rintro ⟨value, finite, _⟩
  cases finite

theorem to_multiple_plain_iff (direction : Direction) (amount size rounded : Number) (above : Above size)
    (done : OrderQuantityRoundingPolicy.toMultiple direction amount size = .ok rounded) :
    rounded.Plain ↔ PrintsPlain direction amount size := by
  obtain ⟨quotient, steps, divided, counted, multiplied⟩ := to_multiple_steps direction amount size rounded above done
  cases amount with
  | nan signaling =>
      cases signaling with
      | true => rcases (above_iff size).mp above with rfl | ⟨d, f, _, rfl⟩ <;> cases divided
      | false =>
          rcases (above_iff size).mp above with rfl | ⟨d, f, _, rfl⟩
          all_goals
            cases divided
            cases counted
            cases multiplied
            exact iff_of_false (nan_not_plain false) id
  | infinity negative =>
      rcases (above_iff size).mp above with rfl | ⟨d, f, sized, rfl⟩
      · cases divided
      · cases divided
        cases counted
        have product : (.ok (.infinity ((negative ^^ false) ^^ false)) : Except Trap Number) = .ok rounded :=
          (if_neg sized).symm.trans multiplied
        cases product
        exact iff_of_false (infinity_not_plain _) id
  | finite negative c e =>
      rcases (above_iff size).mp above with rfl | ⟨d, f, sized, rfl⟩
      · -- no step of an infinite size, and no product of none with it
        cases divided
        have none : steps = .finite (negative ^^ false) 0 0 := by
          have tiny : ¬ (0 : ℤ) ≤ defaultContext.etiny := by decide
          simp only [Decimals.toIntegral, if_neg tiny, Decimals.magnitude_zero, neg_zero, ite_self,
            direction.round_zero] at counted
          exact (Except.ok.inj counted).symm
        subst none
        cases multiplied
      · have finished : defaultContext.finish (negative ^^ false) (magnitude c e / magnitude d f) (e - f) =
            .ok quotient := (if_neg sized).symm.trans divided
        cases negative with
        | false => exact product_plain_iff direction c d e f quotient steps rounded sized finished counted multiplied
        | true =>
            obtain ⟨coefficient, exponent, rfl⟩ := defaultContext.finish_finite _ _ _ quotient finished
            have signed : ∃ count place, steps = .finite true count place := by
              simp only [Decimals.toIntegral] at counted
              split_ifs at counted <;> cases counted <;> exact ⟨_, _, rfl⟩
            obtain ⟨count, place, rfl⟩ := signed
            obtain ⟨_, _, rfl⟩ := defaultContext.finish_finite true _ _ rounded multiplied
            exact iff_of_false (Decimals.negative_not_plain _ _) (fun prints => Bool.noConfusion prints.1)

def PrintsPlainMagnitude : Number → Prop
  | .finite _ c e =>
      if c = 0 then -6 ≤ e ∧ e ≤ 0
      else e ≤ 0 ∧ 10 ^ (-6 : ℤ) ≤ defaultContext.rounded (magnitude c e) ∧
        defaultContext.rounded (magnitude c e) < 10 ^ (28 : ℤ)
  | _ => False

theorem absolute_plain_iff (amount absolute : Number) (done : Decimals.absolute defaultContext amount = .ok absolute) :
    absolute.Plain ↔ PrintsPlainMagnitude amount := by
  cases amount with
  | nan signaling =>
      cases signaling with
      | true => cases done
      | false =>
          cases done
          exact iff_of_false (nan_not_plain false) id
  | infinity negative =>
      cases done
      exact iff_of_false (infinity_not_plain false) id
  | finite negative c e =>
      have finished : defaultContext.finish false (magnitude c e) e = .ok absolute := done
      simp only [PrintsPlainMagnitude]
      by_cases zero : c = 0
      · subst zero
        rw [Decimals.magnitude_zero] at finished
        rw [if_pos rfl]
        exact defaultContext.finish_zero_plain_iff tiny_exponents (by decide) e absolute finished
      · rw [if_neg zero, defaultContext.finish_plain_iff digits_kept tiny_exponents _ e absolute
          (Decimals.magnitude_pos c e zero) finished]
        have drawn : (0 < e ∧ Whole (magnitude c e) 1) ↔ 0 < e :=
          ⟨And.left, fun scaled => ⟨scaled, Decimals.whole_below _ e 1 (Decimals.whole_magnitude c e) scaled⟩⟩
        rw [drawn, not_lt]
        constructor
        · rintro ⟨reaches, bounded, unscaled⟩
          exact ⟨unscaled, reaches, bounded⟩
        · rintro ⟨unscaled, reaches, bounded⟩
          exact ⟨reaches, bounded, unscaled⟩

-- A parameter is a plain decimal string whose value is the Decimal's.
def SentAs (text : String) (amount : Number) : Prop :=
  ∃ value, amount.value = some value ∧ Decimals.readPlain text = some value

def FuturesOrderParams.SentExactly (params : FuturesOrderParams) (order : SubmittedOrder Number) : Prop :=
  SentAs params.quantity order.quantity ∧
    (∀ text ∈ params.price, ∃ price ∈ order.price, SentAs text price) ∧
    (∀ text ∈ params.stopPrice, ∃ stopPrice ∈ order.stopPrice, SentAs text stopPrice)

theorem sent_exactly_iff (order : SubmittedOrder Number) (metadata : SymbolFilters Number) (params : FuturesOrderParams)
    (unstopped : order.stopPrice = none) (mapped : mapOrderToFuturesParams Number.str order metadata = .ok params) :
    params.SentExactly order ↔ order.quantity.Plain ∧
      (order.orderType = .limit → ∃ price ∈ order.price, price.Plain) := by
  obtain ⟨_, quantity, price, stopPrice⟩ := mapped_numbers Number.str order metadata params mapped
  have unsent : params.stopPrice = none := by
    cases stop : isStopOrder order.orderType with
    | false => simpa [stop] using stopPrice
    | true => simp [stop, unstopped] at stopPrice
  unfold FuturesOrderParams.SentExactly
  rw [quantity, unsent]
  refine and_congr_right fun _ => ?_
  by_cases limited : order.orderType = .limit
  · rw [limited] at price
    obtain ⟨held, priced, _, sent⟩ := price
    rw [priced, sent]
    simp only [Option.mem_some_iff, forall_eq', exists_eq_left', limited, true_implies]
    exact ⟨And.left, fun plain => ⟨plain, fun text none => by cases none⟩⟩
  · have unpriced : params.price = none := by
      have unlimited : isLimit order.orderType = false := by
        cases kind : order.orderType with
        | limit => exact absurd kind limited
        | _ => rfl
      simpa [unlimited] using price
    rw [unpriced]
    refine iff_of_true ⟨?_, ?_⟩ (fun limit => absurd limit limited)
    all_goals
      intro text sent
      cases sent

theorem sent_numbers_plain_iff (metadata : SymbolFilters Number) (clientOrderId : String) (params : FuturesOrderParams) :
    (∀ (query : PreviewRequest Number) (previewed : PreviewedOrder Number),
      Above metadata.stepSize → Above metadata.tickSize →
      query.execute (some metadata) clientOrderId = .ok previewed →
      mapOrderToFuturesParams Number.str previewed.order metadata = .ok params →
      (params.SentExactly previewed.order ↔
        PrintsPlain .floor query.quantity metadata.stepSize ∧
          (query.orderType = .limit →
            PrintsPlain (OrderQuantityRoundingPolicy.towards query.side) query.referencePrice metadata.tickSize))) ∧
    (∀ (symbol : String) (side : PositionSide) (positionAmt : Number) (order : SubmittedOrder Number),
      closingPosition clientOrderId symbol side positionAmt = .ok order →
      mapOrderToFuturesParams Number.str order metadata = .ok params →
      (params.SentExactly order ↔ PrintsPlainMagnitude positionAmt)) := by
  constructor
  · intro query previewed step tick executed mapped
    obtain ⟨quantity, price, roundedQuantity, roundedPrice, built⟩ :=
      executed_order query metadata clientOrderId previewed executed
    rw [built] at mapped ⊢
    rw [sent_exactly_iff _ metadata params rfl mapped]
    refine and_congr (to_multiple_plain_iff .floor _ _ quantity step roundedQuantity) (forall_congr' fun limited => ?_)
    change query.orderType = .limit at limited
    have priced : isLimit query.orderType = true := by
      rw [limited]
      rfl
    simp only [priced, if_true, Option.mem_some_iff, exists_eq_left']
    exact to_multiple_plain_iff _ _ _ price tick roundedPrice
  · intro symbol side positionAmt order closing mapped
    obtain ⟨quantity, absolute, closing⟩ := bind_ok _ _ _ closing
    cases closing
    rw [sent_exactly_iff _ metadata params rfl mapped]
    refine Iff.trans (and_iff_left fun limited => ?_) (absolute_plain_iff positionAmt quantity absolute)
    cases limited

def bitcoinFilters : SymbolFilters Number where
  stepSize := .finite false 1 (-3)
  tickSize := .finite false 1 (-2)
  minNotional := .finite false 100 0

def bitcoinQuery : PreviewRequest Number where
  symbol := "BTCUSDT"
  side := .buy
  orderType := .limit
  quantity := .finite false 137 (-4)
  referencePrice := .finite false 64000127 (-3)

theorem evaluated_bind {ε β γ : Type} (first : Except ε β) (rest : β → Except ε γ) (result : γ)
    (evaluated : (first >>= rest).toOption = some result) : ∃ value, first = .ok value ∧ rest value = .ok result := by
  cases whole : first >>= rest with
  | error raised =>
      rw [whole] at evaluated
      cases evaluated
  | ok mapped =>
      rw [whole] at evaluated
      cases evaluated
      exact bind_ok _ _ _ whole

theorem sent_numbers_plain_bitcoin :
    ∃ previewed params, bitcoinQuery.execute (some bitcoinFilters) "SEW-a91f4c72e0b8" = .ok previewed ∧
      mapOrderToFuturesParams Number.str previewed.order bitcoinFilters = .ok params ∧
      params.quantity = "0.013" ∧ params.price = some "64000.12" ∧ params.SentExactly previewed.order := by
  obtain ⟨previewed, executed, mapped⟩ := evaluated_bind (bitcoinQuery.execute (some bitcoinFilters) "SEW-a91f4c72e0b8")
    (fun previewed => mapOrderToFuturesParams Number.str previewed.order bitcoinFilters)
    { symbol := "BTCUSDT", side := "BUY", type := "LIMIT", quantity := "0.013", newClientOrderId := "SEW-a91f4c72e0b8"
      positionSide := "BOTH", reduceOnly := false, price := some "64000.12", timeInForce := some "GTC" }
    (by decide +kernel)
  refine ⟨previewed, _, executed, mapped, rfl, rfl, ?_⟩
  have step : Above bitcoinFilters.stepSize := (above_iff _).mpr (.inr ⟨1, -3, one_ne_zero, rfl⟩)
  have tick : Above bitcoinFilters.tickSize := (above_iff _).mpr (.inr ⟨1, -2, one_ne_zero, rfl⟩)
  exact ((sent_numbers_plain_iff bitcoinFilters _ _).1 bitcoinQuery previewed step tick executed mapped).mpr
    ⟨by decide +kernel, fun _ => by decide +kernel⟩

-- A thousand coins typed as `1E+3`, a price of half a millionth, and the
-- amount of a position are sent with an exponent.
theorem numbers_sent_with_exponent :
    (∃ previewed params,
      ({ bitcoinQuery with quantity := .finite false 1 3 } : PreviewRequest Number).execute (some bitcoinFilters)
        "SEW-a91f4c72e0b8" = .ok previewed ∧
      mapOrderToFuturesParams Number.str previewed.order bitcoinFilters = .ok params ∧
      params.quantity = "1E+3" ∧ ¬ params.SentExactly previewed.order) ∧
    (∃ previewed params,
      ({ bitcoinQuery with referencePrice := .finite false 5 (-7) } : PreviewRequest Number).execute
        (some { bitcoinFilters with tickSize := .finite false 1 (-7) }) "SEW-a91f4c72e0b8" = .ok previewed ∧
      mapOrderToFuturesParams Number.str previewed.order { bitcoinFilters with tickSize := .finite false 1 (-7) } =
        .ok params ∧
      params.price = some "5E-7" ∧ ¬ params.SentExactly previewed.order) ∧
    (∃ order params, closingPosition "SEW-a91f4c72e0b8" "BTCUSDT" .long (.finite false 5 (-7) : Number) = .ok order ∧
      mapOrderToFuturesParams Number.str order { bitcoinFilters with stepSize := .finite false 1 (-7) } = .ok params ∧
      params.quantity = "5E-7" ∧ ¬ params.SentExactly order) := by
  have unread (text : String) (amount : Number) (exponential : Decimals.readPlain text = none) : ¬ SentAs text amount := by
    rintro ⟨value, _, read⟩
    rw [exponential] at read
    cases read
  refine ⟨?_, ?_, ?_⟩
  · obtain ⟨previewed, executed, mapped⟩ := evaluated_bind
      (({ bitcoinQuery with quantity := .finite false 1 3 } : PreviewRequest Number).execute (some bitcoinFilters)
        "SEW-a91f4c72e0b8")
      (fun previewed => mapOrderToFuturesParams Number.str previewed.order bitcoinFilters)
      { symbol := "BTCUSDT", side := "BUY", type := "LIMIT", quantity := "1E+3", newClientOrderId := "SEW-a91f4c72e0b8"
        positionSide := "BOTH", reduceOnly := false, price := some "64000.12", timeInForce := some "GTC" }
      (by decide +kernel)
    exact ⟨previewed, _, executed, mapped, rfl, fun exact => unread "1E+3" _ (by decide +kernel) exact.1⟩
  · obtain ⟨previewed, executed, mapped⟩ := evaluated_bind
      (({ bitcoinQuery with referencePrice := .finite false 5 (-7) } : PreviewRequest Number).execute
        (some { bitcoinFilters with tickSize := .finite false 1 (-7) }) "SEW-a91f4c72e0b8")
      (fun previewed =>
        mapOrderToFuturesParams Number.str previewed.order { bitcoinFilters with tickSize := .finite false 1 (-7) })
      { symbol := "BTCUSDT", side := "BUY", type := "LIMIT", quantity := "0.013", newClientOrderId := "SEW-a91f4c72e0b8"
        positionSide := "BOTH", reduceOnly := false, price := some "5E-7", timeInForce := some "GTC" }
      (by decide +kernel)
    refine ⟨previewed, _, executed, mapped, rfl, fun exact => ?_⟩
    obtain ⟨price, _, sent⟩ := exact.2.1 "5E-7" rfl
    exact unread "5E-7" price (by decide +kernel) sent
  · obtain ⟨order, closing, mapped⟩ := evaluated_bind
      (computed (closingPosition "SEW-a91f4c72e0b8" "BTCUSDT" .long (.finite false 5 (-7) : Number)))
      (fun order => mapOrderToFuturesParams Number.str order { bitcoinFilters with stepSize := .finite false 1 (-7) })
      { symbol := "BTCUSDT", side := "SELL", type := "MARKET", quantity := "5E-7"
        newClientOrderId := "SEW-a91f4c72e0b8", positionSide := "BOTH", reduceOnly := true } (by decide +kernel)
    exact ⟨order, _, computed_ok _ _ closing, mapped, rfl, fun exact => unread "5E-7" _ (by decide +kernel) exact.1⟩

end Sagittarius
