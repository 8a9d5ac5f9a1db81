import Sagittarius.Trading.FuturesPayloads
import Sagittarius.Trading.PlainNumerals

set_option autoImplicit false

namespace Sagittarius

open Decimals (Number Trap magnitude)

inductive DecodingError
  | payload (error : PyError)
  | arithmetic (trap : Trap)
  | overflowError (message : String)
  | valueError (message : String)

def traps {β : Type} (result : Except Trap β) : Except DecodingError β := result.mapError .arithmetic

structure DecodedPosition where
  symbol : String
  positionAmt : Number
  entryPrice : Number
  markPrice : Number
  unrealizedPnl : Number
  leverage : ℤ
  marginType : MarginType
  liquidationPrice : Option Number
  updatedAt : ℤ

def DecodedPosition.side (position : DecodedPosition) : Except Trap PositionSide := do
  return if ← DecimalArithmetic.atMost position.positionAmt DecimalArithmetic.zero then .short else .long

def intOf (number : Number) : Except DecodingError ℤ :=
  match number.truncated with
  | some value => .ok value
  | none =>
      .error (match number with
        | .nan _ => .valueError "cannot convert NaN to integer"
        | _ => .overflowError "cannot convert Infinity to integer")

namespace DecodedPosition

variable (decimal : String → Except PyError Number)

def numberField (key : String) (raw : Option String) : Except DecodingError Number :=
  (do decimal (← required key raw) : Except PyError Number).mapError .payload

def numberOrNone : Option String → Except DecodingError (Option Number)
  | none => .ok none
  | some raw => do
      let value ← (decimal raw).mapError .payload
      return if ← traps (DecimalArithmetic.isZero value) then none else some value

def leverageFromMargin (payload : PositionPayload) : Except DecodingError ℤ := do
  let notional ← numberField decimal "notional" payload.notional
  let initialMargin ← numberField decimal "initialMargin" payload.initialMargin
  if ← traps (DecimalArithmetic.isZero initialMargin) then throw (.payload (.keyError "leverage"))
  let quotient ← traps (DecimalArithmetic.divide notional initialMargin)
  intOf (← traps (Decimals.nearestIntegral quotient))

def marginTypeFromIsolation (payload : PositionPayload) : Except DecodingError MarginType := do
  let isolatedMargin ← numberOrNone decimal payload.isolatedMargin
  return if isolatedMargin.isSome then .isolated else .crossed

def ofPayload (now : ℤ) (payload : PositionPayload) : Except DecodingError DecodedPosition := do
  let liquidationPrice ← numberOrNone decimal payload.liquidationPrice
  let updatedAt := ((truthyTime payload.updateTime).map (· * 1000)).getD now
  let symbol ← (required "symbol" payload.symbol).mapError .payload
  let positionAmt ← numberField decimal "positionAmt" payload.positionAmt
  let entryPrice ← numberField decimal "entryPrice" payload.entryPrice
  let markPrice ← numberField decimal "markPrice" payload.markPrice
  let unrealizedPnl ← numberField decimal "unRealizedProfit" payload.unRealizedProfit
  let leverage ← leverageFromMargin decimal payload
  let marginType ← marginTypeFromIsolation decimal payload
  return { symbol, positionAmt, entryPrice, markPrice, unrealizedPnl, leverage, marginType, liquidationPrice, updatedAt }

def openOf (now : ℤ) (payload : PositionPayload) : Except DecodingError (Option DecodedPosition) := do
  let positionAmt ← (decimal (payload.positionAmt.getD "0")).mapError .payload
  if ← traps (DecimalArithmetic.isZero positionAmt) then return none
  else return some (← ofPayload decimal now payload)

def Reads (raw : Option String) (value : ℚ) : Prop :=
  ∃ text number, raw = some text ∧ decimal text = .ok number ∧ number.value = some value

-- The payload of a position of this signed amount and leverage: every field the
-- mapper asks for is there and a number, and the margin is that of the leverage.
structure Leveraged (payload : PositionPayload) (amount : ℚ) (leverage : ℕ) : Prop where
  symbol : payload.symbol.isSome = true
  positionAmt : Reads decimal payload.positionAmt amount
  entryPrice : ∃ value, Reads decimal payload.entryPrice value
  markPrice : ∃ value, Reads decimal payload.markPrice value
  unRealizedProfit : ∃ value, Reads decimal payload.unRealizedProfit value
  isolatedMargin : ∀ text, payload.isolatedMargin = some text → ∃ value, Reads decimal (some text) value
  liquidationPrice : ∀ text, payload.liquidationPrice = some text → ∃ value, Reads decimal (some text) value
  nonflat : amount ≠ 0
  leveraged : 1 ≤ leverage
  margin : ∃ notional initialMargin, Reads decimal payload.notional notional ∧
    Reads decimal payload.initialMargin initialMargin ∧ |notional| = leverage * initialMargin ∧
    (0 < notional ↔ 0 < amount) ∧ (notional < 0 ↔ amount < 0)

def Faithful (position : DecodedPosition) (amount : ℚ) (leverage : ℕ) : Prop :=
  (position.side = .ok .long ↔ 0 < amount) ∧ position.positionAmt.value.map abs = some |amount| ∧
    position.leverage = leverage

-- No more digits than the context keeps, and no greater than it reaches.
def Fits (leverage : ℕ) : Prop :=
  defaultContext.rounded leverage = leverage ∧ (leverage : ℚ) < 10 ^ (defaultContext.emax + 1)

variable {decimal}

theorem number_field_reads (key : String) (raw : Option String) (value : ℚ) (reads : Reads decimal raw value) :
    ∃ number, numberField decimal key raw = .ok number ∧ number.value = some value := by
  obtain ⟨text, number, rfl, read, same⟩ := reads
  exact ⟨number, by rw [numberField, required]; simp [bind, Except.bind, read, Except.mapError], same⟩

theorem finite_of_value (number : Number) (value : ℚ) (same : number.value = some value) :
    ∃ negative coefficient exponent, number = .finite negative coefficient exponent ∧
      value = Number.signed negative coefficient exponent := by
  cases number with
  | finite negative coefficient exponent => exact ⟨negative, coefficient, exponent, rfl, (Option.some.inj same).symm⟩
  | infinity => cases same
  | nan => cases same

theorem number_or_none_reads (raw : Option String)
    (reads : ∀ text, raw = some text → ∃ value, Reads decimal (some text) value) :
    ∃ number, numberOrNone decimal raw = .ok number := by
  cases raw with
  | none => exact ⟨none, rfl⟩
  | some text =>
      obtain ⟨value, _, number, ⟨⟩, read, same⟩ := reads text rfl
      obtain ⟨negative, coefficient, exponent, rfl, -⟩ := finite_of_value number value same
      exact ⟨_, by rw [numberOrNone, read]; rfl⟩

theorem signed_abs (negative : Bool) (coefficient : ℕ) (exponent : ℤ) :
    |Number.signed negative coefficient exponent| = magnitude coefficient exponent := by
  have nonnegative := Decimals.magnitude_nonneg coefficient exponent
  cases negative with
  | false => exact abs_of_nonneg nonnegative
  | true => exact (abs_neg _).trans (abs_of_nonneg nonnegative)

theorem signed_positive (negative : Bool) (coefficient : ℕ) (exponent : ℤ)
    (positive : 0 < Number.signed negative coefficient exponent) : negative = false ∧ coefficient ≠ 0 := by
  have nonnegative := Decimals.magnitude_nonneg coefficient exponent
  cases negative with
  | false =>
      refine ⟨rfl, ?_⟩
      rintro rfl
      rw [Number.signed, if_neg (by decide), Decimals.magnitude_zero] at positive
      exact absurd positive (lt_irrefl _)
  | true =>
      rw [Number.signed, if_pos rfl] at positive
      linarith

theorem signed_negative_iff (negative : Bool) (coefficient : ℕ) (exponent : ℤ)
    (nonzero : Number.signed negative coefficient exponent ≠ 0) :
    negative = true ↔ Number.signed negative coefficient exponent < 0 := by
  have nonnegative := Decimals.magnitude_nonneg coefficient exponent
  cases negative with
  | false => exact iff_of_false (by decide) (not_lt.mpr nonnegative)
  | true =>
      rw [Number.signed, if_pos rfl] at nonzero ⊢
      exact iff_of_true rfl (lt_of_le_of_ne (by linarith) nonzero)

theorem leverage_from_margin_eq (payload : PositionPayload) (leverage : ℕ) (notional initialMargin : ℚ)
    (leveraged : 1 ≤ leverage) (readsNotional : Reads decimal payload.notional notional)
    (readsMargin : Reads decimal payload.initialMargin initialMargin) (nonzero : notional ≠ 0)
    (ratio : |notional| = leverage * initialMargin) :
    leverageFromMargin decimal payload =
      if defaultContext.rounded leverage < 10 ^ (defaultContext.emax + 1) then
        .ok (if notional < 0 then -defaultContext.rounded leverage else defaultContext.rounded leverage).roundHalfEven
      else .error (.arithmetic .overflow) := by
  obtain ⟨number, readNotional, valued⟩ := number_field_reads "notional" _ _ readsNotional
  obtain ⟨margin, readMargin, marginValued⟩ := number_field_reads "initialMargin" _ _ readsMargin
  obtain ⟨s, c, e, rfl, rfl⟩ := finite_of_value number notional valued
  obtain ⟨t, d, f, rfl, rfl⟩ := finite_of_value margin initialMargin marginValued
  have counted : (1 : ℚ) ≤ leverage := by exact_mod_cast leveraged
  have positive : 0 < Number.signed t d f := by
    by_contra nonpositive
    have product := mul_nonpos_of_nonneg_of_nonpos (zero_le_one.trans counted) (not_lt.mp nonpositive)
    exact absurd (abs_pos.mpr nonzero) (not_lt.mpr (ratio.trans_le product))
  obtain ⟨rfl, divisor⟩ := signed_positive t d f positive
  have quotient : magnitude c e / magnitude d f = leverage := by
    rw [signed_abs] at ratio
    rw [ratio]
    exact mul_div_cancel_right₀ _ positive.ne'
  obtain ⟨coefficient, exponent, same, finished⟩ :=
    defaultContext.finish_range digits_kept (by decide) s leverage (e - f) counted
  have divided : DecimalArithmetic.divide (Number.finite s c e) (.finite false d f) =
      defaultContext.finish s leverage (e - f) := by
    simp only [DecimalArithmetic.divide, Decimals.divide, Decimals.operands, if_neg divisor, Bool.xor_false, quotient]
  have zero : DecimalArithmetic.isZero (Number.finite false d f) = .ok false := by
    simp [DecimalArithmetic.isZero, Decimals.isZero, divisor]
  rw [leverageFromMargin, readNotional, readMargin]
  simp only [bind, Except.bind, zero, traps, Except.mapError, divided, finished]
  by_cases ranged : defaultContext.rounded leverage < 10 ^ (defaultContext.emax + 1)
  · obtain ⟨integral, nearest, truncated⟩ := Decimals.nearest_truncated s coefficient exponent
    have signed : Number.signed s coefficient exponent =
        if Number.signed s c e < 0 then -defaultContext.rounded leverage else defaultContext.rounded leverage := by
      rw [← same, Number.signed]
      exact if_congr (signed_negative_iff s c e nonzero) rfl rfl
    simp only [if_pos ranged, nearest, intOf, truncated, signed]
    exact if_neg Bool.false_ne_true
  · rw [if_neg ranged, if_neg ranged]
    rfl

theorem open_of_leveraged (now : ℤ) (payload : PositionPayload) (amount : ℚ) (leverage : ℕ)
    (leveraged : Leveraged decimal payload amount leverage) :
    ∃ build : ℤ → DecodedPosition,
      (∀ found, (build found).leverage = found ∧ (build found).positionAmt.value = some amount) ∧
        openOf decimal now payload = (leverageFromMargin decimal payload).map fun found => some (build found) := by
  obtain ⟨symbol, named⟩ := Option.isSome_iff_exists.mp leveraged.symbol
  obtain ⟨_, readsEntry⟩ := leveraged.entryPrice
  obtain ⟨_, readsMark⟩ := leveraged.markPrice
  obtain ⟨_, readsPnl⟩ := leveraged.unRealizedProfit
  obtain ⟨entryPrice, entry, -⟩ := number_field_reads "entryPrice" _ _ readsEntry
  obtain ⟨markPrice, mark, -⟩ := number_field_reads "markPrice" _ _ readsMark
  obtain ⟨unrealizedPnl, pnl, -⟩ := number_field_reads "unRealizedProfit" _ _ readsPnl
  obtain ⟨liquidationPrice, liquidation⟩ := number_or_none_reads _ leveraged.liquidationPrice
  obtain ⟨isolatedMargin, isolated⟩ := number_or_none_reads _ leveraged.isolatedMargin
  obtain ⟨positionAmt, amt, valued⟩ := number_field_reads "positionAmt" _ _ leveraged.positionAmt
  obtain ⟨text, number, held, read, same⟩ := leveraged.positionAmt
  have parsed : number = positionAmt := by
    rw [numberField, held, required] at amt
    simpa [bind, Except.bind, read, Except.mapError] using amt
  obtain ⟨s, c, e, rfl, amountIs⟩ := finite_of_value positionAmt amount valued
  have nonzero : c ≠ 0 := by
    rintro rfl
    refine leveraged.nonflat ?_
    rw [amountIs, Number.signed, Decimals.magnitude_zero]
    simp
  refine ⟨fun found => {
    symbol, entryPrice, markPrice, unrealizedPnl, liquidationPrice
    positionAmt := .finite s c e
    leverage := found
    marginType := if isolatedMargin.isSome then .isolated else .crossed
    updatedAt := ((truthyTime payload.updateTime).map (· * 1000)).getD now }, fun found => ⟨rfl, valued⟩, ?_⟩
  have zero : DecimalArithmetic.isZero (Number.finite s c e) = .ok false := by
    simp [DecimalArithmetic.isZero, Decimals.isZero, nonzero]
  rw [openOf, held, Option.getD_some, read, parsed]
  simp only [Except.mapError, bind, Except.bind, zero, traps, ofPayload, liquidation, named, required, amt, entry, mark,
    pnl, marginTypeFromIsolation, isolated]
  rw [if_neg Bool.false_ne_true]
  cases leverageFromMargin decimal payload <;> rfl

theorem side_of_value (position : DecodedPosition) (amount : ℚ) (valued : position.positionAmt.value = some amount) :
    position.side = .ok (if amount ≤ 0 then .short else .long) := by
  obtain ⟨s, c, e, number, rfl⟩ := finite_of_value position.positionAmt amount valued
  rw [side, number]
  simp only [DecimalArithmetic.atMost, DecimalArithmetic.zero, Decimals.atMost, bind, Except.bind, pure, Except.pure,
    Decimals.magnitude_zero, Bool.false_eq_true, if_false, decide_eq_true_eq]
  rfl

theorem faithful_iff (position : DecodedPosition) (amount : ℚ) (leverage : ℕ)
    (valued : position.positionAmt.value = some amount) : position.Faithful amount leverage ↔ position.leverage = leverage := by
  have side : position.side = .ok .long ↔ 0 < amount := by
    rw [side_of_value position amount valued]
    by_cases positive : 0 < amount
    · simp [positive, not_le.mpr positive]
    · simp [positive, not_lt.mp positive]
  rw [Faithful, valued]
  exact ⟨fun faithful => faithful.2.2, fun same => ⟨side, rfl, same⟩⟩

theorem fits_iff (leverage : ℕ) : Fits leverage ↔
    defaultContext.rounded leverage < 10 ^ (defaultContext.emax + 1) ∧
      (defaultContext.rounded leverage).roundHalfEven = leverage := by
  obtain ⟨whole, same⟩ := defaultContext.rounded_integral leverage
  rw [Int.cast_natCast] at same
  rw [Fits, same, Rat.round_half_even_int]
  constructor
  · rintro ⟨exact, ranged⟩
    rw [exact]
    exact ⟨ranged, by exact_mod_cast exact⟩
  · rintro ⟨ranged, rfl⟩
    exact ⟨by push_cast; rfl, by simpa using ranged⟩

theorem decodes_faithfully_iff (decimal : String → Except PyError Number) (now : ℤ) (payload : PositionPayload) (amount : ℚ)
    (leverage : ℕ) (leveraged : Leveraged decimal payload amount leverage) :
    (∃ position, openOf decimal now payload = .ok (some position) ∧ position.Faithful amount leverage) ↔
      0 < amount ∧ Fits leverage := by
  obtain ⟨build, built, opened⟩ := open_of_leveraged now payload amount leverage leveraged
  obtain ⟨notional, initialMargin, readsNotional, readsMargin, ratio, above, below⟩ := leveraged.margin
  have nonzero : notional ≠ 0 := by
    rcases lt_or_gt_of_ne leveraged.nonflat with negative | positive
    · exact (below.mpr negative).ne
    · exact (above.mpr positive).ne'
  rw [opened, leverage_from_margin_eq payload leverage notional initialMargin leveraged.leveraged readsNotional readsMargin
    nonzero ratio, fits_iff]
  by_cases ranged : defaultContext.rounded leverage < 10 ^ (defaultContext.emax + 1)
  · rw [if_pos ranged]
    have faithful (found : ℤ) : (build found).Faithful amount leverage ↔ found = leverage := by
      rw [faithful_iff _ amount leverage (built found).2, (built found).1]
    have mapped (found : ℤ) :
        (∃ position, (Except.ok found : Except DecodingError ℤ).map (fun found => some (build found)) = .ok (some position) ∧
          position.Faithful amount leverage) ↔ found = leverage := by
      rw [← faithful]
      constructor
      · rintro ⟨_, ⟨⟩, holds⟩
        exact holds
      · intro holds
        exact ⟨build found, rfl, holds⟩
    rw [mapped]
    by_cases short : notional < 0
    · have counted : (10 : ℚ) ^ (0 : ℤ) ≤ leverage := by simpa using leveraged.leveraged
      have reached := defaultContext.le_rounded digits_kept leverage 0 (by decide) counted
      have lowered : (-defaultContext.rounded leverage).roundHalfEven ≤ 0 :=
        Rat.round_half_even_le 0 _ (by rw [zpow_zero] at reached; push_cast; linarith)
      have leverages := leveraged.leveraged
      rw [if_pos short]
      exact iff_of_false (by omega) fun holds => lt_asymm holds.1 (below.mp short)
    · have long : 0 < amount := above.mp (lt_of_le_of_ne (not_lt.mp short) nonzero.symm)
      rw [if_neg short]
      exact ⟨fun same => ⟨long, ranged, same⟩, fun holds => holds.2.2⟩
  · rw [if_neg ranged]
    refine iff_of_false ?_ fun holds => ranged holds.2.1
    rintro ⟨_, raised, _⟩
    cases raised

def readNumber (text : String) : Except PyError Number :=
  let negative := text.toList.head? = some '-'
  let numeral := if negative then text.toList.tail else text.toList
  let whole := numeral.takeWhile (· ≠ '.')
  let fraction := (numeral.dropWhile (· ≠ '.')).drop 1
  if whole ++ fraction ≠ [] ∧ (whole ++ fraction).all Char.isDigit then
    .ok (.finite negative (Nat.ofDigitChars 10 (whole ++ fraction) 0) (-fraction.length))
  else .error (.invalidOperation text)

def tenfold (positionAmt notional : String) : PositionPayload where
  symbol := some "BTCUSDT"
  positionAmt := some positionAmt
  entryPrice := some "60000"
  markPrice := some "60100"
  unRealizedProfit := some "50"
  notional := some notional
  initialMargin := some "3005"
  isolatedMargin := some "0"
  liquidationPrice := some "45000"
  updateTime := some 1735689600000

theorem reads_number (text : String) (number : Number) (value : ℚ) (read : readNumber text = .ok number)
    (same : number.value = some value) : Reads readNumber (some text) value := ⟨text, number, rfl, read, same⟩

theorem tenfold_leveraged (positionAmt notional : String) (amount size : ℚ)
    (readsAmt : Reads readNumber (some positionAmt) amount) (readsNotional : Reads readNumber (some notional) size)
    (nonflat : amount ≠ 0) (ratio : |size| = 10 * 3005) (above : 0 < size ↔ 0 < amount) (below : size < 0 ↔ amount < 0) :
    Leveraged readNumber (tenfold positionAmt notional) amount 10 where
  symbol := rfl
  positionAmt := readsAmt
  entryPrice := ⟨60000, reads_number "60000" (.finite false 60000 0) _ (by decide +kernel) (by decide +kernel)⟩
  markPrice := ⟨60100, reads_number "60100" (.finite false 60100 0) _ (by decide +kernel) (by decide +kernel)⟩
  unRealizedProfit := ⟨50, reads_number "50" (.finite false 50 0) _ (by decide +kernel) (by decide +kernel)⟩
  isolatedMargin := by
    rintro _ ⟨⟩
    exact ⟨0, reads_number "0" (.finite false 0 0) _ (by decide +kernel) (by decide +kernel)⟩
  liquidationPrice := by
    rintro _ ⟨⟩
    exact ⟨45000, reads_number "45000" (.finite false 45000 0) _ (by decide +kernel) (by decide +kernel)⟩
  nonflat := nonflat
  leveraged := by decide
  margin := ⟨size, 3005, readsNotional,
    reads_number "3005" (.finite false 3005 0) _ (by decide +kernel) (by decide +kernel), ratio, above, below⟩

theorem decodes_long_faithfully :
    (∃ position, openOf readNumber 0 (tenfold "0.5" "30050") = .ok (some position) ∧ position.Faithful (1 / 2) 10) ↔
      0 < (1 / 2 : ℚ) ∧ Fits 10 :=
  decodes_faithfully_iff readNumber 0 (tenfold "0.5" "30050") (1 / 2) 10
    (tenfold_leveraged "0.5" "30050" (1 / 2) 30050
      (reads_number "0.5" (.finite false 5 (-1)) _ (by decide +kernel) (by decide +kernel))
      (reads_number "30050" (.finite false 30050 0) _ (by decide +kernel) (by decide +kernel))
      (by norm_num) (by norm_num) (by norm_num) (by norm_num))

theorem short_leverage_negative :
    ¬ ∀ (decimal : String → Except PyError Number) (now : ℤ) (payload : PositionPayload) (amount : ℚ) (leverage : ℕ),
      Leveraged decimal payload amount leverage →
        ∃ position, openOf decimal now payload = .ok (some position) ∧ position.Faithful amount leverage := by
  intro claimed
  obtain ⟨position, opened, -, -, leverage⟩ := claimed readNumber 0 (tenfold "-0.5" "-30050") (-1 / 2) 10
    (tenfold_leveraged "-0.5" "-30050" (-1 / 2) (-30050)
      (reads_number "-0.5" (.finite true 5 (-1)) _ (by decide +kernel) (by decide +kernel))
      (reads_number "-30050" (.finite true 30050 0) _ (by decide +kernel) (by decide +kernel))
      (by norm_num) (by norm_num) (by norm_num) (by norm_num))
  have read : (openOf readNumber 0 (tenfold "-0.5" "-30050")).toOption.map (Option.map DecodedPosition.leverage) =
      some (some (-10)) := by decide +kernel
  rw [opened] at read
  have same : position.leverage = -10 := by simpa [Except.toOption] using read
  rw [same] at leverage
  cases leverage

end DecodedPosition

end Sagittarius
