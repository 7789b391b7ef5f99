/-
# The nearest quotient

Division goes digit by digit, in strides, and stops at one of several places: when nothing
remains, when there is no room for another digit, or when a stride has led out of range and
is taken back. Wherever it stops, the result is the amount nearest to the exact quotient:
`toRat_div?`.

`Tracks` is the invariant of the long division: digits, remainder and scale together are
the exact quotient, with nothing lost. So each way to stop is one fact about the number.
-/

import Payslip.Decimal.Division
import Payslip.Proofs.Decimal.Nearest

namespace Payslip.Decimal.Quotient

/-- Ten to the power of a whole number. -/
def power (scale : ℤ) : ℚ := (10 : ℚ) ^ scale

theorem power_natCast (scale : ℕ) : power scale = tenPow scale := by
  rw [power, zpow_natCast, tenPow_eq_pow, Nat.cast_pow, Nat.cast_ofNat]

theorem power_add (scale : ℤ) (step : ℕ) : power (scale + step) = power scale * tenPow step := by
  rw [← power_natCast, power, power, power, zpow_add₀ (by norm_num)]

theorem power_pos (scale : ℤ) : 0 < power scale := by
  rw [power]
  exact zpow_pos (by norm_num) scale

/-- The division of a number has come to these digits, at this scale, and to this remainder. -/
structure Tracks (v : ℚ) (divisor digits remainder : ℕ) (scale : ℤ) : Prop where
  value_eq : v * power scale = digits + remainder / divisor
  proper : remainder < divisor
  inRange : digits < bound
  inScale : scale ≤ maxScale

/-- What a quotient stands for. -/
def value (quotient : Quotient) : ℚ := quotient.digits / tenPow quotient.scale.toNat

/-- The quotient is an amount. -/
structure InRange (quotient : Quotient) : Prop where
  digits_lt : quotient.digits < bound
  scale_nonneg : 0 ≤ quotient.scale
  scale_le : quotient.scale ≤ maxScale

/-- The result of a division is the nearest amount, if there is one. -/
def Settles (v : ℚ) (result : Option Quotient) : Prop :=
  result.map value = nearest? v ∧ ∀ quotient, result = some quotient → quotient.InRange

variable {v : ℚ} {divisor digits remainder : ℕ} {scale : ℤ} {extended : Bool}

namespace Tracks

theorem divisor_pos (tracks : Tracks v divisor digits remainder scale) : 0 < divisor :=
  (Nat.zero_le remainder).trans_lt tracks.proper

theorem digits_le (tracks : Tracks v divisor digits remainder scale) :
    (digits : ℚ) ≤ v * power scale := by
  rw [tracks.value_eq]
  have fraction : (0 : ℚ) ≤ remainder / divisor := by positivity
  linarith

theorem nonneg (tracks : Tracks v divisor digits remainder scale) : 0 ≤ v := by
  have large := (Nat.cast_nonneg digits).trans tracks.digits_le
  exact nonneg_of_mul_nonneg_left large (power_pos scale)

/-- If only the digits so far reach the bound further on, so does the number. -/
theorem reaches (tracks : Tracks v divisor digits remainder scale) {step : ℕ}
    (large : bound ≤ digits * tenPow step) : (bound : ℚ) ≤ v * power (scale + step) := by
  have cast : (bound : ℚ) ≤ digits * tenPow step := by exact_mod_cast large
  rw [power_add, ← mul_assoc]
  exact cast.trans (mul_le_mul_of_nonneg_right tracks.digits_le (Nat.cast_nonneg _))

/-- The next digits do not change the number. -/
theorem value_mul_power (tracks : Tracks v divisor digits remainder scale) (step : ℕ) :
    v * power (scale + step) =
      (digits * tenPow step + remainder * tenPow step / divisor : ℕ) +
        (remainder * tenPow step % divisor : ℕ) / divisor := by
  have parts := natCast_div_eq (remainder * tenPow step) tracks.divisor_pos
  rw [power_add, ← mul_assoc, tracks.value_eq, add_mul, div_mul_eq_mul_div, ← Nat.cast_mul,
    ← Nat.cast_mul, parts]
  push_cast
  ring

end Tracks

/-- A number that reaches the bound at a scale without digits after the point has no room. -/
theorem not_fits_zero (nonneg : 0 ≤ v) (large : bound ≤ v * power scale) (whole : scale ≤ 0) :
    ¬ Fits v 0 := by
  have shrinks : power scale ≤ 1 := by
    rw [power]
    exact zpow_le_one_of_nonpos₀ (by norm_num) whole
  apply not_fits_of_le
  rw [tenPow_zero, Nat.cast_one, mul_one]
  exact large.trans (mul_le_of_le_one_right nonneg shrinks)

theorem settles_none (large : ¬ Fits v 0) : Settles v none :=
  ⟨(nearest?_eq_none large).symm, fun _ none => by cases none⟩

/-- Digits that are the number rounded at its last scale settle the division. -/
theorem settles_some {kept places : ℕ} (nonneg : 0 ≤ v) (inScale : places ≤ maxScale)
    (rounded : nearestEven (v * tenPow places) = kept) (small : kept < bound)
    (last : places = maxScale ∨ ¬ Fits v (places + 1)) :
    Settles v (some ⟨kept, places, extended⟩) := by
  have fits : Fits v places := by
    rw [fits_iff_nearestEven_lt nonneg, rounded]
    exact_mod_cast small
  constructor
  · rw [nearest?_of_last inScale fits last, roundAt, rounded]
    rfl
  · intro quotient same
    cases same
    exact ⟨small, Int.natCast_nonneg places, Int.ofNat_le.mpr inScale⟩

/-! ## Strides -/

theorem mem_strides {step : ℕ} : step ∈ [9, 8, 7, 6, 5, 4, 3, 2, 1] ↔ 0 < step ∧ step ≤ 9 := by
  simp only [List.mem_cons, List.not_mem_nil, or_false]
  omega

theorem room_le (digits : ℕ) (scale : ℤ) : room digits scale ≤ 9 := by
  rw [room]
  cases found : List.find? _ _ with
  | none => exact Nat.zero_le 9
  | some step => exact (mem_strides.mp (List.mem_of_find?_eq_some found)).2

theorem room_fits (digits : ℕ) (scale : ℤ) (open_room : 0 < room digits scale) :
    scale + room digits scale ≤ maxScale ∧ digits * tenPow (room digits scale) < bound := by
  rw [room] at open_room ⊢
  cases found : List.find? _ _ with
  | none =>
      rw [found] at open_room
      cases open_room
  | some step => simpa using List.find?_some found

/-- There is no room for more. -/
theorem bound_le_of_room_lt (digits : ℕ) (scale : ℤ) {more : ℕ}
    (beyond : room digits scale < more) (within : more ≤ 9)
    (inScale : scale + more ≤ maxScale) : bound ≤ digits * tenPow more := by
  have listed := mem_strides.mpr ⟨Nat.zero_lt_of_lt beyond, within⟩
  rw [room] at beyond
  generalize found : List.find? _ _ = chosen at beyond
  cases chosen with
  | none =>
      have full := List.find?_eq_none.mp found more listed
      simpa [inScale] using full
  | some step =>
      rw [Option.getD_some] at beyond
      obtain ⟨-, before, after, split, refused⟩ := List.find?_eq_some_iff_append.mp found
      -- the strides are tried from the longest on, so this one was refused before
      have falling : List.Pairwise (· > ·) [9, 8, 7, 6, 5, 4, 3, 2, 1] := by decide
      rw [split] at falling listed
      have earlier : more ∈ before := by
        rcases List.mem_append.mp listed with earlier | later
        · exact earlier
        rcases List.mem_cons.mp later with rfl | later
        · exact absurd beyond (Nat.lt_irrefl more)
        · have less := List.rel_of_pairwise_cons (List.pairwise_append.mp falling).2.1 later
          exact absurd beyond (Nat.lt_asymm less)
      simpa [inScale] using refused more earlier

theorem stride_le (digits remainder : ℕ) (scale : ℤ) : stride digits remainder scale ≤ 9 := by
  rw [stride]
  split
  · exact Nat.min_le_left 9 _
  · exact room_le digits scale

/-! ## Taking a digit back -/

/-- A digit is above the middle when it is more than five, and in the middle when it is five and
nothing is below it. -/
theorem last_digit_iff {digit rest q : ℕ} (proper : rest < divisor) :
    (10 * divisor < 2 * (digit * divisor + rest) ∨
        (2 * (digit * divisor + rest) = 10 * divisor ∧ q % 2 = 1)) ↔
      5 < digit ∨ (digit = 5 ∧ ((rest != 0) = true ∨ q % 2 = 1)) := by
  rw [bne_iff_ne]
  rcases Nat.lt_trichotomy digit 5 with less | rfl | more
  · have most : digit * divisor ≤ 4 * divisor := Nat.mul_le_mul_right divisor (by omega)
    omega
  · omega
  · have least : 6 * divisor ≤ digit * divisor := Nat.mul_le_mul_right divisor (by omega)
    omega

/-- A digit is rounded away by what was there below it. -/
theorem nearestEven_div_ten (total : ℕ) {rest : ℕ} (proper : rest < divisor) :
    nearestEven ((total + rest / divisor) / 10) =
      (if 5 < total % 10 ∨ (total % 10 = 5 ∧ ((rest != 0) = true ∨ total / 10 % 2 = 1))
        then total / 10 + 1 else total / 10 : ℕ) := by
  have positive : (divisor : ℚ) ≠ 0 := by
    exact_mod_cast ((Nat.zero_le rest).trans_lt proper).ne'
  have lower : total % 10 * divisor + rest < 10 * divisor := by
    have digit : total % 10 * divisor ≤ 9 * divisor := Nat.mul_le_mul_right divisor (by omega)
    omega
  have value : (total + rest / divisor : ℚ) / 10 =
      (total / 10 : ℕ) + ((total % 10 * divisor + rest : ℕ) : ℚ) / (10 * divisor : ℕ) := by
    have whole : (total : ℚ) = (total / 10 : ℕ) * 10 + (total % 10 : ℕ) := by
      exact_mod_cast (Nat.div_add_mod' total 10).symm
    rw [whole, Nat.cast_add, Nat.cast_mul, Nat.cast_mul, Nat.cast_ofNat]
    field_simp
    ring
  rw [value, nearestEven_add_div lower]
  simp only [last_digit_iff proper]

/-- A quotient that has grown out of range by less than a digit fits when one is taken back. -/
theorem settles_stepBack? {total rest : ℕ} (nonneg : 0 ≤ v)
    (value_eq : v * power scale = total + rest / divisor) (proper : rest < divisor)
    (large : bound ≤ total) (most : total < 2 * bound) (inScale : scale ≤ maxScale) :
    Settles v (stepBack? total scale extended (rest != 0)) := by
  have reaches : (bound : ℚ) ≤ v * power scale := by
    have fraction : (0 : ℚ) ≤ rest / divisor := by positivity
    have cast : (bound : ℚ) ≤ total := by exact_mod_cast large
    linarith
  rw [stepBack?]
  split
  · exact settles_none (not_fits_zero nonneg reaches (by omega))
  · obtain ⟨places, rfl⟩ : ∃ places : ℕ, scale = places + 1 :=
      ⟨(scale - 1).toNat, by omega⟩
    have finer : power (places + 1) = tenPow (places + 1) := power_natCast (places + 1)
    have shifted : v * tenPow places = (total + rest / divisor) / 10 := by
      rw [← value_eq, finer, tenPow_succ, Nat.cast_mul, Nat.cast_ofNat]
      ring
    have rounded := nearestEven_div_ten total proper
    rw [← shifted] at rounded
    have full : ¬ Fits v (places + 1) := not_fits_of_le (finer ▸ reaches)
    dsimp only
    rw [Int.add_sub_cancel]
    refine settles_some nonneg (by omega) rounded ?_ (.inr full)
    have tenth : total / 10 + 1 < bound := by
      unfold bound at most ⊢
      omega
    split <;> omega

/-- What is rounded up to the bound loses a digit, and is rounded down from there. -/
theorem stepBack?_bound (places : ℕ) :
    stepBack? bound (places + 1 : ℕ) true true =
      some ⟨Rounding.halfEven bound 10, places, true⟩ := by
  have kept : (if 5 < bound % 10 ∨ (bound % 10 = 5 ∧ (true = true ∨ bound / 10 % 2 = 1))
      then bound / 10 + 1 else bound / 10) = Rounding.halfEven bound 10 := by decide
  have scale : ((places + 1 : ℕ) : ℤ) - 1 = places := by omega
  rw [stepBack?, scale, if_neg (by omega)]
  dsimp only
  rw [kept]

/-! ## The long division -/

/-- When nothing remains the quotient is exact. -/
theorem settles_of_exact (tracks : Tracks v divisor digits 0 scale) (whole : 0 ≤ scale) :
    Settles v (some ⟨digits, scale, extended⟩) := by
  obtain ⟨places, rfl⟩ := Int.eq_ofNat_of_zero_le whole
  have exact : v * tenPow places = (digits : ℤ) := by
    have value := tracks.value_eq
    rw [power_natCast] at value
    simpa using value
  have inScale : places ≤ maxScale := Int.ofNat_le.mp tracks.inScale
  constructor
  · have kept := nearest?_of_exact inScale exact (by simpa using tracks.inRange)
    rw [kept, Option.map_some, value, Int.toNat_natCast, ← Int.cast_natCast, ← exact,
      mul_div_cancel_right₀ _ (tenPow_cast_pos places).ne']
  · intro quotient same
    cases same
    exact ⟨tracks.inRange, whole, tracks.inScale⟩

/-- When there is no room for another digit the last one is rounded by what remains. -/
theorem settles_settle? (tracks : Tracks v divisor digits remainder scale) (whole : 0 ≤ scale)
    (full : room digits scale = 0) : Settles v (settle? divisor digits remainder scale) := by
  obtain ⟨places, rfl⟩ := Int.eq_ofNat_of_zero_le whole
  have inScale : places ≤ maxScale := Int.ofNat_le.mp tracks.inScale
  have inRange := tracks.inRange
  have rounded := nearestEven_add_div (q := digits) tracks.proper
  rw [← tracks.value_eq, power_natCast] at rounded
  have last : places = maxScale ∨ ¬ Fits v (places + 1) := by
    by_cases greatest : places = maxScale
    · exact .inl greatest
    · have large : bound ≤ digits * tenPow 1 :=
        bound_le_of_room_lt digits places (by rw [full]; decide) (by decide) (by omega)
      have reaches := tracks.reaches large
      rw [← Int.natCast_add, power_natCast] at reaches
      exact .inr (not_fits_of_le reaches)
  unfold settle?
  generalize same : (if divisor < 2 * remainder ∨ (2 * remainder = divisor ∧ digits % 2 = 1)
    then digits + 1 else digits) = kept at rounded ⊢
  dsimp only
  split
  · next small => exact settles_some tracks.nonneg inScale rounded small last
  · next large =>
    have carried : kept = bound := by
      split at same <;> omega
    rw [carried] at rounded ⊢
    cases places with
    | zero =>
        refine settles_none ?_
        rw [fits_iff_nearestEven_lt tracks.nonneg, rounded]
        exact lt_irrefl _
    | succ places =>
        rw [stepBack?_bound]
        constructor
        · rw [nearest?_of_carried tracks.nonneg inScale rounded]
          rfl
        · intro quotient same
          cases same
          exact ⟨(by decide : Rounding.halfEven bound 10 < bound), Int.natCast_nonneg places,
            by dsimp only; omega⟩

/-- Wherever the division stops, it has come to the nearest amount, or there is none. -/
theorem settles_extend? (extended : Bool) (tracks : Tracks v divisor digits remainder scale) :
    Settles v (extend? divisor digits remainder scale extended) := by
  fun_induction extend? divisor digits remainder scale extended with
  | case1 digits remainder scale extended done =>
      obtain ⟨rfl, whole⟩ := done
      exact settles_of_exact tracks whole
  | case2 digits remainder scale extended more step stuck =>
      -- the stride is too short although nine digits would not have reached the point
      have remains : remainder ≠ 0 := by
        rintro rfl
        have reach : step = min 9 (-scale).toNat := if_pos rfl
        omega
      have room_eq : step = room digits scale := if_neg remains
      have large : bound ≤ digits * tenPow (step + 1) :=
        bound_le_of_room_lt digits scale (by omega) (by omega) (by omega)
      exact settles_none (not_fits_zero tracks.nonneg (tracks.reaches large) (by omega))
  | case3 digits remainder scale extended more step moving none =>
      have whole : 0 ≤ scale := by omega
      have remains : remainder ≠ 0 := fun zero => more ⟨zero, whole⟩
      have room_eq : step = room digits scale := if_neg remains
      exact settles_settle? tracks whole (room_eq ▸ none)
  | case4 digits remainder scale extended more step moving some_step inScale shifted large =>
      -- a stride into the fraction is only as long as there is room
      have nothing : remainder = 0 := by
        by_contra remains
        have room_eq : step = room digits scale := if_neg remains
        have fits := (room_fits digits scale (by omega)).2
        rw [← room_eq] at fits
        omega
      have reach : step = min 9 (-scale).toNat := if_pos nothing
      exact settles_none (not_fits_zero tracks.nonneg (tracks.reaches large) (by omega))
  | case5 digits remainder scale extended more step moving some_step inScale shifted small carried
      total rest inexact large =>
      have most : total < 2 * bound := by
        have next : carried / divisor < tenPow step := by
          rw [Nat.div_lt_iff_lt_mul tracks.divisor_pos, Nat.mul_comm]
          exact Nat.mul_lt_mul_of_pos_right tracks.proper (tenPow_pos step)
        have nine : tenPow step ≤ tenPow 9 := tenPow_mono (stride_le digits remainder scale)
        have little : tenPow 9 ≤ bound := by decide
        omega
      exact settles_stepBack? tracks.nonneg (tracks.value_mul_power step)
        (Nat.mod_lt _ tracks.divisor_pos) large most inScale
  | case6 digits remainder scale extended more step moving some_step inScale shifted small carried
      total rest inexact inRange ih =>
      exact ih ⟨tracks.value_mul_power step, Nat.mod_lt _ tracks.divisor_pos,
        Nat.not_le.mp inRange, inScale⟩
  | case7 digits remainder scale extended more step moving some_step beyond =>
      by_cases nothing : remainder = 0
      · have reach : step = min 9 (-scale).toNat := if_pos nothing
        omega
      · have room_eq : step = room digits scale := if_neg nothing
        have fits := (room_fits digits scale (by omega)).1
        rw [← room_eq] at fits
        exact absurd fits beyond

/-! ## Removing zeros -/

/-- The same number with at most as many digits. -/
structure Trims (digits scale : ℕ) (result : ℕ × ℕ) : Prop where
  value_eq : (result.1 : ℚ) / tenPow result.2 = digits / tenPow scale
  digits_le : result.1 ≤ digits
  scale_le : result.2 ≤ scale

namespace Trims

variable {digits scale : ℕ}

theorem refl (digits scale : ℕ) : Trims digits scale (digits, scale) :=
  ⟨rfl, Nat.le_refl digits, Nat.le_refl scale⟩

theorem trans {between result : ℕ × ℕ} (first : Trims digits scale between)
    (second : Trims between.1 between.2 result) : Trims digits scale result :=
  ⟨second.value_eq.trans first.value_eq, second.digits_le.trans first.digits_le,
    second.scale_le.trans first.scale_le⟩

/-- Zeros at the end of the fraction do not count. -/
theorem drop {width : ℕ} (within : width ≤ scale) (zeros : digits % tenPow width = 0) :
    Trims digits scale (digits / tenPow width, scale - width) := by
  refine ⟨?_, Nat.div_le_self _ _, Nat.sub_le _ _⟩
  have whole : (digits : ℚ) = (digits / tenPow width : ℕ) * tenPow width := by
    exact_mod_cast (Nat.div_mul_cancel (Nat.dvd_of_mod_eq_zero zeros)).symm
  have split : (tenPow scale : ℚ) = tenPow (scale - width) * tenPow width := by
    rw [← Nat.cast_mul, ← tenPow_add, Nat.sub_add_cancel within]
  dsimp only
  rw [whole, split, mul_div_mul_right _ _ (tenPow_cast_pos width).ne']

theorem shed (width evenness digits scale : ℕ) :
    Trims digits scale (Quotient.shed width evenness digits scale) := by
  rw [Quotient.shed]
  split
  · next zeros => exact drop zeros.2.1 zeros.2.2
  · exact refl digits scale

theorem shedEights (digits scale : ℕ) : Trims digits scale (Quotient.shedEights digits scale) := by
  fun_induction Quotient.shedEights digits scale with
  | case1 digits scale zeros ih => exact (drop zeros.2.1 zeros.2.2).trans ih
  | case2 digits scale => exact refl digits scale

theorem trim (digits scale : ℕ) : Trims digits scale (Quotient.trim digits scale) :=
  (shedEights digits scale).trans (shed 4 16 _ _) |>.trans (shed 2 4 _ _) |>.trans (shed 1 2 _ _)

end Trims

end Quotient

open Payslip.Decimal.Quotient

/-- The long division of two coefficients begins with their whole quotient. -/
theorem tracks_start (x : Decimal) {y : Decimal} (nonzero : y.coefficient ≠ 0) :
    Tracks (x.coefficient / tenPow x.scale / (y.coefficient / tenPow y.scale)) y.coefficient
      (x.coefficient / y.coefficient) (x.coefficient % y.coefficient)
      ((x.scale : ℤ) - y.scale) := by
  have positive := Nat.pos_of_ne_zero nonzero
  have divisor : (y.coefficient : ℚ) ≠ 0 := by exact_mod_cast nonzero
  have scale := (tenPow_cast_pos x.scale).ne'
  have scale' := (tenPow_cast_pos y.scale).ne'
  refine ⟨?_, Nat.mod_lt _ positive, ?_, ?_⟩
  · have shift : power ((x.scale : ℤ) - y.scale) = tenPow x.scale / tenPow y.scale := by
      rw [← power_natCast, ← power_natCast, power, power, power, zpow_sub₀ (by norm_num)]
    rw [← natCast_div_eq x.coefficient positive, shift]
    field_simp
  · exact (Nat.div_le_self _ _).trans_lt x.coefficient_lt
  · have least := x.scale_le
    omega

/-- The quotient is the amount nearest to the exact quotient. -/
theorem toRat_div? (x : Decimal) {y : Decimal} (nonzero : y.toRat ≠ 0) :
    (x.div? y).map toRat = nearest? (x.toRat / y.toRat) := by
  have divisor : ¬ y.isZero = true := mt isZero_iff_toRat_eq_zero.mp nonzero
  rw [div?, if_neg divisor]
  split
  · next zero =>
    have nothing : x.toRat / y.toRat = (0 : Decimal).toRat := by
      rw [isZero_iff_toRat_eq_zero.mp zero, zero_div, toRat_zero]
    rw [nothing, nearest?_toRat]
    rfl
  have quotient : x.toRat / y.toRat = signed (x.negative != y.negative)
      (x.coefficient / tenPow x.scale / (y.coefficient / tenPow y.scale)) := by
    rw [toRat_eq, toRat_eq, signed, signed, signed]
    cases x.negative <;> cases y.negative <;> simp [neg_div, div_neg]
  obtain ⟨value_eq, inRange⟩ :=
    settles_extend? false (tracks_start x (by simpa [isZero] using divisor))
  rw [quotient, nearest?_signed, ← value_eq]
  dsimp only
  cases divided : extend? y.coefficient (x.coefficient / y.coefficient)
      (x.coefficient % y.coefficient) ((x.scale : ℤ) - y.scale) false with
  | none => rfl
  | some result =>
      have fits := inRange result divided
      have trims : Trims result.digits result.scale.toNat
          (if result.extended then trim result.digits result.scale.toNat
            else (result.digits, result.scale.toNat)) := by
        split
        · exact .trim _ _
        · exact .refl _ _
      have small := trims.digits_le.trans_lt fits.digits_lt
      have places := trims.scale_le.trans (Int.toNat_le.mpr fits.scale_le)
      dsimp only
      rw [toRat_build? small places, signed_and_ne_zero, trims.value_eq]
      rfl

end Payslip.Decimal
