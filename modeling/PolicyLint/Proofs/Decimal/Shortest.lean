import Mathlib.Data.Nat.Cast.Order.Field
import Mathlib.Tactic.FieldSimp
import Mathlib.Tactic.NormNum
import PolicyLint.Proofs.Decimal.Layout
import PolicyLint.Proofs.Decimal.Rounding

/-!
# Numerals of magnitudes

The shortest decimal of a magnitude lies between the middles to its neighbours, so different magnitudes have
different numerals.
-/

namespace PolicyLint.Decimal

/-! ### Decimals in an interval -/

namespace Interval

variable {i : Interval}

theorem contains_iff {num d : Nat} (den : 0 < i.den) (positive : 0 < d) :
    i.contains num d = true ↔
      if i.closed then (i.low / i.den : ℚ) ≤ num / d ∧ (num / d : ℚ) ≤ i.high / i.den
      else (i.low / i.den : ℚ) < num / d ∧ (num / d : ℚ) < i.high / i.den := by
  have den' : (0 : ℚ) < i.den := Nat.cast_pos.mpr den
  have positive' : (0 : ℚ) < d := Nat.cast_pos.mpr positive
  unfold contains
  split <;> simp only [Bool.and_eq_true, decide_eq_true_eq]
  · rw [div_le_div_iff₀ den' positive', div_le_div_iff₀ positive' den']
    exact_mod_cast Iff.rfl
  · rw [div_lt_div_iff₀ den' positive', div_lt_div_iff₀ positive' den']
    exact_mod_cast Iff.rfl

theorem contains_onGrid? {place : Int} {n : Nat} (found : i.onGrid? place = some n) :
    i.contains (n * Nat.pow 10 place.toNat) (Nat.pow 10 (-place).toNat) = true := by
  unfold onGrid? at found
  dsimp only at found
  split at found
  · rename_i both
    obtain ⟨lower, upper⟩ := Bool.and_eq_true_iff.mp both
    obtain rfl := Option.some.inj found
    split <;> assumption
  · split at found
    · obtain rfl := Option.some.inj found
      assumption
    · split at found
      · obtain rfl := Option.some.inj found
        assumption
      · exact absurd found (by simp)

/-- A grid that is finer than the part above the value has a multiple in the interval. -/
theorem isSome_onGrid? {place : Int} (den : 0 < i.den) (ordered : i.low ≤ i.value)
    (fine : i.den * Nat.pow 10 place.toNat < (i.high - i.value) * Nat.pow 10 (-place).toNat) :
    (i.onGrid? place).isSome = true := by
  let up := Nat.pow 10 place.toNat
  let down := Nat.pow 10 (-place).toNat
  let lower := i.value * down / (i.den * up)
  have step : 0 < i.den * up := Nat.mul_pos den (Nat.pow_pos (by decide))
  have below : i.value * down < i.den * up * (lower + 1) := Nat.lt_mul_div_succ _ step
  have above : i.den * up * lower ≤ i.value * down := Nat.mul_div_le _ _
  have room : i.den * up < i.high * down - i.value * down := by
    rwa [← Nat.sub_mul]
  have least : i.low * down ≤ i.value * down := Nat.mul_le_mul_right down ordered
  -- the next multiple above the value is not more than one step away from it
  have upper : i.contains ((lower + 1) * up) down = true := by
    have same : (lower + 1) * up * i.den = i.den * up * (lower + 1) := by ring
    rw [Nat.mul_add, Nat.mul_one] at below same
    unfold contains
    split <;> simp only [same, Bool.and_eq_true, decide_eq_true_eq] <;> omega
  unfold onGrid?
  dsimp only
  split_ifs <;> rfl

end Interval

/-- The digits that are taken are those of a multiple in the interval, unless no grid that is tried has any. -/
theorem shortestFrom_spec (i : Interval) (place : Int) (tries : Nat) :
    ∃ n p, shortestFrom i place tries = Digits.ofNat n p ∧
      (i.contains (n * Nat.pow 10 p.toNat) (Nat.pow 10 (-p).toNat) = true ∨
        n = i.value ∧ ∀ k < tries, i.onGrid? (place - k) = none) := by
  induction tries generalizing place with
  | zero => exact ⟨i.value, 0, rfl, Or.inr ⟨rfl, by simp⟩⟩
  | succ tries ih =>
    rw [shortestFrom]
    cases grid : i.onGrid? place with
    | some n => exact ⟨n, place, rfl, Or.inl (Interval.contains_onGrid? grid)⟩
    | none =>
      obtain ⟨n, p, digits, inside | ⟨whole, without⟩⟩ := ih (place - 1)
      · exact ⟨n, p, digits, Or.inl inside⟩
      · refine ⟨n, p, digits, Or.inr ⟨whole, fun k early => ?_⟩⟩
        cases k with
        | zero => simpa using grid
        | succ k =>
          have finer : place - ((k + 1 : Nat) : Int) = place - 1 - k := by omega
          rw [finer]
          exact without k (by omega)

theorem le_placesBelowOne {num den : Nat} (positive : 0 < num) : den ≤ num * 10 ^ placesBelowOne num den := by
  fun_induction placesBelowOne num den with
  | case1 num here =>
    rw [Nat.pow_zero, Nat.mul_one]
    exact here.resolve_left (Nat.ne_of_gt positive)
  | case2 num later ih =>
    rw [Nat.pow_succ', ← Nat.mul_assoc]
    exact ih (by omega)

theorem le_length_toDigits {n : Nat} (positive : 0 < n) : 10 ^ ((Nat.toDigits 10 n).length - 1) ≤ n := by
  rcases Nat.eq_zero_or_pos ((Nat.toDigits 10 n).length - 1) with single | several
  · rw [single]
    exact positive
  · refine Nat.le_of_not_lt fun less => ?_
    have shorter := (Nat.length_toDigits_le_iff (by decide) several).mpr less
    omega

theorem leadingPlace_le {num den : Nat} (num_positive : 0 < num) (den_positive : 0 < den) :
    (10 : ℚ) ^ leadingPlace num den ≤ num / den := by
  have num_cast : (0 : ℚ) < num := Nat.cast_pos.mpr num_positive
  have den_cast : (0 : ℚ) < den := Nat.cast_pos.mpr den_positive
  unfold leadingPlace
  split
  · rename_i whole
    have positive : 0 < num / den := Nat.div_pos whole den_positive
    have places : ((Nat.toDigits 10 (num / den)).length : Int) - 1 =
        (((Nat.toDigits 10 (num / den)).length - 1 : Nat) : Int) := by
      have some : 0 < (Nat.toDigits 10 (num / den)).length := Nat.length_toDigits_pos
      omega
    rw [places, zpow_natCast]
    calc (10 : ℚ) ^ ((Nat.toDigits 10 (num / den)).length - 1) ≤ ((num / den : Nat) : ℚ) := by
          exact_mod_cast le_length_toDigits positive
      _ ≤ num / den := Nat.cast_div_le
  · have reached : den ≤ num * 10 ^ placesBelowOne num den := le_placesBelowOne num_positive
    rw [zpow_neg, zpow_natCast, inv_le_comm₀ (by positivity) (by positivity), inv_div, div_le_iff₀ num_cast, mul_comm]
    exact_mod_cast reached

/-! ### Decimals that round to a magnitude -/

namespace Magnitude

variable {f : Format} {x y : Magnitude} {q r : ℚ}

def quarter (x : Magnitude) : ℚ := 2 ^ (x.exponent - 2)

/-- How many quarters the middle to the magnitude below is away. -/
def gap (f : Format) (x : Magnitude) : Nat :=
  if x.significand = Nat.pow 2 (f.precision - 1) ∧ f.minExponent < x.exponent then 1 else 2

/-- The rational is as near as the decimals that round to the magnitude. -/
structure Near (f : Format) (x : Magnitude) (q : ℚ) : Prop where
  above : (4 * x.significand - x.gap f : ℚ) * x.quarter ≤ q
  below : q ≤ (4 * x.significand + 2) * x.quarter
  odd : x.significand % 2 = 1 → (4 * x.significand - x.gap f : ℚ) * x.quarter < q ∧
    q < (4 * x.significand + 2) * x.quarter

theorem quarter_positive (x : Magnitude) : 0 < x.quarter := zpow_pos (by decide) _

theorem gap_le (f : Format) (x : Magnitude) : x.gap f ≤ 2 := by
  unfold gap
  split <;> decide

theorem near_of_contains (some : 0 < x.significand) {num d : Nat} (positive : 0 < d)
    (inside : (Interval.ofMagnitude f x).contains num d = true) : x.Near f (num / d) := by
  have den : 0 < (Interval.ofMagnitude f x).den := Nat.pow_pos (by decide)
  have gap := x.gap_le f
  have low : ((Interval.ofMagnitude f x).low / (Interval.ofMagnitude f x).den : ℚ) =
      (4 * x.significand - x.gap f) * x.quarter := by
    rw [quarter, zpow_eq_div (by decide), ← mul_div_assoc]
    show (((4 * x.significand - x.gap f) * 2 ^ (x.exponent - 2).toNat : Nat) : ℚ) / (2 ^ (-(x.exponent - 2)).toNat : Nat) = _
    push_cast [Nat.cast_sub (show x.gap f ≤ 4 * x.significand by omega)]
    rfl
  have high : ((Interval.ofMagnitude f x).high / (Interval.ofMagnitude f x).den : ℚ) =
      (4 * x.significand + 2) * x.quarter := by
    rw [quarter, zpow_eq_div (by decide), ← mul_div_assoc]
    show (((4 * x.significand + 2) * 2 ^ (x.exponent - 2).toNat : Nat) : ℚ) / (2 ^ (-(x.exponent - 2)).toNat : Nat) = _
    push_cast
    rfl
  have closed : (Interval.ofMagnitude f x).closed = true ↔ x.significand % 2 = 0 := decide_eq_true_iff
  rw [Interval.contains_iff den positive, low, high] at inside
  split at inside
  · rename_i even
    exact ⟨inside.1, inside.2, fun odd => absurd (closed.mp even) (by omega)⟩
  · exact ⟨le_of_lt inside.1, le_of_lt inside.2, fun _ => inside⟩

def Before (x y : Magnitude) : Prop :=
  x.exponent < y.exponent ∨ x.exponent = y.exponent ∧ x.significand < y.significand

theorem before_or_eq (x y : Magnitude) : x.Before y ∨ x = y ∨ y.Before x := by
  unfold Before
  rcases lt_trichotomy x.exponent y.exponent with less | alike | more
  · exact Or.inl (Or.inl less)
  · rcases lt_trichotomy x.significand y.significand with less' | alike' | more'
    · exact Or.inl (Or.inr ⟨alike, less'⟩)
    · exact Or.inr (Or.inl (by cases x; cases y; simp_all))
    · exact Or.inr (Or.inr (Or.inr ⟨alike.symm, more'⟩))
  · exact Or.inr (Or.inr (Or.inl more))

theorem Before.positive (before : x.Before y) (normal : x.Normal f) (normal' : y.Normal f) : 0 < y.significand := by
  rcases before with coarser | ⟨_, less⟩
  · have beyond : f.minExponent < y.exponent := lt_of_le_of_lt normal.least coarser
    have fills := normal'.fills.resolve_left (Ne.symm (ne_of_lt beyond))
    exact lt_of_lt_of_le (Nat.pow_pos (by decide)) fills
  · exact Nat.zero_lt_of_lt less

/-- The middle above a magnitude does not lie beyond the middle below a greater one, in quarters of the smaller unit. -/
theorem middles_le (some : 0 < f.precision) (normal : x.Normal f) (normal' : y.Normal f) (before : x.Before y) :
    4 * x.significand + 2 ≤ (4 * y.significand - y.gap f) * 2 ^ (y.exponent - x.exponent).toNat ∧
      (x.significand % 2 = 0 → y.significand % 2 = 0 →
        4 * x.significand + 2 < (4 * y.significand - y.gap f) * 2 ^ (y.exponent - x.exponent).toNat) := by
  have gap := y.gap_le f
  rcases before with coarser | ⟨alike, less⟩
  · -- `y` is at least a power of two, and below that power the unit is at most half as large
    have power : 2 ^ f.precision = 2 * 2 ^ (f.precision - 1) := by
      rw [← Nat.pow_succ', Nat.succ_eq_add_one, Nat.sub_add_cancel some]
    have fits := normal.fits
    have beyond : f.minExponent < y.exponent := lt_of_le_of_lt normal.least coarser
    have fills := normal'.fills.resolve_left (Ne.symm (ne_of_lt beyond))
    have narrow : y.significand = 2 ^ (f.precision - 1) → y.gap f = 1 := fun least => if_pos ⟨least, beyond⟩
    have double : 2 ≤ 2 ^ (y.exponent - x.exponent).toNat := Nat.le_self_pow (by omega) 2
    have grown := Nat.mul_le_mul_left (4 * y.significand - y.gap f) double
    by_cases least : y.significand = 2 ^ (f.precision - 1)
    · have one := narrow least
      omega
    · omega
  · rw [alike, sub_self, Int.toNat_zero, Nat.pow_zero, Nat.mul_one]
    omega

/-- What is near a smaller magnitude is less than what is near a greater one. -/
theorem near_less (some : 0 < f.precision) (normal : x.Normal f) (normal' : y.Normal f) (before : x.Before y)
    (near : x.Near f q) (near' : y.Near f r) : q < r := by
  obtain ⟨apart, further⟩ := middles_le some normal normal' before
  have ordered : x.exponent ≤ y.exponent := before.elim le_of_lt fun same => le_of_eq same.1
  have unit : y.quarter = 2 ^ (y.exponent - x.exponent).toNat * x.quarter := by
    rw [quarter, quarter, ← zpow_natCast, ← zpow_add₀ (by decide)]
    congr 1
    omega
  have positive := x.quarter_positive
  have bottom : (4 * y.significand - y.gap f : ℚ) * y.quarter =
      ((4 * y.significand - y.gap f) * 2 ^ (y.exponent - x.exponent).toNat : Nat) * x.quarter := by
    have lower : y.gap f ≤ 4 * y.significand := by
      by_contra none
      rw [Nat.sub_eq_zero_of_le (by omega), Nat.zero_mul] at apart
      omega
    rw [unit]
    push_cast [Nat.cast_sub lower]
    ring
  have touching : (4 * x.significand + 2 : ℚ) * x.quarter ≤ (4 * y.significand - y.gap f) * y.quarter := by
    rw [bottom]
    exact mul_le_mul_of_nonneg_right (by exact_mod_cast apart) (le_of_lt positive)
  -- the middles meet only where one of the significands is odd, and an odd one does not have its middles
  rcases Nat.mod_two_eq_zero_or_one x.significand with even | odd
  · rcases Nat.mod_two_eq_zero_or_one y.significand with even' | odd'
    · have gapped : (4 * x.significand + 2 : ℚ) * x.quarter < (4 * y.significand - y.gap f) * y.quarter := by
        rw [bottom]
        exact mul_lt_mul_of_pos_right (by exact_mod_cast further even even') positive
      exact lt_of_le_of_lt near.below (lt_of_lt_of_le gapped near'.above)
    · exact lt_of_le_of_lt (near.below.trans touching) (near'.odd odd').1
  · exact lt_of_lt_of_le (near.odd odd).2 (touching.trans near'.above)

theorem near_positive (some : 0 < x.significand) (near : x.Near f q) : 0 < q := by
  have gap : (x.gap f : ℚ) ≤ 2 := by exact_mod_cast x.gap_le f
  have one : (1 : ℚ) ≤ x.significand := by exact_mod_cast some
  have positive := x.quarter_positive
  exact lt_of_lt_of_le (mul_pos (by linarith) positive) near.above

/-- The last grid that is tried is fine enough for significands of 53 bits. -/
theorem fine_lastGrid (some : 0 < x.significand) (fits : x.significand < 2 ^ 53) :
    let i := Interval.ofMagnitude f x
    let place := leadingPlace i.value i.den - 17
    i.den * Nat.pow 10 place.toNat < (i.high - i.value) * Nat.pow 10 (-place).toNat := by
  intro i place
  let scale := 2 ^ (x.exponent - 2).toNat
  have positive := x.quarter_positive
  have den : 0 < i.den := Nat.pow_pos (by decide)
  have top : i.high - i.value = 2 * scale := by
    show (4 * x.significand + 2) * scale - 4 * x.significand * scale = 2 * scale
    rw [← Nat.sub_mul, Nat.add_sub_cancel_left]
  have unit : (scale / i.den : ℚ) = x.quarter := by
    rw [quarter, zpow_eq_div (by decide)]
    show (((2 ^ (x.exponent - 2).toNat : Nat) : ℚ)) / (2 ^ (-(x.exponent - 2)).toNat : Nat) = _
    push_cast
    rfl
  have value : (i.value / i.den : ℚ) = 4 * x.significand * x.quarter := by
    rw [← unit, ← mul_div_assoc]
    exact_mod_cast rfl
  have start : (10 : ℚ) ^ leadingPlace i.value i.den ≤ 4 * x.significand * x.quarter := by
    rw [← value]
    exact leadingPlace_le (Nat.mul_pos (Nat.mul_pos (by decide) some) (Nat.pow_pos (by decide))) den
  have small : (x.significand : ℚ) < 2 ^ 53 := by exact_mod_cast fits
  -- there are fewer than 2 ^ 55 quarters, and the grid is 10 ^ 17 times finer than the value
  have fine : (10 : ℚ) ^ place < 2 * x.quarter := by
    rw [zpow_sub₀ (by decide), div_lt_iff₀ (by positivity)]
    calc (10 : ℚ) ^ leadingPlace i.value i.den ≤ 4 * x.significand * x.quarter := start
      _ < 4 * 2 ^ 53 * x.quarter := by gcongr
      _ ≤ 2 * x.quarter * 10 ^ (17 : Int) := by norm_num; linarith
  have den_cast : (0 : ℚ) < i.den := Nat.cast_pos.mpr den
  rw [zpow_eq_div (by decide), ← unit, ← mul_div_assoc, div_lt_div_iff₀ (by positivity) den_cast] at fine
  rw [top, Nat.mul_comm i.den]
  exact_mod_cast fine

end Magnitude

namespace Format

variable {f : Format} {x y : Magnitude}

theorem near_shortest (precise : f.precision ≤ 53) (some : 0 < x.significand) (normal : x.Normal f) :
    x.Near f (f.shortest x).value := by
  let i := Interval.ofMagnitude f x
  have positive : 0 < 2 ^ (x.exponent - 2).toNat := Nat.pow_pos (by decide)
  have den : 0 < i.den := Nat.pow_pos (by decide)
  have ordered : i.low ≤ i.value := Nat.mul_le_mul_right _ (Nat.sub_le _ _)
  have fits : x.significand < 2 ^ 53 := lt_of_lt_of_le normal.fits (Nat.pow_le_pow_right (by decide) precise)
  have found := Interval.isSome_onGrid? den ordered (Magnitude.fine_lastGrid some fits)
  obtain ⟨n, p, digits, inside | ⟨_, without⟩⟩ := shortestFrom_spec i (leadingPlace i.value i.den) 18
  · have near := Magnitude.near_of_contains some (Nat.pow_pos (by decide)) inside
    have value : (f.shortest x).value = n * 10 ^ p := by
      rw [shortest, digits, Digits.value_ofNat]
    rw [value, zpow_eq_div (by decide), ← mul_div_assoc]
    exact_mod_cast near
  · have none := without 17 (by decide)
    rw [show ((17 : Nat) : Int) = 17 from rfl] at none
    rw [none] at found
    exact absurd found (by simp)

theorem significant_shortest (some : 0 < x.significand) : (f.shortest x).Significant := by
  let i := Interval.ofMagnitude f x
  have scale : 0 < 2 ^ (x.exponent - 2).toNat := Nat.pow_pos (by decide)
  obtain ⟨n, p, digits, inside | ⟨whole, _⟩⟩ := shortestFrom_spec i (leadingPlace i.value i.den) 18
  · have near := Magnitude.near_of_contains some (Nat.pow_pos (by decide)) inside
    have positive : 0 < n := by
      refine Nat.pos_of_ne_zero fun zero => ?_
      have above := Magnitude.near_positive some near
      rw [zero, Nat.zero_mul, Nat.cast_zero, zero_div] at above
      exact lt_irrefl 0 above
    rw [shortest, digits]
    exact Digits.significant_ofNat positive p
  · have positive : 0 < n := by
      rw [whole]
      exact Nat.mul_pos (Nat.mul_pos (by decide) some) scale
    rw [shortest, digits]
    exact Digits.significant_ofNat positive p

end Format

namespace Layout

variable {f : Format} {x y : Magnitude}

theorem proper_numeral (l : Layout) (f : Format) (x : Magnitude) : (l.numeral f x).Proper := by
  unfold numeral
  split
  · exact ⟨⟨by simp, by simp, by simp⟩, by simp, by simp⟩
  · rename_i nonzero
    have significant := f.significant_shortest (Nat.pos_of_ne_zero nonzero)
    dsimp only
    split
    · exact Digits.proper_plain significant
    · exact Digits.proper_scientific significant

theorem value_numeral (l : Layout) (some : 0 < x.significand) : (l.numeral f x).value = (f.shortest x).value := by
  unfold numeral
  rw [if_neg (Nat.ne_of_gt some)]
  dsimp only
  split
  · exact Digits.value_plain _
  · exact Digits.value_scientific (Format.significant_shortest some).some

theorem value_zero (l : Layout) (none : x.significand = 0) : (l.numeral f x).value = 0 := by
  rw [numeral, if_pos none, Numeral.value, show ofDigits _ = 0 from rfl, Nat.cast_zero, zero_mul]

theorem value_positive (l : Layout) (precise : f.precision ≤ 53) (some : 0 < x.significand) (normal : x.Normal f) :
    0 < (l.numeral f x).value := by
  rw [value_numeral l some]
  exact Magnitude.near_positive some (Format.near_shortest precise some normal)

/-- Numerals of greater magnitudes denote greater numbers. -/
theorem value_less (l : Layout) (some : 0 < f.precision) (precise : f.precision ≤ 53) (normal : x.Normal f)
    (normal' : y.Normal f) (before : x.Before y) : (l.numeral f x).value < (l.numeral f y).value := by
  have above' := before.positive normal normal'
  rcases Nat.eq_zero_or_pos x.significand with zero | above
  · rw [value_zero l zero]
    exact value_positive l precise above' normal'
  · rw [value_numeral l above, value_numeral l above']
    exact Magnitude.near_less some normal normal' before (Format.near_shortest precise above normal)
      (Format.near_shortest precise above' normal')

theorem value_inj (l : Layout) (some : 0 < f.precision) (precise : f.precision ≤ 53) (normal : x.Normal f)
    (normal' : y.Normal f) (same : (l.numeral f x).value = (l.numeral f y).value) : x = y := by
  rcases x.before_or_eq y with before | equal | after
  · exact absurd same (ne_of_lt (value_less l some precise normal normal' before))
  · exact equal
  · exact absurd same (ne_of_gt (value_less l some precise normal' normal after))

/-- Two rounded numbers that are written alike are the same, or both have no numeral. -/
theorem numeral?_inj (l : Layout) (some : 0 < f.precision) (precise : f.precision ≤ 53) {t t' : Binary}
    (rounded : t.Rounded f) (rounded' : t'.Rounded f) (same : l.numeral? f t = l.numeral? f t') :
    t = t' ∨ l.numeral? f t = none ∧ l.numeral? f t' = none := by
  rcases t with ⟨negative, x⟩ | _ <;> rcases t' with ⟨negative', y⟩ | _ <;>
    simp only [numeral?, Option.some.injEq, reduceCtorEq] at same
  · have values := congrArg Numeral.value same
    have sign : negative = negative' := congrArg Numeral.negative same
    rw [sign, value_inj l some precise rounded rounded' values]
    exact Or.inl rfl
  · exact Or.inr ⟨rfl, rfl⟩

end Layout

end PolicyLint.Decimal
