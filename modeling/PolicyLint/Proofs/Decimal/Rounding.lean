import Mathlib.Algebra.Order.Field.Power
import Mathlib.Algebra.Order.Field.Rat
import Mathlib.Tactic.Linarith
import Mathlib.Tactic.Ring
import PolicyLint.Decimal.Magnitude

/-!
# Rounded magnitudes

Each magnitude that rounding can give is one pair of a significand and an exponent: the significand fills the
format unless the exponent is the least one.
-/

namespace PolicyLint.Decimal

theorem zpow_eq_div {b : ℚ} (nonzero : b ≠ 0) (e : Int) : b ^ e = b ^ e.toNat / b ^ (-e).toNat := by
  rw [← zpow_natCast, ← zpow_natCast, ← zpow_sub₀ nonzero, Int.toNat_sub_toNat_neg]

/-- A magnitude in the one form that rounding gives it. -/
structure Magnitude.Normal (f : Format) (x : Magnitude) : Prop where
  least : f.minExponent ≤ x.exponent
  fits : x.significand < 2 ^ f.precision
  fills : x.exponent = f.minExponent ∨ 2 ^ (f.precision - 1) ≤ x.significand

theorem le_roundHalfEven {num den least : Nat} (positive : 0 < den) (above : least * den ≤ num) :
    least ≤ roundHalfEven num den := by
  have quotient : least ≤ num / den := (Nat.le_div_iff_mul_le positive).mpr above
  unfold roundHalfEven
  dsimp only
  split_ifs <;> omega

theorem roundHalfEven_le {num den greatest : Nat} (positive : 0 < den) (below : num < greatest * den) :
    roundHalfEven num den ≤ greatest := by
  have quotient : num / den < greatest := (Nat.div_lt_iff_lt_mul positive).mpr below
  unfold roundHalfEven
  dsimp only
  split_ifs <;> omega

namespace Format

variable {f : Format} {num den : Nat}

/-- The quotient in units of a power of two, as a rational number. -/
theorem inUnits_eq (num den : Nat) (e : Int) :
    ((inUnits num den e).1 : ℚ) / (inUnits num den e).2 = num / den / 2 ^ e := by
  rw [zpow_eq_div (by decide), div_div_div_eq]
  simp only [inUnits, Nat.pow_eq]
  push_cast
  rfl

theorem inUnits_positive (num : Nat) (positive : 0 < den) (e : Int) : 0 < (inUnits num den e).2 :=
  Nat.mul_pos positive (Nat.pow_pos (by decide))

theorem log2_bounds (positive : 0 < num) :
    (2 : ℚ) ^ (num.log2 : Int) ≤ num ∧ (num : ℚ) < 2 ^ ((num.log2 : Int) + 1) := by
  have above : num < 2 ^ (num.log2 + 1) := Nat.lt_log2_self
  constructor
  · rw [zpow_natCast]
    exact_mod_cast Nat.log2_self_le (Nat.ne_of_gt positive)
  · exact_mod_cast above

/-- The exponent at which the quotient fills the significand, or fails to by one bit. -/
def firstExponent (f : Format) (num den : Nat) : Int :=
  (num.log2 : Int) - (den.log2 : Int) - (f.precision : Int) + 1

theorem firstExponent_spec (f : Format) (some : 0 < f.precision) (num_positive : 0 < num) (den_positive : 0 < den) :
    (2 : ℚ) ^ (f.precision - 1) ≤ 2 * (num / den / 2 ^ f.firstExponent num den) ∧
      (num / den / 2 ^ f.firstExponent num den : ℚ) < 2 ^ f.precision := by
  obtain ⟨num_least, num_greatest⟩ := log2_bounds num_positive
  obtain ⟨den_least, den_greatest⟩ := log2_bounds den_positive
  have den_cast : (0 : ℚ) < den := Nat.cast_pos.mpr den_positive
  constructor
  · rw [← mul_div_assoc, ← mul_div_assoc, le_div_iff₀ (by positivity), le_div_iff₀ den_cast]
    calc (2 : ℚ) ^ (f.precision - 1) * 2 ^ f.firstExponent num den * den
        ≤ 2 ^ (f.precision - 1) * 2 ^ f.firstExponent num den * 2 ^ ((den.log2 : Int) + 1) := by gcongr
      _ = 2 * 2 ^ (num.log2 : Int) := by
          rw [← zpow_natCast, ← zpow_add₀ (by decide), ← zpow_add₀ (by decide), ← zpow_one_add₀ (by decide),
            firstExponent]
          congr 1
          omega
      _ ≤ 2 * num := by gcongr
  · rw [div_lt_iff₀ (by positivity), div_lt_iff₀ den_cast]
    calc (num : ℚ) < 2 ^ ((num.log2 : Int) + 1) := num_greatest
      _ = 2 ^ f.precision * 2 ^ f.firstExponent num den * 2 ^ (den.log2 : Int) := by
          rw [← zpow_natCast, ← zpow_add₀ (by decide), ← zpow_add₀ (by decide), firstExponent]
          congr 1
          omega
      _ ≤ 2 ^ f.precision * 2 ^ f.firstExponent num den * den := by gcongr

theorem less_inUnits (num : Nat) (positive : 0 < den) (n : Nat) (e : Int) :
    (inUnits num den e).1 < n * (inUnits num den e).2 ↔ (num / den / 2 ^ e : ℚ) < n := by
  rw [← inUnits_eq, div_lt_iff₀ (Nat.cast_pos.mpr (inUnits_positive num positive e))]
  exact_mod_cast Iff.rfl

theorem le_inUnits (num : Nat) (positive : 0 < den) (n : Nat) (e : Int) :
    n * (inUnits num den e).2 ≤ (inUnits num den e).1 ↔ (n : ℚ) ≤ num / den / 2 ^ e := by
  rw [← not_lt, less_inUnits num positive, not_lt]

/-- Were there no least exponent, the quotient would fill the significand. -/
theorem exists_filling (f : Format) (some : 0 < f.precision) (num_positive : 0 < num) (den_positive : 0 < den) :
    ∃ e : Int, f.exponentFor num den = max e f.minExponent ∧
      (2 : ℚ) ^ (f.precision - 1) ≤ num / den / 2 ^ e ∧ (num / den / 2 ^ e : ℚ) < 2 ^ f.precision := by
  obtain ⟨above, below⟩ := f.firstExponent_spec some num_positive den_positive
  have power : (2 : ℚ) ^ f.precision = 2 * 2 ^ (f.precision - 1) := by
    rw [← pow_succ', Nat.sub_add_cancel some]
  have test := less_inUnits num den_positive (2 ^ (f.precision - 1)) (f.firstExponent num den)
  rw [Nat.cast_pow, Nat.cast_ofNat] at test
  refine ⟨if (inUnits num den (f.firstExponent num den)).1 <
    2 ^ (f.precision - 1) * (inUnits num den (f.firstExponent num den)).2 then f.firstExponent num den - 1
      else f.firstExponent num den, rfl, ?_⟩
  split
  · -- one exponent lower there are twice as many units
    rename_i less
    have half := test.mp less
    have double : (num / den / 2 ^ (f.firstExponent num den - 1) : ℚ) =
        2 * (num / den / 2 ^ f.firstExponent num den) := by
      rw [zpow_sub_one₀ (by decide), div_mul_eq_div_div, div_inv_eq_mul, mul_comm]
    rw [double, power]
    exact ⟨above, by linarith⟩
  · rename_i more
    exact ⟨not_lt.mp (mt test.mpr more), below⟩

/-- The quotient does not overflow the significand, and fills it unless the exponent is the least one. -/
theorem exponentFor_spec (f : Format) (some : 0 < f.precision) (num_positive : 0 < num) (den_positive : 0 < den) :
    f.minExponent ≤ f.exponentFor num den ∧ (num / den / 2 ^ f.exponentFor num den : ℚ) < 2 ^ f.precision ∧
      (f.exponentFor num den = f.minExponent ∨
        (2 : ℚ) ^ (f.precision - 1) ≤ num / den / 2 ^ f.exponentFor num den) := by
  obtain ⟨e, exponent, fills, fits⟩ := f.exists_filling some num_positive den_positive
  rw [exponent]
  refine ⟨le_max_right _ _, ?_, ?_⟩
  · calc (num / den / 2 ^ max e f.minExponent : ℚ) ≤ num / den / 2 ^ e := by
          have grows : (2 : ℚ) ^ e ≤ 2 ^ max e f.minExponent := zpow_le_zpow_right₀ (by decide) (le_max_left _ _)
          have quotient : (0 : ℚ) ≤ num / den := div_nonneg (Nat.cast_nonneg _) (Nat.cast_nonneg _)
          exact div_le_div_of_nonneg_left quotient (by positivity) grows
      _ < 2 ^ f.precision := fits
  · rcases le_total e f.minExponent with less | more
    · exact Or.inl (max_eq_right less)
    · rw [max_eq_left more]
      exact Or.inr fills

theorem normal_round (f : Format) (some : 0 < f.precision) (num : Nat) (positive : 0 < den) :
    (f.round num den).Normal f := by
  unfold round
  split
  · exact ⟨le_refl _, Nat.pow_pos (by decide), Or.inl rfl⟩
  · rename_i nonzero
    obtain ⟨least, below, fills⟩ := f.exponentFor_spec some (Nat.pos_of_ne_zero nonzero) positive
    let e := f.exponentFor num den
    have room := inUnits_positive num positive e
    have fits : (inUnits num den e).1 < 2 ^ f.precision * (inUnits num den e).2 := by
      rw [less_inUnits num positive]
      exact_mod_cast below
    have half : 2 ^ (f.precision - 1) < 2 ^ f.precision := Nat.pow_lt_pow_right (by decide) (by omega)
    dsimp only
    split
    · exact ⟨by dsimp only; omega, half, Or.inr (le_refl _)⟩
    · rename_i whole
      have rounded := roundHalfEven_le room fits
      refine ⟨least, Nat.lt_of_le_of_ne rounded whole, fills.imp_right fun filled => ?_⟩
      have above : 2 ^ (f.precision - 1) * (inUnits num den e).2 ≤ (inUnits num den e).1 := by
        rw [le_inUnits num positive]
        exact_mod_cast filled
      exact le_roundHalfEven room above

end Format

def Binary.Rounded (f : Format) : Binary → Prop
  | finite _ x => x.Normal f
  | infinite _ => True

theorem Binary.rounded_ofMagnitude {f : Format} {x : Magnitude} (normal : x.Normal f) (negative : Bool) :
    (ofMagnitude f negative x).Rounded f := by
  unfold ofMagnitude
  split
  · exact trivial
  · exact normal

end PolicyLint.Decimal
