import Mathlib.Algebra.Order.Field.Power
import Mathlib.Algebra.Order.Field.Rat
import Mathlib.Data.List.TakeWhile
import Mathlib.Tactic.Ring
import PolicyLint.Json.Number
import PolicyLint.Proofs.Decimal.Numeral

/-!
# Layouts of digits

Digits denote a rational number, and so does a numeral, whatever its sign. Both layouts of some digits are
proper numerals that denote what the digits denote.
-/

namespace PolicyLint.Decimal

open Json (exponentValue)

theorem ofDigits_append (ds ds' : List Char) :
    ofDigits (ds ++ ds') = ofDigits ds * 10 ^ ds'.length + ofDigits ds' := by
  rw [ofDigits_eq, ofDigits_eq, ofDigits_eq, Nat.ofDigitChars_append, Nat.ofDigitChars_eq_ofDigitChars_zero,
    Nat.mul_comm]

theorem ofDigits_zeros (n : Nat) : ofDigits (List.replicate n '0') = 0 := by
  rw [ofDigits_eq, Nat.ofDigitChars_replicate_zero, Nat.mul_zero]

def Numeral.value (n : Numeral) : ℚ :=
  ofDigits (n.whole ++ n.fraction) * 10 ^ (exponentValue n.exponent - n.fraction.length)

namespace Digits

def value (d : Digits) : ℚ := ofDigits d.digits * 10 ^ (d.point - d.digits.length)

/-- The digits of a positive number, without zeros in front. -/
structure Significant (d : Digits) : Prop where
  digits : ∀ c ∈ d.digits, c.isDigit = true
  some : d.digits ≠ []
  first : d.digits.head? ≠ Option.some '0'

/-! ### Digits of naturals -/

/-- The digits of a natural end with zeros that are dropped. -/
theorem ofNat_zeros (n : Nat) (place : Int) :
    ∃ k, Nat.toDigits 10 n = (ofNat n place).digits ++ List.replicate k '0' := by
  let ds := (Nat.toDigits 10 n).reverse
  have zeros : ds.takeWhile (· == '0') = List.replicate (ds.takeWhile (· == '0')).length '0' := by
    rw [List.eq_replicate_iff]
    exact ⟨rfl, fun c member => by simpa using List.mem_takeWhile_imp member⟩
  refine ⟨(ds.takeWhile (· == '0')).length, ?_⟩
  calc Nat.toDigits 10 n = (ds.takeWhile (· == '0') ++ ds.dropWhile (· == '0')).reverse := by
        rw [List.takeWhile_append_dropWhile, List.reverse_reverse]
    _ = (ofNat n place).digits ++ (ds.takeWhile (· == '0')).reverse := List.reverse_append
    _ = _ := by rw [zeros, List.reverse_replicate, List.length_replicate]

theorem value_ofNat (n : Nat) (place : Int) : (ofNat n place).value = n * 10 ^ place := by
  obtain ⟨k, digits⟩ := ofNat_zeros n place
  have natural : ofDigits (ofNat n place).digits * 10 ^ k = n := by
    have denoted := ofDigits_toDigits n
    rwa [digits, ofDigits_append, ofDigits_zeros, List.length_replicate, Nat.add_zero] at denoted
  have point : (ofNat n place).point - (ofNat n place).digits.length = k + place := by
    have length : (Nat.toDigits 10 n).length = (ofNat n place).digits.length + k := by
      rw [digits, List.length_append, List.length_replicate]
    have shift : (ofNat n place).point = (Nat.toDigits 10 n).length + place := rfl
    omega
  calc (ofNat n place).value = ofDigits (ofNat n place).digits * 10 ^ ((k : Int) + place) := by rw [value, point]
    _ = ((ofDigits (ofNat n place).digits * 10 ^ k : Nat) : ℚ) * 10 ^ place := by
        rw [zpow_add₀ (by decide), zpow_natCast]
        push_cast
        ring
    _ = n * 10 ^ place := by rw [natural]

theorem significant_ofNat {n : Nat} (positive : 0 < n) (place : Int) : (ofNat n place).Significant := by
  obtain ⟨k, digits⟩ := ofNat_zeros n place
  have first := head_toDigits positive
  rw [digits] at first
  -- were no digit left, the number would begin with one of the zeros
  have some : (ofNat n place).digits ≠ [] := by
    intro none
    rw [none, List.nil_append] at digits first
    cases k with
    | zero => exact Nat.toDigits_ne_nil digits
    | succ k => exact first rfl
  refine ⟨fun c member => ?_, some, fun zero => ?_⟩
  · exact isDigit_toDigits n c (digits ▸ List.mem_append_left _ member)
  · rw [List.head?_append, zero] at first
    exact first rfl

/-! ### Numerals of digits -/

variable {d : Digits}

theorem Significant.leading {ds : List Char} (significant : d.Significant) (start : ds <+: d.digits) (some : ds ≠ []) :
    Leading ds := by
  refine ⟨fun c member => significant.digits c (start.subset member), some, fun zero => ?_⟩
  obtain ⟨rest, whole⟩ := start
  exact absurd (by rw [← whole, List.head?_append, zero]; rfl) significant.first

theorem isDigit_zeros {n : Nat} {c : Char} (member : c ∈ List.replicate n '0') : c.isDigit = true := by
  rw [List.eq_of_mem_replicate member]
  rfl

theorem proper_plain (significant : d.Significant) : d.plain.Proper := by
  rw [plain]
  split
  · refine ⟨⟨by simp, by simp, by simp⟩, fun c member => ?_, by simp⟩
    exact (List.mem_append.mp member).elim isDigit_zeros (significant.digits c)
  · rename_i inside
    dsimp only
    split
    · refine ⟨⟨fun c member => ?_, by simp [significant.some], fun zero => ?_⟩, by simp, by simp⟩
      · exact (List.mem_append.mp member).elim (significant.digits c) isDigit_zeros
      · rw [List.head?_append, Option.or_of_isSome (List.isSome_head?.mpr significant.some)] at zero
        exact absurd zero significant.first
    · have some : d.digits.take d.point.toNat ≠ [] := by
        rw [Ne, List.take_eq_nil_iff, not_or]
        exact ⟨by omega, significant.some⟩
      refine ⟨significant.leading (List.take_prefix _ _) some, fun c member => ?_, by simp⟩
      exact significant.digits c (List.mem_of_mem_drop member)

theorem proper_scientific (significant : d.Significant) : d.scientific.Proper := by
  have some : d.digits.take 1 ≠ [] := by
    rw [Ne, List.take_eq_nil_iff, not_or]
    exact ⟨by decide, significant.some⟩
  refine ⟨significant.leading (List.take_prefix _ _) some, fun c member => ?_, fun below ds exponent => ?_⟩
  · exact significant.digits c (List.mem_of_mem_drop member)
  · obtain ⟨_, rfl⟩ := Prod.mk.inj (Option.some.inj exponent)
    exact ⟨Nat.toDigits_ne_nil, isDigit_toDigits _⟩

theorem value_plain (d : Digits) : d.plain.value = d.value := by
  rw [plain]
  split
  · -- zeros stand in front of the digits
    have whole : ofDigits (['0'] ++ (List.replicate (-d.point).toNat '0' ++ d.digits)) = ofDigits d.digits := by
      rw [← List.append_assoc, ofDigits_append, show ['0'] ++ _ = _ from (List.replicate_succ (n := _)).symm,
        ofDigits_zeros]
      simp
    have places : 0 - ((List.replicate (-d.point).toNat '0' ++ d.digits).length : Int) = d.point - d.digits.length := by
      rw [List.length_append, List.length_replicate]
      omega
    rw [Numeral.value, value, whole, exponentValue, places]
  · rename_i inside
    dsimp only
    split
    · -- zeros stand behind the digits, and one more behind the point
      rename_i short
      have split : (10 : ℚ) ^ (d.point - d.digits.length) =
          10 ^ (d.point.toNat - d.digits.length + 1) * 10 ^ ((0 : Int) - 1) := by
        rw [← zpow_natCast, ← zpow_add₀ (by decide)]
        congr 1
        omega
      rw [Numeral.value, value, split, List.append_assoc, ofDigits_append,
        show List.replicate _ '0' ++ ['0'] = _ from (List.replicate_succ' (n := _)).symm, ofDigits_zeros,
        List.length_replicate]
      simp [exponentValue]
      ring
    · have places : 0 - ((d.digits.drop d.point.toNat).length : Int) = d.point - d.digits.length := by
        rw [List.length_drop]
        omega
      rw [Numeral.value, value, List.take_append_drop, exponentValue, places]

theorem value_scientific (some : d.digits ≠ []) : d.scientific.value = d.value := by
  have exponent : exponentValue d.scientific.exponent = d.point - 1 := by
    rw [scientific]
    simp only [exponentValue, ofDigits_toDigits, decide_eq_true_eq]
    split <;> omega
  have places : d.point - 1 - ((d.digits.drop 1).length : Int) = d.point - d.digits.length := by
    have length : 0 < d.digits.length := List.length_pos_iff.mpr some
    rw [List.length_drop]
    omega
  rw [Numeral.value, exponent, value, ← places]
  simp only [scientific, List.take_append_drop]

end Digits

end PolicyLint.Decimal
