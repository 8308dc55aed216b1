import PolicyLint.Decimal.Numeral

/-!
# Proper numerals

The digits of a natural denote it and begin with a zero only for zero itself. A numeral is `Proper` if its
text is one number and nothing else.
-/

namespace PolicyLint.Decimal

/-! ### Digits of a natural -/

theorem ofDigits_eq (ds : List Char) : ofDigits ds = Nat.ofDigitChars 10 ds 0 := by
  rw [ofDigits, Nat.ofDigitChars_eq_foldl]
  simp only [digitValue, Nat.mul_comm]

theorem ofDigits_toDigits (n : Nat) : ofDigits (Nat.toDigits 10 n) = n := by
  rw [ofDigits_eq, Nat.ofDigitChars_ten_toDigits]

theorem isDigit_toDigits (n : Nat) : ∀ c ∈ Nat.toDigits 10 n, c.isDigit = true :=
  fun _ member => Nat.isDigit_of_mem_toDigits (by decide) (by decide) member

theorem head_toDigits {n : Nat} (positive : 0 < n) : (Nat.toDigits 10 n).head? ≠ some '0' := by
  induction n using Nat.strongRecOn with
  | ind n ih =>
    rw [Nat.toDigits_eq_if (by decide)]
    split
    · rename_i small
      have digits : ∀ m : Fin 10, 0 < m.val → [Nat.digitChar m.val].head? ≠ some '0' := by decide
      exact digits ⟨n, small⟩ positive
    · rename_i large
      rw [List.head?_append, Option.or_of_isSome (List.isSome_head?.mpr Nat.toDigits_ne_nil)]
      exact ih (n / 10) (by omega) (by omega)

/-! ### Proper numerals -/

/-- Digits in which a number can begin: there are some, and no zero stands in front of others. -/
structure Leading (ds : List Char) : Prop where
  digits : ∀ c ∈ ds, c.isDigit = true
  some : ds ≠ []
  zero : ds.head? = Option.some '0' → ds.length = 1

theorem leading_toDigits (n : Nat) : Leading (Nat.toDigits 10 n) := by
  refine ⟨isDigit_toDigits n, Nat.toDigits_ne_nil, fun zero => ?_⟩
  rcases Nat.eq_zero_or_pos n with rfl | positive
  · rfl
  · exact absurd zero (head_toDigits positive)

structure Numeral.Proper (n : Numeral) : Prop where
  whole : Leading n.whole
  fraction : ∀ c ∈ n.fraction, c.isDigit = true
  exponent : ∀ below ds, n.exponent = some (below, ds) → ds ≠ [] ∧ ∀ c ∈ ds, c.isDigit = true

theorem Numeral.proper_ofNat (n : Nat) : (Numeral.ofNat n).Proper where
  whole := leading_toDigits n
  fraction := by simp [ofNat]
  exponent := by simp [ofNat]

theorem Numeral.ofNat_inj {n n' : Nat} (same : Numeral.ofNat n = Numeral.ofNat n') : n = n' := by
  have digits : Nat.toDigits 10 n = Nat.toDigits 10 n' := congrArg Numeral.whole same
  rw [← ofDigits_toDigits n, digits, ofDigits_toDigits]

end PolicyLint.Decimal
