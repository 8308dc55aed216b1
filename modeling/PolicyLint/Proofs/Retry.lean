import Mathlib.Algebra.Group.Nat.Defs
import PolicyLint.Retry

/-!
# Waits in machine words

A wait is computed in words: an exponent that stops growing, a shift of one bit, a product that stops at the longest
duration, and the shorter of two durations. `toNanos_lapseAfter` says that nothing is lost on the way.
`delayAfter_doubles` says for which attempts that makes the wait double, and what it is for the others.
-/

namespace PolicyLint

/-- A duration in words: seconds, and the nanoseconds beyond them. -/
structure Lapse where
  seconds : UInt64
  nanos : UInt32
  deriving DecidableEq, Repr

namespace Lapse

def toNanos (d : Lapse) : Nat := d.seconds.toNat * 1000000000 + d.nanos.toNat

def Proper (d : Lapse) : Prop := d.nanos.toNat < 1000000000

def ofMillis (ms : UInt64) : Lapse where
  seconds := ms / 1000
  nanos := (ms % 1000).toUInt32 * 1000000

def longest : Lapse where
  seconds := 0xFFFFFFFFFFFFFFFF
  nanos := 999999999

/-- A multiple of a duration, or the longest one if its seconds do not fit into their word. -/
def times (d : Lapse) (n : UInt32) : Lapse :=
  let nanos := d.nanos.toUInt64 * n.toUInt64
  let seconds := d.seconds.toNat * n.toNat + (nanos / 1000000000).toNat
  if seconds < UInt64.size then { seconds := .ofNat seconds, nanos := (nanos % 1000000000).toUInt32 } else longest

def shorter (a b : Lapse) : Lapse :=
  if a.seconds < b.seconds ∨ a.seconds = b.seconds ∧ a.nanos ≤ b.nanos then a else b

theorem toNanos_ofMillis (ms : UInt64) : (ofMillis ms).Proper ∧ (ofMillis ms).toNanos = ms.toNat * 1000000 := by
  have seconds : (ms / 1000).toNat = ms.toNat / 1000 := UInt64.toNat_div ms 1000
  have rest : (ms % 1000).toNat = ms.toNat % 1000 := UInt64.toNat_mod ms 1000
  have nanos : ((ms % 1000).toUInt32 * 1000000).toNat = ms.toNat % 1000 * 1000000 := by
    rw [UInt32.toNat_mul, UInt64.toNat_toUInt32, rest]
    show ms.toNat % 1000 % 2 ^ 32 * 1000000 % 2 ^ 32 = _
    omega
  constructor
  · rw [Proper, ofMillis, nanos]
    omega
  · rw [toNanos, ofMillis, seconds, nanos]
    omega

theorem toNanos_times {d : Lapse} (proper : d.Proper) (n : UInt32) :
    (d.times n).Proper ∧ (d.times n).toNanos = d.toNanos * n.toNat ∨
      d.times n = longest ∧ longest.toNanos < d.toNanos * n.toNat := by
  have small := n.toNat_lt
  have product : (d.nanos.toUInt64 * n.toUInt64).toNat = d.nanos.toNat * n.toNat := by
    rw [UInt64.toNat_mul, UInt32.toNat_toUInt64, UInt32.toNat_toUInt64]
    refine Nat.mod_eq_of_lt (Nat.lt_of_lt_of_le (Nat.mul_lt_mul'' proper small) ?_)
    decide
  have whole : (d.nanos.toUInt64 * n.toUInt64 / 1000000000).toNat = d.nanos.toNat * n.toNat / 1000000000 := by
    rw [UInt64.toNat_div, product]
    rfl
  have rest : (d.nanos.toUInt64 * n.toUInt64 % 1000000000).toUInt32.toNat = d.nanos.toNat * n.toNat % 1000000000 := by
    rw [UInt64.toNat_toUInt32, UInt64.toNat_mod, product]
    show d.nanos.toNat * n.toNat % 1000000000 % 2 ^ 32 = _
    omega
  have spread : d.toNanos * n.toNat = d.seconds.toNat * n.toNat * 1000000000 + d.nanos.toNat * n.toNat := by
    rw [toNanos, Nat.add_mul, Nat.mul_right_comm]
  unfold times
  dsimp only
  rw [whole, spread]
  split
  · rename_i fits
    refine Or.inl ⟨?_, ?_⟩
    · rw [Proper, rest]
      exact Nat.mod_lt _ (by decide)
    · rw [toNanos, rest, UInt64.toNat_ofNat', Nat.mod_eq_of_lt fits]
      omega
  · rename_i full
    refine Or.inr ⟨rfl, ?_⟩
    have most : longest.toNanos = 2 ^ 64 * 1000000000 - 1 := by decide
    rw [most]
    rw [UInt64.size] at full
    omega

theorem toNanos_shorter {a b : Lapse} (first : a.Proper) (second : b.Proper) :
    (a.shorter b).toNanos = min a.toNanos b.toNanos := by
  unfold Proper at first second
  unfold shorter
  split
  · rename_i before
    rw [UInt64.lt_iff_toNat_lt, ← UInt64.toNat_inj, UInt32.le_iff_toNat_le] at before
    refine (Nat.min_eq_left ?_).symm
    unfold toNanos
    omega
  · rename_i behind
    rw [UInt64.lt_iff_toNat_lt, ← UInt64.toNat_inj, UInt32.le_iff_toNat_le] at behind
    refine (Nat.min_eq_right ?_).symm
    unfold toNanos
    omega

end Lapse

namespace Retry

def factorAfter (attempt : UInt32) : UInt32 := 1 <<< min (if attempt = 0 then 0 else attempt - 1) 31

def lapseAfter (r : Retry) (attempt : UInt32) : Lapse :=
  ((Lapse.ofMillis (.ofNat r.baseDelay)).times (factorAfter attempt)).shorter (.ofMillis (.ofNat r.maxDelay))

/-- The wait after a failed attempt if it doubles every time, up to the longest one. -/
def doubled (r : Retry) (attempt : Nat) : Nat := min (r.baseDelay * 2 ^ (attempt - 1)) r.maxDelay

theorem toNat_min (a b : UInt32) : (min a b).toNat = min a.toNat b.toNat := by
  show (if a ≤ b then a else b).toNat = min a.toNat b.toNat
  split
  · rename_i le
    exact (Nat.min_eq_left (UInt32.le_iff_toNat_le.mp le)).symm
  · rename_i less
    exact (Nat.min_eq_right (Nat.le_of_lt (UInt32.lt_iff_toNat_lt.mp (UInt32.not_le.mp less)))).symm

theorem toNat_factorAfter (attempt : UInt32) : (factorAfter attempt).toNat = 2 ^ min (attempt.toNat - 1) 31 := by
  have before : (if attempt = 0 then 0 else attempt - 1 : UInt32).toNat = attempt.toNat - 1 := by
    split
    · rename_i none
      rw [none]
      rfl
    · rename_i some
      have positive : 1 ≤ attempt.toNat := Nat.one_le_iff_ne_zero.mpr fun zero => some (UInt32.toNat_inj.mp zero)
      exact UInt32.toNat_sub_of_le _ _ (UInt32.le_iff_toNat_le.mpr positive)
  have exponent : (min (if attempt = 0 then 0 else attempt - 1) 31 : UInt32).toNat = min (attempt.toNat - 1) 31 := by
    rw [← before]
    exact toNat_min _ 31
  have least : min (attempt.toNat - 1) 31 ≤ 31 := Nat.min_le_right _ _
  rw [factorAfter, UInt32.toNat_shiftLeft, exponent, Nat.shiftLeft_eq]
  generalize min (attempt.toNat - 1) 31 = e at least
  show 1 * 2 ^ (e % 32) % 2 ^ 32 = 2 ^ e
  rw [Nat.one_mul, Nat.mod_eq_of_lt (Nat.lt_succ_of_le least)]
  exact Nat.mod_eq_of_lt (Nat.pow_lt_pow_right (by decide) (Nat.lt_succ_of_le least))

/-- The wait in words is the wait, to the nanosecond. -/
theorem toNanos_lapseAfter {r : Retry} (base : r.baseDelay < 2 ^ 64) (cap : r.maxDelay < 2 ^ 64) (attempt : UInt32) :
    (r.lapseAfter attempt).toNanos = r.delayAfter attempt.toNat * 1000000 := by
  obtain ⟨least, shortest⟩ := Lapse.toNanos_ofMillis (.ofNat r.baseDelay)
  obtain ⟨most, greatest⟩ := Lapse.toNanos_ofMillis (.ofNat r.maxDelay)
  rw [UInt64.toNat_ofNat', Nat.mod_eq_of_lt base] at shortest
  rw [UInt64.toNat_ofNat', Nat.mod_eq_of_lt cap] at greatest
  have wait : r.delayAfter attempt.toNat = min (r.baseDelay * (factorAfter attempt).toNat) r.maxDelay := by
    rw [toNat_factorAfter]
    rfl
  rw [wait, ← Nat.mul_min_mul_right, ← greatest, Nat.mul_right_comm, ← shortest, lapseAfter]
  rcases Lapse.toNanos_times least (factorAfter attempt) with ⟨proper, exact⟩ | ⟨full, beyond⟩
  · rw [Lapse.toNanos_shorter proper most, exact]
  · -- a product that does not fit is longer than every duration that is given in milliseconds
    have cut : (Lapse.ofMillis (.ofNat r.maxDelay)).toNanos < Lapse.longest.toNanos := by
      rw [greatest, show Lapse.longest.toNanos = 2 ^ 64 * 1000000000 - 1 by decide]
      omega
    have proper : Lapse.longest.Proper := by
      rw [Lapse.Proper]
      decide
    rw [full, Lapse.toNanos_shorter proper most, Nat.min_eq_right (Nat.le_of_lt cut),
      Nat.min_eq_right (Nat.le_of_lt (Nat.lt_trans cut beyond))]

theorem delayAfter_eq (r : Retry) (attempt : Nat) :
    r.delayAfter attempt = min (r.baseDelay * 2 ^ min (attempt - 1) 31) r.maxDelay := rfl

theorem doubled_of_early (r : Retry) {attempt : Nat} (early : attempt ≤ 32) : r.delayAfter attempt = r.doubled attempt := by
  rw [delayAfter_eq, doubled, Nat.min_eq_left (by omega : attempt - 1 ≤ 31)]

theorem delayAfter_of_late (r : Retry) {attempt : Nat} (late : 32 < attempt) :
    r.delayAfter attempt = min (r.baseDelay * 2 ^ 31) r.maxDelay := by
  rw [delayAfter_eq, Nat.min_eq_right (by omega : 31 ≤ attempt - 1)]

/-- The doubling that is left out makes a longer wait, unless the longest one is reached. -/
theorem doubled_of_late (r : Retry) {attempt : Nat} (late : 32 < attempt) :
    min (r.baseDelay * 2 ^ 31 * 2) r.maxDelay ≤ r.doubled attempt := by
  have more : r.baseDelay * 2 ^ 31 * 2 ≤ r.baseDelay * 2 ^ (attempt - 1) := by
    rw [Nat.mul_assoc]
    exact Nat.mul_le_mul_left _ (Nat.pow_le_pow_right (Nat.succ_pos 1) (by omega : 32 ≤ attempt - 1))
  unfold doubled
  omega

/-- In words as in numbers, the waits double up to the longest one as long as the exponent grows. A later wait is still
the doubled one if there is nothing to double or the longest wait is reached; otherwise it is too short. -/
theorem delayAfter_doubles {r : Retry} (base : r.baseDelay < 2 ^ 64) (cap : r.maxDelay < 2 ^ 64) {attempt : Nat}
    (counted : 1 ≤ attempt) (word : attempt < 2 ^ 32) :
    (r.lapseAfter (.ofNat attempt)).toNanos = r.delayAfter attempt * 1000000 ∧
      (r.delayAfter attempt = r.doubled attempt ↔
        attempt ≤ 32 ∨ r.baseDelay = 0 ∨ r.maxDelay ≤ r.baseDelay * 2 ^ 31) ∧
      (r.delayAfter attempt ≠ r.doubled attempt →
        r.delayAfter attempt = r.baseDelay * 2 ^ 31 ∧ r.delayAfter attempt < r.doubled attempt) := by
  have exact := toNanos_lapseAfter base cap (.ofNat attempt)
  rw [UInt32.toNat_ofNat', Nat.mod_eq_of_lt word] at exact
  by_cases early : attempt ≤ 32
  · have same := r.doubled_of_early early
    exact ⟨exact, ⟨fun _ => Or.inl early, fun _ => same⟩, fun other => absurd same other⟩
  · have wait := r.delayAfter_of_late (Nat.lt_of_not_le early)
    have longer := r.doubled_of_late (Nat.lt_of_not_le early)
    have most : r.doubled attempt ≤ r.maxDelay := Nat.min_le_right _ _
    have nothing : r.baseDelay = 0 → r.doubled attempt = 0 := by
      intro zero
      rw [doubled, zero, Nat.zero_mul, Nat.zero_min]
    refine ⟨exact, ⟨fun same => ?_, fun reached => ?_⟩, fun other => ?_⟩ <;> omega

theorem delayAfter_doubles_of_defaults :
    let r : Retry := {}
    1 ≤ 40 ∧ 40 < 2 ^ 32 ∧ r.maxDelay ≤ r.baseDelay * 2 ^ 31 ∧ r.delayAfter 40 = r.doubled 40 ∧
      (r.lapseAfter 40).toNanos = 8000 * 1000000 := by
  intro r
  obtain ⟨words, doubles, _⟩ :=
    delayAfter_doubles (r := r) (by decide) (by decide) (by decide : 1 ≤ 40) (by decide : 40 < 2 ^ 32)
  exact ⟨by decide, by decide, by decide, doubles.mpr (Or.inr (Or.inr (by decide))), words.trans (by decide)⟩

/-- The exponent stops growing before a longest wait of about a hundred days is reached from one millisecond. -/
theorem not_doubled_of_long_cap :
    ¬∀ (r : Retry) (attempt : Nat), r.baseDelay < 2 ^ 64 → r.maxDelay < 2 ^ 64 → 1 ≤ attempt → attempt < 2 ^ 32 →
      r.delayAfter attempt = r.doubled attempt := by
  intro doubles
  have same := doubles { baseDelay := 1, maxDelay := 8589934592 } 33 (by decide) (by decide) (by decide) (by decide)
  exact absurd same (by decide)

end Retry

end PolicyLint
