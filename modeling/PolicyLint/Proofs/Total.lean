import Mathlib.Algebra.Group.Nat.Defs

/-!
# Totals

Sums over the members of a list, of numbers or of machine words.
-/

namespace PolicyLint

variable {α β M : Type}

/-- Numbers and machine words alike are summed in any order. -/
class Addable (M : Type) [Add M] [OfNat M 0] : Prop extends Std.Associative fun a b : M => a + b,
  Std.Commutative fun a b : M => a + b, Std.LawfulIdentity (fun a b : M => a + b) 0 where
  cancel : ∀ {a b c : M}, a + c = b + c → a = b

instance : Addable Nat where
  assoc := Nat.add_assoc
  comm := Nat.add_comm
  left_id := Nat.zero_add
  right_id := Nat.add_zero
  cancel := Nat.add_right_cancel

instance : Addable UInt64 where
  assoc := UInt64.add_assoc
  comm := UInt64.add_comm
  left_id a := UInt64.zero_add a
  right_id a := UInt64.add_zero a
  cancel := UInt64.add_left_inj _ |>.mp

def total [Add M] [OfNat M 0] (count : α → M) : List α → M
  | [] => 0
  | x :: rest => count x + total count rest

section Sums

variable [Add M] [OfNat M 0]

theorem total_map (count : β → M) (f : α → β) (l : List α) : total count (l.map f) = total (fun x => count (f x)) l := by
  induction l with
  | nil => rfl
  | cons x rest ih => rw [List.map_cons, total, total, ih]

theorem total_congr {first second : α → M} {l : List α} (same : ∀ x ∈ l, first x = second x) :
    total first l = total second l := by
  induction l with
  | nil => rfl
  | cons x rest ih =>
    rw [total, total, same x List.mem_cons_self, ih fun y member => same y (List.mem_cons_of_mem _ member)]

variable [Addable M]

theorem total_perm (count : α → M) {a b : List α} (perm : a.Perm b) : total count a = total count b := by
  induction perm with
  | nil => rfl
  | cons x _ ih => rw [total, total, ih]
  | swap x y l =>
    rw [total, total, total, total]
    ac_rfl
  | trans _ _ ih ih' => rw [ih, ih']

/-- Lists with the same labels have the same total, if what is counted depends on the label. -/
theorem total_of_labels {γ : Type} {first : α → M} {second : γ → M} {label : α → β} {label' : γ → β} {l : List α}
    {l' : List γ} (perm : (l.map label).Perm (l'.map label'))
    (same : ∀ x ∈ l, ∀ y ∈ l', label x = label' y → first x = second y) : total first l = total second l' := by
  induction l generalizing l' with
  | nil => rw [List.map_eq_nil_iff.mp perm.symm.eq_nil, total, total]
  | cons x rest ih =>
    -- Some member of the other list has the label of the first one, and what is left of the lists has the same labels.
    have member : label x ∈ l'.map label' := perm.subset (List.mem_map_of_mem List.mem_cons_self)
    obtain ⟨y, there, labels⟩ := List.mem_map.mp member
    obtain ⟨before, after, rfl⟩ := List.append_of_mem there
    have others : (rest.map label).Perm ((before ++ after).map label') := by
      have moved := perm.trans (List.perm_middle.map label')
      rw [List.map_cons, List.map_cons, labels] at moved
      exact moved.cons_inv
    have inside : ∀ z ∈ before ++ after, z ∈ before ++ y :: after := fun z member => List.perm_middle.symm.subset
      (List.mem_cons_of_mem y member)
    rw [total_perm second List.perm_middle, total, total, same x List.mem_cons_self y there labels.symm,
      ih others fun z known u member => same z (List.mem_cons_of_mem x known) u (inside u member)]

theorem plus_assoc (a b c : M) : a + b + c = a + (b + c) := by ac_rfl

theorem zero_plus (a : M) : 0 + a = a := by ac_rfl

theorem plus_zero (a : M) : a + 0 = a := by ac_rfl

theorem total_append (count : α → M) (a b : List α) : total count (a ++ b) = total count a + total count b := by
  induction a with
  | nil => rw [List.nil_append, total, zero_plus]
  | cons x rest ih =>
    rw [List.cons_append, total, total, ih]
    ac_rfl

theorem total_singleton (count : α → M) (x : α) : total count [x] = count x := by
  rw [total, total, plus_zero]

theorem total_add (first second : α → M) (l : List α) :
    total (fun x => first x + second x) l = total first l + total second l := by
  induction l with
  | nil => rw [total, total, total, plus_zero]
  | cons x rest ih =>
    rw [total, total, total, ih]
    ac_rfl

theorem total_eq_zero {count : α → M} {l : List α} (none : ∀ x ∈ l, count x = 0) : total count l = 0 := by
  induction l with
  | nil => rfl
  | cons x rest ih =>
    rw [total, none x List.mem_cons_self, ih fun y member => none y (List.mem_cons_of_mem _ member), plus_zero]

theorem total_flatMap (count : β → M) (f : α → List β) (l : List α) :
    total count (l.flatMap f) = total (fun x => total count (f x)) l := by
  induction l with
  | nil => rfl
  | cons x rest ih => rw [List.flatMap_cons, total_append, total, ih]

theorem total_ite {a : α} {l : List α} [DecidableEq α] (distinct : l.Nodup) (member : a ∈ l) (n : M) :
    total (fun x => if a = x then n else 0) l = n := by
  induction l with
  | nil => exact absurd member (by simp)
  | cons x rest ih =>
    rw [List.nodup_cons] at distinct
    rw [total]
    rcases List.mem_cons.mp member with rfl | later
    · rw [if_pos rfl, total_eq_zero, plus_zero]
      intro y there
      rw [if_neg]
      intro same
      exact distinct.1 (same ▸ there)
    · rw [if_neg, ih distinct.2 later, zero_plus]
      intro same
      exact distinct.1 (same ▸ later)

/-- The total over parts of a list that are told apart by distinct labels. -/
theorem total_parts [DecidableEq β] (count : α → M) (label : α → β) {labels : List β} (distinct : labels.Nodup)
    {l : List α} (covered : ∀ x ∈ l, label x ∈ labels) :
    total (fun b => total count (l.filter fun x => label x = b)) labels = total count l := by
  induction l with
  | nil => exact total_eq_zero fun b _ => rfl
  | cons x rest ih =>
    have split : ∀ b ∈ labels, total count ((x :: rest).filter fun y => label y = b) =
        (if label x = b then count x else 0) + total count (rest.filter fun y => label y = b) := by
      intro b _
      by_cases same : label x = b
      · rw [List.filter_cons_of_pos (by simpa using same), if_pos same, total]
      · rw [List.filter_cons_of_neg (by simpa using same), if_neg same, zero_plus]
    rw [total_congr split, total_add, total_ite distinct (covered x List.mem_cons_self), total,
      ih fun y member => covered y (List.mem_cons_of_mem _ member)]

end Sums

/-! ### Numbers -/

theorem total_eq_zero_iff {count : α → Nat} {l : List α} : total count l = 0 ↔ ∀ x ∈ l, count x = 0 := by
  refine ⟨fun none => ?_, total_eq_zero⟩
  induction l with
  | nil => simp
  | cons x rest ih =>
    rw [total] at none
    intro y member
    rcases List.mem_cons.mp member with rfl | later
    · omega
    · exact ih (by omega) y later

theorem total_le {count : α → Nat} {l : List α} {n : Nat} (each : ∀ x ∈ l, count x ≤ n) : total count l ≤ l.length * n := by
  induction l with
  | nil => exact Nat.zero_le _
  | cons x rest ih =>
    have first := each x List.mem_cons_self
    have others := ih fun y member => each y (List.mem_cons_of_mem _ member)
    rw [total, List.length_cons, Nat.succ_mul]
    omega

theorem total_one (l : List α) : total (fun _ => 1) l = l.length := by
  induction l with
  | nil => rfl
  | cons x rest ih =>
    rw [total, ih, List.length_cons]
    omega

theorem total_indicator (p : α → Bool) (l : List α) : total (fun x => if p x then 1 else 0) l = (l.filter p).length := by
  induction l with
  | nil => rfl
  | cons x rest ih =>
    rw [total, ih]
    cases here : p x with
    | true => rw [List.filter_cons_of_pos here, if_pos rfl, List.length_cons, Nat.add_comm]
    | false => rw [List.filter_cons_of_neg (by simp [here]), if_neg (by decide), Nat.zero_add]

/-- A sum of words is the sum of the numbers, without the carry. -/
theorem toNat_total_ofNat (count : α → Nat) (l : List α) :
    (total (fun x => UInt64.ofNat (count x)) l).toNat = total count l % 2 ^ 64 := by
  induction l with
  | nil => rfl
  | cons x rest ih => rw [total, total, UInt64.toNat_add, ih, UInt64.toNat_ofNat', ← Nat.add_mod]

theorem toNat_total (count : α → UInt64) (l : List α) :
    (total count l).toNat = total (fun x => (count x).toNat) l % 2 ^ 64 := by
  rw [← toNat_total_ofNat]
  simp only [UInt64.ofNat_toNat]

end PolicyLint
