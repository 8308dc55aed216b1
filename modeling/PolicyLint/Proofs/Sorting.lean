/-!
# Sorting by a key

Sorting is stable, so members with one key keep their order. A list that is sorted by a key is settled by its
members with each key, in their order, and they stand together in it.
-/

namespace PolicyLint

structure KeyOrder {κ : Type} (le : κ → κ → Bool) : Prop where
  trans : ∀ a b c, le a b = true → le b c = true → le a c = true
  total : ∀ a b, (le a b || le b a) = true
  antisymm : ∀ a b, le a b = true → le b a = true → a = b

variable {α κ : Type} {le : κ → κ → Bool}

theorem KeyOrder.refl (order : KeyOrder le) (a : κ) : le a a = true := by
  simpa using order.total a a

def SortedBy (le : κ → κ → Bool) (key : α → κ) (l : List α) : Prop := l.Pairwise fun a b => le (key a) (key b) = true

theorem sortedBy_mergeSort (order : KeyOrder le) (key : α → κ) (l : List α) :
    SortedBy le key (l.mergeSort fun a b => le (key a) (key b)) :=
  List.pairwise_mergeSort (fun a b c => order.trans (key a) (key b) (key c)) (fun a b => order.total (key a) (key b)) l

variable [DecidableEq κ] {key : α → κ} {k : κ} {a : α}

def withKey (key : α → κ) (k : κ) (l : List α) : List α := l.filter fun a => key a = k

theorem mem_withKey {l : List α} : a ∈ withKey key k l ↔ a ∈ l ∧ key a = k := by
  rw [withKey, List.mem_filter, decide_eq_true_eq]

theorem withKey_cons_same (same : key a = k) (l : List α) : withKey key k (a :: l) = a :: withKey key k l :=
  List.filter_cons_of_pos (by simpa using same)

theorem withKey_cons_other (other : key a ≠ k) (l : List α) : withKey key k (a :: l) = withKey key k l :=
  List.filter_cons_of_neg (by simpa using other)

theorem withKey_mergeSort (order : KeyOrder le) (l : List α) (k : κ) :
    withKey key k (l.mergeSort fun a b => le (key a) (key b)) = withKey key k l := by
  have level : (withKey key k l).Pairwise fun a b => le (key a) (key b) = true := by
    refine List.pairwise_of_forall_mem_list fun a first b second => ?_
    rw [(mem_withKey.mp first).2, (mem_withKey.mp second).2]
    exact order.refl k
  have kept : (withKey key k l).Sublist (l.mergeSort fun a b => le (key a) (key b)) :=
    List.sublist_mergeSort (fun a b c => order.trans (key a) (key b) (key c)) (fun a b => order.total (key a) (key b))
      level List.filter_sublist
  have among : (withKey key k (withKey key k l)).Sublist (withKey key k (l.mergeSort fun a b => le (key a) (key b))) :=
    kept.filter _
  have idem : withKey key k (withKey key k l) = withKey key k l :=
    List.filter_eq_self.mpr fun a member => by simpa using (mem_withKey.mp member).2
  rw [idem] at among
  exact (among.eq_of_length ((List.mergeSort_perm l _).filter _).length_eq.symm).symm

/-- Sorted lists that have the same members with each key are equal. -/
theorem eq_of_withKey (order : KeyOrder le) {s t : List α} (sorted : SortedBy le key s) (sorted' : SortedBy le key t)
    (same : ∀ k, withKey key k s = withKey key k t) : s = t := by
  induction s generalizing t with
  | nil =>
    cases t with
    | nil => rfl
    | cons b t =>
      have found := same (key b)
      rw [withKey_cons_same rfl] at found
      cases found
  | cons a s ih =>
    -- each first member is below all members of the other list, so both have the same key
    obtain ⟨below, sorted⟩ := List.pairwise_cons.mp sorted
    cases t with
    | nil =>
      have found := same (key a)
      rw [withKey_cons_same rfl] at found
      cases found
    | cons b t =>
      obtain ⟨below', later'⟩ := List.pairwise_cons.mp sorted'
      have least : le (key a) (key b) = true := by
        have member : b ∈ withKey key (key b) (a :: s) := by
          rw [same, withKey_cons_same rfl]
          exact List.mem_cons_self
        rcases List.mem_cons.mp (mem_withKey.mp member).1 with rfl | later
        · exact order.refl _
        · exact below b later
      have least' : le (key b) (key a) = true := by
        have member : a ∈ withKey key (key a) (b :: t) := by
          rw [← same, withKey_cons_same rfl]
          exact List.mem_cons_self
        rcases List.mem_cons.mp (mem_withKey.mp member).1 with rfl | later
        · exact order.refl _
        · exact below' a later
      have level := order.antisymm _ _ least least'
      have first := same (key a)
      rw [withKey_cons_same rfl, withKey_cons_same level.symm] at first
      obtain ⟨rfl, _⟩ := List.cons.inj first
      refine congrArg (a :: ·) (ih sorted later' fun k => ?_)
      have rest := same k
      by_cases here : key a = k
      · rw [withKey_cons_same here, withKey_cons_same here] at rest
        exact (List.cons.inj rest).2
      · rwa [withKey_cons_other here, withKey_cons_other here] at rest

/-- What sorting gives depends on the members with each key alone. -/
theorem mergeSort_congr (order : KeyOrder le) (key : α → κ) {l l' : List α} (same : ∀ k, withKey key k l = withKey key k l') :
    (l.mergeSort fun a b => le (key a) (key b)) = l'.mergeSort fun a b => le (key a) (key b) := by
  refine eq_of_withKey order (sortedBy_mergeSort order key l) (sortedBy_mergeSort order key l') fun k => ?_
  rw [withKey_mergeSort order, withKey_mergeSort order, same k]

/-- All members of the list with the key stand together, and they are these. -/
def StandsAs (key : α → κ) (k : κ) (part l : List α) : Prop :=
  ∃ before after, l = before ++ part ++ after ∧ withKey key k before = [] ∧ withKey key k after = []

theorem standsAs_of_sorted (order : KeyOrder le) {l : List α} (sorted : SortedBy le key l) (k : κ) :
    StandsAs key k (withKey key k l) l := by
  induction l with
  | nil => exact ⟨[], [], rfl, rfl, rfl⟩
  | cons a l ih =>
    obtain ⟨below, sorted⟩ := List.pairwise_cons.mp sorted
    obtain ⟨before, after, split, none, none'⟩ := ih sorted
    by_cases here : key a = k
    · rw [withKey_cons_same here]
      by_cases last : withKey key k l = []
      · exact ⟨[], l, by rw [last]; rfl, rfl, last⟩
      · obtain ⟨x, member⟩ := List.exists_mem_of_ne_nil _ last
        have first : before = [] := by
          rw [List.eq_nil_iff_forall_not_mem]
          intro y there
          rw [split, List.append_assoc] at below sorted
          have above := below y (List.mem_append_left _ there)
          have least := (List.pairwise_append.mp sorted).2.2 y there x (List.mem_append_left _ member)
          rw [(mem_withKey.mp member).2] at least
          rw [here] at above
          have level : y ∈ withKey key k before := mem_withKey.mpr ⟨there, order.antisymm _ _ least above⟩
          rw [none] at level
          exact absurd level List.not_mem_nil
        rw [first] at split
        exact ⟨[], after, congrArg (a :: ·) split, rfl, none'⟩
    · rw [withKey_cons_other here]
      refine ⟨a :: before, after, ?_, ?_, none'⟩
      · rw [List.cons_append, List.cons_append, ← split]
      · rw [withKey_cons_other here, none]

/-- The order of lists of which at most one has members does not show when they are joined. -/
theorem flatten_eq_of_perm {ls ls' : List (List α)} (perm : ls.Perm ls') (alone : ls.Pairwise fun a b => a = [] ∨ b = []) :
    ls.flatten = ls'.flatten := by
  induction perm with
  | nil => rfl
  | cons l _ ih => rw [List.flatten_cons, List.flatten_cons, ih (List.pairwise_cons.mp alone).2]
  | swap l l' ls =>
    rw [List.flatten_cons, List.flatten_cons, List.flatten_cons, List.flatten_cons]
    rcases (List.pairwise_cons.mp alone).1 l List.mem_cons_self with rfl | rfl
    · rfl
    · rfl
  | trans perm _ ih ih' =>
    have symmetric : ∀ {a b : List α}, a = [] ∨ b = [] → b = [] ∨ a = [] := Or.symm
    rw [ih alone, ih' ((perm.pairwise_iff symmetric).mp alone)]

/-! ### Lists that share no key -/

/-- No two of the lists have members with one key. -/
def NoneShared (key : α → κ) (ls : List (List α)) : Prop := ls.Pairwise fun l l' => ∀ a ∈ l, ∀ b ∈ l', key a ≠ key b

theorem withKey_flatten_of_perm {ls ls' : List (List α)} (perm : ls.Perm ls') (apart : NoneShared key ls) (k : κ) :
    withKey key k ls.flatten = withKey key k ls'.flatten := by
  rw [withKey, withKey, List.filter_flatten, List.filter_flatten]
  refine flatten_eq_of_perm (perm.map _) (List.pairwise_map.mpr (apart.imp fun {l l'} differ => ?_))
  by_cases none : withKey key k l = []
  · exact Or.inl none
  · obtain ⟨a, member⟩ := List.exists_mem_of_ne_nil _ none
    obtain ⟨here, same⟩ := mem_withKey.mp member
    refine Or.inr (List.filter_eq_nil_iff.mpr fun b there level => ?_)
    exact differ a here b there (same.trans (of_decide_eq_true level).symm)

/-- The members with a key all come from the one list that has some. -/
theorem withKey_flatten_of_mem {ls : List (List α)} (apart : NoneShared key ls) {l : List α} (member : l ∈ ls)
    (some : withKey key k l ≠ []) : withKey key k ls.flatten = withKey key k l := by
  obtain ⟨a, has⟩ := List.exists_mem_of_ne_nil _ some
  obtain ⟨here, same⟩ := mem_withKey.mp has
  have none : ∀ l' : List α, (∀ b ∈ l', key a ≠ key b) → withKey key k l' = [] := by
    intro l' differ
    refine List.filter_eq_nil_iff.mpr fun b there level => ?_
    exact differ b there (same.trans (of_decide_eq_true level).symm)
  obtain ⟨before, after, rfl⟩ := List.append_of_mem member
  obtain ⟨_, behind, across⟩ := List.pairwise_append.mp apart
  have before_none : withKey key k before.flatten = [] := by
    refine none _ fun b there => ?_
    obtain ⟨l', first, there⟩ := List.mem_flatten.mp there
    exact (across l' first l List.mem_cons_self b there a here).symm
  have after_none : withKey key k after.flatten = [] := by
    refine none _ fun b there => ?_
    obtain ⟨l', later, there⟩ := List.mem_flatten.mp there
    exact (List.pairwise_cons.mp behind).1 l' later a here b there
  rw [withKey] at before_none after_none ⊢
  rw [List.flatten_append, List.flatten_cons, List.filter_append, List.filter_append, before_none, after_none,
    List.nil_append, List.append_nil]
  rfl

theorem standsAs_mergeSort (order : KeyOrder le) {ls : List (List α)} (apart : NoneShared key ls) {l : List α}
    (member : l ∈ ls) (some : withKey key k l ≠ []) :
    StandsAs key k (withKey key k l) (ls.flatten.mergeSort fun a b => le (key a) (key b)) := by
  have stands := standsAs_of_sorted order (sortedBy_mergeSort order key ls.flatten) k
  rwa [withKey_mergeSort order, withKey_flatten_of_mem apart member some] at stands

end PolicyLint
