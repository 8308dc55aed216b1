import Mathlib.Data.List.Forall2
import PolicyLint.Proofs.Json.Reading

/-!
# Members in order

Members with distinct keys are only rearranged when they are sorted. A node `Shows` a value if that is what
stands in the text, perhaps with the members of its objects sorted.
-/

namespace PolicyLint.Json

/-! ### Sorting -/

theorem insertMember_perm {sofar : List (String × Json)} {m : String × Json} (fresh : m.1 ∉ sofar.map (·.1)) :
    (sortMembers.insertMember sofar m).Perm (m :: sofar) := by
  induction sofar with
  | nil => exact List.Perm.refl _
  | cons x rest ih =>
    simp only [List.map_cons, List.mem_cons, not_or] at fresh
    rw [sortMembers.insertMember]
    split
    · exact List.Perm.refl _
    · rw [if_neg fresh.1]
      exact ((ih fresh.2).cons x).trans (List.Perm.swap m x rest)

theorem sortMembers_perm {members : List (String × Json)} (distinct : (members.map (·.1)).Nodup) :
    (sortMembers members).Perm members := by
  have folded : ∀ (ms sofar : List (String × Json)), ((ms ++ sofar).map (·.1)).Nodup →
      (ms.foldl sortMembers.insertMember sofar).Perm (ms ++ sofar) := by
    intro ms
    induction ms with
    | nil => exact fun sofar _ => List.Perm.refl _
    | cons m ms ih =>
      intro sofar distinct
      rw [List.cons_append, List.map_cons, List.nodup_cons] at distinct
      obtain ⟨fresh, distinct⟩ := distinct
      have inserted : (sortMembers.insertMember sofar m).Perm (m :: sofar) :=
        insertMember_perm fun member => fresh (by rw [List.map_append]; exact List.mem_append_right _ member)
      have reordered : (ms ++ sortMembers.insertMember sofar m).Perm (m :: (ms ++ sofar)) :=
        (inserted.append_left ms).trans List.perm_middle
      have still : ((ms ++ sortMembers.insertMember sofar m).map (·.1)).Nodup :=
        ((reordered.map _).nodup_iff).mpr (List.nodup_cons.mpr ⟨fresh, distinct⟩)
      exact (ih _ still).trans reordered
  have sorted := folded members [] (by rwa [List.append_nil])
  rwa [List.append_nil] at sorted

def sortedMember (m : String × Json) : String × Json := (m.1, m.2.sorted)

theorem sortedItems_eq (items : List Json) : sortedItems items = items.map sorted := by
  induction items with
  | nil => rfl
  | cons j rest ih => rw [sortedItems, ih, List.map_cons]

theorem sortedMembers_eq (members : List (String × Json)) : sortedMembers members = members.map sortedMember := by
  induction members with
  | nil => rfl
  | cons m rest ih => rw [sortedMembers, ih, List.map_cons]; rfl

theorem insertMember_map (sofar : List (String × Json)) (m : String × Json) :
    sortMembers.insertMember (sofar.map sortedMember) (sortedMember m) =
      (sortMembers.insertMember sofar m).map sortedMember := by
  induction sofar with
  | nil => rfl
  | cons x rest ih =>
    rw [List.map_cons, sortMembers.insertMember, sortMembers.insertMember, ih]
    by_cases before : m.1 < x.1
    · simp [sortedMember, before]
    · by_cases same : m.1 = x.1 <;> simp [sortedMember, before, same]

/-- Only the keys decide on the order, so it does not matter when the values are sorted. -/
theorem sortMembers_map (members : List (String × Json)) :
    sortMembers (members.map sortedMember) = (sortMembers members).map sortedMember := by
  have folded : ∀ (ms sofar : List (String × Json)),
      (ms.map sortedMember).foldl sortMembers.insertMember (sofar.map sortedMember) =
        (ms.foldl sortMembers.insertMember sofar).map sortedMember := by
    intro ms
    induction ms with
    | nil => exact fun sofar => rfl
    | cons m ms ih =>
      intro sofar
      rw [List.map_cons, List.foldl_cons, List.foldl_cons, insertMember_map, ih]
  exact folded members []

theorem sorted_object (members : List (String × Json)) :
    (Json.object members).sorted = .object ((sortMembers members).map sortedMember) := by
  rw [sorted, sortedMembers_eq, sortMembers_map]

theorem mem_insertMember {sofar : List (String × Json)} {m x : String × Json}
    (member : x ∈ sortMembers.insertMember sofar m) : x = m ∨ x ∈ sofar := by
  induction sofar with
  | nil => exact Or.inl (List.mem_singleton.mp member)
  | cons y rest ih =>
    rw [sortMembers.insertMember] at member
    split at member
    · exact List.mem_cons.mp member
    · split at member
      · exact (List.mem_cons.mp member).imp_right (List.mem_cons_of_mem y)
      · rcases List.mem_cons.mp member with rfl | later
        · exact Or.inr List.mem_cons_self
        · exact (ih later).imp_right (List.mem_cons_of_mem y)

theorem mem_of_mem_sortMembers {members : List (String × Json)} {x : String × Json} (member : x ∈ sortMembers members) :
    x ∈ members := by
  have folded : ∀ (ms sofar : List (String × Json)), x ∈ ms.foldl sortMembers.insertMember sofar → x ∈ ms ∨ x ∈ sofar := by
    intro ms
    induction ms with
    | nil => exact fun sofar there => Or.inr there
    | cons m ms ih =>
      intro sofar there
      rcases ih _ there with later | inserted
      · exact Or.inl (List.mem_cons_of_mem m later)
      · rcases mem_insertMember inserted with rfl | before
        · exact Or.inl List.mem_cons_self
        · exact Or.inr before
  simpa using folded members [] member

mutual

theorem Proper.sorted : ∀ {j : Json}, j.Proper → j.sorted.Proper
  | .null, _ => trivial
  | .bool _, _ => trivial
  | .number _, proper => proper
  | .string _, _ => trivial
  | .array _, proper => properItems_iff.mpr (ProperItems.sorted proper)
  | .object _, proper => properMembers_iff.mpr fun m member => ProperMembers.sorted proper m (mem_of_mem_sortMembers member)

theorem ProperItems.sorted : ∀ {items : List Json}, ProperItems items → ∀ j ∈ sortedItems items, j.Proper
  | [], _ => by simp [sortedItems]
  | _ :: _, proper => List.forall_mem_cons.mpr ⟨proper.1.sorted, ProperItems.sorted proper.2⟩

theorem ProperMembers.sorted : ∀ {members : List (String × Json)}, ProperMembers members →
    ∀ m ∈ sortedMembers members, m.2.Proper
  | [], _ => by simp [sortedMembers]
  | (_, _) :: _, proper => List.forall_mem_cons.mpr ⟨proper.1.sorted, ProperMembers.sorted proper.2⟩

end

/-! ### Shown values -/

namespace Node

/-- The value stands in the text, as it is or sorted. -/
def Shows (node : Node) (j : Json) : Prop := node.json? = some j ∨ node.json? = some j.sorted

theorem forall₂_of_itemsJson? {nodes : List Node} {js : List Json} (values : itemsJson? nodes = some js) :
    List.Forall₂ (fun node j => node.json? = some j) nodes js := by
  induction nodes generalizing js with
  | nil =>
    obtain rfl := Option.some.inj values
    exact .nil
  | cons node rest ih =>
    rw [itemsJson?] at values
    split at values
    · rename_i value others
      obtain rfl := Option.some.inj values
      exact .cons value (ih others)
    · exact absurd values (by simp)

theorem forall₂_of_membersJson? {nodes : List (Key × Node)} {ms : List (String × Json)}
    (values : membersJson? nodes = some ms) :
    List.Forall₂ (fun (x : Key × Node) m => x.1.name = .ok m.1 ∧ x.2.json? = some m.2) nodes ms := by
  induction nodes generalizing ms with
  | nil =>
    obtain rfl := Option.some.inj values
    exact .nil
  | cons x rest ih =>
    obtain ⟨key, node⟩ := x
    rw [membersJson?] at values
    split at values
    · rename_i name value others
      obtain rfl := Option.some.inj values
      exact .cons ⟨name, value⟩ (ih others)
    · exact absurd values (by simp)

variable {node : Node}

theorem Shows.string {s : String} (shows : node.Shows (.string s)) : ∃ start stop, node = .string (.ok s) start stop := by
  have value : node.json? = some (.string s) := shows.elim id id
  rcases node with _ | _ | _ | ⟨_ | s'⟩ | ⟨_, _, _ | _⟩ | ⟨_, _, _ | _⟩ | _ <;> simp_all [json?]

theorem Shows.number {n : Decimal.Numeral} (shows : node.Shows (.number n)) :
    ∃ beyond start stop, node = .number n beyond start stop := by
  have value : node.json? = some (.number n) := shows.elim id id
  rcases node with _ | _ | _ | ⟨_ | s'⟩ | ⟨_, _, _ | _⟩ | ⟨_, _, _ | _⟩ | _ <;> simp_all [json?]

theorem Shows.array {js : List Json} (shows : node.Shows (.array js)) :
    ∃ start nodes stop, node = .array start nodes (.ok stop) ∧ List.Forall₂ Shows nodes js := by
  have items : ∀ js', node.json? = some (.array js') → ∃ start nodes stop, node = .array start nodes (.ok stop) ∧
      List.Forall₂ (fun node j => node.json? = some j) nodes js' := by
    intro js' value
    rcases node with _ | _ | _ | ⟨_ | s'⟩ | ⟨start, nodes, _ | stop⟩ | ⟨_, _, _ | _⟩ | _ <;>
      simp only [json?, Option.map_eq_some_iff, reduceCtorEq, Option.some.injEq, Json.array.injEq, and_false,
        exists_false, exists_eq_right] at value
    exact ⟨start, nodes, stop, rfl, forall₂_of_itemsJson? value⟩
  rcases shows with plain | sorted
  · obtain ⟨start, nodes, stop, rfl, values⟩ := items js plain
    exact ⟨start, nodes, stop, rfl, values.imp fun _ _ value => Or.inl value⟩
  · rw [Json.sorted, sortedItems_eq] at sorted
    obtain ⟨start, nodes, stop, rfl, values⟩ := items _ sorted
    refine ⟨start, nodes, stop, rfl, ?_⟩
    exact (List.forall₂_map_right_iff.mp values).imp fun _ _ value => Or.inr value

/-- The members of a shown object stand in the text in some order. -/
theorem Shows.object {ms : List (String × Json)} (distinct : (ms.map (·.1)).Nodup) (shows : node.Shows (.object ms)) :
    ∃ start nodes stop order, node = .object start nodes (.ok stop) ∧ order.Perm ms ∧
      List.Forall₂ (fun (x : Key × Node) (m : String × Json) => x.1.name = .ok m.1 ∧ x.2.Shows m.2) nodes order := by
  have members : ∀ ms', node.json? = some (.object ms') → ∃ start nodes stop, node = .object start nodes (.ok stop) ∧
      List.Forall₂ (fun (x : Key × Node) m => x.1.name = .ok m.1 ∧ x.2.json? = some m.2) nodes ms' := by
    intro ms' value
    rcases node with _ | _ | _ | ⟨_ | s'⟩ | ⟨_, _, _ | _⟩ | ⟨start, nodes, _ | stop⟩ | _ <;>
      simp only [json?, Option.map_eq_some_iff, reduceCtorEq, Option.some.injEq, Json.object.injEq, and_false,
        exists_false, exists_eq_right] at value
    exact ⟨start, nodes, stop, rfl, forall₂_of_membersJson? value⟩
  rcases shows with plain | sorted
  · obtain ⟨start, nodes, stop, rfl, values⟩ := members ms plain
    exact ⟨start, nodes, stop, ms, rfl, .refl _, values.imp fun _ _ value => ⟨value.1, Or.inl value.2⟩⟩
  · rw [sorted_object] at sorted
    obtain ⟨start, nodes, stop, rfl, values⟩ := members _ sorted
    refine ⟨start, nodes, stop, sortMembers ms, rfl, sortMembers_perm distinct, ?_⟩
    exact (List.forall₂_map_right_iff.mp values).imp fun _ _ value => ⟨value.1, Or.inr value.2⟩

end Node

end PolicyLint.Json
