import PolicyLint.Discovery.Filter

/-!
# Sets of globs that can be used

A set is refused only for a glob whose pieces are needed and do not compile. Globs with an extension wait in a table
until then, and nothing but these globs stands in the table. So texts that are globs of their own make a set, in
whatever order and however often they are listed, and a path matches the set if it matches one of them.
-/

namespace PolicyLint

namespace Glob

def Accepts (g : Glob) (path : String) : Prop := g.matchesAs path g.shape = true

/-- The pieces of the glob compile if they are needed. -/
def Usable (g : Glob) : Prop := (∀ extension, g.shape ≠ .guarded extension) ∧ g.shape ≠ .general ∨ g.compiles = true

/-- The text is a glob that can be used. -/
def Valid (text : String) : Prop := ∃ g, ofText text = .ok g ∧ g.Usable

def Takes (text path : String) : Prop := ∃ g, ofText text = .ok g ∧ g.Accepts path

theorem Valid.of_ending {text : String} {g : Glob} {extension : List Char} (read : ofText text = .ok g)
    (shape : g.shape = .ending extension) : Valid text := by
  refine ⟨g, read, Or.inl ⟨fun other => ?_, ?_⟩⟩
  · rw [shape]
    exact Shape.noConfusion
  · rw [shape]
    exact Shape.noConfusion

namespace Slots

variable {P : Glob → Prop} {slots : Slots} {group : Group}

def Holds (P : Glob → Prop) (slots : Slots) : Prop := ∀ group, some group ∈ slots → ∀ g ∈ group.globs, P g

theorem mem_groups : group ∈ slots.groups ↔ some group ∈ slots := by
  rw [groups, List.mem_filterMap]
  constructor
  · rintro ⟨_, member, rfl⟩
    exact member
  · intro member
    exact ⟨_, member, rfl⟩

theorem Holds.insert (holds : slots.Holds P) (new : ∀ g ∈ group.globs, P g) : (slots.insert group).Holds P := by
  unfold Slots.insert put
  dsimp only
  split
  · intro other member
    rcases List.mem_or_eq_of_mem_set member with old | same
    · exact holds other old
    · obtain rfl := Option.some.inj same
      exact new
  · exact holds

theorem Holds.foldl {α : Type} {put : Slots → α → Slots} {items : List α} (holds : slots.Holds P)
    (puts : ∀ (slots : Slots), slots.Holds P → ∀ item ∈ items, (put slots item).Holds P) :
    Slots.Holds P (items.foldl put slots) := by
  induction items generalizing slots with
  | nil => exact holds
  | cons first rest ih =>
    exact ih (puts slots holds first List.mem_cons_self) fun slots holds item member =>
      puts slots holds item (List.mem_cons_of_mem _ member)

theorem Holds.grow (holds : slots.Holds P) : slots.grow.Holds P := by
  have free : ∀ n : Nat, Slots.Holds P (List.replicate n none) := by
    intro n other member
    cases (List.mem_replicate.mp member).2
  unfold Slots.grow
  split
  · exact holds
  · exact (free _).foldl fun slots started other member => started.insert (holds other (mem_groups.mp member))

theorem Holds.add (holds : slots.Holds P) (extension : List Char) {glob : Glob} (new : P glob) :
    (slots.add extension glob).Holds P := by
  unfold Slots.add
  split
  · intro group member
    obtain ⟨slot, there, same⟩ := List.mem_map.mp member
    cases slot with
    | none => cases same
    | some old =>
      obtain rfl := Option.some.inj same
      dsimp only
      split
      · intro g listed
        rcases List.mem_append.mp listed with before | last
        · exact holds old there g before
        · rw [List.mem_singleton.mp last]
          exact new
      · exact holds old there
  · refine holds.grow.insert fun g listed => ?_
    rw [List.mem_singleton.mp listed]
    exact new

end Slots

namespace Set

variable {globs : List Glob}

theorem mem_guarded {g : Glob} (member : g ∈ guarded globs) : g ∈ globs ∧ ∃ extension, g.shape = .guarded extension := by
  have none : Slots.Holds (fun g => g ∈ globs ∧ ∃ extension, g.shape = .guarded extension) [] :=
    fun group absent => absurd absent List.not_mem_nil
  obtain ⟨group, there, inside⟩ := List.mem_flatMap.mp member
  refine none.foldl (fun slots holds next listed => ?_) group (Slots.mem_groups.mp there) g inside
  split
  · rename_i extension shape
    exact holds.add extension ⟨listed, extension, shape⟩
  · exact holds

theorem ofList_of_usable (usable : ∀ g ∈ globs, g.Usable) : ofList globs = .ok { members := globs } := by
  have guards : (guarded globs).find? (!·.compiles) = none := by
    refine List.find?_eq_none.mpr fun g member => ?_
    obtain ⟨listed, extension, shape⟩ := mem_guarded member
    rcases usable g listed with ⟨other, _⟩ | compiles
    · exact absurd shape (other extension)
    · simp [compiles]
  have others : (general globs).findIdx? (!·.compiles) = none := by
    refine List.findIdx?_eq_none_iff.mpr fun g member => ?_
    obtain ⟨listed, shape⟩ := List.mem_filter.mp member
    rcases usable g listed with ⟨_, other⟩ | compiles
    · exact absurd (of_decide_eq_true shape) other
    · simp [compiles]
  rw [ofList, guards]
  dsimp only
  rw [others]

theorem matches_iff {s : Glob.Set} {path : String} : s.matches path = true ↔ ∃ g ∈ s.members, g.Accepts path :=
  List.any_eq_true

/-- A set that is read from texts matches what one of the texts takes. -/
theorem matches_iff_takes {P : String → Prop} (read : ∀ g, g ∈ globs ↔ ∃ text, P text ∧ ofText text = .ok g)
    (path : String) : Set.matches { members := globs } path = true ↔ ∃ text, P text ∧ Takes text path := by
  rw [matches_iff]
  constructor
  · rintro ⟨g, member, accepts⟩
    obtain ⟨text, holds, is⟩ := (read g).mp member
    exact ⟨text, holds, g, is, accepts⟩
  · rintro ⟨text, holds, g, is, accepts⟩
    exact ⟨g, (read g).mpr ⟨text, holds, is⟩, accepts⟩

end Set

end Glob

/-! ### Filters -/

namespace Filter

theorem readGlobs_of_valid {texts : List String} (valid : ∀ text ∈ texts, Glob.Valid text) :
    ∃ globs, readGlobs texts = .ok globs ∧ (∀ g ∈ globs, g.Usable) ∧ (globs = [] ↔ texts = []) ∧
      ∀ g, g ∈ globs ↔ ∃ text ∈ texts, Glob.ofText text = .ok g := by
  induction texts with
  | nil => exact ⟨[], rfl, by simp, by simp, by simp⟩
  | cons text texts ih =>
    rw [List.forall_mem_cons] at valid
    obtain ⟨⟨first, read, usable⟩, valid⟩ := valid
    obtain ⟨globs, reads, usables, _, members⟩ := ih valid
    refine ⟨first :: globs, ?_, List.forall_mem_cons.mpr ⟨usable, usables⟩, by simp, fun g => ?_⟩
    · rw [readGlobs, read, reads]
      rfl
    · rw [List.mem_cons, members]
      constructor
      · rintro (rfl | ⟨text', member, same⟩)
        · exact ⟨text, List.mem_cons_self, read⟩
        · exact ⟨text', List.mem_cons_of_mem _ member, same⟩
      · rintro ⟨text', member, same⟩
        rcases List.mem_cons.mp member with rfl | later
        · rw [read] at same
          exact Or.inl (Except.ok.inj same).symm
        · exact Or.inr ⟨text', later, same⟩

theorem readSet_of_valid {texts : List String} (valid : ∀ text ∈ texts, Glob.Valid text) :
    ∃ set, readSet texts = .ok set ∧ (set.isEmpty = true ↔ texts = []) ∧
      ∀ path, set.matches path = true ↔ ∃ text ∈ texts, Glob.Takes text path := by
  obtain ⟨globs, reads, usable, none, members⟩ := readGlobs_of_valid valid
  refine ⟨{ members := globs }, ?_, ?_, Glob.Set.matches_iff_takes members⟩
  · rw [readSet, reads]
    show (Glob.Set.ofList globs).mapError _ = _
    rw [Glob.Set.ofList_of_usable usable]
    rfl
  · rw [← none]
    exact List.isEmpty_iff

/-- Valid globs make a filter. It leaves out what one of the excluding globs takes, and what none of the including ones
takes if there are any. -/
theorem ofTexts_of_valid {included excluded : List String} (includes : ∀ text ∈ included, Glob.Valid text)
    (excludes : ∀ text ∈ excluded, Glob.Valid text) :
    ∃ filter, ofTexts included excluded = .ok filter ∧
      ∀ path, filter.ignores path = true ↔
        (∃ text ∈ excluded, Glob.Takes text path) ∨ included ≠ [] ∧ ¬∃ text ∈ included, Glob.Takes text path := by
  obtain ⟨kept, readKept, all, keeps⟩ := readSet_of_valid includes
  obtain ⟨dropped, readDropped, _, drops⟩ := readSet_of_valid excludes
  refine ⟨{ included := kept, excluded := dropped }, ?_, fun path => ?_⟩
  · rw [ofTexts, readKept, readDropped]
    rfl
  · have limits : kept.isEmpty = false ↔ included ≠ [] := by rw [ne_eq, ← all, Bool.not_eq_true]
    have misses : kept.matches path = false ↔ ¬∃ text ∈ included, Glob.Takes text path := by
      rw [← keeps, Bool.not_eq_true]
    rw [ignores, Bool.or_eq_true, Bool.and_eq_true, Bool.not_eq_true', Bool.not_eq_true', drops]
    dsimp only
    rw [limits, misses]

end Filter

end PolicyLint
