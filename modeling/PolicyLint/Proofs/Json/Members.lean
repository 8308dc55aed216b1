import Mathlib.Data.List.Nodup
import PolicyLint.Proofs.Json.Decoding

/-!
# Objects that are read by name

A record that tolerates other members reads its values from every object that has them under the names of its fields.
The members may stand in any order, and a value that is not given may be left out or be null.
-/

namespace PolicyLint.Json

/-- The members have this value under the name. Without a value they have nothing under it, or null. -/
def Carries (members : List (String × Json)) (name : String) : Option Json → Prop
  | some j => (name, j) ∈ members
  | none => ∀ j, (name, j) ∈ members → j = .null

def Holds (members : List (String × Json)) (name : String) (slot : Option Json) : Prop :=
  ∀ j, slot = some j ↔ (name, j) ∈ members

variable {members : List (String × Json)} {name : String} {j : Json}

theorem holds_of_mem (distinct : (members.map (·.1)).Nodup) (member : (name, j) ∈ members) : Holds members name (some j) := by
  intro other
  constructor
  · rintro ⟨⟩
    exact member
  · intro there
    have same := List.inj_on_of_nodup_map distinct member there rfl
    rw [(Prod.mk.inj same).2]

theorem holds_none_of_not_mem (absent : ∀ j, (name, j) ∉ members) : Holds members name none :=
  fun j => ⟨nofun, fun member => (absent j member).elim⟩

theorem Node.Shows.null {node : Node} (shows : node.Shows .null) : ∃ start stop, node = .null start stop := by
  have value : node.json? = some .null := shows.elim id id
  rcases node with _ | _ | _ | ⟨_ | s'⟩ | ⟨_, _, _ | _⟩ | ⟨_, _, _ | _⟩ | _ <;> simp_all [json?]

theorem Decoder.reads_null {α : Type} (d : Decoder α) : d.optional.Reads .null none := by
  intro source node shows
  obtain ⟨start, stop, rfl⟩ := shows.null
  rfl

namespace Field

variable {α : Type} {d : Decoder α} {a : α}

def Filled (field : Field α) (members : List (String × Json)) (a : α) : Prop :=
  ∃ slot, Holds members field.name slot ∧ field.Takes slot a

theorem filled_required (distinct : (members.map (·.1)).Nodup) (member : (name, j) ∈ members) (reads : d.Reads j a) :
    (required name d).Filled members a := ⟨some j, holds_of_mem distinct member, reads⟩

theorem filled_optional (distinct : (members.map (·.1)).Nodup) {encode : α → Json} {o : Option α}
    (carries : Carries members name (o.map encode)) (reads : ∀ a, o = some a → d.Reads (encode a) a)
    (full : ∀ a, encode a ≠ .null) : (optional name d).Filled members o := by
  cases o with
  | some a => exact ⟨_, holds_of_mem distinct carries, Field.takes_optional (some a) reads full⟩
  | none =>
    by_cases there : ∃ j, (name, j) ∈ members
    · obtain ⟨j, member⟩ := there
      obtain rfl := carries j member
      exact ⟨some .null, holds_of_mem distinct member, d.reads_null⟩
    · exact ⟨none, holds_none_of_not_mem fun j member => there ⟨j, member⟩, rfl⟩

end Field

namespace Fields

def Filled {αs : List Type} (members : List (String × Json)) : Fields αs → Values αs → Prop
  | nil, _ => True
  | cons field rest, (a, values) => field.Filled members a ∧ rest.Filled members values

theorem Filled.take {αs : List Type} {fields : Fields αs} {values : Values αs} (filled : fields.Filled members values) :
    ∃ slots, fields.Take slots values ∧ ∀ name j, (name, some j) ∈ slots ↔ name ∈ fields.names ∧ (name, j) ∈ members := by
  induction fields with
  | nil => exact ⟨[], rfl, by simp [names]⟩
  | cons field rest ih =>
    obtain ⟨a, values⟩ := values
    obtain ⟨⟨slot, holds, takes⟩, filled⟩ := filled
    obtain ⟨slots, take, there⟩ := ih filled
    refine ⟨(field.name, slot) :: slots, ⟨slot, slots, rfl, takes, take⟩, fun name j => ?_⟩
    rw [List.mem_cons, there, names, List.mem_cons, Prod.mk.injEq, or_and_right]
    refine or_congr_left (and_congr_right ?_)
    rintro rfl
    rw [← holds j, eq_comm]

end Fields

/-- A record reads its values from an object that has them under the names of its fields. -/
theorem Record.reads_filled {αs : List Type} {α : Type} {r : Record αs} {make : Values αs → α} {values : Values αs}
    (distinct : r.fields.names.Nodup) (tolerant : r.tolerant = true) (apart : (members.map (·.1)).Nodup)
    (filled : r.fields.Filled members values) : (r.decoder make).Reads (.object members) (make values) := by
  obtain ⟨slots, take, there⟩ := filled.take
  refine reads_decoder distinct take apart (fun m member => ?_) fun name j slot => ((there name j).mp slot).2
  by_cases known : m.1 ∈ r.fields.names
  · exact Or.inl ((there m.1 m.2).mpr ⟨known, member⟩)
  · exact Or.inr ⟨tolerant, known⟩

end PolicyLint.Json
