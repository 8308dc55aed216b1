import Mathlib.Data.List.Nodup
import PolicyLint.Proofs.Json.Acceptance

/-!
# What a record says

A record is read from an object with some of its keys, each at most once, or from an array of values in the order
of its keys. In both forms a value stands under its key, and what no value is given for has its default.
-/

namespace PolicyLint.Json

theorem mapError_ok {ε ε' α : Type} {x : Except ε α} {f : ε → ε'} {a : α} (mapped : x.mapError f = .ok a) :
    x = .ok a := by
  cases x with
  | error e => cases mapped
  | ok a' =>
    cases mapped
    rfl

/-- What stands under one of the keys: a member of this name, or the item in the place of the key. -/
def under? (keys : List String) (key : String) : Json → Option Json
  | .object members => members.lookup key
  | .array items => items[keys.idxOf key]?
  | _ => none

/-- Nothing else stands in the value than what stands under one of the keys. -/
def Keyed (keys : List String) : Json → Prop
  | .object members => (members.map (·.1)).Nodup ∧ ∀ m ∈ members, m.1 ∈ keys
  | .array items => items.length ≤ keys.length
  | _ => False

/-- The field has this value: it is read from what is said of the field, or nothing is said and it is meant then. -/
def Field.Means {α : Type} (field : Field α) : Option Json → α → Prop
  | some j, a => field.decode .value (.ofJson j) = .ok a
  | none, a => field.absent = some a ∨ field.missing = some a

namespace Fields

variable {αs : List Type} {said said' : String → Option Json}

def Means {αs : List Type} : Fields αs → (String → Option Json) → Values αs → Prop
  | nil, _, _ => True
  | cons field rest, said, (a, values) => field.Means (said field.name) a ∧ rest.Means said values

def Drawn {αs : List Type} : Fields αs → (String → Option Json) → Draft αs → Prop
  | nil, _, _ => True
  | cons field rest, said, (value, draft) =>
    (value = none ∧ said field.name = none ∨
      ∃ a j, value = some a ∧ said field.name = some j ∧ field.decode .value (.ofJson j) = .ok a) ∧
      rest.Drawn said draft

theorem Means.congr {fields : Fields αs} {values : Values αs} (means : fields.Means said values)
    (same : ∀ name ∈ fields.names, said name = said' name) : fields.Means said' values := by
  induction fields with
  | nil => trivial
  | cons field rest ih =>
    obtain ⟨a, values⟩ := values
    rw [names, List.forall_mem_cons] at same
    exact ⟨same.1 ▸ means.1, ih means.2 same.2⟩

theorem Drawn.congr {fields : Fields αs} {draft : Draft αs} (drawn : fields.Drawn said draft)
    (same : ∀ name ∈ fields.names, said name = said' name) : fields.Drawn said' draft := by
  induction fields with
  | nil => trivial
  | cons field rest ih =>
    obtain ⟨value, draft⟩ := draft
    rw [names, List.forall_mem_cons] at same
    exact ⟨same.1 ▸ drawn.1, ih drawn.2 same.2⟩

theorem drawn_empty (fields : Fields αs) : fields.Drawn (fun _ => none) fields.empty := by
  induction fields with
  | nil => trivial
  | cons field rest ih => exact ⟨Or.inl ⟨rfl, rfl⟩, ih⟩

theorem Drawn.filled {fields : Fields αs} {draft : Draft αs} (drawn : fields.Drawn said draft) :
    fields.filled draft = fields.names.filter fun name => (said name).isSome := by
  induction fields with
  | nil => rfl
  | cons field rest ih =>
    obtain ⟨value, draft⟩ := draft
    rcases drawn.1 with ⟨rfl, unsaid⟩ | ⟨a, j, rfl, told, _⟩
    · rw [Fields.filled, names, List.filter_cons, unsaid, ih drawn.2]
      rfl
    · rw [Fields.filled, names, List.filter_cons, told, ih drawn.2]
      rfl

/-- Reading one more value adds what is said by it. -/
theorem Drawn.set {fields : Fields αs} {draft draft' : Draft αs} {name : String} {j : Json}
    (drawn : fields.Drawn said draft) (distinct : fields.names.Nodup) (told : said' name = some j)
    (others : ∀ other, other ≠ name → said other = said' other)
    (step : fields.set .value name (.ofJson j) draft = .ok draft') : fields.Drawn said' draft' := by
  induction fields with
  | nil => trivial
  | cons field rest ih =>
    obtain ⟨value, draft⟩ := draft
    rw [names, List.nodup_cons] at distinct
    by_cases named : field.name = name
    · rw [set_same named] at step
      obtain ⟨a, decoded, step⟩ := bind_ok step
      obtain rfl := Except.ok.inj step
      refine ⟨Or.inr ⟨a, j, rfl, named ▸ told, decoded⟩, drawn.2.congr fun other member => others other ?_⟩
      rintro rfl
      exact distinct.1 (named ▸ member)
    · rw [set_other named] at step
      obtain ⟨draft', inner, step⟩ := bind_ok step
      obtain rfl := Except.ok.inj step
      exact ⟨others _ named ▸ drawn.1, ih drawn.2 distinct.2 inner⟩

theorem Drawn.complete {fields : Fields αs} {draft : Draft αs} {values : Values αs} (drawn : fields.Drawn said draft)
    (whole : fields.complete draft = .ok values) : fields.Means said values := by
  induction fields with
  | nil => trivial
  | cons field rest ih =>
    obtain ⟨value, draft⟩ := draft
    rw [Fields.complete] at whole
    split at whole
    · cases whole
    · rename_i a found
      obtain ⟨values, later, whole⟩ := bind_ok whole
      obtain rfl := Except.ok.inj whole
      refine ⟨?_, ih drawn.2 later⟩
      rcases drawn.1 with ⟨rfl, unsaid⟩ | ⟨a', j, rfl, told, decoded⟩
      · rw [unsaid]
        exact Or.inl found
      · obtain rfl := Option.some.inj found
        rw [told]
        exact decoded

/-! ### Objects -/

/-- What was read so far is what an object of the members so far says. -/
structure Read (fields : Fields αs) (before : List (String × Json)) (draft : Draft αs) : Prop where
  keyed : (Json.object before).Keyed fields.names
  drawn : fields.Drawn (before.lookup ·) draft

theorem Read.set {fields : Fields αs} {before : List (String × Json)} {draft draft' : Draft αs} {name : String}
    {j : Json} (read : fields.Read before draft) (distinct : fields.names.Nodup) (known : name ∈ fields.names)
    (unread : name ∉ fields.filled draft) (step : fields.set .value name (.ofJson j) draft = .ok draft') :
    fields.Read (before ++ [(name, j)]) draft' := by
  have unsaid : before.lookup name = none := by
    rw [read.drawn.filled, List.mem_filter, not_and] at unread
    exact Option.not_isSome_iff_eq_none.mp (by simpa using unread known)
  have fresh : name ∉ before.map (·.1) := by
    intro member
    obtain ⟨m, there, rfl⟩ := List.mem_map.mp member
    simpa using List.lookup_eq_none_iff.mp unsaid m there
  refine ⟨⟨?_, ?_⟩, read.drawn.set distinct ?_ ?_ step⟩
  · rw [List.map_append, List.map_singleton, ← List.concat_eq_append]
    exact read.keyed.1.concat fresh
  · intro m member
    rcases List.mem_append.mp member with old | here
    · exact read.keyed.2 m old
    · rw [List.mem_singleton.mp here]
      exact known
  · simp [List.lookup_append, unsaid]
  · intro other different
    have last : List.lookup other [(name, j)] = none := List.lookup_eq_none_iff.mpr (by simpa using different)
    simp [List.lookup_append, last]

theorem Read.ofMembers {fields : Fields αs} {before members : List (String × Json)} {draft draft' : Draft αs}
    (read : fields.Read before draft) (distinct : fields.names.Nodup)
    (steps : fields.ofMembers .value false (Node.ofMembers members) draft = .ok draft') :
    fields.Read (before ++ members) draft' := by
  -- `before` has the members that were read in earlier steps
  induction members generalizing before draft with
  | nil =>
    obtain rfl := Except.ok.inj steps
    rwa [List.append_nil]
  | cons m rest ih =>
    obtain ⟨name, j⟩ := m
    rw [Node.ofMembers, Fields.ofMembers] at steps
    obtain ⟨_, named, steps⟩ := bind_ok steps
    obtain rfl := Except.ok.inj named
    split at steps
    · cases steps
    · rename_i unread
      split at steps
      · rename_i known
        obtain ⟨next, step, steps⟩ := bind_ok steps
        have later := ih (read.set distinct (by simpa using known) (by simpa using unread) step) steps
        rwa [List.append_assoc] at later
      · split at steps
        · rename_i tolerant
          cases tolerant
        · cases steps

/-! ### Arrays -/

theorem Placed.means {fields : Fields αs} {items : List Json} {values : Values αs} (distinct : fields.names.Nodup)
    (placed : fields.Placed .value (Node.ofItems items) values) :
    (Json.array items).Keyed fields.names ∧ fields.Means (fun name => (Json.array items).under? fields.names name) values := by
  induction fields generalizing items with
  | nil =>
    cases items with
    | nil => exact ⟨Nat.le_refl _, trivial⟩
    | cons j rest => cases placed
  | cons field rest ih =>
    obtain ⟨a, values⟩ := values
    rw [names, List.nodup_cons] at distinct
    have later : ∀ name ∈ rest.names, (field.name :: rest.names).idxOf name = rest.names.idxOf name + 1 := by
      intro name member
      rw [List.idxOf_cons_ne]
      rintro rfl
      exact distinct.1 member
    cases items with
    | nil =>
      have none : rest.Placed .value (Node.ofItems []) values := placed.2
      obtain ⟨_, means⟩ := ih distinct.2 none
      exact ⟨Nat.zero_le _, Or.inr placed.1, means.congr fun name _ => by simp [under?]⟩
    | cons j items =>
      have others : rest.Placed .value (Node.ofItems items) values := placed.2
      obtain ⟨short, means⟩ := ih distinct.2 others
      refine ⟨Nat.succ_le_succ short, ?_, means.congr fun name member => ?_⟩
      · simp only [under?, names, List.idxOf_cons_self, List.getElem?_cons_zero]
        exact placed.1
      · simp only [under?, names, later name member, List.getElem?_cons_succ]

end Fields

/-- A record that tolerates nothing else is read from a value that has some of its keys only, and each field has the
value that stands under its key, or its default if there is none. -/
theorem Record.means_of_decode {αs : List Type} {r : Record αs} {j : Json} {values : Values αs}
    (strict : r.tolerant = false) (distinct : r.fields.names.Nodup)
    (decoded : r.decode .value (.ofJson j) = .ok values) :
    j.Keyed r.fields.names ∧ r.fields.Means (fun name => j.under? r.fields.names name) values := by
  cases j with
  | object members =>
    rw [Node.ofJson, Record.decode, strict] at decoded
    obtain ⟨draft, drafted, completed⟩ := bind_ok decoded
    have start : r.fields.Read [] r.fields.empty := ⟨⟨List.nodup_nil, by simp⟩, r.fields.drawn_empty⟩
    have read := start.ofMembers distinct drafted
    dsimp only at completed
    cases whole : r.fields.complete draft with
    | error name =>
      rw [whole] at completed
      cases completed
    | ok found =>
      rw [whole] at completed
      obtain rfl := Except.ok.inj completed
      exact ⟨read.keyed, read.drawn.complete whole⟩
  | array items =>
    rw [Node.ofJson] at decoded
    rcases decode_cases decoded with ⟨_, _, _, other, _⟩ | ⟨_, _, _, same, placed⟩
    · cases other
    · cases same
      exact placed.means distinct
  | null => cases decoded
  | bool b => cases decoded
  | number n => cases decoded
  | string s => cases decoded

/-! ### What values mean -/

variable {α : Type} {means : Json → α → Prop} {d : Decoder α}

def IsText (j : Json) (text : String) : Prop := j = .string text

def IsBool (j : Json) (b : Bool) : Prop := j = .bool b

def IsNatural (greatest : Nat) (j : Json) (k : Nat) : Prop :=
  ∃ n, j = .number n ∧ number? n = some (.natural k) ∧ k ≤ greatest

/-- A numeral whose value was rounded to single precision. -/
def IsSingle (j : Json) (x : Decimal.Binary) : Prop :=
  ∃ n value, j = .number n ∧ number? n = some value ∧ x = value.toBinary Decimal.binary32

def IsList (means : Json → α → Prop) (j : Json) (as : List α) : Prop :=
  ∃ items, j = .array items ∧ List.Forall₂ means items as

def IsNullable (means : Json → α → Prop) (j : Json) : Option α → Prop
  | none => j = .null
  | some a => means j a

/-- The name of the variant, by itself or as the only member of an object, with null under it. -/
def IsVariant (variants : List (String × α)) (j : Json) (a : α) : Prop :=
  ∃ name, variants.lookup name = some a ∧ (j = .string name ∨ j = .object [(name, .null)])

def Given (means : Json → α → Prop) : Option Json → α → Prop
  | some j, a => means j a
  | none, _ => False

def Setting (means : Json → α → Prop) (default : α) : Option Json → α → Prop
  | some j, a => means j a
  | none, a => a = default

/-- What the decoder makes of a value is what the value means. -/
def Decoder.Faithful (d : Decoder α) (means : Json → α → Prop) : Prop :=
  ∀ j a, d .value (.ofJson j) = .ok a → means j a

namespace Decoder

theorem faithful_string : string.Faithful IsText := by
  intro j text decoded
  obtain ⟨start, stop, node⟩ := string_ok decoded
  cases j with
  | string s =>
    cases node
    rfl
  | null | bool b | number n | array items | object members => cases node

theorem faithful_bool : bool.Faithful IsBool := by
  intro j b decoded
  cases j with
  | bool b' =>
    cases decoded
    rfl
  | null | string s | number n | array items | object members => cases decoded

theorem numberAt_ok {n : Decimal.Numeral} {beyond : Nat} {x : Number} (read : numberAt n beyond = .ok x) :
    number? n = some x := by
  unfold numberAt at read
  split at read
  · cases read
    assumption
  · cases read

theorem faithful_natUpTo (greatest : Nat) (expected : String) :
    (natUpTo greatest expected).Faithful (IsNatural greatest) := by
  intro j k decoded
  cases j with
  | number n =>
    obtain ⟨x, read, decoded⟩ := bind_ok decoded
    cases x with
    | natural k' =>
      dsimp only at decoded
      split at decoded
      · cases decoded
        exact ⟨n, rfl, numberAt_ok read, ‹_›⟩
      · cases decoded
    | negative k' | real x => cases decoded
  | null | bool b | string s | array items | object members => cases decoded

theorem faithful_single : single.Faithful IsSingle := by
  intro j x decoded
  cases j with
  | number n =>
    simp only [Node.ofJson, single] at decoded
    cases read : numberAt n 0 with
    | error fault =>
      rw [read] at decoded
      cases decoded
    | ok value =>
      rw [read] at decoded
      cases decoded
      exact ⟨n, value, rfl, numberAt_ok read, rfl⟩
  | null | bool b | string s | array items | object members => cases decoded

theorem Faithful.items (faithful : d.Faithful means) {js : List Json} {as : List α}
    (read : List.Forall₂ (fun node a => d .value node = .ok a) (Node.ofItems js) as) :
    List.Forall₂ means js as := by
  induction js generalizing as with
  | nil =>
    cases read
    exact .nil
  | cons j rest ih =>
    cases read with
    | cons first later => exact .cons (faithful j _ first) (ih later)

theorem Faithful.list (faithful : d.Faithful means) : d.list.Faithful (IsList means) := by
  intro j as decoded
  obtain ⟨start, nodes, stop, node, read⟩ := list_ok decoded
  cases j with
  | array items =>
    cases node
    exact ⟨items, rfl, faithful.items read⟩
  | null | bool b | number n | string s | object members => cases node

theorem Faithful.optional (faithful : d.Faithful means) : d.optional.Faithful (IsNullable means) := by
  intro j o decoded
  have inner : ∀ {j : Json}, (d .value (.ofJson j)).map some = .ok o → IsNullable means j o := by
    intro j decoded
    cases read : d .value (.ofJson j) with
    | error fault =>
      rw [read] at decoded
      cases decoded
    | ok a =>
      rw [read] at decoded
      cases decoded
      exact faithful j a read
  cases j with
  | null =>
    cases decoded
    rfl
  | bool b | number n | string s | array items | object members => exact inner decoded

theorem faithful_variants (named : List (String × α)) : (variants named).Faithful (IsVariant named) := by
  have found : ∀ {name stop a}, variant named name stop = .ok a → named.lookup name = some a := by
    intro name stop a found
    unfold variant at found
    split at found
    · cases found
      assumption
    · cases found
  intro j a decoded
  match j with
  | .string name => exact ⟨name, found decoded, Or.inl rfl⟩
  | .object [(name, j)] =>
    obtain ⟨_, same, decoded⟩ := bind_ok decoded
    cases same
    obtain ⟨a', known, decoded⟩ := bind_ok decoded
    obtain ⟨_, empty, decoded⟩ := bind_ok decoded
    cases decoded
    cases j with
    | null => exact ⟨name, found known, Or.inr rfl⟩
    | bool b | number n | string s | array items | object members => cases empty
  | .object [] | .object (_ :: _ :: _) | .null | .bool _ | .number _ | .array _ => cases decoded

end Decoder

namespace Field

variable {name : String} {said : Option Json}

theorem given_required (faithful : d.Faithful means) {a : α} (field : (required name d).Means said a) :
    Given means said a := by
  cases said with
  | some j => exact faithful j a field
  | none => rcases field with absent | missing <;> contradiction

theorem setting_withDefault (faithful : d.Faithful means) {default a : α}
    (field : (withDefault name d default).Means said a) : Setting means default said a := by
  cases said with
  | some j => exact faithful j a field
  | none => rcases field with absent | missing <;> exact (Option.some.inj ‹_›).symm

theorem setting_optional (faithful : d.Faithful means) {o : Option α} (field : (optional name d).Means said o) :
    Setting (IsNullable means) none said o := by
  cases said with
  | some j => exact faithful.optional j o field
  | none => rcases field with absent | missing <;> exact (Option.some.inj ‹_›).symm

end Field

end PolicyLint.Json
