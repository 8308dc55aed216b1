import PolicyLint.Json.Decoder
import PolicyLint.Proofs.Json.Order

/-!
# Decoding what is shown

A decoder `Reads` a value from JSON if it makes that value of every node which shows the JSON. A record reads
its values from an object that has a member for each field that is not left out.
-/

namespace PolicyLint.Json

/-- Whatever node shows the JSON value, it is decoded to `a`. -/
def Decoder.Reads {α : Type} (d : Decoder α) (j : Json) (a : α) : Prop :=
  ∀ (source : Source) (node : Node), node.Shows j → d source node = .ok a

/-! ### Naturals -/

theorem takeDigits_of_le {ds : List Char} {n : Nat} (fits : Nat.ofDigitChars 10 ds n ≤ greatestWord) :
    takeDigits n ds = (Nat.ofDigitChars 10 ds n, []) := by
  induction ds generalizing n with
  | nil => rfl
  | cons d ds ih =>
    have next : n * 10 + Decimal.digitValue d = 10 * n + (d.toNat - '0'.toNat) := by
      rw [Decimal.digitValue, Nat.mul_comm]
    rw [Nat.ofDigitChars_cons, ← next] at fits ⊢
    have grows : n * 10 + Decimal.digitValue d ≤ Nat.ofDigitChars 10 ds (n * 10 + Decimal.digitValue d) := by
      rw [Nat.ofDigitChars_eq_ofDigitChars_zero]
      exact Nat.le_add_right_of_le (Nat.le_mul_of_pos_left _ (Nat.pow_pos (by decide)))
    rw [takeDigits, if_pos (Nat.le_trans grows fits), ih fits]

theorem number?_ofNat {n : Nat} (fits : n ≤ greatestWord) : number? (.ofNat n) = some (.natural n) := by
  have digits : takeDigits 0 (Nat.toDigits 10 n) = (n, []) := by
    rw [takeDigits_of_le] <;> rw [Nat.ofDigitChars_ten_toDigits]
    exact fits
  simp [number?, Decimal.Numeral.ofNat, digits, Decimal.Numeral.isWhole]

namespace Decoder

theorem reads_string (s : String) : Decoder.string.Reads (.string s) s := by
  intro source node shows
  obtain ⟨start, stop, rfl⟩ := shows.string
  rfl

theorem reads_natUpTo {greatest n : Nat} (fits : n ≤ greatest) (word : greatest ≤ greatestWord) (expected : String) :
    (natUpTo greatest expected).Reads (.nat n) n := by
  intro source node shows
  obtain ⟨beyond, start, stop, rfl⟩ := shows.number
  simp only [natUpTo, numberAt, number?_ofNat (Nat.le_trans fits word)]
  exact if_pos fits

theorem reads_nat32 {n : Nat} (fits : n ≤ 0xFFFFFFFF) : nat32.Reads (.nat n) n :=
  reads_natUpTo fits (by decide) "u32"

theorem reads_nat64 {n : Nat} (fits : n ≤ greatestWord) : nat64.Reads (.nat n) n :=
  reads_natUpTo fits (Nat.le_refl _) "u64"

variable {α : Type} {d : Decoder α} {j : Json}

theorem reads_optional {a : α} (reads : d.Reads j a) (present : j ≠ .null) : d.optional.Reads j (some a) := by
  intro source node shows
  have decoded := reads source node shows
  cases node with
  | null start stop =>
    have value : Json.null = j ∨ Json.null = j.sorted := by simpa [Node.Shows, Node.json?] using shows
    cases j <;> simp_all [sorted]
  | broken start cut => simp [Node.Shows, Node.json?] at shows
  | _ => exact congrArg (Except.map some) decoded

theorem reads_items {js : List Json} {as : List α} (reads : List.Forall₂ d.Reads js as) (source : Source)
    {nodes : List Node} (shows : List.Forall₂ Node.Shows nodes js) : items d source nodes = .ok as := by
  induction reads generalizing nodes with
  | nil =>
    cases shows
    rfl
  | cons first _ ih =>
    cases shows with
    | cons shown others =>
      rw [items, first source _ shown, ih others]
      rfl

theorem reads_list {js : List Json} {as : List α} (reads : List.Forall₂ d.Reads js as) : d.list.Reads (.array js) as := by
  intro source node shows
  obtain ⟨start, nodes, stop, rfl, shown⟩ := shows.array
  rw [list, reads_items reads source shown]
  rfl

theorem reads_variants {named : List (String × α)} {name : String} {a : α} (found : named.lookup name = some a) :
    (variants named).Reads (.string name) a := by
  intro source node shows
  obtain ⟨start, stop, rfl⟩ := shows.string
  have known : variant named name stop = .ok a := by
    rw [variant, found]
  cases source <;> exact known

end Decoder

/-! ### What is passed over -/

namespace Node

mutual

theorem skip_of_json? : ∀ {node : Node} {j : Json}, node.json? = some j → node.skip = .ok ()
  | .null _ _, _, _ => rfl
  | .bool _ _ _, _, _ => rfl
  | .number _ _ _ _, _, _ => rfl
  | .string _ _ _, _, _ => rfl
  | .array _ items (.ok _), _, value => by
    obtain ⟨js, values, _⟩ := Option.map_eq_some_iff.mp value
    rw [skip, skipItems_of_itemsJson? values]
    rfl
  | .object _ members (.ok _), _, value => by
    obtain ⟨ms, values, _⟩ := Option.map_eq_some_iff.mp value
    rw [skip, skipMembers_of_membersJson? values]
    rfl
  | .array _ _ (.error _), _, value => absurd value (by simp [json?])
  | .object _ _ (.error _), _, value => absurd value (by simp [json?])
  | .broken _ _, _, value => absurd value (by simp [json?])

theorem skipItems_of_itemsJson? : ∀ {nodes : List Node} {js : List Json}, itemsJson? nodes = some js →
    skipItems nodes = .ok ()
  | [], _, _ => rfl
  | node :: rest, _, values => by
    rw [itemsJson?] at values
    split at values
    · rename_i value others
      rw [skipItems, skip_of_json? value, skipItems_of_itemsJson? others]
      rfl
    · exact absurd values (by simp)

theorem skipMembers_of_membersJson? : ∀ {nodes : List (Key × Node)} {ms : List (String × Json)},
    membersJson? nodes = some ms → skipMembers nodes = .ok ()
  | [], _, _ => rfl
  | (key, node) :: rest, _, values => by
    rw [membersJson?] at values
    split at values
    · rename_i value others
      rw [skipMembers, skip_of_json? value, skipMembers_of_membersJson? others]
      rfl
    · exact absurd values (by simp)

end

theorem Shows.skip {node : Node} {j : Json} (shows : node.Shows j) : node.skip = .ok () :=
  shows.elim skip_of_json? skip_of_json?

mutual

theorem json?_ofJson : ∀ j : Json, (Node.ofJson j).json? = some j
  | .null => rfl
  | .bool _ => rfl
  | .number _ => rfl
  | .string _ => rfl
  | .array items => by rw [Node.ofJson, json?, itemsJson?_ofItems items]; rfl
  | .object members => by rw [Node.ofJson, json?, membersJson?_ofMembers members]; rfl

theorem itemsJson?_ofItems : ∀ items : List Json, itemsJson? (Node.ofItems items) = some items
  | [] => rfl
  | j :: rest => by rw [Node.ofItems, itemsJson?, json?_ofJson j, itemsJson?_ofItems rest]

theorem membersJson?_ofMembers : ∀ members : List (String × Json), membersJson? (Node.ofMembers members) = some members
  | [] => rfl
  | (k, j) :: rest => by rw [Node.ofMembers, membersJson?, json?_ofJson j, membersJson?_ofMembers rest]

end

end Node

/-! ### Records -/

def present (slots : List (String × Option Json)) : List (String × Json) :=
  slots.filterMap fun s => s.2.map (s.1, ·)

theorem mem_present {slots : List (String × Option Json)} {m : String × Json} :
    m ∈ present slots ↔ (m.1, some m.2) ∈ slots := by
  obtain ⟨name, j⟩ := m
  simp only [present, List.mem_filterMap, Option.map_eq_some_iff, Prod.mk.injEq]
  constructor
  · rintro ⟨⟨_, _⟩, member, _, rfl, rfl, rfl⟩
    exact member
  · exact fun member => ⟨_, member, j, rfl, rfl, rfl⟩

theorem nodup_present {slots : List (String × Option Json)} (distinct : (slots.map (·.1)).Nodup) :
    ((present slots).map (·.1)).Nodup := by
  induction slots with
  | nil => exact List.nodup_nil
  | cons s rest ih =>
    obtain ⟨name, slot⟩ := s
    rw [List.map_cons, List.nodup_cons] at distinct
    cases slot with
    | none => exact ih distinct.2
    | some j =>
      refine List.nodup_cons.mpr ⟨?_, ih distinct.2⟩
      intro member
      obtain ⟨m, there, same⟩ := List.mem_map.mp member
      exact distinct.1 (List.mem_map.mpr ⟨_, mem_present.mp there, same⟩)

theorem proper_present {slots : List (String × Option Json)} (proper : ∀ s ∈ slots, ∀ j ∈ s.2, j.Proper) :
    (Json.object (present slots)).Proper :=
  properMembers_iff.mpr fun _ member => proper _ (mem_present.mp member) _ rfl

/-- What the field has in an object is `a`: its member is read as `a`, or it has none and `a` is meant. -/
def Field.Takes {α : Type} (field : Field α) : Option Json → α → Prop
  | some j, a => field.decode.Reads j a
  | none, a => field.absent = some a

theorem Field.takes_optional {α : Type} {name : String} {d : Decoder α} {encode : α → Json} (o : Option α)
    (reads : ∀ a, o = some a → d.Reads (encode a) a) (full : ∀ a, encode a ≠ .null) :
    (Field.optional name d).Takes (o.map encode) o := by
  cases o with
  | none => rfl
  | some a => exact Decoder.reads_optional (reads a rfl) (full a)

namespace Fields

variable {αs : List Type}

def Take {αs : List Type} : Fields αs → List (String × Option Json) → Values αs → Prop
  | nil, slots, _ => slots = []
  | cons field rest, slots, (a, values) =>
    ∃ slot others, slots = (field.name, slot) :: others ∧ field.Takes slot a ∧ rest.Take others values

def draftOf {αs : List Type} : Fields αs → Values αs → List String → Draft αs
  | nil, _, _ => ()
  | cons field rest, (a, values), done =>
    (if field.name ∈ done then some a else none, rest.draftOf values done)

theorem empty_eq (fields : Fields αs) (values : Values αs) : fields.empty = fields.draftOf values [] := by
  induction fields with
  | nil => rfl
  | cons field rest ih =>
    obtain ⟨a, values⟩ := values
    rw [empty, draftOf, ih values, if_neg List.not_mem_nil]

theorem filled_draftOf (fields : Fields αs) (values : Values αs) (done : List String) :
    fields.filled (fields.draftOf values done) = fields.names.filter (· ∈ done) := by
  induction fields with
  | nil => rfl
  | cons field rest ih =>
    obtain ⟨a, values⟩ := values
    rw [draftOf, filled, names, List.filter_cons, ih values]
    by_cases member : field.name ∈ done <;> simp [member]

theorem draftOf_cons {fields : Fields αs} {name : String} (other : name ∉ fields.names) (values : Values αs)
    (done : List String) : fields.draftOf values (name :: done) = fields.draftOf values done := by
  induction fields with
  | nil => rfl
  | cons field rest ih =>
    obtain ⟨a, values⟩ := values
    rw [names, List.mem_cons, not_or] at other
    have same : field.name ∈ name :: done ↔ field.name ∈ done := by
      simp [Ne.symm other.1]
    rw [draftOf, draftOf, ih other.2 values, if_congr same rfl rfl]

theorem Take.names {fields : Fields αs} {slots : List (String × Option Json)} {values : Values αs}
    (take : fields.Take slots values) : slots.map (·.1) = fields.names := by
  induction fields generalizing slots with
  | nil =>
    rw [take]
    rfl
  | cons field rest ih =>
    obtain ⟨a, values⟩ := values
    obtain ⟨slot, others, rfl, _, take⟩ := take
    rw [List.map_cons, ih take, Fields.names]

section Set

variable {α : Type} {field : Field α} {rest : Fields αs} {source : Source} {name : String} {node : Node}

theorem set_same (same : field.name = name) (value : Option α) (draft : Draft αs) :
    (cons field rest).set source name node (value, draft) =
      (do
        let a ← field.decode source node
        return (some a, draft)) :=
  if_pos same

theorem set_other (other : field.name ≠ name) (value : Option α) (draft : Draft αs) :
    (cons field rest).set source name node (value, draft) =
      (do
        let draft ← rest.set source name node draft
        return (value, draft)) :=
  if_neg other

end Set

theorem Take.set {fields : Fields αs} {slots : List (String × Option Json)} {values : Values αs}
    (take : fields.Take slots values) (distinct : fields.names.Nodup) {name : String} {j : Json} {node : Node}
    (member : (name, some j) ∈ slots) (shows : node.Shows j) (source : Source) (done : List String) :
    fields.set source name node (fields.draftOf values done) = .ok (fields.draftOf values (name :: done)) := by
  induction fields generalizing slots with
  | nil =>
    rw [take] at member
    exact absurd member List.not_mem_nil
  | cons field rest ih =>
    obtain ⟨a, values⟩ := values
    obtain ⟨slot, others, rfl, takes, take⟩ := take
    rw [Fields.names, List.nodup_cons] at distinct
    rcases List.mem_cons.mp member with here | later
    · obtain ⟨rfl, rfl⟩ := Prod.mk.inj here
      rw [draftOf, set_same rfl, takes source node shows, draftOf, if_pos List.mem_cons_self, draftOf_cons distinct.1]
      rfl
    · have other : field.name ≠ name := by
        rintro rfl
        exact distinct.1 (take.names ▸ List.mem_map_of_mem (f := (·.1)) later)
      have same : field.name ∈ name :: done ↔ field.name ∈ done := by simp [other]
      rw [draftOf, set_other other, ih take distinct.2 later, draftOf, if_congr same rfl rfl]
      rfl

theorem Take.complete {fields : Fields αs} {slots : List (String × Option Json)} {values : Values αs}
    (take : fields.Take slots values) {done : List String} (all : ∀ name j, (name, some j) ∈ slots → name ∈ done) :
    fields.complete (fields.draftOf values done) = .ok values := by
  induction fields generalizing slots with
  | nil => rfl
  | cons field rest ih =>
    obtain ⟨a, values⟩ := values
    obtain ⟨slot, others, rfl, takes, take⟩ := take
    have later := ih take fun name j member => all name j (List.mem_cons_of_mem _ member)
    rw [draftOf, Fields.complete, later]
    have value : (if field.name ∈ done then some a else none).or field.absent = some a := by
      by_cases member : field.name ∈ done
      · rw [if_pos member]
        rfl
      · cases slot with
        | none =>
          rw [if_neg member]
          exact takes
        | some j => exact absurd (all field.name j List.mem_cons_self) member
    rw [value]
    rfl

/-- A member can be read: it fills a slot, or it is one of those that are passed over. -/
def Admits (fields : Fields αs) (slots : List (String × Option Json)) (tolerant : Bool) (m : String × Json) : Prop :=
  (m.1, some m.2) ∈ slots ∨ tolerant = true ∧ m.1 ∉ fields.names

theorem Take.ofMembers {fields : Fields αs} {slots : List (String × Option Json)} {values : Values αs}
    (take : fields.Take slots values) (distinct : fields.names.Nodup) (source : Source) {tolerant : Bool}
    {nodes : List (Key × Node)} {order : List (String × Json)}
    (shows : List.Forall₂ (fun (x : Key × Node) (m : String × Json) => x.1.name = .ok m.1 ∧ x.2.Shows m.2) nodes order)
    (done : List String) (admits : ∀ m ∈ order, fields.Admits slots tolerant m) (apart : (order.map (·.1)).Nodup)
    (fresh : ∀ m ∈ order, m.1 ∉ done) :
    fields.ofMembers source tolerant nodes (fields.draftOf values done) =
      .ok (fields.draftOf values ((order.map (·.1)).reverse ++ done)) := by
  -- `done` has the names of the members that were read before
  induction shows generalizing done with
  | nil => rfl
  | @cons x m nodes order shown _ ih =>
    obtain ⟨key, node⟩ := x
    obtain ⟨name, shows⟩ := shown
    dsimp only at name shows
    rw [List.map_cons, List.nodup_cons] at apart
    have unread : ¬(fields.filled (fields.draftOf values done)).contains m.1 = true := by
      rw [filled_draftOf]
      simp [fresh m List.mem_cons_self]
    have rest := ih (m.1 :: done) (fun m' later => admits m' (List.mem_cons_of_mem _ later)) apart.2 (by
      intro m' later before
      rcases List.mem_cons.mp before with same | old
      · exact apart.1 (same ▸ List.mem_map_of_mem later)
      · exact fresh m' (List.mem_cons_of_mem _ later) old)
    have names : (List.map (·.1) (m :: order)).reverse ++ done = (order.map (·.1)).reverse ++ m.1 :: done := by
      rw [List.map_cons, List.reverse_cons, List.append_assoc, List.singleton_append]
    simp only [Fields.ofMembers, name, bind, Except.bind]
    rw [if_neg unread, names]
    rcases admits m List.mem_cons_self with member | ⟨tolerates, unknown⟩
    · have known : m.1 ∈ fields.names := take.names ▸ List.mem_map_of_mem (f := (·.1)) member
      rw [if_pos (by simpa using known), take.set distinct member shows]
      exact rest
    · rw [if_neg (by simpa using unknown), if_pos tolerates, shows.skip, ← draftOf_cons unknown]
      exact rest

end Fields

/-- A record reads its values from an object with a member for each of its full slots. -/
theorem Record.reads_decoder {αs : List Type} {α : Type} {r : Record αs} {make : Values αs → α}
    {slots : List (String × Option Json)} {values : Values αs} (distinct : r.fields.names.Nodup)
    (take : r.fields.Take slots values) {members : List (String × Json)} (apart : (members.map (·.1)).Nodup)
    (admits : ∀ m ∈ members, r.fields.Admits slots r.tolerant m)
    (all : ∀ name j, (name, some j) ∈ slots → (name, j) ∈ members) :
    (r.decoder make).Reads (.object members) (make values) := by
  intro source node shows
  obtain ⟨start, nodes, stop, order, rfl, perm, shown⟩ := shows.object apart
  have drafted := take.ofMembers distinct source shown [] (fun m member => admits m (perm.subset member))
    (((perm.map (·.1)).nodup_iff).mpr apart) (fun _ _ => List.not_mem_nil)
  have completed : r.fields.complete (r.fields.draftOf values ((order.map (·.1)).reverse ++ [])) = .ok values := by
    apply take.complete
    intro name j member
    have there : (name, j) ∈ order := perm.symm.subset (all name j member)
    simpa using ⟨j, there⟩
  have decoded : r.decode source (.object start nodes (.ok stop)) = .ok values := by
    rw [Record.decode, r.fields.empty_eq values, drafted]
    simp only [bind, Except.bind, completed]
    rfl
  rw [Record.decoder, decoded]
  rfl

/-- The case in which an object has nothing but the slots of the record. -/
theorem Record.reads_present {αs : List Type} {α : Type} {r : Record αs} {make : Values αs → α}
    {slots : List (String × Option Json)} {values : Values αs} (distinct : r.fields.names.Nodup)
    (take : r.fields.Take slots values) : (r.decoder make).Reads (.object (present slots)) (make values) :=
  reads_decoder distinct take (nodup_present (take.names ▸ distinct)) (fun _ member => Or.inl (mem_present.mp member))
    fun _ _ member => mem_present.mpr member

/-! ### Texts and values -/

namespace Decoder

variable {α : Type} {d : Decoder α} {j : Json} {a : α}

theorem ofText_of_root {s : String} (reads : d.Reads j a) (root : (Document.ofChars s.toList).root.Shows j)
    (whole : (Document.ofChars s.toList).trailing = none) : d.ofText s = .ok a := by
  rw [ofText, ofChars]
  simp only [reads .text _ root, whole, bind, Except.bind, Except.mapError]

theorem ofText_render (reads : d.Reads j a) (proper : j.Proper) : d.ofText j.render = .ok a := by
  obtain ⟨value, whole⟩ := root_compact proper
  apply ofText_of_root reads <;> rw [render, String.toList_ofList]
  · exact Or.inl value
  · exact whole

theorem ofText_renderPretty (reads : d.Reads j a) (proper : j.Proper) : d.ofText j.sorted.renderPretty = .ok a := by
  obtain ⟨value, whole⟩ := root_pretty proper.sorted 0
  apply ofText_of_root reads <;> rw [renderPretty, String.toList_ofList]
  · exact Or.inr value
  · exact whole

theorem ofJson_sorted (reads : d.Reads j a) : d.ofJson j.sorted = .ok a := by
  rw [ofJson, reads .value _ (Or.inr (Node.json?_ofJson j.sorted))]
  rfl

end Decoder

end PolicyLint.Json
