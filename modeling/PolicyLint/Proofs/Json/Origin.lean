import PolicyLint.Proofs.Json.Decoding

/-!
# Where decoded values come from

Each value of a decoded record was decoded from a node that stands under the name of its field or in its place,
or it is what is meant when its field is not there.
-/

namespace PolicyLint.Json

theorem bind_ok {ε α β : Type} {x : Except ε α} {f : α → Except ε β} {b : β} (bound : x >>= f = .ok b) :
    ∃ a, x = .ok a ∧ f a = .ok b := by
  cases x with
  | error e => cases bound
  | ok a => exact ⟨a, rfl, bound⟩

def Field.Yields {α : Type} (field : Field α) (a : α) : Prop :=
  (∃ source node, field.decode source node = .ok a) ∨ field.absent = some a ∨ field.missing = some a

namespace Fields

variable {αs : List Type} {source : Source}

def Yield {αs : List Type} : Fields αs → Values αs → Prop
  | nil, _ => True
  | cons field rest, (a, values) => field.Yields a ∧ rest.Yield values

/-- Each value was decoded from a node that is given under the name of its field, or it is what is meant when an
object lacks the field. -/
def Named {αs : List Type} (source : Source) (given : String → Node → Prop) : Fields αs → Values αs → Prop
  | nil, _ => True
  | cons field rest, (a, values) =>
    ((∃ node, given field.name node ∧ field.decode source node = .ok a) ∨ field.absent = some a) ∧
      rest.Named source given values

/-- Each value was decoded from the node in its place, or it is what is meant when an array ends before. -/
def Placed {αs : List Type} (source : Source) : Fields αs → List Node → Values αs → Prop
  | nil, nodes, _ => nodes = []
  | cons field rest, node :: nodes, (a, values) => field.decode source node = .ok a ∧ rest.Placed source nodes values
  | cons field rest, [], (a, values) => field.missing = some a ∧ rest.Placed source [] values

variable {given : String → Node → Prop}

theorem Named.yield {fields : Fields αs} {values : Values αs} (named : fields.Named source given values) :
    fields.Yield values := by
  induction fields with
  | nil => trivial
  | cons field rest ih =>
    obtain ⟨a, values⟩ := values
    obtain ⟨⟨node, _, decoded⟩ | absent, later⟩ := named
    · exact ⟨Or.inl ⟨source, node, decoded⟩, ih later⟩
    · exact ⟨Or.inr (Or.inl absent), ih later⟩

theorem Placed.yield {fields : Fields αs} {nodes : List Node} {values : Values αs}
    (placed : fields.Placed source nodes values) : fields.Yield values := by
  induction fields generalizing nodes with
  | nil => trivial
  | cons field rest ih =>
    obtain ⟨a, values⟩ := values
    cases nodes with
    | nil => exact ⟨Or.inr (Or.inr placed.1), ih placed.2⟩
    | cons node nodes => exact ⟨Or.inl ⟨source, node, placed.1⟩, ih placed.2⟩

def Drafted {αs : List Type} (source : Source) (given : String → Node → Prop) : Fields αs → Draft αs → Prop
  | nil, _ => True
  | cons field rest, (value, draft) =>
    (∀ a, value = some a → ∃ node, given field.name node ∧ field.decode source node = .ok a) ∧
      rest.Drafted source given draft

theorem drafted_empty (fields : Fields αs) : fields.Drafted source given fields.empty := by
  induction fields with
  | nil => trivial
  | cons field rest ih => exact ⟨fun a none => absurd none (by simp), ih⟩

theorem Drafted.set {fields : Fields αs} {name : String} {node : Node} {draft draft' : Draft αs}
    (drafted : fields.Drafted source given draft) (here : given name node)
    (step : fields.set source name node draft = .ok draft') : fields.Drafted source given draft' := by
  induction fields with
  | nil => trivial
  | cons field rest ih =>
    obtain ⟨value, draft⟩ := draft
    obtain ⟨before, later⟩ := drafted
    by_cases named : field.name = name
    · rw [set_same named] at step
      obtain ⟨a, decoded, step⟩ := bind_ok step
      obtain rfl := Except.ok.inj step
      refine ⟨fun a' same => ⟨node, named ▸ here, ?_⟩, later⟩
      rw [decoded, Option.some.inj same]
    · rw [set_other named] at step
      obtain ⟨draft', inner, step⟩ := bind_ok step
      obtain rfl := Except.ok.inj step
      exact ⟨before, ih later inner⟩

theorem Drafted.ofMembers {fields : Fields αs} {tolerant : Bool} {nodes : List (Key × Node)} {draft draft' : Draft αs}
    (drafted : fields.Drafted source given draft)
    (here : ∀ key node name, (key, node) ∈ nodes → key.name = .ok name → given name node)
    (steps : fields.ofMembers source tolerant nodes draft = .ok draft') : fields.Drafted source given draft' := by
  induction nodes generalizing draft with
  | nil =>
    obtain rfl := Except.ok.inj steps
    exact drafted
  | cons member rest ih =>
    obtain ⟨key, node⟩ := member
    have later : ∀ key node name, (key, node) ∈ rest → key.name = .ok name → given name node :=
      fun key node name member => here key node name (List.mem_cons_of_mem _ member)
    rw [Fields.ofMembers] at steps
    obtain ⟨name, named, steps⟩ := bind_ok steps
    split at steps
    · cases steps
    · split at steps
      · obtain ⟨next, step, steps⟩ := bind_ok steps
        exact ih (drafted.set (here key node name List.mem_cons_self named) step) later steps
      · split at steps
        · obtain ⟨_, _, steps⟩ := bind_ok steps
          exact ih drafted later steps
        · cases steps

theorem Drafted.complete {fields : Fields αs} {draft : Draft αs} {values : Values αs}
    (drafted : fields.Drafted source given draft) (whole : fields.complete draft = .ok values) :
    fields.Named source given values := by
  induction fields with
  | nil => trivial
  | cons field rest ih =>
    obtain ⟨value, draft⟩ := draft
    obtain ⟨here, later⟩ := drafted
    rw [Fields.complete] at whole
    split at whole
    · cases whole
    · rename_i a found
      obtain ⟨values, others, whole⟩ := bind_ok whole
      obtain rfl := Except.ok.inj whole
      refine ⟨?_, ih later others⟩
      cases value with
      | some a' => exact Or.inl (here a found)
      | none => exact Or.inr found

theorem placed_ofItems {fields : Fields αs} {title : String} {ending : Except Cut Nat} {index : Nat} {nodes : List Node}
    {values : Values αs} (decoded : fields.ofItems source title ending index nodes = .ok (values, [])) :
    fields.Placed source nodes values := by
  induction fields generalizing index nodes with
  | nil => exact (Prod.mk.inj (Except.ok.inj decoded)).2
  | cons field rest ih =>
    cases nodes with
    | cons node nodes =>
      rw [Fields.ofItems] at decoded
      obtain ⟨a, first, decoded⟩ := bind_ok decoded
      obtain ⟨⟨found, left⟩, others, decoded⟩ := bind_ok decoded
      obtain ⟨rfl, rfl⟩ := Prod.mk.inj (Except.ok.inj decoded)
      exact ⟨first, ih others⟩
    | nil =>
      unfold Fields.ofItems at decoded
      split at decoded
      · cases decoded
      · cases decoded
      · rename_i a meant
        obtain ⟨⟨found, left⟩, others, decoded⟩ := bind_ok decoded
        obtain ⟨rfl, rfl⟩ := Prod.mk.inj (Except.ok.inj decoded)
        exact ⟨meant, ih others⟩

end Fields

variable {αs : List Type} {α : Type} {r : Record αs}

def MemberOf (members : List (Key × Node)) (name : String) (node : Node) : Prop :=
  ∃ key, (key, node) ∈ members ∧ key.name = .ok name

theorem surplus_none {source : Source} {length : Nat} {left : List Node} {ending : Except Cut Nat}
    (none : Record.surplus source length left ending = .none) : left = [] ∧ ∃ stop, ending = .ok stop := by
  unfold Record.surplus at none
  split at none
  · rename_i stop
    exact ⟨rfl, stop, rfl⟩
  · split at none <;> cases none
  · split at none <;> cases none

/-- A structure is read from an object by the names of its fields, or from an array by their order. -/
theorem Record.decode_cases {source : Source} {node : Node} {values : Values αs}
    (decoded : r.decode source node = .ok values) :
    (∃ start members stop, node = .object start members (.ok stop) ∧
      r.fields.Named source (MemberOf members) values) ∨
    ∃ start nodes stop, node = .array start nodes (.ok stop) ∧ r.fields.Placed source nodes values := by
  unfold Record.decode at decoded
  split at decoded
  · rename_i start members ending
    obtain ⟨draft, drafted, completed⟩ := bind_ok decoded
    cases ending with
    | error cut => cases completed
    | ok stop =>
      dsimp only at completed
      cases whole : r.fields.complete draft with
      | error name =>
        rw [whole] at completed
        cases completed
      | ok found =>
        rw [whole] at completed
        obtain rfl := Except.ok.inj completed
        refine Or.inl ⟨start, members, stop, rfl, ?_⟩
        have given : r.fields.Drafted source (MemberOf members) draft :=
          r.fields.drafted_empty.ofMembers (fun key _ _ member named => ⟨key, member, named⟩) drafted
        exact given.complete whole
  · rename_i start nodes ending
    obtain ⟨⟨found, left⟩, read, ended⟩ := bind_ok decoded
    dsimp only at ended
    split at ended
    · cases ended
    · rename_i none
      obtain rfl := Except.ok.inj ended
      obtain ⟨rfl, stop, rfl⟩ := surplus_none none
      exact Or.inr ⟨start, nodes, stop, rfl, Fields.placed_ofItems read⟩
  · cases decoded

theorem Record.yield_decode {source : Source} {node : Node} {values : Values αs}
    (decoded : r.decode source node = .ok values) : r.fields.Yield values := by
  rcases decode_cases decoded with ⟨_, _, _, _, named⟩ | ⟨_, _, _, _, placed⟩
  · exact named.yield
  · exact placed.yield

theorem Record.decoder_ok {make : Values αs → α} {source : Source} {node : Node} {a : α}
    (decoded : r.decoder make source node = .ok a) : ∃ values, r.decode source node = .ok values ∧ a = make values := by
  rw [Record.decoder] at decoded
  cases read : r.decode source node with
  | error fault =>
    rw [read] at decoded
    cases decoded
  | ok values =>
    rw [read] at decoded
    exact ⟨values, rfl, (Except.ok.inj decoded).symm⟩

theorem Decoder.accepted_of_ofText {d : Decoder α} {text : String} {a : α} (accepted : d.ofText text = .ok a) :
    ∃ node, d .text node = .ok a := by
  unfold ofText at accepted
  cases read : d.ofChars text.toList with
  | error fault =>
    rw [read] at accepted
    cases accepted
  | ok a' =>
    rw [read] at accepted
    obtain rfl := Except.ok.inj accepted
    obtain ⟨a, decoded, whole⟩ := bind_ok read
    split at whole
    · cases whole
    · obtain rfl := Except.ok.inj whole
      exact ⟨_, decoded⟩

/-- A structure that was read from a text is made of values that its fields can have. -/
theorem Record.yield_ofText {make : Values αs → α} {text : String} {a : α}
    (accepted : (r.decoder make).ofText text = .ok a) : ∃ values, r.fields.Yield values ∧ a = make values := by
  obtain ⟨node, decoded⟩ := Decoder.accepted_of_ofText accepted
  obtain ⟨values, read, made⟩ := decoder_ok decoded
  exact ⟨values, yield_decode read, made⟩

end PolicyLint.Json
