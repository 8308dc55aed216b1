import PolicyLint.Proofs.Json.Parsing

/-!
# What accepted texts are

A decoder that is `Thorough` makes something only of a value without a cut. A text that it accepts is one
whole value.
-/

namespace PolicyLint.Json

namespace Node

theorem skipItems_of_forall {nodes : List Node} (all : ∀ node ∈ nodes, node.skip = .ok ()) :
    skipItems nodes = .ok () := by
  induction nodes with
  | nil => rfl
  | cons node rest ih =>
    rw [skipItems, all node List.mem_cons_self, ih fun node member => all node (List.mem_cons_of_mem _ member)]
    rfl

theorem skipMembers_of_forall {nodes : List (Key × Node)} (all : ∀ m ∈ nodes, m.2.skip = .ok ()) :
    skipMembers nodes = .ok () := by
  induction nodes with
  | nil => rfl
  | cons m rest ih =>
    rw [skipMembers, all m List.mem_cons_self, ih fun m member => all m (List.mem_cons_of_mem _ member)]
    rfl

theorem skip_array {start stop : Nat} {nodes : List Node} (all : ∀ node ∈ nodes, node.skip = .ok ()) :
    (array start nodes (.ok stop)).skip = .ok () := by
  rw [skip, skipItems_of_forall all]
  rfl

theorem skip_object {start stop : Nat} {nodes : List (Key × Node)} (all : ∀ m ∈ nodes, m.2.skip = .ok ()) :
    (object start nodes (.ok stop)).skip = .ok () := by
  rw [skip, skipMembers_of_forall all]
  rfl

end Node

namespace Decoder

variable {α : Type} {d : Decoder α} {source : Source} {node : Node}

/-- What the decoder accepts has no cut. -/
def Thorough (d : Decoder α) : Prop := ∀ source node a, d source node = .ok a → node.skip = .ok ()

theorem string_ok {text : String} (decoded : string source node = .ok text) :
    ∃ start stop, node = .string (.ok text) start stop := by
  unfold string at decoded
  split at decoded
  · rename_i content start stop
    exact ⟨start, stop, by rw [decoded]⟩
  · cases decoded

theorem items_ok {nodes : List Node} {as : List α} (decoded : items d source nodes = .ok as) :
    List.Forall₂ (fun node a => d source node = .ok a) nodes as := by
  induction nodes generalizing as with
  | nil =>
    obtain rfl := Except.ok.inj decoded
    exact .nil
  | cons node rest ih =>
    rw [items] at decoded
    obtain ⟨a, first, decoded⟩ := bind_ok decoded
    obtain ⟨others, later, decoded⟩ := bind_ok decoded
    obtain rfl := Except.ok.inj decoded
    exact .cons first (ih later)

theorem list_ok {as : List α} (decoded : d.list source node = .ok as) :
    ∃ start nodes stop, node = .array start nodes (.ok stop) ∧
      List.Forall₂ (fun node a => d source node = .ok a) nodes as := by
  unfold list at decoded
  split at decoded
  · rename_i start nodes ending
    obtain ⟨found, read, ended⟩ := bind_ok decoded
    cases ending with
    | error cut => cases ended
    | ok stop =>
      obtain rfl := Except.ok.inj ended
      exact ⟨start, nodes, stop, rfl, items_ok read⟩
  · cases decoded

theorem thorough_string : string.Thorough := by
  intro source node text decoded
  obtain ⟨start, stop, rfl⟩ := string_ok decoded
  rfl

theorem thorough_natUpTo (greatest : Nat) (expected : String) : (natUpTo greatest expected).Thorough := by
  intro source node n decoded
  unfold natUpTo at decoded
  split at decoded
  · rfl
  · cases decoded

theorem Thorough.optional (thorough : d.Thorough) : d.optional.Thorough := by
  intro source node a decoded
  have inner : ∀ node a, (d source node).map some = .ok a → node.skip = .ok () := by
    intro node a decoded
    cases read : d source node with
    | error fault =>
      rw [read] at decoded
      cases decoded
    | ok found => exact thorough source node found read
  unfold Decoder.optional at decoded
  split at decoded
  · rfl
  · split at decoded
    · cases decoded
    · exact inner _ _ decoded
  · exact inner _ _ decoded

theorem Thorough.list (thorough : d.Thorough) : d.list.Thorough := by
  intro source node as decoded
  obtain ⟨start, nodes, stop, rfl, read⟩ := list_ok decoded
  refine Node.skip_array ?_
  clear decoded
  induction read with
  | nil => exact fun node member => nomatch member
  | cons first _ ih => exact List.forall_mem_cons.mpr ⟨thorough source _ _ first, ih⟩

end Decoder

/-! ### Records -/

namespace Fields

variable {αs : List Type} {source : Source}

def Thorough {αs : List Type} : Fields αs → Prop
  | nil => True
  | cons field rest => field.decode.Thorough ∧ rest.Thorough

theorem Thorough.set {fields : Fields αs} (thorough : fields.Thorough) {name : String} (known : name ∈ fields.names)
    {node : Node} {draft draft' : Draft αs} (step : fields.set source name node draft = .ok draft') :
    node.skip = .ok () := by
  induction fields with
  | nil => cases known
  | cons field rest ih =>
    obtain ⟨value, draft⟩ := draft
    by_cases named : field.name = name
    · rw [set_same named] at step
      obtain ⟨a, decoded, _⟩ := bind_ok step
      exact thorough.1 source node a decoded
    · rw [set_other named] at step
      obtain ⟨_, inner, _⟩ := bind_ok step
      rcases List.mem_cons.mp known with same | later
      · exact absurd same.symm named
      · exact ih thorough.2 later inner

theorem Thorough.ofMembers {fields : Fields αs} (thorough : fields.Thorough) {tolerant : Bool} {nodes : List (Key × Node)}
    {draft draft' : Draft αs} (steps : fields.ofMembers source tolerant nodes draft = .ok draft') :
    ∀ m ∈ nodes, m.2.skip = .ok () := by
  induction nodes generalizing draft with
  | nil => exact fun m member => nomatch member
  | cons m rest ih =>
    obtain ⟨key, node⟩ := m
    rw [Fields.ofMembers] at steps
    obtain ⟨name, _, steps⟩ := bind_ok steps
    split at steps
    · cases steps
    · split at steps
      · rename_i known
        obtain ⟨next, step, steps⟩ := bind_ok steps
        exact List.forall_mem_cons.mpr ⟨thorough.set (by simpa using known) step, ih steps⟩
      · split at steps
        · obtain ⟨_, passed, steps⟩ := bind_ok steps
          exact List.forall_mem_cons.mpr ⟨passed, ih steps⟩
        · cases steps

theorem Thorough.placed {fields : Fields αs} (thorough : fields.Thorough) {nodes : List Node} {values : Values αs}
    (placed : fields.Placed source nodes values) : ∀ node ∈ nodes, node.skip = .ok () := by
  induction fields generalizing nodes with
  | nil =>
    obtain rfl : nodes = [] := placed
    exact fun node member => nomatch member
  | cons field rest ih =>
    obtain ⟨a, values⟩ := values
    cases nodes with
    | nil => exact fun node member => nomatch member
    | cons node nodes =>
      exact List.forall_mem_cons.mpr ⟨thorough.1 source node a placed.1, ih thorough.2 placed.2⟩

end Fields

theorem Record.thorough_decoder {αs : List Type} {α : Type} {r : Record αs} (thorough : r.fields.Thorough)
    (make : Values αs → α) : (r.decoder make).Thorough := by
  intro source node a decoded
  obtain ⟨values, read, _⟩ := decoder_ok decoded
  rcases decode_cases read with ⟨start, members, stop, rfl, _⟩ | ⟨start, nodes, stop, rfl, placed⟩
  · obtain ⟨_, drafted, _⟩ := bind_ok read
    exact Node.skip_object (thorough.ofMembers drafted)
  · exact Node.skip_array (thorough.placed placed)

/-- A text that is accepted writes a tree, and what is decoded is the node of that tree. -/
theorem Decoder.Thorough.written {α : Type} {d : Decoder α} (thorough : d.Thorough) {cs : List Char} {a : α}
    (accepted : d.ofChars cs = .ok a) : ∃ (t : Tree) (root : Node), t.Written cs ∧ root.Depicts t ∧ d .text root = .ok a := by
  obtain ⟨found, decoded, ended⟩ := bind_ok accepted
  cases trailing : (Document.ofChars cs).trailing with
  | some fault =>
    rw [trailing] at ended
    cases ended
  | none =>
    rw [trailing] at ended
    obtain rfl := Except.ok.inj ended
    have read : Document.ofChars cs = ⟨(Document.ofChars cs).root, none⟩ := by rw [← trailing]
    obtain ⟨t, written, depicts⟩ := Document.written read (thorough _ _ _ decoded)
    exact ⟨t, _, written, depicts, decoded⟩

end PolicyLint.Json
