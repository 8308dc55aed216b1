import PolicyLint.Proofs.Json.Lexing
import PolicyLint.Proofs.Json.Origin

/-!
# What a whole document stands for

A document without a cut is a tree that its text writes. Reading keeps that the tokens so far are those of the
containers that are open and of what is due in the innermost one.
-/

namespace PolicyLint.Json

/-! ### The tokens of a node -/

mutual

def Node.kinds : Node → List Token.Kind
  | .null _ _ => [.null]
  | .bool b _ _ => [.bool b]
  | .number n beyond _ _ => [.number n beyond]
  | .string content _ _ => [.string content]
  | .array _ items _ => .openBracket :: (itemKinds items ++ [.closeBracket])
  | .object _ members _ => .openBrace :: (memberKinds members ++ [.closeBrace])
  | .broken _ _ => []

def itemKinds : List Node → List Token.Kind
  | [] => []
  | [node] => node.kinds
  | node :: next :: rest => node.kinds ++ .comma :: itemKinds (next :: rest)

def memberKinds : List (Key × Node) → List Token.Kind
  | [] => []
  | [(key, node)] => .string key.name :: .colon :: node.kinds
  | (key, node) :: next :: rest =>
    .string key.name :: .colon :: (node.kinds ++ .comma :: memberKinds (next :: rest))

end

/-- Items with a comma behind each, the last one first. -/
def startedItems : List Node → List Token.Kind
  | [] => []
  | node :: before => startedItems before ++ (node.kinds ++ [.comma])

def startedMembers : List (Key × Node) → List Token.Kind
  | [] => []
  | (key, node) :: before => startedMembers before ++ (.string key.name :: .colon :: (node.kinds ++ [.comma]))

theorem itemKinds_reverse (node : Node) (before rest : List Node) :
    itemKinds (before.reverse ++ node :: rest) = startedItems before ++ itemKinds (node :: rest) := by
  induction before generalizing node rest with
  | nil => rfl
  | cons last before ih =>
    rw [List.reverse_cons, List.append_assoc, List.singleton_append, ih, itemKinds, startedItems]
    simp only [List.append_assoc, List.singleton_append]

theorem memberKinds_reverse (member : Key × Node) (before rest : List (Key × Node)) :
    memberKinds (before.reverse ++ member :: rest) = startedMembers before ++ memberKinds (member :: rest) := by
  induction before generalizing member rest with
  | nil => rfl
  | cons last before ih =>
    obtain ⟨key, node⟩ := last
    rw [List.reverse_cons, List.append_assoc, List.singleton_append, ih, memberKinds, startedMembers]
    simp only [List.append_assoc, List.cons_append, List.nil_append]

/-! ### Reading -/

/-- The tokens so far of the containers that are open, the innermost one first. -/
def openKinds : List Frame → List Token.Kind
  | [] => []
  | .array _ items :: frames => openKinds frames ++ .openBracket :: startedItems items
  | .object _ members key :: frames =>
    openKinds frames ++ .openBrace :: (startedMembers members ++ [.string key.name, .colon])

def Due.kinds : Due → List Token.Kind
  | .value => []
  | .firstItem _ => [.openBracket]
  | .item _ items => .openBracket :: startedItems items
  | .firstKey _ => [.openBrace]
  | .key _ members _ => .openBrace :: startedMembers members
  | .colon _ members due => .openBrace :: (startedMembers members ++ [.string due.name])
  | .afterItem _ items => .openBracket :: itemKinds items.reverse
  | .afterMember _ members => .openBrace :: memberKinds members.reverse
  | .nothing root => root.kinds

/-- What can be due: something stands in front of a comma, and all containers are closed behind the value. -/
def Due.Fits : Due → List Frame → Prop
  | .afterItem _ items, _ => items ≠ []
  | .afterMember _ members, _ => members ≠ []
  | .nothing _, frames => frames = []
  | _, _ => True

/-! ### Cuts -/

theorem skip_broken (start : Nat) (cut : Cut) : (Node.broken start cut).skip ≠ .ok () := nofun

theorem skip_array_cut (start : Nat) (items : List Node) (cut : Cut) :
    (Node.array start items (.error cut)).skip ≠ .ok () := by
  rw [Node.skip]
  cases Node.skipItems items <;> nofun

theorem skip_object_cut (start : Nat) (members : List (Key × Node)) (cut : Cut) :
    (Node.object start members (.error cut)).skip ≠ .ok () := by
  rw [Node.skip]
  cases Node.skipMembers members <;> nofun

theorem skip_unwind {node : Node} (unfinished : node.skip ≠ .ok ()) (cut : Cut) (frames : List Frame) :
    (unwind node cut frames).skip ≠ .ok () := by
  induction frames generalizing node with
  | nil => exact unfinished
  | cons frame frames ih =>
    cases frame with
    | array start items => exact ih (skip_array_cut start _ cut)
    | object start members key => exact ih (skip_object_cut start _ cut)

/-! ### Steps -/

variable {t : Token} {rest : List Token} {frames : List Frame} {ks : List Token.Kind}

theorem fits_value (frames : List Frame) : Due.value.Fits frames := trivial

def Progress.Takes (t : Token) (before : List Token.Kind) : Progress → Prop
  | .more due frames => due.Fits frames ∧ t.kind.Sound ∧ openKinds frames ++ due.kinds = before ++ [t.kind]
  | .done document => document.root.skip ≠ .ok ()

theorem takes_halt {container : Except Cut Nat → Node} {cut : Cut} (unfinished : (container (.error cut)).skip ≠ .ok ()) :
    (haltInside container cut frames).Takes t ks :=
  skip_unwind unfinished cut frames

theorem takes_haltAtValue (start : Nat) (cut : Cut) : (haltAtValue start cut frames).Takes t ks :=
  skip_unwind (skip_broken start cut) cut frames

theorem takes_complete {node : Node} (sound : t.kind.Sound) (kinds : openKinds frames ++ node.kinds = ks ++ [t.kind]) :
    (complete node frames).Takes t ks := by
  unfold complete
  cases frames with
  | nil => exact ⟨rfl, sound, kinds⟩
  | cons frame frames =>
    cases frame with
    | array start items =>
      refine ⟨List.cons_ne_nil _ _, sound, ?_⟩
      rw [← kinds, Due.kinds, openKinds, List.reverse_cons, itemKinds_reverse, List.append_assoc]
      rfl
    | object start members key =>
      refine ⟨List.cons_ne_nil _ _, sound, ?_⟩
      rw [← kinds, Due.kinds, openKinds, List.reverse_cons, memberKinds_reverse, List.append_assoc]
      simp [memberKinds]

theorem takes_readValue (kinds : openKinds frames = ks) : (readValue t frames).Takes t ks := by
  subst kinds
  unfold readValue
  split
  · rename_i kind
    exact takes_complete (by rw [kind]; trivial) (by rw [kind]; rfl)
  · rename_i kind
    exact takes_complete (by rw [kind]; trivial) (by rw [kind]; rfl)
  · rename_i kind
    exact takes_complete (by rw [kind]; trivial) (by rw [kind]; rfl)
  · rename_i kind
    exact takes_complete (by rw [kind]; trivial) (by rw [kind]; rfl)
  · rename_i kind
    exact ⟨trivial, by rw [kind]; trivial, by rw [kind]; rfl⟩
  · rename_i kind
    exact ⟨trivial, by rw [kind]; trivial, by rw [kind]; rfl⟩
  · exact takes_haltAtValue _ _
  · exact takes_haltAtValue _ _
  · exact takes_haltAtValue _ _

theorem takes_readKey {start before : Nat} {members : List (Key × Node)} {atEnd : Complaint} {named : Option Fault}
    (kinds : openKinds frames ++ .openBrace :: startedMembers members = ks) :
    (readKey t rest start members before atEnd named frames).Takes t ks := by
  subst kinds
  unfold readKey
  split
  · rename_i kind
    refine ⟨trivial, by rw [kind]; trivial, ?_⟩
    rw [kind, Due.kinds, List.append_assoc]
    rfl
  · exact takes_halt (skip_object_cut _ _ _)
  · exact takes_halt (skip_object_cut _ _ _)
  · exact takes_halt (skip_object_cut _ _ _)

theorem takes_readToken {due : Due} (fits : due.Fits frames) (open_ : ∀ root, due ≠ .nothing root) :
    (readToken t rest due frames).Takes t (openKinds frames ++ due.kinds) := by
  cases due with
  | value => exact takes_readValue (List.append_nil _).symm
  | firstItem start =>
    rw [readToken]
    split
    · rename_i kind
      exact takes_complete (by rw [kind]; trivial) (by rw [kind, List.append_assoc]; rfl)
    · exact takes_halt (skip_array_cut _ _ _)
    · exact takes_readValue rfl
  | item start items =>
    rw [readToken]
    split
    · exact takes_halt (skip_array_cut _ _ _)
    · exact takes_halt (skip_array_cut _ _ _)
    · exact takes_readValue rfl
  | firstKey start =>
    rw [readToken]
    split
    · rename_i kind
      exact takes_complete (by rw [kind]; trivial) (by rw [kind, List.append_assoc]; rfl)
    · exact takes_readKey rfl
  | key start members comma =>
    rw [readToken]
    split
    · exact takes_halt (skip_object_cut _ _ _)
    · exact takes_readKey rfl
  | colon start members due =>
    rw [readToken]
    split
    · rename_i kind
      refine ⟨trivial, by rw [kind]; trivial, ?_⟩
      rw [kind, openKinds, Due.kinds, Due.kinds]
      simp
    · exact takes_haltAtValue _ _
  | afterItem start items =>
    obtain ⟨node, before, rfl⟩ := List.exists_cons_of_ne_nil fits
    rw [readToken]
    split
    · rename_i kind
      refine ⟨trivial, by rw [kind]; trivial, ?_⟩
      rw [kind, Due.kinds, Due.kinds, List.reverse_cons, itemKinds_reverse, startedItems, itemKinds]
      simp
    · rename_i kind
      refine takes_complete (by rw [kind]; trivial) ?_
      rw [kind, Node.kinds, Due.kinds, List.append_assoc, List.cons_append]
    · exact takes_halt (skip_array_cut _ _ _)
  | afterMember start members =>
    obtain ⟨⟨key, node⟩, before, rfl⟩ := List.exists_cons_of_ne_nil fits
    rw [readToken]
    split
    · rename_i kind
      refine ⟨trivial, by rw [kind]; trivial, ?_⟩
      rw [kind, Due.kinds, Due.kinds, List.reverse_cons, memberKinds_reverse, startedMembers, memberKinds]
      simp
    · rename_i kind
      refine takes_complete (by rw [kind]; trivial) ?_
      rw [kind, Node.kinds, Due.kinds, List.append_assoc, List.cons_append]
    · exact takes_halt (skip_object_cut _ _ _)
    · exact takes_halt (skip_object_cut _ _ _)
  | nothing root => exact absurd rfl (open_ root)

theorem readTokens_nothing {found root : Node}
    (read : readTokens (t :: rest) (.nothing found) frames = ⟨root, none⟩) : t.kind = .finish ∧ found = root := by
  by_cases ended : t.kind = .finish
  · rw [readTokens, readToken, ended] at read
    exact ⟨ended, congrArg Document.root read⟩
  · have surplus : readToken t rest (.nothing found) frames =
        .done ⟨found, some ⟨.trailingCharacters, t.peeked⟩⟩ := by
      rw [readToken]
      split
      · rename_i kind
        exact absurd kind ended
      · rfl
    rw [readTokens, surplus] at read
    cases read

/-- The tokens of a document that is not cut are those of its value, up to the end of the text. -/
theorem readTokens_kinds {ts : List Token} {due : Due} {root : Node} (fits : due.Fits frames)
    (read : readTokens ts due frames = ⟨root, none⟩) (whole : root.skip = .ok ()) :
    ∃ ks after, ts.map (·.kind) = ks ++ .finish :: after ∧ (∀ k ∈ ks, k.Sound) ∧
      openKinds frames ++ due.kinds ++ ks = root.kinds := by
  induction ts generalizing due frames with
  | nil =>
    obtain rfl : unwind (.broken 0 (.all .endInValue 0)) (.all .endInValue 0) frames = root :=
      congrArg Document.root read
    exact absurd whole (skip_unwind (skip_broken _ _) _ _)
  | cons t ts ih =>
    by_cases ended : ∃ found, due = .nothing found
    · obtain ⟨found, rfl⟩ := ended
      obtain rfl := fits
      obtain ⟨last, rfl⟩ := readTokens_nothing read
      refine ⟨[], ts.map (·.kind), by rw [List.map_cons, last]; rfl, ?_, List.append_nil _⟩
      exact fun k member => nomatch member
    · have takes : (readToken t ts due frames).Takes t _ := takes_readToken fits fun found same => ended ⟨found, same⟩
      rw [readTokens] at read
      cases step : readToken t ts due frames with
      | more due' frames' =>
        rw [step] at read takes
        obtain ⟨fits', sound, kinds⟩ := takes
        obtain ⟨ks, after, later, sounds, whole⟩ := ih fits' read
        refine ⟨t.kind :: ks, after, ?_, ?_, ?_⟩
        · rw [List.map_cons, later, List.cons_append]
        · exact List.forall_mem_cons.mpr ⟨sound, sounds⟩
        · rw [← whole, kinds, List.append_assoc _ [t.kind]]
          rfl
      | done document =>
        rw [step] at read takes
        obtain rfl : document = ⟨root, none⟩ := read
        exact absurd whole takes

/-! ### Trees -/

mutual

/-- The value in a text and the tree that the text writes are the same. -/
inductive Node.Depicts : Node → Tree → Prop where
  | null {start stop : Nat} : Node.Depicts (.null start stop) .null
  | bool {b : Bool} {start stop : Nat} : Node.Depicts (.bool b start stop) (.bool b)
  | number {n : Decimal.Numeral} {beyond start stop : Nat} {cs : List Char} :
      Node.Depicts (.number n beyond start stop) (.number cs)
  | string {content : Except Fault String} {start stop : Nat} {body : List Char} :
      (∀ text, content = .ok text → Denotes body text.toList) →
      Node.Depicts (.string content start stop) (.string body)
  | array {start : Nat} {nodes : List Node} {ending : Except Cut Nat} {items : List Tree} :
      ItemsDepict nodes items → Node.Depicts (.array start nodes ending) (.array items)
  | object {start : Nat} {nodes : List (Key × Node)} {ending : Except Cut Nat} {members : List (List Char × Tree)} :
      MembersDepict nodes members → Node.Depicts (.object start nodes ending) (.object members)

inductive ItemsDepict : List Node → List Tree → Prop where
  | nil : ItemsDepict [] []
  | cons {node : Node} {item : Tree} {nodes : List Node} {items : List Tree} :
      Node.Depicts node item → ItemsDepict nodes items → ItemsDepict (node :: nodes) (item :: items)

inductive MembersDepict : List (Key × Node) → List (List Char × Tree) → Prop where
  | nil : MembersDepict [] []
  | cons {key : Key} {node : Node} {name : List Char} {item : Tree} {nodes : List (Key × Node)}
      {members : List (List Char × Tree)} :
      (∀ text, key.name = .ok text → Denotes name text.toList) → Node.Depicts node item →
      MembersDepict nodes members → MembersDepict ((key, node) :: nodes) ((name, item) :: members)

end

theorem MembersDepict.mem {nodes : List (Key × Node)} {members : List (List Char × Tree)}
    (depict : MembersDepict nodes members) {key : Key} {node : Node} (member : (key, node) ∈ nodes) {text : String}
    (named : key.name = .ok text) :
    ∃ name item, (name, item) ∈ members ∧ Denotes name text.toList ∧ node.Depicts item := by
  induction nodes generalizing members with
  | nil => cases member
  | cons first nodes ih =>
    cases depict with
    | cons names here later =>
      rcases List.mem_cons.mp member with same | member
      · cases same
        exact ⟨_, _, List.mem_cons_self, names text named, here⟩
      · obtain ⟨name, item, found, facts⟩ := ih later member
        exact ⟨name, item, List.mem_cons_of_mem _ found, facts⟩

/-! ### From lexemes to trees -/

section Lexemes

open Token.Kind (Lexeme)

theorem lexemes_cons {k : Token.Kind} {ks : List Token.Kind} {ls : List (List Char)}
    (lexemes : List.Forall₂ Lexeme (k :: ks) ls) : ∃ l rest, ls = l :: rest ∧ k.Lexeme l ∧ List.Forall₂ Lexeme ks rest := by
  cases lexemes with
  | cons here later => exact ⟨_, _, rfl, here, later⟩

theorem lexemes_append {ks ks' : List Token.Kind} {ls : List (List Char)}
    (lexemes : List.Forall₂ Lexeme (ks ++ ks') ls) :
    ∃ before after, ls = before ++ after ∧ List.Forall₂ Lexeme ks before ∧ List.Forall₂ Lexeme ks' after := by
  have before := List.forall₂_take ks.length lexemes
  have after := List.forall₂_drop ks.length lexemes
  rw [List.take_left] at before
  rw [List.drop_left] at after
  exact ⟨_, _, (List.take_append_drop _ _).symm, before, after⟩

theorem lexemes_singleton {k : Token.Kind} {ls : List (List Char)} (lexemes : List.Forall₂ Lexeme [k] ls) :
    ∃ l, ls = [l] ∧ k.Lexeme l := by
  obtain ⟨l, rest, rfl, lexeme, none⟩ := lexemes_cons lexemes
  cases none
  exact ⟨l, rfl, lexeme⟩

theorem lexemes_closed {k : Token.Kind} {ks : List Token.Kind} {ls : List (List Char)}
    (lexemes : List.Forall₂ Lexeme (ks ++ [k]) ls) :
    ∃ before l, ls = before ++ [l] ∧ List.Forall₂ Lexeme ks before ∧ k.Lexeme l := by
  obtain ⟨before, after, rfl, inner, closing⟩ := lexemes_append lexemes
  obtain ⟨l, rfl, lexeme⟩ := lexemes_singleton closing
  exact ⟨before, l, rfl, inner, lexeme⟩

mutual

theorem Node.lexed : ∀ (node : Node) {ls : List (List Char)}, node.skip = .ok () →
    List.Forall₂ Lexeme node.kinds ls → ∃ t : Tree, t.Lexed ls ∧ node.Depicts t
  | .null _ _, _, _, lexemes => by
    obtain ⟨_, rfl, lexeme⟩ := lexemes_singleton lexemes
    cases lexeme
    exact ⟨.null, .null, .null⟩
  | .bool b _ _, _, _, lexemes => by
    obtain ⟨_, rfl, lexeme⟩ := lexemes_singleton lexemes
    cases lexeme with
    | true => exact ⟨.bool true, .true, .bool⟩
    | false => exact ⟨.bool false, .false, .bool⟩
  | .number _ _ _ _, _, _, lexemes => by
    obtain ⟨_, rfl, lexeme⟩ := lexemes_singleton lexemes
    cases lexeme with
    | number good => exact ⟨.number _, .number good, .number⟩
  | .string _ _ _, _, _, lexemes => by
    obtain ⟨_, rfl, lexeme⟩ := lexemes_singleton lexemes
    cases lexeme with
    | string good denotes => exact ⟨.string _, .string good, .string denotes⟩
  | .array _ nodes _, _, whole, lexemes => by
    obtain ⟨_, passed, _⟩ := bind_ok whole
    obtain ⟨_, _, rfl, opening, behind⟩ := lexemes_cons lexemes
    obtain ⟨ls, _, rfl, inner, closing⟩ := lexemes_closed behind
    cases opening
    cases closing
    obtain ⟨items, lexed, depict⟩ := itemsLexed nodes passed inner
    exact ⟨.array items, .array lexed, .array depict⟩
  | .object _ nodes _, _, whole, lexemes => by
    obtain ⟨_, passed, _⟩ := bind_ok whole
    obtain ⟨_, _, rfl, opening, behind⟩ := lexemes_cons lexemes
    obtain ⟨ls, _, rfl, inner, closing⟩ := lexemes_closed behind
    cases opening
    cases closing
    obtain ⟨members, lexed, depict⟩ := membersLexed nodes passed inner
    exact ⟨.object members, .object lexed, .object depict⟩
  | .broken start cut, _, whole, _ => absurd whole (skip_broken start cut)

theorem itemsLexed : ∀ (nodes : List Node) {ls : List (List Char)}, Node.skipItems nodes = .ok () →
    List.Forall₂ Lexeme (itemKinds nodes) ls → ∃ items, ItemsLexed items ls ∧ ItemsDepict nodes items
  | [], _, _, lexemes => by
    cases lexemes
    exact ⟨[], .none, .nil⟩
  | [node], _, whole, lexemes => by
    obtain ⟨_, passed, _⟩ := bind_ok whole
    obtain ⟨t, lexed, depicts⟩ := node.lexed passed lexemes
    exact ⟨[t], .last lexed, .cons depicts .nil⟩
  | node :: next :: rest, _, whole, lexemes => by
    obtain ⟨_, passed, others⟩ := bind_ok whole
    obtain ⟨ls, _, rfl, here, behind⟩ := lexemes_append lexemes
    obtain ⟨_, ls', rfl, mark, later⟩ := lexemes_cons behind
    cases mark
    obtain ⟨t, lexed, depicts⟩ := node.lexed passed here
    obtain ⟨items, lexed', depict⟩ := itemsLexed (next :: rest) others later
    cases depict with
    | cons depicts' depict => exact ⟨_, .more lexed lexed', .cons depicts (.cons depicts' depict)⟩

theorem membersLexed : ∀ (nodes : List (Key × Node)) {ls : List (List Char)}, Node.skipMembers nodes = .ok () →
    List.Forall₂ Lexeme (memberKinds nodes) ls → ∃ members, MembersLexed members ls ∧ MembersDepict nodes members
  | [], _, _, lexemes => by
    cases lexemes
    exact ⟨[], .none, .nil⟩
  | [(key, node)], _, whole, lexemes => by
    obtain ⟨_, passed, _⟩ := bind_ok whole
    obtain ⟨_, _, rfl, name, behind⟩ := lexemes_cons lexemes
    obtain ⟨_, ls, rfl, mark, here⟩ := lexemes_cons behind
    cases name with | string good denotes =>
    cases mark
    obtain ⟨t, lexed, depicts⟩ := node.lexed passed here
    exact ⟨[(_, t)], .last good lexed, .cons denotes depicts .nil⟩
  | (key, node) :: next :: rest, _, whole, lexemes => by
    obtain ⟨_, passed, others⟩ := bind_ok whole
    obtain ⟨_, _, rfl, name, behind⟩ := lexemes_cons lexemes
    obtain ⟨_, _, rfl, mark, behind⟩ := lexemes_cons behind
    obtain ⟨ls, _, rfl, here, behind⟩ := lexemes_append behind
    obtain ⟨_, ls', rfl, mark', later⟩ := lexemes_cons behind
    cases name with | string good denotes =>
    cases mark
    cases mark'
    obtain ⟨t, lexed, depicts⟩ := node.lexed passed here
    obtain ⟨members, lexed', depict⟩ := membersLexed (next :: rest) others later
    cases depict with
    | cons denotes' depicts' depict =>
      exact ⟨_, .more good lexed lexed', .cons denotes depicts (.cons denotes' depicts' depict)⟩

end

end Lexemes

/-- A document that is not cut and that nothing follows is a value that the text writes. -/
theorem Document.written {cs : List Char} {root : Node} (read : Document.ofChars cs = ⟨root, none⟩)
    (whole : root.skip = .ok ()) : ∃ t : Tree, t.Written cs ∧ root.Depicts t := by
  obtain ⟨ks, after, kinds, sound, shape⟩ := readTokens_kinds (fits_value []) read whole
  obtain ⟨ls, lexemes, spaced⟩ := tokensFrom_lexemes kinds sound
  obtain ⟨t, lexed, depicts⟩ := root.lexed whole (by rw [← shape]; exact lexemes)
  exact ⟨t, ⟨ls, lexed, spaced⟩, depicts⟩

end PolicyLint.Json
