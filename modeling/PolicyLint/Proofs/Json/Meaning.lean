import PolicyLint.Proofs.Json.Decoding
import PolicyLint.Proofs.Json.Grammar

/-!
# What written values mean

`t.Means j` says that the numbers and strings of a tree are those of a value. A text can write one value in many ways:
with blanks between the lexemes, and with the characters of a string plain or spelled. However it is written, it is
read as that value.
-/

namespace PolicyLint.Json

open Decimal (Numeral)

mutual

inductive Tree.Means : Tree → Json → Prop where
  | null : Tree.Means .null .null
  | bool {b : Bool} : Tree.Means (.bool b) (.bool b)
  | number {n : Numeral} : n.Proper → Tree.Means (.number n.chars) (.number n)
  | string {body : List Char} {s : String} : Json.Denotes body s.toList → Tree.Means (.string body) (.string s)
  | array {items : List Tree} {js : List Json} : ItemsMean items js → Tree.Means (.array items) (.array js)
  | object {members : List (List Char × Tree)} {ms : List (String × Json)} :
      MembersMean members ms → Tree.Means (.object members) (.object ms)

inductive ItemsMean : List Tree → List Json → Prop where
  | nil : ItemsMean [] []
  | cons {t : Tree} {j : Json} {items : List Tree} {js : List Json} :
      Tree.Means t j → ItemsMean items js → ItemsMean (t :: items) (j :: js)

inductive MembersMean : List (List Char × Tree) → List (String × Json) → Prop where
  | nil : MembersMean [] []
  | cons {name : List Char} {k : String} {t : Tree} {j : Json} {members : List (List Char × Tree)}
      {ms : List (String × Json)} :
      Denotes name k.toList → Tree.Means t j → MembersMean members ms → MembersMean ((name, t) :: members) ((k, j) :: ms)

end

/-- The text is this value and nothing more. -/
def WrittenAs (j : Json) (cs : List Char) : Prop := ∃ t : Tree, t.Written cs ∧ t.Means j

/-! ### Tokens -/

variable {cs : List Char} {ks : List Token.Kind}

theorem Spells.blanks_before (spells : Spells cs ks) {bs : List Char} (blank : ∀ c ∈ bs, isSpace c = true) :
    Spells (bs ++ cs) ks := by
  induction bs with
  | nil => exact spells
  | cons b bs ih =>
    obtain ⟨space, later⟩ := List.forall_mem_cons.mp blank
    exact (ih later).space space

theorem spells_blanks {bs : List Char} (blank : ∀ c ∈ bs, isSpace c = true) : Spells bs [] := by
  simpa using spells_nil.blanks_before blank

theorem inNumber_of_isSpace {c : Char} (space : isSpace c = true) : inNumber c = false := by
  simp only [isSpace, Bool.or_eq_true, decide_eq_true_eq] at space
  rcases space with ((rfl | rfl) | rfl) | rfl <;> decide

theorem Spells.blanks_behind (spells : Spells cs ks) {bs : List Char} (blank : ∀ c ∈ bs, isSpace c = true) :
    Spells (cs ++ bs) ks := by
  cases bs with
  | nil => rwa [List.append_nil]
  | cons b bs =>
    have space := blank b List.mem_cons_self
    simpa using spells.append (inNumber_of_isSpace space) (spells_blanks blank)

/-! ### Values -/

theorem spells_single {l : List Char} (spells : Spells l ks) (spaced : Spaced [l] cs) : Spells cs ks := by
  obtain ⟨bs, rest, rfl, blank, later⟩ := spaced.uncons
  exact (spells.blanks_behind later.blanks).blanks_before blank

theorem inNumber_of_punctuation {c : Char} {kind : Token.Kind} (mark : punctuation? c = some kind) : inNumber c = false := by
  unfold punctuation? at mark
  split at mark <;> first | decide | cases mark

theorem spells_separated {ls ls' : List (List Char)} {c : Char} {kind : Token.Kind} {ks' : List Token.Kind}
    (mark : punctuation? c = some kind) (before : ∀ cs, Spaced ls cs → Spells cs ks)
    (behind : ∀ cs, Spaced ls' cs → Spells cs ks') (spaced : Spaced (ls ++ [c] :: ls') cs) :
    Spells cs (ks ++ kind :: ks') := by
  obtain ⟨first, second, rfl, here, later⟩ := spaced.at_mark
  exact (before first here).append (inNumber_of_punctuation mark) ((behind second later).punctuation mark)

theorem spells_enclosed {ls : List (List Char)} {o c : Char} {opening closing : Token.Kind}
    (opens : punctuation? o = some opening) (closes : punctuation? c = some closing)
    (inner : ∀ cs, Spaced ls cs → Spells cs ks) (spaced : Spaced ([o] :: (ls ++ [[c]])) cs) :
    Spells cs (opening :: ks ++ [closing]) := by
  obtain ⟨before, within, behind, rfl, blank, here, blank'⟩ := spaced.enclosed
  have content := (inner within here).append (inNumber_of_punctuation closes) (spells_closing closes)
  exact ((content.punctuation opens).blanks_before blank).blanks_behind blank'

/-- The name of a member and its colon before the value. -/
theorem spells_member {name : List Char} {k : String} {ls : List (List Char)} (denotes : Denotes name k.toList)
    (value : ∀ cs, Spaced ls cs → Spells cs ks) (spaced : Spaced (quoted name :: [':'] :: ls) cs) :
    Spells cs (.string (.ok k) :: .colon :: ks) := by
  obtain ⟨bs, _, rfl, blank, later⟩ := spaced.uncons
  obtain ⟨bs', rest, rfl, blank', later⟩ := later.uncons
  exact ((((value rest later).punctuation (c := ':') rfl).blanks_before blank').string denotes).blanks_before blank

mutual

theorem spells_of_means : ∀ {t : Tree} {j : Json} {ls : List (List Char)}, t.Means j → t.Lexed ls →
    ∀ cs, Spaced ls cs → Spells cs j.kinds
  | _, _, _, .null, .null, _, spaced => spells_single (spells_word rfl) spaced
  | _, _, _, .bool, .true, _, spaced => spells_single (spells_word rfl) spaced
  | _, _, _, .bool, .false, _, spaced => spells_single (spells_word rfl) spaced
  | _, _, _, .number proper, .number _, _, spaced => spells_single (spells_number proper) spaced
  | _, .string s, _, .string denotes, .string _, _, spaced => by
    have spells := spells_nil.string denotes
    rw [List.append_nil] at spells
    exact spells_single spells spaced
  | _, _, _, .array mean, .array lexed, _, spaced => spells_enclosed rfl rfl (spells_of_itemsMean mean lexed) spaced
  | _, _, _, .object mean, .object lexed, _, spaced => spells_enclosed rfl rfl (spells_of_membersMean mean lexed) spaced

theorem spells_of_itemsMean : ∀ {items : List Tree} {js : List Json} {ls : List (List Char)}, ItemsMean items js →
    ItemsLexed items ls → ∀ cs, Spaced ls cs → Spells cs (kindsOfItems js)
  | _, _, _, .nil, .none, _, spaced => spells_blanks spaced.blanks
  | _, _, _, .cons means .nil, .last lexed, _, spaced => spells_of_means means lexed _ spaced
  | _, _, _, .cons means (.cons means' mean), .more lexed later, _, spaced =>
    spells_separated rfl (spells_of_means means lexed) (spells_of_itemsMean (.cons means' mean) later) spaced

theorem spells_of_membersMean : ∀ {members : List (List Char × Tree)} {ms : List (String × Json)}
    {ls : List (List Char)}, MembersMean members ms → MembersLexed members ls → ∀ cs, Spaced ls cs →
    Spells cs (kindsOfMembers ms)
  | _, _, _, .nil, .none, _, spaced => spells_blanks spaced.blanks
  | _, _, _, .cons denotes means .nil, .last _ lexed, _, spaced =>
    spells_member denotes (spells_of_means means lexed) spaced
  | _, _, _, .cons denotes means (.cons denotes' means' mean), .more _ lexed later, _, spaced =>
    spells_member denotes
      (fun _ => spells_separated rfl (spells_of_means means lexed)
        (spells_of_membersMean (.cons denotes' means' mean) later)) spaced

end

theorem spells_of_writtenAs {j : Json} (written : WrittenAs j cs) : Spells cs j.kinds := by
  obtain ⟨t, ⟨ls, lexed, spaced⟩, means⟩ := written
  exact spells_of_means means lexed cs spaced

/-- A decoder that reads a value makes the same of every text of it. -/
theorem Decoder.ofChars_of_writtenAs {α : Type} {d : Decoder α} {j : Json} {a : α} (reads : d.Reads j a)
    (written : WrittenAs j cs) : d.ofChars cs = .ok a := by
  obtain ⟨value, whole⟩ := root_of_spells (spells_of_writtenAs written)
  rw [ofChars]
  simp only [reads .text _ (Or.inl value), whole, bind, Except.bind]

/-! ### Printed values -/

theorem numeric_chars {n : Numeral} (proper : n.Proper) : Numeric n.chars := by
  have fraction : Fraction (fractionChars n.fraction) := by
    unfold fractionChars
    split
    · exact .none
    · rename_i some
      exact .some ⟨by simpa using some, proper.fraction⟩
  have exponent : Exponent (exponentChars n.exponent) := by
    cases shape : n.exponent with
    | none => exact .none
    | some e =>
      obtain ⟨some, digits⟩ := proper.exponent e.1 e.2 shape
      refine .signed (.inl rfl) ?_ ⟨some, digits⟩
      split
      · exact .inr rfl
      · exact .inl rfl
  have unsigned : Unsigned (n.whole ++ (fractionChars n.fraction ++ exponentChars n.exponent)) :=
    .parts proper.whole fraction exponent
  rw [Numeral.chars_eq]
  split
  · exact .negative unsigned
  · exact .positive unsigned

/-- The texts of these lexemes, one directly behind the other. -/
theorem spaced_flatten (ls : List (List Char)) : Spaced ls ls.flatten := by
  induction ls with
  | nil => exact .nil
  | cons l ls ih => exact .lexeme ih

mutual

theorem lexed_compact : ∀ j : Json, j.Proper → ∃ (t : Tree) (ls : List (List Char)), t.Lexed ls ∧ t.Means j ∧
    ls.flatten = j.compact
  | .null, _ => ⟨.null, _, .null, .null, rfl⟩
  | .bool true, _ => ⟨.bool true, _, .true, .bool, rfl⟩
  | .bool false, _ => ⟨.bool false, _, .false, .bool, rfl⟩
  | .number _, proper => ⟨.number _, _, .number (numeric_chars proper), .number proper, List.append_nil _⟩
  | .string s, _ =>
    have denotes := denotes_escaped s.toList
    ⟨.string _, _, .string (body_of_denotes denotes), .string denotes, by simp [compact, quoted_escaped]⟩
  | .array items, proper => by
    obtain ⟨ts, ls, lexed, mean, text⟩ := lexed_compactItems items proper
    exact ⟨.array ts, _, .array lexed, .array mean, by simp [compact, text]⟩
  | .object members, proper => by
    obtain ⟨ts, ls, lexed, mean, text⟩ := lexed_compactMembers members proper
    exact ⟨.object ts, _, .object lexed, .object mean, by simp [compact, text]⟩

theorem lexed_compactItems : ∀ items : List Json, ProperItems items → ∃ (ts : List Tree) (ls : List (List Char)),
    ItemsLexed ts ls ∧ ItemsMean ts items ∧ ls.flatten = compactItems items
  | [], _ => ⟨[], [], .none, .nil, rfl⟩
  | [j], proper => by
    obtain ⟨t, ls, lexed, means, text⟩ := lexed_compact j proper.1
    exact ⟨[t], ls, .last lexed, .cons means .nil, text⟩
  | j :: next :: rest, proper => by
    obtain ⟨t, ls, lexed, means, text⟩ := lexed_compact j proper.1
    obtain ⟨ts, ls', lexed', mean, text'⟩ := lexed_compactItems (next :: rest) proper.2
    cases mean with
    | cons means' mean =>
      exact ⟨_, _, .more lexed lexed', .cons means (.cons means' mean), by simp [compactItems, text, text']⟩

theorem lexed_compactMembers : ∀ members : List (String × Json), ProperMembers members →
    ∃ (ts : List (List Char × Tree)) (ls : List (List Char)), MembersLexed ts ls ∧ MembersMean ts members ∧
      ls.flatten = compactMembers members
  | [], _ => ⟨[], [], .none, .nil, rfl⟩
  | [(k, j)], proper => by
    obtain ⟨t, ls, lexed, means, text⟩ := lexed_compact j proper.1
    have denotes := denotes_escaped k.toList
    exact ⟨_, _, .last (body_of_denotes denotes) lexed, .cons denotes means .nil,
      by simp [compactMembers, quoted_escaped, text]⟩
  | (k, j) :: next :: rest, proper => by
    obtain ⟨t, ls, lexed, means, text⟩ := lexed_compact j proper.1
    obtain ⟨ts, ls', lexed', mean, text'⟩ := lexed_compactMembers (next :: rest) proper.2
    have denotes := denotes_escaped k.toList
    cases mean with
    | cons denotes' means' mean =>
      exact ⟨_, _, .more (body_of_denotes denotes) lexed lexed', .cons denotes means (.cons denotes' means' mean),
        by simp [compactMembers, quoted_escaped, text, text']⟩

end

theorem writtenAs_compact {j : Json} (proper : j.Proper) : WrittenAs j j.compact := by
  obtain ⟨t, ls, lexed, means, text⟩ := lexed_compact j proper
  exact ⟨t, ⟨ls, lexed, text ▸ spaced_flatten ls⟩, means⟩

end PolicyLint.Json
