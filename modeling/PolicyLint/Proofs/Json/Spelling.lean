import PolicyLint.Json.Basic
import PolicyLint.Proofs.Json.Scan

/-!
# The tokens of written values

`Spells cs ks` says that a text has tokens of certain kinds, whatever follows it. A value has the same kinds
of tokens, in `Json.kinds`, whether it is written without blanks or on several lines.
-/

namespace PolicyLint.Json

open Decimal (Numeral)

/-- The kind without the offset that a number carries. -/
def Token.Kind.plain : Token.Kind → Token.Kind
  | .number n _ => .number n 0
  | kind => kind

/-- The kinds of the tokens of some characters, before a text in which no number goes on. -/
def Spells (cs : List Char) (ks : List Token.Kind) : Prop :=
  ∀ rest p, EndsNumber rest →
    ∃ ts q, tokensFrom (cs ++ rest) p = ts ++ tokensFrom rest q ∧ ts.map (·.kind.plain) = ks

variable {cs cs' : List Char} {ks ks' : List Token.Kind}

theorem spells_nil : Spells [] [] := fun _ p _ => ⟨[], p, rfl, rfl⟩

theorem endsNumber_cons {c : Char} (apart : inNumber c = false) (rest : List Char) : EndsNumber (c :: rest) := by
  intro d first
  obtain rfl := Option.mem_some_iff.mp first
  exact apart

theorem Spells.append {c : Char} (spells : Spells cs ks) (apart : inNumber c = false)
    (spells' : Spells (c :: cs') ks') : Spells (cs ++ c :: cs') (ks ++ ks') := by
  intro rest p ends
  obtain ⟨ts, q, split, kinds⟩ := spells (c :: cs' ++ rest) p (endsNumber_cons apart _)
  obtain ⟨ts', q', split', kinds'⟩ := spells' rest q ends
  refine ⟨ts ++ ts', q', ?_, ?_⟩
  · rw [List.append_assoc, split, split', List.append_assoc]
  · rw [List.map_append, kinds, kinds']

/-! ### Single tokens -/

theorem tokensFrom_space {c : Char} (space : isSpace c = true) (rest : List Char) (p : Nat) :
    tokensFrom (c :: rest) p = tokensFrom rest (p + 1) := by
  rw [tokensFrom, if_pos space]

theorem tokensFrom_token {c : Char} {rest : List Char} {p n : Nat} {t : Token} (visible : isSpace c = false)
    (scan : scanToken c rest p = (t, n)) (sound : t.isBroken = false) :
    tokensFrom (c :: rest) p = t :: tokensFrom (rest.drop n) t.stop := by
  rw [tokensFrom, if_neg (by simp [visible])]
  simp only [scan, sound, Bool.false_eq_true, if_false]

theorem Spells.space (spells : Spells cs ks) {c : Char} (space : isSpace c = true) : Spells (c :: cs) ks := by
  intro rest p ends
  rw [List.cons_append, tokensFrom_space space]
  exact spells rest (p + 1) ends

theorem Spells.punctuation (spells : Spells cs ks) {c : Char} {kind : Token.Kind} (mark : punctuation? c = some kind) :
    Spells (c :: cs) (kind :: ks) := by
  have facts : isSpace c = false ∧ kind.plain = kind ∧ ∀ p q, (Token.mk kind p q).isBroken = false := by
    unfold punctuation? at mark
    split at mark <;> cases mark <;> exact ⟨by decide, rfl, fun _ _ => rfl⟩
  obtain ⟨visible, plain, sound⟩ := facts
  intro rest p ends
  have scan : scanToken c (cs ++ rest) p = (⟨kind, p, p + 1⟩, 0) := by
    rw [scanToken, mark]
  obtain ⟨ts, q, split, kinds⟩ := spells rest (p + 1) ends
  refine ⟨⟨kind, p, p + 1⟩ :: ts, q, ?_, ?_⟩
  · rw [List.cons_append, tokensFrom_token visible scan (sound _ _), List.drop_zero, split, List.cons_append]
  · rw [List.map_cons, kinds, plain]

theorem Spells.string (spells : Spells cs ks) {body : List Char} {s : String} (denotes : Denotes body s.toList) :
    Spells (quoted body ++ cs) (.string (.ok s) :: ks) := by
  intro rest p ends
  have text : quoted body ++ cs ++ rest = '"' :: (body ++ '"' :: (cs ++ rest)) := by simp [quoted]
  obtain ⟨q, scan⟩ : ∃ q, scanToken '"' (body ++ '"' :: (cs ++ rest)) p = (⟨.string (.ok s), p, q⟩, body.length + 1) := by
    rw [scanToken]
    simp only [punctuation?, word?, if_true, scanString_denotes denotes, Except.map, String.ofList_toList]
    exact ⟨_, rfl⟩
  have left : (body ++ '"' :: (cs ++ rest)).drop (body.length + 1) = cs ++ rest := by
    rw [← List.drop_drop, List.drop_left, List.drop_one, List.tail_cons]
  obtain ⟨ts, q', split, kinds⟩ := spells rest q ends
  refine ⟨⟨.string (.ok s), p, q⟩ :: ts, q', ?_, ?_⟩
  · rw [text, tokensFrom_token (by decide) scan rfl, left, split, List.cons_append]
  · rw [List.map_cons, kinds]
    rfl

theorem Spells.quote (spells : Spells cs ks) (s : String) : Spells (Json.quote s ++ cs) (.string (.ok s) :: ks) := by
  rw [← quoted_escaped]
  exact spells.string (denotes_escaped s.toList)

theorem numberStart {c : Char} (first : c = '-' ∨ c.isDigit = true) :
    isSpace c = false ∧ punctuation? c = none ∧ word? c = none ∧ c ≠ '"' ∧ (c = '-' || c.isDigit) = true := by
  have other : ∀ d, (d = '-' || d.isDigit) = false → c ≠ d := by
    rintro d none rfl
    rcases first with rfl | digit
    · exact absurd none (by decide)
    · simp [digit] at none
  refine ⟨?_, ?_, ?_, other '"' (by decide), ?_⟩
  · simp [isSpace, other ' ' (by decide), other '\t' (by decide), other '\n' (by decide), other '\r' (by decide)]
  · unfold punctuation?
    split <;> first | rfl | exact absurd rfl (other _ (by decide))
  · unfold word?
    split <;> first | rfl | exact absurd rfl (other _ (by decide))
  · rcases first with rfl | digit
    · rfl
    · simp [digit]

theorem spells_number {n : Numeral} (proper : n.Proper) : Spells n.chars [.number n 0] := by
  obtain ⟨c, cs, text, first⟩ : ∃ c cs, n.chars = c :: cs ∧ (c = '-' ∨ c.isDigit = true) := by
    rw [Numeral.chars_eq]
    obtain ⟨d, ds, whole⟩ := List.exists_cons_of_ne_nil proper.whole.some
    cases n.negative with
    | true => exact ⟨'-', _, rfl, Or.inl rfl⟩
    | false =>
      rw [whole]
      exact ⟨d, _, rfl, Or.inr (proper.whole.digits d (whole ▸ List.mem_cons_self))⟩
  obtain ⟨visible, mark, word, quote, start⟩ := numberStart first
  intro rest p ends
  obtain ⟨beyond, number⟩ := scanNumber_chars proper ends p
  rw [text, List.cons_append] at number
  have scan : scanToken c (cs ++ rest) p = (⟨.number n beyond, p, p + (c :: cs).length⟩, cs.length) := by
    rw [scanToken, mark, word]
    simp only [quote, if_false, start, if_true, number]
    rfl
  refine ⟨[⟨.number n beyond, p, p + (c :: cs).length⟩], p + (c :: cs).length, ?_, rfl⟩
  rw [text, List.cons_append, tokensFrom_token visible scan rfl, List.drop_left]
  rfl

theorem spells_word {c : Char} {letters : List Char} {kind : Token.Kind} (word : word? c = some (letters, kind)) :
    Spells (c :: letters) [kind] := by
  have facts : isSpace c = false ∧ punctuation? c = none ∧ kind.plain = kind ∧
      (∀ p q, (Token.mk kind p q).isBroken = false) ∧
      ∀ rest p, scanWord letters (letters ++ rest) p = .ok () := by
    unfold word? at word
    split at word <;> cases word <;> exact ⟨by decide, rfl, rfl, fun _ _ => rfl, fun _ _ => rfl⟩
  obtain ⟨visible, mark, plain, sound, fits⟩ := facts
  intro rest p ends
  have scan : scanToken c (letters ++ rest) p = (⟨kind, p, p + 1 + letters.length⟩, letters.length) := by
    rw [scanToken, mark, word]
    simp only [fits]
  refine ⟨[⟨kind, p, p + 1 + letters.length⟩], p + 1 + letters.length, ?_, ?_⟩
  · rw [List.cons_append, tokensFrom_token visible scan (sound _ _), List.drop_left]
    rfl
  · rw [List.map_singleton, plain]

/-! ### Values -/

mutual

def kinds : Json → List Token.Kind
  | .null => [.null]
  | .bool b => [.bool b]
  | .number n => [.number n 0]
  | .string s => [.string (.ok s)]
  | .array items => .openBracket :: kindsOfItems items ++ [.closeBracket]
  | .object members => .openBrace :: kindsOfMembers members ++ [.closeBrace]

def kindsOfItems : List Json → List Token.Kind
  | [] => []
  | [j] => kinds j
  | j :: rest => kinds j ++ .comma :: kindsOfItems rest

def kindsOfMembers : List (String × Json) → List Token.Kind
  | [] => []
  | [(k, j)] => .string (.ok k) :: .colon :: kinds j
  | (k, j) :: rest => .string (.ok k) :: .colon :: kinds j ++ .comma :: kindsOfMembers rest

end

mutual

def Proper : Json → Prop
  | .number n => n.Proper
  | .array items => ProperItems items
  | .object members => ProperMembers members
  | _ => True

def ProperItems : List Json → Prop
  | [] => True
  | j :: rest => Proper j ∧ ProperItems rest

def ProperMembers : List (String × Json) → Prop
  | [] => True
  | (_, j) :: rest => Proper j ∧ ProperMembers rest

end

theorem properItems_iff {items : List Json} : ProperItems items ↔ ∀ j ∈ items, j.Proper := by
  induction items with
  | nil => simp [ProperItems]
  | cons j rest ih => rw [ProperItems, ih, List.forall_mem_cons]

theorem properMembers_iff {members : List (String × Json)} :
    ProperMembers members ↔ ∀ m ∈ members, m.2.Proper := by
  induction members with
  | nil => simp [ProperMembers]
  | cons m rest ih => rw [ProperMembers, ih, List.forall_mem_cons]

theorem spells_closing {c : Char} {kind : Token.Kind} (mark : punctuation? c = some kind) : Spells [c] [kind] :=
  spells_nil.punctuation mark

mutual

theorem spells_compact : ∀ j : Json, j.Proper → Spells j.compact j.kinds
  | .null, _ => spells_word rfl
  | .bool true, _ => spells_word rfl
  | .bool false, _ => spells_word rfl
  | .number _, proper => spells_number proper
  | .string s, _ => by
    have spells := spells_nil.quote s
    rwa [List.append_nil] at spells
  | .array items, proper =>
    ((spells_compactItems items proper).append (by decide) (spells_closing rfl)).punctuation rfl
  | .object members, proper =>
    ((spells_compactMembers members proper).append (by decide) (spells_closing rfl)).punctuation rfl

theorem spells_compactItems : ∀ items : List Json, ProperItems items → Spells (compactItems items) (kindsOfItems items)
  | [], _ => spells_nil
  | [j], proper => spells_compact j proper.1
  | j :: next :: rest, proper =>
    (spells_compact j proper.1).append (by decide) ((spells_compactItems (next :: rest) proper.2).punctuation rfl)

theorem spells_compactMembers : ∀ members : List (String × Json), ProperMembers members →
    Spells (compactMembers members) (kindsOfMembers members)
  | [], _ => spells_nil
  | [(k, j)], proper => ((spells_compact j proper.1).punctuation rfl).quote k
  | (k, j) :: next :: rest, proper => by
    have value := (spells_compact j proper.1).append (by decide)
      ((spells_compactMembers (next :: rest) proper.2).punctuation (c := ',') rfl)
    have member := (value.punctuation (c := ':') rfl).quote k
    simpa [compactMembers, kindsOfMembers] using member

end

theorem Spells.newline (spells : Spells cs ks) (level : Nat) : Spells (Json.newline level ++ cs) ks := by
  have blanks : ∀ n, Spells (List.replicate n ' ' ++ cs) ks := by
    intro n
    induction n with
    | zero => exact spells
    | succ n ih => exact ih.space (by decide)
  exact (blanks (2 * level)).space (by decide)

/-- A value before a line break. -/
theorem Spells.append_newline (spells : Spells cs ks) (level : Nat) (spells' : Spells cs' ks') :
    Spells (cs ++ (Json.newline level ++ cs')) (ks ++ ks') :=
  spells.append (by decide) (spells'.newline level)

mutual

theorem spells_prettyAt (level : Nat) : ∀ j : Json, j.Proper → Spells (j.prettyAt level) j.kinds
  | .null, proper => spells_compact .null proper
  | .bool b, proper => spells_compact (.bool b) proper
  | .number n, proper => spells_compact (.number n) proper
  | .string s, proper => spells_compact (.string s) proper
  | .array [], _ => (spells_closing rfl).punctuation rfl
  | .array (j :: rest), proper => by
    have items := (spells_prettyItems (level + 1) (j :: rest) proper).append_newline level
      (spells_closing (c := ']') rfl)
    have value := (items.newline (level + 1)).punctuation (c := '[') rfl
    simpa [prettyAt, kinds] using value
  | .object [], _ => (spells_closing rfl).punctuation rfl
  | .object (m :: rest), proper => by
    have members := (spells_prettyMembers (level + 1) (m :: rest) proper).append_newline level
      (spells_closing (c := '\x7d') rfl)
    have value := (members.newline (level + 1)).punctuation (c := '\x7b') rfl
    simpa [prettyAt, kinds] using value

theorem spells_prettyItems (level : Nat) : ∀ items : List Json, ProperItems items →
    Spells (prettyItems level items) (kindsOfItems items)
  | [], _ => spells_nil
  | [j], proper => spells_prettyAt level j proper.1
  | j :: next :: rest, proper => by
    have others := (spells_prettyItems level (next :: rest) proper.2).newline level
    have items := (spells_prettyAt level j proper.1).append (by decide) (others.punctuation (c := ',') rfl)
    simpa [prettyItems, kindsOfItems] using items

theorem spells_prettyMembers (level : Nat) : ∀ members : List (String × Json), ProperMembers members →
    Spells (prettyMembers level members) (kindsOfMembers members)
  | [], _ => spells_nil
  | [(k, j)], proper =>
    (((spells_prettyAt level j proper.1).space (by decide)).punctuation rfl).quote k
  | (k, j) :: next :: rest, proper => by
    have others := (spells_prettyMembers level (next :: rest) proper.2).newline level
    have value := (spells_prettyAt level j proper.1).append (by decide) (others.punctuation (c := ',') rfl)
    have member := ((value.space (c := ' ') (by decide)).punctuation (c := ':') rfl).quote k
    simpa [prettyMembers, kindsOfMembers] using member

end

end PolicyLint.Json
