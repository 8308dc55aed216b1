import PolicyLint.Proofs.Json.Spelling
import PolicyLint.Json.Node

/-!
# Reading what was written

`Node.json?` forgets where the parts of a value stand. The document of a written value, on one line or on
several, is that value and nothing more, so different values have different texts.
-/

namespace PolicyLint.Json

namespace Node

mutual

/-- The value without its places, unless it was cut or has a string that cannot be decoded. -/
def json? : Node → Option Json
  | .null _ _ => some .null
  | .bool b _ _ => some (.bool b)
  | .number n _ _ _ => some (.number n)
  | .string (.ok s) _ _ => some (.string s)
  | .string (.error _) _ _ => none
  | .array _ items (.ok _) => (itemsJson? items).map .array
  | .array _ _ (.error _) => none
  | .object _ members (.ok _) => (membersJson? members).map .object
  | .object _ _ (.error _) => none
  | .broken _ _ => none

def itemsJson? : List Node → Option (List Json)
  | [] => some []
  | node :: rest =>
    match json? node, itemsJson? rest with
    | some j, some js => some (j :: js)
    | _, _ => none

def membersJson? : List (Key × Node) → Option (List (String × Json))
  | [] => some []
  | (key, node) :: rest =>
    match key.name, json? node, membersJson? rest with
    | .ok k, some j, some ms => some ((k, j) :: ms)
    | _, _, _ => none

end

end Node

/-! ### Tokens of one kind -/

theorem kind_of_plain {t : Token} {kind : Token.Kind} (plain : t.kind.plain = kind)
    (other : ∀ n p, kind ≠ .number n p) : t.kind = kind := by
  cases shape : t.kind with
  | number n p =>
    rw [shape] at plain
    exact absurd plain.symm (other n 0)
  | _ =>
    rw [shape] at plain
    exact plain

theorem kind_of_number {t : Token} {n : Decimal.Numeral} (plain : t.kind.plain = .number n 0) :
    ∃ p, t.kind = .number n p := by
  cases shape : t.kind with
  | number n' p =>
    rw [shape] at plain
    obtain ⟨rfl, _⟩ := Token.Kind.number.inj plain
    exact ⟨p, rfl⟩
  | _ =>
    rw [shape] at plain
    exact absurd plain (by simp [Token.Kind.plain])

theorem map_eq_cons {ts : List Token} {kind : Token.Kind} {ks : List Token.Kind}
    (kinds : ts.map (·.kind.plain) = kind :: ks) :
    ∃ t rest, ts = t :: rest ∧ t.kind.plain = kind ∧ rest.map (·.kind.plain) = ks := by
  cases ts with
  | nil => exact absurd kinds (by simp)
  | cons t rest => exact ⟨t, rest, rfl, List.cons.inj kinds |>.1, List.cons.inj kinds |>.2⟩

theorem map_eq_singleton {ts : List Token} {kind : Token.Kind} (kinds : ts.map (·.kind.plain) = [kind]) :
    ∃ t, ts = [t] ∧ t.kind.plain = kind := by
  obtain ⟨t, rest, rfl, plain, none⟩ := map_eq_cons kinds
  exact ⟨t, by rw [List.map_eq_nil_iff.mp none], plain⟩

/-! ### Reading tokens -/

section Tokens

variable {t : Token} {rest : List Token} {due due' : Due} {frames frames' : List Frame} {start : Nat}

theorem readTokens_more (more : readToken t rest due frames = .more due' frames') :
    readTokens (t :: rest) due frames = readTokens rest due' frames' := by
  rw [readTokens, more]

theorem readTokens_complete {node : Node} (whole : readToken t rest due frames = complete node frames) :
    readTokens (t :: rest) due frames = readTokens rest (place node frames).1 (place node frames).2 :=
  readTokens_more whole

def Token.Kind.Begins (kind : Token.Kind) : Prop := kind ≠ .closeBracket ∧ kind ≠ .finish

theorem Token.Kind.begins_of_plain {kind kind' : Token.Kind} (plain : kind.plain = kind') (begins : kind'.Begins) :
    kind.Begins := by
  constructor
  · rintro rfl
    exact begins.1 plain.symm
  · rintro rfl
    exact begins.2 plain.symm

theorem kinds_begins (j : Json) : ∃ kind ks, j.kinds = kind :: ks ∧ kind.Begins := by
  cases j <;> exact ⟨_, _, rfl, by simp [Token.Kind.Begins]⟩

theorem kindsOfItems_begins (j : Json) (items : List Json) :
    ∃ kind ks, kindsOfItems (j :: items) = kind :: ks ∧ kind.Begins := by
  obtain ⟨kind, ks, shape, begins⟩ := kinds_begins j
  cases items with
  | nil => exact ⟨kind, ks, shape, begins⟩
  | cons next items =>
    refine ⟨kind, ks ++ .comma :: kindsOfItems (next :: items), ?_, begins⟩
    rw [kindsOfItems, shape, List.cons_append]
    simp

theorem readToken_firstItem (begins : t.kind.Begins) :
    readToken t rest (.firstItem start) frames = readToken t rest .value (.array start [] :: frames) := by
  obtain ⟨open_, more⟩ := begins
  rw [readToken, readToken]
  cases shape : t.kind <;> simp_all

theorem readToken_item (begins : t.kind.Begins) (items : List Node) :
    readToken t rest (.item start items) frames = readToken t rest .value (.array start items :: frames) := by
  obtain ⟨open_, more⟩ := begins
  rw [readToken, readToken]
  cases shape : t.kind <;> simp_all

def AtKey (start : Nat) (members : List (Key × Node)) : Due → Prop
  | .firstKey start' => start' = start ∧ members = []
  | .key start' members' _ => start' = start ∧ members' = members
  | _ => False

variable (rest frames) in
theorem readToken_key {members : List (Key × Node)} {k : String} (due : AtKey start members due')
    (name : t.kind = .string (.ok k)) :
    ∃ key : Key, key.name = .ok k ∧ readToken t rest due' frames = .more (.colon start members key) frames := by
  cases due' with
  | firstKey start' =>
    obtain ⟨rfl, rfl⟩ := due
    simp only [readToken, readKey, name]
    exact ⟨_, rfl, rfl⟩
  | key start' members' comma =>
    obtain ⟨rfl, rfl⟩ := due
    simp only [readToken, readKey, name]
    exact ⟨_, rfl, rfl⟩
  | _ => exact absurd due id

end Tokens

/-! ### Reading values -/

mutual

theorem readTokens_value : ∀ (j : Json) (ts rest : List Token) (frames : List Frame),
    ts.map (·.kind.plain) = j.kinds → ∃ node : Node, node.json? = some j ∧
      readTokens (ts ++ rest) .value frames = readTokens rest (place node frames).1 (place node frames).2
  | .null, ts, rest, frames, kinds => by
    obtain ⟨t, rfl, plain⟩ := map_eq_singleton kinds
    have kind := kind_of_plain plain (by simp)
    exact ⟨.null t.start t.stop, rfl, readTokens_complete (by rw [readToken, readValue, kind])⟩
  | .bool b, ts, rest, frames, kinds => by
    obtain ⟨t, rfl, plain⟩ := map_eq_singleton kinds
    have kind := kind_of_plain plain (by simp)
    exact ⟨.bool b t.start t.stop, rfl, readTokens_complete (by rw [readToken, readValue, kind])⟩
  | .number n, ts, rest, frames, kinds => by
    obtain ⟨t, rfl, plain⟩ := map_eq_singleton kinds
    obtain ⟨beyond, kind⟩ := kind_of_number plain
    exact ⟨.number n beyond t.start t.stop, rfl, readTokens_complete (by rw [readToken, readValue, kind])⟩
  | .string s, ts, rest, frames, kinds => by
    obtain ⟨t, rfl, plain⟩ := map_eq_singleton kinds
    have kind := kind_of_plain plain (by simp)
    exact ⟨.string (.ok s) t.start t.stop, rfl, readTokens_complete (by rw [readToken, readValue, kind])⟩
  | .array [], ts, rest, frames, kinds => by
    obtain ⟨t, ts, rfl, plain, kinds⟩ := map_eq_cons kinds
    obtain ⟨t', rfl, plain'⟩ := map_eq_singleton kinds
    have opens := kind_of_plain plain (by simp)
    have closes := kind_of_plain plain' (by simp)
    refine ⟨.array t.start [] (.ok t'.stop), rfl, ?_⟩
    calc readTokens ([t, t'] ++ rest) .value frames
        = readTokens (t' :: rest) (.firstItem t.start) frames :=
          readTokens_more (by rw [readToken, readValue, opens])
      _ = _ := readTokens_complete (by rw [readToken, closes])
  | .array (j :: items), ts, rest, frames, kinds => by
    obtain ⟨t, ts, rfl, plain, kinds⟩ := map_eq_cons kinds
    obtain ⟨ts, last, rfl, inner, kinds⟩ := List.map_eq_append_iff.mp kinds
    obtain ⟨t', rfl, plain'⟩ := map_eq_singleton kinds
    have opens := kind_of_plain plain (by simp)
    have closes := kind_of_plain plain' (by simp)
    obtain ⟨nodes, values, read⟩ := readTokens_items (j :: items) (by simp) ts (t' :: rest) t.start [] frames inner
    refine ⟨.array t.start nodes (.ok t'.stop), by rw [Node.json?, values]; rfl, ?_⟩
    -- the first token of an item is none that would end the array
    obtain ⟨kind, ks, shape, begins⟩ := kindsOfItems_begins j items
    obtain ⟨first, others, rfl, firstPlain, _⟩ := map_eq_cons (inner.trans shape)
    have begins := Token.Kind.begins_of_plain firstPlain begins
    calc readTokens (t :: (first :: others ++ [t']) ++ rest) .value frames
        = readTokens (first :: (others ++ [t'] ++ rest)) (.firstItem t.start) frames :=
          readTokens_more (by rw [readToken, readValue, opens])
      _ = readTokens (first :: (others ++ [t'] ++ rest)) .value (.array t.start [] :: frames) := by
          rw [readTokens, readTokens, readToken_firstItem begins]
      _ = readTokens (t' :: rest) (.afterItem t.start nodes.reverse) frames := by
          rw [← List.append_nil nodes.reverse, ← read]
          simp
      _ = _ := readTokens_complete (by rw [readToken, closes, List.reverse_reverse])
  | .object [], ts, rest, frames, kinds => by
    obtain ⟨t, ts, rfl, plain, kinds⟩ := map_eq_cons kinds
    obtain ⟨t', rfl, plain'⟩ := map_eq_singleton kinds
    have opens := kind_of_plain plain (by simp)
    have closes := kind_of_plain plain' (by simp)
    refine ⟨.object t.start [] (.ok t'.stop), rfl, ?_⟩
    calc readTokens ([t, t'] ++ rest) .value frames
        = readTokens (t' :: rest) (.firstKey t.start) frames :=
          readTokens_more (by rw [readToken, readValue, opens])
      _ = _ := readTokens_complete (by rw [readToken, closes])
  | .object (m :: members), ts, rest, frames, kinds => by
    obtain ⟨t, ts, rfl, plain, kinds⟩ := map_eq_cons kinds
    obtain ⟨ts, last, rfl, inner, kinds⟩ := List.map_eq_append_iff.mp kinds
    obtain ⟨t', rfl, plain'⟩ := map_eq_singleton kinds
    have opens := kind_of_plain plain (by simp)
    have closes := kind_of_plain plain' (by simp)
    obtain ⟨nodes, values, read⟩ :=
      readTokens_members (m :: members) (by simp) ts (t' :: rest) t.start [] (.firstKey t.start) frames ⟨rfl, rfl⟩
        inner
    refine ⟨.object t.start nodes (.ok t'.stop), by rw [Node.json?, values]; rfl, ?_⟩
    calc readTokens (t :: (ts ++ [t']) ++ rest) .value frames
        = readTokens (ts ++ t' :: rest) (.firstKey t.start) frames := by
          rw [List.cons_append, List.append_assoc]
          exact readTokens_more (by rw [readToken, readValue, opens])
      _ = readTokens (t' :: rest) (.afterMember t.start nodes.reverse) frames := by
          rw [read, List.append_nil]
      _ = _ := readTokens_complete (by rw [readToken, closes, List.reverse_reverse])

theorem readTokens_items : ∀ (items : List Json), items ≠ [] → ∀ (ts rest : List Token) (start : Nat)
    (sofar : List Node) (frames : List Frame), ts.map (·.kind.plain) = kindsOfItems items →
    ∃ nodes, Node.itemsJson? nodes = some items ∧
      readTokens (ts ++ rest) .value (.array start sofar :: frames) =
        readTokens rest (.afterItem start (nodes.reverse ++ sofar)) frames
  | [], filled, _, _, _, _, _, _ => absurd rfl filled
  | [j], _, ts, rest, start, sofar, frames, kinds => by
    obtain ⟨node, value, read⟩ := readTokens_value j ts rest (.array start sofar :: frames) kinds
    exact ⟨[node], by rw [Node.itemsJson?, value]; rfl, read⟩
  | j :: next :: items, _, ts, rest, start, sofar, frames, kinds => by
    obtain ⟨ts, others, rfl, here, kinds⟩ := List.map_eq_append_iff.mp kinds
    obtain ⟨t, others, rfl, plain, later⟩ := map_eq_cons kinds
    have comma := kind_of_plain plain (by simp)
    obtain ⟨node, value, read⟩ := readTokens_value j ts (t :: (others ++ rest)) (.array start sofar :: frames) here
    obtain ⟨nodes, values, reads⟩ := readTokens_items (next :: items) (by simp) others rest start (node :: sofar) frames later
    obtain ⟨kind, ks, shape, begins⟩ := kindsOfItems_begins next items
    obtain ⟨first, others, rfl, firstPlain, _⟩ := map_eq_cons (later.trans shape)
    have begins := Token.Kind.begins_of_plain firstPlain begins
    refine ⟨node :: nodes, by rw [Node.itemsJson?, value, values], ?_⟩
    calc readTokens (ts ++ t :: (first :: others) ++ rest) .value (.array start sofar :: frames)
        = readTokens (t :: (first :: others ++ rest)) (.afterItem start (node :: sofar)) frames := by
          rw [List.append_assoc]
          exact read
      _ = readTokens (first :: (others ++ rest)) (.item start (node :: sofar)) frames :=
          readTokens_more (by rw [readToken, comma])
      _ = readTokens (first :: (others ++ rest)) .value (.array start (node :: sofar) :: frames) := by
          rw [readTokens, readTokens, readToken_item begins]
      _ = readTokens rest (.afterItem start (nodes.reverse ++ node :: sofar)) frames := reads
      _ = _ := by rw [List.reverse_cons, List.append_assoc, List.singleton_append]

theorem readTokens_members : ∀ (members : List (String × Json)), members ≠ [] → ∀ (ts rest : List Token)
    (start : Nat) (sofar : List (Key × Node)) (due : Due) (frames : List Frame), AtKey start sofar due →
    ts.map (·.kind.plain) = kindsOfMembers members →
    ∃ nodes, Node.membersJson? nodes = some members ∧
      readTokens (ts ++ rest) due frames = readTokens rest (.afterMember start (nodes.reverse ++ sofar)) frames
  | [], filled, _, _, _, _, _, _, _, _ => absurd rfl filled
  | [(k, j)], _, ts, rest, start, sofar, due, frames, atKey, kinds => by
    obtain ⟨t, ts, rfl, plain, kinds⟩ := map_eq_cons kinds
    obtain ⟨t', ts, rfl, plain', kinds⟩ := map_eq_cons kinds
    obtain ⟨key, name, begun⟩ := readToken_key (t' :: (ts ++ rest)) frames atKey
      (kind_of_plain plain (by simp))
    have colon := kind_of_plain plain' (by simp)
    obtain ⟨node, value, read⟩ := readTokens_value j ts rest (.object start sofar key :: frames) kinds
    refine ⟨[(key, node)], by rw [Node.membersJson?, name, value]; rfl, ?_⟩
    calc readTokens (t :: t' :: ts ++ rest) due frames
        = readTokens (t' :: (ts ++ rest)) (.colon start sofar key) frames := readTokens_more begun
      _ = readTokens (ts ++ rest) .value (.object start sofar key :: frames) :=
          readTokens_more (by rw [readToken, colon])
      _ = _ := read
  | (k, j) :: next :: members, _, ts, rest, start, sofar, due, frames, atKey, kinds => by
    obtain ⟨t, ts, rfl, plain, kinds⟩ := map_eq_cons kinds
    obtain ⟨t', ts, rfl, plain', kinds⟩ := map_eq_cons kinds
    obtain ⟨ts, others, rfl, here, kinds⟩ := List.map_eq_append_iff.mp kinds
    obtain ⟨t'', others, rfl, plain'', later⟩ := map_eq_cons kinds
    obtain ⟨key, name, begun⟩ := readToken_key (t' :: (ts ++ t'' :: others ++ rest)) frames atKey
      (kind_of_plain plain (by simp))
    have colon := kind_of_plain plain' (by simp)
    have comma := kind_of_plain plain'' (by simp)
    obtain ⟨node, value, read⟩ :=
      readTokens_value j ts (t'' :: (others ++ rest)) (.object start sofar key :: frames) here
    obtain ⟨nodes, values, reads⟩ := readTokens_members (next :: members) (by simp) others rest start
      ((key, node) :: sofar) (.key start ((key, node) :: sofar) t''.start) frames ⟨rfl, rfl⟩ later
    refine ⟨(key, node) :: nodes, by rw [Node.membersJson?, name, value, values], ?_⟩
    calc readTokens (t :: t' :: (ts ++ t'' :: others) ++ rest) due frames
        = readTokens (t' :: (ts ++ t'' :: others ++ rest)) (.colon start sofar key) frames := readTokens_more begun
      _ = readTokens (ts ++ t'' :: others ++ rest) .value (.object start sofar key :: frames) :=
          readTokens_more (by rw [readToken, colon])
      _ = readTokens (t'' :: (others ++ rest)) (.afterMember start ((key, node) :: sofar)) frames := by
          rw [List.append_assoc]
          exact read
      _ = readTokens (others ++ rest) (.key start ((key, node) :: sofar) t''.start) frames :=
          readTokens_more (by rw [readToken, comma])
      _ = readTokens rest (.afterMember start (nodes.reverse ++ (key, node) :: sofar)) frames := reads
      _ = _ := by rw [List.reverse_cons, List.append_assoc, List.singleton_append]

end

/-! ### Documents -/

theorem root_of_spells {cs : List Char} {j : Json} (spells : Spells cs j.kinds) :
    (Document.ofChars cs).root.json? = some j ∧ (Document.ofChars cs).trailing = none := by
  obtain ⟨ts, q, split, kinds⟩ := spells [] 0 (by simp [EndsNumber])
  obtain ⟨node, value, read⟩ := readTokens_value j ts (tokensFrom [] q) [] kinds
  have document : Document.ofChars cs = ⟨node, none⟩ := by
    rw [Document.ofChars, tokens, ← List.append_nil cs, split, read, tokensFrom]
    rfl
  rw [document]
  exact ⟨value, rfl⟩

theorem root_compact {j : Json} (proper : j.Proper) :
    (Document.ofChars j.compact).root.json? = some j ∧ (Document.ofChars j.compact).trailing = none :=
  root_of_spells (spells_compact j proper)

theorem root_pretty {j : Json} (proper : j.Proper) (level : Nat) :
    (Document.ofChars (j.prettyAt level)).root.json? = some j ∧
      (Document.ofChars (j.prettyAt level)).trailing = none :=
  root_of_spells (spells_prettyAt level j proper)

theorem compact_inj {j j' : Json} (proper : j.Proper) (proper' : j'.Proper) (same : j.compact = j'.compact) :
    j = j' := by
  have root := (root_compact proper).1
  rw [same, (root_compact proper').1] at root
  exact (Option.some.inj root).symm

end PolicyLint.Json
