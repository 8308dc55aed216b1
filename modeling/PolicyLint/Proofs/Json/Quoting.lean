import PolicyLint.Proofs.Json.Grammar

/-!
# Inside and outside of strings

A walk along a text tells of each place whether it is outside of the strings, inside of one, or behind a backslash
inside of one. Along a written value it leads from the outside to the outside. On the way there is no backtick
outside of strings and no end of a line inside of them.
-/

namespace PolicyLint.Json

inductive Place where
  | outside
  | inside
  | escaped

namespace Place

/-- The place behind a character, unless the character cannot stand there. -/
def after? : Place → Char → Option Place
  | outside, c => if c = '"' then some inside else if c = '`' then none else some outside
  | inside, c =>
    if c = '"' then some outside
    else if c = '\\' then some escaped
    else if c.toNat < 0x20 then none
    else some inside
  | escaped, c => if c = 'u' ∨ (shortEscape? c).isSome then some inside else none

def walk (p : Place) (cs : List Char) : Option Place := cs.foldlM after? p

variable {p q r : Place} {c : Char} {cs cs' : List Char}

theorem walk_cons : walk p (c :: cs) = (after? p c).bind (walk · cs) := List.foldlM_cons

theorem walk_append : walk p (cs ++ cs') = (walk p cs).bind (walk · cs') := List.foldlM_append

theorem walk_trans (first : walk p cs = some q) (second : walk q cs' = some r) : walk p (cs ++ cs') = some r := by
  rw [walk_append, first, Option.bind_some, second]

theorem walk_split (whole : walk p (cs ++ cs') = some r) : ∃ q, walk p cs = some q ∧ walk q cs' = some r :=
  Option.bind_eq_some_iff.mp (walk_append ▸ whole)

theorem walk_uncons (whole : walk p (c :: cs) = some r) : ∃ q, after? p c = some q ∧ walk q cs = some r :=
  Option.bind_eq_some_iff.mp (walk_cons ▸ whole)

/-! ### Where characters can stand -/

/-- A character that does not lead out of a string, if it can stand there. -/
def Stays (c : Char) : Prop := c ≠ '"' ∧ c ≠ '\\'

instance decidableStays (c : Char) : Decidable (Stays c) := inferInstanceAs (Decidable (c ≠ '"' ∧ c ≠ '\\'))

theorem after?_inside (stays : Stays c) (large : 0x20 ≤ c.toNat) : after? inside c = some inside := by
  rw [after?, if_neg stays.1, if_neg stays.2, if_neg (Nat.not_lt.mpr large)]

theorem Stays.after? (stays : Stays c) (next : after? inside c = some p) : p = inside := by
  rw [Place.after?, if_neg stays.1, if_neg stays.2] at next
  split at next
  · cases next
  · exact (Option.some.inj next).symm

/-- A backtick stands in a string, and not behind a backslash. -/
theorem inside_of_backtick (next : after? p '`' = some q) : p = inside ∧ q = inside := by
  cases p with
  | outside => exact absurd next (by simp [after?])
  | inside => exact ⟨rfl, Option.some.inj next.symm⟩
  | escaped => exact absurd next (by simp [after?, shortEscape?])

theorem walk_inside_of_backtick (whole : walk p (cs ++ '`' :: cs') = some r) : walk p cs = some inside := by
  obtain ⟨q, before, behind⟩ := walk_split whole
  obtain ⟨_, next, _⟩ := walk_uncons behind
  rw [before, (inside_of_backtick next).1]

theorem walk_outside (plain : ∀ c ∈ cs, c ≠ '"' ∧ c ≠ '`') : walk outside cs = some outside := by
  induction cs with
  | nil => rfl
  | cons c cs ih =>
    obtain ⟨quote, backtick⟩ := plain c List.mem_cons_self
    rw [walk_cons, after?, if_neg quote, if_neg backtick]
    exact ih fun c member => plain c (List.mem_cons_of_mem _ member)

end Place

open Place

/-! ### Lexemes -/

theorem stays_of_hexValue? {c : Char} {n : Nat} (value : hexValue? c = some n) : Stays c ∧ 0x20 ≤ c.toNat := by
  have between : ('0' ≤ c ∧ c ≤ '9') ∨ ('a' ≤ c ∧ c ≤ 'f') ∨ ('A' ≤ c ∧ c ≤ 'F') := by
    unfold hexValue? at value
    split at value
    · exact .inl ‹_›
    split at value
    · exact .inr (.inl ‹_›)
    split at value
    · exact .inr (.inr ‹_›)
    · cases value
  refine ⟨⟨?_, ?_⟩, ?_⟩
  · rintro rfl
    exact absurd between (by decide)
  · rintro rfl
    exact absurd between (by decide)
  · rcases between with ⟨low, _⟩ | ⟨low, _⟩ | ⟨low, _⟩ <;> exact Nat.le_trans (by decide) (UInt32.le_iff_toNat_le.mp low)

/-- Digits of an escaped character stay in the string. -/
theorem walk_hexValue4? {a b c d : Char} {n : Nat} (value : hexValue4? a b c d = some n) :
    walk inside [a, b, c, d] = some inside := by
  obtain ⟨_, first, value⟩ := Option.bind_eq_some_iff.mp value
  obtain ⟨_, second, value⟩ := Option.bind_eq_some_iff.mp value
  obtain ⟨_, third, value⟩ := Option.bind_eq_some_iff.mp value
  obtain ⟨_, fourth, _⟩ := Option.bind_eq_some_iff.mp value
  have step : ∀ {c n cs}, hexValue? c = some n → walk inside (c :: cs) = walk inside cs := by
    intro c n cs digit
    obtain ⟨stays, large⟩ := stays_of_hexValue? digit
    rw [walk_cons, after?_inside stays large, Option.bind_some]
  rw [step first, step second, step third, step fourth]
  rfl

theorem walk_escape {c : Char} (escape : c = 'u' ∨ (shortEscape? c).isSome) : walk inside ['\\', c] = some inside := by
  have behind : after? escaped c = some inside := if_pos escape
  rw [walk_cons, show after? inside '\\' = some escaped from rfl, Option.bind_some, walk_cons, behind]
  rfl

theorem Body.walk {body : List Char} (good : Body body) : walk inside body = some inside := by
  induction good with
  | nil => rfl
  | plain quote backslash large _ ih =>
    rw [walk_cons, after?_inside ⟨quote, backslash⟩ large]
    exact ih
  | short named _ ih => exact walk_trans (walk_escape (.inr (by rw [named]; rfl))) ih
  | hex value _ ih => exact walk_trans (walk_escape (.inl rfl)) (walk_trans (walk_hexValue4? value) ih)

theorem walk_quoted {body : List Char} (good : Body body) : walk outside (quoted body) = some outside := by
  have opening : walk outside ['"'] = some inside := rfl
  have closing : walk inside ['"'] = some outside := rfl
  show walk outside (['"'] ++ (body ++ ['"'])) = some outside
  exact walk_trans opening (walk_trans good.walk closing)

theorem Digits.plain {ds : List Char} (digits : Digits ds) : ∀ c ∈ ds, c ≠ '"' ∧ c ≠ '`' := by
  intro c member
  have digit := digits.digits c member
  constructor <;> rintro rfl <;> exact absurd digit (by decide)

theorem Numeric.plain {cs : List Char} (numeric : Numeric cs) : ∀ c ∈ cs, c ≠ '"' ∧ c ≠ '`' := by
  have unsigned : ∀ cs, Unsigned cs → ∀ c ∈ cs, c ≠ '"' ∧ c ≠ '`' := by
    rintro _ ⟨leading, fraction, exponent⟩
    refine List.forall_mem_append.mpr ⟨Digits.plain ⟨leading.some, leading.digits⟩, List.forall_mem_append.mpr ⟨?_, ?_⟩⟩
    · cases fraction with
      | none => nofun
      | some digits => exact List.forall_mem_cons.mpr ⟨by decide, digits.plain⟩
    · cases exponent with
      | none => nofun
      | bare letter digits =>
        refine List.forall_mem_cons.mpr ⟨?_, digits.plain⟩
        rcases letter with rfl | rfl <;> decide
      | signed letter sign digits =>
        refine List.forall_mem_cons.mpr ⟨?_, List.forall_mem_cons.mpr ⟨?_, digits.plain⟩⟩
        · rcases letter with rfl | rfl <;> decide
        · rcases sign with rfl | rfl <;> decide
  cases numeric with
  | positive good => exact unsigned _ good
  | negative good => exact List.forall_mem_cons.mpr ⟨by decide, unsigned _ good⟩

/-- The walk along each of these lexemes stays outside at both of its ends. -/
def Closed (ls : List (List Char)) : Prop := ∀ l ∈ ls, walk outside l = some outside

theorem closed_cons {l : List Char} {ls : List (List Char)} (here : walk outside l = some outside) (later : Closed ls) :
    Closed (l :: ls) := List.forall_mem_cons.mpr ⟨here, later⟩

theorem closed_append {ls ls' : List (List Char)} (before : Closed ls) (behind : Closed ls') : Closed (ls ++ ls') :=
  List.forall_mem_append.mpr ⟨before, behind⟩

theorem closed_nil : Closed [] := nofun

mutual

theorem Tree.Lexed.closed : ∀ {t : Tree} {ls : List (List Char)}, t.Lexed ls → Closed ls
  | _, _, .null => closed_cons rfl closed_nil
  | _, _, .true => closed_cons rfl closed_nil
  | _, _, .false => closed_cons rfl closed_nil
  | _, _, .number numeric => closed_cons (walk_outside numeric.plain) closed_nil
  | _, _, .string good => closed_cons (walk_quoted good) closed_nil
  | _, _, .array items => closed_cons rfl (closed_append items.closed (closed_cons rfl closed_nil))
  | _, _, .object members => closed_cons rfl (closed_append members.closed (closed_cons rfl closed_nil))

theorem ItemsLexed.closed : ∀ {items : List Tree} {ls : List (List Char)}, ItemsLexed items ls → Closed ls
  | _, _, .none => closed_nil
  | _, _, .last lexed => lexed.closed
  | _, _, .more lexed later => closed_append lexed.closed (closed_cons rfl later.closed)

theorem MembersLexed.closed : ∀ {members : List (List Char × Tree)} {ls : List (List Char)},
    MembersLexed members ls → Closed ls
  | _, _, .none => closed_nil
  | _, _, .last name lexed => closed_cons (walk_quoted name) (closed_cons rfl lexed.closed)
  | _, _, .more name lexed later =>
    closed_cons (walk_quoted name) (closed_cons rfl (closed_append lexed.closed (closed_cons rfl later.closed)))

end

/-! ### Values -/

theorem isSpace_plain {c : Char} (space : isSpace c = true) : c ≠ '"' ∧ c ≠ '`' := by
  constructor <;> rintro rfl <;> exact absurd space (by decide)

theorem Spaced.walk {ls : List (List Char)} {cs : List Char} (spaced : Spaced ls cs) (closed : Closed ls) :
    walk outside cs = some outside := by
  induction spaced with
  | nil => rfl
  | blank space _ ih =>
    have here := walk_outside (List.forall_mem_singleton.mpr (isSpace_plain space))
    exact walk_trans here (ih closed)
  | lexeme _ ih =>
    obtain ⟨here, later⟩ := List.forall_mem_cons.mp closed
    exact walk_trans here (ih later)

/-- A written value is outside of its strings before and behind. -/
theorem Tree.Written.walk {t : Tree} {cs : List Char} (written : t.Written cs) : walk outside cs = some outside := by
  obtain ⟨_, lexed, spaced⟩ := written
  exact spaced.walk lexed.closed

end PolicyLint.Json
