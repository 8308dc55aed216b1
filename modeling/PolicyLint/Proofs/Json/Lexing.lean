import Mathlib.Data.List.Forall2
import PolicyLint.Proofs.Json.Grammar
import PolicyLint.Proofs.Json.Scan

/-!
# Lexemes of tokens

The characters that a token takes up are a lexeme of its kind. So a text whose tokens are all sound is made
of lexemes and blanks.
-/

namespace PolicyLint.Json

open Decimal (Leading)

/-! ### Strings -/

namespace StringScan

/-- If the string can be skipped, this is what stands between its quotes and what that denotes. -/
def Closes (s : StringScan) (cs : List Char) : Prop :=
  s.skip = none → ∃ body rest, cs = body ++ '"' :: rest ∧ s.count = body.length + 1 ∧ Body body ∧
    ∀ text, s.content = .ok text → Denotes body text

variable {s : StringScan} {cs : List Char}

theorem closes_stop (complaint : Complaint) (offset : Nat) (cs : List Char) : (stop complaint offset).Closes cs :=
  fun skipped => nomatch skipped

theorem Closes.push (closes : s.Closes cs) (lead : List Char) {c : Char} (grows : ∀ body, Body body → Body (lead ++ body))
    (reads : ∀ body text, Denotes body text → Denotes (lead ++ body) (c :: text)) :
    (s.push c lead.length).Closes (lead ++ cs) := by
  intro skipped
  obtain ⟨body, rest, rfl, count, good, denotes⟩ := closes skipped
  refine ⟨lead ++ body, rest, by rw [List.append_assoc], ?_, grows body good, ?_⟩
  · show s.count + lead.length = (lead ++ body).length + 1
    rw [List.length_append, count]
    omega
  · intro text read
    cases content : s.content with
    | error fault =>
      rw [StringScan.push, content] at read
      cases read
    | ok found =>
      rw [StringScan.push, content] at read
      obtain rfl := Except.ok.inj read
      exact reads body found (denotes found content)

theorem Closes.refuse (closes : s.Closes cs) (lead : List Char) (grows : ∀ body, Body body → Body (lead ++ body))
    (fault : Fault) : (s.refuse fault lead.length).Closes (lead ++ cs) := by
  intro skipped
  obtain ⟨body, rest, rfl, count, good, _⟩ := closes skipped
  refine ⟨lead ++ body, rest, by rw [List.append_assoc], ?_, grows body good, fun text read => nomatch read⟩
  show s.count + lead.length = (lead ++ body).length + 1
  rw [List.length_append, count]
  omega

end StringScan

theorem lowSurrogate?_some {rest : List Char} {m : Nat} (found : lowSurrogate? rest = some m) :
    ∃ a b c d left, rest = '\\' :: 'u' :: a :: b :: c :: d :: left ∧ hexValue4? a b c d = some m ∧
      isLowSurrogate m = true := by
  unfold lowSurrogate? at found
  split at found
  · rename_i a b c d left
    obtain ⟨value, low⟩ := Option.filter_eq_some_iff.mp found
    exact ⟨a, b, c, d, left, rfl, value, low⟩
  · cases found

/-- A high surrogate is taken for a character only where the string is cut off. -/
theorem skip_of_unpaired? {rest : List Char} {p : Nat} (unclear : unpaired? rest p = none) :
    (scanString rest p).skip ≠ none := by
  unfold unpaired? at unclear
  split at unclear
  · simp [scanString, StringScan.stop]
  · simp [scanString, StringScan.stop]
  · rename_i a b c d left
    have value : hexValue4? a b c d = none := by simpa using unclear
    simp [scanString, value, StringScan.stop]
  · rename_i left short
    rw [scanString]
    · split <;> simp [StringScan.stop]
    · simpa using short
  · cases unclear
  · cases unclear

theorem scanString_closes (cs : List Char) (p : Nat) : (scanString cs p).Closes cs := by
  fun_induction scanString cs p with
  | case1 | case3 | case4 | case10 | case11 | case13 => exact StringScan.closes_stop _ _ _
  | case2 rest =>
    intro _
    refine ⟨[], rest, rfl, rfl, .nil, fun text read => ?_⟩
    obtain rfl := Except.ok.inj read
    exact .nil
  | case5 a b c d rest p n value _ ih =>
    exact ih.refuse ['\\', 'u', a, b, c, d] (fun _ => .hex value) _
  | case6 a b c d rest p n value _ high m paired ih =>
    obtain ⟨a', b', c', d', left, rfl, value', low⟩ := lowSurrogate?_some paired
    exact ih.push ['\\', 'u', a, b, c, d, '\\', 'u', a', b', c', d']
      (fun _ good => .hex value (.hex value' good)) (fun _ _ => .pair value high value' low)
  | case7 a b c d rest p n value _ _ _ fault _ ih =>
    exact ih.refuse ['\\', 'u', a, b, c, d] (fun _ => .hex value) fault
  | case8 a b c d rest p n value _ _ _ unclear ih =>
    exact fun skipped => absurd skipped (skip_of_unpaired? unclear)
  | case9 a b c d rest p n value low high ih =>
    exact ih.push ['\\', 'u', a, b, c, d] (fun _ => .hex value)
      (fun _ _ => .hex value (Bool.eq_false_iff.mpr low) (Bool.eq_false_iff.mpr high))
  | case12 l rest p _ _ e named ih =>
    exact ih.push ['\\', l] (fun _ => .short named) (fun _ _ => .short named)
  | case14 => exact fun skipped => nomatch skipped
  | case15 c rest p quote last _ _ other large ih =>
    have backslash : c ≠ '\\' := by
      intro same
      cases rest with
      | nil => exact last same rfl
      | cons next rest => exact other next rest same rfl
    exact ih.push [c] (fun _ => .plain quote backslash (Nat.le_of_not_lt large))
      (fun _ _ => .plain quote backslash (Nat.le_of_not_lt large))

/-! ### Numbers -/

theorem digits_takeWhile {c : Char} (digit : c.isDigit = true) (cs : List Char) :
    Digits ((c :: cs).takeWhile Char.isDigit) where
  some := by
    rw [List.takeWhile_cons_of_pos digit]
    exact List.cons_ne_nil _ _
  digits := List.all_eq_true.mp List.all_takeWhile

def scanPower (sofar : NumberScan) (below : Bool) (signs : Nat) (rest : List Char) (p : Nat) :
    Except (Fault × Fault) NumberScan :=
  match rest with
  | [] => .error (⟨.endInValue, p⟩, ⟨.invalidNumber, p⟩)
  | c :: _ =>
    if c.isDigit then
      let digits := rest.takeWhile Char.isDigit
      .ok
        { numeral := { sofar.numeral with exponent := some (below, digits) }
          beyond := if below then p + digits.length else beyondExponent digits 0 p
          count := sofar.count + 1 + signs + digits.length }
    else .error (twice .invalidNumber (p + 1))

theorem scanPower_ok {sofar s : NumberScan} {below : Bool} {signs p : Nat} {cs : List Char}
    (scanned : scanPower sofar below signs cs p = .ok s) :
    ∃ ds rest, cs = ds ++ rest ∧ Digits ds ∧ s.count = sofar.count + 1 + signs + ds.length := by
  unfold scanPower at scanned
  split at scanned
  · cases scanned
  · rename_i c cs
    split at scanned
    · rename_i digit
      obtain rfl := Except.ok.inj scanned
      exact ⟨_, _, List.takeWhile_append_dropWhile.symm, digits_takeWhile digit cs, rfl⟩
    · cases scanned

/-- The scan of a number went on over these characters at the start of a text. -/
def NumberScan.Goes (before after : NumberScan) (taken cs : List Char) : Prop :=
  after.count = before.count + taken.length ∧ ∃ rest, cs = taken ++ rest

/-- The sign of an exponent, whether it stands for minus, and what follows it. -/
def signOf : List Char → Bool × Nat × List Char
  | '+' :: rest => (false, 1, rest)
  | '-' :: rest => (true, 1, rest)
  | rest => (false, 0, rest)

theorem signOf_split (cs : List Char) :
    ∃ sign, cs = sign ++ (signOf cs).2.2 ∧ sign.length = (signOf cs).2.1 ∧
      (sign = [] ∨ ∃ c, sign = [c] ∧ (c = '+' ∨ c = '-')) := by
  unfold signOf
  split
  · exact ⟨['+'], rfl, rfl, .inr ⟨_, rfl, .inl rfl⟩⟩
  · exact ⟨['-'], rfl, rfl, .inr ⟨_, rfl, .inr rfl⟩⟩
  · exact ⟨[], rfl, rfl, .inl rfl⟩

theorem scanExponent_letter {e : Char} (letter : e = 'e' ∨ e = 'E') (sofar : NumberScan) (cs : List Char) (p : Nat) :
    scanExponent sofar (e :: cs) p =
      scanPower sofar (signOf cs).1 (signOf cs).2.1 (signOf cs).2.2 (p + 1 + (signOf cs).2.1) := by
  rcases letter with rfl | rfl <;> rfl

theorem scanExponent_ok {sofar s : NumberScan} {cs : List Char} {p : Nat}
    (scanned : scanExponent sofar cs p = .ok s) : ∃ taken, Exponent taken ∧ sofar.Goes s taken cs := by
  by_cases letter : ∃ e rest, cs = e :: rest ∧ (e = 'e' ∨ e = 'E')
  · obtain ⟨e, cs, rfl, letter⟩ := letter
    rw [scanExponent_letter letter] at scanned
    obtain ⟨sign, split, signs, signed⟩ := signOf_split cs
    obtain ⟨ds, rest, left, digits, count⟩ := scanPower_ok scanned
    refine ⟨e :: (sign ++ ds), ?_, ?_, rest, ?_⟩
    · rcases signed with rfl | ⟨c, rfl, mark⟩
      · exact .bare letter digits
      · exact .signed letter mark digits
    · rw [count, ← signs, List.length_cons, List.length_append]
      omega
    · rw [List.cons_append, List.append_assoc, ← left, ← split]
  · have whole : scanExponent sofar cs p = .ok sofar := by
      unfold scanExponent
      split
      · exact absurd ⟨'e', _, rfl, .inl rfl⟩ letter
      · exact absurd ⟨'E', _, rfl, .inr rfl⟩ letter
      · rfl
    rw [whole] at scanned
    obtain rfl := Except.ok.inj scanned
    exact ⟨[], .none, rfl, cs, rfl⟩

theorem NumberScan.Goes.trans {a b c : NumberScan} {taken taken' cs rest : List Char} (count : b.count = a.count + taken.length)
    (shape : cs = taken ++ rest) (goes : b.Goes c taken' rest) : a.Goes c (taken ++ taken') cs := by
  obtain ⟨count', left, rfl⟩ := goes
  refine ⟨?_, left, by rw [shape, List.append_assoc]⟩
  rw [count', count, List.length_append, Nat.add_assoc]

theorem scanFraction_ok {sofar s : NumberScan} {cs : List Char} {p : Nat} (scanned : scanFraction sofar cs p = .ok s) :
    ∃ fraction exponent, Fraction fraction ∧ Exponent exponent ∧ sofar.Goes s (fraction ++ exponent) cs := by
  unfold scanFraction at scanned
  split at scanned
  · rename_i rest
    dsimp only at scanned
    split at scanned
    · split at scanned <;> cases scanned
    · rename_i some
      obtain ⟨exponent, good, goes⟩ := scanExponent_ok scanned
      have digits : Digits (rest.takeWhile Char.isDigit) :=
        ⟨by simpa using some, List.all_eq_true.mp List.all_takeWhile⟩
      refine ⟨'.' :: rest.takeWhile Char.isDigit, exponent, .some digits, good, ?_⟩
      exact .trans (Nat.add_right_comm _ _ _) (by rw [List.cons_append, List.takeWhile_append_dropWhile]) goes
  · obtain ⟨exponent, good, goes⟩ := scanExponent_ok scanned
    exact ⟨[], exponent, .none, good, goes⟩

def scanUnsigned (negative : Bool) (signs : Nat) (cs : List Char) (p : Nat) : Except (Fault × Fault) NumberScan :=
  match cs with
  | [] => .error (⟨.endInValue, p⟩, ⟨.invalidNumber, p⟩)
  | c :: _ =>
    if !c.isDigit then .error (twice .invalidNumber (p + 1))
    else
      let whole := cs.takeWhile Char.isDigit
      if c = '0' ∧ 1 < whole.length then .error (twice .invalidNumber (p + 2))
      else
        scanFraction ⟨{ negative, whole }, p + whole.length, signs + whole.length⟩ (cs.dropWhile Char.isDigit)
          (p + whole.length)

theorem scanUnsigned_ok {negative : Bool} {signs : Nat} {cs : List Char} {p : Nat} {s : NumberScan}
    (scanned : scanUnsigned negative signs cs p = .ok s) :
    ∃ taken rest, Unsigned taken ∧ s.count = signs + taken.length ∧ cs = taken ++ rest := by
  unfold scanUnsigned at scanned
  split at scanned
  · cases scanned
  · rename_i c cs
    split at scanned
    · cases scanned
    · rename_i digit
      dsimp only at scanned
      split at scanned
      · cases scanned
      · rename_i zero
        obtain ⟨fraction, exponent, good, good', count, rest, left⟩ := scanFraction_ok scanned
        have digits := digits_takeWhile (by simpa using digit) cs
        have leading : Leading ((c :: cs).takeWhile Char.isDigit) := by
          refine ⟨digits.digits, digits.some, fun first => ?_⟩
          have first : c = '0' := by
            rw [List.takeWhile_cons_of_pos (by simpa using digit)] at first
            exact Option.some.inj first
          have short : ¬1 < ((c :: cs).takeWhile Char.isDigit).length := fun long => zero ⟨first, long⟩
          have some := List.length_pos_iff.mpr digits.some
          omega
        refine ⟨_, rest, .parts leading good good', ?_, ?_⟩
        · rw [count, Nat.add_assoc, ← List.length_append]
        · rw [List.append_assoc, ← left, List.takeWhile_append_dropWhile]

theorem scanNumber_ok {cs : List Char} {p : Nat} {s : NumberScan} (scanned : scanNumber cs p = .ok s) :
    ∃ taken rest, Numeric taken ∧ s.count = taken.length ∧ cs = taken ++ rest := by
  by_cases minus : ∃ rest, cs = '-' :: rest
  · obtain ⟨cs, rfl⟩ := minus
    have unsigned : scanUnsigned true 1 cs (p + 1) = .ok s := scanned
    obtain ⟨taken, rest, good, count, rfl⟩ := scanUnsigned_ok unsigned
    refine ⟨'-' :: taken, rest, .negative good, ?_, rfl⟩
    rw [count, List.length_cons, Nat.add_comm]
  · have unsigned : scanUnsigned false 0 cs p = .ok s := by
      rw [← scanned]
      unfold scanNumber
      split
      rename_i shape
      split at shape
      · exact absurd ⟨_, rfl⟩ minus
      · cases shape
        rfl
    obtain ⟨taken, rest, good, count, rfl⟩ := scanUnsigned_ok unsigned
    exact ⟨taken, rest, .positive good, by rw [count, Nat.zero_add], rfl⟩

/-! ### Tokens -/

theorem scanWord_ok {letters cs : List Char} {p : Nat} (matched : scanWord letters cs p = .ok ()) :
    ∃ rest, cs = letters ++ rest := by
  induction letters generalizing cs p with
  | nil => exact ⟨cs, rfl⟩
  | cons l letters ih =>
    cases cs with
    | nil => cases matched
    | cons c cs =>
      rw [scanWord] at matched
      split at matched
      · rename_i same
        obtain ⟨rest, rfl⟩ := ih matched
        exact ⟨rest, by rw [same]; rfl⟩
      · cases matched

/-- These characters are a lexeme of this kind. -/
inductive Token.Kind.Lexeme : Token.Kind → List Char → Prop where
  | openBrace : Lexeme .openBrace ['\x7b']
  | closeBrace : Lexeme .closeBrace ['\x7d']
  | openBracket : Lexeme .openBracket ['[']
  | closeBracket : Lexeme .closeBracket [']']
  | comma : Lexeme .comma [',']
  | colon : Lexeme .colon [':']
  | null : Lexeme .null ['n', 'u', 'l', 'l']
  | true : Lexeme (.bool true) ['t', 'r', 'u', 'e']
  | false : Lexeme (.bool false) ['f', 'a', 'l', 's', 'e']
  | number {n : Decimal.Numeral} {beyond : Nat} {cs : List Char} : Numeric cs → Lexeme (.number n beyond) cs
  | string {content : Except Fault String} {body : List Char} :
      Body body → (∀ text, content = .ok text → Denotes body text.toList) → Lexeme (.string content) (quoted body)

theorem lexeme_punctuation {c : Char} {kind : Token.Kind} (mark : punctuation? c = some kind) : kind.Lexeme [c] := by
  unfold punctuation? at mark
  split at mark <;> cases mark <;> constructor

theorem lexeme_word {c : Char} {letters : List Char} {kind : Token.Kind} (word : word? c = some (letters, kind)) :
    kind.Lexeme (c :: letters) := by
  unfold word? at word
  split at word <;> cases word <;> constructor

/-- A token of this kind is part of a value. -/
def Token.Kind.Sound : Token.Kind → Prop
  | .stray | .finish | .brokenString _ | .broken _ => False
  | _ => True

theorem lexeme_string {s : StringScan} {rest : List Char} (closes : s.Closes rest) (closed : s.skip = none) :
    ∃ l left, '"' :: rest = l ++ left ∧ (Token.Kind.string (s.content.map String.ofList)).Lexeme l ∧
      rest.drop s.count = left := by
  obtain ⟨body, left, rfl, count, good, denotes⟩ := closes closed
  refine ⟨quoted body, left, by simp [quoted], .string good ?_, ?_⟩
  · intro text read
    cases content : s.content with
    | error fault =>
      rw [content] at read
      cases read
    | ok found =>
      rw [content] at read
      obtain rfl := Except.ok.inj read
      rw [String.toList_ofList]
      exact denotes found content
  · rw [count, ← List.drop_drop, List.drop_left]
    rfl

theorem lexeme_number {c : Char} {rest : List Char} {p : Nat} {s : NumberScan} (scanned : scanNumber (c :: rest) p = .ok s) :
    ∃ l left, c :: rest = l ++ left ∧ (Token.Kind.number s.numeral s.beyond).Lexeme l ∧
      rest.drop (s.count - 1) = left := by
  obtain ⟨taken, left, good, count, shape⟩ := scanNumber_ok scanned
  have some : taken ≠ [] := by
    cases good with
    | negative _ => exact List.cons_ne_nil _ _
    | positive unsigned =>
      obtain ⟨leading, _, _⟩ := unsigned
      exact List.append_ne_nil_of_left_ne_nil leading.some _
  refine ⟨taken, left, shape, .number good, ?_⟩
  obtain ⟨d, ds, rfl⟩ := List.exists_cons_of_ne_nil some
  rw [(List.cons.inj shape).2, count, List.length_cons, Nat.add_sub_cancel]
  exact List.drop_left

theorem scanToken_lexeme {c : Char} {rest : List Char} {p : Nat} (sound : (scanToken c rest p).1.kind.Sound) :
    ∃ l left, c :: rest = l ++ left ∧ (scanToken c rest p).1.kind.Lexeme l ∧
      rest.drop (scanToken c rest p).2 = left := by
  unfold scanToken at sound ⊢
  split
  · rename_i kind mark
    exact ⟨[c], rest, rfl, lexeme_punctuation mark, rfl⟩
  rename_i unmarked
  simp only [unmarked] at sound
  split
  · rename_i letters kind word
    simp only [word] at sound
    split
    · rename_i matched
      obtain ⟨left, rfl⟩ := scanWord_ok matched
      exact ⟨c :: letters, left, rfl, lexeme_word word, List.drop_left⟩
    · rename_i mismatched
      rw [mismatched] at sound
      exact sound.elim
  rename_i wordless
  simp only [wordless] at sound
  split
  · rename_i quote
    subst quote
    simp only [if_true] at sound
    dsimp only at sound ⊢
    split
    · rename_i closed
      exact lexeme_string (scanString_closes rest (p + 1)) closed
    · rename_i cut
      rw [cut] at sound
      exact sound.elim
  · rename_i other
    simp only [other, if_false] at sound
    split
    · rename_i start
      simp only [start, if_true] at sound
      split
      · rename_i scanned
        exact lexeme_number scanned
      · rename_i scanned
        rw [scanned] at sound
        exact sound.elim
    · rename_i stray
      rw [if_neg stray] at sound
      exact sound.elim

theorem unsound_of_isBroken {t : Token} (broken : t.isBroken = true) : t.kind ≠ .finish ∧ ¬t.kind.Sound := by
  unfold Token.isBroken at broken
  split at broken
  · rename_i kind
    rw [kind]
    exact ⟨nofun, id⟩
  · rename_i kind
    rw [kind]
    exact ⟨nofun, id⟩
  · cases broken

theorem scanToken_ne_finish (c : Char) (rest : List Char) (p : Nat) : (scanToken c rest p).1.kind ≠ .finish := by
  unfold scanToken
  split
  · rename_i kind mark
    unfold punctuation? at mark
    split at mark <;> cases mark <;> nofun
  split
  · rename_i letters kind word
    unfold word? at word
    split at word <;> cases word <;> split <;> nofun
  split
  · dsimp only
    split <;> nofun
  split
  · split <;> nofun
  · nofun

/-- The text up to its end, if there are only sound tokens before. -/
theorem tokensFrom_lexemes {cs : List Char} {p : Nat} {ks after : List Token.Kind}
    (kinds : (tokensFrom cs p).map (·.kind) = ks ++ .finish :: after) (sound : ∀ k ∈ ks, k.Sound) :
    ∃ ls, List.Forall₂ Token.Kind.Lexeme ks ls ∧ Spaced ls cs := by
  fun_induction tokensFrom cs p generalizing ks with
  | case1 p =>
    cases ks with
    | nil => exact ⟨[], .nil, .nil⟩
    | cons k ks =>
      obtain ⟨rfl, _⟩ := List.cons.inj kinds
      exact (sound _ List.mem_cons_self).elim
  | case2 p c rest space ih =>
    obtain ⟨ls, lexemes, spaced⟩ := ih kinds sound
    exact ⟨ls, lexemes, .blank space spaced⟩
  | case3 p c rest =>
    rename_i broken
    obtain ⟨early, unsound⟩ := unsound_of_isBroken broken
    cases ks with
    | nil => exact absurd (List.cons.inj kinds).1 early
    | cons k ks =>
      obtain ⟨rfl, _⟩ := List.cons.inj kinds
      exact absurd (sound _ List.mem_cons_self) unsound
  | case4 p c rest =>
    rename_i ih
    cases ks with
    | nil => exact absurd (List.cons.inj kinds).1 (scanToken_ne_finish c rest p)
    | cons k ks =>
      obtain ⟨rfl, later⟩ := List.cons.inj kinds
      obtain ⟨l, left, shape, lexeme, dropped⟩ := scanToken_lexeme (sound _ List.mem_cons_self)
      obtain ⟨ls, lexemes, spaced⟩ := ih later fun k member => sound k (List.mem_cons_of_mem _ member)
      rw [shape]
      rw [dropped] at spaced
      exact ⟨l :: ls, .cons lexeme lexemes, .lexeme spaced⟩

end PolicyLint.Json
