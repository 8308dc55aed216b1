import PolicyLint.Json.Printer
import PolicyLint.Proofs.Json.Grammar

/-!
# Scanning what was written

The text of a string up to its closing quote, and the text of a proper numeral that nothing extends, are
scanned as that string and that numeral.
-/

namespace PolicyLint.Json

open Decimal (Numeral Leading)

/-! ### Strings -/

theorem scanString_short {l e : Char} (named : shortEscape? l = some e) (short : l ≠ 'u') (rest : List Char)
    (p : Nat) : scanString ('\\' :: l :: rest) p = (scanString rest (p + 2)).push e 2 := by
  simp [scanString, named, short]

theorem hexValue4?_control {n : Nat} (small : n < 0x20) :
    hexValue4? '0' '0' (hexDigit (n / 16)) (hexDigit (n % 16)) = some n := by
  have values : ∀ m : Fin 32, hexValue4? '0' '0' (hexDigit (m.val / 16)) (hexDigit (m.val % 16)) = some m.val := by
    decide +kernel
  exact values ⟨n, small⟩

theorem scanString_denotes {body text : List Char} (denotes : Denotes body text) (rest : List Char) (p : Nat) :
    scanString (body ++ '"' :: rest) p = ⟨.ok text, none, body.length + 1⟩ := by
  induction denotes generalizing p with
  | nil => simp [scanString]
  | @plain c body text quote backslash large _ ih =>
    have scan : scanString (c :: (body ++ '"' :: rest)) p = (scanString (body ++ '"' :: rest) (p + c.utf8Size)).push c 1 := by
      simp [scanString, backslash, Nat.not_lt.mpr large]
    rw [List.cons_append, scan, ih]
    rfl
  | @short l e body text named _ ih =>
    have other : l ≠ 'u' := by
      rintro rfl
      exact absurd named (by simp [shortEscape?])
    rw [List.cons_append, List.cons_append, scanString_short named other, ih]
    rfl
  | @hex a b c d n body text value low high _ ih =>
    simp only [List.cons_append, scanString, value, low, high, Bool.false_eq_true, if_false, ih]
    rfl
  | @pair a b c d a' b' c' d' n m body text value high value' low _ ih =>
    have single : isLowSurrogate n = false := by
      simp only [isHighSurrogate, isLowSurrogate, Bool.and_eq_true, decide_eq_true_eq, Bool.and_eq_false_iff,
        decide_eq_false_iff_not] at high ⊢
      omega
    have paired : lowSurrogate? ('\\' :: 'u' :: a' :: b' :: c' :: d' :: (body ++ '"' :: rest)) = some m := by
      simp [lowSurrogate?, value', low]
    simp only [List.cons_append, scanString, value, single, high, Bool.false_eq_true, if_false, if_true, paired,
      List.drop_succ_cons, List.drop_zero, ih]
    rfl

theorem body_of_denotes {body text : List Char} (denotes : Denotes body text) : Body body := by
  induction denotes with
  | nil => exact .nil
  | plain quote backslash large _ ih => exact .plain quote backslash large ih
  | short named _ ih => exact .short named ih
  | hex value _ _ _ ih => exact .hex value ih
  | pair value _ value' _ _ ih => exact .hex value (.hex value' ih)

theorem denotes_escapeChar (c : Char) {body text : List Char} (denotes : Denotes body text) :
    Denotes (escapeChar c ++ body) (c :: text) := by
  unfold escapeChar
  -- the characters that are escaped by one letter or sign
  iterate 7
    split
    · subst c
      exact .short rfl denotes
  split
  · rename_i small
    have low : isLowSurrogate c.toNat = false := by
      simp [isLowSurrogate]
      omega
    have high : isHighSurrogate c.toNat = false := by
      simp [isHighSurrogate]
      omega
    simpa using Denotes.hex (hexValue4?_control small) low high denotes
  · rename_i quote backslash _ _ _ _ _ large
    exact .plain quote backslash (Nat.not_lt.mp large) denotes

theorem denotes_escaped (text : List Char) : Denotes (text.flatMap escapeChar) text := by
  induction text with
  | nil => exact .nil
  | cons c text ih => exact denotes_escapeChar c ih

theorem quoted_escaped (s : String) : quoted (s.toList.flatMap escapeChar) = quote s := by
  rw [quoted, quote, List.cons_append]

/-! ### Numbers -/

def inNumber (c : Char) : Bool := c.isDigit || c = '.' || c = 'e' || c = 'E'

/-- A number before this text ends there. -/
def EndsNumber (rest : List Char) : Prop := ∀ c ∈ rest.head?, inNumber c = false

theorem EndsNumber.digit {rest : List Char} (ends : EndsNumber rest) : ∀ c ∈ rest.head?, c.isDigit = false := by
  intro c first
  have out := ends c first
  simp only [inNumber, Bool.or_eq_false_iff] at out
  exact out.1.1.1

theorem takeWhile_digits {ds rest : List Char} (digits : ∀ c ∈ ds, c.isDigit = true)
    (stops : ∀ c ∈ rest.head?, c.isDigit = false) :
    (ds ++ rest).takeWhile Char.isDigit = ds ∧ (ds ++ rest).dropWhile Char.isDigit = rest := by
  rw [List.takeWhile_append_of_pos digits, List.dropWhile_append_of_pos digits]
  cases rest with
  | nil => simp
  | cons c rest =>
    have stop : ¬c.isDigit = true := by simp [stops c rfl]
    rw [List.takeWhile_cons_of_neg stop, List.dropWhile_cons_of_neg stop, List.append_nil]
    exact ⟨rfl, rfl⟩

def fractionChars (ds : List Char) : List Char := if ds.isEmpty then [] else '.' :: ds

def exponentChars : Option (Bool × List Char) → List Char
  | none => []
  | some (below, ds) => 'e' :: (if below then '-' else '+') :: ds

theorem scanExponent_none {rest : List Char} (ends : EndsNumber rest) (s : NumberScan) (p : Nat) :
    scanExponent s rest p = .ok s := by
  unfold scanExponent
  split
  · exact absurd (ends 'e' rfl) (by decide)
  · exact absurd (ends 'E' rfl) (by decide)
  · rfl

theorem scanExponent_chars {e : Option (Bool × List Char)} {rest : List Char} (ends : EndsNumber rest)
    (proper : ∀ below ds, e = some (below, ds) → ds ≠ [] ∧ ∀ c ∈ ds, c.isDigit = true)
    (s : NumberScan) (none : s.numeral.exponent = none) (p : Nat) :
    ∃ beyond, scanExponent s (exponentChars e ++ rest) p =
      .ok ⟨{ s.numeral with exponent := e }, beyond, s.count + (exponentChars e).length⟩ := by
  cases e with
  | none =>
    obtain ⟨n, beyond, count⟩ := s
    obtain ⟨negative, whole, fraction, exponent⟩ := n
    subst none
    exact ⟨beyond, scanExponent_none ends _ p⟩
  | some e =>
    obtain ⟨below, ds⟩ := e
    obtain ⟨some, digits⟩ := proper below ds rfl
    obtain ⟨c, cs, rfl⟩ := List.exists_cons_of_ne_nil some
    have first : c.isDigit = true := digits c List.mem_cons_self
    obtain ⟨taken, _⟩ := takeWhile_digits digits ends.digit
    rw [List.cons_append] at taken
    cases below <;>
      simp [exponentChars, scanExponent, first, taken, Nat.add_comm, Nat.add_left_comm]

theorem Numeral.chars_eq (n : Numeral) :
    n.chars = (if n.negative then ['-'] else []) ++
      (n.whole ++ (fractionChars n.fraction ++ exponentChars n.exponent)) := by
  unfold Decimal.Numeral.chars
  dsimp only
  rw [List.append_assoc, List.append_assoc]
  rfl

theorem exponentChars_ends {rest : List Char} (ends : EndsNumber rest) (e : Option (Bool × List Char)) :
    ∀ c ∈ (exponentChars e ++ rest).head?, c.isDigit = false ∧ c ≠ '.' := by
  cases e with
  | none =>
    intro c first
    have out := ends c first
    simp only [inNumber, Bool.or_eq_false_iff, decide_eq_false_iff_not] at out
    exact ⟨out.1.1.1, out.1.1.2⟩
  | some e =>
    intro c first
    obtain rfl : 'e' = c := by simpa [exponentChars] using first
    decide

/-- What `scanNumber` does behind the whole digits of a numeral. -/
def scanFraction (sofar : NumberScan) (rest : List Char) (p : Nat) : Except (Fault × Fault) NumberScan :=
  match rest with
  | '.' :: rest =>
    let fraction := rest.takeWhile Char.isDigit
    if fraction.isEmpty then
      if rest.isEmpty then .error (⟨.endInValue, p + 1⟩, ⟨.invalidNumber, p + 1⟩)
      else .error (twice .invalidNumber (p + 2))
    else
      let p := p + 1 + fraction.length
      scanExponent ⟨{ sofar.numeral with fraction }, p, sofar.count + 1 + fraction.length⟩
        (rest.dropWhile Char.isDigit) p
  | rest => scanExponent sofar rest p

theorem scanNumber_of_leading {whole rest : List Char} (leading : Leading whole)
    (stops : ∀ c ∈ rest.head?, c.isDigit = false) (negative : Bool) (p : Nat) :
    ∃ q, scanNumber ((if negative then ['-'] else []) ++ (whole ++ rest)) p =
      scanFraction ⟨{ negative, whole }, q, (if negative then 1 else 0) + whole.length⟩ rest q := by
  obtain ⟨digits, some, zero⟩ := leading
  obtain ⟨taken, dropped⟩ := takeWhile_digits digits stops
  obtain ⟨d, ds, rfl⟩ := List.exists_cons_of_ne_nil some
  have first : d.isDigit = true := digits d List.mem_cons_self
  have minus : d ≠ '-' := by
    rintro rfl
    exact absurd first (by decide)
  have lead : ¬(d = '0' ∧ 0 < ds.length) := by
    rintro ⟨rfl, long⟩
    exact absurd (zero rfl) (by simp only [List.length_cons]; omega)
  rw [List.cons_append] at taken dropped ⊢
  cases negative
  · refine ⟨p + (d :: ds).length, ?_⟩
    simp only [Bool.false_eq_true, if_false, List.nil_append]
    simp only [scanNumber, List.cons.injEq, minus, false_and, imp_self, implies_true, first, Bool.not_true,
      Bool.false_eq_true, ↓reduceIte, taken, List.length_cons, Nat.lt_add_left_iff_pos, lead, dropped,
      Nat.add_zero, Nat.zero_add]
    rfl
  · refine ⟨p + 1 + (d :: ds).length, ?_⟩
    simp only [scanNumber, ↓reduceIte, List.cons_append, List.nil_append, first, Bool.not_true, Bool.false_eq_true,
      taken, List.length_cons, Nat.lt_add_left_iff_pos, lead, dropped]
    rfl

theorem scanFraction_chars {ds rest : List Char} (digits : ∀ c ∈ ds, c.isDigit = true)
    (stops : ∀ c ∈ rest.head?, c.isDigit = false ∧ c ≠ '.') (s : NumberScan) (none : s.numeral.fraction = []) (p : Nat) :
    ∃ beyond q, scanFraction s (fractionChars ds ++ rest) p =
      scanExponent ⟨{ s.numeral with fraction := ds }, beyond, s.count + (fractionChars ds).length⟩ rest q := by
  cases ds with
  | nil =>
    obtain ⟨n, beyond, count⟩ := s
    obtain ⟨negative, whole, fraction, exponent⟩ := n
    subst none
    refine ⟨beyond, p, ?_⟩
    show scanFraction _ rest p = _
    unfold scanFraction
    split
    · exact absurd rfl (stops '.' rfl).2
    · rfl
  | cons d ds =>
    obtain ⟨taken, dropped⟩ := takeWhile_digits digits fun c first => (stops c first).1
    refine ⟨p + 1 + (d :: ds).length, p + 1 + (d :: ds).length, ?_⟩
    show scanFraction s ('.' :: (d :: ds ++ rest)) p = _
    have count : s.count + 1 + (d :: ds).length = s.count + (fractionChars (d :: ds)).length := by
      simp only [fractionChars, List.isEmpty_cons, Bool.false_eq_true, if_false, List.length_cons]
      omega
    rw [scanFraction, taken, dropped, if_neg (by simp), count]

theorem scanNumber_chars {n : Numeral} (proper : n.Proper) {rest : List Char} (ends : EndsNumber rest) (p : Nat) :
    ∃ beyond, scanNumber (n.chars ++ rest) p = .ok ⟨n, beyond, n.chars.length⟩ := by
  have after := exponentChars_ends ends n.exponent
  have tail : ∀ c ∈ (fractionChars n.fraction ++ (exponentChars n.exponent ++ rest)).head?, c.isDigit = false := by
    cases n.fraction with
    | nil => exact fun c first => (after c first).1
    | cons d ds =>
      intro c first
      obtain rfl : '.' = c := by simpa [fractionChars] using first
      rfl
  obtain ⟨q, scanned⟩ := scanNumber_of_leading proper.whole tail n.negative p
  obtain ⟨beyond, q', fraction⟩ := scanFraction_chars proper.fraction after
    ⟨{ negative := n.negative, whole := n.whole }, q, (if n.negative then 1 else 0) + n.whole.length⟩ rfl q
  obtain ⟨beyond', exponent⟩ := scanExponent_chars ends proper.exponent
    ⟨{ negative := n.negative, whole := n.whole, fraction := n.fraction }, beyond,
      (if n.negative then 1 else 0) + n.whole.length + (fractionChars n.fraction).length⟩ rfl q'
  have count : (if n.negative then 1 else 0) + n.whole.length + (fractionChars n.fraction).length +
      (exponentChars n.exponent).length = n.chars.length := by
    rw [Numeral.chars_eq, List.length_append, List.length_append, List.length_append, apply_ite List.length,
      Nat.add_assoc, Nat.add_assoc]
    rfl
  refine ⟨beyond', ?_⟩
  rw [← count, Numeral.chars_eq, List.append_assoc, List.append_assoc, List.append_assoc, scanned, fraction, exponent]

end PolicyLint.Json
