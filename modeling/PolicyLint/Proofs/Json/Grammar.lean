import PolicyLint.Json.Token
import PolicyLint.Proofs.Decimal.Numeral

/-!
# The grammar of JSON texts

A `Tree` is a value as a text writes it: numbers and strings are kept as their characters, since a value that
nothing asks for may have a number out of range or a string that denotes no text. `t.Written cs` says that the
lexemes of a tree stand in a text one after the other, with nothing but blanks around them.
-/

namespace PolicyLint.Json

open Decimal (Leading)

/-! ### Strings -/

/-- What may stand between the quotes of a string. -/
inductive Body : List Char → Prop where
  | nil : Body []
  | plain {c : Char} {body : List Char} :
      c ≠ '"' → c ≠ '\\' → 0x20 ≤ c.toNat → Body body → Body (c :: body)
  | short {l e : Char} {body : List Char} :
      shortEscape? l = some e → Body body → Body ('\\' :: l :: body)
  | hex {a b c d : Char} {n : Nat} {body : List Char} :
      hexValue4? a b c d = some n → Body body → Body ('\\' :: 'u' :: a :: b :: c :: d :: body)

/-- The text that stands between the quotes. A surrogate without its partner is no part of a text. -/
inductive Denotes : List Char → List Char → Prop where
  | nil : Denotes [] []
  | plain {c : Char} {body text : List Char} :
      c ≠ '"' → c ≠ '\\' → 0x20 ≤ c.toNat → Denotes body text → Denotes (c :: body) (c :: text)
  | short {l e : Char} {body text : List Char} :
      shortEscape? l = some e → Denotes body text → Denotes ('\\' :: l :: body) (e :: text)
  | hex {a b c d : Char} {n : Nat} {body text : List Char} :
      hexValue4? a b c d = some n → isLowSurrogate n = false → isHighSurrogate n = false →
      Denotes body text → Denotes ('\\' :: 'u' :: a :: b :: c :: d :: body) (Char.ofNat n :: text)
  | pair {a b c d a' b' c' d' : Char} {n m : Nat} {body text : List Char} :
      hexValue4? a b c d = some n → isHighSurrogate n = true →
      hexValue4? a' b' c' d' = some m → isLowSurrogate m = true → Denotes body text →
      Denotes ('\\' :: 'u' :: a :: b :: c :: d :: '\\' :: 'u' :: a' :: b' :: c' :: d' :: body)
        (ofSurrogates n m :: text)

def quoted (body : List Char) : List Char := '"' :: (body ++ ['"'])

/-! ### Numbers -/

structure Digits (ds : List Char) : Prop where
  some : ds ≠ []
  digits : ∀ c ∈ ds, c.isDigit = true

inductive Fraction : List Char → Prop where
  | none : Fraction []
  | some {ds : List Char} : Digits ds → Fraction ('.' :: ds)

inductive Exponent : List Char → Prop where
  | none : Exponent []
  | bare {e : Char} {ds : List Char} : e = 'e' ∨ e = 'E' → Digits ds → Exponent (e :: ds)
  | signed {e s : Char} {ds : List Char} :
      e = 'e' ∨ e = 'E' → s = '+' ∨ s = '-' → Digits ds → Exponent (e :: s :: ds)

inductive Unsigned : List Char → Prop where
  | parts {whole fraction exponent : List Char} :
      Leading whole → Fraction fraction → Exponent exponent → Unsigned (whole ++ (fraction ++ exponent))

inductive Numeric : List Char → Prop where
  | positive {cs : List Char} : Unsigned cs → Numeric cs
  | negative {cs : List Char} : Unsigned cs → Numeric ('-' :: cs)

/-! ### Values -/

/-- A value, with its numbers and strings as they are written. -/
inductive Tree where
  | null
  | bool (b : Bool)
  | number (cs : List Char)
  | string (body : List Char)
  | array (items : List Tree)
  | object (members : List (List Char × Tree))

mutual

inductive Tree.Lexed : Tree → List (List Char) → Prop where
  | null : Tree.Lexed .null [['n', 'u', 'l', 'l']]
  | true : Tree.Lexed (.bool true) [['t', 'r', 'u', 'e']]
  | false : Tree.Lexed (.bool false) [['f', 'a', 'l', 's', 'e']]
  | number {cs : List Char} : Numeric cs → Tree.Lexed (.number cs) [cs]
  | string {body : List Char} : Body body → Tree.Lexed (.string body) [quoted body]
  | array {items : List Tree} {ls : List (List Char)} :
      ItemsLexed items ls → Tree.Lexed (.array items) (['['] :: (ls ++ [[']']]))
  | object {members : List (List Char × Tree)} {ls : List (List Char)} :
      MembersLexed members ls → Tree.Lexed (.object members) (['\x7b'] :: (ls ++ [['\x7d']]))

inductive ItemsLexed : List Tree → List (List Char) → Prop where
  | none : ItemsLexed [] []
  | last {t : Tree} {ls : List (List Char)} : Tree.Lexed t ls → ItemsLexed [t] ls
  | more {t next : Tree} {rest : List Tree} {ls ls' : List (List Char)} :
      Tree.Lexed t ls → ItemsLexed (next :: rest) ls' → ItemsLexed (t :: next :: rest) (ls ++ [','] :: ls')

inductive MembersLexed : List (List Char × Tree) → List (List Char) → Prop where
  | none : MembersLexed [] []
  | last {name : List Char} {t : Tree} {ls : List (List Char)} :
      Body name → Tree.Lexed t ls → MembersLexed [(name, t)] (quoted name :: [':'] :: ls)
  | more {name : List Char} {t : Tree} {next : List Char × Tree} {rest : List (List Char × Tree)}
      {ls ls' : List (List Char)} :
      Body name → Tree.Lexed t ls → MembersLexed (next :: rest) ls' →
      MembersLexed ((name, t) :: next :: rest) (quoted name :: [':'] :: (ls ++ [','] :: ls'))

end

/-- A text of lexemes with blanks before, between and behind them. -/
inductive Spaced : List (List Char) → List Char → Prop where
  | nil : Spaced [] []
  | blank {c : Char} {ls : List (List Char)} {cs : List Char} :
      isSpace c = true → Spaced ls cs → Spaced ls (c :: cs)
  | lexeme {l : List Char} {ls : List (List Char)} {cs : List Char} :
      Spaced ls cs → Spaced (l :: ls) (l ++ cs)

/-! ### Lexemes one after the other -/

namespace Spaced

variable {ls ls' : List (List Char)} {l cs bs : List Char} {c o : Char}

theorem blanks (spaced : Spaced [] cs) : ∀ c ∈ cs, isSpace c = true := by
  generalize none : ([] : List (List Char)) = ls at spaced
  induction spaced with
  | nil => nofun
  | blank space _ ih => exact List.forall_mem_cons.mpr ⟨space, ih none⟩
  | lexeme => cases none

theorem of_blanks (blank : ∀ c ∈ cs, isSpace c = true) : Spaced [] cs := by
  induction cs with
  | nil => exact .nil
  | cons c cs ih =>
    obtain ⟨space, later⟩ := List.forall_mem_cons.mp blank
    exact .blank space (ih later)

theorem append (before : Spaced ls cs) (behind : Spaced ls' bs) : Spaced (ls ++ ls') (cs ++ bs) := by
  induction before with
  | nil => exact behind
  | blank space _ ih => exact .blank space ih
  | lexeme _ ih =>
    rw [List.cons_append, List.append_assoc]
    exact .lexeme ih

theorem uncons (spaced : Spaced (l :: ls) cs) :
    ∃ bs rest, cs = bs ++ (l ++ rest) ∧ (∀ c ∈ bs, isSpace c = true) ∧ Spaced ls rest := by
  generalize shape : l :: ls = all at spaced
  induction spaced with
  | nil => cases shape
  | blank space _ ih =>
    obtain ⟨bs, rest, rfl, blank, later⟩ := ih shape
    exact ⟨_ :: bs, rest, rfl, List.forall_mem_cons.mpr ⟨space, blank⟩, later⟩
  | lexeme later =>
    obtain ⟨rfl, rfl⟩ := List.cons.inj shape
    exact ⟨[], _, rfl, nofun, later⟩

theorem split (spaced : Spaced (ls ++ ls') cs) : ∃ before behind, cs = before ++ behind ∧ Spaced ls before ∧ Spaced ls' behind := by
  generalize shape : ls ++ ls' = all at spaced
  induction spaced generalizing ls with
  | nil =>
    obtain ⟨rfl, rfl⟩ := List.append_eq_nil_iff.mp shape
    exact ⟨[], [], rfl, .nil, .nil⟩
  | blank space _ ih =>
    obtain ⟨before, behind, rfl, here, later⟩ := ih shape
    exact ⟨_ :: before, behind, rfl, .blank space here, later⟩
  | @lexeme l all cs later ih =>
    cases ls with
    | nil =>
      obtain rfl : ls' = l :: all := shape
      exact ⟨[], l ++ cs, rfl, .nil, .lexeme later⟩
    | cons first ls =>
      obtain ⟨rfl, rest⟩ := List.cons.inj shape
      obtain ⟨before, behind, rfl, here, later⟩ := ih rest
      exact ⟨first ++ before, behind, (List.append_assoc ..).symm, .lexeme here, later⟩

/-- The text before and behind a lexeme of one character. -/
theorem at_mark (spaced : Spaced (ls ++ [c] :: ls') cs) :
    ∃ before behind, cs = before ++ c :: behind ∧ Spaced ls before ∧ Spaced ls' behind := by
  obtain ⟨before, _, rfl, here, later⟩ := spaced.split
  obtain ⟨bs, behind, rfl, blank, later⟩ := later.uncons
  have here : Spaced (ls ++ []) (before ++ bs) := here.append (.of_blanks blank)
  exact ⟨before ++ bs, behind, (List.append_assoc ..).symm, List.append_nil ls ▸ here, later⟩

/-- The text between two lexemes of one character. -/
theorem enclosed (spaced : Spaced ([o] :: (ls ++ [[c]])) cs) :
    ∃ before inner behind, cs = before ++ (o :: (inner ++ [c])) ++ behind ∧ (∀ c ∈ before, isSpace c = true) ∧
      Spaced ls inner ∧ ∀ c ∈ behind, isSpace c = true := by
  obtain ⟨before, _, rfl, blank, later⟩ := spaced.uncons
  obtain ⟨inner, behind, rfl, here, last⟩ := later.at_mark
  exact ⟨before, inner, behind, by simp, blank, here, last.blanks⟩

end Spaced

namespace Tree

/-- The text is this value and nothing more. -/
def Written (t : Tree) (cs : List Char) : Prop := ∃ ls, t.Lexed ls ∧ Spaced ls cs

def Denotes (t : Tree) (text : String) : Prop := ∃ body, t = .string body ∧ Json.Denotes body text.toList

def Has (t : Tree) (name : String) (value : Tree) : Prop :=
  ∃ members body, t = .object members ∧ (body, value) ∈ members ∧ Json.Denotes body name.toList

end Tree

end PolicyLint.Json
