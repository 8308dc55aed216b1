import PolicyLint.Text.Bytes

/-!
# Punycode

Punycode writes a text in lowercase letters, digits and hyphens. The plain characters come first. The
others follow in the order of their code points, each as the count of steps from the one before it, when
all places of the text are visited once for every code point.
-/

namespace PolicyLint.Domain.Punycode

def limit : Nat := 0x100000000

def digit (n : Nat) : Char := if n < 26 then Char.ofNat (97 + n) else Char.ofNat (22 + n)

def digitValue? (c : Char) : Option Nat :=
  if c.isUpper then some (c.toNat - 65)
  else if c.isLower then some (c.toNat - 97)
  else if c.isDigit then some (c.toNat - 22)
  else none

/-- The value from which a digit is followed by another one. -/
def threshold (weight bias : Nat) : Nat := min (max (weight - bias) 1) 26

theorem one_le_threshold (weight bias : Nat) : 1 ≤ threshold weight bias := by
  unfold threshold; omega

/-- The count of divisions that make a step small, and the small step. -/
def shrink (count step : Nat) : Nat × Nat :=
  if 455 < step then shrink (count + 1) (step / 35) else (count, step)
  termination_by step
  decreasing_by omega

def nextBias (step length : Nat) (first : Bool) : Nat :=
  let step := if first then step / 700 else step / 2
  let (count, step) := shrink 0 (step + step / length)
  36 * count + 36 * step / (step + 38)

/-! ### Writing -/

def digits (bias weight step : Nat) : List Char :=
  let t := threshold weight bias
  if step < t then [digit step]
  else digit (t + (step - t) % (36 - t)) :: digits bias (weight + 36) ((step - t) / (36 - t))
  termination_by step
  decreasing_by
    have := one_le_threshold weight bias
    have : (step - threshold weight bias) / (36 - threshold weight bias) ≤ step - threshold weight bias :=
      Nat.div_le_self _ _
    omega

structure Writing where
  /-- The digits, reversed. -/
  back : List Char := []
  bias : Nat := 72
  /-- The steps since the last character that was written. -/
  steps : Nat := 0
  /-- How many characters have been written. -/
  written : Nat
  /-- No digits have been written. -/
  first : Bool := true

namespace Writing

def visit (w : Writing) (n : Nat) (c : Char) : Writing :=
  if c.toNat < n then { w with steps := w.steps + 1 }
  else if c.toNat = n then
    { back := (digits w.bias 36 w.steps).reverse ++ w.back
      bias := nextBias w.steps (w.written + 1) w.first
      steps := 0, written := w.written + 1, first := false }
  else w

/-- The whole text is visited for each of some code points in ascending order, the last one visited
being given. -/
def visitAll (text : List Char) : (last : Nat) → Writing → List Nat → Writing
  | _, w, [] => w
  | last, w, n :: rest =>
    let w := { w with steps := w.steps + (n - last) * (w.written + 1) }
    let w := text.foldl (fun w c => w.visit n c) w
    visitAll text (n + 1) { w with steps := w.steps + 1 } rest

end Writing

def encode (text : List Char) : List Char :=
  let plain := text.filter fun c => c.toNat < 0x80
  let others := (text.map Char.toNat).filter fun n => 0x80 ≤ n
  let ascending := (others.mergeSort (· ≤ ·)).eraseDups
  let w := Writing.visitAll text 0x80 { written := plain.length } ascending
  plain ++ (if plain.isEmpty then [] else ['-']) ++ w.back.reverse

/-! ### Reading -/

/-- A number at the start of a text and what follows it. The numbers so far come first. -/
def readStep (bias : Nat) : (sum factor weight : Nat) → List Char → Option (Nat × List Char)
  | _, _, _, [] => none
  | sum, factor, weight, c :: rest => do
    let d ← digitValue? c
    let sum := sum + d * factor
    if limit ≤ sum then none
    else
      let t := threshold weight bias
      if d < t then some (sum, rest)
      else if limit ≤ factor * (36 - t) then none
      else readStep bias sum (factor * (36 - t)) (weight + 36) rest

theorem length_lt_of_readStep {bias sum factor weight : Nat} {cs rest : List Char} {step : Nat}
    (h : readStep bias sum factor weight cs = some (step, rest)) : rest.length < cs.length := by
  induction cs generalizing sum factor weight with
  | nil => simp [readStep] at h
  | cons c cs ih =>
    simp only [readStep, Option.bind_eq_bind, Option.bind_eq_some_iff] at h
    obtain ⟨d, _, h⟩ := h
    split at h
    · simp at h
    · split at h
      · simp only [Option.some.injEq, Prod.mk.injEq] at h
        simp [h.2]
      · split at h
        · simp at h
        · have := ih h
          simp only [List.length_cons]
          omega

def isScalar (n : Nat) : Bool := n < 0xD800 || (0xE000 ≤ n && n < 0x110000)

/-- The text with the characters of some digits put in. The counter and the code point so far come
first. -/
def insertAll (text : List Char) (bias counter n : Nat) (cs : List Char) : Option (List Char) :=
  if cs.isEmpty then some text
  else
    match h : readStep bias counter 1 36 cs with
    | none => none
    | some (sum, rest) =>
      let length := text.length + 1
      let n := n + sum / length
      if isScalar n then
        let place := sum % length
        insertAll (text.take place ++ Char.ofNat n :: text.drop place)
          (nextBias (sum - counter) length (counter = 0)) (place + 1) n rest
      else none
  termination_by cs.length
  decreasing_by exact length_lt_of_readStep h

/-- The text that a text in Punycode stands for. -/
def decode? (cs : List Char) : Option (List Char) :=
  let back := cs.reverse
  let digits := (back.takeWhile (· != '-')).reverse
  let plain := (back.drop (digits.length + 1)).reverse
  if plain.isEmpty then insertAll [] 72 0 0x80 cs
  else insertAll (plain.map Char.toLower) 72 0 0x80 digits

end PolicyLint.Domain.Punycode
