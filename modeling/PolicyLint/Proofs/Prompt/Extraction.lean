import PolicyLint.Proofs.Json.Meaning
import PolicyLint.Proofs.Json.Quoting
import PolicyLint.Proofs.Prompt.Completion

/-!
# Where a payload stands in a completion

Prose around an object does not change what is read: no fence opens in a written value, since a line cannot end in a
string, and the first and the last brace are those of the object. A fenced object is read like the bare one unless
three backticks are quoted in it. Then the block ends there, and what is left is cut inside of a string.
-/

namespace PolicyLint

open Json (Tree Place)
open Json.Place (outside inside walk after? Stays)

/-! ### Trimming -/

namespace Text

variable {cs before : List Char}

theorem dropWhile_append_cons {f : Char → Bool} {c : Char} (stop : f c = false) (before rest : List Char) :
    (before ++ c :: rest).dropWhile f = before.dropWhile f ++ c :: rest := by
  induction before with
  | nil => simp [stop]
  | cons b before ih =>
    rw [List.cons_append, List.dropWhile_cons, List.dropWhile_cons, ih]
    split <;> rfl

theorem dropWhile_before {f : Char → Bool} {c : Char} (dropped : ∀ c ∈ before, f c = true) (stop : f c = false)
    (rest : List Char) : (before ++ c :: rest).dropWhile f = c :: rest := by
  rw [List.dropWhile_append_of_pos dropped, List.dropWhile_cons_of_neg (by simp [stop])]

theorem trim_around {c d : Char} {inner : List Char} (first : isBlank c = false) (last : isBlank d = false)
    (before behind : List Char) :
    trim (before ++ (c :: (inner ++ [d])) ++ behind) = trimLeft before ++ (c :: (inner ++ [d])) ++ trimRight behind := by
  have left : trimLeft (before ++ (c :: (inner ++ [d])) ++ behind) = trimLeft before ++ c :: (inner ++ d :: behind) := by
    rw [trimLeft, List.append_assoc, List.cons_append, dropWhile_append_cons first, List.append_assoc]
    rfl
  have turned : (trimLeft before ++ c :: (inner ++ d :: behind)).reverse =
      behind.reverse ++ d :: (trimLeft before ++ c :: inner).reverse := by simp
  rw [trim, left, trimRight, turned, dropWhile_append_cons last]
  simp [trimRight]

theorem trimLeft_blank (blank : ∀ c ∈ cs, isBlank c = true) : trimLeft cs = [] := by
  rw [trimLeft, ← List.append_nil cs, List.dropWhile_append_of_pos blank, List.dropWhile_nil]

theorem trimRight_blank (blank : ∀ c ∈ cs, isBlank c = true) : trimRight cs = [] := by
  have turned : trimLeft cs.reverse = [] := trimLeft_blank fun c member => blank c (List.mem_reverse.mp member)
  rw [trimRight, ← trimLeft, turned, List.reverse_nil]

theorem trimRight_prefix (cs : List Char) : trimRight cs <+: cs := by
  rw [trimRight, ← List.reverse_suffix, List.reverse_reverse]
  exact List.dropWhile_suffix _

theorem trim_split (cs : List Char) :
    ∃ before behind, cs = before ++ trim cs ++ behind ∧ (∀ c ∈ before, isBlank c = true) ∧
      ∀ c ∈ behind, isBlank c = true := by
  refine ⟨cs.takeWhile isBlank, ((trimLeft cs).reverse.takeWhile isBlank).reverse, ?_, ?_, ?_⟩
  · have right : trim cs ++ ((trimLeft cs).reverse.takeWhile isBlank).reverse = trimLeft cs := by
      rw [trim, trimRight, ← List.reverse_append, List.takeWhile_append_dropWhile, List.reverse_reverse]
    rw [List.append_assoc, right, trimLeft, List.takeWhile_append_dropWhile]
  · exact List.all_eq_true.mp List.all_takeWhile
  · exact fun c member => List.all_eq_true.mp List.all_takeWhile c (List.mem_reverse.mp member)

end Text

namespace Payload

/-! ### Fences -/

theorem afterFence?_some {cs body : List Char} (found : afterFence? cs = some body) :
    ∃ rest, cs = ticks ++ rest ∧
      ((rest.dropWhile isTagChar).dropWhile (fun c => c = ' ' || c = '\t') = '\n' :: body ∨
        (rest.dropWhile isTagChar).dropWhile (fun c => c = ' ' || c = '\t') = '\r' :: '\n' :: body) := by
  unfold afterFence? at found
  split at found
  · rename_i rest
    refine ⟨rest, rfl, ?_⟩
    split at found
    · rename_i line
      obtain rfl := Option.some.inj found
      exact Or.inl line
    · rename_i line
      obtain rfl := Option.some.inj found
      exact Or.inr line
    · cases found
  · cases found

theorem afterFence?_of_other {c : Char} (other : c ≠ '`') (rest : List Char) : afterFence? (c :: rest) = none := by
  cases found : afterFence? (c :: rest) with
  | none => rfl
  | some body =>
    obtain ⟨_, shape, _⟩ := afterFence?_some found
    exact absurd (List.cons.inj shape).1 other

theorem fenced?_of_plain {cs : List Char} (plain : '`' ∉ cs) (rest : List Char) : fenced? (cs ++ rest) = fenced? rest := by
  induction cs with
  | nil => rfl
  | cons c cs ih =>
    rw [List.mem_cons, not_or] at plain
    rw [List.cons_append, fenced?, afterFence?_of_other (Ne.symm plain.1)]
    exact ih plain.2

theorem fenced?_plain {cs : List Char} (plain : '`' ∉ cs) : fenced? cs = none := by
  rw [← List.append_nil cs, fenced?_of_plain plain]
  rfl

theorem fenced?_of_opening {cs block body : List Char} (opens : afterFence? cs = some block)
    (ends : beforeTicks? block = some body) : fenced? cs = some body := by
  cases cs with
  | nil => cases opens
  | cons c cs => rw [fenced?, opens, Option.bind_some, ends]

theorem stays_of_mem_ticks (c : Char) (member : c ∈ ticks) : Stays c := by
  obtain rfl : c = '`' := by simpa [ticks] using member
  decide

theorem stays_of_isTagChar (c : Char) (tag : isTagChar c = true) : Stays c := by
  constructor <;> rintro rfl <;> exact absurd tag (by decide)

theorem stays_of_indent (c : Char) (indent : (c = ' ' || c = '\t') = true) : Stays c := by
  constructor <;> rintro rfl <;> exact absurd indent (by decide)

/-- The text begins inside of a string that is closed before its last part. -/
def Leaves (behind cs : List Char) : Prop := ∃ part, cs = part ++ behind ∧ walk inside part = some outside

namespace Leaves

variable {behind run cs : List Char} {c : Char}

theorem next (leaves : Leaves behind (c :: cs)) :
    ∃ p part, cs = part ++ behind ∧ after? inside c = some p ∧ walk p part = some outside := by
  obtain ⟨part, shape, closes⟩ := leaves
  cases part with
  | nil => cases closes
  | cons first part =>
    obtain ⟨rfl, rfl⟩ := List.cons.inj shape
    obtain ⟨p, next, later⟩ := Json.Place.walk_uncons closes
    exact ⟨p, part, rfl, next, later⟩

theorem of_append (leaves : Leaves behind (run ++ cs)) (stays : ∀ c ∈ run, Stays c) : Leaves behind cs := by
  induction run with
  | nil => exact leaves
  | cons c run ih =>
    obtain ⟨first, later⟩ := List.forall_mem_cons.mp stays
    obtain ⟨p, part, shape, next, closes⟩ := leaves.next
    obtain rfl := first.after? next
    exact ih ⟨part, shape, closes⟩ later

theorem dropWhile (leaves : Leaves behind cs) {f : Char → Bool} (stays : ∀ c, f c = true → Stays c) :
    Leaves behind (cs.dropWhile f) := by
  rw [← List.takeWhile_append_dropWhile (p := f) (l := cs)] at leaves
  exact leaves.of_append fun c member => stays c (List.all_eq_true.mp List.all_takeWhile c member)

end Leaves

theorem afterFence?_of_walk {p : Place} {cs behind : List Char} (closes : walk p cs = some outside) (plain : '`' ∉ behind) :
    afterFence? (cs ++ behind) = none := by
  cases found : afterFence? (cs ++ behind) with
  | none => rfl
  | some body =>
    obtain ⟨rest, shape, line⟩ := afterFence?_some found
    have opening : Leaves behind (ticks ++ rest) := by
      cases cs with
      | nil =>
        obtain rfl : behind = ticks ++ rest := shape
        exact absurd List.mem_cons_self plain
      | cons c cs =>
        obtain rfl : c = '`' := (List.cons.inj shape).1
        obtain ⟨_, next, _⟩ := Json.Place.walk_uncons closes
        obtain rfl := (Json.Place.inside_of_backtick next).1
        exact ⟨_, shape.symm, closes⟩
    -- the line of the fence would end inside of the string
    have ending := ((opening.of_append stays_of_mem_ticks).dropWhile stays_of_isTagChar).dropWhile stays_of_indent
    rcases line with line | line
    · obtain ⟨_, _, _, next, _⟩ := (line ▸ ending).next
      cases next
    · obtain ⟨_, _, _, next, _⟩ := (line ▸ ending).next
      cases next

theorem fenced?_of_walk {p : Place} {cs behind : List Char} (closes : walk p cs = some outside) (plain : '`' ∉ behind) :
    fenced? (cs ++ behind) = none := by
  induction cs generalizing p with
  | nil => exact fenced?_plain plain
  | cons c cs ih =>
    obtain ⟨q, _, later⟩ := Json.Place.walk_uncons closes
    rw [List.cons_append, fenced?, ← List.cons_append, afterFence?_of_walk closes plain]
    exact ih later

/-! ### Objects between prose -/

/-- A text without braces and backticks. -/
def Prose (cs : List Char) : Prop := ∀ c ∈ cs, c ≠ '\x7b' ∧ c ≠ '\x7d' ∧ c ≠ '`'

instance decidableProse (cs : List Char) : Decidable (Prose cs) :=
  List.decidableBAll (fun c => c ≠ '\x7b' ∧ c ≠ '\x7d' ∧ c ≠ '`') cs

namespace Prose

variable {cs cs' : List Char}

theorem plain (prose : Prose cs) : '`' ∉ cs := fun member => (prose _ member).2.2 rfl

theorem of_blank (blank : ∀ c ∈ cs, Text.isBlank c = true) : Prose cs := by
  intro c member
  have space := blank c member
  refine ⟨?_, ?_, ?_⟩ <;> rintro rfl <;> exact absurd space (by decide)

theorem mono (prose : Prose cs) (part : cs' <:+: cs) : Prose cs' := fun c member => prose c (part.subset member)

end Prose

structure ObjectText (members : List (List Char × Tree)) (cs : List Char) : Prop where
  braces : ∃ inner, cs = '\x7b' :: (inner ++ ['\x7d'])
  written : (Tree.object members).Written cs

theorem isBlank_of_isSpace {c : Char} (space : Json.isSpace c = true) : Text.isBlank c = true := by
  simp only [Json.isSpace, Bool.or_eq_true, decide_eq_true_eq] at space
  rcases space with ((rfl | rfl) | rfl) | rfl <;> decide

theorem objectText_of_written {members : List (List Char × Tree)} {cs : List Char} (written : (Tree.object members).Written cs) :
    ∃ before object behind, cs = before ++ object ++ behind ∧ (∀ c ∈ before, Text.isBlank c = true) ∧
      ObjectText members object ∧ ∀ c ∈ behind, Text.isBlank c = true := by
  obtain ⟨_, lexed, spaced⟩ := written
  cases lexed with | object lexed =>
  obtain ⟨before, inner, behind, shape, blank, here, blank'⟩ := spaced.enclosed
  have core := here.append (.lexeme (l := ['\x7d']) .nil)
  have text : ObjectText members ('\x7b' :: (inner ++ ['\x7d'])) := ⟨⟨inner, rfl⟩, _, .object lexed, .lexeme (l := ['\x7b']) core⟩
  exact ⟨before, _, behind, shape, fun c member => isBlank_of_isSpace (blank c member), text,
    fun c member => isBlank_of_isSpace (blank' c member)⟩

theorem objectText_compact {ms : List (String × Json)} (proper : (Json.object ms).Proper) :
    ∃ members, ObjectText members (Json.object ms).compact := by
  obtain ⟨t, written, means⟩ := Json.writtenAs_compact proper
  cases means with
  | object _ => exact ⟨_, ⟨_, rfl⟩, written⟩

section ObjectText

variable {members : List (List Char × Tree)} {object : List Char}

theorem ObjectText.trim (text : ObjectText members object) (before behind : List Char) :
    Text.trim (before ++ object ++ behind) = Text.trimLeft before ++ object ++ Text.trimRight behind := by
  obtain ⟨inner, rfl⟩ := text.braces
  exact Text.trim_around (by decide) (by decide) before behind

theorem ObjectText.braced {before behind : List Char} (text : ObjectText members object) (prose : Prose before)
    (prose' : Prose behind) : Payload.braced (before ++ object ++ behind) = object := by
  obtain ⟨inner, rfl⟩ := text.braces
  have opening : (before ++ ('\x7b' :: (inner ++ ['\x7d'])) ++ behind).dropWhile (· ≠ '\x7b') =
      '\x7b' :: (inner ++ '\x7d' :: behind) := by
    rw [List.append_assoc, List.cons_append, List.append_assoc]
    exact Text.dropWhile_before (fun c member => by simp [(prose c member).1]) (by decide) _
  have closing : ('\x7b' :: (inner ++ '\x7d' :: behind)).reverse.dropWhile (· ≠ '\x7d') =
      '\x7d' :: (inner.reverse ++ ['\x7b']) := by
    have turned : ('\x7b' :: (inner ++ '\x7d' :: behind)).reverse = behind.reverse ++ '\x7d' :: (inner.reverse ++ ['\x7b']) := by simp
    rw [turned]
    exact Text.dropWhile_before (fun c member => by simp [(prose' c (List.mem_reverse.mp member)).2.1]) (by decide) _
  rw [Payload.braced, opening, closing]
  simp

theorem extract_of_prose {before behind : List Char} (text : ObjectText members object) (prose : Prose before)
    (prose' : Prose behind) : extract (before ++ object ++ behind) = object := by
  have left : Prose (Text.trimLeft before) := prose.mono (List.dropWhile_suffix _).isInfix
  have right : Prose (Text.trimRight behind) := prose'.mono (Text.trimRight_prefix behind).isInfix
  have fence : fenced? (Text.trimLeft before ++ object ++ Text.trimRight behind) = none := by
    rw [List.append_assoc, fenced?_of_plain left.plain, fenced?_of_walk text.written.walk right.plain]
  have some : object.isEmpty = false := by
    obtain ⟨inner, rfl⟩ := text.braces
    rfl
  unfold extract
  rw [text.trim]
  simp only [fence, text.braced left right, some, Bool.false_eq_true, if_false]

end ObjectText

/-! ### Fenced objects -/

/-- A text between a fence with a language tag and a fence. -/
def fencedText (tag cs : List Char) : List Char := ticks ++ (tag ++ '\n' :: (cs ++ '\n' :: ticks))

theorem beforeTicks?_of_plain {cs : List Char} (plain : ¬ticks <:+: cs) :
    beforeTicks? (cs ++ '\n' :: ticks) = some (cs ++ ['\n']) := by
  induction cs with
  | nil => rfl
  | cons c cs ih =>
    have here : ¬ticks <+: c :: cs ++ '\n' :: ticks := by
      intro start
      -- the line feed stands too early for three backticks to reach behind it
      match cs with
      | [] => simp [ticks] at start
      | [d] => simp [ticks] at start
      | d :: e :: rest =>
        obtain ⟨_, shape⟩ := start
        simp only [ticks, List.cons_append, List.nil_append, List.cons.injEq] at shape
        obtain ⟨rfl, rfl, rfl, _⟩ := shape
        exact plain ⟨[], rest, rfl⟩
    have later := ih fun part => plain (List.infix_cons part)
    rw [List.cons_append, beforeTicks?, ← List.cons_append, if_neg (by simpa using here), later]
    rfl

theorem beforeTicks?_of_infix {cs : List Char} (quoted : ticks <:+: cs) (rest : List Char) :
    ∃ body behind, beforeTicks? (cs ++ rest) = some body ∧ cs = body ++ '`' :: behind := by
  induction cs with
  | nil => exact absurd (List.infix_nil.mp quoted) (by decide)
  | cons c cs ih =>
    rw [List.cons_append, beforeTicks?, ← List.cons_append]
    by_cases here : ticks <+: c :: cs ++ rest
    · obtain ⟨_, shape⟩ := here
      obtain rfl : c = '`' := (List.cons.inj shape).1.symm
      exact ⟨[], cs, by rw [if_pos]; simpa using ⟨_, shape⟩, rfl⟩
    · have later : ticks <:+: cs := by
        rcases List.infix_cons_iff.mp quoted with start | later
        · exact absurd (start.trans (List.prefix_append _ _)) here
        · exact later
      obtain ⟨body, behind, found, rfl⟩ := ih later
      exact ⟨c :: body, behind, by rw [if_neg (by simpa using here), found]; rfl, rfl⟩

theorem afterFence?_fencedText {tag : List Char} (tagged : ∀ c ∈ tag, isTagChar c = true) (cs : List Char) :
    afterFence? (fencedText tag cs) = some (cs ++ '\n' :: ticks) := by
  have line := Text.dropWhile_before tagged (show isTagChar '\n' = false by decide) (cs ++ '\n' :: ticks)
  simp only [fencedText, ticks, List.cons_append, List.nil_append, afterFence?] at line ⊢
  rw [line, List.dropWhile_cons_of_neg (by decide)]
  rfl

theorem extract_fencedText {tag cs body : List Char} (tagged : ∀ c ∈ tag, isTagChar c = true)
    (ends : beforeTicks? (cs ++ '\n' :: ticks) = some body) : extract (fencedText tag cs) = Text.trim body := by
  have solid : Text.trim (fencedText tag cs) = fencedText tag cs := by
    have shape : fencedText tag cs = [] ++ ('`' :: ('`' :: '`' :: (tag ++ '\n' :: (cs ++ ['\n', '`', '`'])) ++ ['`'])) ++ [] := by
      simp [fencedText, ticks]
    rw [shape]
    exact Text.trim_around (by decide) (by decide) [] []
  have fence := fenced?_of_opening (afterFence?_fencedText tagged cs) ends
  unfold extract
  rw [solid]
  simp only [fence]

/-- A part of a written value that ends inside of a string is no value, with or without blanks around it. -/
theorem not_written_of_cut {cs : List Char} (cut : walk outside cs = some inside) (t : Tree) : ¬t.Written (Text.trim cs) := by
  intro written
  obtain ⟨before, behind, shape, blank, blank'⟩ := Text.trim_split cs
  have silent : ∀ c, Text.isBlank c = true → c ≠ '"' ∧ c ≠ '`' := by
    intro c space
    constructor <;> rintro rfl <;> exact absurd space (by decide)
  have left := Json.Place.walk_outside fun c member => silent c (blank c member)
  have right := Json.Place.walk_outside fun c member => silent c (blank' c member)
  rw [shape, Json.Place.walk_trans (Json.Place.walk_trans left written.walk) right] at cut
  cases cut

end Payload

open Payload (Prose ObjectText ticks isTagChar fencedText)

/-! ### Completions -/

theorem readCompletion_ofList (cs : List Char) (path rule : String) :
    readCompletion (String.ofList cs) path rule =
      match Payload.decoder.ofChars (Payload.extract cs) with
      | .ok violations => .ok (violations.map (Violation.toFinding path rule))
      | .error fault => .error ("Malformed completion: " ++ fault.message (Payload.extract cs)) := by
  have chars : (String.ofList cs).toList = cs := String.toList_ofList
  generalize String.ofList cs = text at chars ⊢
  subst chars
  rfl

/-- Prose and blanks around an object do not change what is read. The findings are the violations of the object itself,
and if it has not the shape of a payload, that is a fault which may pass. -/
theorem readCompletion_of_prose (task : Task) (completion : Completion) (attempts left : Nat)
    {members : List (List Char × Tree)} {before object behind : List Char} (text : ObjectText members object)
    (prose : Prose before) (prose' : Prose behind) (said : completion.text = String.ofList (before ++ object ++ behind)) :
    (∀ violations, Payload.decoder.ofChars object = .ok violations →
      let findings := violations.map (Violation.toFinding task.file.path task.rule.name)
      readCompletion completion.text task.file.path task.rule.name = .ok findings ∧
        Conclusion.ofOutcome task attempts left (.ok completion) = .judged findings) ∧
    ∀ fault, Payload.decoder.ofChars object = .error fault →
      let why := "Malformed completion: " ++ fault.message object
      readCompletion completion.text task.file.path task.rule.name = .error why ∧
        Conclusion.ofOutcome task attempts left (.ok completion) = .ofTransient why attempts left := by
  have payload := Payload.extract_of_prose text prose prose'
  constructor
  · intro violations decoded
    have accepted : readCompletion completion.text task.file.path task.rule.name =
        .ok (violations.map (Violation.toFinding task.file.path task.rule.name)) := by
      rw [said, readCompletion_ofList, payload, decoded]
    exact ⟨accepted, by simp only [Conclusion.ofOutcome, accepted]⟩
  · intro fault refused
    have refused : readCompletion completion.text task.file.path task.rule.name =
        .error ("Malformed completion: " ++ fault.message object) := by
      rw [said, readCompletion_ofList, payload, refused]
    exact ⟨refused, by simp only [Conclusion.ofOutcome, refused]⟩

/-- A payload with one violation, whose message has three backticks in it. -/
def tickingMembers : List (String × Json) := [("violations", .array [.object [("message", .string "```")]])]

theorem proper_ticking : (Json.object tickingMembers).Proper := ⟨⟨⟨trivial, trivial⟩, trivial⟩, trivial⟩

theorem readCompletion_of_prose_of_greeting :
    let object := (Json.object tickingMembers).compact
    let before := "Sure! Here you go:\n".toList
    let behind := "\nHope this helps.".toList
    let task : Task := { file := ⟨"a.ts", "let a;"⟩, rule := { name := "no-let" }, model := {} }
    (∃ members, ObjectText members object) ∧ Prose before ∧ Prose behind ∧
      readCompletion (String.ofList (before ++ object ++ behind)) task.file.path task.rule.name =
        .ok [{ rule := "no-let", path := "a.ts", message := "```" }] := by
  intro object before behind task
  obtain ⟨members, text⟩ := Payload.objectText_compact proper_ticking
  have prose : Prose before := by decide
  have prose' : Prose behind := by decide
  have decoded : Payload.decoder.ofChars object = .ok [{ message := "```" }] := by decide +kernel
  exact ⟨⟨members, text⟩, prose, prose', ((readCompletion_of_prose task ⟨_, 0, 0⟩ 1 0 text prose prose' rfl).1 _ decoded).1⟩

/-- A fenced object reads like the bare one as long as it has no three backticks in a row. With three backticks in it,
the block ends there, and what is left cannot be read. -/
theorem readCompletion_fencedText {members : List (List Char × Tree)} {tag object : List Char}
    (written : (Tree.object members).Written object) (tagged : ∀ c ∈ tag, isTagChar c = true) (path rule : String) :
    (¬ticks <:+: object → readCompletion (String.ofList (fencedText tag object)) path rule =
      readCompletion (String.ofList object) path rule) ∧
    (ticks <:+: object → ∃ why, readCompletion (String.ofList (fencedText tag object)) path rule =
      .error ("Malformed completion: " ++ why)) := by
  constructor
  · intro plain
    obtain ⟨before, core, behind, rfl, blank, text, blank'⟩ := Payload.objectText_of_written written
    have bare := Payload.extract_of_prose text (.of_blank blank) (.of_blank blank')
    have fenced : Payload.extract (fencedText tag (before ++ core ++ behind)) = core := by
      have ending : ∀ c ∈ behind ++ ['\n'], Text.isBlank c = true :=
        List.forall_mem_append.mpr ⟨blank', List.forall_mem_singleton.mpr (by decide)⟩
      rw [Payload.extract_fencedText tagged (Payload.beforeTicks?_of_plain plain), List.append_assoc, text.trim,
        Text.trimLeft_blank blank, Text.trimRight_blank ending, List.nil_append, List.append_nil]
    rw [readCompletion_ofList, readCompletion_ofList, bare, fenced]
  · intro quoted
    obtain ⟨body, behind, ends, shape⟩ := Payload.beforeTicks?_of_infix quoted ('\n' :: ticks)
    have cut : walk outside body = some inside := Json.Place.walk_inside_of_backtick (shape ▸ written.walk)
    rw [readCompletion_ofList, Payload.extract_fencedText tagged ends]
    cases decoded : Payload.decoder.ofChars (Text.trim body) with
    | error fault => exact ⟨_, rfl⟩
    | ok violations =>
      obtain ⟨t, _, within, _⟩ := Payload.thorough_decoder.written decoded
      exact absurd within (Payload.not_written_of_cut cut t)

theorem readCompletion_fencedText_of_ticking :
    let object := (Json.object tickingMembers).compact
    ticks <:+: object ∧ (∀ c ∈ "json".toList, isTagChar c = true) ∧
      ∃ why, readCompletion (String.ofList (fencedText "json".toList object)) "a.ts" "no-let" =
        .error ("Malformed completion: " ++ why) := by
  intro object
  have quoted : ticks <:+: object := by decide +kernel
  have tagged : ∀ c ∈ "json".toList, isTagChar c = true := List.all_eq_true.mp (by decide)
  obtain ⟨_, text⟩ := Payload.objectText_compact proper_ticking
  exact ⟨quoted, tagged, (readCompletion_fencedText text.written tagged "a.ts" "no-let").2 quoted⟩

/-- It is not so that every object which is accepted bare reads the same between fences. -/
theorem not_fenced_as_bare :
    ¬∀ (members : List (List Char × Tree)) (object tag : List Char) (path rule : String) (findings : List Finding),
      ObjectText members object →
      (∀ c ∈ tag, isTagChar c = true) → readCompletion (String.ofList object) path rule = .ok findings →
      readCompletion (String.ofList (fencedText tag object)) path rule = .ok findings := by
  intro documented
  obtain ⟨members, text⟩ := Payload.objectText_compact proper_ticking
  have bare : readCompletion (String.ofList (Json.object tickingMembers).compact) "a.ts" "no-let" =
      .ok [{ rule := "no-let", path := "a.ts", message := "```" }] := by decide +kernel
  have fenced : (readCompletion (String.ofList (fencedText "json".toList (Json.object tickingMembers).compact)) "a.ts"
      "no-let").toOption = none := by decide +kernel
  rw [documented members _ "json".toList _ _ _ text (List.all_eq_true.mp (by decide)) bare] at fenced
  cases fenced

end PolicyLint
