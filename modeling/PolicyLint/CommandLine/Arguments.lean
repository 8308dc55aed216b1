import PolicyLint.Report.Basic

/-!
# Arguments

The words of a command line are read one after the other, first on the level of the program and, from the
name of a command on, on the level of that command. The first word that cannot be read decides, unless a
page was asked for before it.
-/

namespace PolicyLint.CommandLine

/-- A text that is shown instead of a run. -/
inductive Page where
  | version
  | usage
  deriving DecidableEq, Repr

inductive UsageFault where
  | unknownOption (word : String)
  | unexpectedWord (word : String)
  | unexpectedValue (option : String)
  | missingValue (option : String)
  | repeated (option : String)
  | badValue (option value : String)
  | noCommand
  | unknownCommand (name : String)
  | noPatterns
  deriving DecidableEq, Repr

namespace UsageFault

def message : UsageFault → String
  | unknownOption word => "unknown option '" ++ word ++ "'"
  | unexpectedWord word => "unexpected argument '" ++ word ++ "'"
  | unexpectedValue option => "option '" ++ option ++ "' takes no value"
  | missingValue option => "option '" ++ option ++ "' needs a value"
  | repeated option => "option '" ++ option ++ "' is given twice"
  | badValue option value => "invalid value '" ++ value ++ "' for option '" ++ option ++ "'"
  | noCommand => "a command is needed: lint or eval"
  | unknownCommand name => "unknown command '" ++ name ++ "'"
  | noPatterns => "at least one pattern is needed"

end UsageFault

inductive Ending where
  | refused (fault : UsageFault)
  | shown (page : Page)
  deriving DecidableEq, Repr

/-! ### Options -/

/-- What an option does to the settings read so far. -/
inductive Action (α : Type) where
  /-- It stands alone. It leads to none if it is given twice. -/
  | mark (set : α → Option α)
  /-- It takes a value. A value that cannot be read leads to none, and so does, once the value is read,
  an option that is given twice. -/
  | take (read : String → Option (α → Option α))
  /-- It asks for a page. -/
  | tell (page : Page)

def Action.taking {α β : Type} (read : String → Option β) (set : β → α → Option α) : Action α :=
  .take fun value => (read value).map set

structure Flag (α : Type) where
  long : String
  short : Option Char := none
  action : Action α

namespace Flag

variable {α : Type}

def text (f : Flag α) : String := "--" ++ f.long

def alone (f : Flag α) (settings : α) : Except Ending α :=
  match f.action with
  | .mark set =>
    match set settings with
    | some settings => .ok settings
    | none => .error (.refused (.repeated f.text))
  | .take _ => .error (.refused (.missingValue f.text))
  | .tell page => .error (.shown page)

def withValue (f : Flag α) (value : String) (settings : α) : Except Ending α :=
  match f.action with
  | .take read =>
    match read value with
    | none => .error (.refused (.badValue f.text value))
    | some set =>
      match set settings with
      | some settings => .ok settings
      | none => .error (.refused (.repeated f.text))
  | .mark _ | .tell _ => .error (.refused (.unexpectedValue f.text))

def takesValue (f : Flag α) : Bool :=
  match f.action with
  | .take _ => true
  | .mark _ | .tell _ => false

end Flag

/-! ### Levels -/

/-- The words of a level: its options, and what a word that is none leads to. -/
structure Level (α : Type) where
  flags : List (Flag α)
  word : α → String → Except Ending α

structure Progress (α : Type) where
  settings : α
  /-- The option that waits for its value. -/
  waiting : Option (Flag α) := none
  /-- No option follows any more. -/
  ended : Bool := false

def isOptionWord (word : String) : Bool :=
  match word.toList with
  | '-' :: _ :: _ => true
  | _ => false

namespace Level

variable {α : Type}

def readLong (l : Level α) (word name : String) (value : Option String) (settings : α) :
    Except Ending (Progress α) :=
  match l.flags.find? (·.long = name), value with
  | none, _ => .error (.refused (.unknownOption word))
  | some f, some v => (f.withValue v settings).map fun settings => { settings }
  | some f, none =>
    if f.takesValue then .ok { settings, waiting := some f }
    else (f.alone settings).map fun settings => { settings }

/-- Reads options of one letter each. What follows one that takes a value is its value. -/
def readShort (l : Level α) (word : String) :
    (letters : List Char) → (settings : α) → Except Ending (Progress α)
  | [], settings => .ok { settings }
  | letter :: rest, settings =>
    match l.flags.find? (·.short = some letter) with
    | none => .error (.refused (.unknownOption word))
    | some f =>
      if f.takesValue then
        match rest with
        | [] => .ok { settings, waiting := some f }
        | '=' :: value | value =>
          (f.withValue (String.ofList value) settings).map fun settings => { settings }
      else do l.readShort word rest (← f.alone settings)

def readOption (l : Level α) (word : String) (settings : α) : Except Ending (Progress α) :=
  match word.toList with
  | ['-', '-'] => .ok { settings, ended := true }
  | '-' :: '-' :: rest =>
    let name := String.ofList (rest.takeWhile (· ≠ '='))
    match rest.dropWhile (· ≠ '=') with
    | [] => l.readLong word name none settings
    | _ :: value => l.readLong word name (some (String.ofList value)) settings
  | letters => l.readShort word letters.tail settings

def step (l : Level α) (p : Progress α) (word : String) : Except Ending (Progress α) :=
  if p.ended then (l.word p.settings word).map fun settings => { settings, ended := true }
  else
    match p.waiting with
    | some f =>
      if isOptionWord word then .error (.refused (.missingValue f.text))
      else (f.withValue word p.settings).map fun settings => { settings }
    | none =>
      if isOptionWord word then l.readOption word p.settings
      else (l.word p.settings word).map fun settings => { settings }

def finish (p : Progress α) : Except Ending α :=
  match p.waiting with
  | some f => .error (.refused (.missingValue f.text))
  | none => .ok p.settings

def read (l : Level α) (settings : α) (words : List String) : Except Ending α := do
  finish (← words.foldlM l.step { settings })

/-- Reads words up to the first one that is neither an option nor the value of one. That word and the
ones behind it are left. -/
def readUpToWord (l : Level α) (p : Progress α) :
    List String → Except Ending (α × List String)
  | [] => do return (← finish p, [])
  | word :: rest =>
    if p.ended || p.waiting.isSome || isOptionWord word then do
      l.readUpToWord (← l.step p word) rest
    else .ok (p.settings, word :: rest)

end Level

/-! ### Values -/

def readPath? (value : String) : Option String := if value.isEmpty then none else some value

/-- A count in decimal digits, behind a plus sign or not. -/
def readCount? (value : String) : Option Nat :=
  let digits := match value.toList with
    | '+' :: rest => rest
    | cs => cs
  if digits.isEmpty || !digits.all Char.isDigit then none
  else
    let n := Nat.ofDigitChars 10 digits 0
    if n < UInt64.size then some n else none

/-! ### Settings -/

structure Switches where
  config : Option String := none
  verbose : Bool := false
  /-- Nothing is stored or looked up. -/
  uncached : Bool := false
  /-- The costs are told as well. -/
  costs : Bool := false
  deriving DecidableEq, Repr, Inhabited

namespace Switches

/-- Switches of a command and of the program. Those of the command come first. -/
def overriding (inner outer : Switches) : Switches where
  config := inner.config.or outer.config
  verbose := inner.verbose || outer.verbose
  uncached := inner.uncached || outer.uncached
  costs := inner.costs || outer.costs

def flags {α : Type} (get : α → Switches) (put : Switches → α → α) : List (Flag α) :=
  [{ long := "config", short := some 'c'
     action := .taking readPath? fun path a =>
      if (get a).config.isSome then none else some (put { get a with config := some path } a) },
    { long := "verbose", short := some 'v'
      action := .mark fun a =>
        if (get a).verbose then none else some (put { get a with verbose := true } a) },
    { long := "no-cache"
      action := .mark fun a =>
        if (get a).uncached then none else some (put { get a with uncached := true } a) },
    { long := "debug-stats"
      action := .mark fun a =>
        if (get a).costs then none else some (put { get a with costs := true } a) },
    { long := "help", short := some 'h', action := .tell .usage }]

end Switches

structure Lint where
  switches : Switches := {}
  patterns : List String := []
  format : Option Report.Format := none
  concurrency : Option Nat := none
  dryRun : Bool := false
  deriving DecidableEq, Repr, Inhabited

structure Eval where
  switches : Switches := {}
  directory : Option String := none
  onlyCorrect : Bool := false
  onlyIncorrect : Bool := false
  rules : List String := []
  format : Option Report.Format := none
  deriving DecidableEq, Repr, Inhabited

def readFormat? (value : String) : Option Report.Format := Report.Format.named.lookup value

def Eval.defaultDirectory : String := "fixtures/evals"

def Lint.level : Level Lint where
  flags :=
    [{ long := "format", short := some 'f'
       action := .taking readFormat? fun format o =>
        if o.format.isSome then none else some { o with format := some format } },
      { long := "concurrency"
        action := .taking readCount? fun n o =>
          if o.concurrency.isSome then none else some { o with concurrency := some n } },
      { long := "dry-run"
        action := .mark fun o => if o.dryRun then none else some { o with dryRun := true } }] ++
    Switches.flags Lint.switches fun s o => { o with switches := s }
  word o pattern := .ok { o with patterns := o.patterns ++ [pattern] }

def Eval.level : Level Eval where
  flags :=
    [{ long := "evals-dir"
       action := .taking readPath? fun path o =>
        if o.directory.isSome then none else some { o with directory := some path } },
      { long := "only-correct"
        action := .mark fun o =>
          if o.onlyCorrect then none else some { o with onlyCorrect := true } },
      { long := "only-incorrect"
        action := .mark fun o =>
          if o.onlyIncorrect then none else some { o with onlyIncorrect := true } },
      { long := "rule", short := some 'r'
        action := .taking some fun name o => some { o with rules := o.rules ++ [name] } },
      { long := "format", short := some 'f'
        action := .taking readFormat? fun format o =>
          if o.format.isSome then none else some { o with format := some format } }] ++
    Switches.flags Eval.switches fun s o => { o with switches := s }
  word _ word := .error (.refused (.unexpectedWord word))

def Switches.level : Level Switches where
  flags :=
    { long := "version", short := some 'V', action := .tell .version } ::
      Switches.flags id fun s _ => s
  word _ word := .error (.refused (.unexpectedWord word))

/-! ### Commands -/

inductive Command where
  | lint (options : Lint)
  | eval (options : Eval)
  deriving DecidableEq, Repr, Inhabited

def commandNames : List String := ["lint", "eval", "help"]

def readCommand (outer : Switches) (name : String) (words : List String) :
    Except Ending Command := do
  match name with
  | "lint" =>
    let o ← Lint.level.read {} words
    if o.patterns.isEmpty then throw (.refused .noPatterns)
    return .lint { o with switches := o.switches.overriding outer }
  | "eval" =>
    let o ← Eval.level.read {} words
    return .eval { o with switches := o.switches.overriding outer }
  | "help" =>
    match words with
    | [] => throw (.shown .usage)
    | [topic] =>
      throw (if topic ∈ commandNames then .shown .usage else .refused (.unknownCommand topic))
    | _ :: word :: _ => throw (.refused (.unknownCommand word))
  | name => throw (.refused (.unknownCommand name))

def read (words : List String) : Except Ending Command := do
  match ← Switches.level.readUpToWord { settings := {} } words with
  | (_, []) => throw (.refused .noCommand)
  | (switches, name :: rest) => readCommand switches name rest

end PolicyLint.CommandLine
