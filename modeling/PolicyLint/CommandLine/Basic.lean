import PolicyLint.CommandLine.Arguments
import PolicyLint.Config.Search
import PolicyLint.Review.Start

/-!
# Command line

A command reads its configuration and its files, and reviews or evaluates them. It ends with a report or
with a fault, and a fault shows no report at all.
-/

namespace PolicyLint.CommandLine

/-- What a command finds where it is started. -/
structure Host (σ : Type) where
  files : FileSystem
  environment : String → Option String
  /-- What is stored in a directory of verdicts. -/
  stored : String → CacheDir
  /-- The seconds since the epoch. -/
  now : Nat
  transport : Transport σ

inductive CommandFault where
  | run (fault : Fault)
  | noConfig
  | unknownRule (name : String)
  deriving DecidableEq, Repr

namespace CommandFault

def message : CommandFault → String
  | run fault => fault.describe
  | noConfig =>
    "No configuration file found (looked for " ++ String.intercalate ", " Config.fileNames ++ ")"
  | unknownRule name => "Unknown rule '" ++ name ++ "'"

end CommandFault

/-- The state of a command: of the transport, and of the stored verdicts. -/
abbrev HostWorld (σ : Type) := World σ (Manager × CacheDir)

structure Finished (σ : Type) where
  report : Report
  /-- The directory in which verdicts are stored. -/
  cacheDir : String
  world : HostWorld σ

def checked {α : Type} (result : Except SetupFault α) : Except CommandFault α :=
  result.mapError fun fault => .run (.setup fault)

namespace Host

variable {σ : Type}

/-- The path of the configuration: the given one, or else the nearest one. -/
def configPath (h : Host σ) (s : Switches) : Except CommandFault String :=
  match s.config.or (Config.find? h.files h.files.currentDirectory) with
  | some path => .ok path
  | none => .error .noConfig

def config (h : Host σ) (s : Switches) : Except CommandFault Config := do
  let config ← checked (Config.ofFile h.files (← h.configPath s))
  return { config with cached := config.cached && !s.uncached }

def reviewer (h : Host σ) (config : Config) : Reviewer σ (Manager × CacheDir) :=
  .ofConfig config
    ((Endpoint.ofConfig config.api h.environment).judge h.transport) (.ofManager h.now)

def world (h : Host σ) (config : Config) (notices : List Notice) (s : σ) : HostWorld σ :=
  let w := World.ofConfig config s (h.stored config.resolvedCacheDir) h.now
  { w with
    notices := notices ++ (Endpoint.ofConfig config.api h.environment).notices ++ w.notices }

def bounded (config : Config) : Option Nat → Except CommandFault Config
  | none => .ok config
  | some files => do
    let config := { config with concurrency := { config.concurrency with files } }
    checked config.validate
    return config

def sources (h : Host σ) (config : Config) (patterns : List String) :
    Except CommandFault (List SourceFile × List Notice) := do
  let base := h.files.currentDirectory
  let filter ← checked (Filter.ofTexts config.included config.excluded)
  let paths ← checked (Discovery.discover h.files filter patterns base)
  (Discovery.readSources h.files base paths).mapError .run

def lint (h : Host σ) (o : Lint) (s : σ) : Except CommandFault (Finished σ) := do
  let config ← bounded (← h.config o.switches) o.concurrency
  let (files, notices) ← h.sources config o.patterns
  let reviewer := h.reviewer config
  let world := h.world config notices s
  let (report, world) ←
    if o.dryRun then
      let (plan, world) := reviewer.preview files config.rules world
      pure (Report.preview (← checked plan) files.length, world)
    else
      let (reviewed, world) := reviewer.review files config.rules world
      pure (Report.review (← checked reviewed).1 files.length, world)
  return { report, cacheDir := config.resolvedCacheDir, world }

def namedRules (rules : List Rule) (names : List String) : Except CommandFault (List Rule) :=
  if names.isEmpty then .ok rules
  else
    names.mapM fun name =>
      match rules.find? (·.name = name) with
      | some rule => .ok rule
      | none => .error (.unknownRule name)

def fixtures (h : Host σ) (directory : String) :
    List Rule → Except CommandFault (List (String × Fixtures) × List Notice)
  | [] => .ok ([], [])
  | rule :: rest => do
    let (set, notices) ← (Fixtures.read h.files directory rule.name).mapError .run
    let (sets, moreNotices) ← h.fixtures directory rest
    return ((rule.name, set) :: sets, notices ++ moreNotices)

def eval (h : Host σ) (o : Eval) (s : σ) : Except CommandFault (Finished σ) := do
  let selection ← checked (Selection.ofSwitches o.onlyCorrect o.onlyIncorrect)
  let config ← h.config o.switches
  let rules ← namedRules config.rules o.rules
  let (sets, notices) ← h.fixtures (o.directory.getD Eval.defaultDirectory) rules
  let plan : EvaluationPlan :=
    { selection, rulesAtOnce := config.concurrency.rules, filesAtOnce := config.concurrency.files }
  let (evaluated, world) :=
    (h.reviewer config).evaluate plan rules (fun name => (sets.lookup name).getD {})
      (h.world config notices s)
  return {
    report := .evaluation (← checked evaluated).1, cacheDir := config.resolvedCacheDir, world }

def carryOut (h : Host σ) (command : Command) (s : σ) : Except CommandFault (Finished σ) :=
  match command with
  | .lint o => h.lint o s
  | .eval o => h.eval o s

end Host

namespace Command

def switches : Command → Switches
  | lint o => o.switches
  | eval o => o.switches

def paths : Command → List String
  | lint o => o.switches.config.toList ++ o.patterns
  | eval o => o.switches.config.toList ++ [o.directory.getD Eval.defaultDirectory]

def format : Command → Report.Format
  | lint o => o.format.getD .text
  | eval o => o.format.getD .text

end Command

namespace Page

def versionText : String := "promptlint 0.1.0"

def usageText : String :=
  String.intercalate "\n"
    ["Lint source files against rules in natural language.",
      "",
      "Usage: promptlint [OPTIONS] lint [OPTIONS] PATTERNS...",
      "       promptlint [OPTIONS] eval [OPTIONS]",
      "",
      "Options of every command:",
      "  -c, --config PATH    read this configuration file",
      "  -v, --verbose        log more",
      "      --no-cache       neither look verdicts up nor store them",
      "      --debug-stats    tell what the run cost",
      "  -h, --help           show this text",
      "  -V, --version        show the version, before a command only",
      "",
      "Options of lint:",
      "  -f, --format FORMAT  write the report as text or json",
      "      --concurrency N  let so many checks go on at once",
      "      --dry-run        only tell what would be checked",
      "",
      "Options of eval:",
      "      --evals-dir DIR  look for fixtures here",
      "      --only-correct   evaluate correct fixtures only",
      "      --only-incorrect evaluate incorrect fixtures only",
      "  -r, --rule NAME      evaluate this rule, and others named like that",
      "  -f, --format FORMAT  write the report as text or json"]

def text : Page → String
  | version => versionText
  | usage => usageText

end Page

structure Printed where
  exit : Nat
  output : String := ""
  /-- What goes to the log, a line each. -/
  log : List String := []
  /-- What the run cost, if that was asked for. -/
  costs : Option String := none
  deriving DecidableEq, Repr

def faultCode : Nat := Outcome.unjudged.code

def Finished.printed {σ : Type} (f : Finished σ) (command : Command) : Printed where
  exit := f.report.outcome.code
  output := f.report.written command.format
  log := f.world.notices.map Notice.message
  costs := if command.switches.costs then some (Report.costsText f.report.verdict) else none

/-- What the words of a command line lead to: what is printed, and the finished command if there is
one. -/
def answer {σ : Type} (h : Host σ) (words : List String) (s : σ) : Printed × Option (Finished σ) :=
  match read words with
  | .error (.shown page) => ({ exit := 0, output := Report.line page.text }, none)
  | .error (.refused fault) => ({ exit := faultCode, log := [fault.message] }, none)
  | .ok command =>
    match h.carryOut command s with
    | .error fault => ({ exit := faultCode, log := [fault.message] }, none)
    | .ok finished => (finished.printed command, some finished)

end PolicyLint.CommandLine
