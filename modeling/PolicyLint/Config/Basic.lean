import PolicyLint.Fault
import PolicyLint.Model
import PolicyLint.Path
import PolicyLint.Retry
import PolicyLint.Rule.Basic
import PolicyLint.Jsonc.Parser

/-!
# Configuration

A `Config` is read from an object of known keys, each of which has a default. What the types cannot
rule out is refused afterwards: bounds of zero and a blank model name.
-/

namespace PolicyLint

structure Config.Concurrency where
  /-- Checks in flight at once. -/
  files : Nat := 8
  /-- Rules evaluated at once. -/
  rules : Nat := 4
  deriving DecidableEq, Repr

structure Config.Retry where
  maxAttempts : Nat := 3
  baseDelayMs : Nat := 500
  maxDelayMs : Nat := 8000
  timeoutSecs : Nat := 60
  deriving DecidableEq, Repr

structure Config.Api where
  baseUrl : String := "https://api.openai.com/v1"
  /-- The environment variable that holds the key of the service. -/
  keyVariable : String := "OPENAI_API_KEY"
  deriving DecidableEq, Repr

structure Config where
  rules : List Rule := []
  included : List String := []
  excluded : List String := []
  cached : Bool := true
  cacheDir : String := ".promptlint-cache"
  cacheMaxAgeDays : Nat := 30
  model : Model := {}
  concurrency : Config.Concurrency := {}
  retry : Config.Retry := {}
  api : Config.Api := {}
  /-- The directory in which relative paths of the settings start. -/
  baseDir : Option String := none
  deriving DecidableEq, Repr

namespace Config

open Json in
def Concurrency.toJson (c : Concurrency) : Json :=
  .object [("files", .nat c.files), ("rules", .nat c.rules)]

open Json in
def Concurrency.record : Record [Nat, Nat] where
  title := "ConcurrencyConfig"
  fields :=
    .cons (.withDefault "files" .count { : Concurrency }.files) <|
    .cons (.withDefault "rules" .count { : Concurrency }.rules) .nil

def Concurrency.decoder : Json.Decoder Concurrency :=
  Concurrency.record.decoder fun (files, rules, ()) => { files, rules }

def Retry.toJson (r : Retry) : Json :=
  .object
    [("max_attempts", .nat r.maxAttempts), ("base_delay_ms", .nat r.baseDelayMs),
      ("max_delay_ms", .nat r.maxDelayMs), ("timeout_secs", .nat r.timeoutSecs)]

open Json in
def Retry.record : Record [Nat, Nat, Nat, Nat] where
  title := "RetryConfig"
  fields :=
    .cons (.withDefault "max_attempts" .nat32 { : Config.Retry }.maxAttempts) <|
    .cons (.withDefault "base_delay_ms" .nat64 { : Config.Retry }.baseDelayMs) <|
    .cons (.withDefault "max_delay_ms" .nat64 { : Config.Retry }.maxDelayMs) <|
    .cons (.withDefault "timeout_secs" .nat64 { : Config.Retry }.timeoutSecs) .nil

def Retry.decoder : Json.Decoder Retry :=
  Retry.record.decoder fun (maxAttempts, baseDelayMs, maxDelayMs, timeoutSecs, ()) =>
    { maxAttempts, baseDelayMs, maxDelayMs, timeoutSecs }

def Retry.policy (r : Retry) : PolicyLint.Retry where
  maxAttempts := r.maxAttempts
  baseDelay := r.baseDelayMs
  maxDelay := r.maxDelayMs
  timeout := r.timeoutSecs * 1000

def Api.toJson (a : Api) : Json :=
  .object [("base_url", .string a.baseUrl), ("api_key_env", .string a.keyVariable)]

open Json in
def Api.record : Record [String, String] where
  title := "ApiConfig"
  fields :=
    .cons (.withDefault "base_url" .string { : Api }.baseUrl) <|
    .cons (.withDefault "api_key_env" .string { : Api }.keyVariable) .nil

def Api.decoder : Json.Decoder Api :=
  Api.record.decoder fun (baseUrl, keyVariable, ()) => { baseUrl, keyVariable }

/-- The settings as an object. The base directory is not part of it. -/
def toJson (c : Config) : Json :=
  .object
    [("rules", .array (c.rules.map Rule.toJson)),
      ("include", .array (c.included.map .string)),
      ("exclude", .array (c.excluded.map .string)),
      ("cache", .bool c.cached),
      ("cache_dir", .string c.cacheDir),
      ("cache_max_age_days", .nat c.cacheMaxAgeDays),
      ("model", c.model.toJson),
      ("concurrency", c.concurrency.toJson),
      ("retry", c.retry.toJson),
      ("api", c.api.toJson)]

/-- The compact text of the settings. -/
def canonical (c : Config) : String := c.toJson.render

open Json in
def record : Record [List Rule, List String, List String, Bool, String, Nat, Model, Concurrency,
    Config.Retry, Api] where
  title := "LinterConfig"
  fields :=
    .cons (.withDefault "rules" (.list Rule.decoder) []) <|
    .cons (.withDefault "include" (.list .string) []) <|
    .cons (.withDefault "exclude" (.list .string) []) <|
    .cons (.withDefault "cache" .bool { : Config }.cached) <|
    .cons (.withDefault "cache_dir" .string { : Config }.cacheDir) <|
    .cons (.withDefault "cache_max_age_days" .nat64 { : Config }.cacheMaxAgeDays) <|
    .cons (.withDefault "model" Model.decoder {}) <|
    .cons (.withDefault "concurrency" Concurrency.decoder {}) <|
    .cons (.withDefault "retry" Retry.decoder {}) <|
    .cons (.withDefault "api" Api.decoder {}) .nil

def decoder : Json.Decoder Config :=
  record.decoder fun (rules, included, excluded, cached, cacheDir, cacheMaxAgeDays, model,
      concurrency, retry, api, ()) =>
    { rules, included, excluded, cached, cacheDir, cacheMaxAgeDays, model, concurrency, retry,
      api }

def validate (c : Config) : Except SetupFault Unit :=
  if c.concurrency.files = 0 then .error .idleFiles
  else if c.concurrency.rules = 0 then .error .idleRules
  else if c.retry.maxAttempts = 0 then .error .noAttempts
  else if c.retry.timeoutSecs = 0 then .error .noTimeout
  else if Text.isBlankText c.model.model then .error .unnamedModel
  else .ok ()

def ofText (text : String) : Except SetupFault Config := do
  let json ← (Jsonc.readText text).mapError .malformedConfig
  let config ← (decoder.ofJson json).mapError .mismatchedConfig
  config.validate
  return config

/-- The directory of the stored verdicts, seen from the base directory. -/
def resolvedCacheDir (c : Config) : String :=
  match c.baseDir with
  | some base => Path.join base c.cacheDir
  | none => c.cacheDir

def secondsPerDay : Nat := 86400

def longestAge : Nat := 0xFFFFFFFFFFFFFFFF

/-- The age in seconds at which stored verdicts expire, if they do. -/
def cacheMaxAge? (c : Config) : Option Nat :=
  if c.cacheMaxAgeDays = 0 then none
  else some (min (c.cacheMaxAgeDays * secondsPerDay) longestAge)

end Config

end PolicyLint
