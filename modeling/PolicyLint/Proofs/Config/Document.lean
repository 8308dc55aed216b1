import PolicyLint.Config.Basic
import PolicyLint.Proofs.Json.Document

/-!
# Accepted settings

Settings are accepted when their document has known keys only, on each level, and they can be run with. Each setting
is then what stands under its key, and the settings that are not given have their documented defaults.

On each level an array with the values in the order of the keys is accepted as well as an object.
-/

namespace PolicyLint

open Json (IsText IsBool IsNatural IsSingle IsList IsNullable IsVariant Given Setting greatestWord)

/-! ### What documents state -/

namespace Rule

def Example.keys : List String := ["code", "language"]

structure Example.Stated (j : Json) (e : Example) : Prop where
  keyed : j.Keyed keys
  code : Given IsText (j.under? keys "code") e.code
  language : Setting (IsNullable IsText) none (j.under? keys "language") e.language

def keys : List String := ["name", "title", "description", "scope", "correct_examples", "incorrect_examples"]

structure Stated (j : Json) (rule : Rule) : Prop where
  keyed : j.Keyed keys
  name : Given IsText (j.under? keys "name") rule.name
  title : Setting (IsNullable IsText) none (j.under? keys "title") rule.title
  description : Setting IsText "" (j.under? keys "description") rule.description
  scope : Setting (IsVariant Scope.named) .file (j.under? keys "scope") rule.scope
  correct : Setting (IsList Example.Stated) [] (j.under? keys "correct_examples") rule.correct
  incorrect : Setting (IsList Example.Stated) [] (j.under? keys "incorrect_examples") rule.incorrect

end Rule

namespace Model

def keys : List String := ["model", "temperature", "max_tokens", "prompt_version"]

structure Stated (j : Json) (m : Model) : Prop where
  keyed : j.Keyed keys
  model : Setting IsText "gpt-4o-mini" (j.under? keys "model") m.model
  temperature : Setting IsSingle (.zero Decimal.binary32) (j.under? keys "temperature") m.temperature
  maxTokens : Setting (IsNatural 0xFFFFFFFF) 1024 (j.under? keys "max_tokens") m.maxTokens
  promptVersion : Setting IsText "1" (j.under? keys "prompt_version") m.promptVersion

end Model

namespace Config

def Concurrency.keys : List String := ["files", "rules"]

structure Concurrency.Stated (j : Json) (c : Concurrency) : Prop where
  keyed : j.Keyed keys
  files : Setting (IsNatural greatestWord) 8 (j.under? keys "files") c.files
  rules : Setting (IsNatural greatestWord) 4 (j.under? keys "rules") c.rules

def Retry.keys : List String := ["max_attempts", "base_delay_ms", "max_delay_ms", "timeout_secs"]

structure Retry.Stated (j : Json) (r : Config.Retry) : Prop where
  keyed : j.Keyed keys
  maxAttempts : Setting (IsNatural 0xFFFFFFFF) 3 (j.under? keys "max_attempts") r.maxAttempts
  baseDelayMs : Setting (IsNatural greatestWord) 500 (j.under? keys "base_delay_ms") r.baseDelayMs
  maxDelayMs : Setting (IsNatural greatestWord) 8000 (j.under? keys "max_delay_ms") r.maxDelayMs
  timeoutSecs : Setting (IsNatural greatestWord) 60 (j.under? keys "timeout_secs") r.timeoutSecs

def Api.keys : List String := ["base_url", "api_key_env"]

structure Api.Stated (j : Json) (a : Api) : Prop where
  keyed : j.Keyed keys
  baseUrl : Setting IsText "https://api.openai.com/v1" (j.under? keys "base_url") a.baseUrl
  keyVariable : Setting IsText "OPENAI_API_KEY" (j.under? keys "api_key_env") a.keyVariable

def keys : List String :=
  ["rules", "include", "exclude", "cache", "cache_dir", "cache_max_age_days", "model", "concurrency", "retry", "api"]

/-- The value states the settings: nothing stands in it but known keys, and each setting is what stands under its
key, or its default. -/
structure Stated (j : Json) (c : Config) : Prop where
  keyed : j.Keyed keys
  rules : Setting (IsList Rule.Stated) [] (j.under? keys "rules") c.rules
  included : Setting (IsList IsText) [] (j.under? keys "include") c.included
  excluded : Setting (IsList IsText) [] (j.under? keys "exclude") c.excluded
  cached : Setting IsBool true (j.under? keys "cache") c.cached
  cacheDir : Setting IsText ".promptlint-cache" (j.under? keys "cache_dir") c.cacheDir
  cacheMaxAgeDays : Setting (IsNatural greatestWord) 30 (j.under? keys "cache_max_age_days") c.cacheMaxAgeDays
  model : Setting Model.Stated ⟨"gpt-4o-mini", .zero Decimal.binary32, 1024, "1"⟩ (j.under? keys "model") c.model
  concurrency : Setting Concurrency.Stated ⟨8, 4⟩ (j.under? keys "concurrency") c.concurrency
  retry : Setting Retry.Stated ⟨3, 500, 8000, 60⟩ (j.under? keys "retry") c.retry
  api : Setting Api.Stated ⟨"https://api.openai.com/v1", "OPENAI_API_KEY"⟩ (j.under? keys "api") c.api
  baseDir : c.baseDir = none

structure Runnable (c : Config) : Prop where
  files : 1 ≤ c.concurrency.files
  rules : 1 ≤ c.concurrency.rules
  maxAttempts : 1 ≤ c.retry.maxAttempts
  timeoutSecs : 1 ≤ c.retry.timeoutSecs
  named : Text.isBlankText c.model.model = false

end Config

/-! ### What decoders make of documents -/

open Json (Decoder Record)
open Json.Field (given_required setting_withDefault setting_optional)
open Json.Decoder (faithful_string faithful_bool faithful_single faithful_natUpTo faithful_variants)

theorem Rule.Example.faithful_decoder : Decoder.Faithful Example.decoder Example.Stated := by
  intro j e decoded
  obtain ⟨⟨code, language, ⟨⟩⟩, read, rfl⟩ := Record.decoder_ok decoded
  obtain ⟨keyed, means⟩ := Record.means_of_decode rfl (by decide) read
  obtain ⟨code, language, _⟩ := means
  exact ⟨keyed, given_required faithful_string code, setting_optional faithful_string language⟩

theorem Rule.faithful_decoder : Decoder.Faithful Rule.decoder Rule.Stated := by
  intro j rule decoded
  obtain ⟨⟨name, title, description, scope, correct, incorrect, ⟨⟩⟩, read, rfl⟩ := Record.decoder_ok decoded
  obtain ⟨keyed, means⟩ := Record.means_of_decode rfl (by decide) read
  obtain ⟨name, title, description, scope, correct, incorrect, _⟩ := means
  exact {
    keyed
    name := given_required faithful_string name
    title := setting_optional faithful_string title
    description := setting_withDefault faithful_string description
    scope := setting_withDefault (faithful_variants _) scope
    correct := setting_withDefault Example.faithful_decoder.list correct
    incorrect := setting_withDefault Example.faithful_decoder.list incorrect }

theorem Model.faithful_decoder : Decoder.Faithful Model.decoder Model.Stated := by
  intro j m decoded
  obtain ⟨⟨model, temperature, maxTokens, version, ⟨⟩⟩, read, rfl⟩ := Record.decoder_ok decoded
  obtain ⟨keyed, means⟩ := Record.means_of_decode rfl (by decide) read
  obtain ⟨model, temperature, maxTokens, version, _⟩ := means
  exact {
    keyed
    model := setting_withDefault faithful_string model
    temperature := setting_withDefault faithful_single temperature
    maxTokens := setting_withDefault (faithful_natUpTo _ _) maxTokens
    promptVersion := setting_withDefault faithful_string version }

namespace Config

theorem Concurrency.faithful_decoder : Decoder.Faithful Concurrency.decoder Concurrency.Stated := by
  intro j c decoded
  obtain ⟨⟨files, rules, ⟨⟩⟩, read, rfl⟩ := Record.decoder_ok decoded
  obtain ⟨keyed, means⟩ := Record.means_of_decode rfl (by decide) read
  obtain ⟨files, rules, _⟩ := means
  exact ⟨keyed, setting_withDefault (faithful_natUpTo _ _) files, setting_withDefault (faithful_natUpTo _ _) rules⟩

theorem Retry.faithful_decoder : Decoder.Faithful Retry.decoder Retry.Stated := by
  intro j r decoded
  obtain ⟨⟨attempts, base, longest, timeout, ⟨⟩⟩, read, rfl⟩ := Record.decoder_ok decoded
  obtain ⟨keyed, means⟩ := Record.means_of_decode rfl (by decide) read
  obtain ⟨attempts, base, longest, timeout, _⟩ := means
  exact {
    keyed
    maxAttempts := setting_withDefault (faithful_natUpTo _ _) attempts
    baseDelayMs := setting_withDefault (faithful_natUpTo _ _) base
    maxDelayMs := setting_withDefault (faithful_natUpTo _ _) longest
    timeoutSecs := setting_withDefault (faithful_natUpTo _ _) timeout }

theorem Api.faithful_decoder : Decoder.Faithful Api.decoder Api.Stated := by
  intro j a decoded
  obtain ⟨⟨url, key, ⟨⟩⟩, read, rfl⟩ := Record.decoder_ok decoded
  obtain ⟨keyed, means⟩ := Record.means_of_decode rfl (by decide) read
  obtain ⟨url, key, _⟩ := means
  exact ⟨keyed, setting_withDefault faithful_string url, setting_withDefault faithful_string key⟩

theorem faithful_decoder : Decoder.Faithful decoder Stated := by
  intro j c decoded
  obtain ⟨⟨rules, included, excluded, cached, dir, age, model, concurrency, retry, api, ⟨⟩⟩, read, rfl⟩ :=
    Record.decoder_ok decoded
  obtain ⟨keyed, means⟩ := Record.means_of_decode rfl (by decide) read
  obtain ⟨rules, included, excluded, cached, dir, age, model, concurrency, retry, api, _⟩ := means
  exact {
    keyed
    rules := setting_withDefault Rule.faithful_decoder.list rules
    included := setting_withDefault faithful_string.list included
    excluded := setting_withDefault faithful_string.list excluded
    cached := setting_withDefault faithful_bool cached
    cacheDir := setting_withDefault faithful_string dir
    cacheMaxAgeDays := setting_withDefault (faithful_natUpTo _ _) age
    model := setting_withDefault Model.faithful_decoder model
    concurrency := setting_withDefault Concurrency.faithful_decoder concurrency
    retry := setting_withDefault Retry.faithful_decoder retry
    api := setting_withDefault Api.faithful_decoder api
    baseDir := rfl }

/-! ### Accepted texts -/

theorem validate_iff {c : Config} : c.validate = .ok () ↔ c.Runnable := by
  constructor
  · intro valid
    unfold validate at valid
    split_ifs at valid with files rules attempts timeout blank
    exact ⟨by omega, by omega, by omega, by omega, by simpa using blank⟩
  · intro runnable
    obtain ⟨files, rules, attempts, timeout, named⟩ := runnable
    unfold validate
    rw [if_neg (by omega), if_neg (by omega), if_neg (by omega), if_neg (by omega), if_neg (by simp [named])]

theorem ofText_ok {text : String} {c : Config} (accepted : ofText text = .ok c) :
    ∃ j, Jsonc.readText text = .ok j ∧ decoder.ofJson j = .ok c ∧ c.validate = .ok () := by
  obtain ⟨j, parsed, accepted⟩ := Json.bind_ok accepted
  obtain ⟨c', decoded, accepted⟩ := Json.bind_ok accepted
  obtain ⟨⟨⟩, valid, accepted⟩ := Json.bind_ok accepted
  cases accepted
  exact ⟨j, Json.mapError_ok parsed, Json.mapError_ok decoded, valid⟩

/-- The document of accepted settings has known keys only on each level, it states the settings, and they can be run
with. -/
theorem stated_of_ofText {text : String} {c : Config} (accepted : ofText text = .ok c) :
    ∃ j, Jsonc.readText text = .ok j ∧ c.Stated j ∧ c.Runnable := by
  obtain ⟨j, parsed, decoded, valid⟩ := ofText_ok accepted
  exact ⟨j, parsed, faithful_decoder j c (Json.mapError_ok decoded), validate_iff.mp valid⟩

/-- Settings of a bound by its key, the other bounds being the documented ones. -/
theorem stated_of_two_files :
    ∃ j, Jsonc.readText "\x7b\"concurrency\": \x7b\"files\": 2\x7d\x7d" = .ok j ∧
      Stated j { concurrency := ⟨2, 4⟩ } ∧ Runnable { concurrency := ⟨2, 4⟩ } :=
  stated_of_ofText (by decide +kernel)

/-- It is not so that the document of accepted settings is an object: an empty array is accepted as well. -/
theorem not_object_of_ofText :
    ¬∀ text c, ofText text = .ok c →
      ∃ members, Jsonc.readText text = .ok (.object members) ∧ c.Stated (.object members) ∧ c.Runnable := by
  intro documented
  obtain ⟨members, parsed, _⟩ := documented "[]" {} (by decide +kernel)
  have printed : (Jsonc.readText "[]").toOption.map Json.compact = some ['[', ']'] := by decide +kernel
  rw [parsed] at printed
  have first : '\x7b' = '[' := congrArg (fun cs => cs.headD ' ') (Option.some.inj printed)
  exact absurd first (by decide)

end Config

end PolicyLint
