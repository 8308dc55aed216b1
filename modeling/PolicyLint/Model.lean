import PolicyLint.Digest.Key
import PolicyLint.Json.Decoder
import PolicyLint.Json.Printer

/-!
# Model settings

The settings under which a completion service judges. Their fingerprint is part of every key, so
other settings never see each other's outcomes.
-/

namespace PolicyLint

def promptVersion : String := "1"

structure Model where
  model : String := "gpt-4o-mini"
  temperature : Decimal.Binary := .zero Decimal.binary32
  maxTokens : Nat := 1024
  promptVersion : String := PolicyLint.promptVersion
  deriving DecidableEq, Repr

namespace Model

/-- A single precision number, or null if it is infinite. -/
def temperatureJson (t : Decimal.Binary) : Json :=
  match Decimal.Layout.single.numeral? Decimal.binary32 t with
  | some n => .number n
  | none => .null

def toJson (m : Model) : Json :=
  .object
    [("model", .string m.model), ("temperature", temperatureJson m.temperature),
      ("max_tokens", .nat m.maxTokens), ("prompt_version", .string m.promptVersion)]

open Json in
def record : Record [String, Decimal.Binary, Nat, String] where
  title := "ModelConfig"
  fields :=
    .cons (.withDefault "model" .string { : Model }.model) <|
    .cons (.withDefault "temperature" .single { : Model }.temperature) <|
    .cons (.withDefault "max_tokens" .nat32 { : Model }.maxTokens) <|
    .cons (.withDefault "prompt_version" .string { : Model }.promptVersion) .nil

def decoder : Json.Decoder Model :=
  record.decoder fun (model, temperature, maxTokens, promptVersion, ()) =>
    { model, temperature, maxTokens, promptVersion }

/-- The text whose digest is the fingerprint. -/
def canonical (m : Model) : String := m.toJson.render

def fingerprint (m : Model) : String := PolicyLint.fingerprint m.canonical

end Model

end PolicyLint
