import PolicyLint.Config.Basic
import PolicyLint.Endpoint.Status
import PolicyLint.Judge
import PolicyLint.Url.Parser

/-!
# Endpoints

An `Endpoint` is a completion service behind a web address. It makes a judge out of a transport that
carries requests to the service: what the service answers becomes a completion, a fault that may pass or
a fault that does not.
-/

namespace PolicyLint

structure Endpoint where
  baseUrl : String
  /-- The key of the service, which is not blank. -/
  key : Option String
  /-- Where the key was looked for. -/
  keyVariable : String
  deriving DecidableEq, Repr

structure Request where
  url : String
  key : String
  body : String
  deriving DecidableEq, Repr

inductive Exchange where
  /-- Nothing came back. -/
  | unreachable
  /-- A status and a body; the body is intact if it came as a whole and what is read of it is text. -/
  | answered (status : Nat) (body : String) (intact : Bool)
  deriving DecidableEq, Repr

/-- A carrier of requests with states in `σ`. The milliseconds that an exchange takes come first. -/
structure Transport (σ : Type) where
  send : σ → Request → (Nat × Exchange) × σ

namespace Endpoint

/-- The service at an address. Slashes at the end of the address do not count, nor does a blank key. -/
def ofAddress (baseUrl : String) (key : Option String) (keyVariable : String) : Endpoint where
  baseUrl := String.ofList (baseUrl.toList.reverse.dropWhile (· = '/')).reverse
  key := key.bind Text.nonBlank?
  keyVariable := keyVariable

def ofConfig (api : Config.Api) (environment : String → Option String) : Endpoint :=
  ofAddress api.baseUrl (environment api.keyVariable) api.keyVariable

def hasKey (e : Endpoint) : Bool := e.key.isSome

def address (e : Endpoint) : String := e.baseUrl ++ "/chat/completions"

def isHeaderChar (c : Char) : Bool := (0x20 ≤ c.toNat && c.toNat ≠ 0x7F) || c = '\t'

def messageJson (role content : String) : Json :=
  .object [("role", .string role), ("content", .string content)]

def bodyJson (prompt : Prompt) (model : Model) : Json :=
  .object
    [("model", .string model.model),
      ("temperature", Model.temperatureJson model.temperature),
      ("max_tokens", .nat model.maxTokens),
      ("messages", .array [messageJson "system" prompt.system, messageJson "user" prompt.user]),
      ("response_format", .object [("type", .string "json_object")])]

/-- Why no request can be made of an address. -/
def unmade (url : Option Url) : JudgeFault :=
  .transient ("Request failed: builder error" ++
    (match url with
    | some url => " for url (" ++ url.text ++ ")"
    | none => ""))

/-- The request for a prompt, or why it cannot be sent. -/
def request (e : Endpoint) (prompt : Prompt) (model : Model) : Except JudgeFault Request :=
  match e.key with
  | none => .error (.permanent ("API key not set (" ++ e.keyVariable ++ ")"))
  | some key =>
    match Url.ofText? e.address with
    | none => .error (unmade none)
    | some url =>
      let sent := url.anonymous
      if url.host?.isNone then .error (unmade url)
      else if !key.toList.all isHeaderChar then .error (unmade none)
      else if !sent.isSendable then .error (unmade sent)
      else .ok { url := sent.text, key, body := (bodyJson prompt model).render }

/-! ### Answers -/

open Json in
def messageRecord : Record [Option String] where
  title := "ResponseMessage"
  tolerant := true
  fields := .cons (.optional "content" .string) .nil

open Json in
def choiceRecord : Record [Option String] where
  title := "Choice"
  tolerant := true
  fields := .cons (.required "message" (messageRecord.decoder fun (content, ()) => content)) .nil

open Json in
def usageRecord : Record [Nat, Nat] where
  title := "Usage"
  tolerant := true
  fields :=
    .cons (.withDefault "prompt_tokens" .nat64 0) <|
    .cons (.withDefault "completion_tokens" .nat64 0) .nil

open Json in
def answerRecord : Record [List (Option String), Option (Nat × Nat)] where
  title := "ChatResponse"
  tolerant := true
  fields :=
    .cons (.withDefault "choices" (.list (choiceRecord.decoder fun (content, ()) => content)) []) <|
    .cons (.optional "usage" (usageRecord.decoder fun (prompt, completion, ()) =>
      (prompt, completion))) .nil

/-- The completion in the body of an answer: the content of the first choice. -/
def readBody (body : String) : Except JudgeFault Completion :=
  match (answerRecord.decoder id).ofText body with
  | .error _ => .error (.transient "Unreadable response: error decoding response body")
  | .ok (choices, usage, ()) =>
    match choices.head?.join with
    | none => .error (.transient "Response has no message content")
    | some text =>
      let (promptTokens, completionTokens) := usage.getD (0, 0)
      .ok { text, promptTokens := .ofNat promptTokens, completionTokens := .ofNat completionTokens }

/-- What an exchange about a request amounts to. -/
def readExchange (url : String) : Exchange → Except JudgeFault Completion
  | .unreachable =>
    .error (.transient ("Request failed: error sending request for url (" ++ url ++ ")"))
  | .answered status body intact =>
    if Status.isSuccess status then
      if intact then readBody body
      else .error (.transient "Unreadable response: error decoding response body")
    else
      let message := "API error " ++ Status.describe status ++ ": " ++ Text.trimmed body
      .error (if Status.isTransient status then .transient message else .permanent message)

def judge {σ : Type} (e : Endpoint) (transport : Transport σ) : Judge σ where
  ask s prompt model :=
    match e.request prompt model with
    | .error fault => ({ outcome := .error fault }, s)
    | .ok request =>
      let ((delay, exchange), s) := transport.send s request
      ({ delay, outcome := readExchange request.url exchange }, s)

end Endpoint

def Transport.offline : Transport Unit where
  send s _ := ((0, .unreachable), s)

end PolicyLint
