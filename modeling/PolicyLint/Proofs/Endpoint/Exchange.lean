import PolicyLint.Endpoint.Basic
import PolicyLint.Proofs.Run.Attempts

/-!
# What exchanges mean

An exchange with a service means one thing to a task: its findings, a fault that lasts, or one that may pass.
-/

namespace PolicyLint

namespace Status

theorem isSuccess_iff {status : Nat} : isSuccess status = true ↔ 200 ≤ status ∧ status < 300 := by
  rw [isSuccess, Bool.and_eq_true, decide_eq_true_eq, decide_eq_true_eq]

theorem isTransient_iff {status : Nat} : isTransient status = true ↔ status = 429 ∨ 500 ≤ status ∧ status < 600 := by
  rw [isTransient, Bool.or_eq_true, Bool.and_eq_true, decide_eq_true_eq, decide_eq_true_eq, decide_eq_true_eq]

end Status

namespace Exchange

open Status (isSuccess_iff isTransient_iff)

/-- What an exchange about a task means, and with which words. -/
inductive Means (task : Task) (url : String) : Exchange → Upshot → Prop where
  | unreachable : Means task url .unreachable (.passing ("Request failed: error sending request for url (" ++ url ++ ")"))
  | busy {status : Nat} {body : String} {intact : Bool} (busy : status = 429 ∨ 500 ≤ status ∧ status < 600) :
      Means task url (.answered status body intact)
        (.passing ("API error " ++ Status.describe status ++ ": " ++ Text.trimmed body))
  | refused {status : Nat} {body : String} {intact : Bool} (failure : ¬(200 ≤ status ∧ status < 300))
      (lasting : ¬(status = 429 ∨ 500 ≤ status ∧ status < 600)) :
      Means task url (.answered status body intact)
        (.refused ("API error " ++ Status.describe status ++ ": " ++ Text.trimmed body))
  | cut {status : Nat} {body : String} (success : 200 ≤ status ∧ status < 300) :
      Means task url (.answered status body false) (.passing "Unreadable response: error decoding response body")
  | undecodable {status : Nat} {body why : String} (success : 200 ≤ status ∧ status < 300)
      (decoded : (Endpoint.answerRecord.decoder id).ofText body = .error why) :
      Means task url (.answered status body true) (.passing "Unreadable response: error decoding response body")
  | choiceless {status : Nat} {body : String} {usage : Option (Nat × Nat)} (success : 200 ≤ status ∧ status < 300)
      (decoded : (Endpoint.answerRecord.decoder id).ofText body = .ok ([], usage, ())) :
      Means task url (.answered status body true) (.passing "Response has no message content")
  | contentless {status : Nat} {body : String} {others : List (Option String)} {usage : Option (Nat × Nat)}
      (success : 200 ≤ status ∧ status < 300)
      (decoded : (Endpoint.answerRecord.decoder id).ofText body = .ok (none :: others, usage, ())) :
      Means task url (.answered status body true) (.passing "Response has no message content")
  | malformed {status : Nat} {body text why : String} {others : List (Option String)} {usage : Option (Nat × Nat)}
      (success : 200 ≤ status ∧ status < 300)
      (decoded : (Endpoint.answerRecord.decoder id).ofText body = .ok (some text :: others, usage, ()))
      (malformed : readCompletion text task.file.path task.rule.name = .error why) :
      Means task url (.answered status body true) (.passing why)
  | accepted {status : Nat} {body text : String} {others : List (Option String)} {usage : Option (Nat × Nat)}
      {findings : List Finding} (success : 200 ≤ status ∧ status < 300)
      (decoded : (Endpoint.answerRecord.decoder id).ofText body = .ok (some text :: others, usage, ()))
      (accepted : readCompletion text task.file.path task.rule.name = .ok findings) :
      Means task url (.answered status body true) (.accepted findings)

def usage : Exchange → Nat × Nat
  | .answered status body true =>
    if 200 ≤ status ∧ status < 300 then
      match (Endpoint.answerRecord.decoder id).ofText body with
      | .ok (some _ :: _, usage, ()) => usage.getD (0, 0)
      | _ => (0, 0)
    else (0, 0)
  | _ => (0, 0)

variable {task : Task} {url : String} {x : Exchange} {u u' : Upshot}

theorem readExchange_failure {status : Nat} (failure : ¬(200 ≤ status ∧ status < 300)) (url body : String) (intact : Bool) :
    Endpoint.readExchange url (.answered status body intact) =
      .error (if Status.isTransient status then
        .transient ("API error " ++ Status.describe status ++ ": " ++ Text.trimmed body)
      else .permanent ("API error " ++ Status.describe status ++ ": " ++ Text.trimmed body)) := by
  rw [Endpoint.readExchange, if_neg (by rw [isSuccess_iff]; exact failure)]

theorem readExchange_success {status : Nat} (success : 200 ≤ status ∧ status < 300) (url body : String) :
    Endpoint.readExchange url (.answered status body true) = Endpoint.readBody body := by
  rw [Endpoint.readExchange, if_pos (isSuccess_iff.mpr success), if_pos rfl]

theorem readExchange_cut {status : Nat} (success : 200 ≤ status ∧ status < 300) (url body : String) :
    Endpoint.readExchange url (.answered status body false) =
      .error (.transient "Unreadable response: error decoding response body") := by
  rw [Endpoint.readExchange, if_pos (isSuccess_iff.mpr success)]
  rfl

/-- An exchange means what its outcome comes to. -/
theorem Means.upshot (means : Means task url x u) : Upshot.ofOutcome task (Endpoint.readExchange url x) = u := by
  cases means with
  | unreachable => rfl
  | @busy status body intact busy =>
    rw [readExchange_failure (by omega), if_pos (isTransient_iff.mpr busy)]
    rfl
  | refused failure lasting =>
    rw [readExchange_failure failure, if_neg (by rw [isTransient_iff]; exact lasting)]
    rfl
  | cut success =>
    rw [readExchange_cut success]
    rfl
  | undecodable success decoded =>
    rw [readExchange_success success, Endpoint.readBody, decoded]
    rfl
  | choiceless success decoded =>
    rw [readExchange_success success, Endpoint.readBody, decoded]
    rfl
  | contentless success decoded =>
    rw [readExchange_success success, Endpoint.readBody, decoded]
    rfl
  | malformed success decoded malformed =>
    rw [readExchange_success success, Endpoint.readBody, decoded]
    simp only [List.head?_cons, Option.join_some, Upshot.ofOutcome, malformed]
  | accepted success decoded accepted =>
    rw [readExchange_success success, Endpoint.readBody, decoded]
    simp only [List.head?_cons, Option.join_some, Upshot.ofOutcome, accepted]

end Exchange

end PolicyLint
