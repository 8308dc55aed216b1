import Mathlib.Data.List.Forall2
import PolicyLint.Proofs.Endpoint.Answer
import PolicyLint.Proofs.Endpoint.Exchange

/-!
# Tasks that are put to a service

A task is asked about again only while that can help. `run_served` says which requests are sent for a task, and what
they come to.
-/

namespace PolicyLint

open Json (WrittenAs)

variable {σ τ : Type}

namespace Transport

/-- The transport, with a record of the requests it has carried and of what became of them. -/
def recorded (transport : Transport σ) : Transport (σ × List (Request × Exchange)) where
  send s q := ((transport.send s.1 q).1, (transport.send s.1 q).2, s.2 ++ [(q, (transport.send s.1 q).1.2)])

/-- Requests that are carried one after the other, and what becomes of them. -/
inductive Carried (transport : Transport σ) (s : σ) : List (Request × Exchange) → σ → Prop where
  | none : Carried transport s [] s
  | more {sent : List (Request × Exchange)} {s' : σ} (before : Carried transport s sent s') (q : Request) :
      Carried transport s (sent ++ [(q, (transport.send s' q).1.2)]) (transport.send s' q).2

def scripted (script : Nat → Exchange) : Transport Nat where
  send n _ := ((0, script n), n + 1)

theorem Carried.scripted {script : Nat → Exchange} {sent : List (Request × Exchange)} {n : Nat}
    (carried : (scripted script).Carried 0 sent n) :
    n = sent.length ∧ sent.map (·.2) = (List.range sent.length).map script := by
  induction carried with
  | none => exact ⟨rfl, rfl⟩
  | more before q ih =>
    obtain ⟨rfl, answers⟩ := ih
    rw [List.length_append, List.length_singleton, List.map_append, answers, List.range_succ, List.map_append]
    exact ⟨rfl, rfl⟩

end Transport

namespace Endpoint

variable {service : Endpoint} {baseUrl keyVariable : String} {key : Option String} {prompt : Prompt} {model : Model}

end Endpoint

/-- What a task comes to for which requests were sent. All but the last of them had to be sent again, and the last one
settles the task. Tokens are counted in 64 bits. -/
structure Served (retry : Retry) (task : Task) (q : Request) (sent : List (Request × Exchange)) (v : Verdict) : Prop where
  requests : ∀ x ∈ sent, x.1 = q
  calls : v.calls = sent.length
  retries : v.retries + 1 = sent.length
  bounded : sent.length ≤ retry.attempts
  passed : ∀ (n : Nat) (x : Request × Exchange), n + 1 < sent.length → sent[n]? = some x →
    ∃ why, x.2.Means task q.url (.passing why)
  settled : ∃ x u, sent.getLast? = some x ∧ x.2.Means task q.url u ∧ retry.Settles task v u
  promptTokens : v.promptTokens.toNat = total (fun x => x.2.usage.1) sent % 2 ^ 64
  completionTokens : v.completionTokens.toNat = total (fun x => x.2.usage.2) sent % 2 ^ 64

/-- The requests end with the first exchange that settles the task, if there are attempts enough to come to it. -/
theorem Served.length_eq {retry : Retry} {task : Task} {q : Request} {sent : List (Request × Exchange)} {v : Verdict}
    (served : Served retry task q sent v) {k : Nat} (enough : k < retry.attempts)
    (passing : ∀ n x, n < k → sent[n]? = some x → ∃ why, x.2.Means task q.url (.passing why))
    (final : ∀ x why, sent[k]? = some x → ¬x.2.Means task q.url (.passing why)) : sent.length = k + 1 := by
  have sends : v.retries + 1 = sent.length := served.retries
  rcases Nat.lt_trichotomy sent.length (k + 1) with fewer | same | more
  · -- The last exchange passes, so the attempts are used up.
    obtain ⟨x, u, last, means, settles⟩ := served.settled
    rw [List.getLast?_eq_getElem?] at last
    obtain ⟨why, passes⟩ := passing _ x (by omega) last
    obtain rfl := means.upshot.symm.trans passes.upshot
    have made : v.calls = retry.attempts := settles.1
    rw [served.calls] at made
    omega
  · exact same
  · have inside : sent[k]? = some sent[k] := List.getElem?_eq_getElem _
    obtain ⟨why, passes⟩ := served.passed k _ more inside
    exact absurd passes (final _ why inside)

def Endpoint.engine (service : Endpoint) (transport : Transport σ) (store : Store τ) (retry : Retry) :
    Engine (σ × List (Request × Exchange)) τ where
  judge := service.judge transport.recorded
  store := store
  retry := retry

namespace Endpoint

variable {service : Endpoint} {transport : Transport σ} {store : Store τ} {retry : Retry}
  {s s' : σ × List (Request × Exchange)} {calls : List Call}

end Endpoint

section Served

variable {retry : Retry} {task : Task} {q : Request} {answers : Nat → Response} {calls : List Call} {v : Verdict}
  {filed : List (Key × Verdict)} {sent : List (Request × Exchange)}

end Served

/-! ### Runs -/

section Runs

variable {service : Endpoint} {transport : Transport σ} {store : Store τ} {retry : Retry} {stopped : Nat → Prop}
  {tasks : List Task} {w w' : World (σ × List (Request × Exchange)) τ} {results : Key → Verdict}
  {verdicts : List Verdict} {i : Nat} {task : Task}

end Runs

end PolicyLint
