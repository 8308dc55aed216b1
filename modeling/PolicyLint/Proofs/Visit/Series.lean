import PolicyLint.Proofs.Visit.Warm

/-!
# Series of visits

Visits follow each other over one directory. What a completion was accepted for in one of them answers
every later task with the same key, wherever its file is by then.
-/

namespace PolicyLint

variable {σ : Type}

def CacheDir.after (d : CacheDir) (visits : List (Visit σ)) : CacheDir := visits.foldl (fun d v => v.leaves d) d

namespace Visit

theorem after_take_succ {d : CacheDir} {visits : List (Visit σ)} {i : Nat} {v : Visit σ} (here : visits[i]? = some v) :
    d.after (visits.take (i + 1)) = v.leaves (d.after (visits.take i)) := by
  rw [CacheDir.after, List.take_add_one, here, List.foldl_append]
  rfl

/-! ### Answers -/

/-- Every task of a visit is answered, and what the visit reports are the answers put together. -/
theorem report_eq {v : Visit σ} {width bound : Nat} {groups : List (List Task)}
    (accepted : v.batch = some (width, bound, groups)) (apart : Task.Apart v.tasks)
    (d : CacheDir) :
    (v.answers d).map Prod.fst = v.tasks ∧
      v.report d = some (Verdict.fold ((v.answers d).map Prod.snd)).normalized := by
  obtain ⟨_, _, reports, _⟩ := finish_of_accepted accepted d
  have warm := run_warm accepted apart d
  obtain ⟨tasksOf, verdictsOf⟩ := Engine.map_answersOf
    (v.reviewer.engine.length_runGroups width bound groups (v.opening d)).symm fun i tasks here => by
      obtain ⟨vs, is, same, _⟩ := warm.served i tasks here
      exact ⟨vs, is, same⟩
  rw [reports, answers, tasks, accepted]
  dsimp only
  rw [← verdictsOf]
  exact ⟨tasksOf, rfl⟩

theorem tasks_answers {v : Visit σ} (apart : Task.Apart v.tasks) (d : CacheDir) :
    (v.answers d).map Prod.fst = v.tasks := by
  cases made : v.batch with
  | none =>
    rw [answers, tasks, made]
    rfl
  | some b => exact (report_eq made apart d).1

theorem ok_of_toOption {ε α : Type} {e : Except ε α} {a : α} (some : e.toOption = some a) : e = .ok a := by
  cases e with
  | ok b => rw [Option.some.inj some]
  | error fault => exact absurd some (by simp [Except.toOption])

theorem servedTo_accepted {completion : Completion} {path path' rule rule' : String} {findings : List Finding} {u : Verdict}
    (read : readCompletion completion.text path rule = .ok findings)
    (stored : readCompletion completion.text path' rule' = .ok u.findings) (judged : u.failures = []) (t : Task) :
    u.servedTo t =
      { findings := findings.map fun f => { f with path := t.file.path, rule := t.rule.name }, checks := 1, hits := 1 } := by
  have same : u.findings.map (fun f => { f with path := t.file.path, rule := t.rule.name }) =
      findings.map fun f => { f with path := t.file.path, rule := t.rule.name } := by
    have first := readCompletion_retarget completion.text path rule t.file.path t.rule.name
    have second := readCompletion_retarget completion.text path' rule' t.file.path t.rule.name
    rw [first, read, stored] at second
    exact (Except.ok.inj second).symm
  unfold Verdict.servedTo Verdict.asHit Verdict.retarget
  rw [judged]
  dsimp only
  rw [same]
  rfl

/-! ### Series -/

section Series

variable {d : CacheDir} {visits : List (Visit σ)} (cached : ∀ v ∈ visits, v.config.cached = true)
  (saved : ∀ (i : Nat) (v : Visit σ), visits[i]? = some v → v.Saved (d.after (visits.take i)))
  (apart : ∀ v ∈ visits, Task.Apart v.tasks)

include cached saved apart

/-- What a directory holds at some time it holds from then on, while no visit finds it expired. -/
theorem after_keeps {i j : Nat} {k : Key} {e : Entry} (has : (d.after (visits.take i)).Has k e) (own : e.key = k)
    (trusted : ∀ (m : Nat) (u : Visit σ), i ≤ m → visits[m]? = some u → u.Trusts e.created) (before : i ≤ j)
    (inside : j ≤ visits.length) : (d.after (visits.take j)).Has k e := by
  -- By induction on the visits in between, each of which leaves what it has found.
  induction before with
  | refl => exact has
  | @step m before ih =>
    have here : visits[m]? = some visits[m] := List.getElem?_eq_getElem inside
    have member : visits[m] ∈ visits := List.getElem_mem inside
    rw [after_take_succ here]
    exact (leaves_of_has (cached _ member) (apart _ member) (saved m _ here) (ih (Nat.le_of_succ_le inside)) own
      (trusted m _ before here)).2.2

/-- What one visit has an accepted completion for, no later visit asks about. It answers every task with
the key of that completion with what was found then, in its own file and under its own rule, at no cost, and
what it reports are its answers put together. -/
theorem series_reuse
    (trusted : ∀ (i j : Nat) (v u : Visit σ), i < j → visits[i]? = some v → visits[j]? = some u → u.Trusts v.now)
    {i j : Nat} {v u : Visit σ} (before : i < j) (first : visits[i]? = some v) (later : visits[j]? = some u)
    {call : Call} (made : call ∈ (v.finish (d.after (visits.take i))).calls) {completion : Completion}
    (brought : call.outcome = .ok completion) {path rule : String} {findings : List Finding}
    (read : readCompletion completion.text path rule = .ok findings) :
    (∀ other ∈ (u.finish (d.after (visits.take j))).calls, other.key ≠ call.key) ∧
      (u.answers (d.after (visits.take j))).map Prod.fst = u.tasks ∧
      (u.batch.isSome = true → u.report (d.after (visits.take j)) =
        some (Verdict.fold ((u.answers (d.after (visits.take j))).map Prod.snd)).normalized) ∧
      ∀ p ∈ u.answers (d.after (visits.take j)), p.1.key = call.key →
        p.2 = { findings := findings.map fun f => { f with path := p.1.file.path, rule := p.1.rule.name }
                checks := 1, hits := 1 } := by
  have inFirst : v ∈ visits := List.mem_of_getElem? first
  have inLater : u ∈ visits := List.mem_of_getElem? later
  obtain ⟨stored, path', rule', has, reads, judged⟩ :=
    leaves_of_accepted (cached v inFirst) (apart v inFirst) (saved i v first) made brought read
  rw [← after_take_succ first] at has
  have trusts : ∀ (m : Nat) (w : Visit σ), i + 1 ≤ m → visits[m]? = some w → w.Trusts v.now :=
    fun m w past here => trusted i m v w past first here
  have found := after_keeps cached saved apart has rfl trusts before
    (Nat.le_of_lt (List.getElem?_eq_some_iff.mp later).1)
  obtain ⟨quiet, served, _⟩ := leaves_of_has (cached u inLater) (apart u inLater) (saved j u later) found rfl
    (trusts j u before later)
  refine ⟨quiet, tasks_answers (apart u inLater) _, ?_, ?_⟩
  · intro accepted
    obtain ⟨_, made⟩ := Option.isSome_iff_exists.mp accepted
    exact (report_eq made (apart u inLater) _).2
  · intro p member same
    rw [served p member same]
    exact servedTo_accepted read reads judged p.1

omit cached saved apart in
theorem series_reuse_of_renamed :
    let rule : Rule := { name := "no-let", description := "Use const." }
    let completion : Completion :=
      { text := "\x7b\"violations\": [\x7b\"message\": \"Use const.\", \"line\": 1\x7d]\x7d" }
    let v : Visit Unit :=
      { config := {}, judge := .constant { outcome := .ok completion }, state := (), now := 0
        errand := .review [⟨"a.ts", "let a;"⟩] [rule] }
    let u : Visit Unit :=
      { v with now := 60, errand := .evaluation {} [rule] fun _ => { incorrect := [⟨"b.ts", "let a;"⟩] } }
    ∃ call ∈ (v.finish {}).calls, ∃ findings, readCompletion completion.text "a.ts" "no-let" = .ok findings ∧
      (∀ other ∈ (u.finish (v.leaves {})).calls, other.key ≠ call.key) ∧
      u.report (v.leaves {}) = some (Verdict.fold ((u.answers (v.leaves {})).map Prod.snd)).normalized ∧
      ∀ p ∈ u.answers (v.leaves {}), p.1.key = call.key →
        p.2 = { findings := findings.map fun f => { f with path := p.1.file.path, rule := p.1.rule.name }
                checks := 1, hits := 1 } := by
  intro rule completion v u
  have asked : ((v.finish {}).calls[0]?.bind fun call => call.outcome.toOption) = some completion := by decide +kernel
  obtain ⟨call, here, answer⟩ := Option.bind_eq_some_iff.mp asked
  have readable : (readCompletion completion.text "a.ts" "no-let").toOption.isSome = true := by decide +kernel
  obtain ⟨findings, found⟩ := Option.isSome_iff_exists.mp readable
  have read := ok_of_toOption found
  have first : v.tasks = [{ file := ⟨"a.ts", "let a;"⟩, rule, model := v.reviewer.model }] := by decide +kernel
  have second : u.tasks = [{ file := ⟨"b.ts", "let a;"⟩, rule, model := v.reviewer.model }] := by decide +kernel
  have apart : ∀ w ∈ [v, u], Task.Apart w.tasks := by
    intro w member
    rcases List.mem_cons.mp member with rfl | member
    · rw [first]
      exact Task.apart_singleton _
    · obtain rfl := List.mem_singleton.mp member
      rw [second]
      exact Task.apart_singleton _
  obtain ⟨saved, willing⟩ := saved_of_willing (apart v (by simp)) (d := {}) rfl
  have saved' := (saved_of_willing (apart u (by simp)) willing).1
  have cached : ∀ w ∈ [v, u], w.config.cached = true := by simp [v, u]
  have reuse := series_reuse (d := {}) (i := 0) (j := 1) (v := v) (u := u) cached ?saved apart ?trusted Nat.one_pos
    rfl rfl (List.mem_of_getElem? here) (ok_of_toOption answer) read
  case saved =>
    intro i w there
    match i, there with
    | 0, there =>
      obtain rfl := Option.some.inj there
      exact saved
    | 1, there =>
      obtain rfl := Option.some.inj there
      exact saved'
  case trusted =>
    intro i j w w' before there there'
    have inside : j < 2 := (List.getElem?_eq_some_iff.mp there').1
    obtain ⟨rfl, rfl⟩ : i = 0 ∧ j = 1 := by omega
    obtain rfl := Option.some.inj there
    obtain rfl := Option.some.inj there'
    intro age limit
    obtain rfl := Option.some.inj limit
    decide
  obtain ⟨quiet, _, reports, served⟩ := reuse
  exact ⟨call, List.mem_of_getElem? here, findings, read, quiet, reports (by decide +kernel), served⟩

end Series

end Visit

end PolicyLint
