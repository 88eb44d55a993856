import Mathlib.Algebra.GroupWithZero.Nat
import Courseware.Generation.Attempt
import Courseware.Proofs.Provider.Recorded

/-! # Runs of a generation

A generation makes its calls one after the other, all with the same request, and waits between
them. A **run** (`Run`) says when the calls start, when they stop, and what comes of them. One
attempt after another extends a run at its front (`Run.cons`), so every generation has one
(`generate_run`). -/

namespace Courseware

open Provider

/-- **The wait after a failed call** that `earlier` calls came before: the delay doubles with each of
them, thirty-one times at most. -/
def RetryPolicy.wait (policy : RetryPolicy) (earlier : Nat) : Nat :=
  min (policy.initialDelay * 2 ^ min earlier 31) Time.maxSpan

/-- The wait after an attempt depends on the attempts before it. -/
theorem RetryPolicy.delayAfter_succ (policy : RetryPolicy) (earlier : Nat) :
    policy.delayAfter (earlier + 1) = policy.wait earlier := rfl

example : (List.range 4).map (RetryPolicy.ofAttempts 5 1000).wait = [1000, 2000, 4000, 8000] := by
  decide

namespace Generator

variable {σ : Type}

/-- **A call that passes**: it brings a response that is sound for the task. -/
def Passes (request : GenerationRequest) (call : Call) (reply : Reply) (validated : Validated) :
    Prop :=
  call.answer.value = .ok reply ∧
    Response.validate request.task reply.text request.options.itemCount = .ok validated

/-- A call passes when its answer is judged to be sound. -/
theorem judge_eq_ok_iff {request : GenerationRequest} {call : Call} {reply : Reply}
    {validated : Validated} :
    judge request call.answer.value = .ok (reply, validated) ↔
      Passes request call reply validated := by
  rw [Passes]
  cases hanswer : call.answer.value with
  | error e => simp [judge]
  | ok answered =>
      cases hvalidate : Response.validate request.task answered.text request.options.itemCount with
      | error e =>
          simp only [judge, hvalidate, reduceCtorEq, false_iff, not_and, Except.ok.injEq]
          rintro rfl
          simp [hvalidate]
      | ok sound =>
          simp only [judge, hvalidate, Except.ok.injEq, Prod.mk.injEq]
          constructor
          · rintro ⟨rfl, rfl⟩
            exact ⟨rfl, hvalidate⟩
          · rintro ⟨rfl, h⟩
            rw [hvalidate] at h
            exact ⟨rfl, Except.ok.inj h⟩

/-! ## One attempt -/

section Attempt

variable {generator : Generator σ} {request : GenerationRequest} {start spent : Nat}
  {state next : σ} {answer : Time.After (Answer Reply)}

/-- An attempt whose answer is sound ends the generation. -/
theorem attempts_of_ok {reply : Reply} {validated : Validated} (left attempt : Nat)
    (hcall : generator.provider.generate (start + spent) (generator.requestFor request) state =
      (answer, next))
    (hjudge : judge request answer.value = .ok (reply, validated)) :
    generator.attempts request start left attempt spent state =
      (⟨.ok ⟨request.task, validated.material, attempt, spent + answer.took, validated.batch,
        reply.model, reply.usage⟩, spent + answer.took⟩, next) := by
  rw [attempts.eq_def]
  simp only [hcall, hjudge]

/-- The last attempt ends the generation when it fails. -/
theorem attempts_zero_of_error {e : AttemptError} (attempt : Nat)
    (hcall : generator.provider.generate (start + spent) (generator.requestFor request) state =
      (answer, next))
    (hjudge : judge request answer.value = .error e) :
    generator.attempts request start 0 attempt spent state =
      (⟨.error ⟨request.task, attempt, e.message, spent + answer.took⟩, spent + answer.took⟩,
        next) := by
  rw [attempts.eq_def]
  simp only [hcall, hjudge]

/-- An attempt that fails before the last one is followed by the next after a wait. -/
theorem attempts_succ_of_error {e : AttemptError} (left attempt : Nat)
    (hcall : generator.provider.generate (start + spent) (generator.requestFor request) state =
      (answer, next))
    (hjudge : judge request answer.value = .error e) :
    generator.attempts request start (left + 1) attempt spent state =
      generator.attempts request start left (attempt + 1)
        (spent + answer.took + generator.retry.delayAfter attempt) next := by
  rw [attempts.eq_def]
  simp only [hcall, hjudge]

end Attempt

/-! ## Runs -/

/-- **A run of a generation** that has at most `budget` calls left, when `made` calls and the time
`spent` lie behind it and the next call starts at `start`: the calls that follow, and how the
generation ends. -/
structure Run (generator : Generator σ) (request : GenerationRequest) (budget made start spent : Nat)
    (calls : List Call) (ended : Ended) : Prop where
  /-- There is a call. -/
  length_pos : 0 < calls.length
  /-- The budget is kept. -/
  length_le : calls.length ≤ budget
  /-- All calls ask for the same. -/
  requests : ∀ call ∈ calls, call.request = generator.requestFor request
  /-- The first call starts at once. -/
  first : calls[0].start = start
  /-- Every other call starts when the wait after the one before is over. -/
  next : ∀ i (_ : i + 1 < calls.length),
    calls[i + 1].start = calls[i].finish + generator.retry.wait (made + i)
  /-- The time is that of the calls and of the waits between them. -/
  took : ended.took = spent + (calls.map (·.answer.took)).sum +
    ((List.range (calls.length - 1)).map fun i => generator.retry.wait (made + i)).sum
  /-- A call that passes is the last one, and its response is the outcome. -/
  succeeded : ∀ i (_ : i < calls.length) reply validated, Passes request calls[i] reply validated →
    calls.length = i + 1 ∧
      ended.value = .ok ⟨request.task, validated.material, made + i + 1, ended.took,
        validated.batch, reply.model, reply.usage⟩
  /-- When no call passes the budget is used up, and the last error is reported. -/
  exhausted : (∀ call ∈ calls, ∀ reply validated, ¬ Passes request call reply validated) →
    calls.length = budget ∧ ∃ last e, calls.getLast? = some last ∧
      judge request last.answer.value = .error e ∧
      ended.value = .error ⟨request.task, made + budget, e.message, ended.took⟩

section Run

variable {generator : Generator σ} {request : GenerationRequest} {budget made start spent : Nat}
  {answer : Time.After (Answer Reply)}

/-- A call that passes is a run. -/
theorem run_of_ok {reply : Reply} {validated : Validated}
    (hjudge : judge request answer.value = .ok (reply, validated)) :
    generator.Run request (budget + 1) made start spent
      [⟨start, generator.requestFor request, answer⟩]
      ⟨.ok ⟨request.task, validated.material, made + 1, spent + answer.took, validated.batch,
        reply.model, reply.usage⟩, spent + answer.took⟩ where
  length_pos := Nat.one_pos
  length_le := Nat.le_add_left 1 budget
  requests := by simp
  first := rfl
  next i h := by simp at h
  took := by simp
  succeeded i h reply' validated' hpasses := by
    obtain rfl : i = 0 := by simpa using h
    have hsame := hjudge.symm.trans (judge_eq_ok_iff.mpr hpasses)
    obtain ⟨rfl, rfl⟩ := Prod.mk.inj (Except.ok.inj hsame)
    exact ⟨rfl, rfl⟩
  exhausted hnone := absurd (judge_eq_ok_iff.mp hjudge) (hnone _ (List.mem_singleton_self _) _ _)

/-- A call that fails is a run when it is the last one. -/
theorem run_of_error {e : AttemptError} (hjudge : judge request answer.value = .error e) :
    generator.Run request 1 made start spent [⟨start, generator.requestFor request, answer⟩]
      ⟨.error ⟨request.task, made + 1, e.message, spent + answer.took⟩, spent + answer.took⟩ where
  length_pos := Nat.one_pos
  length_le := Nat.le_refl 1
  requests := by simp
  first := rfl
  next i h := by simp at h
  took := by simp
  succeeded i h reply validated hpasses := by
    obtain rfl : i = 0 := by simpa using h
    cases hjudge.symm.trans (judge_eq_ok_iff.mpr hpasses)
  exhausted _ := ⟨rfl, _, e, rfl, hjudge, rfl⟩

/-- **A call that fails before a run** extends it. The run starts when the wait is over. -/
theorem Run.cons {e : AttemptError} {calls : List Call} {ended : Ended}
    (hjudge : judge request answer.value = .error e)
    (h : generator.Run request budget (made + 1) (start + answer.took + generator.retry.wait made)
      (spent + answer.took + generator.retry.wait made) calls ended) :
    generator.Run request (budget + 1) made start spent
      (⟨start, generator.requestFor request, answer⟩ :: calls) ended where
  length_pos := Nat.succ_pos _
  length_le := Nat.succ_le_succ h.length_le
  requests := List.forall_mem_cons.mpr ⟨rfl, h.requests⟩
  first := rfl
  next i hi := by
    cases i with
    | zero => simpa [Call.finish] using h.first
    | succ i =>
        have hnext := h.next i (by simpa using hi)
        rwa [Nat.add_right_comm made 1 i] at hnext
  took := by
    have hlength : calls.length = calls.length - 1 + 1 := (Nat.sub_add_cancel h.length_pos).symm
    rw [h.took, List.map_cons, List.sum_cons, List.length_cons, Nat.add_sub_cancel, hlength,
      List.range_succ_eq_map]
    simp only [List.map_cons, List.sum_cons, List.map_map, Function.comp_def, Nat.add_sub_cancel]
    -- The waits of the run that follows are counted from one more call on.
    have hshift : (fun i => generator.retry.wait (made + 1 + i)) =
        fun i => generator.retry.wait (made + i.succ) := by
      funext i
      rw [Nat.add_right_comm made 1 i]
      rfl
    rw [hshift, Nat.add_zero]
    omega
  succeeded i hi reply validated hpasses := by
    cases i with
    | zero => cases hjudge.symm.trans (judge_eq_ok_iff.mpr hpasses)
    | succ i =>
        obtain ⟨hlength, hvalue⟩ := h.succeeded i (by simpa using hi) reply validated hpasses
        refine ⟨congrArg Nat.succ hlength, ?_⟩
        rw [hvalue, Nat.add_right_comm made 1 i, Nat.add_assoc made i 1]
  exhausted hnone := by
    obtain ⟨hlength, last, error, hlast, herror, hvalue⟩ :=
      h.exhausted fun call hmem => hnone call (List.mem_cons_of_mem _ hmem)
    refine ⟨congrArg Nat.succ hlength, last, error, ?_, herror, ?_⟩
    · rw [List.getLast?_cons, hlast, Option.getD_some]
    · rw [hvalue, Nat.add_assoc, Nat.add_comm 1 budget]

end Run

/-! ## The run of every generation -/

/-- **A generator whose calls are recorded.** -/
def recorded (generator : Generator σ) : Generator (σ × List Call) where
  provider := generator.provider.recorded
  model := generator.model
  system := generator.system
  retry := generator.retry

section Recorded

variable {generator : Generator σ} {request : GenerationRequest} {now spent : Nat} {state next : σ}
  {answer : Time.After (Answer Reply)}

/-- An attempt whose answer is sound makes a run, and recording it shows its call. -/
theorem exists_run_of_ok {reply : Reply} {validated : Validated} (left made : Nat) (log : List Call)
    (hcall : generator.provider.generate (now + spent) (generator.requestFor request) state =
      (answer, next))
    (hjudge : judge request answer.value = .ok (reply, validated)) :
    ∃ calls ended final,
      generator.attempts request now left (made + 1) spent state = (ended, final) ∧
      generator.recorded.attempts request now left (made + 1) spent (state, log) =
        (ended, final, log ++ calls) ∧
      generator.Run request (left + 1) made (now + spent) spent calls ended :=
  ⟨_, _, _, attempts_of_ok left (made + 1) hcall hjudge,
    attempts_of_ok left (made + 1) (recorded_generate log hcall) hjudge, run_of_ok hjudge⟩

end Recorded

/-- The attempts that are left make a run, and recording them shows its calls. -/
theorem exists_run (generator : Generator σ) (request : GenerationRequest)
    (now left made spent : Nat) (state : σ) (log : List Call) :
    ∃ calls ended final,
      generator.attempts request now left (made + 1) spent state = (ended, final) ∧
      generator.recorded.attempts request now left (made + 1) spent (state, log) =
        (ended, final, log ++ calls) ∧
      generator.Run request (left + 1) made (now + spent) spent calls ended := by
  induction left generalizing made spent state log with
  | zero =>
      obtain ⟨answer, next, hcall⟩ : ∃ answer next,
          generator.provider.generate (now + spent) (generator.requestFor request) state =
            (answer, next) := ⟨_, _, rfl⟩
      cases hjudge : judge request answer.value with
      | ok passed => exact exists_run_of_ok 0 made log hcall hjudge
      | error e =>
          have hrecorded := recorded_generate log hcall
          exact ⟨_, _, _, attempts_zero_of_error (made + 1) hcall hjudge,
            attempts_zero_of_error (made + 1) hrecorded hjudge, run_of_error hjudge⟩
  | succ left ih =>
      obtain ⟨answer, next, hcall⟩ : ∃ answer next,
          generator.provider.generate (now + spent) (generator.requestFor request) state =
            (answer, next) := ⟨_, _, rfl⟩
      cases hjudge : judge request answer.value with
      | ok passed => exact exists_run_of_ok (left + 1) made log hcall hjudge
      | error e =>
          -- The attempts after the wait make a run, which the call that failed extends.
          obtain ⟨calls, ended, final, hrun, hlog, htail⟩ := ih (made + 1)
            (spent + answer.took + generator.retry.wait made) next
            (log ++ [⟨now + spent, generator.requestFor request, answer⟩])
          rw [← Nat.add_assoc, ← Nat.add_assoc] at htail
          rw [List.append_assoc, List.singleton_append] at hlog
          refine ⟨_, ended, final, ?_, ?_, htail.cons hjudge⟩
          · rw [attempts_succ_of_error left (made + 1) hcall hjudge, RetryPolicy.delayAfter_succ]
            exact hrun
          · rw [attempts_succ_of_error left (made + 1) (recorded_generate log hcall) hjudge,
              RetryPolicy.delayAfter_succ]
            exact hlog

/-- **Every generation is a run** of at least one call and at most the attempts of its policy, from
the time at which it begins, whatever the provider does. -/
theorem generate_run (provider : Provider σ) (model : String) (system : Option String)
    (maxAttempts initialDelay : Nat) (request : GenerationRequest) (now : Nat) (state : σ) :
    let generator : Generator σ :=
      ⟨provider, model, system, RetryPolicy.ofAttempts maxAttempts initialDelay⟩
    ∃ calls ended final,
      generator.generate request now state = (ended, final) ∧
      generator.recorded.generate request now (state, []) = (ended, final, calls) ∧
      generator.Run request (max 1 maxAttempts) 0 now 0 calls ended := by
  intro generator
  have hbudget : generator.retry.maxAttempts - 1 + 1 = max 1 maxAttempts := by
    show max maxAttempts 1 - 1 + 1 = max 1 maxAttempts
    omega
  obtain ⟨calls, ended, final, hrun, hlog, hcalls⟩ :=
    generator.exists_run request now (generator.retry.maxAttempts - 1) 0 0 state []
  rw [hbudget] at hcalls
  exact ⟨calls, ended, final, hrun, hlog, hcalls⟩

end Generator

end Courseware
