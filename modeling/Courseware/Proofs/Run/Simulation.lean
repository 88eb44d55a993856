import Courseware.Run.Basic
import Courseware.Proofs.Generation.Attempt

/-! # Runs that answer alike

Two runs of the same settings give the same report when their providers answer alike and their
stores do (`Runner.Alike`, `run_agree`). States may differ, as long as a relation between them is
kept. What failure logs and alerts answer is not compared, since a run never looks at it. -/

namespace Courseware

variable {σ σ' ρ ρ' α : Type}

/-- **Steps that agree**: they give the same, and the states they leave are related. -/
def Agree (S : σ → σ' → Prop) (x : α × σ) (y : α × σ') : Prop := x.1 = y.1 ∧ S x.2 y.2

/-- **Providers that answer alike** in related states. -/
def Provider.Alike (S : σ → σ' → Prop) (p : Provider σ) (q : Provider σ') : Prop :=
  ∀ now request s s', S s s' → Agree S (p.generate now request s) (q.generate now request s')

/-- **Sinks that store alike** in related states. Failure logs and alerts keep the relation and may
answer what they like. -/
structure Sinks.Alike (S : ρ → ρ' → Prop) (a : Sinks ρ) (b : Sinks ρ') : Prop where
  /-- The stores answer alike. -/
  store : ∀ unit task material s s', S s s' →
    Agree S (a.store unit task material s) (b.store unit task material s')
  /-- Marking a failure keeps the relation. -/
  record : ∀ unit task message s s', S s s' →
    S (a.record unit task message s).2 (b.record unit task message s').2
  /-- Removing a mark keeps the relation. -/
  clear : ∀ unit task s s', S s s' → S (a.clear unit task s).2 (b.clear unit task s').2
  /-- An alert keeps the relation. -/
  notify : ∀ subject message s s', S s s' →
    S (a.notify subject message s).2 (b.notify subject message s').2

/-- **Generators that answer alike**: they differ in the provider alone. -/
structure Generator.Alike (S : σ → σ' → Prop) (a : Generator σ) (b : Generator σ') : Prop where
  /-- They ask for the same model. -/
  model : a.model = b.model
  /-- They tell the model the same. -/
  system : a.system = b.system
  /-- They try equally often. -/
  retry : a.retry = b.retry
  /-- Their providers answer alike. -/
  provider : a.provider.Alike S b.provider

/-- **Runners that answer alike**: they differ in the provider and the sinks alone. -/
structure Runner.Alike (S : σ → σ' → Prop) (T : ρ → ρ' → Prop) (a : Runner σ ρ)
    (b : Runner σ' ρ') : Prop where
  /-- They make the same contexts. -/
  bounding : a.bounding = b.bounding
  /-- They have the same settings. -/
  settings : a.settings = b.settings
  /-- Both send alerts, or neither does. -/
  notifications : a.notifications = b.notifications
  /-- Their generators answer alike. -/
  generator : a.generator.Alike S b.generator
  /-- Their sinks store alike. -/
  sinks : a.sinks.Alike T b.sinks

/-- **Stages that are related**: at the same time, in related states. -/
structure Stage.Related (S : σ → σ' → Prop) (T : ρ → ρ' → Prop) (stage : Stage σ ρ)
    (other : Stage σ' ρ') : Prop where
  /-- It is the same time. -/
  now : stage.now = other.now
  /-- The providers are in related states. -/
  provider : S stage.provider other.provider
  /-- The sinks are in related states. -/
  sinks : T stage.sinks other.sinks

/-- Stages are equal when they are related by equality. -/
theorem Stage.eq_of_related {stage other : Stage σ ρ} (h : stage.Related Eq Eq other) :
    stage = other := by
  cases stage
  cases other
  obtain ⟨rfl, rfl, rfl⟩ := h
  rfl

/-! ## Generations -/

namespace Generator

variable {S : σ → σ' → Prop} {a : Generator σ} {b : Generator σ'}

/-- Generators that answer alike send the same request, and it is answered alike. -/
theorem Alike.exists_answer (h : a.Alike S b) (request : GenerationRequest) (now : Nat) {s : σ}
    {s' : σ'} (hs : S s s') :
    ∃ answer next next', a.provider.generate now (a.requestFor request) s = (answer, next) ∧
      b.provider.generate now (b.requestFor request) s' = (answer, next') ∧ S next next' := by
  have hrequest : b.requestFor request = a.requestFor request := by
    rw [requestFor, requestFor, h.model, h.system]
  obtain ⟨hanswer, hnext⟩ := h.provider now (a.requestFor request) s s' hs
  rw [hrequest]
  refine ⟨_, _, _, rfl, ?_, hnext⟩
  rw [hanswer]

/-- **Attempts agree** when the generators answer alike. -/
theorem Alike.attempts (h : a.Alike S b) (request : GenerationRequest)
    (start left attempt spent : Nat) {s : σ} {s' : σ'} (hs : S s s') :
    Agree S (a.attempts request start left attempt spent s)
      (b.attempts request start left attempt spent s') := by
  induction left generalizing attempt spent s s' with
  | zero =>
      obtain ⟨answer, next, next', hcall, hcall', hnext⟩ :=
        h.exists_answer request (start + spent) hs
      cases hjudge : judge request answer.value with
      | ok passed =>
          rw [attempts_of_ok 0 attempt hcall hjudge, attempts_of_ok 0 attempt hcall' hjudge]
          exact ⟨rfl, hnext⟩
      | error e =>
          rw [attempts_zero_of_error attempt hcall hjudge,
            attempts_zero_of_error attempt hcall' hjudge]
          exact ⟨rfl, hnext⟩
  | succ left ih =>
      obtain ⟨answer, next, next', hcall, hcall', hnext⟩ :=
        h.exists_answer request (start + spent) hs
      cases hjudge : judge request answer.value with
      | ok passed =>
          rw [attempts_of_ok (left + 1) attempt hcall hjudge,
            attempts_of_ok (left + 1) attempt hcall' hjudge]
          exact ⟨rfl, hnext⟩
      | error e =>
          rw [attempts_succ_of_error left attempt hcall hjudge,
            attempts_succ_of_error left attempt hcall' hjudge, h.retry]
          exact ih (attempt + 1) _ hnext

/-- **Generations agree** when the generators answer alike. -/
theorem Alike.generate (h : a.Alike S b) (request : GenerationRequest) (now : Nat) {s : σ} {s' : σ'}
    (hs : S s s') : Agree S (a.generate request now s) (b.generate request now s') := by
  rw [Generator.generate, Generator.generate, h.retry]
  exact h.attempts request now _ 1 0 hs

end Generator

/-! ## Storing -/

/-- **The message of a task** whose material was generated and not stored. -/
def storeFailure (task : Task) (error : SinkError) : String :=
  "failed to store " ++ task.name ++ " result: " ++ error.message

namespace Runner

variable {runner : Runner σ ρ} {unit : String} {outcome : Outcome} {state : ρ}

/-- A task succeeds when its material is stored. -/
theorem accept_of_ok {stored : Unit}
    (h : (runner.sinks.store unit outcome.task outcome.material state).1 = .ok stored) :
    runner.accept unit outcome state =
      (.succeeded outcome.attempts outcome.material.count,
        (runner.sinks.clear unit outcome.task
          (runner.sinks.store unit outcome.task outcome.material state).2).2) := by
  rw [accept]
  simp only [h]

/-- A task fails when its material is not stored. -/
theorem accept_of_error {e : SinkError}
    (h : (runner.sinks.store unit outcome.task outcome.material state).1 = .error e) :
    runner.accept unit outcome state =
      (.failed (storeFailure outcome.task e),
        runner.fail unit outcome.task (storeFailure outcome.task e)
          (runner.sinks.store unit outcome.task outcome.material state).2) := by
  rw [accept]
  simp only [h]
  rfl

end Runner

/-! ## Runs -/

namespace Runner

variable {S : σ → σ' → Prop} {T : ρ → ρ' → Prop} {a : Runner σ ρ} {b : Runner σ' ρ'}
  {stage : Stage σ ρ} {other : Stage σ' ρ'} {s : ρ} {s' : ρ'}

/-- Alerts keep sinks related. -/
theorem Alike.alert (h : a.Alike S T b) (subject message : String) (hs : T s s') :
    T (a.alert subject message s) (b.alert subject message s') := by
  rw [Runner.alert, Runner.alert, h.notifications]
  split
  · exact h.sinks.notify subject message s s' hs
  · exact hs

/-- Announcing how a context was made keeps sinks related. -/
theorem Alike.announceBounding (h : a.Alike S T b) (unit : String) (bounded : BoundedContext)
    (hs : T s s') :
    T (a.announceBounding unit bounded s) (b.announceBounding unit bounded s') := by
  rw [Runner.announceBounding, Runner.announceBounding]
  split
  · exact h.alert _ _ hs
  · exact hs

/-- Marking and announcing a failure keeps sinks related. -/
theorem Alike.fail (h : a.Alike S T b) (unit : String) (task : Task) (message : String)
    (hs : T s s') : T (a.fail unit task message s) (b.fail unit task message s') :=
  h.alert _ _ (h.sinks.record unit task message s s' hs)

/-- Storing an outcome agrees. -/
theorem Alike.accept (h : a.Alike S T b) (unit : String) (outcome : Outcome) (hs : T s s') :
    Agree T (a.accept unit outcome s) (b.accept unit outcome s') := by
  obtain ⟨hstored, hnext⟩ := h.sinks.store unit outcome.task outcome.material s s' hs
  cases hanswer : (a.sinks.store unit outcome.task outcome.material s).1 with
  | ok stored =>
      rw [hanswer] at hstored
      rw [accept_of_ok hanswer, accept_of_ok hstored.symm]
      exact ⟨rfl, h.sinks.clear unit outcome.task _ _ hnext⟩
  | error e =>
      rw [hanswer] at hstored
      rw [accept_of_error hanswer, accept_of_error hstored.symm]
      exact ⟨rfl, h.fail unit outcome.task _ hnext⟩

/-- Settling a task agrees. -/
theorem Alike.settle (h : a.Alike S T b) (unit : String) (result : Except Exhausted Outcome)
    (hs : T s s') : Agree T (a.settle unit result s) (b.settle unit result s') := by
  cases result with
  | ok outcome => exact h.accept unit outcome hs
  | error e => exact ⟨rfl, h.fail unit e.task e.lastError hs⟩

/-- Making a context and generating from it agrees. -/
theorem Alike.runTask (h : a.Alike S T b) (unit source : String) (task : Task)
    (hstage : stage.Related S T other) :
    Agree (Stage.Related S T) (a.runTask unit source task stage)
      (b.runTask unit source task other) := by
  have hrequest : ∀ bounded, b.requestFor bounded = a.requestFor bounded := fun bounded => by
    rw [Runner.requestFor, Runner.requestFor, h.settings]
  obtain ⟨hended, hprovider⟩ :=
    h.generator.generate (a.requestFor (a.bounding.bound task source)) stage.now hstage.provider
  rw [Runner.runTask, Runner.runTask]
  simp only [← h.bounding, hrequest, ← hstage.now, ← hended]
  exact ⟨rfl, ⟨rfl, hprovider, h.announceBounding unit _ hstage.sinks⟩⟩

/-- **Working through a task agrees.** -/
theorem Alike.step (h : a.Alike S T b) (unit source : String) (task : Task)
    (hstage : stage.Related S T other) :
    Agree (Stage.Related S T) (a.step unit source task stage) (b.step unit source task other) := by
  obtain ⟨hresult, hnext⟩ := h.runTask unit source task hstage
  obtain ⟨hstatus, hsinks⟩ :=
    h.settle unit (a.runTask unit source task stage).1 hnext.sinks
  rw [Runner.step, Runner.step]
  simp only [← h.bounding, ← hresult, ← hstatus]
  exact ⟨rfl, ⟨hnext.now, hnext.provider, hsinks⟩⟩

/-- **Working through tasks agrees.** -/
theorem Alike.steps (h : a.Alike S T b) (unit source : String) (tasks : List Task)
    (hstage : stage.Related S T other) :
    Agree (Stage.Related S T) (a.steps unit source tasks stage)
      (b.steps unit source tasks other) := by
  induction tasks generalizing stage other with
  | nil => exact ⟨rfl, hstage⟩
  | cons task rest ih =>
      obtain ⟨hreport, hnext⟩ := h.step unit source task hstage
      obtain ⟨hreports, hfinal⟩ := ih hnext
      rw [Runner.steps, Runner.steps]
      simp only [← hreport, ← hreports]
      exact ⟨rfl, hfinal⟩

/-- **Runs agree** when the runners answer alike: they give the same report or error, and leave
related stages. -/
theorem run_agree (h : a.Alike S T b) (unit source : String) (hstage : stage.Related S T other) :
    Agree (Stage.Related S T) (a.run unit source stage) (b.run unit source other) := by
  obtain ⟨hreports, hfinal⟩ := h.steps unit source a.settings.tasks hstage
  rw [Runner.run, Runner.run]
  simp only [← h.settings, ← hreports]
  split
  · exact ⟨rfl, hstage⟩
  · split
    · exact ⟨rfl, hstage⟩
    · split
      · exact ⟨rfl, hfinal⟩
      · exact ⟨rfl, hfinal⟩

end Runner

end Courseware
