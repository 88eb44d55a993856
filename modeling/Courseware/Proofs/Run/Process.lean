import Courseware.Proofs.Run.Isolation
import Courseware.Proofs.Sink.Edit

/-! # Runs as processes

A run reaches its sinks by one call after the other. What is left of it between two calls is a
**process** (`Process`): it waits for the answer when it stores material, and looks at no other
answer. `Runner.process` is the process of a run; its provider and its clock are its own and do not
show. Making its calls one after the other is the run (`exec_process`), and all of them are for the
unit of the run (`process_for`). -/

namespace Courseware

open Text

variable {σ ρ α : Type}

/-- **A process**: what is left of a run between two calls to its sinks. -/
inductive Process (α : Type) where
  /-- No call is left. -/
  | ended (result : α)
  /-- Material is stored, and what comes then depends on the answer. -/
  | store (unit : String) (task : Task) (material : Material) (next : Delivered → Process α)
  /-- A call is made whose answer is not looked at. -/
  | tell (call : Sinks.Call) (next : Process α)

namespace Process

/-- Makes all calls of a process, one after the other. -/
def exec (sinks : Sinks ρ) : Process α → ρ → α × ρ
  | .ended result, state => (result, state)
  | .store unit task material next, state =>
    (next (sinks.store unit task material state).1).exec sinks
      (sinks.store unit task material state).2
  | .tell call next, state => next.exec sinks (sinks.handle call state).2

/-- **A process for a unit**: so are all its calls. -/
inductive For (unit : String) : Process α → Prop
  /-- There is no call. -/
  | ended (result : α) : For unit (.ended result)
  /-- The material is that of the unit. -/
  | store {task : Task} {material : Material} {next : Delivered → Process α}
      (hnext : ∀ answer, (next answer).For unit) : For unit (.store unit task material next)
  /-- The call is for the unit. -/
  | tell {call : Sinks.Call} {next : Process α} (hcall : call.For unit) (hnext : next.For unit) :
      For unit (.tell call next)

end Process

namespace Runner

variable (runner : Runner σ ρ) (unit source : String)

/-! ## The process of a run

Each part of a run is given what comes after it. -/

/-- Sends an alert, if alerts are sent. -/
def alerting (subject message : String) (next : Process α) : Process α :=
  if runner.notifications then .tell (.notify subject message) next else next

/-- Announces a context that was made without retrieval although the text was too large. -/
def announcing (bounded : BoundedContext) (next : Process α) : Process α :=
  if bounded.strategy.isDegraded then
    runner.alerting ("Content bounding fell back for unit " ++ unit)
      ("Bounding for " ++ bounded.task.name ++ " used " ++ bounded.strategy.name ++ " ("
        ++ toString bounded.outputTokens ++ " of " ++ toString bounded.inputTokens
        ++ " tokens kept)") next
  else next

/-- Marks and announces a failed task. -/
def failing (task : Task) (message : String) (next : Process α) : Process α :=
  .tell (.record unit task message) (runner.alerting (failureSubject unit task) message next)

/-- Stores the material of an outcome and removes the mark of the task, or lets the task fail. -/
def accepting (outcome : Outcome) (next : TaskStatus → Process α) : Process α :=
  .store unit outcome.task outcome.material fun
    | .ok () =>
      .tell (.clear unit outcome.task) (next (.succeeded outcome.attempts outcome.material.count))
    | .error e =>
      runner.failing unit outcome.task (storeFailure outcome.task e)
        (next (.failed (storeFailure outcome.task e)))

/-- What becomes of a task by the end of its generation. -/
def settling (result : Except Exhausted Outcome) (next : TaskStatus → Process α) : Process α :=
  match result with
  | .ok outcome => runner.accepting unit outcome next
  | .error e => runner.failing unit e.task e.lastError (next (.failed e.lastError))

/-- Works through one task: what comes then is told the report, the time and the state of the
provider. -/
def stepping (task : Task) (now : Nat) (provider : σ) (next : TaskReport → Nat → σ → Process α) :
    Process α :=
  let bounded := runner.bounding.bound task source
  let (ended, after) := runner.generator.generate (runner.requestFor bounded) now provider
  runner.announcing unit bounded <| runner.settling unit ended.value fun status =>
    next ⟨task, bounded.strategy, bounded.outputTokens, status⟩ (now + ended.took) after

/-- Works through tasks in order. -/
def working : List Task → Nat → σ → (List TaskReport → Process α) → Process α
  | [], _, _, next => next []
  | task :: rest, now, provider, next =>
    runner.stepping unit source task now provider fun report later after =>
      working rest later after fun reports => next (report :: reports)

/-- How a run ends that has worked through its tasks. -/
def reporting (reports : List TaskReport) : Except RunError RunReport :=
  if RunReport.succeeded ⟨unit, reports⟩ = 0 then
    .error (.allTasksFailed unit (RunReport.failed ⟨unit, reports⟩))
  else .ok ⟨unit, reports⟩

/-- **The process of a run** that begins at a time with a provider. -/
def process (now : Nat) (provider : σ) : Process (Except RunError RunReport) :=
  if blank source then .ended (.error (.emptySource unit))
  else if runner.settings.tasks.isEmpty then .ended (.error .nothingEnabled)
  else runner.working unit source runner.settings.tasks now provider fun reports =>
    .ended (reporting unit reports)

/-! ## Making the calls -/

section Exec

variable {runner} {state : ρ}

/-- An alert is made before what comes then. -/
theorem exec_alerting (subject message : String) (next : Process α) :
    (runner.alerting subject message next).exec runner.sinks state =
      next.exec runner.sinks (runner.alert subject message state) := by
  rw [alerting, alert]
  split
  · rfl
  · rfl

/-- The announcement of a context is made before what comes then. -/
theorem exec_announcing (bounded : BoundedContext) (next : Process α) :
    (runner.announcing unit bounded next).exec runner.sinks state =
      next.exec runner.sinks (runner.announceBounding unit bounded state) := by
  rw [announcing, announceBounding]
  split
  · exact exec_alerting _ _ next
  · rfl

/-- A failed task is marked and announced before what comes then. -/
theorem exec_failing (task : Task) (message : String) (next : Process α) :
    (runner.failing unit task message next).exec runner.sinks state =
      next.exec runner.sinks (runner.fail unit task message state) :=
  exec_alerting _ message next

/-- Material is stored before what comes then. -/
theorem exec_accepting (outcome : Outcome) (next : TaskStatus → Process α) :
    (runner.accepting unit outcome next).exec runner.sinks state =
      (next (runner.accept unit outcome state).1).exec runner.sinks
        (runner.accept unit outcome state).2 := by
  rw [accepting, Process.exec]
  cases hstored : (runner.sinks.store unit outcome.task outcome.material state).1 with
  | ok stored =>
      rw [accept_of_ok hstored]
      rfl
  | error e =>
      rw [accept_of_error hstored]
      exact exec_failing unit _ _ _

/-- A task is settled before what comes then. -/
theorem exec_settling (result : Except Exhausted Outcome) (next : TaskStatus → Process α) :
    (runner.settling unit result next).exec runner.sinks state =
      (next (runner.settle unit result state).1).exec runner.sinks
        (runner.settle unit result state).2 := by
  cases result with
  | ok outcome => exact exec_accepting unit outcome next
  | error e => exact exec_failing unit e.task e.lastError _

/-- A task is worked through before what comes then. -/
theorem exec_stepping (task : Task) (stage : Stage σ ρ)
    (next : TaskReport → Nat → σ → Process α) :
    (runner.stepping unit source task stage.now stage.provider next).exec runner.sinks
        stage.sinks =
      (next (runner.step unit source task stage).1 (runner.step unit source task stage).2.now
        (runner.step unit source task stage).2.provider).exec runner.sinks
        (runner.step unit source task stage).2.sinks := by
  rw [stepping]
  simp only [exec_announcing, exec_settling]
  rfl

/-- Tasks are worked through before what comes then. -/
theorem exec_working (tasks : List Task) (stage : Stage σ ρ)
    (next : List TaskReport → Process α) :
    (runner.working unit source tasks stage.now stage.provider next).exec runner.sinks
        stage.sinks =
      (next (runner.steps unit source tasks stage).1).exec runner.sinks
        (runner.steps unit source tasks stage).2.sinks := by
  induction tasks generalizing stage next with
  | nil => rfl
  | cons task rest ih =>
      rw [working, exec_stepping, ih]
      rfl

/-- **Making the calls of a run's process is the run.** -/
theorem exec_process (stage : Stage σ ρ) :
    (runner.process unit source stage.now stage.provider).exec runner.sinks stage.sinks =
      ((runner.run unit source stage).1, (runner.run unit source stage).2.sinks) := by
  rw [process, run]
  split
  · rfl
  · split
    · rfl
    · rw [exec_working]
      simp only [reporting]
      split
      · rfl
      · rfl

end Exec

/-! ## Whom the calls are for -/

section For

variable {runner unit} {next : Process α}

/-- Alerts are for every unit. -/
theorem alerting_for (subject message : String) (hnext : next.For unit) :
    (runner.alerting subject message next).For unit := by
  rw [alerting]
  split
  · exact .tell trivial hnext
  · exact hnext

/-- A context is announced by alerts. -/
theorem announcing_for (bounded : BoundedContext) (hnext : next.For unit) :
    (runner.announcing unit bounded next).For unit := by
  rw [announcing]
  split
  · exact alerting_for _ _ hnext
  · exact hnext

/-- A task that fails is marked for the unit. -/
theorem failing_for (task : Task) (message : String) (hnext : next.For unit) :
    (runner.failing unit task message next).For unit :=
  .tell rfl (alerting_for _ _ hnext)

/-- A task is settled for the unit. -/
theorem settling_for (result : Except Exhausted Outcome) {next : TaskStatus → Process α}
    (hnext : ∀ status, (next status).For unit) : (runner.settling unit result next).For unit := by
  cases result with
  | error e => exact failing_for _ _ (hnext _)
  | ok outcome =>
      refine .store fun answer => ?_
      cases answer with
      | ok stored => exact .tell rfl (hnext _)
      | error e => exact failing_for _ _ (hnext _)

/-- Tasks are worked through for the unit. -/
theorem working_for (tasks : List Task) (now : Nat) (provider : σ)
    {next : List TaskReport → Process α} (hnext : ∀ reports, (next reports).For unit) :
    (runner.working unit source tasks now provider next).For unit := by
  induction tasks generalizing now provider next with
  | nil => exact hnext []
  | cons task rest ih =>
      exact announcing_for _ (settling_for _ fun _ => ih _ _ fun _ => hnext _)

variable (runner unit) in
/-- **All calls of a run are for its unit.** -/
theorem process_for (now : Nat) (provider : σ) : (runner.process unit source now provider).For unit := by
  rw [process]
  split
  · exact .ended _
  · split
    · exact .ended _
    · exact working_for source _ now provider fun _ => .ended _

end For

end Runner

end Courseware
