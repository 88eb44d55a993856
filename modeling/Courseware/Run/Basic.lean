import Courseware.Generation.Attempt
import Courseware.Generation.Settings
import Courseware.Sink.Basic
import Courseware.Run.Report

/-! # Runs

A **run** works through the enabled tasks of a unit one after another: it makes a context, generates
the material and stores it. A task that fails is marked and announced, and the run goes on. A run
fails only when there is nothing to do or every task failed; what the failure log and the alerts
answer never matters. -/

namespace Courseware

/-- What a run needs: how contexts are made, what generates, where the output goes. -/
structure Runner (σ ρ : Type) where
  /-- How contexts are made. -/
  bounding : Bounding
  /-- What generates. -/
  generator : Generator σ
  /-- Where the output goes. -/
  sinks : Sinks ρ
  /-- How material is generated. -/
  settings : TaskSettings := {}
  /-- Whether alerts are sent. -/
  notifications : Bool := true

/-- The time and the states of provider and sinks. -/
structure Stage (σ ρ : Type) where
  /-- The time. -/
  now : Nat
  /-- The state of the provider. -/
  provider : σ
  /-- The state of the sinks. -/
  sinks : ρ

namespace Runner

variable {σ ρ : Type}

/-- Sends an alert, if alerts are sent. -/
def alert (runner : Runner σ ρ) (subject message : String) (state : ρ) : ρ :=
  if runner.notifications then (runner.sinks.notify subject message state).2 else state

/-- Announces a context that was made without retrieval although the text was too large. -/
def announceBounding (runner : Runner σ ρ) (unit : String) (bounded : BoundedContext) (state : ρ) :
    ρ :=
  if bounded.strategy.isDegraded then
    runner.alert ("Content bounding fell back for unit " ++ unit)
      ("Bounding for " ++ bounded.task.name ++ " used " ++ bounded.strategy.name ++ " ("
        ++ toString bounded.outputTokens ++ " of " ++ toString bounded.inputTokens
        ++ " tokens kept)") state
  else state

/-- Marks and announces a failed task. -/
def fail (runner : Runner σ ρ) (unit : String) (task : Task) (message : String) (state : ρ) : ρ :=
  runner.alert (task.name ++ " generation failed for unit " ++ unit) message
    (runner.sinks.record unit task message state).2

/-- Stores the material of an outcome and removes the mark of the task, or lets the task fail. -/
def accept (runner : Runner σ ρ) (unit : String) (outcome : Outcome) (state : ρ) : TaskStatus × ρ :=
  let (stored, state) := runner.sinks.store unit outcome.task outcome.material state
  match stored with
  | .ok () =>
    (.succeeded outcome.attempts outcome.material.count,
      (runner.sinks.clear unit outcome.task state).2)
  | .error e =>
    let message := "failed to store " ++ outcome.task.name ++ " result: " ++ e.message
    (.failed message, runner.fail unit outcome.task message state)

/-- What becomes of a task by the end of its generation. -/
def settle (runner : Runner σ ρ) (unit : String) (result : Except Exhausted Outcome) (state : ρ) :
    TaskStatus × ρ :=
  match result with
  | .ok outcome => runner.accept unit outcome state
  | .error e => (.failed e.lastError, runner.fail unit e.task e.lastError state)

/-- The request for a context. -/
def requestFor (runner : Runner σ ρ) (bounded : BoundedContext) : GenerationRequest where
  task := bounded.task
  context := bounded.text
  options := runner.settings.optionsFor bounded.task

/-- Makes the context of a task and generates its material; nothing is stored. -/
def runTask (runner : Runner σ ρ) (unit source : String) (task : Task) (stage : Stage σ ρ) :
    Except Exhausted Outcome × Stage σ ρ :=
  let bounded := runner.bounding.bound task source
  let sinks := runner.announceBounding unit bounded stage.sinks
  let (ended, provider) :=
    runner.generator.generate (runner.requestFor bounded) stage.now stage.provider
  (ended.value, ⟨stage.now + ended.took, provider, sinks⟩)

/-- Works through one task of a run. -/
def step (runner : Runner σ ρ) (unit source : String) (task : Task) (stage : Stage σ ρ) :
    TaskReport × Stage σ ρ :=
  let bounded := runner.bounding.bound task source
  let (result, stage) := runner.runTask unit source task stage
  let (status, sinks) := runner.settle unit result stage.sinks
  (⟨task, bounded.strategy, bounded.outputTokens, status⟩, { stage with sinks := sinks })

/-- Works through tasks in order. -/
def steps (runner : Runner σ ρ) (unit source : String) :
    List Task → Stage σ ρ → List TaskReport × Stage σ ρ
  | [], stage => ([], stage)
  | task :: rest, stage =>
    let (report, stage) := runner.step unit source task stage
    let (reports, stage) := runner.steps unit source rest stage
    (report :: reports, stage)

/-- Runs the enabled tasks of a unit. -/
def run (runner : Runner σ ρ) (unit source : String) (stage : Stage σ ρ) :
    Except RunError RunReport × Stage σ ρ :=
  if Text.blank source then (.error (.emptySource unit), stage)
  else if runner.settings.tasks.isEmpty then (.error .nothingEnabled, stage)
  else
    let (reports, stage) := runner.steps unit source runner.settings.tasks stage
    let report : RunReport := ⟨unit, reports⟩
    if report.succeeded = 0 then (.error (.allTasksFailed unit report.failed), stage)
    else (.ok report, stage)

end Runner

end Courseware
