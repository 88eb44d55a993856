import Mathlib.Tactic.SplitIfs
import Courseware.Proofs.Sink.Recorded
import Courseware.Proofs.Run.Simulation

/-! # Episodes of a run

A run works through its tasks one after the other. What it does for one of them is an **episode**:
the calls to the provider, how the generation ended, what the sinks were told, and the report. The
episodes of a run are those of its tasks (`Runner.episodes`), their calls in a row are all the calls
of the run (`recorded_steps`), and every episode is sound (`sound_of_mem_episodes`): one generation
is made from the context of the task, and `Settled` says what follows from how it ends. -/

namespace Courseware

variable {σ ρ : Type}

/-! ## How a generation ends -/

namespace Generator

variable {generator : Generator σ} {request : GenerationRequest}

/-- **How a run of a generation ends**: with the response of its last call, or with the error of its
last call. -/
theorem Run.ended_cases {budget made start spent : Nat} {calls : List Provider.Call} {ended : Ended}
    (h : generator.Run request budget made start spent calls ended) :
    (∃ last reply validated, calls.getLast? = some last ∧ Passes request last reply validated ∧
        ended.value = .ok ⟨request.task, validated.material, made + calls.length, ended.took,
          validated.batch, reply.model, reply.usage⟩) ∨
      ∃ last e, calls.getLast? = some last ∧ judge request last.answer.value = .error e ∧
        ended.value = .error ⟨request.task, made + budget, e.message, ended.took⟩ := by
  by_cases hpasses : ∃ call ∈ calls, ∃ reply validated, Passes request call reply validated
  · obtain ⟨call, hmem, reply, validated, hcall⟩ := hpasses
    obtain ⟨i, hi, rfl⟩ := List.getElem_of_mem hmem
    obtain ⟨hlength, hvalue⟩ := h.succeeded i hi reply validated hcall
    refine Or.inl ⟨calls[i], reply, validated, ?_, hcall, ?_⟩
    · rw [List.getLast?_eq_getElem?, hlength, Nat.add_sub_cancel, List.getElem?_eq_getElem hi]
    · rw [hvalue, hlength, Nat.add_assoc]
  · have hnone : ∀ call ∈ calls, ∀ reply validated, ¬ Passes request call reply validated := by
      intro call hmem reply validated hcall
      exact hpasses ⟨call, hmem, reply, validated, hcall⟩
    obtain ⟨-, last, e, hlast, hjudge, hvalue⟩ := h.exhausted hnone
    exact Or.inr ⟨last, e, hlast, hjudge, hvalue⟩

/-- A generation that succeeds ends with its own task. -/
theorem Run.task_of_ok {budget made start spent : Nat} {calls : List Provider.Call} {ended : Ended}
    {outcome : Outcome} (h : generator.Run request budget made start spent calls ended)
    (hok : ended.value = .ok outcome) : outcome.task = request.task := by
  rcases h.ended_cases with ⟨_, _, _, -, -, hvalue⟩ | ⟨_, _, -, -, hvalue⟩
  · cases hok.symm.trans hvalue
    rfl
  · cases hok.symm.trans hvalue

/-- A generation that fails ends with its own task. -/
theorem Run.task_of_error {budget made start spent : Nat} {calls : List Provider.Call}
    {ended : Ended} {failure : Exhausted}
    (h : generator.Run request budget made start spent calls ended)
    (herror : ended.value = .error failure) : failure.task = request.task := by
  rcases h.ended_cases with ⟨_, _, _, -, -, hvalue⟩ | ⟨_, _, -, -, hvalue⟩
  · cases herror.symm.trans hvalue
  · cases herror.symm.trans hvalue
    rfl

/-- Every generation is a run, and recording it shows its calls. -/
theorem exists_generate_run (generator : Generator σ) (request : GenerationRequest) (now : Nat)
    (state : σ) :
    ∃ calls ended final, generator.generate request now state = (ended, final) ∧
      generator.recorded.generate request now (state, []) = (ended, final, calls) ∧
      generator.Run request generator.retry.maxAttempts 0 now 0 calls ended := by
  have hbudget : generator.retry.maxAttempts - 1 + 1 = generator.retry.maxAttempts :=
    Nat.sub_add_cancel generator.retry.maxAttempts_pos
  obtain ⟨calls, ended, final, hrun, hlog, hcalls⟩ :=
    generator.exists_run request now (generator.retry.maxAttempts - 1) 0 0 state []
  rw [hbudget] at hcalls
  exact ⟨calls, ended, final, hrun, hlog, hcalls⟩

end Generator

/-! ## Episodes -/

/-- **An episode**: what a run does for one task. -/
structure Episode where
  /-- What is reported. -/
  report : TaskReport
  /-- How the generation ended. -/
  generation : Except Exhausted Outcome
  /-- The calls to the provider, in order. -/
  asked : List Provider.Call
  /-- What the sinks were told, in order, with their answers. -/
  told : List Sinks.Entry

/-- The task of an episode. -/
def Episode.task (episode : Episode) : Task := episode.report.task

/-- What came of the task of an episode. -/
def Episode.status (episode : Episode) : TaskStatus := episode.report.status

namespace Runner

/-- **A runner whose calls are recorded**, those to the provider and those to the sinks. -/
def recorded (runner : Runner σ ρ) :
    Runner (σ × List Provider.Call) (ρ × List Sinks.Entry) where
  bounding := runner.bounding
  generator := runner.generator.recorded
  sinks := runner.sinks.recorded
  settings := runner.settings
  notifications := runner.notifications

end Runner

/-- A stage with the calls made before. -/
def Stage.recorded (stage : Stage σ ρ) (asked : List Provider.Call) (told : List Sinks.Entry) :
    Stage (σ × List Provider.Call) (ρ × List Sinks.Entry) :=
  ⟨stage.now, (stage.provider, asked), (stage.sinks, told)⟩

namespace Runner

/-- **The episode of a task** that is worked through from a stage on. -/
def episode (runner : Runner σ ρ) (unit source : String) (task : Task) (stage : Stage σ ρ) :
    Episode :=
  let (report, after) := runner.recorded.step unit source task (stage.recorded [] [])
  ⟨report, (runner.runTask unit source task stage).1, after.provider.2, after.sinks.2⟩

/-- **The episodes of tasks** that are worked through in order. -/
def episodes (runner : Runner σ ρ) (unit source : String) : List Task → Stage σ ρ → List Episode
  | [], _ => []
  | task :: rest, stage =>
    runner.episode unit source task stage ::
      runner.episodes unit source rest (runner.step unit source task stage).2

/-! ## Recording -/

/-- Recording does not change what a runner does. -/
theorem recorded_alike (runner : Runner σ ρ) :
    runner.recorded.Alike (fun s s' => s.1 = s') (fun t t' => t.1 = t') runner where
  bounding := rfl
  settings := rfl
  notifications := rfl
  generator := ⟨rfl, rfl, rfl, by rintro now request s _ rfl; exact ⟨rfl, rfl⟩⟩
  sinks :=
    { store := by rintro unit task material s _ rfl; exact ⟨rfl, rfl⟩
      record := by rintro unit task message s _ rfl; rfl
      clear := by rintro unit task s _ rfl; rfl
      notify := by rintro subject message s _ rfl; rfl }

/-- Calls that were recorded before stay in front of the calls that follow. -/
theorem recorded_alike_append (runner : Runner σ ρ) (asked : List Provider.Call)
    (told : List Sinks.Entry) :
    runner.recorded.Alike (fun s s' => s = (s'.1, asked ++ s'.2))
      (fun t t' => t = (t'.1, told ++ t'.2)) runner.recorded where
  bounding := rfl
  settings := rfl
  notifications := rfl
  generator := by
    refine ⟨rfl, rfl, rfl, ?_⟩
    rintro now request _ s rfl
    refine ⟨rfl, Prod.ext rfl ?_⟩
    exact List.append_assoc ..
  sinks :=
    { store := by
        rintro unit task material _ s rfl
        refine ⟨rfl, Prod.ext rfl ?_⟩
        exact List.append_assoc ..
      record := by
        rintro unit task message _ s rfl
        exact Prod.ext rfl (List.append_assoc ..)
      clear := by
        rintro unit task _ s rfl
        exact Prod.ext rfl (List.append_assoc ..)
      notify := by
        rintro subject message _ s rfl
        exact Prod.ext rfl (List.append_assoc ..) }

end Runner

/-- A stage before any call is related to itself without the record of the calls. -/
theorem Stage.related_recorded (stage : Stage σ ρ) :
    (stage.recorded [] []).Related (fun s s' => s.1 = s') (fun t t' => t.1 = t') stage :=
  ⟨rfl, rfl, rfl⟩

/-- A stage with calls is related to itself before any call. -/
theorem Stage.related_recorded_append (stage : Stage σ ρ) (asked : List Provider.Call)
    (told : List Sinks.Entry) :
    (stage.recorded asked told).Related (fun s s' => s = (s'.1, asked ++ s'.2))
      (fun t t' => t = (t'.1, told ++ t'.2)) (stage.recorded [] []) := by
  refine ⟨rfl, ?_, ?_⟩
  · rw [Stage.recorded, Stage.recorded, List.append_nil]
  · rw [Stage.recorded, Stage.recorded, List.append_nil]

namespace Runner

section Recorded

variable (runner : Runner σ ρ) (unit source : String) (asked : List Provider.Call)
  (told : List Sinks.Entry)

/-- Working through a task gives the report of its episode. -/
theorem fst_step (task : Task) (stage : Stage σ ρ) :
    (runner.step unit source task stage).1 = (runner.episode unit source task stage).report := by
  obtain ⟨hreport, -⟩ :=
    runner.recorded_alike.step unit source task stage.related_recorded
  exact hreport.symm

/-- **Recording a task** shows the calls of its episode behind those before. -/
theorem recorded_step (task : Task) (stage : Stage σ ρ) :
    runner.recorded.step unit source task (stage.recorded asked told) =
      ((runner.episode unit source task stage).report,
        (runner.step unit source task stage).2.recorded
          (asked ++ (runner.episode unit source task stage).asked)
          (told ++ (runner.episode unit source task stage).told)) := by
  obtain ⟨-, hplain⟩ := runner.recorded_alike.step unit source task stage.related_recorded
  obtain ⟨hreport, hframe⟩ := (runner.recorded_alike_append asked told).step unit source task
    (stage.related_recorded_append asked told)
  refine Prod.ext hreport (Stage.eq_of_related ⟨hframe.now.trans hplain.now, ?_, ?_⟩)
  · rw [hframe.provider, hplain.provider]
    rfl
  · rw [hframe.sinks, hplain.sinks]
    rfl

/-- **Recording tasks** shows the calls of their episodes in a row. -/
theorem recorded_steps (tasks : List Task) (stage : Stage σ ρ) :
    runner.recorded.steps unit source tasks (stage.recorded asked told) =
      ((runner.episodes unit source tasks stage).map (·.report),
        (runner.steps unit source tasks stage).2.recorded
          (asked ++ (runner.episodes unit source tasks stage).flatMap (·.asked))
          (told ++ (runner.episodes unit source tasks stage).flatMap (·.told))) := by
  induction tasks generalizing asked told stage with
  | nil => simp [steps, episodes]
  | cons task rest ih =>
      rw [steps, recorded_step]
      simp only [ih, steps, episodes, List.map_cons, List.flatMap_cons, List.append_assoc]

/-- Working through tasks gives the reports of their episodes. -/
theorem fst_steps (tasks : List Task) (stage : Stage σ ρ) :
    (runner.steps unit source tasks stage).1 =
      (runner.episodes unit source tasks stage).map (·.report) := by
  induction tasks generalizing stage with
  | nil => rfl
  | cons task rest ih =>
      rw [steps, episodes, List.map_cons, ← fst_step, ← ih]

end Recorded

/-! ## What the sinks are told -/

/-- The subject of the alert about a failed task. -/
def failureSubject (unit : String) (task : Task) : String :=
  task.name ++ " generation failed for unit " ++ unit

/-- The calls that send an alert: one, or none when no alerts are sent. -/
def alarm (runner : Runner σ ρ) (subject message : String) : List Sinks.Call :=
  if runner.notifications then [.notify subject message] else []

/-- The calls that announce how a context was made: an alert when that was done without retrieval
although the text was too large. -/
def announcement (runner : Runner σ ρ) (unit : String) (bounded : BoundedContext) :
    List Sinks.Call :=
  if bounded.strategy.isDegraded then
    runner.alarm ("Content bounding fell back for unit " ++ unit)
      ("Bounding for " ++ bounded.task.name ++ " used " ++ bounded.strategy.name ++ " ("
        ++ toString bounded.outputTokens ++ " of " ++ toString bounded.inputTokens
        ++ " tokens kept)")
  else []

/-- **How a task is settled** when its generation has ended: what the sinks are told, and what
becomes of the task. -/
inductive Settled (runner : Runner σ ρ) (unit : String) (task : Task) :
    Except Exhausted Outcome → List Sinks.Entry → TaskStatus → Prop
  /-- The material is stored, and the mark of the task is removed. -/
  | stored (outcome : Outcome) (cleared : Delivered) :
      Settled runner unit task (.ok outcome)
        [⟨.store unit task outcome.material, .ok ()⟩, ⟨.clear unit task, cleared⟩]
        (.succeeded outcome.attempts outcome.material.count)
  /-- The material is not stored, and the task is marked and announced as failed. -/
  | unstored (outcome : Outcome) (e : SinkError) (marked : Delivered) (alarmed : List Sinks.Entry)
      (halarm : alarmed.map (·.call) =
        runner.alarm (failureSubject unit task) (storeFailure task e)) :
      Settled runner unit task (.ok outcome)
        (⟨.store unit task outcome.material, .error e⟩ ::
          ⟨.record unit task (storeFailure task e), marked⟩ :: alarmed)
        (.failed (storeFailure task e))
  /-- There is no material, and the task is marked and announced as failed. -/
  | exhausted (failure : Exhausted) (marked : Delivered) (alarmed : List Sinks.Entry)
      (halarm : alarmed.map (·.call) =
        runner.alarm (failureSubject unit task) failure.lastError) :
      Settled runner unit task (.error failure)
        (⟨.record unit task failure.lastError, marked⟩ :: alarmed) (.failed failure.lastError)

section Told

variable (runner : Runner σ ρ) (unit : String) (log : ρ × List Sinks.Entry)

/-- The calls of an alert. -/
theorem exists_alert (subject message : String) :
    ∃ told, (runner.recorded.alert subject message log).2 = log.2 ++ told ∧
      told.map (·.call) = runner.alarm subject message := by
  rw [alert, alarm]
  by_cases h : runner.notifications = true
  · rw [if_pos h, if_pos (show runner.recorded.notifications = true from h)]
    exact ⟨_, rfl, rfl⟩
  · rw [if_neg h, if_neg (show ¬ runner.recorded.notifications = true from h)]
    exact ⟨[], (List.append_nil _).symm, rfl⟩

/-- The calls that announce how a context was made. -/
theorem exists_announceBounding (bounded : BoundedContext) :
    ∃ told, (runner.recorded.announceBounding unit bounded log).2 = log.2 ++ told ∧
      told.map (·.call) = runner.announcement unit bounded := by
  rw [announceBounding, announcement]
  by_cases h : bounded.strategy.isDegraded = true
  · rw [if_pos h, if_pos h]
    exact runner.exists_alert log _ _
  · rw [if_neg h, if_neg h]
    exact ⟨[], (List.append_nil _).symm, rfl⟩

/-- The calls that mark and announce a failed task. -/
theorem exists_fail (task : Task) (message : String) :
    ∃ marked alarmed, (runner.recorded.fail unit task message log).2 =
        log.2 ++ ⟨.record unit task message, marked⟩ :: alarmed ∧
      alarmed.map (·.call) = runner.alarm (failureSubject unit task) message := by
  obtain ⟨alarmed, halarmed, hcalls⟩ := runner.exists_alert
    (runner.recorded.sinks.record unit task message log).2 (failureSubject unit task) message
  refine ⟨(runner.sinks.record unit task message log.1).1, alarmed, ?_, hcalls⟩
  rw [fail, ← failureSubject, halarmed]
  exact List.append_assoc ..

/-- **The calls that settle a task.** -/
theorem exists_settle {task : Task} {generation : Except Exhausted Outcome}
    (hok : ∀ outcome, generation = .ok outcome → outcome.task = task)
    (herror : ∀ failure, generation = .error failure → failure.task = task) :
    ∃ told, (runner.recorded.settle unit generation log).2.2 = log.2 ++ told ∧
      Settled runner unit task generation told
        (runner.recorded.settle unit generation log).1 := by
  cases generation with
  | ok outcome =>
      obtain rfl := hok outcome rfl
      rw [settle]
      cases hstore : (runner.sinks.store unit outcome.task outcome.material log.1).1 with
      | ok stored =>
          have hrecorded : (runner.recorded.sinks.store unit outcome.task outcome.material log).1 =
              .ok stored := hstore
          rw [accept_of_ok hrecorded]
          let next := (runner.sinks.store unit outcome.task outcome.material log.1).2
          refine ⟨_, ?_, .stored outcome (runner.sinks.clear unit outcome.task next).1⟩
          rw [← hstore]
          exact List.append_assoc ..
      | error e =>
          have hrecorded : (runner.recorded.sinks.store unit outcome.task outcome.material log).1 =
              .error e := hstore
          rw [accept_of_error hrecorded]
          obtain ⟨marked, alarmed, htold, hcalls⟩ := runner.exists_fail unit
            (runner.recorded.sinks.store unit outcome.task outcome.material log).2 outcome.task
            (storeFailure outcome.task e)
          refine ⟨_, ?_, .unstored outcome e marked alarmed hcalls⟩
          rw [htold, ← hstore]
          exact List.append_assoc ..
  | error failure =>
      obtain rfl := herror failure rfl
      obtain ⟨marked, alarmed, htold, hcalls⟩ :=
        runner.exists_fail unit log failure.task failure.lastError
      exact ⟨_, htold, .exhausted failure marked alarmed hcalls⟩

end Told

end Runner

/-! ## Sound episodes -/

namespace Bounding

/-- A context made by retrieval carries its task and the tokens of the text. -/
theorem head_of_tryBound {bounding : Bounding} {task : Task} {source : String}
    {bounded : BoundedContext} (h : bounding.tryBound task source = .ok bounded) :
    bounded.task = task ∧ bounded.inputTokens = Token.estimate source.toList := by
  simp only [tryBound] at h
  split_ifs at h
  have hbounded := Except.ok.inj h
  exact ⟨congrArg BoundedContext.task hbounded.symm,
    congrArg BoundedContext.inputTokens hbounded.symm⟩

/-- The context of a text for a task carries the task and the tokens of the text. -/
theorem head_bound (bounding : Bounding) (task : Task) (source : String) :
    (bounding.bound task source).task = task ∧
      (bounding.bound task source).inputTokens = Token.estimate source.toList := by
  rw [bound]
  split
  · cases htry : bounding.tryBound task source with
    | ok bounded => exact head_of_tryBound htry
    | error e =>
        simp only [degrade]
        split <;> exact ⟨rfl, rfl⟩
  · exact ⟨rfl, rfl⟩

/-- **The context of a text for a task** carries the task. -/
theorem task_bound (bounding : Bounding) (task : Task) (source : String) :
    (bounding.bound task source).task = task :=
  (bounding.head_bound task source).1

end Bounding

/-- **A sound episode** of a run over a source. -/
structure Episode.Sound (runner : Runner σ ρ) (unit source : String) (episode : Episode) : Prop where
  /-- The report says how the context was made. -/
  strategy : episode.report.strategy = (runner.bounding.bound episode.task source).strategy
  /-- The report says how many tokens the context has. -/
  contextTokens :
    episode.report.contextTokens = (runner.bounding.bound episode.task source).outputTokens
  /-- The calls to the provider are those of one generation from the context. -/
  generation : ∃ start took,
    runner.generator.Run (runner.requestFor (runner.bounding.bound episode.task source))
      runner.generator.retry.maxAttempts 0 start 0 episode.asked ⟨episode.generation, took⟩
  /-- The sinks are told how the context was made, and then how the task is settled. -/
  told : ∃ announced settled, episode.told = announced ++ settled ∧
    announced.map (·.call) =
      runner.announcement unit (runner.bounding.bound episode.task source) ∧
    runner.Settled unit episode.task episode.generation settled episode.status

namespace Runner

section Sound

variable (runner : Runner σ ρ) (unit source : String)

/-- The episode of a task is about that task. -/
@[simp] theorem task_episode (task : Task) (stage : Stage σ ρ) :
    (runner.episode unit source task stage).task = task := rfl

/-- **The episode of a task is sound.** -/
theorem sound_episode (task : Task) (stage : Stage σ ρ) :
    (runner.episode unit source task stage).Sound runner unit source := by
  have hbounded := runner.bounding.task_bound task source
  generalize hbound : runner.bounding.bound task source = bounded at hbounded
  obtain ⟨calls, ended, final, hplain, hrecorded, hrun⟩ :=
    runner.generator.exists_generate_run (runner.requestFor bounded) stage.now stage.provider
  obtain ⟨announced, hannounced, hannouncement⟩ :=
    runner.exists_announceBounding unit (stage.sinks, []) bounded
  -- A generation ends with its own task, so the task is settled under its own name.
  have hok : ∀ outcome, ended.value = .ok outcome → outcome.task = task :=
    fun _ houtcome => (hrun.task_of_ok houtcome).trans hbounded
  have herror : ∀ failure, ended.value = .error failure → failure.task = task :=
    fun _ hfailure => (hrun.task_of_error hfailure).trans hbounded
  obtain ⟨settled, hsettled, hstatus⟩ := runner.exists_settle unit
    (runner.recorded.announceBounding unit bounded (stage.sinks, [])) hok herror
  have hepisode : runner.episode unit source task stage =
      ⟨⟨task, bounded.strategy, bounded.outputTokens,
        (runner.recorded.settle unit ended.value
          (runner.recorded.announceBounding unit bounded (stage.sinks, []))).1⟩,
        ended.value, calls, announced ++ settled⟩ := by
    rw [hannounced, List.nil_append] at hsettled
    rw [← hsettled, episode, step, runTask, runTask]
    have hcall : runner.recorded.generator.generate (runner.recorded.requestFor bounded) stage.now
        (stage.provider, []) = (ended, final, calls) := hrecorded
    have hsame : runner.recorded.bounding.bound task source = bounded := hbound
    simp only [hbound, hsame, Stage.recorded, hcall, hplain]
  rw [hepisode]
  refine ⟨?_, ?_, ⟨stage.now, ended.took, ?_⟩, announced, settled, rfl, ?_, hstatus⟩
  · exact congrArg BoundedContext.strategy hbound.symm
  · exact congrArg BoundedContext.outputTokens hbound.symm
  · rw [← hbound] at hrun
    exact hrun
  · rw [hannouncement, ← hbound]
    rfl

/-- The episodes of tasks are about those tasks, in order. -/
@[simp] theorem map_task_episodes (tasks : List Task) (stage : Stage σ ρ) :
    (runner.episodes unit source tasks stage).map (·.task) = tasks := by
  induction tasks generalizing stage with
  | nil => rfl
  | cons task rest ih => rw [episodes, List.map_cons, ih, task_episode]

/-- **The episodes of tasks are sound.** -/
theorem sound_of_mem_episodes {episode : Episode} {tasks : List Task} {stage : Stage σ ρ}
    (h : episode ∈ runner.episodes unit source tasks stage) :
    episode.Sound runner unit source := by
  induction tasks generalizing stage with
  | nil => cases h
  | cons task rest ih =>
      rcases List.mem_cons.mp h with rfl | hrest
      · exact runner.sound_episode unit source task stage
      · exact ih hrest

end Sound

end Runner

end Courseware
