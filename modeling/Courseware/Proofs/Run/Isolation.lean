import Courseware.Proofs.Run.Episode

/-! # Failures stay where they are

A run rejects a blank source and a selection without a known task before it calls anything. Every
other run has one episode for each known task that is enabled, whatever happens to the others
(`Runner.WorkedThrough`). A task succeeds exactly when its material was generated and stored, the
run fails exactly when no task succeeds, and what failure logs and alerts answer does not matter. -/

namespace Courseware

open Text

variable {σ ρ : Type}

namespace Runner

/-! ## What settles a task -/

section Settled

variable {runner : Runner σ ρ} {unit : String} {task : Task}
  {generation : Except Exhausted Outcome} {told : List Sinks.Entry} {status : TaskStatus}

/-- An alarm consists of alerts. -/
theorem exists_eq_notify_of_mem_alarm {subject message : String} {call : Sinks.Call}
    (h : call ∈ runner.alarm subject message) : ∃ s m, call = .notify s m := by
  rw [alarm] at h
  split at h
  · exact ⟨subject, message, List.mem_singleton.mp h⟩
  · cases h

/-- An announcement consists of alerts. -/
theorem exists_eq_notify_of_mem_announcement {bounded : BoundedContext} {call : Sinks.Call}
    (h : call ∈ runner.announcement unit bounded) : ∃ s m, call = .notify s m := by
  rw [announcement] at h
  split at h
  · exact exists_eq_notify_of_mem_alarm h
  · cases h

/-- Entries whose calls are alerts ask for nothing to be stored. -/
theorem not_mem_of_forall_notify {material : Material} {answer : Delivered}
    {calls : List Sinks.Call} (hcalls : ∀ call ∈ calls, ∃ s m, call = .notify s m)
    (htold : told.map (·.call) = calls) : ⟨.store unit task material, answer⟩ ∉ told := by
  intro hmem
  obtain ⟨s, m, hcall⟩ := hcalls _ (htold ▸ List.mem_map_of_mem hmem)
  cases hcall

/-- **When a settled task has succeeded**: its material was generated and stored. -/
theorem Settled.succeeded_iff (h : runner.Settled unit task generation told status)
    (attempts items : Nat) :
    status = .succeeded attempts items ↔
      ∃ outcome, generation = .ok outcome ∧
        ⟨.store unit task outcome.material, .ok ()⟩ ∈ told ∧
        outcome.attempts = attempts ∧ outcome.material.count = items := by
  cases h with
  | stored outcome cleared =>
      constructor
      · intro hstatus
        cases hstatus
        exact ⟨outcome, rfl, List.mem_cons_self, rfl, rfl⟩
      · rintro ⟨_, hgeneration, -, rfl, rfl⟩
        cases hgeneration
        rfl
  | unstored outcome e marked alarmed halarm =>
      refine ⟨nofun, ?_⟩
      rintro ⟨_, hgeneration, hmem, -, -⟩
      cases hgeneration
      -- The one entry that asks for something to be stored has an error for an answer.
      simp only [List.mem_cons, Sinks.Entry.mk.injEq, reduceCtorEq, and_false, false_and,
        false_or] at hmem
      exact absurd hmem
        (not_mem_of_forall_notify (fun _ => exists_eq_notify_of_mem_alarm) halarm)
  | exhausted failure marked alarmed halarm =>
      refine ⟨nofun, ?_⟩
      rintro ⟨_, hgeneration, -⟩
      cases hgeneration

/-- **When a settled task has failed**: there is no material, or it was not stored. -/
theorem Settled.failed_iff (h : runner.Settled unit task generation told status)
    (message : String) :
    status = .failed message ↔
      (∃ failure, generation = .error failure ∧ message = failure.lastError) ∨
        ∃ outcome e, generation = .ok outcome ∧
          ⟨.store unit task outcome.material, .error e⟩ ∈ told ∧
          message = storeFailure task e := by
  cases h with
  | stored outcome cleared =>
      refine ⟨nofun, ?_⟩
      rintro (⟨_, hgeneration, -⟩ | ⟨_, e, hgeneration, hmem, -⟩)
      · cases hgeneration
      · cases hgeneration
        simp at hmem
  | unstored outcome e marked alarmed halarm =>
      constructor
      · intro hstatus
        cases hstatus
        exact Or.inr ⟨outcome, e, rfl, List.mem_cons_self, rfl⟩
      · rintro (⟨_, hgeneration, -⟩ | ⟨_, e', hgeneration, hmem, rfl⟩)
        · cases hgeneration
        · cases hgeneration
          rcases List.mem_cons.mp hmem with hstore | hrest
          · cases hstore
            rfl
          · simp only [List.mem_cons, Sinks.Entry.mk.injEq, reduceCtorEq, false_and,
              false_or] at hrest
            exact absurd hrest
              (not_mem_of_forall_notify (fun _ => exists_eq_notify_of_mem_alarm) halarm)
  | exhausted failure marked alarmed halarm =>
      constructor
      · intro hstatus
        cases hstatus
        exact Or.inl ⟨failure, rfl, rfl⟩
      · rintro (⟨_, hgeneration, rfl⟩ | ⟨_, e, hgeneration, -⟩)
        · cases hgeneration
          rfl
        · cases hgeneration

end Settled

end Runner

namespace Episode

section Sound

variable {runner : Runner σ ρ} {unit source : String} {episode : Episode}

/-- Of the entries of a sound episode, those that ask for something to be stored settle its task. -/
theorem Sound.exists_settled (h : episode.Sound runner unit source) :
    ∃ settled, runner.Settled unit episode.task episode.generation settled episode.status ∧
      ∀ material answer, ⟨.store unit episode.task material, answer⟩ ∈ episode.told ↔
        ⟨.store unit episode.task material, answer⟩ ∈ settled := by
  obtain ⟨announced, settled, htold, hannounced, hsettled⟩ := h.told
  refine ⟨settled, hsettled, fun material answer => ?_⟩
  rw [htold, List.mem_append, or_iff_right]
  exact Runner.not_mem_of_forall_notify
    (fun _ => Runner.exists_eq_notify_of_mem_announcement) hannounced

/-- **A task succeeds** exactly when its generation succeeds and its material is stored. -/
theorem Sound.succeeded_iff (h : episode.Sound runner unit source) (attempts items : Nat) :
    episode.status = .succeeded attempts items ↔
      ∃ outcome, episode.generation = .ok outcome ∧
        ⟨.store unit episode.task outcome.material, .ok ()⟩ ∈ episode.told ∧
        outcome.attempts = attempts ∧ outcome.material.count = items := by
  obtain ⟨settled, hsettled, hmem⟩ := h.exists_settled
  simp only [hmem, hsettled.succeeded_iff]

/-- The generation of a sound episode fails exactly when its last attempt does, with that error. -/
theorem Sound.generation_error_iff (h : episode.Sound runner unit source) (message : String) :
    (∃ failure, episode.generation = .error failure ∧ message = failure.lastError) ↔
      ∃ last e, episode.asked.getLast? = some last ∧
        Generator.judge (runner.requestFor (runner.bounding.bound episode.task source))
          last.answer.value = .error e ∧ message = e.message := by
  obtain ⟨start, took, hrun⟩ := h.generation
  rcases hrun.ended_cases with
    ⟨last, reply, validated, hlast, hpasses, hvalue⟩ | ⟨last, e, hlast, hjudge, hvalue⟩
  · have hjudge := Generator.judge_eq_ok_iff.mpr hpasses
    constructor
    · rintro ⟨failure, hfailure, -⟩
      cases hvalue.symm.trans hfailure
    · rintro ⟨other, e, hother, herror, -⟩
      rw [hlast] at hother
      cases hother
      cases hjudge.symm.trans herror
  · constructor
    · rintro ⟨failure, hfailure, rfl⟩
      cases hvalue.symm.trans hfailure
      exact ⟨last, e, hlast, hjudge, rfl⟩
    · rintro ⟨other, e', hother, herror, rfl⟩
      rw [hlast] at hother
      cases hother
      cases hjudge.symm.trans herror
      exact ⟨_, hvalue, rfl⟩

/-- **A task fails** exactly when the last attempt of its generation fails, with that error, or when
its material is not stored, with the error of the store. -/
theorem Sound.failed_iff (h : episode.Sound runner unit source) (message : String) :
    episode.status = .failed message ↔
      (∃ last e, episode.asked.getLast? = some last ∧
        Generator.judge (runner.requestFor (runner.bounding.bound episode.task source))
          last.answer.value = .error e ∧ message = e.message) ∨
      ∃ outcome e, episode.generation = .ok outcome ∧
        ⟨.store unit episode.task outcome.material, .error e⟩ ∈ episode.told ∧
        message = storeFailure episode.task e := by
  obtain ⟨settled, hsettled, hmem⟩ := h.exists_settled
  rw [← h.generation_error_iff message, hsettled.failed_iff]
  simp only [hmem]

/-- A generation that succeeds in a sound episode ends with the material of a response that
passes. -/
theorem Sound.exists_passes (h : episode.Sound runner unit source) {outcome : Outcome}
    (hok : episode.generation = .ok outcome) :
    ∃ call ∈ episode.asked, ∃ reply validated,
      Generator.Passes (runner.requestFor (runner.bounding.bound episode.task source)) call reply
        validated ∧ outcome.material = validated.material := by
  obtain ⟨start, took, hrun⟩ := h.generation
  rcases hrun.ended_cases with
    ⟨last, reply, validated, hlast, hpasses, hvalue⟩ | ⟨_, _, -, -, hvalue⟩
  · cases hok.symm.trans hvalue
    exact ⟨last, List.mem_of_getLast? hlast, reply, validated, hpasses, rfl⟩
  · cases hok.symm.trans hvalue

/-- The generation of a sound episode that succeeds has succeeded. -/
theorem Sound.exists_generation (h : episode.Sound runner unit source)
    (hsuccess : episode.status.isSuccess = true) :
    ∃ outcome, episode.generation = .ok outcome := by
  cases hstatus : episode.status with
  | succeeded attempts items =>
      obtain ⟨outcome, hgeneration, -⟩ := (h.succeeded_iff attempts items).mp hstatus
      exact ⟨outcome, hgeneration⟩
  | failed message =>
      rw [hstatus] at hsuccess
      cases hsuccess

end Sound

end Episode

/-! ## Runs -/

namespace Runner

/-- **The episodes of a run**: those of its tasks, and none when the source is blank. -/
def transcript (runner : Runner σ ρ) (unit source : String) (stage : Stage σ ρ) : List Episode :=
  if blank source then [] else runner.episodes unit source runner.settings.tasks stage

/-- A runner with other sinks. -/
def withSinks {ρ' : Type} (runner : Runner σ ρ) (sinks : Sinks ρ') : Runner σ ρ' where
  bounding := runner.bounding
  generator := runner.generator
  sinks := sinks
  settings := runner.settings
  notifications := runner.notifications

/-- **A run that works through its tasks.** -/
structure WorkedThrough (runner : Runner σ ρ) (unit source : String) (episodes : List Episode)
    (result : Except RunError RunReport) : Prop where
  /-- There is an episode for every known task that is enabled, in the order of the known tasks. -/
  tasks : episodes.map (·.task) = Task.known.filter (· ∈ runner.settings.enabledTasks)
  /-- No task has two episodes. -/
  nodup : (episodes.map (·.task)).Nodup
  /-- In every episode one generation is made and settled. -/
  sound : ∀ episode ∈ episodes, episode.Sound runner unit source
  /-- A task succeeds when its generation succeeds and its material is stored. -/
  succeeded_iff : ∀ episode ∈ episodes, ∀ attempts items,
    episode.status = .succeeded attempts items ↔
      ∃ outcome, episode.generation = .ok outcome ∧
        ⟨.store unit episode.task outcome.material, .ok ()⟩ ∈ episode.told ∧
        outcome.attempts = attempts ∧ outcome.material.count = items
  /-- A task fails with the error of its last attempt, or with that of the store. -/
  failed_iff : ∀ episode ∈ episodes, ∀ message, episode.status = .failed message ↔
    (∃ last e, episode.asked.getLast? = some last ∧
      Generator.judge (runner.requestFor (runner.bounding.bound episode.task source))
        last.answer.value = .error e ∧ message = e.message) ∨
    ∃ outcome e, episode.generation = .ok outcome ∧
      ⟨.store unit episode.task outcome.material, .error e⟩ ∈ episode.told ∧
      message = storeFailure episode.task e
  /-- The run fails when no task succeeds. -/
  allTasksFailed_iff : ∀ failed, result = .error (.allTasksFailed unit failed) ↔
    failed = episodes.length ∧ ∀ episode ∈ episodes, episode.status.isSuccess = false
  /-- Otherwise it reports every task. -/
  report : (∃ episode ∈ episodes, episode.status.isSuccess = true) →
    result = .ok ⟨unit, episodes.map (·.report)⟩

section Run

variable (runner : Runner σ ρ) (unit : String) {source : String} (stage : Stage σ ρ)

/-- A run over a blank source does nothing. -/
theorem run_of_blank (h : blank source = true) :
    runner.run unit source stage = (.error (.emptySource unit), stage) := by
  rw [run, if_pos h]

/-- A run without a task does nothing. -/
theorem run_of_tasks_eq_nil (h : blank source = false) (htasks : runner.settings.tasks = []) :
    runner.run unit source stage = (.error .nothingEnabled, stage) := by
  rw [run, h, htasks]
  rfl

/-- There is no task when no task that is enabled is known. -/
theorem tasks_eq_nil_iff (settings : TaskSettings) :
    settings.tasks = [] ↔ ∀ task ∈ settings.enabledTasks, task.isKnown = false := by
  rw [TaskSettings.tasks, List.filter_eq_nil_iff]
  constructor
  · intro h task henabled
    rw [← Bool.not_eq_true, ← Task.mem_known_iff]
    intro hknown
    exact h task hknown (decide_eq_true henabled)
  · intro h task hknown henabled
    have hunknown := h task (of_decide_eq_true henabled)
    rw [(Task.mem_known_iff task).mp hknown] at hunknown
    cases hunknown

/-- There are no episodes over a blank source. -/
theorem transcript_of_blank (h : blank source = true) : runner.transcript unit source stage = [] :=
  if_pos h

/-- The episodes of a run over a source that is not blank are those of its tasks. -/
theorem transcript_of_not_blank (h : blank source = false) :
    runner.transcript unit source stage =
      runner.episodes unit source runner.settings.tasks stage := by
  rw [transcript, h, if_neg Bool.false_ne_true]

/-- A run with tasks works through them and reports on its episodes. -/
theorem run_of_tasks_ne_nil (h : blank source = false) (htasks : runner.settings.tasks ≠ []) :
    runner.run unit source stage =
      (if (runner.transcript unit source stage).countP (·.status.isSuccess) = 0 then
        .error (.allTasksFailed unit (runner.transcript unit source stage).length)
      else .ok ⟨unit, (runner.transcript unit source stage).map (·.report)⟩,
      (runner.steps unit source runner.settings.tasks stage).2) := by
  have hempty : runner.settings.tasks.isEmpty = false := List.isEmpty_eq_false_iff.mpr htasks
  have hcount : ∀ episodes : List Episode,
      RunReport.succeeded ⟨unit, episodes.map (·.report)⟩ =
        episodes.countP (·.status.isSuccess) := by
    intro episodes
    rw [RunReport.succeeded, List.countP_map]
    rfl
  rw [run, h, hempty, if_neg Bool.false_ne_true, if_neg Bool.false_ne_true]
  rw [transcript_of_not_blank _ _ _ h]
  simp only [fst_steps, RunReport.failed, List.length_map, hcount]
  by_cases hnone : (runner.episodes unit source runner.settings.tasks stage).countP
      (·.status.isSuccess) = 0
  · rw [if_pos hnone, if_pos hnone, hnone, Nat.sub_zero]
  · rw [if_neg hnone, if_neg hnone]

/-- A run over a source that is not blank leaves the stage that its tasks leave. -/
theorem snd_run (h : blank source = false) :
    (runner.run unit source stage).2 =
      (runner.steps unit source runner.settings.tasks stage).2 := by
  by_cases htasks : runner.settings.tasks = []
  · rw [runner.run_of_tasks_eq_nil unit stage h htasks, htasks]
    rfl
  · rw [runner.run_of_tasks_ne_nil unit stage h htasks]

/-- **Recording a run** shows the calls of its episodes, and nothing else. -/
theorem recorded_run :
    runner.recorded.run unit source (stage.recorded [] []) =
      ((runner.run unit source stage).1,
        (runner.run unit source stage).2.recorded
          ((runner.transcript unit source stage).flatMap (·.asked))
          ((runner.transcript unit source stage).flatMap (·.told))) := by
  obtain ⟨hresult, -⟩ := run_agree runner.recorded_alike unit source stage.related_recorded
  refine Prod.ext hresult ?_
  cases hblank : blank source with
  | true =>
      rw [runner.recorded.run_of_blank unit _ hblank, runner.run_of_blank unit stage hblank,
        runner.transcript_of_blank unit stage hblank]
      rfl
  | false =>
      have hsteps := congrArg Prod.snd
        (runner.recorded_steps unit source [] [] runner.settings.tasks stage)
      rw [runner.recorded.snd_run unit _ hblank, runner.snd_run unit stage hblank,
        runner.transcript_of_not_blank unit stage hblank]
      exact hsteps

/-- **A run with a task works through its tasks.** -/
theorem workedThrough (h : blank source = false) (htasks : runner.settings.tasks ≠ []) :
    runner.WorkedThrough unit source (runner.transcript unit source stage)
      (runner.run unit source stage).1 := by
  have htranscript := runner.transcript_of_not_blank unit stage h
  have hmap : (runner.transcript unit source stage).map (·.task) = runner.settings.tasks := by
    rw [htranscript, map_task_episodes]
  have hsound : ∀ episode ∈ runner.transcript unit source stage,
      episode.Sound runner unit source := by
    intro episode hmem
    rw [htranscript] at hmem
    exact runner.sound_of_mem_episodes unit source hmem
  have hcount : (runner.transcript unit source stage).countP (·.status.isSuccess) = 0 ↔
      ∀ episode ∈ runner.transcript unit source stage, episode.status.isSuccess = false := by
    simp only [List.countP_eq_zero, Bool.not_eq_true]
  have hrun := runner.run_of_tasks_ne_nil unit stage h htasks
  refine ⟨hmap, ?_, hsound, fun e he => (hsound e he).succeeded_iff,
    fun e he => (hsound e he).failed_iff, ?_, ?_⟩
  · have hknown : Task.known.Nodup := by decide
    rw [hmap]
    exact hknown.filter _
  · intro failed
    rw [hrun, ← hcount]
    by_cases hnone : (runner.transcript unit source stage).countP (·.status.isSuccess) = 0
    · rw [if_pos hnone]
      simp only [Except.error.injEq, RunError.allTasksFailed.injEq, true_and, hnone, and_true]
      exact eq_comm
    · rw [if_neg hnone]
      simp [hnone]
  · rintro ⟨episode, hmem, hsuccess⟩
    have hsome : ¬ (runner.transcript unit source stage).countP (·.status.isSuccess) = 0 := by
      intro hnone
      rw [hcount.mp hnone episode hmem] at hsuccess
      cases hsuccess
    rw [hrun, if_neg hsome]

/-- **A run keeps failures apart.** It calls nothing when the source is blank or no known task is
enabled. Otherwise it works through its tasks, and sinks that store alike give the same report,
whatever they answer when a failure is marked, a mark is removed or an alert is sent. -/
theorem run_isolatesFailures (runner : Runner σ ρ) (unit source : String) (stage : Stage σ ρ) :
    let episodes := runner.transcript unit source stage
    let result := (runner.run unit source stage).1
    let final := (runner.run unit source stage).2
    runner.recorded.run unit source (stage.recorded [] []) =
        (result, final.recorded (episodes.flatMap (·.asked)) (episodes.flatMap (·.told))) ∧
      (blank source = true → result = .error (.emptySource unit) ∧ episodes = []) ∧
      (blank source = false → (∀ task ∈ runner.settings.enabledTasks, task.isKnown = false) →
        result = .error .nothingEnabled ∧ episodes = []) ∧
      (blank source = false → (∃ task ∈ runner.settings.enabledTasks, task.isKnown = true) →
        runner.WorkedThrough unit source episodes result) ∧
      ∀ (ρ' : Type) (T : ρ → ρ' → Prop) (others : Sinks ρ') (state : ρ'),
        runner.sinks.Alike T others → T stage.sinks state →
          ((runner.withSinks others).run unit source ⟨stage.now, stage.provider, state⟩).1 =
            result := by
  intro episodes result final
  refine ⟨runner.recorded_run unit stage, fun hblank => ?_, fun hblank hunknown => ?_,
    fun hblank hknown => ?_, fun ρ' T others state halike hstate => ?_⟩
  · exact ⟨congrArg Prod.fst (runner.run_of_blank unit stage hblank), if_pos hblank⟩
  · have htasks := (tasks_eq_nil_iff runner.settings).mpr hunknown
    refine ⟨congrArg Prod.fst (runner.run_of_tasks_eq_nil unit stage hblank htasks), ?_⟩
    show runner.transcript unit source stage = []
    rw [runner.transcript_of_not_blank unit stage hblank, htasks]
    rfl
  · refine runner.workedThrough unit stage hblank fun htasks => ?_
    obtain ⟨task, henabled, htask⟩ := hknown
    rw [(tasks_eq_nil_iff runner.settings).mp htasks task henabled] at htask
    cases htask
  · have hsame : runner.Alike Eq T (runner.withSinks others) :=
      { bounding := rfl
        settings := rfl
        notifications := rfl
        generator := ⟨rfl, rfl, rfl, by rintro now request s _ rfl; exact ⟨rfl, rfl⟩⟩
        sinks := halike }
    exact (run_agree hsame unit source ⟨rfl, rfl, hstate⟩).1.symm

end Run

end Runner

end Courseware
