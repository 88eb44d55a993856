import Courseware.Proofs.Run.Isolation
import Courseware.Proofs.Sink.Table

/-! # Histories of runs

Runs follow one another on sinks that **remember** (`Sinks.Remembers`). Their episodes in a row are
the **history** of the memory. The memory is a summary of it (`Recalls`): the mark of a unit and a
task is the failure of their last episode, and the material is that of their last episode that
succeeded. One episode keeps the summary (`Recalls.step`), so every sequence of runs does. -/

namespace Courseware

open Text

/-! ## Sinks that remember -/

/-- **Sinks that remember**: material and failures go to memory. Alerts leave both as they are, and
are answered as one likes. -/
structure Sinks.Remembers (sinks : Sinks Memory) : Prop where
  /-- Material is stored. -/
  store : ∀ unit task material memory,
    sinks.store unit task material memory = (.ok (), memory.store unit task material)
  /-- Failures are marked. -/
  record : ∀ unit task message memory,
    sinks.record unit task message memory = (.ok (), memory.record unit task message)
  /-- Marks are removed. -/
  clear : ∀ unit task memory, sinks.clear unit task memory = (.ok (), memory.clear unit task)
  /-- Alerts do not change the material. -/
  results_notify : ∀ subject message memory,
    (sinks.notify subject message memory).2.results = memory.results
  /-- Alerts do not change the marks. -/
  failures_notify : ∀ subject message memory,
    (sinks.notify subject message memory).2.failures = memory.failures

/-- The sinks in memory remember. -/
theorem Memory.remembers_sinks : Memory.sinks.Remembers :=
  ⟨fun _ _ _ _ => rfl, fun _ _ _ _ => rfl, fun _ _ _ => rfl, fun _ _ _ => rfl, fun _ _ _ => rfl⟩

namespace Runner

variable {σ : Type} {runner : Runner σ Memory}

/-- An alert does not change the material. -/
theorem results_alert (h : runner.sinks.Remembers) (subject message : String) (memory : Memory) :
    (runner.alert subject message memory).results = memory.results := by
  rw [alert]
  split
  · exact h.results_notify subject message memory
  · rfl

/-- An alert does not change the marks. -/
theorem failures_alert (h : runner.sinks.Remembers) (subject message : String) (memory : Memory) :
    (runner.alert subject message memory).failures = memory.failures := by
  rw [alert]
  split
  · exact h.failures_notify subject message memory
  · rfl

/-- Announcing how a context was made changes neither material nor marks. -/
theorem announceBounding_frame (h : runner.sinks.Remembers) (unit : String)
    (bounded : BoundedContext) (memory : Memory) :
    (runner.announceBounding unit bounded memory).results = memory.results ∧
      (runner.announceBounding unit bounded memory).failures = memory.failures := by
  rw [announceBounding]
  split
  · exact ⟨results_alert h _ _ memory, failures_alert h _ _ memory⟩
  · exact ⟨rfl, rfl⟩

/-- **What an episode does to memory**: it replaces the material and removes the mark, or it leaves
the material and sets the mark, unless the name of the unit is blank. -/
theorem step_cases (h : runner.sinks.Remembers) (unit source : String) (task : Task)
    (stage : Stage σ Memory) :
    let episode := runner.episode unit source task stage
    let memory := stage.sinks
    let after := (runner.step unit source task stage).2.sinks
    (∃ outcome, episode.generation = .ok outcome ∧ episode.status.isSuccess = true ∧
      after.results = memory.results.insert (unit, task) outcome.material ∧
      after.failures = memory.failures.erase (unit, task)) ∨
    ∃ message, episode.status = .failed message ∧ after.results = memory.results ∧
      after.failures = if blank unit then memory.failures
        else memory.failures.insert (unit, task) (trimmed message) := by
  intro episode memory after
  let bounded := runner.bounding.bound task source
  let announced := runner.announceBounding unit bounded memory
  obtain ⟨hresults, hfailures⟩ := runner.announceBounding_frame h unit bounded memory
  have hstatus : episode.status = (runner.settle unit episode.generation announced).1 :=
    congrArg TaskReport.status (runner.fst_step unit source task stage).symm
  have hafter : after = (runner.settle unit episode.generation announced).2 := rfl
  obtain ⟨start, took, hrun⟩ := (runner.sound_episode unit source task stage).generation
  have hbounded := runner.bounding.task_bound task source
  cases hgeneration : episode.generation with
  | ok outcome =>
      obtain rfl : outcome.task = task := (hrun.task_of_ok hgeneration).trans hbounded
      have hstore := h.store unit outcome.task outcome.material announced
      have haccept := accept_of_ok (congrArg Prod.fst hstore)
      rw [hstore, h.clear] at haccept
      rw [hgeneration] at hstatus hafter
      have hsettle : runner.settle unit (.ok outcome) announced =
          (.succeeded outcome.attempts outcome.material.count,
            (announced.store unit outcome.task outcome.material).clear unit outcome.task) := haccept
      rw [hsettle] at hstatus hafter
      refine Or.inl ⟨outcome, rfl, ?_, ?_, ?_⟩
      · rw [hstatus, TaskStatus.isSuccess]
      · rw [hafter, ← hresults]
        rfl
      · rw [hafter, ← hfailures]
        rfl
  | error failure =>
      obtain rfl : failure.task = task := (hrun.task_of_error hgeneration).trans hbounded
      rw [hgeneration] at hstatus hafter
      rw [settle, fail, h.record] at hafter
      refine Or.inr ⟨failure.lastError, hstatus, ?_, ?_⟩
      · rw [hafter, results_alert h, ← hresults, Memory.record]
        split <;> rfl
      · rw [hafter, failures_alert h, ← hfailures, Memory.record]
        split <;> rfl

end Runner

/-! ## Histories -/

/-- The mark that an episode leaves: the text of its failure, without the blanks around it. -/
def Episode.failure? (episode : Episode) : Option String :=
  match episode.status with
  | .failed message => some (trimmed message)
  | .succeeded .. => none

/-- An episode leaves a mark when its task failed. -/
theorem Episode.failure?_eq_some_iff {episode : Episode} {message : String} :
    episode.failure? = some message ↔
      ∃ error, episode.status = .failed error ∧ message = trimmed error := by
  rw [failure?]
  cases episode.status with
  | succeeded attempts items => simp
  | failed error => simp [eq_comm]

/-- The material that was generated in an episode. -/
def Episode.material? (episode : Episode) : Option Material :=
  episode.generation.toOption.map (·.material)

/-- There is material when the generation succeeded. -/
theorem Episode.material?_eq_some_iff {episode : Episode} {material : Material} :
    episode.material? = some material ↔
      ∃ outcome, episode.generation = .ok outcome ∧ outcome.material = material := by
  rw [material?]
  cases episode.generation with
  | ok outcome => simp [Except.toOption]
  | error failure => simp [Except.toOption]

/-- **A history**: episodes in order, each with the unit of its run. -/
abbrev History := List (String × Episode)

namespace History

/-- The episodes of a unit for a task, in order. -/
def episodesOf (history : History) (unit : String) (task : Task) : List Episode :=
  (history.filter fun entry => (entry.1, entry.2.task) == (unit, task)).map (·.2)

/-- **The last episode** of a unit for a task. -/
def last? (history : History) (unit : String) (task : Task) : Option Episode :=
  (history.episodesOf unit task).getLast?

/-- **The last episode** of a unit for a task **that succeeded**. -/
def lastSuccess? (history : History) (unit : String) (task : Task) : Option Episode :=
  ((history.episodesOf unit task).filter (·.status.isSuccess)).getLast?

variable (history : History) (episode : Episode) (unit other : String) (task : Task)

variable {history episode unit task} in
/-- The episodes of a unit for a task are in the history. -/
theorem mem_episodesOf :
    episode ∈ history.episodesOf unit task ↔ (unit, episode) ∈ history ∧ episode.task = task := by
  rw [episodesOf, List.mem_map]
  constructor
  · rintro ⟨⟨_, found⟩, hmem, rfl⟩
    obtain ⟨hhistory, hslot⟩ := List.mem_filter.mp hmem
    obtain ⟨rfl, rfl⟩ := Prod.mk.inj (eq_of_beq hslot)
    exact ⟨hhistory, rfl⟩
  · rintro ⟨hhistory, rfl⟩
    exact ⟨_, List.mem_filter.mpr ⟨hhistory, beq_self_eq_true (unit, episode.task)⟩, rfl⟩

variable {history unit task} in
/-- There is a last episode that succeeded unless all have failed. -/
theorem lastSuccess?_eq_none_iff :
    history.lastSuccess? unit task = none ↔
      ∀ episode ∈ history.episodesOf unit task, episode.status.isSuccess = false := by
  simp only [lastSuccess?, List.getLast?_eq_none_iff, List.filter_eq_nil_iff, Bool.not_eq_true]

variable {history episode unit task} in
/-- The last episode that succeeded is one, and it succeeded. -/
theorem mem_of_lastSuccess? (h : history.lastSuccess? unit task = some episode) :
    episode ∈ history.episodesOf unit task ∧ episode.status.isSuccess = true :=
  List.mem_filter.mp (List.mem_of_getLast? h)

/-- An episode comes behind those of its unit and task. -/
theorem episodesOf_concat :
    episodesOf (history ++ [(other, episode)]) unit task =
      history.episodesOf unit task ++
        if (unit, task) = (other, episode.task) then [episode] else [] := by
  rw [episodesOf, List.filter_append, List.map_append, ← episodesOf, List.filter_singleton]
  by_cases h : (unit, task) = (other, episode.task)
  · rw [if_pos h, beq_iff_eq.mpr h.symm]
    rfl
  · rw [if_neg h, beq_false_of_ne (Ne.symm h)]
    rfl

/-- An episode is the last one of its unit and task, and leaves the others. -/
theorem last?_concat :
    last? (history ++ [(other, episode)]) unit task =
      if (unit, task) = (other, episode.task) then some episode else history.last? unit task := by
  rw [last?, episodesOf_concat]
  by_cases h : (unit, task) = (other, episode.task)
  · rw [if_pos h, if_pos h, List.getLast?_concat]
  · rw [if_neg h, if_neg h, List.append_nil, last?]

/-- An episode that succeeds is the last such of its unit and task. -/
theorem lastSuccess?_concat_of_success (h : episode.status.isSuccess = true) :
    lastSuccess? (history ++ [(other, episode)]) unit task =
      if (unit, task) = (other, episode.task) then some episode
      else history.lastSuccess? unit task := by
  rw [lastSuccess?, episodesOf_concat, List.filter_append]
  by_cases hslot : (unit, task) = (other, episode.task)
  · rw [if_pos hslot, if_pos hslot, List.filter_singleton, h, cond_true, List.getLast?_concat]
  · rw [if_neg hslot, if_neg hslot, List.filter_nil, List.append_nil, lastSuccess?]

/-- An episode that fails leaves the successes. -/
theorem lastSuccess?_concat_of_failure (h : episode.status.isSuccess = false) :
    lastSuccess? (history ++ [(other, episode)]) unit task = history.lastSuccess? unit task := by
  have hnone : (if (unit, task) = (other, episode.task) then [episode] else []).filter
      (·.status.isSuccess) = [] := by
    split
    · rw [List.filter_singleton, h, cond_false]
    · rfl
  rw [lastSuccess?, episodesOf_concat, List.filter_append, hnone, List.append_nil, lastSuccess?]

end History

/-- **A memory that recalls a history.** -/
structure Recalls (memory : Memory) (history : History) : Prop where
  /-- The mark of a unit and task is the failure of their last episode; a unit without a name has
  no marks. -/
  failures : ∀ unit task, memory.failures.get? (unit, task) =
    if blank unit then none else (history.last? unit task).bind Episode.failure?
  /-- The material of a unit and task is that of their last episode that succeeded. -/
  results : ∀ unit task, memory.results.get? (unit, task) =
    (history.lastSuccess? unit task).bind Episode.material?
  /-- There is one material for a unit and task. -/
  distinct : memory.results.Distinct

/-- The empty memory recalls that there was nothing. -/
theorem recalls_empty : Recalls {} [] :=
  ⟨fun unit task => by rw [Table.get?_empty]; split <;> rfl, fun _ _ => rfl, Table.distinct_empty⟩

section Steps

variable {σ : Type} {runner : Runner σ Memory} {history : History} {stage : Stage σ Memory}

/-- **One episode** is recalled with those before it. -/
theorem Recalls.step (h : Recalls stage.sinks history) (hsinks : runner.sinks.Remembers)
    (unit source : String) (task : Task) :
    Recalls (runner.step unit source task stage).2.sinks
      (history ++ [(unit, runner.episode unit source task stage)]) := by
  have htask := runner.task_episode unit source task stage
  rcases runner.step_cases hsinks unit source task stage with
    ⟨outcome, hgeneration, hsuccess, hresults, hfailures⟩ | ⟨message, hfailed, hresults, hfailures⟩
  · have hmaterial : (runner.episode unit source task stage).material? = some outcome.material := by
      rw [Episode.material?, hgeneration]
      rfl
    have hunmarked : (runner.episode unit source task stage).failure? = none := by
      rw [Episode.failure?]
      split
      · next hstatus =>
          rw [hstatus] at hsuccess
          cases hsuccess
      · rfl
    refine ⟨fun u t => ?_, fun u t => ?_, ?_⟩
    · rw [hfailures, Table.get?_erase, h.failures, History.last?_concat, htask]
      by_cases hslot : (u, t) = (unit, task)
      · rw [if_pos hslot, if_pos hslot, Option.bind_some, hunmarked, ite_self]
      · rw [if_neg hslot, if_neg hslot]
    · rw [hresults, Table.get?_insert, h.results,
        History.lastSuccess?_concat_of_success _ _ _ _ _ hsuccess, htask]
      by_cases hslot : (u, t) = (unit, task)
      · rw [if_pos hslot, if_pos hslot, Option.bind_some, hmaterial]
      · rw [if_neg hslot, if_neg hslot]
    · rw [hresults]
      exact h.distinct.insert (unit, task) outcome.material
  · have hunsuccessful : (runner.episode unit source task stage).status.isSuccess = false := by
      rw [hfailed, TaskStatus.isSuccess]
    have hmarked : (runner.episode unit source task stage).failure? = some (trimmed message) := by
      rw [Episode.failure?, hfailed]
    refine ⟨fun u t => ?_, fun u t => ?_, ?_⟩
    · rw [hfailures, History.last?_concat, htask]
      by_cases hslot : (u, t) = (unit, task)
      · obtain ⟨rfl, rfl⟩ := Prod.mk.inj hslot
        rw [if_pos rfl, Option.bind_some, hmarked]
        by_cases hblank : blank u = true
        · rw [if_pos hblank, if_pos hblank, h.failures, if_pos hblank]
        · rw [if_neg hblank, if_neg hblank, Table.get?_insert, if_pos rfl]
      · rw [if_neg hslot, ← h.failures]
        by_cases hblank : blank unit = true
        · rw [if_pos hblank]
        · rw [if_neg hblank, Table.get?_insert, if_neg hslot]
    · rw [hresults, h.results, History.lastSuccess?_concat_of_failure _ _ _ _ _ hunsuccessful]
    · rw [hresults]
      exact h.distinct

/-- **Episodes in a row** are recalled with those before them. -/
theorem Recalls.steps (h : Recalls stage.sinks history) (hsinks : runner.sinks.Remembers)
    (unit source : String) (tasks : List Task) :
    Recalls (runner.steps unit source tasks stage).2.sinks
      (history ++ (runner.episodes unit source tasks stage).map (unit, ·)) := by
  induction tasks generalizing history stage with
  | nil => exact (List.append_nil history).symm ▸ h
  | cons task rest ih =>
      have hrest := ih (h.step hsinks unit source task)
      rwa [List.append_assoc] at hrest

/-- **A run** is recalled with those before it. -/
theorem Recalls.run (h : Recalls stage.sinks history) (hsinks : runner.sinks.Remembers)
    (unit source : String) :
    Recalls (runner.run unit source stage).2.sinks
      (history ++ (runner.transcript unit source stage).map (unit, ·)) := by
  cases hblank : blank source with
  | true =>
      rw [runner.run_of_blank unit stage hblank, runner.transcript_of_blank unit stage hblank]
      exact (List.append_nil history).symm ▸ h
  | false =>
      rw [runner.snd_run unit stage hblank, runner.transcript_of_not_blank unit stage hblank]
      exact h.steps hsinks unit source runner.settings.tasks

end Steps

/-! ## Jobs -/

/-- **A job**: a run to be made, with its own settings and its own provider, on sinks that
remember. -/
structure Job where
  /-- The states of the provider. -/
  State : Type
  /-- What is run. -/
  runner : Runner State Memory
  /-- The sinks remember. -/
  remembers : runner.sinks.Remembers
  /-- The unit. -/
  unit : String
  /-- The source. -/
  source : String
  /-- The time at the start. -/
  now : Nat
  /-- The provider at the start. -/
  provider : State

namespace Job

/-- The stage on which a job finds a memory. -/
def stage (job : Job) (memory : Memory) : Stage job.State Memory :=
  ⟨job.now, job.provider, memory⟩

/-- What a job does to a memory. -/
def run (job : Job) (memory : Memory) :
    Except RunError RunReport × Stage job.State Memory :=
  job.runner.run job.unit job.source (job.stage memory)

/-- The episodes of a job that finds a memory. -/
def episodes (job : Job) (memory : Memory) : List Episode :=
  job.runner.transcript job.unit job.source (job.stage memory)

/-- The memory after jobs. -/
def memoryAfter : List Job → Memory → Memory
  | [], memory => memory
  | job :: rest, memory => memoryAfter rest (job.run memory).2.sinks

/-- **The history of jobs.** -/
def history : List Job → Memory → History
  | [], _ => []
  | job :: rest, memory =>
    (job.episodes memory).map (job.unit, ·) ++ history rest (job.run memory).2.sinks

/-- **Jobs are recalled.** -/
theorem recalls (jobs : List Job) {memory : Memory} {before : History} (h : Recalls memory before) :
    Recalls (memoryAfter jobs memory) (before ++ history jobs memory) := by
  induction jobs generalizing memory before with
  | nil => exact (List.append_nil before).symm ▸ h
  | cons job rest ih =>
      have hstage : Recalls (job.stage memory).sinks before := h
      have hrest := ih (hstage.run job.remembers job.unit job.source)
      rwa [List.append_assoc] at hrest

/-- A job that is rejected changes nothing and has no episodes. -/
theorem run_of_rejected (job : Job) (memory : Memory)
    (h : blank job.source = true ∨ ∀ task ∈ job.runner.settings.enabledTasks, task.isKnown = false) :
    ((job.run memory).1 = .error (.emptySource job.unit) ∨
        (job.run memory).1 = .error .nothingEnabled) ∧
      (job.run memory).2.sinks = memory ∧ job.episodes memory = [] := by
  cases hblank : blank job.source with
  | true =>
      have hrun := job.runner.run_of_blank job.unit (job.stage memory) hblank
      refine ⟨Or.inl (congrArg Prod.fst hrun), congrArg (·.2.sinks) hrun, ?_⟩
      exact job.runner.transcript_of_blank job.unit (job.stage memory) hblank
  | false =>
      have hunknown := h.resolve_left (by rw [hblank]; exact Bool.false_ne_true)
      have htasks := (Runner.tasks_eq_nil_iff job.runner.settings).mpr hunknown
      have hrun := job.runner.run_of_tasks_eq_nil job.unit (job.stage memory) hblank htasks
      refine ⟨Or.inr (congrArg Prod.fst hrun), congrArg (·.2.sinks) hrun, ?_⟩
      have htranscript := job.runner.transcript_of_not_blank job.unit (job.stage memory) hblank
      rw [htasks] at htranscript
      exact htranscript

/-- **What is in a history**: the episodes of its jobs, each from the memory that the jobs before it
leave. -/
theorem exists_of_mem_history {jobs : List Job} {memory : Memory} {unit : String}
    {episode : Episode} (h : (unit, episode) ∈ history jobs memory) :
    ∃ before job after, jobs = before ++ job :: after ∧ unit = job.unit ∧
      episode ∈ job.episodes (memoryAfter before memory) := by
  induction jobs generalizing memory with
  | nil => cases h
  | cons job rest ih =>
      rcases List.mem_append.mp h with hjob | hrest
      · obtain ⟨_, hmem, hentry⟩ := List.mem_map.mp hjob
        cases hentry
        exact ⟨[], job, rest, rfl, rfl, hmem⟩
      · obtain ⟨before, found, after, rfl, hunit, hmem⟩ := ih hrest
        exact ⟨job :: before, found, after, rfl, hunit, hmem⟩

/-- The episodes of a job are sound, and about known tasks. -/
theorem sound_of_mem_episodes (job : Job) (memory : Memory) {episode : Episode}
    (h : episode ∈ job.episodes memory) :
    episode.Sound job.runner job.unit job.source ∧ episode.task ∈ Task.known := by
  cases hblank : blank job.source with
  | true =>
      rw [episodes, job.runner.transcript_of_blank job.unit (job.stage memory) hblank] at h
      cases h
  | false =>
      rw [episodes, job.runner.transcript_of_not_blank job.unit (job.stage memory) hblank] at h
      refine ⟨job.runner.sound_of_mem_episodes job.unit job.source h, ?_⟩
      have htask := List.mem_map_of_mem (f := (·.task)) h
      rw [Runner.map_task_episodes] at htask
      exact (List.mem_filter.mp htask).1

/-- **What the memory is after jobs** that found it empty. -/
structure Remembered (jobs : List Job) (history : History) (memory : Memory) : Prop where
  /-- A unit and a task are marked when their last episode failed, with the text of the failure. -/
  failures : ∀ unit task message, blank unit = false →
    (memory.failures.get? (unit, task) = some message ↔
      ∃ episode error, history.last? unit task = some episode ∧
        episode.status = .failed error ∧ message = trimmed error)
  /-- A unit without a name is never marked. -/
  unmarked : ∀ unit task, blank unit = true → memory.failures.get? (unit, task) = none
  /-- The material of a unit and a task is that of their last episode that succeeded. -/
  results : ∀ unit task material, memory.results.get? (unit, task) = some material ↔
    ∃ episode outcome, history.lastSuccess? unit task = some episode ∧
      episode.generation = .ok outcome ∧ outcome.material = material
  /-- There is no material when no episode succeeded. -/
  absent : ∀ unit task, memory.results.get? (unit, task) = none ↔
    ∀ episode ∈ history.episodesOf unit task, episode.status.isSuccess = false
  /-- The materials of a unit are listed in the order of the tasks, in whatever order the memory
  keeps them. -/
  listing : ∀ unit entries, entries.Perm memory.results.entries →
    Table.listing entries unit =
      Task.known.filterMap fun task => (memory.results.get? (unit, task)).map (task, ·)
  /-- The history consists of the episodes of the jobs. They are sound, and the material of those
  that succeed is that of a response that passes. -/
  episodes : ∀ unit episode, (unit, episode) ∈ history →
    ∃ before job after, jobs = before ++ job :: after ∧ unit = job.unit ∧
      episode ∈ job.episodes (memoryAfter before {}) ∧
      episode.Sound job.runner unit job.source ∧
      ∀ outcome, episode.generation = .ok outcome →
        ∃ call ∈ episode.asked, ∃ reply validated,
          Generator.Passes
              (job.runner.requestFor (job.runner.bounding.bound episode.task job.source)) call reply
              validated ∧
            outcome.material = validated.material

/-- There is no material exactly when no episode succeeded. -/
theorem get?_results_eq_none_iff {jobs : List Job} {memory : Memory}
    (h : Recalls memory (history jobs {})) (unit : String) (task : Task) :
    memory.results.get? (unit, task) = none ↔
      ∀ episode ∈ (history jobs {}).episodesOf unit task, episode.status.isSuccess = false := by
  rw [h.results, ← History.lastSuccess?_eq_none_iff]
  cases hlast : (history jobs {}).lastSuccess? unit task with
  | none => simp only [Option.bind_none]
  | some episode =>
      obtain ⟨hmem, hsuccess⟩ := History.mem_of_lastSuccess? hlast
      obtain ⟨_, job, _, -, -, hepisode⟩ := exists_of_mem_history (History.mem_episodesOf.mp hmem).1
      obtain ⟨outcome, hgeneration⟩ :=
        (job.sound_of_mem_episodes _ hepisode).1.exists_generation hsuccess
      have hmaterial := Episode.material?_eq_some_iff.mpr ⟨outcome, hgeneration, rfl⟩
      simp only [Option.bind_some, hmaterial, reduceCtorEq]

/-- **Jobs are remembered**, and those that are rejected change nothing. -/
theorem remembered (jobs : List Job) :
    Remembered jobs (history jobs {}) (memoryAfter jobs {}) ∧
      ∀ (job : Job) (memory : Memory),
        (blank job.source = true ∨
          ∀ task ∈ job.runner.settings.enabledTasks, task.isKnown = false) →
        ((job.run memory).1 = .error (.emptySource job.unit) ∨
            (job.run memory).1 = .error .nothingEnabled) ∧
          (job.run memory).2.sinks = memory ∧ job.episodes memory = [] := by
  have hrecalls : Recalls (memoryAfter jobs {}) (history jobs {}) := recalls jobs recalls_empty
  refine ⟨⟨fun unit task message hunit => ?_, fun unit task hunit => ?_,
    fun unit task material => ?_, get?_results_eq_none_iff hrecalls, fun unit entries hperm => ?_,
    fun unit episode hmem => ?_⟩, run_of_rejected⟩
  · rw [hrecalls.failures, hunit, if_neg Bool.false_ne_true, Option.bind_eq_some_iff]
    simp only [Episode.failure?_eq_some_iff, exists_and_left]
  · rw [hrecalls.failures, hunit, if_pos rfl]
  · rw [hrecalls.results, Option.bind_eq_some_iff]
    simp only [Episode.material?_eq_some_iff, exists_and_left]
  · rw [Table.listing_eq_forUnit hrecalls.distinct hperm]
    refine Table.forUnit_eq_known ((get?_results_eq_none_iff hrecalls unit .unknown).mpr ?_)
    -- A run works through known tasks, so no episode is about the unknown one.
    intro episode hmem
    obtain ⟨hhistory, htask⟩ := History.mem_episodesOf.mp hmem
    obtain ⟨_, job, _, -, -, hepisode⟩ := exists_of_mem_history hhistory
    have hknown := (job.sound_of_mem_episodes _ hepisode).2
    rw [htask] at hknown
    exact absurd hknown (by decide)
  · obtain ⟨before, job, after, hjobs, rfl, hepisode⟩ := exists_of_mem_history hmem
    have hsound := (job.sound_of_mem_episodes _ hepisode).1
    exact ⟨before, job, after, hjobs, rfl, hepisode, hsound, fun _ hok => hsound.exists_passes hok⟩

end Job

end Courseware
