import Courseware.Proofs.Run.Isolation

/-! # What a run tells

A run sends alerts, and it marks tasks in the failure log. Both follow from its reports alone,
whatever the sinks answer (`run_announces`): a task whose context was made without retrieval
although the text was too large is announced, then a task that failed is announced with its error;
and every task has one entry for the failure log, which marks it when it failed and removes the mark
when it succeeded. -/

namespace Courseware

open Text

variable {σ ρ : Type}

/-! ## Alerts and marks among calls -/

namespace Sinks

/-- The subject and the message of a call that sends an alert. -/
def Call.alert? : Call → Option (String × String)
  | .notify subject message => some (subject, message)
  | .store .. | .record .. | .clear .. => none

/-- Whether a call is one to the failure log. -/
def Call.isMark : Call → Bool
  | .record .. | .clear .. => true
  | .store .. | .notify .. => false

/-- **The alerts that calls send**, in order. -/
def alerts (calls : List Call) : List (String × String) := calls.filterMap Call.alert?

/-- **The calls to the failure log**, in order. -/
def marks (calls : List Call) : List Call := calls.filter Call.isMark

variable {calls others : List Call} {unit message subject : String} {task : Task}

@[simp] theorem alerts_nil : alerts [] = [] := rfl

@[simp] theorem marks_nil : marks [] = [] := rfl

@[simp] theorem alerts_append : alerts (calls ++ others) = alerts calls ++ alerts others :=
  List.filterMap_append

@[simp] theorem marks_append : marks (calls ++ others) = marks calls ++ marks others :=
  List.filter_append ..

@[simp] theorem alerts_store {material : Material} :
    alerts (.store unit task material :: calls) = alerts calls := rfl

@[simp] theorem alerts_record : alerts (.record unit task message :: calls) = alerts calls := rfl

@[simp] theorem alerts_clear : alerts (.clear unit task :: calls) = alerts calls := rfl

@[simp] theorem alerts_notify :
    alerts (.notify subject message :: calls) = (subject, message) :: alerts calls := rfl

@[simp] theorem marks_store {material : Material} :
    marks (.store unit task material :: calls) = marks calls := rfl

@[simp] theorem marks_record :
    marks (.record unit task message :: calls) = .record unit task message :: marks calls := rfl

@[simp] theorem marks_clear :
    marks (.clear unit task :: calls) = .clear unit task :: marks calls := rfl

@[simp] theorem marks_notify : marks (.notify subject message :: calls) = marks calls := rfl

end Sinks

/-! ## What is due for a report -/

/-- The alerts that are due for what came of a task: one about its error when it failed. -/
def TaskStatus.dueAlerts (unit : String) (task : Task) : TaskStatus → List (String × String)
  | .succeeded .. => []
  | .failed error => [(Runner.failureSubject unit task, error)]

/-- **The mark that is due** for what came of a task: it is set with the error when the task failed,
and removed when it succeeded. -/
def TaskStatus.dueMark (unit : String) (task : Task) : TaskStatus → Sinks.Call
  | .succeeded .. => .clear unit task
  | .failed error => .record unit task error

namespace TaskReport

/-- The alerts that are due for a context: one when it was made without retrieval although the text
was too large. -/
def boundingAlerts (unit source : String) (report : TaskReport) : List (String × String) :=
  if report.strategy = .fallbackTruncated ∨ report.strategy = .emergency then
    [("Content bounding fell back for unit " ++ unit,
      "Bounding for " ++ report.task.name ++ " used " ++ report.strategy.name ++ " ("
        ++ toString report.contextTokens ++ " of " ++ toString (Token.estimate source.toList)
        ++ " tokens kept)")]
  else []

/-- **The alerts that are due for a report**: those for its context, and then those for what came of
its task. -/
def dueAlerts (unit source : String) (report : TaskReport) : List (String × String) :=
  report.boundingAlerts unit source ++ report.status.dueAlerts unit report.task

/-- The mark that is due for a report. -/
def dueMark (unit : String) (report : TaskReport) : Sinks.Call :=
  report.status.dueMark unit report.task

end TaskReport

/-! ## What an episode tells -/

namespace Runner

variable {runner : Runner σ ρ} {unit : String} {task : Task}

/-- An alarm is one alert, if alerts are sent. -/
theorem alerts_alarm (subject message : String) :
    Sinks.alerts (runner.alarm subject message) =
      if runner.notifications then [(subject, message)] else [] := by
  rw [alarm]
  split <;> rfl

/-- An alarm does not concern the failure log. -/
theorem marks_alarm (subject message : String) :
    Sinks.marks (runner.alarm subject message) = [] := by
  rw [alarm]
  split <;> rfl

/-- The announcement of a context is one alert when it was made without retrieval. -/
theorem alerts_announcement (bounded : BoundedContext) {source : String} {report : TaskReport}
    (htask : report.task = bounded.task) (hstrategy : report.strategy = bounded.strategy)
    (houtput : report.contextTokens = bounded.outputTokens)
    (hinput : Token.estimate source.toList = bounded.inputTokens) :
    Sinks.alerts (runner.announcement unit bounded) =
      if runner.notifications then report.boundingAlerts unit source else [] := by
  have hdegraded : bounded.strategy.isDegraded = true ↔
      report.strategy = .fallbackTruncated ∨ report.strategy = .emergency := by
    rw [hstrategy]
    cases bounded.strategy <;> decide
  rw [announcement, TaskReport.boundingAlerts]
  by_cases hfell : bounded.strategy.isDegraded = true
  · rw [if_pos hfell, if_pos (hdegraded.mp hfell), alerts_alarm, htask, hstrategy, houtput, hinput]
  · rw [if_neg hfell, if_neg fun h => hfell (hdegraded.mpr h), Sinks.alerts_nil, ite_self]

/-- The announcement of a context does not concern the failure log. -/
theorem marks_announcement (bounded : BoundedContext) :
    Sinks.marks (runner.announcement unit bounded) = [] := by
  rw [announcement]
  split
  · exact marks_alarm _ _
  · rfl

section Settled

variable {generation : Except Exhausted Outcome} {told : List Sinks.Entry} {status : TaskStatus}

/-- **A settled task is announced when it failed**, with its error. -/
theorem Settled.alerts_eq (h : runner.Settled unit task generation told status) :
    Sinks.alerts (told.map (·.call)) =
      if runner.notifications then status.dueAlerts unit task else [] := by
  cases h with
  | stored outcome cleared => simp [TaskStatus.dueAlerts]
  | unstored outcome e marked alarmed halarm =>
      simp [TaskStatus.dueAlerts, halarm, alerts_alarm]
  | exhausted failure marked alarmed halarm =>
      simp [TaskStatus.dueAlerts, halarm, alerts_alarm]

/-- **A settled task has one entry for the failure log.** -/
theorem Settled.marks_eq (h : runner.Settled unit task generation told status) :
    Sinks.marks (told.map (·.call)) = [status.dueMark unit task] := by
  cases h with
  | stored outcome cleared => simp [TaskStatus.dueMark]
  | unstored outcome e marked alarmed halarm => simp [TaskStatus.dueMark, halarm, marks_alarm]
  | exhausted failure marked alarmed halarm => simp [TaskStatus.dueMark, halarm, marks_alarm]

end Settled

end Runner

namespace Episode

variable {runner : Runner σ ρ} {unit source : String} {episode : Episode}

/-- **A sound episode sends the alerts that are due for its report**, if alerts are sent. -/
theorem Sound.alerts_eq (h : episode.Sound runner unit source) :
    Sinks.alerts (episode.told.map (·.call)) =
      if runner.notifications then episode.report.dueAlerts unit source else [] := by
  obtain ⟨announced, settled, htold, hannounced, hsettled⟩ := h.told
  obtain ⟨htask, hinput⟩ := runner.bounding.head_bound episode.task source
  rw [htold, List.map_append, Sinks.alerts_append, hsettled.alerts_eq, hannounced,
    Runner.alerts_announcement _ htask.symm h.strategy h.contextTokens hinput.symm]
  by_cases hsent : runner.notifications = true
  · rw [if_pos hsent, if_pos hsent, if_pos hsent]
    rfl
  · rw [if_neg hsent, if_neg hsent, if_neg hsent, List.nil_append]

/-- **A sound episode has one entry for the failure log.** -/
theorem Sound.marks_eq (h : episode.Sound runner unit source) :
    Sinks.marks (episode.told.map (·.call)) = [episode.report.dueMark unit] := by
  obtain ⟨announced, settled, htold, hannounced, hsettled⟩ := h.told
  rw [htold, List.map_append, Sinks.marks_append, hannounced, Runner.marks_announcement,
    hsettled.marks_eq, List.nil_append]
  rfl

/-- Sound episodes send the alerts that are due for their reports, one after the other. -/
theorem alerts_flatMap {episodes : List Episode}
    (h : ∀ episode ∈ episodes, episode.Sound runner unit source) :
    Sinks.alerts ((episodes.flatMap (·.told)).map (·.call)) =
      if runner.notifications then
        (episodes.map (·.report)).flatMap (·.dueAlerts unit source)
      else [] := by
  induction episodes with
  | nil => simp
  | cons episode rest ih =>
      obtain ⟨hfirst, hrest⟩ := List.forall_mem_cons.mp h
      rw [List.flatMap_cons, List.map_append, Sinks.alerts_append, hfirst.alerts_eq, ih hrest]
      split
      · rw [List.map_cons, List.flatMap_cons]
      · rfl

/-- Sound episodes have one entry each for the failure log, one after the other. -/
theorem marks_flatMap {episodes : List Episode}
    (h : ∀ episode ∈ episodes, episode.Sound runner unit source) :
    Sinks.marks ((episodes.flatMap (·.told)).map (·.call)) =
      (episodes.map (·.report)).map (·.dueMark unit) := by
  induction episodes with
  | nil => rfl
  | cons episode rest ih =>
      obtain ⟨hfirst, hrest⟩ := List.forall_mem_cons.mp h
      rw [List.flatMap_cons, List.map_append, Sinks.marks_append, hfirst.marks_eq, ih hrest]
      rfl

end Episode

/-! ## What a run tells -/

namespace Runner

/-- **What a run tells about the tasks that it reports**, by the calls to its sinks. -/
structure Announces (runner : Runner σ ρ) (unit source : String) (calls : List Sinks.Call)
    (reports : List TaskReport) (result : Except RunError RunReport) : Prop where
  /-- There is a report for every known task that is enabled, in the order of the known tasks, and
  none when the source is blank. -/
  tasks : reports.map (·.task) =
    if blank source then [] else Task.known.filter (· ∈ runner.settings.enabledTasks)
  /-- A report says how the context of its task was made. -/
  strategy : ∀ report ∈ reports,
    report.strategy = (runner.bounding.bound report.task source).strategy
  /-- The run fails without a report and when no task succeeded; else it gives the reports. -/
  result : result =
    if blank source then .error (.emptySource unit)
    else if reports = [] then .error .nothingEnabled
    else if reports.all (!·.status.isSuccess) then .error (.allTasksFailed unit reports.length)
    else .ok ⟨unit, reports⟩
  /-- The alerts are those that are due for the reports. There are none when they are not sent. -/
  alerts : Sinks.alerts calls =
    if runner.notifications then reports.flatMap (·.dueAlerts unit source) else []
  /-- The failure log is called once for every report. -/
  marks : Sinks.marks calls = reports.map (·.dueMark unit)
  /-- A run that is rejected calls nothing. -/
  rejected : reports = [] → calls = []

variable (runner : Runner σ ρ) (unit source : String) (stage : Stage σ ρ)

/-- The episodes of a run are sound. -/
theorem sound_of_mem_transcript {episode : Episode}
    (h : episode ∈ runner.transcript unit source stage) : episode.Sound runner unit source := by
  cases hblank : blank source with
  | true =>
      rw [runner.transcript_of_blank unit stage hblank] at h
      cases h
  | false =>
      rw [runner.transcript_of_not_blank unit stage hblank] at h
      exact runner.sound_of_mem_episodes unit source h

/-- The episodes of a run are about its tasks. -/
theorem map_task_transcript :
    (runner.transcript unit source stage).map (·.task) =
      if blank source then [] else runner.settings.tasks := by
  cases hblank : blank source with
  | true =>
      rw [runner.transcript_of_blank unit stage hblank]
      rfl
  | false =>
      rw [runner.transcript_of_not_blank unit stage hblank, map_task_episodes]
      rfl

/-- **How a run ends** by the reports of its episodes. -/
theorem fst_run_eq :
    (runner.run unit source stage).1 =
      if blank source then .error (.emptySource unit)
      else if (runner.transcript unit source stage).map (·.report) = [] then .error .nothingEnabled
      else if ((runner.transcript unit source stage).map (·.report)).all (!·.status.isSuccess) then
        .error (.allTasksFailed unit ((runner.transcript unit source stage).map (·.report)).length)
      else .ok ⟨unit, (runner.transcript unit source stage).map (·.report)⟩ := by
  have hmap := runner.map_task_transcript unit source stage
  cases hblank : blank source with
  | true =>
      rw [runner.run_of_blank unit stage hblank]
      rfl
  | false =>
      rw [hblank, if_neg Bool.false_ne_true] at hmap
      rw [if_neg Bool.false_ne_true]
      -- There is no report exactly when there is no task.
      by_cases htasks : runner.settings.tasks = []
      · rw [htasks, List.map_eq_nil_iff] at hmap
        rw [runner.run_of_tasks_eq_nil unit stage hblank htasks, hmap]
        rfl
      · have hsome : ¬ (runner.transcript unit source stage).map (·.report) = [] := by
          intro hnil
          rw [List.map_eq_nil_iff.mp hnil] at hmap
          exact htasks hmap.symm
        have hall : ((runner.transcript unit source stage).map (·.report)).all
              (!·.status.isSuccess) = true ↔
            (runner.transcript unit source stage).countP (·.status.isSuccess) = 0 := by
          simp [List.all_eq_true, List.countP_eq_zero, Episode.status]
        rw [runner.run_of_tasks_ne_nil unit stage hblank htasks, if_neg hsome]
        simp only [hall, List.length_map]

/-- **A run announces what its reports call for**, whatever its provider and its sinks do. -/
theorem run_announces (runner : Runner σ ρ) (unit source : String) (stage : Stage σ ρ) :
    ∃ asked told reports,
      runner.recorded.run unit source (stage.recorded [] []) =
        ((runner.run unit source stage).1, (runner.run unit source stage).2.recorded asked told) ∧
      runner.Announces unit source (told.map (·.call)) reports
        (runner.run unit source stage).1 := by
  have hsound : ∀ episode ∈ runner.transcript unit source stage,
      episode.Sound runner unit source := fun _ => runner.sound_of_mem_transcript unit source stage
  have hmap := runner.map_task_transcript unit source stage
  -- The reports are those of the episodes, which record what they asked and told.
  refine ⟨_, _, (runner.transcript unit source stage).map (·.report),
    runner.recorded_run unit stage, ?_, ?_, runner.fst_run_eq unit source stage,
    Episode.alerts_flatMap hsound, Episode.marks_flatMap hsound, ?_⟩
  · rw [List.map_map]
    exact hmap
  · intro report hreport
    obtain ⟨episode, hmem, rfl⟩ := List.mem_map.mp hreport
    exact (hsound episode hmem).strategy
  · intro hnil
    rw [List.map_eq_nil_iff.mp hnil]
    rfl

end Runner

end Courseware
