import Mathlib.Logic.Relation
import Mathlib.Order.GameAdd
import Courseware.Provider.Script
import Courseware.Proofs.Run.History
import Courseware.Proofs.Run.Process

/-! # Interleaved runs

Two runs for different units share one memory and take turns as they like, one call at a time. What
is left of both, with the memory, is a **joint run** (`Joint`). What comes of making the rest of the
first run and then the rest of the second is kept by every step of either (`Joint.Step.serial`),
since calls for two units commute (`Sinks.Remembers.handle_comm`).

* **Serial memory**: however two jobs for different units take turns, the memory in the end has the
  contents that it has after one job and then the other, in either order, and each job reports what
  it reports alone (`Job.interleaved`).
-/

namespace Courseware

variable {α β : Type}

/-! ## Memories with the same contents -/

/-- **Memories with the same contents**: the same material and the same marks. -/
structure Memory.Same (memory other : Memory) : Prop where
  /-- The material is the same. -/
  results : memory.results.Same other.results
  /-- The marks are the same. -/
  failures : memory.failures.Same other.failures

/-- A memory has its own contents. -/
theorem Memory.Same.refl (memory : Memory) : memory.Same memory := ⟨.refl _, .refl _⟩

/-- Having the same contents goes both ways. -/
theorem Memory.Same.symm {memory other : Memory} (h : memory.Same other) : other.Same memory :=
  ⟨h.results.symm, h.failures.symm⟩

/-- Memories with the contents of a third one have the same contents. -/
theorem Memory.Same.trans {memory mid other : Memory} (h : memory.Same mid) (h' : mid.Same other) :
    memory.Same other :=
  ⟨h.results.trans h'.results, h.failures.trans h'.failures⟩

namespace Sinks.Remembers

variable {sinks sinks' : Sinks Memory} {unit unit' : String}

/-- **A call edits the material.** -/
theorem results_handle (h : sinks.Remembers) (call : Call) (memory : Memory) :
    (sinks.handle call memory).2.results = memory.results.edit call.resultEdit := by
  cases call with
  | store named task material => rw [handle, h.store]; rfl
  | record named task message =>
      rw [handle, h.record, Memory.record]
      split <;> rfl
  | clear named task => rw [handle, h.clear]; rfl
  | notify subject message => exact h.results_notify subject message memory

/-- **A call edits the marks.** -/
theorem failures_handle (h : sinks.Remembers) (call : Call) (memory : Memory) :
    (sinks.handle call memory).2.failures = memory.failures.edit call.failureEdit := by
  cases call with
  | store named task material => rw [handle, h.store]; rfl
  | record named task message =>
      rw [handle, h.record, Memory.record, Call.failureEdit]
      split <;> rfl
  | clear named task => rw [handle, h.clear]; rfl
  | notify subject message => exact h.failures_notify subject message memory

/-- A call changes the same in memories with the same contents. -/
theorem handle_congr (h : sinks.Remembers) (call : Call) {memory other : Memory}
    (hsame : memory.Same other) :
    (sinks.handle call memory).2.Same (sinks.handle call other).2 := by
  refine ⟨?_, ?_⟩
  · rw [h.results_handle, h.results_handle]
    exact hsame.results.edit _
  · rw [h.failures_handle, h.failures_handle]
    exact hsame.failures.edit _

/-- **Calls for two units commute.** -/
theorem handle_comm (h : sinks.Remembers) (h' : sinks'.Remembers) (hunits : unit ≠ unit')
    {call call' : Call} (hcall : call.For unit) (hcall' : call'.For unit') (memory : Memory) :
    (sinks'.handle call' (sinks.handle call memory).2).2.Same
      (sinks.handle call (sinks'.handle call' memory).2).2 := by
  refine ⟨?_, ?_⟩
  · simp only [h.results_handle, h'.results_handle]
    exact memory.results.same_edit_comm hunits hcall.resultEdit hcall'.resultEdit
  · simp only [h.failures_handle, h'.failures_handle]
    exact memory.failures.same_edit_comm hunits hcall.failureEdit hcall'.failureEdit

/-! ## Making calls on a memory -/

/-- Material is always stored. -/
theorem exec_store (h : sinks.Remembers) (task : Task) (material : Material)
    (next : Delivered → Process α) (memory : Memory) :
    (Process.store unit task material next).exec sinks memory =
      (next (.ok ())).exec sinks (sinks.handle (.store unit task material) memory).2 := by
  rw [Process.exec, handle, h.store]

/-- **What comes out does not depend on the memory.** -/
theorem fst_exec (h : sinks.Remembers) (process : Process α) (memory other : Memory) :
    (process.exec sinks memory).1 = (process.exec sinks other).1 := by
  induction process generalizing memory other with
  | ended result => rfl
  | store named task material next ih =>
      rw [h.exec_store, h.exec_store]
      exact ih _ _ _
  | tell call next ih => exact ih _ _

/-- A process changes the same in memories with the same contents. -/
theorem exec_congr (h : sinks.Remembers) (process : Process α) {memory other : Memory}
    (hsame : memory.Same other) :
    (process.exec sinks memory).2.Same (process.exec sinks other).2 := by
  induction process generalizing memory other with
  | ended result => exact hsame
  | store named task material next ih =>
      rw [h.exec_store, h.exec_store]
      exact ih _ (h.handle_congr _ hsame)
  | tell call next ih => exact ih (h.handle_congr call hsame)

/-- **A call for one unit may be made before or after a process for another.** -/
theorem exec_handle_comm (h : sinks.Remembers) (h' : sinks'.Remembers) (hunits : unit ≠ unit')
    {process : Process α} (hprocess : process.For unit) {call : Call} (hcall : call.For unit')
    (memory : Memory) :
    (sinks'.handle call (process.exec sinks memory).2).2.Same
      (process.exec sinks (sinks'.handle call memory).2).2 := by
  induction hprocess generalizing memory with
  | ended result => exact .refl _
  | @store task material next _ ih =>
      have hstore : (Call.store unit task material).For unit := rfl
      rw [h.exec_store, h.exec_store]
      exact (ih _ _).trans (h.exec_congr _ (h.handle_comm h' hunits hstore hcall memory))
  | @tell told next htold _ ih =>
      exact (ih _).trans (h.exec_congr next (h.handle_comm h' hunits htold hcall memory))

/-- **Processes for two units commute.** -/
theorem exec_comm (h : sinks.Remembers) (h' : sinks'.Remembers) (hunits : unit ≠ unit')
    {process : Process α} (hprocess : process.For unit) {other : Process β}
    (hother : other.For unit') (memory : Memory) :
    (other.exec sinks' (process.exec sinks memory).2).2.Same
      (process.exec sinks (other.exec sinks' memory).2).2 := by
  induction hother generalizing memory with
  | ended result => exact .refl _
  | @store task material next _ ih =>
      have hstore : (Call.store unit' task material).For unit' := rfl
      rw [h'.exec_store, h'.exec_store]
      exact (h'.exec_congr _ (h.exec_handle_comm h' hunits hprocess hstore memory)).trans (ih _ _)
  | @tell told next htold _ ih =>
      exact (h'.exec_congr next (h.exec_handle_comm h' hunits hprocess htold memory)).trans (ih _)

end Sinks.Remembers

/-! ## Steps -/

/-- **A process makes its next call.** -/
inductive Process.Step (sinks : Sinks Memory) :
    Process α → Memory → Process α → Memory → Prop where
  /-- Material is stored, and the process goes on with the answer. -/
  | store (unit : String) (task : Task) (material : Material) (next : Delivered → Process α)
      (memory : Memory) :
      Step sinks (.store unit task material next) memory
        (next (sinks.store unit task material memory).1)
        (sinks.store unit task material memory).2
  /-- A call is made, and the process goes on. -/
  | tell (call : Sinks.Call) (next : Process α) (memory : Memory) :
      Step sinks (.tell call next) memory next (sinks.handle call memory).2

/-- **What a step is**: a call for the unit of the process, which leaves what would have come after
it. -/
theorem Process.Step.exists_call {sinks : Sinks Memory} (h : sinks.Remembers) {unit : String}
    {process later : Process α} {memory after : Memory}
    (hstep : process.Step sinks memory later after) (hfor : process.For unit) :
    ∃ call : Sinks.Call, call.For unit ∧ later.For unit ∧ after = (sinks.handle call memory).2 ∧
      ∀ other, process.exec sinks other = later.exec sinks (sinks.handle call other).2 := by
  cases hstep with
  | store named task material next =>
      cases hfor with
      | store hnext =>
          refine ⟨.store unit task material, rfl, hnext _, rfl, fun other => ?_⟩
          rw [h.exec_store, h.store]
  | tell call next =>
      cases hfor with
      | tell hcall hnext => exact ⟨call, hcall, hnext, rfl, fun _ => rfl⟩

/-- A process that has not ended can make a call. -/
theorem Process.exists_step (sinks : Sinks Memory) (process : Process α) (memory : Memory) :
    (∃ result, process = .ended result) ∨ ∃ later after, process.Step sinks memory later after := by
  cases process with
  | ended result => exact Or.inl ⟨result, rfl⟩
  | store unit task material next => exact Or.inr ⟨_, _, .store unit task material next memory⟩
  | tell call next => exact Or.inr ⟨_, _, .tell call next memory⟩

/-- **No process goes on forever.** -/
theorem Process.wellFounded_step (sinks : Sinks Memory) :
    WellFounded fun later process : Process α =>
      ∃ memory after, process.Step sinks memory later after := by
  refine ⟨fun process => ?_⟩
  induction process with
  | ended result =>
      refine ⟨_, ?_⟩
      rintro _ ⟨_, _, hstep⟩
      cases hstep
  | store unit task material next ih =>
      refine ⟨_, ?_⟩
      rintro _ ⟨_, _, hstep⟩
      cases hstep
      exact ih _
  | tell call next ih =>
      refine ⟨_, ?_⟩
      rintro _ ⟨_, _, hstep⟩
      cases hstep
      exact ih

/-- **A joint run**: what is left of two runs, and the memory that they share. -/
structure Joint (α β : Type) where
  /-- What is left of the first run. -/
  first : Process α
  /-- What is left of the second run. -/
  second : Process β
  /-- The memory. -/
  memory : Memory

namespace Joint

variable (sinks sinks' : Sinks Memory)

/-- **Either run makes its next call.** -/
inductive Step : Joint α β → Joint α β → Prop where
  /-- The first run does. -/
  | first {process later : Process α} {memory after : Memory} (other : Process β)
      (h : process.Step sinks memory later after) :
      Step ⟨process, other, memory⟩ ⟨later, other, after⟩
  /-- The second run does. -/
  | second {process later : Process β} {memory after : Memory} (other : Process α)
      (h : process.Step sinks' memory later after) :
      Step ⟨other, process, memory⟩ ⟨other, later, after⟩

/-- **An interleaving**: the runs take turns as they like. -/
abbrev Interleaving : Joint α β → Joint α β → Prop := Relation.ReflTransGen (Step sinks sinks')

/-- **A joint run for two units.** -/
structure For (unit unit' : String) (joint : Joint α β) : Prop where
  /-- The first run is for the one. -/
  first : joint.first.For unit
  /-- The second run is for the other. -/
  second : joint.second.For unit'

/-- The memory when the first run is made to its end, and the second run after it. -/
def serial (joint : Joint α β) : Memory :=
  (joint.second.exec sinks' (joint.first.exec sinks joint.memory).2).2

/-- **Joint runs with the same outcome**: both runs give the same, and the serial memory is the
same. -/
structure Agrees (joint later : Joint α β) : Prop where
  /-- The first run gives the same, whatever the memory. -/
  first : ∀ alone, (joint.first.exec sinks alone).1 = (later.first.exec sinks alone).1
  /-- The second run gives the same, whatever the memory. -/
  second : ∀ alone, (joint.second.exec sinks' alone).1 = (later.second.exec sinks' alone).1
  /-- The serial memory has the same contents. -/
  serial : (joint.serial sinks sinks').Same (later.serial sinks sinks')

variable {sinks sinks'} {unit unit' : String} {joint mid later : Joint α β}

/-- A joint run agrees with itself. -/
theorem Agrees.refl (joint : Joint α β) : joint.Agrees sinks sinks' joint :=
  ⟨fun _ => rfl, fun _ => rfl, .refl _⟩

/-- Agreement composes. -/
theorem Agrees.trans (h : joint.Agrees sinks sinks' mid) (h' : mid.Agrees sinks sinks' later) :
    joint.Agrees sinks sinks' later :=
  ⟨fun alone => (h.first alone).trans (h'.first alone),
    fun alone => (h.second alone).trans (h'.second alone), h.serial.trans h'.serial⟩

/-- **A step keeps the outcome.** -/
theorem Step.agrees (h : sinks.Remembers) (h' : sinks'.Remembers) (hunits : unit ≠ unit')
    (hstep : joint.Step sinks sinks' later) (hfor : joint.For unit unit') :
    later.For unit unit' ∧ joint.Agrees sinks sinks' later := by
  cases hstep with
  | first other hstep =>
      obtain ⟨call, -, hlater, hafter, hexec⟩ := hstep.exists_call h hfor.first
      refine ⟨⟨hlater, hfor.second⟩, fun alone => ?_, fun _ => rfl, ?_⟩
      · rw [hexec]
        exact h.fst_exec _ _ _
      · rw [Joint.serial, Joint.serial, hexec, hafter]
        exact .refl _
  | second other hstep =>
      obtain ⟨call, hcall, hlater, hafter, hexec⟩ := hstep.exists_call h' hfor.second
      refine ⟨⟨hfor.first, hlater⟩, fun _ => rfl, fun alone => ?_, ?_⟩
      · rw [hexec]
        exact h'.fst_exec _ _ _
      · -- The call of the second run moves in front of what is left of the first.
        rw [Joint.serial, Joint.serial, hexec, hafter]
        exact h'.exec_congr _ (h.exec_handle_comm h' hunits hfor.first hcall _)

/-- **An interleaving keeps the outcome.** -/
theorem agrees_of_interleaving (h : sinks.Remembers) (h' : sinks'.Remembers)
    (hunits : unit ≠ unit') (hfor : joint.For unit unit')
    (hsteps : Interleaving sinks sinks' joint later) :
    later.For unit unit' ∧ joint.Agrees sinks sinks' later := by
  induction hsteps with
  | refl => exact ⟨hfor, .refl joint⟩
  | tail _ hstep ih =>
      obtain ⟨hmid, hagrees⟩ := ih
      obtain ⟨hlater, hagrees'⟩ := hstep.agrees h h' hunits hmid
      exact ⟨hlater, hagrees.trans hagrees'⟩

variable (sinks sinks') in
/-- A joint run goes on until both runs have ended. -/
theorem exists_step (joint : Joint α β) :
    (∃ result other, joint.first = .ended result ∧ joint.second = .ended other) ∨
      ∃ later, joint.Step sinks sinks' later := by
  obtain ⟨first, second, memory⟩ := joint
  rcases first.exists_step sinks memory with ⟨result, rfl⟩ | ⟨later, after, hstep⟩
  · rcases second.exists_step sinks' memory with ⟨other, rfl⟩ | ⟨later, after, hstep⟩
    · exact Or.inl ⟨result, other, rfl, rfl⟩
    · exact Or.inr ⟨_, .second _ hstep⟩
  · exact Or.inr ⟨_, .first second hstep⟩

variable (sinks sinks') in
/-- **No joint run goes on forever**, since each step leaves less of one run and all of the other. -/
theorem wellFounded_step :
    WellFounded fun later joint : Joint α β => joint.Step sinks sinks' later := by
  refine Subrelation.wf (fun hstep => ?_) (InvImage.wf (fun joint => (joint.first, joint.second))
    ((Process.wellFounded_step (α := α) sinks).prod_gameAdd
      (Process.wellFounded_step (α := β) sinks')))
  cases hstep with
  | first other h => exact .fst ⟨_, _, h⟩
  | second other h => exact .snd ⟨_, _, h⟩

end Joint

/-! ## Jobs that take turns -/

namespace Job

/-- The process of a job. -/
def process (job : Job) : Process (Except RunError RunReport) :=
  job.runner.process job.unit job.source job.now job.provider

/-- Making the calls of a job's process is the job. -/
theorem exec_process (job : Job) (memory : Memory) :
    job.process.exec job.runner.sinks memory = ((job.run memory).1, (job.run memory).2.sinks) :=
  Runner.exec_process job.unit job.source (job.stage memory)

/-- All calls of a job are for its unit. -/
theorem process_for (job : Job) : job.process.For job.unit :=
  job.runner.process_for job.unit job.source job.now job.provider

/-- Two jobs that have not begun, on a memory. -/
def begun (first second : Job) (memory : Memory) :
    Joint (Except RunError RunReport) (Except RunError RunReport) :=
  ⟨first.process, second.process, memory⟩

/-- Either of two jobs makes its next call. -/
abbrev Step (first second : Job) :=
  Joint.Step (α := Except RunError RunReport) (β := Except RunError RunReport)
    first.runner.sinks second.runner.sinks

/-- **What two jobs can reach** when they take turns on a memory as they like. -/
abbrev Reachable (first second : Job) (memory : Memory) :=
  Relation.ReflTransGen (first.Step second) (begun first second memory)

/-- **What becomes of two jobs that take turns** on a memory. -/
structure Interleaved (first second : Job) (memory : Memory) : Prop where
  /-- They do not go on forever. -/
  ends : Acc (fun later joint => first.Step second joint later) (begun first second memory)
  /-- They go on until both have ended. -/
  goesOn : ∀ joint, Reachable first second memory joint →
    (∃ result other, joint.first = .ended result ∧ joint.second = .ended other) ∨
      ∃ later, first.Step second joint later
  /-- When the first job has ended, it reports what it reports alone, on whatever memory. -/
  reportsFirst : ∀ joint, Reachable first second memory joint →
    ∀ result, joint.first = .ended result → ∀ alone, result = (first.run alone).1
  /-- When the second job has ended, it reports what it reports alone, on whatever memory. -/
  reportsSecond : ∀ joint, Reachable first second memory joint →
    ∀ result, joint.second = .ended result → ∀ alone, result = (second.run alone).1
  /-- When both have ended, the memory has the contents that it has when one job is made after the
  other. -/
  serial : ∀ joint, Reachable first second memory joint →
    ∀ result other, joint.first = .ended result → joint.second = .ended other →
      joint.memory.Same (memoryAfter [first, second] memory) ∧
        joint.memory.Same (memoryAfter [second, first] memory)

/-- Two jobs for different units may be made in either order. -/
theorem memoryAfter_comm (first second : Job) (hunits : first.unit ≠ second.unit)
    (memory : Memory) :
    (memoryAfter [first, second] memory).Same (memoryAfter [second, first] memory) := by
  have hcomm := first.remembers.exec_comm second.remembers hunits first.process_for
    second.process_for memory
  simpa only [exec_process, memoryAfter] using hcomm

/-- **Two jobs for different units may take turns as they like**: in the end the memory has the
contents that it has after one and then the other, in either order, and each reports what it reports
alone. -/
theorem interleaved (first second : Job) (hunits : first.unit ≠ second.unit) (memory : Memory) :
    Interleaved first second memory := by
  have hfor : (begun first second memory).For first.unit second.unit :=
    ⟨first.process_for, second.process_for⟩
  have hagrees {joint} (hsteps : Reachable first second memory joint) :=
    (Joint.agrees_of_interleaving first.remembers second.remembers hunits hfor hsteps).2
  refine ⟨(Joint.wellFounded_step _ _).apply _, fun joint _ => joint.exists_step _ _,
    fun joint hsteps result hended alone => ?_, fun joint hsteps result hended alone => ?_,
    fun joint hsteps result other hended hended' => ?_⟩
  · have hfirst := (hagrees hsteps).first alone
    rw [hended, begun, exec_process] at hfirst
    exact hfirst.symm
  · have hsecond := (hagrees hsteps).second alone
    rw [hended, begun, exec_process] at hsecond
    exact hsecond.symm
  · have hserial := (hagrees hsteps).serial.symm
    rw [Joint.serial, Joint.serial, hended, hended', begun, exec_process, exec_process] at hserial
    have hmemory : joint.memory.Same (memoryAfter [first, second] memory) := hserial
    exact ⟨hmemory, hmemory.trans (memoryAfter_comm first second hunits memory)⟩

/-- A job that asks once for the report of a unit, and gets an answer. -/
def ofAnswer (unit : String) (answer : Answer Reply) : Job where
  State := Script
  runner := ⟨{}, ⟨Script.provider "scripted", "none", none, .ofAttempts 1 0⟩, Memory.sinks,
    { enabledTasks := [.report] }, true⟩
  remembers := Memory.remembers_sinks
  unit := unit
  source := "Plants turn light into sugar."
  now := 0
  provider := ⟨[⟨answer, 0⟩], []⟩

/-- A report that succeeds takes turns with one that fails: material of the one and a mark of the
other are left. -/
theorem interleaved_success_failure :
    let botany := ofAnswer "botany" (.ok ⟨"Leaves are green.", "none", none⟩)
    let physics := ofAnswer "physics" (.error (.network "no route"))
    botany.unit ≠ physics.unit ∧ Interleaved botany physics {} ∧
      (memoryAfter [botany, physics] {}).results.get? ("botany", .report) =
        some (.freeText "Leaves are green.") ∧
      (memoryAfter [botany, physics] {}).failures.get? ("physics", .report) =
        some "transport: Network error: no route" :=
  ⟨by decide, interleaved _ _ (by decide) {}, by decide +kernel, by decide +kernel⟩

end Job

end Courseware
