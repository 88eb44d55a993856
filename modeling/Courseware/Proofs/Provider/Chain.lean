import Mathlib.Algebra.GroupWithZero.Nat
import Courseware.Provider.Chain

/-! # The calls of a chain

A chain calls its members one after the other, all with the same request, until one of them answers
in time. A **pass** (`Pass`) says which members are called, when the calls start, when they stop, and
what comes of them:

* **`Pass.of_inTime`** — a member that answers in time ends the pass;
* **`Pass.cons`** — a call that fails goes before a pass through the members behind it;
* **`generate_passes`** — every request to a chain makes a pass through its members. -/

namespace Courseware.Chain

variable {σ : Type}

/-! ## Calls -/

/-- **A call to a member of a chain**, with its answer. -/
structure Call (σ : Type) where
  /-- The member that is called. -/
  member : Member σ
  /-- When it is called. -/
  start : Nat
  /-- What it is asked. -/
  request : Request
  /-- What it answers and how long that takes, if the answer ever comes. -/
  answer : Option (Time.After (Answer Reply))

namespace Call

/-- **The time that a call takes up**: until the answer comes, but no longer than the span of the
member. -/
def spent (call : Call σ) : Nat :=
  match call.answer with
  | some answer => min answer.took call.member.timeout
  | none => call.member.timeout

/-- **An answer that comes in time**: at the very end of the span of the member at the latest. -/
def InTime (call : Call σ) (value : Answer Reply) : Prop :=
  ∃ answer, call.answer = some answer ∧ answer.took ≤ call.member.timeout ∧ answer.value = value

/-- **A call that fails**, and its error: the member's own one, or else that the member ran out of
time. -/
def Fails (call : Call σ) (e : ProviderError) : Prop :=
  call.InTime (.error e) ∨
    (∀ value, ¬ call.InTime value) ∧
      e = .timeout ("Provider '" ++ call.member.name ++ "' timed out after "
        ++ toString (Time.seconds call.member.timeout) ++ "s")

/-- What is heard of a call takes as long as the call takes up. -/
theorem took_within (call : Call σ) :
    (Time.within call.member.timeout call.answer).took = call.spent := by
  unfold spent Time.within
  cases call.answer with
  | none => rfl
  | some answer =>
      by_cases htime : answer.took ≤ call.member.timeout
      · simp [htime]
      · simp [htime, Nat.min_eq_right (Nat.le_of_not_le htime)]

/-- What is heard of a call is the answer that comes in time. -/
theorem value_within_eq_some_iff {call : Call σ} {value : Answer Reply} :
    (Time.within call.member.timeout call.answer).value = some value ↔ call.InTime value := by
  unfold InTime Time.within
  cases call.answer with
  | none => simp
  | some answer =>
      by_cases htime : answer.took ≤ call.member.timeout
      · simp [htime]
      · simp [htime]

/-- There is one answer in time at most. -/
theorem InTime.unique {call : Call σ} {a b : Answer Reply} (ha : call.InTime a)
    (hb : call.InTime b) : a = b := by
  have hsame := (value_within_eq_some_iff.mpr ha).symm.trans (value_within_eq_some_iff.mpr hb)
  exact Option.some.inj hsame

/-- A call that fails brings no reply in time. -/
theorem Fails.not_inTime_ok {call : Call σ} {e : ProviderError} (h : call.Fails e) (reply : Reply) :
    ¬ call.InTime (.ok reply) := by
  intro hreply
  rcases h with hown | ⟨hnone, -⟩
  · cases hown.unique hreply
  · exact hnone _ hreply

end Call

/-! ## Passes -/

/-- **A pass through members of a chain** that begins at `start`, when `last` is the error of the
member before them: the calls that are made, and what comes of them. -/
structure Pass (members : List (Member σ)) (request : Request) (start : Nat) (last : ProviderError)
    (calls : List (Call σ)) (ended : Time.After (Answer Reply)) : Prop where
  /-- The members are called in order, each once, up to some member. -/
  inOrder : calls.map (·.member) <+: members
  /-- All are asked the same. -/
  requests : ∀ call ∈ calls, call.request = request
  /-- A call starts when the calls before it are over. -/
  starts : ∀ i (_ : i < calls.length),
    calls[i].start = start + ((calls.take i).map (·.spent)).sum
  /-- The time is that of the calls. -/
  took : ended.took = (calls.map (·.spent)).sum
  /-- A reply in time ends the pass, and it is the answer. -/
  answered : ∀ i (_ : i < calls.length) reply, calls[i].InTime (.ok reply) →
    calls.length = i + 1 ∧ ended.value = .ok reply
  /-- When no reply comes in time all members are called, and the error is that of the last one. -/
  failed : (∀ call ∈ calls, ∀ reply, ¬ call.InTime (.ok reply)) →
    calls.map (·.member) = members ∧
      ((calls = [] ∧ ended.value = .error last) ∨
        ∃ call e, calls.getLast? = some call ∧ call.Fails e ∧ ended.value = .error e)

section Pass

variable {members : List (Member σ)} {request : Request} {start : Nat} {last : ProviderError}
  {call : Call σ}

/-- A pass through no members calls none. -/
theorem pass_nil : Pass ([] : List (Member σ)) request start last [] ⟨.error last, 0⟩ where
  inOrder := List.nil_prefix
  requests := by simp
  starts i hi := absurd hi (Nat.not_lt_zero i)
  took := rfl
  answered i hi := absurd hi (Nat.not_lt_zero i)
  failed _ := ⟨rfl, Or.inl ⟨rfl, rfl⟩⟩

/-- **A member that answers in time** ends the pass. -/
theorem Pass.of_inTime {reply : Reply} (hstart : call.start = start)
    (hrequest : call.request = request) (h : call.InTime (.ok reply)) :
    Pass (call.member :: members) request start last [call] ⟨.ok reply, call.spent⟩ where
  inOrder := ⟨members, rfl⟩
  requests := by simpa using hrequest
  starts i hi := by
    obtain rfl : i = 0 := by simpa using hi
    simpa using hstart
  took := by simp
  answered i hi found hfound := by
    obtain rfl : i = 0 := by simpa using hi
    have hsame : Except.ok found = Except.ok reply := hfound.unique h
    exact ⟨rfl, congrArg Except.ok (Except.ok.inj hsame).symm⟩
  failed hnone := absurd h (hnone call (List.mem_singleton_self call) reply)

/-- **A call that fails before a pass** extends it. The pass begins when the call is over, and its
error counts as long as no other call fails. -/
theorem Pass.cons {e : ProviderError} {calls : List (Call σ)} {ended : Time.After (Answer Reply)}
    (hstart : call.start = start) (hrequest : call.request = request) (hfails : call.Fails e)
    (h : Pass members request (start + call.spent) e calls ended) :
    Pass (call.member :: members) request start last (call :: calls)
      ⟨ended.value, call.spent + ended.took⟩ where
  inOrder := List.cons_prefix_cons.mpr ⟨rfl, h.inOrder⟩
  requests := List.forall_mem_cons.mpr ⟨hrequest, h.requests⟩
  starts i hi := by
    cases i with
    | zero => simpa using hstart
    | succ i =>
        have hnext := h.starts i (by simpa using hi)
        simp only [List.getElem_cons_succ, List.take_succ_cons, List.map_cons, List.sum_cons]
        omega
  took := by
    rw [List.map_cons, List.sum_cons, h.took]
  answered i hi reply hreply := by
    cases i with
    | zero => exact absurd hreply (hfails.not_inTime_ok reply)
    | succ i =>
        obtain ⟨hlength, hvalue⟩ := h.answered i (by simpa using hi) reply hreply
        exact ⟨congrArg Nat.succ hlength, hvalue⟩
  failed hnone := by
    obtain ⟨hall, hlast⟩ := h.failed fun other hmem => hnone other (List.mem_cons_of_mem call hmem)
    refine ⟨congrArg (call.member :: ·) hall, Or.inr ?_⟩
    rcases hlast with ⟨rfl, hvalue⟩ | ⟨other, error, hother, herror, hvalue⟩
    · -- No call follows, so this one is the last.
      exact ⟨call, e, rfl, hfails, hvalue⟩
    · refine ⟨other, error, ?_, herror, hvalue⟩
      rw [List.getLast?_cons, hother, Option.getD_some]

end Pass

/-! ## The pass of every request -/

/-- **A member whose calls are recorded** next to its own state, in the order in which they are
made. -/
def recordedMember (member : Member σ) : Member (σ × List (Call σ)) where
  name := member.name
  timeout := member.timeout
  generate now request state :=
    let (answer, next) := member.generate now request state.1
    (answer, next, state.2 ++ [⟨member, now, request, answer⟩])
  checkHealth now state :=
    let (answer, next) := member.checkHealth now state.1
    (answer, next, state.2)
  listModels now state :=
    let (answer, next) := member.listModels now state.1
    (answer, next, state.2)

/-- **A chain whose calls are recorded.** -/
def recorded (chain : Chain σ) : Chain (σ × List (Call σ)) where
  name := chain.name
  members := chain.members.map recordedMember

section Step

variable {member : Member σ} {members : List (Member σ)} {request : Request}
  {last e : ProviderError} {now : Nat} {state next : σ}
  {answer : Option (Time.After (Answer Reply))}

/-- A recorded member answers like the member and keeps the call. -/
theorem recordedMember_generate (log : List (Call σ))
    (h : member.generate now request state = (answer, next)) :
    (recordedMember member).generate now request (state, log) =
      (answer, next, log ++ [⟨member, now, request, answer⟩]) := by
  simp only [recordedMember, h]

/-- A call to a recorded member takes up as much time. -/
theorem spent_recordedMember :
    (⟨recordedMember member, now, request, answer⟩ : Call (σ × List (Call σ))).spent =
      (⟨member, now, request, answer⟩ : Call σ).spent := rfl

/-- A reply in time is the answer of the chain. -/
theorem tryMembers_of_inTime {reply : Reply}
    (hcall : member.generate now request state = (answer, next))
    (h : (⟨member, now, request, answer⟩ : Call σ).InTime (.ok reply)) :
    tryMembers request (member :: members) last now state =
      (⟨.ok reply, (⟨member, now, request, answer⟩ : Call σ).spent⟩, next) := by
  have hvalue := Call.value_within_eq_some_iff.mpr h
  have htook := Call.took_within (⟨member, now, request, answer⟩ : Call σ)
  rw [tryMembers]
  simp only [hcall]
  rw [hvalue, htook]

/-- A call that fails is followed by the members behind it. -/
theorem tryMembers_of_fails (hcall : member.generate now request state = (answer, next))
    (h : (⟨member, now, request, answer⟩ : Call σ).Fails e) :
    tryMembers request (member :: members) last now state =
      let spent := (⟨member, now, request, answer⟩ : Call σ).spent
      let (later, final) := tryMembers request members e (now + spent) next
      (⟨later.value, spent + later.took⟩, final) := by
  have htook := Call.took_within (⟨member, now, request, answer⟩ : Call σ)
  rw [tryMembers]
  simp only [hcall]
  rcases h with hown | ⟨hnone, rfl⟩
  · rw [Call.value_within_eq_some_iff.mpr hown, htook]
  · -- Nothing is heard, since what is heard would have come in time.
    have hvalue : (Time.within member.timeout answer).value = none := by
      cases hheard : (Time.within member.timeout answer).value with
      | none => rfl
      | some value => exact absurd (Call.value_within_eq_some_iff.mp hheard) (hnone value)
    rw [hvalue, htook]
    rfl

/-- A call brings a reply in time, or it fails. -/
theorem Call.inTime_or_fails (call : Call σ) :
    (∃ reply, call.InTime (.ok reply)) ∨ ∃ e, call.Fails e := by
  cases hheard : (Time.within call.member.timeout call.answer).value with
  | none =>
      refine Or.inr ⟨_, Or.inr ⟨fun value hvalue => ?_, rfl⟩⟩
      rw [Call.value_within_eq_some_iff.mpr hvalue] at hheard
      cases hheard
  | some value =>
      have hvalue := Call.value_within_eq_some_iff.mp hheard
      cases value with
      | ok reply => exact Or.inl ⟨reply, hvalue⟩
      | error e => exact Or.inr ⟨e, Or.inl hvalue⟩

end Step

/-- Trying members makes a pass through them, and recording them shows its calls. -/
theorem exists_pass (request : Request) (members : List (Member σ)) (last : ProviderError)
    (now : Nat) (state : σ) (log : List (Call σ)) :
    ∃ calls ended final,
      tryMembers request members last now state = (ended, final) ∧
      tryMembers request (members.map recordedMember) last now (state, log) =
        (ended, final, log ++ calls) ∧
      Pass members request now last calls ended := by
  induction members generalizing last now state log with
  | nil =>
      refine ⟨[], ⟨.error last, 0⟩, state, rfl, ?_, pass_nil⟩
      rw [List.append_nil]
      rfl
  | cons member members ih =>
      obtain ⟨answer, next, hcall⟩ :
          ∃ answer next, member.generate now request state = (answer, next) := ⟨_, _, rfl⟩
      have hlogged := recordedMember_generate log hcall
      let call : Call σ := ⟨member, now, request, answer⟩
      rcases call.inTime_or_fails with ⟨reply, hreply⟩ | ⟨e, hfails⟩
      · refine ⟨[call], _, next, tryMembers_of_inTime hcall hreply, ?_,
          Pass.of_inTime rfl rfl hreply⟩
        exact tryMembers_of_inTime hlogged hreply
      · -- The members behind the one that fails make a pass, which the call extends.
        obtain ⟨calls, ended, final, htry, hlog, hpass⟩ :=
          ih e (now + call.spent) next (log ++ [call])
        refine ⟨call :: calls, _, final, ?_, ?_, Pass.cons rfl rfl hfails hpass⟩
        · rw [tryMembers_of_fails hcall hfails]
          simp only [call] at htry ⊢
          rw [htry]
        · rw [List.append_assoc, List.singleton_append] at hlog
          rw [List.map_cons, tryMembers_of_fails hlogged hfails]
          simp only [call] at hlog ⊢
          rw [spent_recordedMember, hlog]

/-- **Every request to a chain makes a pass** through its members, from the time at which it is
made, whatever the members do. A chain without members is not configured. -/
theorem generate_passes (chain : Chain σ) (now : Nat) (request : Request) (state : σ) :
    ∃ calls ended final,
      chain.generate now request state = (ended, final) ∧
      chain.recorded.generate now request (state, []) = (ended, final, calls) ∧
      Pass chain.members request now noMembers calls ended := by
  obtain ⟨calls, ended, final, htry, hlog, hpass⟩ :=
    exists_pass request chain.members noMembers now state []
  exact ⟨calls, ended, final, htry, hlog, hpass⟩

end Courseware.Chain
