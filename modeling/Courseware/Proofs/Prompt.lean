import Courseware.Prompt
import Courseware.Proofs.Text.Split

/-! # Contexts in prompts

The instructions of a known task are one line, whatever number of items stands in them
(`newline_not_mem_instructions`), and the separator begins with a newline. So the first separator
of a prompt is the one behind the instructions, also when the context has separators of its own,
and the context can be read off the prompt (`splitOnce?_build`). -/

namespace Courseware.Prompt

open Text

/-- How many items a request asks for. -/
def itemCount (request : GenerationRequest) : Nat :=
  request.options.itemCount.getD defaultItemCount

/-- A number is written without a newline. -/
theorem newline_not_mem_toString (n : Nat) : '\n' ∉ (toString n).toList := by
  intro h
  have hdigits : '\n' ∈ Nat.toDigits 10 n := by simpa using h
  exact absurd (Nat.isDigit_of_mem_toDigits (by decide) (by decide) hdigits) (by decide)

/-- A text given by its characters lacks each character that is none of them. -/
theorem not_mem_toList_ofList {c : Char} {cs : List Char} (h : cs.contains c = false) :
    c ∉ (String.ofList cs).toList := by
  simpa using h

/-- **Instructions are one line.** -/
theorem newline_not_mem_instructions {count : Nat} {task : Task} {text : String}
    (h : instructions count task = some text) : '\n' ∉ text.toList := by
  have hcount := newline_not_mem_toString count
  cases task with
  | mindmap | podcast | video | report | flashcard | quiz =>
      cases h
      simp only [String.toList_append, List.mem_append, not_or, hcount, not_false_eq_true, and_true]
      -- What is left are the literals.
      and_intros <;> exact not_mem_toList_ofList rfl
  | unknown => cases h

/-- Every known task has instructions. -/
theorem exists_instructions {task : Task} (h : task.isKnown = true) (count : Nat) :
    ∃ text, instructions count task = some text := by
  cases task with
  | unknown => cases h
  | _ => exact ⟨_, rfl⟩

/-- **The first separator** behind a line is the one at its end. -/
theorem splitOnce?_separator {line : List Char} (h : '\n' ∉ line) (context : List Char) :
    splitOnce? separator.toList (line ++ (separator.toList ++ context)) = some (line, context) := by
  have hseparator : separator.toList = '\n' :: "\nContent:\n".toList := by decide
  rw [hseparator, splitOnce?_append_left h, splitOnce?_pattern]
  simp

/-- The prompt of a task with instructions. -/
theorem build_of_instructions {request : GenerationRequest} {text : String}
    (h : instructions (itemCount request) request.task = some text) :
    build request = text ++ separator ++ request.context := by
  rw [itemCount] at h
  rw [build, h]

/-- Splitting a prompt at the first separator gives the instructions and the context. -/
theorem splitOnce?_build_of_instructions {request : GenerationRequest} {text : String}
    (h : instructions (itemCount request) request.task = some text) :
    splitOnce? separator.toList (build request).toList =
      some (text.toList, request.context.toList) := by
  rw [build_of_instructions h, String.toList_append, String.toList_append, List.append_assoc]
  exact splitOnce?_separator (newline_not_mem_instructions h) _

/-- Requests that ask for the same and have the same prompt have the same context. -/
theorem context_eq_of_build_eq {request other : GenerationRequest}
    (htask : other.task = request.task) (hcount : itemCount other = itemCount request)
    (h : build other = build request) : other.context = request.context := by
  cases hinstructions : instructions (itemCount request) request.task with
  | none =>
      have hother : instructions (itemCount other) other.task = none := by
        rw [htask, hcount, hinstructions]
      rw [itemCount] at hinstructions hother
      rwa [build, build, hinstructions, hother] at h
  | some text =>
      have hother : instructions (itemCount other) other.task = some text := by
        rw [htask, hcount, hinstructions]
      have hsplit := splitOnce?_build_of_instructions hother
      rw [h, splitOnce?_build_of_instructions hinstructions] at hsplit
      simpa [String.toList_inj, eq_comm] using hsplit

/-- **The context can be read off a prompt.** For a known task, splitting at the first separator
gives the instructions and exactly the context. The unknown task has the context as its prompt. So
different contexts give different prompts, as long as the same is asked for. -/
theorem splitOnce?_build (request : GenerationRequest) :
    (request.task.isKnown = true →
      ∃ text, instructions (itemCount request) request.task = some text ∧
        splitOnce? separator.toList (build request).toList =
          some (text.toList, request.context.toList)) ∧
    (request.task = .unknown → build request = request.context) ∧
    ∀ other : GenerationRequest, other.task = request.task → itemCount other = itemCount request →
      other.context ≠ request.context → build other ≠ build request := by
  refine ⟨fun hknown => ?_, fun hunknown => ?_, fun other htask hcount hne heq => ?_⟩
  · obtain ⟨text, htext⟩ := exists_instructions hknown (itemCount request)
    exact ⟨text, htext, splitOnce?_build_of_instructions htext⟩
  · rw [build, hunknown]
    rfl
  · exact hne (context_eq_of_build_eq htask hcount heq)

/-- A context that begins with the end of a separator and has a whole one in it. -/
theorem splitOnce?_build_twice :
    let request : GenerationRequest :=
      ⟨.quiz, "Content:\nA\n\nContent:\nB", { itemCount := some 7 }⟩
    let other : GenerationRequest := ⟨.quiz, "B", { itemCount := some 7, maxTokens := 9 }⟩
    let unknown : GenerationRequest := ⟨.unknown, "\n\nContent:\n", {}⟩
    (∃ text, instructions 7 .quiz = some text ∧
      splitOnce? separator.toList (build request).toList =
        some (text.toList, "Content:\nA\n\nContent:\nB".toList)) ∧
    build other ≠ build request ∧ build unknown = "\n\nContent:\n" := by
  intro request other unknown
  obtain ⟨hknown, -, hother⟩ := splitOnce?_build request
  exact ⟨hknown rfl, hother other rfl rfl (by decide), (splitOnce?_build unknown).2.1 rfl⟩

end Courseware.Prompt
