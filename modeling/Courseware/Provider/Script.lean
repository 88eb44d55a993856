import Courseware.Provider.Basic

/-! # Scripted providers

A scripted provider gives prepared answers in order, the last one again and again, and keeps the
calls it got. Without prepared answers it is not configured. -/

namespace Courseware

/-- A prepared answer. -/
structure Script.Entry where
  /-- The answer. -/
  answer : Answer Reply
  /-- How long it takes. -/
  delay : Nat

/-- A call that was made. -/
structure Script.Call where
  /-- When it was made. -/
  start : Nat
  /-- The request. -/
  request : Request

/-- The state of a scripted provider. -/
structure Script where
  /-- The prepared answers that are left. -/
  queue : List Script.Entry
  /-- The calls made so far, the last one first. -/
  calls : List Script.Call

namespace Script

/-- The queue after one answer was taken: its last answer stays. -/
def remaining : List Entry → List Entry
  | _ :: next :: rest => next :: rest
  | queue => queue

/-- The next answer. -/
def respond (now : Nat) (request : Request) (script : Script) :
    Time.After (Answer Reply) × Script :=
  let called : Script := ⟨remaining script.queue, ⟨now, request⟩ :: script.calls⟩
  match script.queue with
  | [] => (⟨.error (.notConfigured "no scripted reply"), 0⟩, called)
  | entry :: _ => (⟨entry.answer, entry.delay⟩, called)

/-- The provider that answers by the script. -/
def provider (name : String) : Provider Script where
  name := name
  generate := respond

end Script

end Courseware
