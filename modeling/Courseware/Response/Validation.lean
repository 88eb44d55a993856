import Courseware.Response.Quiz
import Courseware.Response.MindMap

/-! # Validation of responses

`Response.validate` turns the response to a task into study material, or says why it cannot. In a
collection bad items are dropped and counted; a collection without a good item is refused. -/

namespace Courseware

/-- How many items of a collection were good. -/
structure Batch where
  /-- The good ones. -/
  accepted : Nat
  /-- The bad ones. -/
  dropped : Nat
  /-- How many were asked for, if a number was given. -/
  requested : Option Nat
  deriving DecidableEq, Repr

/-- Whether items were dropped, or fewer came than asked for. -/
def Batch.isShort (batch : Batch) : Bool :=
  0 < batch.dropped || batch.requested.any (batch.accepted < ·)

/-- A sound response. -/
structure Validated where
  /-- The material. -/
  material : Material
  /-- How the items fared, for a collection. -/
  batch : Option Batch
  deriving DecidableEq, Repr

namespace Response

open Json Text

/-- The material of a response in free text. -/
def freeText (raw : String) : Except ValidationError Material :=
  let body := trimmed raw
  if body = "" then .error .empty else .ok (.freeText body)

/-- The array of a collection, bare or under one of its names. -/
def collection (json : Json) : Except ValidationError (List Json) :=
  match json with
  | .array items => .ok items
  | .object item =>
    match collectionNames.findSome? fun name => (find? name item).bind array? with
    | some items => .ok items
    | none => .error (.wrongShape "items" "an array")
  | _ => .error (.wrongShape "items" "an array")

/-- The good ones among items, and how many were good and bad. -/
def collect {α : Type} (normalize : Json → Except ItemDefect α) (requested : Option Nat)
    (items : List Json) : Except ValidationError (List α × Batch) :=
  let good := items.filterMap fun item => (normalize item).toOption
  let dropped := items.length - good.length
  if good.isEmpty then .error (.noValidItems dropped)
  else .ok (good, ⟨good.length, dropped, requested⟩)

/-- The material of a response that is a collection. -/
def collected {α : Type} (normalize : Json → Except ItemDefect α) (material : List α → Material)
    (raw : String) (requested : Option Nat) : Except ValidationError Validated := do
  let json ← extract raw.toList
  let items ← collection json
  let (good, batch) ← collect normalize requested items
  return ⟨material good, some batch⟩

/-- The material of the response to a task. -/
def validate (task : Task) (raw : String) (requested : Option Nat) :
    Except ValidationError Validated :=
  match task with
  | .mindmap => do return ⟨← mindMap (← extract raw.toList), none⟩
  | .flashcard => collected flashcard .flashcards raw requested
  | .quiz => collected question .questions raw requested
  | .podcast | .video | .report | .unknown => do return ⟨← freeText raw, none⟩

end Response

end Courseware
