import Courseware.Response.Alias

/-! # Flashcards in a response

`Response.flashcard` makes a card of an item that has a question and an answer. -/

namespace Courseware.Response

/-- The value of an option, or a defect in its place. -/
def orDefect {α : Type} (defect : ItemDefect) : Option α → Except ItemDefect α
  | some a => .ok a
  | none => .error defect

/-- The card of an item. -/
def flashcard (json : Json) : Except ItemDefect Flashcard := do
  let item ← itemMembers json
  let question ← orDefect .missingQuestion (textField cardQuestionAliases item)
  let answer ← orDefect .missingAnswer (textField cardAnswerAliases item)
  return ⟨question, answer, difficulty item⟩

end Courseware.Response
