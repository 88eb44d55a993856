import Courseware.Task

/-! # Keywords

Words and phrases that mark a passage as useful for a task. A task without keywords is scored by
length and sentences alone. -/

namespace Courseware.Task

/-- The keywords of a task, in lower case. -/
def keywords : Task → List String
  | mindmap =>
    ["concept", "relationship", "key", "main", "topic", "idea", "principle", "theory", "definition",
     "category", "type", "classification", "structure"]
  | flashcard =>
    ["definition", "term", "important", "remember", "key", "concept", "fact", "meaning", "describe",
     "explain", "what is", "who is", "when", "where"]
  | quiz =>
    ["fact", "process", "explain", "describe", "how", "why", "what", "which", "correct",
     "incorrect", "true", "false", "example", "demonstrate", "show"]
  | report =>
    ["summary", "analysis", "conclusion", "finding", "result", "evidence", "data", "research",
     "study", "investigation", "overview", "detail"]
  | podcast =>
    ["story", "narrative", "explain", "discuss", "explore", "understand", "learn", "discover",
     "journey", "example", "case", "scenario", "context"]
  | video =>
    ["visual", "show", "demonstrate", "illustrate", "example", "diagram", "chart", "graph", "image",
     "picture", "scene", "display", "present"]
  | unknown => []

/-- How many chunks make up the context of a task: broad and narrative tasks take more than tasks
that ask and answer. -/
def maxChunks : Task → Nat
  | report => 8
  | mindmap | podcast | video => 6
  | flashcard | quiz | unknown => 5

/-- Every task takes at least one chunk. -/
theorem maxChunks_pos (task : Task) : 0 < task.maxChunks := by cases task <;> decide

end Courseware.Task
