import Courseware.Json.Record
import Courseware.Provider.Basic

/-! # Requests and replies as JSON

Values that are missing are left out when writing, and a missing temperature is read as `0.7`. -/

namespace Courseware

open Json

/-- The temperature of a request that gives none. -/
def defaultTemperature : Float32 := 0.7

/-- A float of 32 bits as JSON. -/
def Json.single (x : Float32) : Json := .number (.real x.toFloat)

namespace Request

/-- A request as JSON. -/
def toJson (request : Request) : Json :=
  .object ([("model", .string request.model)]
    ++ unlessNone "system" Json.string request.system
    ++ [("prompt", .string request.prompt), ("temperature", single request.temperature)]
    ++ unlessNone "max_tokens" Json.nat request.maxTokens)

/-- Reads a request. -/
def ofJson? (json : Json) : Option Request := do
  match ← fields? ["model", "system", "prompt", "temperature", "max_tokens"] json with
  | [model, system, prompt, temperature, maxTokens] =>
    return ⟨← required string? model, ← nullable string? system, ← required string? prompt,
      ← withDefault defaultTemperature float32? temperature, ← nullable word? maxTokens⟩
  | _ => none

end Request

namespace Usage

/-- Token counts as JSON. -/
def toJson (usage : Usage) : Json :=
  .object [("prompt_tokens", .nat usage.promptTokens),
    ("completion_tokens", .nat usage.completionTokens), ("total_tokens", .nat usage.totalTokens)]

/-- Reads token counts. -/
def ofJson? (json : Json) : Option Usage := do
  match ← fields? ["prompt_tokens", "completion_tokens", "total_tokens"] json with
  | [prompt, completion, total] =>
    return ⟨← required word? prompt, ← required word? completion, ← required word? total⟩
  | _ => none

end Usage

namespace Reply

/-- A reply as JSON. -/
def toJson (reply : Reply) : Json :=
  .object ([("text", .string reply.text), ("model", .string reply.model)]
    ++ unlessNone "usage" Usage.toJson reply.usage)

/-- Reads a reply. -/
def ofJson? (json : Json) : Option Reply := do
  match ← fields? ["text", "model", "usage"] json with
  | [text, model, usage] =>
    return ⟨← required string? text, ← required string? model, ← nullable Usage.ofJson? usage⟩
  | _ => none

end Reply

end Courseware
