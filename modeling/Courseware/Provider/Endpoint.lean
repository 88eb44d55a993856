import Courseware.Text.Blank
import Courseware.Text.Whole
import Courseware.Json.Parser
import Courseware.Json.Printer
import Courseware.Provider.Chain
import Courseware.Provider.Url
import Courseware.Provider.Wire

/-! # Chat endpoints

An **endpoint** is a provider behind a web address that takes chat completions. A request becomes
one exchange of messages: an optional system message, and the prompt. `Endpoint.provider` is the
endpoint as a provider over any network. -/

namespace Courseware

/-- A request to a web server. -/
structure WebRequest where
  /-- The method. -/
  method : String
  /-- The address. -/
  url : String
  /-- The authorization. -/
  authorization : String
  /-- The type of the body, if there is one. -/
  contentType : Option String
  /-- The body. -/
  body : Option String
  deriving DecidableEq, Repr

/-- The response of a web server. -/
structure WebResponse where
  /-- The status. -/
  status : Nat
  /-- After how long to ask again, as it was written. -/
  retryAfter : Option String
  /-- The body. -/
  body : String
  deriving DecidableEq, Repr

/-- What comes of a request. -/
inductive Exchange where
  /-- A response. -/
  | response (r : WebResponse)
  /-- The server is not reached. -/
  | unreachable
  /-- No response came in time. -/
  | timedOut
  deriving DecidableEq, Repr

/-- A network with a state `ν`: it is told the time, the span within which a response must come, and
the request. -/
abbrev Network (ν : Type) := Nat → Nat → WebRequest → ν → Time.After Exchange × ν

/-- A network in which no server is reached. -/
def Network.offline : Network Unit := fun _ _ _ state => (⟨.unreachable, 0⟩, state)

/-- A provider behind an address. -/
structure Endpoint where
  /-- The name of the provider. -/
  name : String
  /-- The address, without slashes at its end. -/
  baseUrl : String
  /-- The key. -/
  apiKey : String
  /-- The span within which a response must come. -/
  timeout : Nat := defaultTimeout
  deriving DecidableEq, Repr

namespace Endpoint

/-- A text without slashes at its end. -/
def trimSlashes (s : String) : String :=
  String.ofList (s.toList.reverse.dropWhile (· == '/')).reverse

/-- The endpoint at an address. -/
def atUrl (name url apiKey : String) : Endpoint := ⟨name, trimSlashes url, apiKey, defaultTimeout⟩

/-- The address of a service of an endpoint. -/
def url (endpoint : Endpoint) (service : String) : String := endpoint.baseUrl ++ service

/-- The address for completions. -/
def completionsUrl (endpoint : Endpoint) : String := endpoint.url "/chat/completions"

/-- The address for the list of models. -/
def modelsUrl (endpoint : Endpoint) : String := endpoint.url "/models"

/-- The well-known address of a provider, or one made of its name. -/
def knownUrl (name : String) : String :=
  match name with
  | "openrouter" => "https://openrouter.ai/api/v1"
  | "openai" => "https://api.openai.com/v1"
  | "ollama" => "http://localhost:11434/v1"
  | "deepseek" => "https://api.deepseek.com/v1"
  | "groq" => "https://api.groq.com/openai/v1"
  | "together" => "https://api.together.xyz/v1"
  | "vllm" => "http://localhost:8000/v1"
  | "llamacpp" | "llama.cpp" => "http://localhost:8080/v1"
  | _ => "https://" ++ name ++ ".api.example.com/v1"

/-- The endpoint of the provider `openrouter`. -/
def openrouter (apiKey : String) : Endpoint := atUrl "openrouter" (knownUrl "openrouter") apiKey

/-- The endpoint of the provider `openai`. -/
def openai (apiKey : String) : Endpoint := atUrl "openai" (knownUrl "openai") apiKey

/-- The endpoint of the provider `ollama`, which takes any key. -/
def ollama (url : Option String) : Endpoint :=
  atUrl "ollama" (url.getD (knownUrl "ollama")) "ollama"

/-- A message. -/
def message (role content : String) : Json :=
  .object [("content", .string content), ("role", .string role)]

/-- The messages of a request. -/
def messages (request : Request) : List Json :=
  let system := match request.system with
    | some s => if Text.blank s then [] else [message "system" s]
    | none => []
  system ++ [message "user" request.prompt]

/-- The body of a request. -/
def body (request : Request) : Json :=
  .object (Json.unlessNone "max_tokens" Json.nat request.maxTokens
    ++ [("messages", .array (messages request)), ("model", .string request.model),
      ("stream", .bool false), ("temperature", Json.single request.temperature)])

/-- The authorization with the key of an endpoint. -/
def authorization (endpoint : Endpoint) : String := "Bearer " ++ endpoint.apiKey

/-- The request for a completion. -/
def completion (endpoint : Endpoint) (request : Request) : WebRequest where
  method := "POST"
  url := endpoint.completionsUrl
  authorization := endpoint.authorization
  contentType := some "application/json"
  body := some (body request).compact

/-- The request for the list of models. -/
def models (endpoint : Endpoint) : WebRequest where
  method := "GET"
  url := endpoint.modelsUrl
  authorization := endpoint.authorization
  contentType := none
  body := none

/-- Whether a text can stand in a header. -/
def fitsHeader (s : String) : Bool :=
  s.toList.all fun c => c == '\t' || (0x20 ≤ c.toNat && c.toNat != 0x7f)

/-- The error of a request that cannot be made. -/
def notBuilt : ProviderError := .network "builder error"

/-- The address of a request in normal form, when the request can be made. -/
def sendable (request : WebRequest) : Answer WebRequest :=
  match Url.normalize request.url with
  | some url =>
    if fitsHeader request.authorization then .ok { request with url := url } else .error notBuilt
  | none => .error notBuilt

/-- The response to a request to an address, or why there is none. -/
def received (url : String) : Exchange → Answer WebResponse
  | .response r => .ok r
  | .unreachable => .error (.network ("error sending request for url (" ++ url ++ ")"))
  | .timedOut => .error (.timeout ("error sending request for url (" ++ url ++ ")"))

/-- Sends a request and reads the response. -/
def exchange {α ν : Type} (endpoint : Endpoint) (network : Network ν) (request : WebRequest)
    (read : WebResponse → Answer α) (now : Nat) (state : ν) : Time.After (Answer α) × ν :=
  match sendable request with
  | .error e => (⟨.error e, 0⟩, state)
  | .ok request =>
    let (outcome, state) := network now endpoint.timeout request state
    (⟨(received request.url outcome.value).bind read, outcome.took⟩, state)

/-- The seconds to wait when a server does not say how many. -/
def standardRetryAfter : Nat := 5

/-- The seconds that a server asks to wait. -/
def retryAfterSeconds (header : Option String) : Nat :=
  (header.bind fun value => Text.wholeNumber (Text.trim value.toList)).getD standardRetryAfter

/-- Whether a status means success. -/
def isSuccess (status : Nat) : Bool := 200 ≤ status && status < 300

/-- What is wrong with a body that cannot be read. -/
def unreadable : String := "error decoding response body"

/-- The content of a choice, empty when it is missing. -/
def choice? (json : Json) : Option String := do
  match ← Json.fields? ["message"] json with
  | [some message] =>
    match ← Json.fields? ["role", "content"] message with
    | [role, content] =>
      let _ ← Json.required Json.string? role
      return (← Json.nullable Json.string? content).getD ""
    | _ => none
  | _ => none

/-- The contents of the choices of a completion, its model, and the tokens used. -/
def completion? (json : Json) : Option (List String × String × Option Usage) := do
  match ← Json.fields? ["model", "choices", "usage"] json with
  | [model, choices, usage] =>
    return (← Json.required (Json.listOf? choice?) choices,
      ← Json.withDefault "" Json.string? model, ← Json.nullable Usage.ofJson? usage)
  | _ => none

/-- The first choice of a completion. -/
def readChoices : List String × String × Option Usage → Answer Reply
  | ([], _, _) => .error (.api 200 "No choices in response")
  | (text :: _, model, usage) => .ok ⟨text, model, usage⟩

/-- The reply in a response. -/
def readCompletion (r : WebResponse) : Answer Reply :=
  if r.status = 429 then .error (.rateLimited (retryAfterSeconds r.retryAfter))
  else if r.status = 401 ∨ r.status = 403 then
    .error (.authenticationFailed "Invalid API key or insufficient permissions")
  else if isSuccess r.status = false then .error (.api r.status r.body)
  else
    match (Json.parse r.body.toList).toOption.bind completion? with
    | some found => readChoices found
    | none => .error (.api r.status ("Failed to parse response: " ++ unreadable))

/-- The names in a list of models; items without a name are left out. -/
def modelNames (json : Json) : List String :=
  match (json.get? "data").bind Json.array? with
  | some items => items.filterMap fun item => (item.get? "id").bind Json.string?
  | none => []

/-- The names of models in a response. -/
def readModels (r : WebResponse) : Answer (List String) :=
  if isSuccess r.status then
    match Json.parse r.body.toList with
    | .ok json => .ok (modelNames json.canonical)
    | .error _ => .error (.network unreadable)
  else .ok []

/-- The endpoint as a provider over a network. -/
def provider {ν : Type} (network : Network ν) (endpoint : Endpoint) : Provider ν where
  name := endpoint.name
  generate := fun now request state =>
    endpoint.exchange network (endpoint.completion request) readCompletion now state
  listModels := fun now state =>
    endpoint.exchange network endpoint.models readModels now state
  checkHealth := fun now state =>
    endpoint.exchange network endpoint.models (fun r => .ok (isSuccess r.status)) now state

end Endpoint

end Courseware
