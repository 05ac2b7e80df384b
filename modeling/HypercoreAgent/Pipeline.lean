import HypercoreAgent.Manager
import Mathlib.Data.Rat.Defs

set_option autoImplicit false

namespace HypercoreAgent

instance instDecidableEqExcept {ε α : Type} [DecidableEq ε] [DecidableEq α] :
    DecidableEq (Except ε α)
  | .error a, .error b =>
    if h : a = b then isTrue (h ▸ rfl) else isFalse fun e => h (Except.error.inj e)
  | .ok a, .ok b => if h : a = b then isTrue (h ▸ rfl) else isFalse fun e => h (Except.ok.inj e)
  | .error _, .ok _ => isFalse Except.noConfusion
  | .ok _, .error _ => isFalse Except.noConfusion

/-- An entry of `response.content`; `other` is a block with no `text` attribute. -/
inductive ContentBlock
  | text (text : String)
  | other
  deriving DecidableEq, Repr

structure Response where
  content : List ContentBlock
  usage : Usage
  deriving DecidableEq, Repr

/-- The keyword arguments of `client.messages.create` and `client.messages.stream`;
    `tools = none` when the call passes no `tools`. -/
structure ProviderCall where
  model : String
  maxTokens : ℕ
  temperature : ℚ
  system : String
  messages : List Message
  tools : Option (List String)
  deriving DecidableEq, Repr

/-- `AgentRequest` of `agent_server.py`; a tool spec is kept as its JSON text. -/
structure AgentRequest where
  prompt : String
  userId : String
  maxTokens : ℕ
  temperature : ℚ
  stream : Bool
  tools : Option (List String)
  systemPrompt : Option String
  deriving DecidableEq, Repr

/-- Python's `a or b` for an optional string: `None` and `""` are falsy. -/
def pyOr (a : Option String) (b : String) : String :=
  match a with
  | some s => if s = "" then b else s
  | none => b

def defaultSystemPrompt : String := "You are a helpful AI assistant."

def notFoundError (sessionId : String) : PyException :=
  .error "Exception" ("Session not found: " ++ sessionId)

def requestTools (request : AgentRequest) : Option (List String) := some (request.tools.getD [])

def providerCall (w : World) (ref : ℕ) (request : AgentRequest) (tools : Option (List String)) :
    ProviderCall :=
  ⟨w.settings.claudeModel, request.maxTokens, request.temperature,
    pyOr request.systemPrompt (pyOr (w.heap ref).systemPrompt defaultSystemPrompt),
    (w.heap ref).messageHistory, tools⟩

def beginTurn (w : World) (sessionId : String) (request : AgentRequest)
    (tools : Option (List String)) : Except PyException (World × ℕ × ProviderCall) :=
  match w.manager.sessions.get? sessionId with
  | none => .error (notFoundError sessionId)
  | some ref =>
    let w := w.modifySession ref (·.addMessage "user" request.prompt w.clock)
    .ok (w, ref, providerCall w ref request tools)

def extractContent (blocks : List ContentBlock) : String :=
  blocks.foldl (fun content block => match block with
    | .text t => content ++ t
    | .other => content) ""

structure UsageDict where
  inputTokens : ℕ
  outputTokens : ℕ
  totalTokens : ℕ
  deriving DecidableEq, Repr

structure RequestResult where
  content : String
  usage : UsageDict
  messageCount : ℕ
  deriving DecidableEq, Repr

def completeRequest (w : World) (ref : ℕ) (response : Response) : World × RequestResult :=
  let content := extractContent response.content
  let w := w.modifySession ref (·.addMessage "assistant" content w.clock)
  let usage : UsageDict := ⟨response.usage.inputTokens, response.usage.outputTokens,
    response.usage.inputTokens + response.usage.outputTokens⟩
  let w := w.modifySession ref (·.updateTokenUsage response.usage)
  let m := w.manager
  let w := w.setManager { m with stats := { m.stats with
    totalRequests := m.stats.totalRequests + 1
    totalTokens := m.stats.totalTokens + usage.totalTokens } }
  (w, ⟨content, usage, (w.heap ref).messageHistory.length⟩)

def dataEvent (text : String) : String := "data: " ++ text ++ "\n\n"

def doneEvent : String := "data: [DONE]\n\n"

def errorEvent (e : PyException) : String :=
  "data: \x7b\"error\": \"" ++ e.message ++ "\"\x7d\n\n"

def endStream (w : World) (ref : ℕ) (accumulated : String) : World :=
  w.modifySession ref (·.addMessage "assistant" accumulated w.clock)

def finishStream (w : World) (ref : ℕ) (usage : Usage) : World :=
  w.modifySession ref (·.updateTokenUsage usage)

section Blocks
variable (w : World) (sessionId : String) (request : AgentRequest) (tools : Option (List String))

theorem beginTurn_of_get {ref : ℕ} (h : w.manager.sessions.get? sessionId = some ref) :
    beginTurn w sessionId request tools =
      .ok (w.modifySession ref (·.addMessage "user" request.prompt w.clock), ref,
        providerCall (w.modifySession ref (·.addMessage "user" request.prompt w.clock)) ref
          request tools) := by
  simp [beginTurn, h]

theorem beginTurn_of_absent (h : w.manager.sessions.get? sessionId = none) :
    beginTurn w sessionId request tools = .error (notFoundError sessionId) := by
  simp [beginTurn, h]

@[simp] theorem messages_providerCall (ref : ℕ) :
    (providerCall w ref request tools).messages = (w.heap ref).messageHistory := rfl

@[simp] theorem completeRequest_sessions (ref : ℕ) (response : Response) :
    (completeRequest w ref response).1.manager.sessions = w.manager.sessions := rfl

@[simp] theorem completeRequest_nextRef (ref : ℕ) (response : Response) :
    (completeRequest w ref response).1.nextRef = w.nextRef := rfl

@[simp] theorem completeRequest_errors (ref : ℕ) (response : Response) :
    (completeRequest w ref response).1.manager.stats.errors = w.manager.stats.errors := rfl

theorem completeRequest_heap (ref : ℕ) (response : Response) (r : ℕ) :
    (completeRequest w ref response).1.heap r =
      if r = ref then
        ((w.heap r).addMessage "assistant" (extractContent response.content) w.clock).updateTokenUsage
          response.usage
      else w.heap r := by
  simp only [completeRequest, World.heap_setManager, World.heap_modifySession,
    World.clock_modifySession]
  split <;> simp_all

end Blocks
end HypercoreAgent
