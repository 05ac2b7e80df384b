import HypercoreAgent.PyDict

set_option autoImplicit false

namespace HypercoreAgent

/-- `{"role": role, "content": content}`. -/
structure Message where
  role : String
  content : String
  deriving DecidableEq, Repr

/-- `token_usage = {"input": 0, "output": 0, "total": 0}`. -/
structure TokenUsage where
  input : ℕ
  output : ℕ
  total : ℕ
  deriving DecidableEq, Repr

structure Usage where
  inputTokens : ℕ
  outputTokens : ℕ
  deriving DecidableEq, Repr

structure AgentSession where
  sessionId : String
  userId : String
  systemPrompt : Option String
  createdAt : ℤ
  lastActivity : ℤ
  messageHistory : List Message
  tokenUsage : TokenUsage
  deriving DecidableEq, Repr

def TokenUsage.Balanced (u : TokenUsage) : Prop := u.total = u.input + u.output

instance (u : TokenUsage) : Decidable u.Balanced := inferInstanceAs (Decidable (_ = _))

namespace AgentSession

def init (sessionId userId : String) (systemPrompt : Option String) (now : ℤ) : AgentSession :=
  ⟨sessionId, userId, systemPrompt, now, now, [], ⟨0, 0, 0⟩⟩

instance : Inhabited AgentSession := ⟨init "" "" none 0⟩

def updateActivity (s : AgentSession) (now : ℤ) : AgentSession := { s with lastActivity := now }

def addMessage (s : AgentSession) (role content : String) (now : ℤ) : AgentSession :=
  { s with messageHistory := s.messageHistory ++ [Message.mk role content] }.updateActivity now

def updateTokenUsage (s : AgentSession) (usage : Usage) : AgentSession :=
  let input := s.tokenUsage.input + usage.inputTokens
  let output := s.tokenUsage.output + usage.outputTokens
  { s with tokenUsage := ⟨input, output, input + output⟩ }

def isExpired (s : AgentSession) (timeout now : ℤ) : Bool := now - s.lastActivity > timeout

@[simp] theorem messageHistory_init (sessionId userId : String) (p : Option String) (now : ℤ) :
    (init sessionId userId p now).messageHistory = [] := rfl

@[simp] theorem tokenUsage_init (sessionId userId : String) (p : Option String) (now : ℤ) :
    (init sessionId userId p now).tokenUsage = ⟨0, 0, 0⟩ := rfl

@[simp] theorem messageHistory_addMessage (s : AgentSession) (role content : String) (now : ℤ) :
    (s.addMessage role content now).messageHistory = s.messageHistory ++ [⟨role, content⟩] := rfl

@[simp] theorem tokenUsage_addMessage (s : AgentSession) (role content : String) (now : ℤ) :
    (s.addMessage role content now).tokenUsage = s.tokenUsage := rfl

@[simp] theorem systemPrompt_addMessage (s : AgentSession) (role content : String) (now : ℤ) :
    (s.addMessage role content now).systemPrompt = s.systemPrompt := rfl

@[simp] theorem lastActivity_addMessage (s : AgentSession) (role content : String) (now : ℤ) :
    (s.addMessage role content now).lastActivity = now := rfl

@[simp] theorem messageHistory_updateTokenUsage (s : AgentSession) (u : Usage) :
    (s.updateTokenUsage u).messageHistory = s.messageHistory := rfl

@[simp] theorem tokenUsage_updateTokenUsage (s : AgentSession) (u : Usage) :
    (s.updateTokenUsage u).tokenUsage =
      ⟨s.tokenUsage.input + u.inputTokens, s.tokenUsage.output + u.outputTokens,
        s.tokenUsage.input + u.inputTokens + (s.tokenUsage.output + u.outputTokens)⟩ := rfl

@[simp] theorem lastActivity_updateTokenUsage (s : AgentSession) (u : Usage) :
    (s.updateTokenUsage u).lastActivity = s.lastActivity := rfl

theorem isExpired_iff (s : AgentSession) (timeout now : ℤ) :
    s.isExpired timeout now = true ↔ timeout < now - s.lastActivity := by
  simp [isExpired]

theorem updateTokenUsage_balanced (s : AgentSession) (u : Usage) :
    (s.updateTokenUsage u).tokenUsage.Balanced := rfl

theorem init_balanced (sessionId userId : String) (p : Option String) (now : ℤ) :
    (init sessionId userId p now).tokenUsage.Balanced := rfl

end AgentSession
end HypercoreAgent
