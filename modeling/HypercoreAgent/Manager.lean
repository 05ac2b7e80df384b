import HypercoreAgent.Session

set_option autoImplicit false

/-!
# The session store

`AgentManager` of `agent_manager.py` and the structural operations on its `sessions`
dict: `create_session`, `delete_session`, `_cleanup_expired_sessions_sync`, `shutdown`,
`get_stats` and `is_ready`. A `World` adds what these operations share with the rest of
the process: the heap of `AgentSession` objects (the dict maps an id to a reference into
it, so a request holding a session keeps mutating the object after the id is deleted),
the clock read by `time.time()`, and the settings.

None of these operations suspends while it holds `session_lock`, so each runs as one
step of the event loop and the lock never makes a task wait.
-/

namespace HypercoreAgent

/-- A raised exception as the code reads it: `type(e).__name__` and `str(e)`. tenacity's
    `RetryError` keeps the exception of the attempt it gave up on. -/
inductive PyException
  | error (typeName message : String)
  | retryError (lastAttempt : PyException)
  deriving DecidableEq, Repr

def PyException.typeName : PyException → String
  | .error typeName _ => typeName
  | .retryError _ => "RetryError"

/-- `str(e)`; for a `RetryError` the future's address is left out of its repr. -/
def PyException.message : PyException → String
  | .error _ message => message
  | .retryError e => "RetryError[<Future state=finished raised " ++ e.typeName ++ ">]"

/-- The fields of `config.Settings` that the modelled code reads. -/
structure Settings where
  claudeModel : String
  maxConcurrentRequests : ℤ
  requestTimeout : ℤ
  deriving DecidableEq, Repr

/-- The `Field(default=...)` values of those fields. -/
def Settings.defaults : Settings := ⟨"claude-3-5-sonnet-20241022", 100, 300⟩

structure Stats where
  totalRequests : ℕ
  totalTokens : ℕ
  totalSessions : ℕ
  activeSessions : ℕ
  errors : PyDict ℕ

structure AgentManager where
  sessions : PyDict ℕ
  maxConcurrentSessions : ℤ
  sessionTimeout : ℤ
  isShuttingDown : Bool
  cleanupTaskRunning : Bool
  stats : Stats

/-- `AgentManager.__init__`, which also starts the background sweep. -/
def AgentManager.init (maxConcurrentSessions sessionTimeout : ℤ) : AgentManager :=
  ⟨PyDict.empty, maxConcurrentSessions, sessionTimeout, false, true, ⟨0, 0, 0, 0, PyDict.empty⟩⟩

structure World where
  manager : AgentManager
  heap : ℕ → AgentSession
  nextRef : ℕ
  clock : ℤ
  settings : Settings

namespace World

def init (settings : Settings) (maxConcurrentSessions sessionTimeout clock : ℤ) : World :=
  ⟨AgentManager.init maxConcurrentSessions sessionTimeout, fun _ => default, 0, clock, settings⟩

def setManager (w : World) (m : AgentManager) : World := { w with manager := m }

def modifySession (w : World) (ref : ℕ) (f : AgentSession → AgentSession) : World :=
  { w with heap := Function.update w.heap ref (f (w.heap ref)) }

def countError (w : World) (e : PyException) : World :=
  w.setManager { w.manager with
    stats := { w.manager.stats with errors := w.manager.stats.errors.increment e.typeName } }

@[simp] theorem manager_setManager (w : World) (m : AgentManager) :
    (w.setManager m).manager = m := rfl
@[simp] theorem heap_setManager (w : World) (m : AgentManager) : (w.setManager m).heap = w.heap :=
  rfl
@[simp] theorem nextRef_setManager (w : World) (m : AgentManager) :
    (w.setManager m).nextRef = w.nextRef := rfl
@[simp] theorem clock_setManager (w : World) (m : AgentManager) :
    (w.setManager m).clock = w.clock := rfl
@[simp] theorem settings_setManager (w : World) (m : AgentManager) :
    (w.setManager m).settings = w.settings := rfl

@[simp] theorem manager_modifySession (w : World) (ref : ℕ) (f : AgentSession → AgentSession) :
    (w.modifySession ref f).manager = w.manager := rfl
@[simp] theorem nextRef_modifySession (w : World) (ref : ℕ) (f : AgentSession → AgentSession) :
    (w.modifySession ref f).nextRef = w.nextRef := rfl
@[simp] theorem clock_modifySession (w : World) (ref : ℕ) (f : AgentSession → AgentSession) :
    (w.modifySession ref f).clock = w.clock := rfl
@[simp] theorem settings_modifySession (w : World) (ref : ℕ) (f : AgentSession → AgentSession) :
    (w.modifySession ref f).settings = w.settings := rfl

theorem heap_modifySession (w : World) (ref : ℕ) (f : AgentSession → AgentSession) (r : ℕ) :
    (w.modifySession ref f).heap r = if r = ref then f (w.heap r) else w.heap r := by
  by_cases h : r = ref
  · subst h; simp [modifySession]
  · simp [modifySession, h]

@[simp] theorem heap_modifySession_self (w : World) (ref : ℕ) (f : AgentSession → AgentSession) :
    (w.modifySession ref f).heap ref = f (w.heap ref) := by
  simp [heap_modifySession]

@[simp] theorem countError_heap (w : World) (e : PyException) : (w.countError e).heap = w.heap :=
  rfl
@[simp] theorem countError_sessions (w : World) (e : PyException) :
    (w.countError e).manager.sessions = w.manager.sessions := rfl

end World

def cleanupExpiredSessionsSync (w : World) : World :=
  let m := w.manager
  let expired := (m.sessions.entries.filter fun e =>
    (w.heap e.2).isExpired m.sessionTimeout w.clock).map Prod.fst
  let sessions := expired.foldl PyDict.erase m.sessions
  let stats := if expired.isEmpty then m.stats else { m.stats with activeSessions := sessions.len }
  w.setManager { m with sessions, stats }

def maxSessionsError (maxConcurrentSessions : ℤ) : PyException :=
  .error "Exception" ("Maximum concurrent sessions reached: " ++ toString maxConcurrentSessions)

def World.addSession (w : World) (uuid userId : String) (systemPrompt : Option String) : World :=
  let m := w.manager
  let sessions := m.sessions.insert uuid w.nextRef
  { w with
    heap := Function.update w.heap w.nextRef (AgentSession.init uuid userId systemPrompt w.clock)
    nextRef := w.nextRef + 1
    manager := { m with
      sessions
      stats := { m.stats with
        totalSessions := m.stats.totalSessions + 1
        activeSessions := sessions.len } } }

def createSession (w : World) (userId : String) (systemPrompt : Option String) (uuid : String) :
    World × Except PyException String :=
  let w := if (w.manager.sessions.len : ℤ) ≥ w.manager.maxConcurrentSessions then
    cleanupExpiredSessionsSync w else w
  if (w.manager.sessions.len : ℤ) ≥ w.manager.maxConcurrentSessions then
    (w, .error (maxSessionsError w.manager.maxConcurrentSessions))
  else (w.addSession uuid userId systemPrompt, .ok uuid)

def deleteSession (w : World) (sessionId : String) : World :=
  let m := w.manager
  if sessionId ∈ m.sessions.keys then
    let sessions := m.sessions.erase sessionId
    w.setManager { m with sessions, stats := { m.stats with activeSessions := sessions.len } }
  else w

def shutdownBegin (w : World) : World :=
  w.setManager { w.manager with isShuttingDown := true, cleanupTaskRunning := false }

def shutdownClear (w : World) : World :=
  w.setManager { w.manager with sessions := PyDict.empty }

structure StatsSnapshot where
  totalRequests : ℕ
  totalTokens : ℕ
  totalSessions : ℕ
  activeSessions : ℕ
  errors : List (String × ℕ)
  uptimeSeconds : ℤ
  deriving DecidableEq, Repr

def getStats (w : World) (later : ℤ) : StatsSnapshot :=
  let m := w.manager
  ⟨m.stats.totalRequests, m.stats.totalTokens, m.stats.totalSessions, m.sessions.len,
    m.stats.errors.entries,
    w.clock - match m.sessions.entries with
      | [] => later
      | (_, ref) :: _ => (w.heap ref).createdAt⟩

def isReady (w : World) : Bool := !w.manager.isShuttingDown

end HypercoreAgent
