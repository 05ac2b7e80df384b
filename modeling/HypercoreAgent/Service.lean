import HypercoreAgent.Server
import HypercoreAgent.Health
import HypercoreAgent.StoreInvariants
import Mathlib.Algebra.Group.Prod

set_option autoImplicit false

namespace HypercoreAgent

/-- The Prometheus metrics that `chat` writes. `agent_requests_total` is kept by the three
    label sets `chat` uses, `agent_token_usage_total` by its two, and `agent_errors_total`
    by error type. -/
structure Metrics where
  chatStarted : ℕ
  chatSuccess : ℕ
  chatError : ℕ
  activeSessions : ℤ
  inputTokens : ℕ
  outputTokens : ℕ
  errors : PyDict ℕ

/-- The metrics as `prometheus_client` creates them when the module is imported. -/
def Metrics.init : Metrics := ⟨0, 0, 0, 0, 0, 0, PyDict.empty⟩

namespace Metrics
variable (m : Metrics)

/-- `REQUESTS_TOTAL.labels(endpoint='chat', status='started').inc()` and
    `ACTIVE_SESSIONS.inc()`. -/
def enter : Metrics :=
  { m with chatStarted := m.chatStarted + 1, activeSessions := m.activeSessions + 1 }

/-- `ACTIVE_SESSIONS.dec()`, in `finally`. -/
def leave : Metrics := { m with activeSessions := m.activeSessions - 1 }

/-- The two `TOKEN_USAGE` increments by the response's usage, and `status='success'`. -/
def recordSuccess (usage : UsageDict) : Metrics :=
  { m with
    inputTokens := m.inputTokens + usage.inputTokens
    outputTokens := m.outputTokens + usage.outputTokens
    chatSuccess := m.chatSuccess + 1 }

/-- `ERRORS_TOTAL.labels(error_type=type(e).__name__).inc()` and `status='error'`. -/
def recordError (e : PyException) : Metrics :=
  { m with errors := m.errors.increment e.typeName, chatError := m.chatError + 1 }

end Metrics

/-- `chat` with the metrics it writes. Its world and its answer are those of `chat`
    (`chatMetered_chat`). -/
def chatMetered (w : World) (metrics : Metrics) (request : AgentRequest) (uuid : String)
    (answer : ℕ → ProviderCall → Except PyException Response)
    (provider : ProviderCall → ProviderStream) : World × Metrics × ChatResponse :=
  let metrics := metrics.enter
  match createSession w request.userId request.systemPrompt uuid with
  | (w, .error e) => (w, (metrics.recordError e).leave, .httpError 500 e.message)
  | (w, .ok sessionId) =>
    if request.stream then
      match streamResponse w sessionId request provider with
      | (w, .ok events) => (w, metrics.leave, .streaming events)
      | (w, .error _) => (w, metrics.leave, .streaming [])
    else
      match processRequest sessionId request answer w with
      | (w, _, .ok result) =>
        (w, (metrics.recordSuccess result.usage).leave,
          .completed ⟨sessionId, result.content, result.usage, "completed"⟩)
      | (w, _, .error e) => (w, (metrics.recordError e).leave, .httpError 500 e.message)

/-- What an endpoint answers: the chat's answer, `{"status": "deleted", "session_id": ...}`,
    the `get_stats()` dict, `{"status": "ready"}`, the `/health` response, or an
    `HTTPException`. A signal or the clock moving answers nothing. -/
inductive ServerReply
  | chat (response : ChatResponse)
  | deleted (sessionId : String)
  | stats (snapshot : StatsSnapshot)
  | ready
  | health (response : HealthResponse)
  | httpError (statusCode : ℕ) (detail : String)
  | noReply
  deriving DecidableEq, Repr

def ServerReply.isStreaming : ServerReply → Bool
  | .chat (.streaming _) => true
  | _ => false

/-- `/ready`, where `agent_manager` may not be set yet. -/
def readiness (agentManager : Option World) : ServerReply :=
  match agentManager with
  | none => .httpError 503 "Agent manager not initialized"
  | some w => if isReady w then .ready else .httpError 503 "Service not ready"

/-- A call to the process: a request to an endpoint (for a chat, with what the provider
    answers), the SIGTERM or SIGINT handler, which runs `shutdown`, or time passing. -/
inductive ServerCall
  | chat (request : AgentRequest) (uuid : String)
      (answer : ℕ → ProviderCall → Except PyException Response)
      (provider : ProviderCall → ProviderStream)
  | deleteSession (sessionId : String)
  | getStats (elapsed : ℕ)
  | ready
  | health (host : Host)
  | signal
  | tick (seconds : ℕ)

structure Server where
  world : World
  healthCheck : HealthCheck
  metrics : Metrics

def Server.start (settings : Settings) (clock : ℤ) : Server :=
  ⟨serverStart settings clock, HealthCheck.init clock, Metrics.init⟩

def Server.handle (s : Server) : ServerCall → Server × ServerReply
  | .chat request uuid answer provider =>
    let (w, metrics, response) := chatMetered s.world s.metrics request uuid answer provider
    ({ s with world := w, metrics }, .chat response)
  | .deleteSession sessionId =>
    ({ s with world := deleteSession s.world sessionId }, .deleted sessionId)
  | .getStats elapsed => (s, .stats (getStats s.world (s.world.clock + elapsed)))
  | .ready => (s, readiness (some s.world))
  | .health host =>
    let (healthCheck, response) := health (some s.healthCheck) host s.world.clock
    ({ s with healthCheck := healthCheck.getD s.healthCheck }, .health response)
  | .signal => ({ s with world := shutdownClear (shutdownBegin s.world) }, .noReply)
  | .tick seconds => ({ s with world := s.world.sleep seconds }, .noReply)

def Server.serve (s : Server) : List ServerCall → Server × List ServerReply
  | [] => (s, [])
  | call :: calls =>
    let (s, reply) := s.handle call
    let (s, replies) := s.serve calls
    (s, reply :: replies)

@[simp] theorem Server.serve_nil (s : Server) : s.serve [] = (s, []) := rfl

@[simp] theorem Server.serve_cons (s : Server) (call : ServerCall) (calls : List ServerCall) :
    s.serve (call :: calls) =
      (((s.handle call).1.serve calls).1, (s.handle call).2 :: ((s.handle call).1.serve calls).2) :=
  rfl

theorem chatMetered_chat (w : World) (metrics : Metrics) (request : AgentRequest)
    (uuid : String) (answer : ℕ → ProviderCall → Except PyException Response)
    (provider : ProviderCall → ProviderStream) :
    ((chatMetered w metrics request uuid answer provider).1,
      (chatMetered w metrics request uuid answer provider).2.2) =
      chat w request uuid answer provider := by
  unfold chatMetered chat
  rcases createSession w request.userId request.systemPrompt uuid with ⟨w', e | sessionId⟩
  · rfl
  · dsimp only
    split
    · rcases streamResponse w' sessionId request provider with ⟨w'', e | events⟩ <;> rfl
    · rcases processRequest sessionId request answer w' with ⟨w'', calls, e | result⟩ <;> rfl

section Counters

def World.counters (w : World) : ℕ × ℕ :=
  (w.manager.stats.totalRequests, w.manager.stats.totalTokens)

def resultCounts : Except PyException RequestResult → ℕ × ℕ
  | .ok result => (1, result.usage.inputTokens + result.usage.outputTokens)
  | .error _ => (0, 0)

variable (wait : ℕ → ℕ)
  (attempt : ℕ → World → World × List ProviderCall × Except PyException RequestResult)

theorem retryFrom_counters
    (hattempt : ∀ n v, (attempt n v).1.counters = v.counters + resultCounts (attempt n v).2.2)
    (n left : ℕ) (w : World) :
    (retryFrom wait attempt n left w).1.counters =
      w.counters + resultCounts (retryFrom wait attempt n left w).2.2 := by
  induction left generalizing n w with
  | zero =>
    have hw := hattempt n w
    rcases h : attempt n w with ⟨w', calls, e | a⟩ <;> rw [h] at hw
    · rw [retryFrom_of_last _ _ _ _ _ _ h]
      exact hw
    · rw [retryFrom_of_ok _ _ _ _ _ _ _ h]
      exact hw
  | succ left ih =>
    have hw := hattempt n w
    rcases h : attempt n w with ⟨w', calls, e | a⟩ <;> rw [h] at hw
    · rw [retryFrom_of_error _ _ _ _ _ _ _ h, ih]
      exact congrArg (· + _) (hw.trans (add_zero _))
    · rw [retryFrom_of_ok _ _ _ _ _ _ _ h]
      exact hw

end Counters

section Request
variable (sessionId : String) (request : AgentRequest)

theorem processRequestBody_counters (answer : ProviderCall → Except PyException Response)
    (w : World) :
    (processRequestBody sessionId request answer w).1.counters =
      w.counters + resultCounts (processRequestBody sessionId request answer w).2.2 := by
  unfold processRequestBody
  split
  · exact (add_zero _).symm
  · next hb =>
    obtain ⟨-, rfl⟩ := beginTurn_eq_ok hb
    split
    · rfl
    · exact (add_zero _).symm

variable (answer : ℕ → ProviderCall → Except PyException Response) (w : World)

theorem processRequest_counters :
    (processRequest sessionId request answer w).1.counters =
      w.counters + resultCounts (processRequest sessionId request answer w).2.2 :=
  retryFrom_counters _ _ (fun n v => processRequestBody_counters sessionId request (answer n) v)
    1 2 w

end Request

section Store
variable (w : World)

theorem cleanup_counters : (cleanupExpiredSessionsSync w).counters = w.counters := by
  unfold World.counters
  simp only [cleanupExpiredSessionsSync, World.manager_setManager]
  split <;> rfl

theorem createSession_counters (userId : String) (p : Option String) (uuid : String) :
    (createSession w userId p uuid).1.counters = w.counters := by
  rcases createSession_cases w userId p uuid with ⟨-, hc⟩ | ⟨-, hc⟩ | hc <;> rw [hc]
  · rfl
  · exact cleanup_counters w
  · exact cleanup_counters w

theorem deleteSession_counters (sessionId : String) :
    (deleteSession w sessionId).counters = w.counters := by
  unfold deleteSession
  dsimp only
  split_ifs <;> rfl

theorem streamResponse_manager (sessionId : String) (request : AgentRequest)
    (provider : ProviderCall → ProviderStream) :
    (streamResponse w sessionId request provider).1.counters = w.counters ∧
    (streamResponse w sessionId request provider).1.manager.isShuttingDown =
      w.manager.isShuttingDown := by
  cases h : w.manager.sessions.get? sessionId with
  | none => simp [streamResponse, beginTurn_of_absent _ _ _ _ h]
  | some ref =>
    rw [streamResponse_of_get w sessionId request provider h]
    dsimp only
    split <;> exact ⟨rfl, rfl⟩

end Store

theorem PyDict.mem_keys_increment {d : PyDict ℕ} {k t : String}
    (h : t ∈ (d.increment k).keys) : t ∈ d.keys ∨ t = k := by
  obtain ⟨e, he, rfl⟩ := List.mem_map.mp h
  rcases PyDict.mem_insert he with he | rfl
  · exact .inl (List.mem_map_of_mem _ he)
  · exact .inr rfl

def MetricsAgree (w : World) (m : Metrics) (streams : ℕ) : Prop :=
  m.activeSessions = 0 ∧ (m.chatSuccess, m.inputTokens + m.outputTokens) = w.counters ∧
  m.chatStarted = m.chatSuccess + m.chatError + streams ∧
  ∀ t ∈ m.errors.keys, t = "RetryError" ∨ t = "Exception"

section Agree
variable {w w' : World} {m : Metrics} {n : ℕ}

theorem MetricsAgree.recordError (h : MetricsAgree w m n) (hw : w'.counters = w.counters)
    {e : PyException} (he : e.typeName = "RetryError" ∨ e.typeName = "Exception") :
    MetricsAgree w' (m.enter.recordError e).leave n := by
  obtain ⟨hgauge, hcounts, hstarted, herrors⟩ := h
  refine ⟨by simp only [Metrics.leave, Metrics.recordError, Metrics.enter]; omega,
    hcounts.trans hw.symm, by simp only [Metrics.leave, Metrics.recordError, Metrics.enter]; omega,
    fun t ht => ?_⟩
  rcases PyDict.mem_keys_increment ht with ht | rfl
  · exact herrors t ht
  · exact he

theorem MetricsAgree.stream (h : MetricsAgree w m n) (hw : w'.counters = w.counters) :
    MetricsAgree w' m.enter.leave (n + 1) := by
  obtain ⟨hgauge, hcounts, hstarted, herrors⟩ := h
  exact ⟨by simp only [Metrics.leave, Metrics.enter]; omega, hcounts.trans hw.symm,
    by simp only [Metrics.leave, Metrics.enter]; omega, herrors⟩

theorem MetricsAgree.recordSuccess (h : MetricsAgree w m n) {result : RequestResult}
    (hw : w'.counters = w.counters + resultCounts (.ok result)) :
    MetricsAgree w' (m.enter.recordSuccess result.usage).leave n := by
  obtain ⟨hgauge, hcounts, hstarted, herrors⟩ := h
  refine ⟨by simp only [Metrics.leave, Metrics.recordSuccess, Metrics.enter]; omega, ?_,
    by simp only [Metrics.leave, Metrics.recordSuccess, Metrics.enter]; omega, herrors⟩
  rw [hw, ← hcounts]
  simp only [Metrics.leave, Metrics.recordSuccess, Metrics.enter, resultCounts, Prod.mk_add_mk,
    Prod.mk.injEq, true_and]
  omega

end Agree

theorem createSession_error_typeName {w w' : World} {userId : String} {p : Option String}
    {uuid : String} {e : PyException} (h : createSession w userId p uuid = (w', .error e)) :
    e.typeName = "Exception" := by
  rcases createSession_outcome w userId p uuid with ⟨-, -, hc⟩ | ⟨-, hc, -⟩ <;> rw [h] at hc
  · cases hc
    rfl
  · cases hc

theorem chatMetered_agree {w : World} {m : Metrics} {n : ℕ} (h : MetricsAgree w m n)
    (request : AgentRequest) (uuid : String)
    (answer : ℕ → ProviderCall → Except PyException Response)
    (provider : ProviderCall → ProviderStream) :
    let r := chatMetered w m request uuid answer provider
    MetricsAgree r.1 r.2.1 (n + if (ServerReply.chat r.2.2).isStreaming then 1 else 0) := by
  intro r
  have hcreate := createSession_counters w request.userId request.systemPrompt uuid
  rcases hc : createSession w request.userId request.systemPrompt uuid with ⟨w₁, e | sessionId⟩ <;>
    rw [hc] at hcreate
  · simpa [r, chatMetered, hc, ServerReply.isStreaming] using
      h.recordError hcreate (.inr (createSession_error_typeName hc))
  · cases hs : request.stream
    · have hp := processRequest_counters sessionId request answer w₁
      obtain ⟨-, herr⟩ := processRequest_spec sessionId request answer w₁
      rcases hpr : processRequest sessionId request answer w₁ with ⟨w₂, calls, e | result⟩ <;>
        rw [hpr] at hp herr
      · obtain ⟨e', rfl⟩ := herr e rfl
        simpa [r, chatMetered, hc, hs, hpr, ServerReply.isStreaming] using
          h.recordError (hp.trans (add_zero _) |>.trans hcreate)
            (.inl (show (PyException.retryError e').typeName = "RetryError" from rfl))
      · simpa [r, chatMetered, hc, hs, hpr, ServerReply.isStreaming] using
          h.recordSuccess (hp.trans (by rw [hcreate]))
    · have hsr := (streamResponse_manager w₁ sessionId request provider).1
      rcases hst : streamResponse w₁ sessionId request provider with ⟨w₂, e | events⟩ <;>
        rw [hst] at hsr
      · simpa [r, chatMetered, hc, hs, hst, ServerReply.isStreaming] using
          h.stream (hsr.trans hcreate)
      · simpa [r, chatMetered, hc, hs, hst, ServerReply.isStreaming] using
          h.stream (hsr.trans hcreate)

theorem handle_agree {s : Server} {n : ℕ} (h : MetricsAgree s.world s.metrics n)
    (call : ServerCall) :
    MetricsAgree (s.handle call).1.world (s.handle call).1.metrics
      (n + if (s.handle call).2.isStreaming then 1 else 0) := by
  cases call with
  | chat request uuid answer provider => exact chatMetered_agree h request uuid answer provider
  | deleteSession sessionId =>
    obtain ⟨hgauge, hcounts, hrest⟩ := h
    exact ⟨hgauge, hcounts.trans (deleteSession_counters _ _).symm, hrest⟩
  | ready =>
    have hready : (s.handle .ready).2.isStreaming = false := by
      simp only [Server.handle, readiness]
      split <;> rfl
    rw [hready]
    exact h
  | getStats | health | signal | tick => exact h

theorem serve_agree {s : Server} {n : ℕ} (h : MetricsAgree s.world s.metrics n)
    (calls : List ServerCall) :
    MetricsAgree (s.serve calls).1.world (s.serve calls).1.metrics
      (n + (s.serve calls).2.countP ServerReply.isStreaming) := by
  induction calls generalizing s n with
  | nil => exact h
  | cons call calls ih =>
    have hnext := ih (handle_agree h call)
    simp only [Server.serve_cons, List.countP_cons] at hnext ⊢
    rwa [Nat.add_assoc, Nat.add_comm (ite _ _ _)] at hnext

/-- Along every sequence of calls from a fresh process, the Prometheus metrics agree with
    `get_stats`. The active-sessions gauge is back at 0. The success count is
    `total_requests`. The input and output token counters sum to `total_tokens`. Every
    started chat ended as a success, an error, or a returned stream. And `agent_errors_total`
    only ever counts `RetryError` and `Exception`. -/
theorem metrics_agree_with_stats (settings : Settings) (clock : ℤ) (calls : List ServerCall)
    (later : ℤ) :
    let r : Server × List ServerReply := (Server.start settings clock).serve calls
    r.1.metrics.activeSessions = 0 ∧
    r.1.metrics.chatSuccess = (getStats r.1.world later).totalRequests ∧
    r.1.metrics.inputTokens + r.1.metrics.outputTokens = (getStats r.1.world later).totalTokens ∧
    r.1.metrics.chatStarted =
      r.1.metrics.chatSuccess + r.1.metrics.chatError + r.2.countP ServerReply.isStreaming ∧
    ∀ t ∈ r.1.metrics.errors.keys, t = "RetryError" ∨ t = "Exception" := by
  intro r
  have h := @serve_agree (Server.start settings clock) 0
    ⟨rfl, rfl, rfl, fun _ ht => absurd ht (List.not_mem_nil _)⟩ calls
  obtain ⟨hgauge, hcounts, hstarted, herrors⟩ := h
  rw [Nat.zero_add] at hstarted
  exact ⟨hgauge, congrArg Prod.fst hcounts, congrArg Prod.snd hcounts, hstarted, herrors⟩

end HypercoreAgent
