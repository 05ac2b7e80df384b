import HypercoreAgent.Tasks
import HypercoreAgent.Admission

set_option autoImplicit false

namespace HypercoreAgent

/-- `AgentResponse` of `agent_server.py`. -/
structure AgentResponse where
  sessionId : String
  content : String
  usage : UsageDict
  status : String
  deriving DecidableEq, Repr

/-- What the client of `chat` receives: the JSON `AgentResponse`, the events of the
    `StreamingResponse`, or an `HTTPException`. -/
inductive ChatResponse
  | completed (response : AgentResponse)
  | streaming (events : List String)
  | httpError (statusCode : ℕ) (detail : String)
  deriving DecidableEq, Repr

/-- `lifespan`: `AgentManager(max_concurrent_sessions=settings.max_concurrent_requests,
    session_timeout=settings.request_timeout)`. -/
def serverStart (settings : Settings) (clock : ℤ) : World :=
  World.init settings settings.maxConcurrentRequests settings.requestTimeout clock

/-- `chat` with `uuid` the id `create_session` draws; a stream is drained by the client
    before anything else runs, and one that raises before its first event is empty. -/
def chat (w : World) (request : AgentRequest) (uuid : String)
    (answer : ℕ → ProviderCall → Except PyException Response)
    (provider : ProviderCall → ProviderStream) : World × ChatResponse :=
  match createSession w request.userId request.systemPrompt uuid with
  | (w, .error e) => (w, .httpError 500 e.message)
  | (w, .ok sessionId) =>
    if request.stream then
      match streamResponse w sessionId request provider with
      | (w, .ok events) => (w, .streaming events)
      | (w, .error _) => (w, .streaming [])
    else
      match processRequest sessionId request answer w with
      | (w, _, .ok result) => (w, .completed ⟨sessionId, result.content, result.usage, "completed"⟩)
      | (w, _, .error e) => (w, .httpError 500 e.message)

def chatThenDelete (w : World) (request : AgentRequest) (uuid : String)
    (answer : ℕ → ProviderCall → Except PyException Response)
    (provider : ProviderCall → ProviderStream) : World × ChatResponse :=
  match chat w request uuid answer provider with
  | (w, .completed response) => (deleteSession w response.sessionId, .completed response)
  | other => other

def chatSequence (answer : ℕ → ProviderCall → Except PyException Response)
    (provider : ProviderCall → ProviderStream) :
    World → List (AgentRequest × String) → World × List ChatResponse
  | w, [] => (w, [])
  | w, (request, uuid) :: rest =>
    let r := chatThenDelete w request uuid answer provider
    let rs := chatSequence answer provider r.1 rest
    (rs.1, r.2 :: rs.2)

def ChatResponse.failed : ChatResponse → Bool
  | .httpError _ _ => true
  | _ => false

theorem retryFrom_spec {α : Type} (wait : ℕ → ℕ)
    (attempt : ℕ → World → World × List ProviderCall × Except PyException α)
    (hattempt : ∀ n v, (attempt n v).1.manager.sessions = v.manager.sessions) (n left : ℕ)
    (w : World) :
    (retryFrom wait attempt n left w).1.manager.sessions = w.manager.sessions ∧
    ∀ e, (retryFrom wait attempt n left w).2.2 = .error e → ∃ e', e = .retryError e' := by
  induction left generalizing n w with
  | zero =>
    rcases h : attempt n w with ⟨w', calls, e₀ | a⟩
    · rw [retryFrom_of_last _ _ _ _ _ _ h]
      exact ⟨by rw [← hattempt n w, h], fun e he => ⟨e₀, (Except.error.inj he).symm⟩⟩
    · rw [retryFrom_of_ok _ _ _ _ _ _ _ h]
      exact ⟨by rw [← hattempt n w, h], fun e he => by cases he⟩
  | succ left ih =>
    rcases h : attempt n w with ⟨w', calls, e₀ | a⟩
    · rw [retryFrom_of_error _ _ _ _ _ _ _ h]
      obtain ⟨hs, he⟩ := ih (n + 1) (w'.sleep (wait n))
      exact ⟨by rw [hs, World.manager_sleep, ← hattempt n w, h], he⟩
    · rw [retryFrom_of_ok _ _ _ _ _ _ _ h]
      exact ⟨by rw [← hattempt n w, h], fun e he => by cases he⟩

theorem processRequestBody_sessions (sessionId : String) (request : AgentRequest)
    (answer : ProviderCall → Except PyException Response) (w : World) :
    (processRequestBody sessionId request answer w).1.manager.sessions = w.manager.sessions := by
  unfold processRequestBody
  split
  · rfl
  · next hb =>
    obtain ⟨-, rfl⟩ := beginTurn_eq_ok hb
    split <;> rfl

theorem processRequest_spec (sessionId : String) (request : AgentRequest)
    (answer : ℕ → ProviderCall → Except PyException Response) (w : World) :
    (processRequest sessionId request answer w).1.manager.sessions = w.manager.sessions ∧
    ∀ e, (processRequest sessionId request answer w).2.2 = .error e →
      ∃ e', e = .retryError e' :=
  retryFrom_spec _ _ (fun n v => processRequestBody_sessions sessionId request (answer n) v) 1 2 w

theorem streamResponse_sessions (w : World) (sessionId : String) (request : AgentRequest)
    (provider : ProviderCall → ProviderStream) :
    (streamResponse w sessionId request provider).1.manager.sessions = w.manager.sessions := by
  cases h : w.manager.sessions.get? sessionId with
  | none => simp [streamResponse, beginTurn_of_absent _ _ _ _ h]
  | some ref =>
    rw [streamResponse_of_get w sessionId request provider h]
    dsimp only
    split <;> rfl

theorem not_mem_deleteSession (w : World) (sessionId : String) :
    sessionId ∉ (deleteSession w sessionId).manager.sessions.keys := by
  unfold deleteSession
  dsimp only
  split_ifs with h
  · exact PyDict.not_mem_keys_erase _ _
  · exact h

theorem retryError_message_ne (e : PyException) (C : ℤ) :
    (PyException.retryError e).message ≠ (maxSessionsError C).message := by
  intro h
  have := congrArg (fun s : String => s.data.head?) h
  simp [PyException.message, maxSessionsError, String.data_append] at this

theorem createSession_outcome (w : World) (userId : String) (p : Option String) (uuid : String) :
    (w.manager.maxConcurrentSessions ≤ (w.manager.sessions.len : ℤ) ∧
      w.manager.maxConcurrentSessions ≤ (w.unexpired.length : ℤ) ∧
      createSession w userId p uuid =
        ((createSession w userId p uuid).1, .error (maxSessionsError w.manager.maxConcurrentSessions))) ∨
    (¬ (w.manager.maxConcurrentSessions ≤ (w.manager.sessions.len : ℤ) ∧
        w.manager.maxConcurrentSessions ≤ (w.unexpired.length : ℤ)) ∧
      createSession w userId p uuid = ((createSession w userId p uuid).1, .ok uuid) ∧
      uuid ∈ (createSession w userId p uuid).1.manager.sessions.keys) := by
  by_cases hroom : (w.manager.sessions.len : ℤ) < w.manager.maxConcurrentSessions
  · rw [createSession_of_room w userId p uuid hroom]
    exact .inr ⟨fun h => absurd h.1 (not_le.mpr hroom), rfl, PyDict.mem_keys_insert _ _ _⟩
  · rw [createSession_of_full w userId p uuid (not_lt.mp hroom)]
    split_ifs with hswept
    · exact .inl ⟨not_lt.mp hroom, hswept, rfl⟩
    · exact .inr ⟨fun h => hswept h.2, rfl, PyDict.mem_keys_insert _ _ _⟩

section Chat
variable (w : World) (request : AgentRequest) (uuid : String)
  (answer : ℕ → ProviderCall → Except PyException Response)
  (provider : ProviderCall → ProviderStream)

theorem chatThenDelete_of_refused {v : World} {e : PyException}
    (h : createSession w request.userId request.systemPrompt uuid = (v, .error e)) :
    chatThenDelete w request uuid answer provider = (v, .httpError 500 e.message) := by
  simp only [chatThenDelete, chat, h]

theorem chatThenDelete_of_admitted {v : World} (C : ℤ)
    (h : createSession w request.userId request.systemPrompt uuid = (v, .ok uuid))
    (hkey : uuid ∈ v.manager.sessions.keys) :
    (chatThenDelete w request uuid answer provider).2 ≠ .httpError 500 (maxSessionsError C).message ∧
    (uuid ∈ (chatThenDelete w request uuid answer provider).1.manager.sessions.keys ↔
      request.stream = true ∨ (chatThenDelete w request uuid answer provider).2.failed = true) := by
  cases hs : request.stream
  · obtain ⟨hses, herr⟩ := processRequest_spec uuid request answer v
    rcases hp : processRequest uuid request answer v with ⟨v', calls, e | result⟩
    · obtain ⟨e', rfl⟩ := herr e (by rw [hp])
      simp only [hp] at hses
      have hr : chatThenDelete w request uuid answer provider =
          (v', .httpError 500 (PyException.retryError e').message) := by
        simp [chatThenDelete, chat, h, hs, hp]
      rw [hr]
      refine ⟨fun he => retryError_message_ne e' C (ChatResponse.httpError.inj he).2, ?_⟩
      simpa [ChatResponse.failed, hses] using hkey
    · have hr : chatThenDelete w request uuid answer provider =
          (deleteSession v' uuid, .completed ⟨uuid, result.content, result.usage, "completed"⟩) := by
        simp [chatThenDelete, chat, h, hs, hp]
      rw [hr]
      exact ⟨by simp, by simp [ChatResponse.failed, not_mem_deleteSession]⟩
  · have hses := streamResponse_sessions v uuid request provider
    rcases hsr : streamResponse v uuid request provider with ⟨v', e | events⟩
    · simp only [hsr] at hses
      have hr : chatThenDelete w request uuid answer provider = (v', .streaming []) := by
        simp [chatThenDelete, chat, h, hs, hsr]
      rw [hr]
      exact ⟨by simp, by simpa [hses] using hkey⟩
    · simp only [hsr] at hses
      have hr : chatThenDelete w request uuid answer provider = (v', .streaming events) := by
        simp [chatThenDelete, chat, h, hs, hsr]
      rw [hr]
      exact ⟨by simp, by simpa [hses] using hkey⟩

end Chat

/-- One chat from any store, its client deleting any id it is returned. The chat is
    refused for capacity exactly when the store is full before and after the create's
    sweep; an admitted chat's session is still in the store afterwards exactly when the
    chat streamed or failed. -/
theorem chat_refusal_and_leak (w : World) (request : AgentRequest) (uuid : String)
    (answer : ℕ → ProviderCall → Except PyException Response)
    (provider : ProviderCall → ProviderStream) :
    let C : ℤ := w.manager.maxConcurrentSessions
    let r : World × ChatResponse := chatThenDelete w request uuid answer provider
    (r.2 = .httpError 500 (maxSessionsError C).message ↔
      C ≤ (w.manager.sessions.len : ℤ) ∧ C ≤ (w.unexpired.length : ℤ)) ∧
    (r.2 ≠ .httpError 500 (maxSessionsError C).message →
      (uuid ∈ r.1.manager.sessions.keys ↔ request.stream = true ∨ r.2.failed = true)) := by
  intro C r
  rcases createSession_outcome w request.userId request.systemPrompt uuid with
    ⟨hlen, hswept, hc⟩ | ⟨hroom, hc, hkey⟩
  · have hr : r = (_, .httpError 500 (maxSessionsError C).message) :=
      chatThenDelete_of_refused w request uuid answer provider hc
    rw [hr]
    exact ⟨iff_of_true rfl ⟨hlen, hswept⟩, fun h => absurd rfl h⟩
  · obtain ⟨hne, hleak⟩ := chatThenDelete_of_admitted w request uuid answer provider C hc hkey
    exact ⟨iff_of_false hne hroom, fun _ => hleak⟩

theorem chat_refused_after_two_streams :
    let settings : Settings := { Settings.defaults with maxConcurrentRequests := 2 }
    let streamed : AgentRequest := ⟨"Hi", "user-1", 100, 1, true, none, none⟩
    let plain : AgentRequest := ⟨"Hi", "user-1", 100, 1, false, none, none⟩
    (chatSequence (fun _ _ => .ok ⟨[.text "Hello"], ⟨1, 1⟩⟩)
        (fun _ => ⟨["Hello"], .finalMessage ⟨1, 1⟩⟩) (serverStart settings 0)
        [(streamed, "s1"), (streamed, "s2"), (plain, "s3")]).2 =
      [.streaming [dataEvent "Hello", doneEvent], .streaming [dataEvent "Hello", doneEvent],
        .httpError 500 "Maximum concurrent sessions reached: 2"] := by
  decide

end HypercoreAgent
