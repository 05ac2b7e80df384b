import HypercoreAgent.Pipeline

set_option autoImplicit false

namespace HypercoreAgent

/-- `asyncio.sleep(seconds)` with nothing else running. -/
def World.sleep (w : World) (seconds : ℕ) : World := { w with clock := w.clock + seconds }

/-- `wait_exponential(multiplier, min, max)`: seconds slept after failed attempt `n`. -/
def waitExponential (multiplier min max n : ℕ) : ℕ :=
  Nat.max (Nat.max 0 min) (Nat.min (multiplier * Nat.pow 2 (n - 1)) max)

/-- `AsyncRetrying` from attempt `n` with `left` more attempts allowed. -/
def retryFrom {α : Type} (wait : ℕ → ℕ)
    (attempt : ℕ → World → World × List ProviderCall × Except PyException α) (n left : ℕ)
    (w : World) : World × List ProviderCall × Except PyException α :=
  match attempt n w, left with
  | (w', calls, .ok a), _ => (w', calls, .ok a)
  | (w', calls, .error e), 0 => (w', calls, .error (.retryError e))
  | (w', calls, .error _), left + 1 =>
    let (w'', calls', r) := retryFrom wait attempt (n + 1) left (w'.sleep (wait n))
    (w'', calls ++ calls', r)

/-- `@retry(stop=stop_after_attempt(stop), wait=wait)`. -/
def retry {α : Type} (stop : ℕ) (wait : ℕ → ℕ)
    (attempt : ℕ → World → World × List ProviderCall × Except PyException α) (w : World) :
    World × List ProviderCall × Except PyException α :=
  retryFrom wait attempt 1 (stop - 1) w

def processRequestBody (sessionId : String) (request : AgentRequest)
    (answer : ProviderCall → Except PyException Response) (w : World) :
    World × List ProviderCall × Except PyException RequestResult :=
  match beginTurn w sessionId request (requestTools request) with
  | .error e => (w, [], .error e)
  | .ok (w, ref, call) =>
    match answer call with
    | .ok response =>
      let (w, result) := completeRequest w ref response
      (w, [call], .ok result)
    | .error e => (w.countError e, [call], .error e)

def processRequest (sessionId : String) (request : AgentRequest)
    (answer : ℕ → ProviderCall → Except PyException Response) (w : World) :
    World × List ProviderCall × Except PyException RequestResult :=
  retry 3 (waitExponential 1 2 10) (fun n => processRequestBody sessionId request (answer n)) w

section Retry
variable {α : Type} (wait : ℕ → ℕ)
  (attempt : ℕ → World → World × List ProviderCall × Except PyException α)
  (n left : ℕ) (w w' : World) (calls : List ProviderCall)

theorem retryFrom_of_ok {a : α} (h : attempt n w = (w', calls, .ok a)) :
    retryFrom wait attempt n left w = (w', calls, .ok a) := by
  rw [retryFrom.eq_def, h]

theorem retryFrom_of_last {e : PyException} (h : attempt n w = (w', calls, .error e)) :
    retryFrom wait attempt n 0 w = (w', calls, .error (.retryError e)) := by
  rw [retryFrom.eq_def, h]

theorem retryFrom_of_error {e : PyException} (h : attempt n w = (w', calls, .error e)) :
    retryFrom wait attempt n (left + 1) w =
      let r := retryFrom wait attempt (n + 1) left (w'.sleep (wait n))
      (r.1, calls ++ r.2.1, r.2.2) := by
  rw [retryFrom.eq_def, h]

theorem retryFrom_always_error (e : ℕ → PyException) (P : World → Prop)
    (hP : ∀ m v, P v → (attempt m v).2.2 = .error (e m) ∧ P ((attempt m v).1.sleep (wait m))) :
    ∀ (n left : ℕ) (w : World), P w →
      (retryFrom wait attempt n left w).2.2 = .error (.retryError (e (n + left))) := by
  intro n left
  induction left generalizing n with
  | zero =>
    intro w hw
    rcases h : attempt n w with ⟨w', calls, r⟩
    obtain ⟨he, -⟩ := hP n w hw
    rw [h] at he
    subst he
    rw [retryFrom_of_last _ _ _ _ _ _ h]
    rfl
  | succ left ih =>
    intro w hw
    rcases h : attempt n w with ⟨w', calls, r⟩
    obtain ⟨he, hw'⟩ := hP n w hw
    rw [h] at he hw'
    subst he
    rw [retryFrom_of_error _ _ _ _ _ _ _ h, ih (n + 1) _ hw', Nat.add_right_comm, Nat.add_assoc]

end Retry

@[simp] theorem World.manager_sleep (w : World) (s : ℕ) : (w.sleep s).manager = w.manager := rfl
@[simp] theorem World.heap_sleep (w : World) (s : ℕ) : (w.sleep s).heap = w.heap := rfl
@[simp] theorem World.settings_sleep (w : World) (s : ℕ) : (w.sleep s).settings = w.settings := rfl

section Body
variable (sessionId : String) (request : AgentRequest)
  (answer : ProviderCall → Except PyException Response) (w : World)

def World.userTurn (w : World) (ref : ℕ) (request : AgentRequest) : World :=
  w.modifySession ref (·.addMessage "user" request.prompt w.clock)

theorem body_of_absent (h : w.manager.sessions.get? sessionId = none) :
    processRequestBody sessionId request answer w = (w, [], .error (notFoundError sessionId)) := by
  simp [processRequestBody, beginTurn_of_absent _ _ _ _ h]

theorem body_of_error {ref : ℕ} {e : PyException}
    (h : w.manager.sessions.get? sessionId = some ref)
    (ha : answer (providerCall (w.userTurn ref request) ref request (requestTools request)) =
      .error e) :
    processRequestBody sessionId request answer w =
      ((w.userTurn ref request).countError e,
        [providerCall (w.userTurn ref request) ref request (requestTools request)], .error e) := by
  simp only [processRequestBody, beginTurn_of_get _ _ _ _ h]
  rw [World.userTurn] at ha
  rw [ha, World.userTurn]

theorem body_of_ok {ref : ℕ} {response : Response}
    (h : w.manager.sessions.get? sessionId = some ref)
    (ha : answer (providerCall (w.userTurn ref request) ref request (requestTools request)) =
      .ok response) :
    processRequestBody sessionId request answer w =
      ((completeRequest (w.userTurn ref request) ref response).1,
        [providerCall (w.userTurn ref request) ref request (requestTools request)],
        .ok (completeRequest (w.userTurn ref request) ref response).2) := by
  simp only [processRequestBody, beginTurn_of_get _ _ _ _ h]
  rw [World.userTurn] at ha
  rw [ha, World.userTurn]

@[simp] theorem World.manager_userTurn (w : World) (ref : ℕ) (request : AgentRequest) :
    (w.userTurn ref request).manager = w.manager := rfl

@[simp] theorem World.heap_userTurn_self (w : World) (ref : ℕ) (request : AgentRequest) :
    (w.userTurn ref request).heap ref = (w.heap ref).addMessage "user" request.prompt w.clock := by
  simp [World.userTurn]

theorem World.history_userTurn (w : World) (ref : ℕ) (request : AgentRequest) :
    ((w.userTurn ref request).heap ref).messageHistory =
      (w.heap ref).messageHistory ++ [⟨"user", request.prompt⟩] := by
  simp [World.userTurn]

theorem World.count_countError (w : World) (e : PyException) (t : String) :
    (w.countError e).manager.stats.errors.count t =
      w.manager.stats.errors.count t + if t = e.typeName then 1 else 0 :=
  PyDict.count_increment _ _ _

@[simp] theorem World.totalRequests_countError (w : World) (e : PyException) :
    (w.countError e).manager.stats.totalRequests = w.manager.stats.totalRequests := rfl

@[simp] theorem World.totalTokens_countError (w : World) (e : PyException) :
    (w.countError e).manager.stats.totalTokens = w.manager.stats.totalTokens := rfl

theorem history_completeRequest (w : World) (ref : ℕ) (response : Response) :
    ((completeRequest w ref response).1.heap ref).messageHistory =
      (w.heap ref).messageHistory ++ [⟨"assistant", extractContent response.content⟩] := by
  simp [completeRequest_heap]

@[simp] theorem totalRequests_completeRequest (w : World) (ref : ℕ) (response : Response) :
    (completeRequest w ref response).1.manager.stats.totalRequests =
      w.manager.stats.totalRequests + 1 := rfl

@[simp] theorem totalTokens_completeRequest (w : World) (ref : ℕ) (response : Response) :
    (completeRequest w ref response).1.manager.stats.totalTokens =
      w.manager.stats.totalTokens + (response.usage.inputTokens + response.usage.outputTokens) :=
  rfl

end Body

section Retries
variable (sessionId : String) (request : AgentRequest)
  (answer : ℕ → ProviderCall → Except PyException Response) (ref : ℕ)

theorem process_request_retries (e : ℕ → PyException) (r : Response) (j : ℕ) :
    ∀ (n left : ℕ) (w : World), j ≤ left → w.manager.sessions.get? sessionId = some ref →
    (∀ i < j, ∀ c, answer (n + i) c = .error (e (n + i))) → (∀ c, answer (n + j) c = .ok r) →
    let out := retryFrom (waitExponential 1 2 10)
      (fun n => processRequestBody sessionId request (answer n)) n left w
    (∃ result, out.2.2 = .ok result) ∧
    (out.1.heap ref).messageHistory = (w.heap ref).messageHistory ++
      List.replicate (j + 1) ⟨"user", request.prompt⟩ ++
        [⟨"assistant", extractContent r.content⟩] ∧
    out.2.1.map ProviderCall.messages = (List.range (j + 1)).map (fun i =>
      (w.heap ref).messageHistory ++ List.replicate (i + 1) ⟨"user", request.prompt⟩) ∧
    (∀ t, out.1.manager.stats.errors.count t = w.manager.stats.errors.count t +
      (List.range j).countP (fun i => t = (e (n + i)).typeName)) ∧
    out.1.manager.stats.totalRequests = w.manager.stats.totalRequests + 1 ∧
    out.1.manager.stats.totalTokens =
      w.manager.stats.totalTokens + (r.usage.inputTokens + r.usage.outputTokens) := by
  induction j with
  | zero =>
    intro n left w _ hget _ hok
    rw [retryFrom_of_ok _ _ _ _ _ _ _
      (body_of_ok sessionId request (answer n) w hget (hok _))]
    refine ⟨⟨_, rfl⟩, ?_, ?_, fun t => by simp, by simp, by simp⟩
    · simp [history_completeRequest, World.history_userTurn]
    · simp [World.history_userTurn, List.range_succ]
  | succ j ih =>
    intro n left w hleft hget herr hok
    obtain ⟨left, rfl⟩ : ∃ l, left = l + 1 := ⟨left - 1, by omega⟩
    have h₀ : ∀ c, answer n c = .error (e n) := fun c => by simpa using herr 0 (by omega) c
    rw [retryFrom_of_error _ _ _ _ _ _ _ (body_of_error sessionId request (answer n) w hget (h₀ _))]
    dsimp only
    set w₁ := ((w.userTurn ref request).countError (e n)).sleep (waitExponential 1 2 10 n)
    obtain ⟨hres, hhist, hcalls, hcount, hreq, htok⟩ := ih (n + 1) left w₁ (by omega) hget
      (fun i hi c => by simpa [Nat.add_assoc, Nat.add_comm 1] using herr (i + 1) (by omega) c)
      (fun c => by simpa [Nat.add_assoc, Nat.add_comm 1] using hok c)
    have hist₁ : (w₁.heap ref).messageHistory =
        (w.heap ref).messageHistory ++ [⟨"user", request.prompt⟩] := World.history_userTurn ..
    refine ⟨hres, ?_, ?_, fun t => ?_, by simpa [w₁] using hreq, by simpa [w₁] using htok⟩
    · rw [hhist, hist₁]
      simp [List.replicate_succ]
    · rw [List.map_append, hcalls, hist₁, List.range_succ_eq_map (j + 1)]
      simp [World.history_userTurn, List.replicate_succ]
    · have shift : ∀ i, n + 1 + i = n + (i + 1) := fun i => by omega
      rw [hcount, show w₁.manager.stats.errors.count t =
          w.manager.stats.errors.count t + if t = (e n).typeName then 1 else 0 from
          World.count_countError _ _ _, List.range_succ_eq_map, List.countP_cons, List.countP_map]
      simp only [Function.comp_def, shift, Nat.succ_eq_add_one, Nat.add_zero, decide_eq_true_eq]
      omega

def oneSession : World :=
  (createSession (World.init Settings.defaults 10 300 0) "user-1" none "s1").1

/-- One rate-limited attempt, then an answer: the prompt is in the history twice, the
    second call sends it twice, and the absorbed failure is counted. -/
theorem process_request_retry_repeats_prompt :
    let out : World × List ProviderCall × Except PyException RequestResult :=
      processRequest "s1" ⟨"Hello", "user-1", 100, 1, false, none, none⟩
      (fun n _ => if n = 1 then .error (.error "RateLimitError" "rate limited")
        else .ok ⟨[.text "Hi"], ⟨10, 20⟩⟩) oneSession
    (out.1.heap 0).messageHistory = [⟨"user", "Hello"⟩, ⟨"user", "Hello"⟩, ⟨"assistant", "Hi"⟩] ∧
    out.1.manager.stats.errors.count "RateLimitError" = 1 ∧
    out.2.1.map ProviderCall.messages =
      [[⟨"user", "Hello"⟩], [⟨"user", "Hello"⟩, ⟨"user", "Hello"⟩]] := by
  decide

theorem process_request_absent (w : World) (h : w.manager.sessions.get? sessionId = none) :
    processRequest sessionId request answer w =
      ((w.sleep 2).sleep 2, [], .error (.retryError (notFoundError sessionId))) := by
  have body : ∀ n (v : World), v.manager = w.manager →
      processRequestBody sessionId request (answer n) v = (v, [], .error (notFoundError sessionId)) :=
    fun n v hv => body_of_absent _ _ _ _ (hv ▸ h)
  show retryFrom (waitExponential 1 2 10) _ 1 (0 + 1 + 1) w = _
  rw [retryFrom_of_error _ _ _ _ _ _ _ (body 1 w rfl),
    retryFrom_of_error _ _ _ _ _ _ _ (body 2 (w.sleep 2) rfl),
    retryFrom_of_last _ _ _ _ _ _ (body 3 ((w.sleep 2).sleep 2) rfl)]
  rfl

/-- An unknown id: the caller gets `RetryError` four seconds later, not the
    `Session not found` exception. -/
theorem process_request_missing_session_retried
    (answer : ℕ → ProviderCall → Except PyException Response) :
    let w : World := World.init Settings.defaults 10 300 0
    processRequest "missing" ⟨"Hello", "user-1", 100, 1, false, none, none⟩ answer w =
      ((w.sleep 2).sleep 2, [], .error (.retryError (notFoundError "missing"))) :=
  process_request_absent _ _ _ _ (by decide)

theorem process_request_exhausted (w : World) (e : ℕ → PyException)
    (hget : w.manager.sessions.get? sessionId = some ref)
    (herr : ∀ n c, answer n c = .error (e n)) :
    (processRequest sessionId request answer w).2.2 = .error (.retryError (e 3)) := by
  refine retryFrom_always_error _ _ e (fun v => v.manager.sessions = w.manager.sessions)
    (fun n v hv => ⟨?_, ?_⟩) 1 2 w rfl
  · rw [body_of_error sessionId request (answer n) v (hv ▸ hget) (herr n _)]
  · rw [body_of_error sessionId request (answer n) v (hv ▸ hget) (herr n _)]
    exact hv

end Retries
end HypercoreAgent
