import HypercoreAgent.Tasks

set_option autoImplicit false

namespace HypercoreAgent

/-- How a finished `process_request` task holds the coroutine's outcome. -/
def RequestPc.ofResult : Except PyException RequestResult → RequestPc
  | .ok result => .returned result
  | .error e => .raised e

theorem getElem?_set_of_getElem? {l : List Task} {i : ℕ} {t t' : Task} (hi : l[i]? = some t) :
    (l.set i t')[i]? = some t' :=
  List.getElem?_set_self (List.getElem?_eq_some_iff.mp hi).1

theorem step_resume_set {w w' : World} {tasks : List Task} {i : ℕ} {t t' : Task} (ev : Event)
    {l : Label} (hlen : i < tasks.length) (h : t.resume w ev = some (w', t', l)) :
    Loop.step ⟨w, tasks.set i t⟩ (.resume i ev) = some (⟨w', tasks.set i t'⟩, l) := by
  rw [@step_resume ⟨w, tasks.set i t⟩ i t t' ev w' l (List.getElem?_set_self hlen) h, List.set_set]

theorem processRequestBody_clock (sessionId : String) (request : AgentRequest)
    (answer : ProviderCall → Except PyException Response) (w : World) :
    (processRequestBody sessionId request answer w).1.clock = w.clock := by
  unfold processRequestBody
  split
  · rfl
  · next hb =>
    obtain ⟨-, rfl⟩ := beginTurn_eq_ok hb
    split <;> rfl

theorem retryAfter_congr {w w' : World} (h : w.clock = w'.clock) (sessionId : String)
    (request : AgentRequest) (n : ℕ) (e : PyException) :
    retryAfter w sessionId request n e = retryAfter w' sessionId request n e := by
  simp only [retryAfter, h]

section Request
variable (sessionId : String) (request : AgentRequest)
  (answer : ℕ → ProviderCall → Except PyException Response)

theorem attempt_run {s : Loop} {i n : ℕ}
    (hi : s.tasks[i]? = some (.processRequest sessionId request n .attempt)) :
    ∃ ls, (∀ result, (processRequestBody sessionId request (answer n) s.world).2.2 = .ok result →
        Run s ls ⟨(processRequestBody sessionId request (answer n) s.world).1,
          s.tasks.set i (.processRequest sessionId request n (.returned result))⟩) ∧
      (∀ e, (processRequestBody sessionId request (answer n) s.world).2.2 = .error e →
        Run s ls ⟨(processRequestBody sessionId request (answer n) s.world).1,
          s.tasks.set i (retryAfter s.world sessionId request n e)⟩) := by
  cases hget : s.world.manager.sessions.get? sessionId with
  | none =>
    rw [body_of_absent sessionId request (answer n) s.world hget]
    refine ⟨[.silent], fun _ h => (by cases h), fun e h => ?_⟩
    cases h
    exact .single (@step_resume _ i _ _ .run _ _ hi (by unfold Task.resume; simp [beginTurn_of_absent _ _ _ _ hget]))
  | some ref =>
    let call := providerCall (s.world.userTurn ref request) ref request (requestTools request)
    let waiting : Task := .processRequest sessionId request n (.awaiting ref call)
    have first : s.step (.resume i .run) =
        some (⟨s.world.userTurn ref request, s.tasks.set i waiting⟩, .silent) :=
      step_resume hi (by unfold Task.resume; simp [beginTurn_of_get _ _ _ _ hget, waiting, call, World.userTurn])
    let mid : Loop := ⟨s.world.userTurn ref request, s.tasks.set i waiting⟩
    have hi' : mid.tasks[i]? = some waiting := getElem?_set_of_getElem? hi
    cases ha : answer n call with
    | ok response =>
      rw [body_of_ok sessionId request (answer n) s.world hget ha]
      refine ⟨[.silent, .fold ref response.usage], fun result h => ?_, fun _ h => (by cases h)⟩
      cases h
      refine .next first (@Run.single _ _ (.resume i (.response response)) _ ?_)
      simpa [List.set_set] using @step_resume mid i waiting _ (.response response) _ _ hi' rfl
    | error e =>
      rw [body_of_error sessionId request (answer n) s.world hget ha]
      refine ⟨[.silent, .silent], fun _ h => (by cases h), fun e' h => ?_⟩
      cases h
      refine .next first (@Run.single _ _ (.resume i (.failure e)) _ ?_)
      simpa [List.set_set] using @step_resume mid i waiting _ (.failure e) _ _ hi' rfl

theorem backoff_run {s : Loop} {i n : ℕ} {e : PyException} (hn : n < 3)
    (hi : s.tasks[i]? = some (retryAfter s.world sessionId request n e)) :
    Run s [.silent, .silent] ⟨s.world.sleep (waitExponential 1 2 10 n),
      s.tasks.set i (.processRequest sessionId request (n + 1) .attempt)⟩ := by
  let d := waitExponential 1 2 10 n
  let sleeping : Task := .processRequest sessionId request n (.sleeping (s.world.clock + d))
  let later : Loop := ⟨s.world.sleep d, s.tasks⟩
  have hi' : later.tasks[i]? = some sleeping := by
    rw [← show retryAfter s.world sessionId request n e = sleeping from if_pos hn]
    exact hi
  refine .next (show s.step (.tick d) = some (later, .silent) from rfl)
    (@Run.single _ _ (.resume i .run) _ ?_)
  exact @step_resume later i sleeping _ .run _ _ hi' (by unfold Task.resume; simp [sleeping, later, World.sleep])

theorem retry_run (left : ℕ) : ∀ {s : Loop} {i n : ℕ}, n + left = 3 →
    s.tasks[i]? = some (.processRequest sessionId request n .attempt) →
    ∃ ls m, Run s ls
      ⟨(retryFrom (waitExponential 1 2 10) (fun n => processRequestBody sessionId request (answer n))
          n left s.world).1,
        s.tasks.set i (.processRequest sessionId request m (RequestPc.ofResult
          (retryFrom (waitExponential 1 2 10) (fun n => processRequestBody sessionId request (answer n))
            n left s.world).2.2))⟩ := by
  induction left with
  | zero =>
    intro s i n hn hi
    obtain ⟨ls, hok, herr⟩ := attempt_run sessionId request answer hi
    rcases hr : processRequestBody sessionId request (answer n) s.world with ⟨w', calls, e | result⟩
    · rw [retryFrom_of_last _ _ _ _ _ _ hr]
      have hgive : retryAfter s.world sessionId request n e =
          .processRequest sessionId request n (.raised (.retryError e)) := if_neg (by omega)
      refine ⟨ls, n, ?_⟩
      simpa [hr, hgive, RequestPc.ofResult] using herr e (by rw [hr])
    · rw [retryFrom_of_ok _ _ _ _ _ _ _ hr]
      exact ⟨ls, n, by simpa [hr, RequestPc.ofResult] using hok result (by rw [hr])⟩
  | succ left ih =>
    intro s i n hn hi
    obtain ⟨ls, hok, herr⟩ := attempt_run sessionId request answer hi
    rcases hr : processRequestBody sessionId request (answer n) s.world with ⟨w', calls, e | result⟩
    · rw [retryFrom_of_error _ _ _ _ _ _ _ hr]
      have hclock : s.world.clock = w'.clock := by
        rw [← processRequestBody_clock sessionId request (answer n) s.world, hr]
      have h₁ : Run s ls ⟨w', s.tasks.set i (retryAfter w' sessionId request n e)⟩ := by
        simpa [hr, retryAfter_congr hclock] using herr e (by rw [hr])
      have h₂ := @backoff_run sessionId request ⟨w', s.tasks.set i (retryAfter w' sessionId request n e)⟩
        i n e (by omega) (getElem?_set_of_getElem? hi)
      obtain ⟨ls', m, h₃⟩ := @ih ⟨w'.sleep (waitExponential 1 2 10 n),
        (s.tasks.set i (retryAfter w' sessionId request n e)).set i
          (.processRequest sessionId request (n + 1) .attempt)⟩ i (n + 1) (by omega)
        (getElem?_set_of_getElem? (getElem?_set_of_getElem? hi))
      refine ⟨ls ++ [.silent, .silent] ++ ls', m, (h₁.trans h₂).trans ?_⟩
      simpa only [List.set_set] using h₃
    · rw [retryFrom_of_ok _ _ _ _ _ _ _ hr]
      exact ⟨ls, n, by simpa [hr, RequestPc.ofResult] using hok result (by rw [hr])⟩

theorem processRequest_solo {s : Loop} {i : ℕ}
    (hi : s.tasks[i]? = some (.processRequest sessionId request 1 .attempt)) :
    ∃ ls m, Run s ls ⟨(processRequest sessionId request answer s.world).1,
      s.tasks.set i (.processRequest sessionId request m
        (RequestPc.ofResult (processRequest sessionId request answer s.world).2.2))⟩ :=
  retry_run sessionId request answer 2 rfl hi

end Request

section Stream
variable (sessionId : String) (request : AgentRequest)

/-- How a drained `stream_response` task holds the generator's outcome. -/
def streamTaskOf (sessionId : String) (request : AgentRequest) :
    Except PyException (List String) → Task
  | .ok events => .streamResponse sessionId request events .closed
  | .error e => .streamResponse sessionId request [] (.raised e)

theorem fragments_run (w : World) {tasks : List Task} {i : ℕ} (ref : ℕ) (hlen : i < tasks.length)
    (texts : List String) : ∀ (yielded : List String) (accumulated : String),
    Run ⟨w, tasks.set i (.streamResponse sessionId request yielded (.receiving ref accumulated))⟩
      (texts.map fun _ => .silent)
      ⟨w, tasks.set i (.streamResponse sessionId request (yielded ++ texts.map dataEvent)
        (.receiving ref (accumulated ++ String.join texts)))⟩ := by
  induction texts with
  | nil => intro yielded accumulated; simpa [String.join, String.append_empty] using Run.refl _
  | cons t ts ih =>
    intro yielded accumulated
    refine .next (step_resume_set (.fragment t) hlen rfl) ?_
    simpa [string_join_cons, String.append_assoc] using ih (yielded ++ [dataEvent t]) (accumulated ++ t)

theorem streamResponse_solo (provider : ProviderCall → ProviderStream) {s : Loop} {i : ℕ}
    (hi : s.tasks[i]? = some (.streamResponse sessionId request [] .opening)) :
    ∃ ls, Run s ls ⟨(streamResponse s.world sessionId request provider).1,
      s.tasks.set i (streamTaskOf sessionId request (streamResponse s.world sessionId request provider).2)⟩ := by
  have hlen : i < s.tasks.length := (List.getElem?_eq_some_iff.mp hi).1
  cases hget : s.world.manager.sessions.get? sessionId with
  | none =>
    have habsent : streamResponse s.world sessionId request provider =
        (s.world, .error (notFoundError sessionId)) := by
      simp [streamResponse, beginTurn_of_absent _ _ _ _ hget]
    rw [habsent]
    exact ⟨[.silent], .single (@step_resume _ i _ _ .run _ _ hi
      (by unfold Task.resume; simp [beginTurn_of_absent _ _ _ _ hget, streamTaskOf]))⟩
  | some ref =>
    rw [streamResponse_of_get s.world sessionId request provider hget]
    dsimp only
    generalize provider (providerCall (s.world.userTurn ref request) ref request none) = p
    obtain ⟨texts, ending⟩ := p
    let w₁ := s.world.userTurn ref request
    have first : s.step (.resume i .run) =
        some (⟨w₁, s.tasks.set i (.streamResponse sessionId request [] (.receiving ref ""))⟩, .silent) :=
      step_resume hi (by unfold Task.resume; simp [beginTurn_of_get _ _ _ _ hget, w₁, World.userTurn])
    have frags := fragments_run sessionId request w₁ ref hlen texts [] ""
    simp only [List.nil_append, String.empty_append] at frags
    have start := Run.next first frags
    cases ending with
    | finalMessage usage =>
      exact ⟨_, start.trans (.next (step_resume_set .textEnd hlen rfl)
        (.single (step_resume_set (.finalMessage usage) hlen rfl)))⟩
    | breaks e => exact ⟨_, start.trans (.single (step_resume_set (.failure e) hlen rfl))⟩
    | finalFails e =>
      exact ⟨_, start.trans (.next (step_resume_set .textEnd hlen rfl)
        (.single (step_resume_set (.failure e) hlen rfl)))⟩

end Stream

end HypercoreAgent
