import HypercoreAgent.Stream

set_option autoImplicit false

/-!
# The event loop

All coroutines of the manager share one asyncio loop, and a task runs undisturbed from one
`await` to the next. A `Task` is a suspended `process_request`, `stream_response` or
`shutdown` call, named by where it waits; resuming it with what it waited for runs its
next block on the shared `World`. `create_session`, `delete_session` and a pass of the
background sweep never suspend, so each is one step. The provider and the clock are the
environment: any answer, fragment or failure may arrive, and time may pass, at any point.
-/

namespace HypercoreAgent

/-- Where a `process_request` call waits within one of tenacity's attempts. -/
inductive RequestPc
  | attempt
  | awaiting (ref : ℕ) (call : ProviderCall)
  | sleeping (wakeAt : ℤ)
  | returned (result : RequestResult)
  | raised (e : PyException)
  deriving DecidableEq, Repr

/-- Where a `stream_response` generator waits: `receiving` is the `async for` over
    `text_stream`, `finishing` awaits `get_final_message()`. -/
inductive StreamPc
  | opening
  | receiving (ref : ℕ) (accumulated : String)
  | finishing (ref : ℕ)
  | closed
  | raised (e : PyException)
  deriving DecidableEq, Repr

/-- `shutdown` before it runs, while it awaits the cancelled sweep, and after. -/
inductive ShutdownPc
  | start
  | clearing
  | done
  deriving DecidableEq, Repr

inductive Task
  | processRequest (sessionId : String) (request : AgentRequest) (attemptNumber : ℕ) (pc : RequestPc)
  | streamResponse (sessionId : String) (request : AgentRequest) (yielded : List String) (pc : StreamPc)
  | shutdown (pc : ShutdownPc)
  deriving DecidableEq, Repr

/-- The session object a suspended task holds in its local `session`. -/
def Task.ref : Task → Option ℕ
  | .processRequest _ _ _ (.awaiting ref _) => some ref
  | .streamResponse _ _ _ (.receiving ref _) => some ref
  | .streamResponse _ _ _ (.finishing ref) => some ref
  | _ => none

/-- A `shutdown` that has raised `is_shutting_down`. -/
def Task.shutdownStarted : Task → Bool
  | .shutdown .clearing => true
  | .shutdown .done => true
  | _ => false

/-- What resumes a task: the loop alone, or what the provider delivered. -/
inductive Event
  | run
  | response (response : Response)
  | fragment (text : String)
  | textEnd
  | finalMessage (usage : Usage)
  | failure (e : PyException)
  deriving DecidableEq, Repr

/-- What a step shows of the provider: the usage it folds into the object at `ref`. -/
inductive Label
  | silent
  | fold (ref : ℕ) (usage : Usage)
  deriving DecidableEq, Repr

/-- tenacity once attempt `n` has raised `e`: back off, or give up after the third. -/
def retryAfter (w : World) (sessionId : String) (request : AgentRequest) (n : ℕ)
    (e : PyException) : Task :=
  if n < 3 then .processRequest sessionId request n (.sleeping (w.clock + waitExponential 1 2 10 n))
  else .processRequest sessionId request n (.raised (.retryError e))

def Task.resume (w : World) : Task → Event → Option (World × Task × Label)
  | .processRequest sessionId request n .attempt, .run =>
    match beginTurn w sessionId request (requestTools request) with
    | .error e => some (w, retryAfter w sessionId request n e, .silent)
    | .ok (w, ref, call) => some (w, .processRequest sessionId request n (.awaiting ref call), .silent)
  | .processRequest sessionId request n (.awaiting ref _), .response response =>
    some ((completeRequest w ref response).1,
      .processRequest sessionId request n (.returned (completeRequest w ref response).2),
      .fold ref response.usage)
  | .processRequest sessionId request n (.awaiting _ _), .failure e =>
    some (w.countError e, retryAfter w sessionId request n e, .silent)
  | .processRequest sessionId request n (.sleeping wakeAt), .run =>
    if wakeAt ≤ w.clock then some (w, .processRequest sessionId request (n + 1) .attempt, .silent)
    else none
  | .streamResponse sessionId request yielded .opening, .run =>
    match beginTurn w sessionId request none with
    | .error e => some (w, .streamResponse sessionId request yielded (.raised e), .silent)
    | .ok (w, ref, _) => some (w, .streamResponse sessionId request yielded (.receiving ref ""), .silent)
  | .streamResponse sessionId request yielded (.receiving ref accumulated), .fragment text =>
    some (w, .streamResponse sessionId request (yielded ++ [dataEvent text])
      (.receiving ref (accumulated ++ text)), .silent)
  | .streamResponse sessionId request yielded (.receiving ref accumulated), .textEnd =>
    some (endStream w ref accumulated, .streamResponse sessionId request yielded (.finishing ref), .silent)
  | .streamResponse sessionId request yielded (.receiving _ _), .failure e =>
    some (w.countError e, .streamResponse sessionId request (yielded ++ [errorEvent e]) .closed, .silent)
  | .streamResponse sessionId request yielded (.finishing ref), .finalMessage usage =>
    some (finishStream w ref usage, .streamResponse sessionId request (yielded ++ [doneEvent]) .closed,
      .fold ref usage)
  | .streamResponse sessionId request yielded (.finishing _), .failure e =>
    some (w.countError e, .streamResponse sessionId request (yielded ++ [errorEvent e]) .closed, .silent)
  | .shutdown .start, .run => some (shutdownBegin w, .shutdown .clearing, .silent)
  | .shutdown .clearing, .run => some (shutdownClear w, .shutdown .done, .silent)
  | _, _ => none

inductive Block (w : World) (t : Task) : World → Label → Prop
  | quiet : Block w t w .silent
  | turn {sessionId : String} {ref : ℕ} (request : AgentRequest) :
      w.manager.sessions.get? sessionId = some ref → Block w t (w.userTurn ref request) .silent
  | recordError (e : PyException) : Block w t (w.countError e) .silent
  | complete {ref : ℕ} (response : Response) : t.ref = some ref →
      Block w t (completeRequest w ref response).1 (.fold ref response.usage)
  | appendReply {ref : ℕ} (accumulated : String) : t.ref = some ref →
      Block w t (endStream w ref accumulated) .silent
  | foldUsage {ref : ℕ} (usage : Usage) : t.ref = some ref →
      Block w t (finishStream w ref usage) (.fold ref usage)
  | raiseFlag : Block w t (shutdownBegin w) .silent
  | clearStore : t = .shutdown .clearing → Block w t (shutdownClear w) .silent

theorem beginTurn_eq_ok {w w' : World} {sessionId : String} {request : AgentRequest}
    {tools : Option (List String)} {ref : ℕ} {call : ProviderCall}
    (h : beginTurn w sessionId request tools = .ok (w', ref, call)) :
    w.manager.sessions.get? sessionId = some ref ∧ w' = w.userTurn ref request := by
  unfold beginTurn at h
  split at h
  · cases h
  · next ref' hget =>
    cases h
    exact ⟨hget, rfl⟩

@[simp] theorem ref_retryAfter (w : World) (sessionId : String) (request : AgentRequest) (n : ℕ)
    (e : PyException) : (retryAfter w sessionId request n e).ref = none := by
  unfold retryAfter; split <;> rfl

@[simp] theorem shutdownStarted_retryAfter (w : World) (sessionId : String)
    (request : AgentRequest) (n : ℕ) (e : PyException) :
    (retryAfter w sessionId request n e).shutdownStarted = false := by
  unfold retryAfter; split <;> rfl

theorem resume_cases {w w' : World} {t t' : Task} {ev : Event} {l : Label}
    (h : t.resume w ev = some (w', t', l)) :
    Block w t w' l ∧
    (t'.ref = none ∨ t'.ref = t.ref ∨ ∃ sessionId, w.manager.sessions.get? sessionId = t'.ref) ∧
    (t'.shutdownStarted = true → t.shutdownStarted = true ∨ w' = shutdownBegin w) := by
  unfold Task.resume at h
  split at h
  · split at h
    · cases h
      exact ⟨.quiet, by simp, by simp⟩
    · next hb =>
      cases h
      obtain ⟨hget, rfl⟩ := beginTurn_eq_ok hb
      exact ⟨.turn _ hget, .inr (.inr ⟨_, hget⟩), by simp [Task.shutdownStarted]⟩
  · cases h
    exact ⟨.complete _ rfl, .inl rfl, by simp [Task.shutdownStarted]⟩
  · cases h
    exact ⟨.recordError _, by simp, by simp⟩
  · split at h
    · cases h
      exact ⟨.quiet, .inl rfl, by simp [Task.shutdownStarted]⟩
    · cases h
  · split at h
    · cases h
      exact ⟨.quiet, .inl rfl, by simp [Task.shutdownStarted]⟩
    · next hb =>
      cases h
      obtain ⟨hget, rfl⟩ := beginTurn_eq_ok hb
      exact ⟨.turn _ hget, .inr (.inr ⟨_, hget⟩), by simp [Task.shutdownStarted]⟩
  · cases h
    exact ⟨.quiet, .inr (.inl rfl), by simp [Task.shutdownStarted]⟩
  · cases h
    exact ⟨.appendReply _ rfl, .inr (.inl rfl), by simp [Task.shutdownStarted]⟩
  · cases h
    exact ⟨.recordError _, .inl rfl, by simp [Task.shutdownStarted]⟩
  · cases h
    exact ⟨.foldUsage _ rfl, .inl rfl, by simp [Task.shutdownStarted]⟩
  · cases h
    exact ⟨.recordError _, .inl rfl, by simp [Task.shutdownStarted]⟩
  · cases h
    exact ⟨.raiseFlag, .inl rfl, fun _ => .inr rfl⟩
  · cases h
    exact ⟨.clearStore rfl, .inl rfl, fun _ => .inl rfl⟩
  · cases h

structure Loop where
  world : World
  tasks : List Task

def Loop.init (settings : Settings) (maxConcurrentSessions sessionTimeout clock : ℤ) :
    Loop :=
  ⟨World.init settings maxConcurrentSessions sessionTimeout clock, []⟩

inductive Action
  | tick (seconds : ℕ)
  | createSession (userId : String) (systemPrompt : Option String) (uuid : String)
  | deleteSession (sessionId : String)
  | reap
  | callProcessRequest (sessionId : String) (request : AgentRequest)
  | callStreamResponse (sessionId : String) (request : AgentRequest)
  | callShutdown
  | resume (task : ℕ) (event : Event)
  deriving DecidableEq, Repr

def Loop.step (s : Loop) : Action → Option (Loop × Label)
  | .tick seconds => some (⟨s.world.sleep seconds, s.tasks⟩, .silent)
  | .createSession userId systemPrompt uuid =>
    some (⟨(createSession s.world userId systemPrompt uuid).1, s.tasks⟩, .silent)
  | .deleteSession sessionId => some (⟨deleteSession s.world sessionId, s.tasks⟩, .silent)
  | .reap =>
    if s.world.manager.cleanupTaskRunning then
      some (⟨cleanupExpiredSessionsSync s.world, s.tasks⟩, .silent)
    else none
  | .callProcessRequest sessionId request =>
    some (⟨s.world, s.tasks ++ [.processRequest sessionId request 1 .attempt]⟩, .silent)
  | .callStreamResponse sessionId request =>
    some (⟨s.world, s.tasks ++ [.streamResponse sessionId request [] .opening]⟩, .silent)
  | .callShutdown => some (⟨s.world, s.tasks ++ [.shutdown .start]⟩, .silent)
  | .resume i event =>
    match s.tasks[i]? with
    | none => none
    | some t => (t.resume s.world event).map fun r => (⟨r.1, s.tasks.set i r.2.1⟩, r.2.2)

inductive Structural (w : World) : World → Prop
  | tick (seconds : ℕ) : Structural w (w.sleep seconds)
  | create (userId : String) (systemPrompt : Option String) (uuid : String) :
      Structural w (createSession w userId systemPrompt uuid).1
  | delete (sessionId : String) : Structural w (deleteSession w sessionId)
  | reap : w.manager.cleanupTaskRunning = true → Structural w (cleanupExpiredSessionsSync w)

theorem step_cases {s u : Loop} {a : Action} {l : Label} (h : s.step a = some (u, l)) :
    (l = .silent ∧ u.tasks = s.tasks ∧ Structural s.world u.world) ∨
    (l = .silent ∧ u.world = s.world ∧
      ∃ t, t.ref = none ∧ t.shutdownStarted = false ∧ u.tasks = s.tasks ++ [t]) ∨
    (∃ i t t' ev, s.tasks[i]? = some t ∧ t.resume s.world ev = some (u.world, t', l) ∧
      u.tasks = s.tasks.set i t') := by
  cases a with
  | tick seconds => cases h; exact .inl ⟨rfl, rfl, .tick seconds⟩
  | createSession userId p uuid => cases h; exact .inl ⟨rfl, rfl, .create userId p uuid⟩
  | deleteSession sessionId => cases h; exact .inl ⟨rfl, rfl, .delete sessionId⟩
  | reap =>
    simp only [Loop.step] at h
    split at h
    · next hrun => cases h; exact .inl ⟨rfl, rfl, .reap hrun⟩
    · cases h
  | callProcessRequest sessionId request =>
    cases h; exact .inr (.inl ⟨rfl, rfl, .processRequest sessionId request 1 .attempt, rfl, rfl, rfl⟩)
  | callStreamResponse sessionId request =>
    cases h; exact .inr (.inl ⟨rfl, rfl, .streamResponse sessionId request [] .opening, rfl, rfl, rfl⟩)
  | callShutdown => cases h; exact .inr (.inl ⟨rfl, rfl, .shutdown .start, rfl, rfl, rfl⟩)
  | resume i ev =>
    simp only [Loop.step] at h
    split at h
    · cases h
    · next t ht =>
      obtain ⟨⟨w', t', l'⟩, hr, hu⟩ := Option.map_eq_some'.mp h
      cases hu
      exact .inr (.inr ⟨i, t, t', ev, ht, hr, rfl⟩)

inductive Run : Loop → List Label → Loop → Prop
  | refl (s : Loop) : Run s [] s
  | next {s u v : Loop} {a : Action} {l : Label} {ls : List Label} :
      s.step a = some (u, l) → Run u ls v → Run s (l :: ls) v

theorem Run.trans {s u v : Loop} {ls ls' : List Label} (h : Run s ls u) (h' : Run u ls' v) :
    Run s (ls ++ ls') v := by
  induction h with
  | refl => exact h'
  | next hs _ ih => exact .next hs (ih h')

theorem Run.single {s u : Loop} {a : Action} {l : Label} (h : s.step a = some (u, l)) :
    Run s [l] u :=
  .next h (.refl u)

theorem step_resume {s : Loop} {i : ℕ} {t t' : Task} {ev : Event} {w : World} {l : Label}
    (hi : s.tasks[i]? = some t) (h : t.resume s.world ev = some (w, t', l)) :
    s.step (.resume i ev) = some (⟨w, s.tasks.set i t'⟩, l) := by
  simp [Loop.step, hi, h]

theorem Run.invariant (I : Loop → Prop)
    (hstep : ∀ s a u l, I s → s.step a = some (u, l) → I u) {s v : Loop} {ls : List Label}
    (h : Run s ls v) (hs : I s) : I v := by
  induction h with
  | refl => exact hs
  | next hsu _ ih => exact ih (hstep _ _ _ _ hs hsu)

def Loop.runActions (s : Loop) : List Action → Option (Loop × List Label)
  | [] => some (s, [])
  | a :: as =>
    match s.step a with
    | none => none
    | some (u, l) => (u.runActions as).map fun r => (r.1, l :: r.2)

theorem run_of_runActions {s v : Loop} {as : List Action} {ls : List Label}
    (h : s.runActions as = some (v, ls)) : Run s ls v := by
  induction as generalizing s ls with
  | nil =>
    simp only [Loop.runActions, Option.some.injEq, Prod.mk.injEq] at h
    obtain ⟨rfl, rfl⟩ := h
    exact .refl _
  | cons a as ih =>
    simp only [Loop.runActions] at h
    split at h
    · cases h
    · next u l hstep =>
      obtain ⟨⟨v', ls'⟩, hrun, hv⟩ := Option.map_eq_some'.mp h
      simp only [Prod.mk.injEq] at hv
      obtain ⟨rfl, rfl⟩ := hv
      exact .next hstep (ih hrun)

theorem reaches_of_runActions {s : Loop} {as : List Action} {p : Loop → Bool}
    (h : (s.runActions as).map (fun r => p r.1) = some true) :
    ∃ v ls, Run s ls v ∧ p v = true := by
  obtain ⟨⟨v, ls⟩, hrun, hp⟩ := Option.map_eq_some'.mp h
  exact ⟨v, ls, run_of_runActions hrun, hp⟩

end HypercoreAgent
