import HypercoreAgent.Service
import HypercoreAgent.Solo

set_option autoImplicit false

namespace HypercoreAgent

theorem getElem?_append_length (tasks : List Task) (t : Task) :
    (tasks ++ [t])[tasks.length]? = some t := by
  simp

theorem chat_run (u : Loop) (request : AgentRequest) (uuid : String)
    (answer : ℕ → ProviderCall → Except PyException Response)
    (provider : ProviderCall → ProviderStream) :
    ∃ ls v, Run u ls v ∧ v.world = (chat u.world request uuid answer provider).1 := by
  have hcreate : u.step (.createSession request.userId request.systemPrompt uuid) =
      some (⟨(createSession u.world request.userId request.systemPrompt uuid).1, u.tasks⟩,
        .silent) := rfl
  unfold chat
  rcases hc : createSession u.world request.userId request.systemPrompt uuid with
    ⟨w₁, e | sessionId⟩ <;> rw [hc] at hcreate
  · exact ⟨_, _, .single hcreate, rfl⟩
  · dsimp only
    split
    · case isTrue =>
      obtain ⟨ls, hrun⟩ := streamResponse_solo sessionId request provider
        (s := ⟨w₁, u.tasks ++ [.streamResponse sessionId request [] .opening]⟩)
        (getElem?_append_length _ _)
      refine ⟨_, _, .next hcreate (.next (a := .callStreamResponse sessionId request) rfl hrun), ?_⟩
      show (streamResponse w₁ sessionId request provider).1 = _
      rcases streamResponse w₁ sessionId request provider with ⟨w₂, e | events⟩ <;> rfl
    · case isFalse =>
      obtain ⟨ls, m, hrun⟩ := processRequest_solo sessionId request answer
        (s := ⟨w₁, u.tasks ++ [.processRequest sessionId request 1 .attempt]⟩)
        (getElem?_append_length _ _)
      refine ⟨_, _, .next hcreate (.next (a := .callProcessRequest sessionId request) rfl hrun), ?_⟩
      show (processRequest sessionId request answer w₁).1 = _
      rcases processRequest sessionId request answer w₁ with ⟨w₂, calls, e | result⟩ <;> rfl

theorem signal_run (u : Loop) :
    ∃ ls v, Run u ls v ∧ v.world = shutdownClear (shutdownBegin u.world) := by
  let s₁ : Loop := ⟨u.world, u.tasks ++ [.shutdown .start]⟩
  have hi : s₁.tasks[u.tasks.length]? = some (.shutdown .start) := getElem?_append_length _ _
  have hbegin : (Task.shutdown .start).resume s₁.world .run =
      some (shutdownBegin u.world, .shutdown .clearing, .silent) := rfl
  have hclear : (Task.shutdown .clearing).resume (shutdownBegin u.world) .run =
      some (shutdownClear (shutdownBegin u.world), .shutdown .done, .silent) := rfl
  exact ⟨_, _, .next (a := .callShutdown) rfl (.next (step_resume hi hbegin)
    (.single (step_resume (getElem?_set_of_getElem? hi) hclear))), rfl⟩

theorem handle_run {s : Server} {u : Loop} (hu : u.world = s.world) (call : ServerCall) :
    ∃ ls v, Run u ls v ∧ v.world = (s.handle call).1.world := by
  cases call with
  | chat request uuid answer provider =>
    obtain ⟨ls, v, hrun, hv⟩ := chat_run u request uuid answer provider
    refine ⟨ls, v, hrun, hv.trans ?_⟩
    rw [hu, ← chatMetered_chat]
    rfl
  | deleteSession sessionId => exact ⟨_, _, .single (a := .deleteSession sessionId) rfl, hu ▸ rfl⟩
  | getStats | ready | health => exact ⟨[], u, .refl u, hu⟩
  | signal =>
    obtain ⟨ls, v, hrun, hv⟩ := signal_run u
    exact ⟨ls, v, hrun, hv.trans (congrArg (fun w => shutdownClear (shutdownBegin w)) hu)⟩
  | tick seconds => exact ⟨_, _, .single (a := .tick seconds) rfl, hu ▸ rfl⟩

theorem serve_run {s : Server} {u : Loop} (hu : u.world = s.world) (calls : List ServerCall) :
    ∃ ls v, Run u ls v ∧ v.world = (s.serve calls).1.world := by
  induction calls generalizing s u with
  | nil => exact ⟨[], u, .refl u, hu⟩
  | cons call calls ih =>
    obtain ⟨ls, v, hrun, hv⟩ := handle_run hu call
    obtain ⟨ls', v', hrun', hv'⟩ := ih hv
    exact ⟨ls ++ ls', v', hrun.trans hrun', hv'⟩

/-- Serving calls one after another is one of the event loop's schedules: whatever world
    the process reaches from `lifespan`'s start, a run of the loop from a fresh manager with
    the same settings reaches it too. -/
theorem server_is_loop_schedule (settings : Settings) (clock : ℤ) (calls : List ServerCall) :
    ∃ ls v, Run (Loop.init settings settings.maxConcurrentRequests settings.requestTimeout clock)
      ls v ∧ v.world = ((Server.start settings clock).serve calls).1.world :=
  serve_run rfl calls

end HypercoreAgent
