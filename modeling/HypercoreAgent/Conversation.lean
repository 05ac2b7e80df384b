import HypercoreAgent.Accounting

set_option autoImplicit false

namespace HypercoreAgent

namespace AgentSession

/-- The `user` messages of the history. -/
def prompts (o : AgentSession) : ℕ := o.messageHistory.countP (·.role = "user")

/-- The `assistant` messages of the history. -/
def replies (o : AgentSession) : ℕ := o.messageHistory.countP (·.role = "assistant")

variable (o : AgentSession) (content : String) (now : ℤ)

@[simp] theorem prompts_addMessage_user :
    (o.addMessage "user" content now).prompts = o.prompts + 1 := by
  simp [prompts, List.countP_append]

@[simp] theorem replies_addMessage_user :
    (o.addMessage "user" content now).replies = o.replies := by
  simp [replies, List.countP_append]

@[simp] theorem prompts_addMessage_assistant :
    (o.addMessage "assistant" content now).prompts = o.prompts := by
  simp [prompts, List.countP_append]

@[simp] theorem replies_addMessage_assistant :
    (o.addMessage "assistant" content now).replies = o.replies + 1 := by
  simp [replies, List.countP_append]

@[simp] theorem prompts_updateTokenUsage (u : Usage) : (o.updateTokenUsage u).prompts = o.prompts :=
  rfl

@[simp] theorem replies_updateTokenUsage (u : Usage) : (o.updateTokenUsage u).replies = o.replies :=
  rfl

end AgentSession

/-- 1 when the task has sent a prompt to the object at `r` and still awaits the reply: a
    `process_request` call awaiting its response, or a stream still receiving. -/
def Task.owes (r : ℕ) : Task → ℕ
  | .processRequest _ _ _ (.awaiting ref _) => if ref = r then 1 else 0
  | .streamResponse _ _ _ (.receiving ref _) => if ref = r then 1 else 0
  | _ => 0

@[simp] theorem owes_retryAfter (r : ℕ) (w : World) (sessionId : String)
    (request : AgentRequest) (n : ℕ) (e : PyException) :
    (retryAfter w sessionId request n e).owes r = 0 := by
  unfold retryAfter; split <;> rfl

theorem owes_eq_zero_of_ref (r : ℕ) {t : Task} (h : ∀ ref ∈ t.ref, ref ≠ r) : t.owes r = 0 := by
  unfold Task.owes
  split
  · exact if_neg (h _ rfl)
  · exact if_neg (h _ rfl)
  · rfl

theorem tasksSum_owes_eq_zero {ts : List Task} {r : ℕ} (h : ∀ t ∈ ts, ∀ ref ∈ t.ref, ref ≠ r) :
    tasksSum (Task.owes r) ts = 0 := by
  induction ts with
  | nil => rfl
  | cons t ts ih =>
    simp only [tasksSum, owes_eq_zero_of_ref r (h t (List.mem_cons_self _ _)),
      ih fun t' ht' => h t' (List.mem_cons_of_mem _ ht')]

section Blocks
variable (w : World) (ref r : ℕ)

theorem prompts_userTurn (request : AgentRequest) :
    ((w.userTurn ref request).heap r).prompts = (w.heap r).prompts + if r = ref then 1 else 0 := by
  rw [World.userTurn, World.heap_modifySession]
  split_ifs <;> simp

theorem replies_userTurn (request : AgentRequest) :
    ((w.userTurn ref request).heap r).replies = (w.heap r).replies := by
  rw [World.userTurn, World.heap_modifySession]
  split_ifs <;> simp

theorem prompts_completeRequest (response : Response) :
    ((completeRequest w ref response).1.heap r).prompts = (w.heap r).prompts := by
  rw [completeRequest_heap]
  split_ifs <;> simp

theorem replies_completeRequest (response : Response) :
    ((completeRequest w ref response).1.heap r).replies =
      (w.heap r).replies + if r = ref then 1 else 0 := by
  rw [completeRequest_heap]
  split_ifs <;> simp

theorem prompts_endStream (accumulated : String) :
    ((endStream w ref accumulated).heap r).prompts = (w.heap r).prompts := by
  rw [endStream, World.heap_modifySession]
  split_ifs <;> simp

theorem replies_endStream (accumulated : String) :
    ((endStream w ref accumulated).heap r).replies =
      (w.heap r).replies + if r = ref then 1 else 0 := by
  rw [endStream, World.heap_modifySession]
  split_ifs <;> simp

theorem prompts_finishStream (usage : Usage) :
    ((finishStream w ref usage).heap r).prompts = (w.heap r).prompts := by
  rw [finishStream, World.heap_modifySession]
  split_ifs <;> simp

theorem replies_finishStream (usage : Usage) :
    ((finishStream w ref usage).heap r).replies = (w.heap r).replies := by
  rw [finishStream, World.heap_modifySession]
  split_ifs <;> simp

end Blocks

section Resume
variable {w w' : World} {t t' : Task} {ev : Event} {l : Label}

theorem resume_owes (h : t.resume w ev = some (w', t', l)) (r : ℕ) :
    (w'.heap r).replies + t'.owes r + (w.heap r).prompts ≤
      (w.heap r).replies + t.owes r + (w'.heap r).prompts := by
  cases resumes_of_resume h <;> (try rw [owes_retryAfter]) <;>
    simp only [prompts_userTurn, replies_userTurn, prompts_completeRequest,
      replies_completeRequest, prompts_endStream, replies_endStream, prompts_finishStream,
      replies_finishStream, shutdownBegin, shutdownClear, World.heap_setManager,
      World.countError_heap, Task.owes] <;>
    (try split_ifs) <;> omega

end Resume

theorem Structural.history {w w' : World} (h : Structural w w') (r : ℕ) :
    w'.heap r = w.heap r ∨ (w.nextRef ≤ r ∧ (w'.heap r).messageHistory = []) := by
  cases h with
  | tick | reap => exact .inl rfl
  | delete sessionId =>
    unfold deleteSession
    dsimp only
    split_ifs <;> exact .inl rfl
  | create userId p uuid =>
    have hadd : ∀ v : World, (v.addSession uuid userId p).heap r = v.heap r ∨
        (v.nextRef ≤ r ∧ ((v.addSession uuid userId p).heap r).messageHistory = []) := by
      intro v
      rw [addSession_heap]
      split
      · next hr => exact .inr ⟨hr.ge, rfl⟩
      · exact .inl rfl
    rcases createSession_cases w userId p uuid with ⟨-, hc⟩ | ⟨-, hc⟩ | hc <;> rw [hc]
    · exact hadd w
    · exact hadd _
    · exact .inl rfl

/-- Every object's history holds at least as many prompts as replies, plus the replies
    still owed to it. -/
def RepliesCovered (s : Loop) : Prop :=
  RefsValid s ∧
    ∀ r, (s.world.heap r).replies + tasksSum (Task.owes r) s.tasks ≤ (s.world.heap r).prompts

theorem step_repliesCovered {s u : Loop} {a : Action} {l : Label} (hs : RepliesCovered s)
    (h : s.step a = some (u, l)) : RepliesCovered u := by
  obtain ⟨hv, hcov⟩ := hs
  refine ⟨step_refsValid hv h, fun r => ?_⟩
  rcases step_cases h with ⟨-, ht, hst⟩ | ⟨-, hw, t, hnone, -, ht⟩ | ⟨i, t, t', ev, hi, hr, ht⟩
  · rw [ht]
    rcases hst.history r with he | ⟨hle, hnil⟩
    · rw [he]
      exact hcov r
    · have howes : tasksSum (Task.owes r) s.tasks = 0 := tasksSum_owes_eq_zero fun t ht ref href =>
        ((hv.2.1 t ht ref href).trans_le hle).ne
      simp [AgentSession.replies, AgentSession.prompts, hnil, howes]
  · rw [hw, ht, tasksSum_append]
    have h0 : t.owes r = 0 := owes_eq_zero_of_ref r fun ref href => by simp [hnone] at href
    simpa [tasksSum, h0] using hcov r
  · rw [ht]
    have hset := tasksSum_set (Task.owes r) hi t'
    have hres := resume_owes hr r
    have := hcov r
    omega

/-- Under every interleaving, from a fresh manager, every session object's history, deleted
    objects included, holds at least as many `user` prompts as `assistant` replies, plus the
    replies its in-flight calls still await. -/
theorem replies_never_exceed_prompts {settings : Settings} {C T clock : ℤ} {ls : List Label}
    {v : Loop} (h : Run (Loop.init settings C T clock) ls v) (r : ℕ) :
    (v.world.heap r).replies + tasksSum (Task.owes r) v.tasks ≤ (v.world.heap r).prompts :=
  (h.invariant RepliesCovered (fun _ _ _ _ hs hstep => step_repliesCovered hs hstep)
    ⟨⟨fun _ he => absurd he (List.not_mem_nil _), fun _ ht => absurd ht (List.not_mem_nil _),
      fun _ _ => rfl⟩, fun _ => le_rfl⟩).2 r

theorem replies_never_exceed_prompts_failed_call :
    ∃ v ls, Run (Loop.init Settings.defaults 10 300 0) ls v ∧
      (v.world.heap 0).prompts = 2 ∧ (v.world.heap 0).replies = 1 ∧
      (v.world.heap 0).replies + tasksSum (Task.owes 0) v.tasks ≤ (v.world.heap 0).prompts := by
  obtain ⟨v, ls, hrun, hp⟩ := @reaches_of_runActions (Loop.init Settings.defaults 10 300 0)
    [.createSession "user-1" none "s1",
     .callProcessRequest "s1" ⟨"Hi", "user-1", 100, 1, false, none, none⟩,
     .callProcessRequest "s1" ⟨"Hey", "user-1", 100, 1, false, none, none⟩,
     .resume 0 .run, .resume 1 .run, .resume 0 (.failure (.error "APIError" "overloaded")),
     .resume 1 (.response ⟨[.text "b"], ⟨5, 7⟩⟩)]
    (fun v => (v.world.heap 0).prompts == 2 && (v.world.heap 0).replies == 1) (by decide)
  simp only [Bool.and_eq_true, beq_iff_eq] at hp
  exact ⟨v, ls, hrun, hp.1, hp.2, replies_never_exceed_prompts hrun 0⟩

end HypercoreAgent
