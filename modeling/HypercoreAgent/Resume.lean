import HypercoreAgent.Tasks

set_option autoImplicit false

namespace HypercoreAgent

/-- One block of a task: `Resumes w t ev w' t' l` when resuming `t` with `ev` on `w` runs
    a block that leaves `w'`, the task `t'`, and shows `l`. -/
inductive Resumes (w : World) : Task → Event → World → Task → Label → Prop
  | lookupFailed {sessionId : String} {request : AgentRequest} {n : ℕ} :
      w.manager.sessions.get? sessionId = none →
      Resumes w (.processRequest sessionId request n .attempt) .run w
        (retryAfter w sessionId request n (notFoundError sessionId)) .silent
  | sent {sessionId : String} {request : AgentRequest} {n ref : ℕ} :
      w.manager.sessions.get? sessionId = some ref →
      Resumes w (.processRequest sessionId request n .attempt) .run (w.userTurn ref request)
        (.processRequest sessionId request n
          (.awaiting ref
            (providerCall (w.userTurn ref request) ref request (requestTools request))))
        .silent
  | answered {sessionId : String} {request : AgentRequest} {n ref : ℕ} {call : ProviderCall}
      (response : Response) :
      Resumes w (.processRequest sessionId request n (.awaiting ref call)) (.response response)
        (completeRequest w ref response).1
        (.processRequest sessionId request n (.returned (completeRequest w ref response).2))
        (.fold ref response.usage)
  | failed {sessionId : String} {request : AgentRequest} {n ref : ℕ} {call : ProviderCall}
      (e : PyException) :
      Resumes w (.processRequest sessionId request n (.awaiting ref call)) (.failure e)
        (w.countError e) (retryAfter w sessionId request n e) .silent
  | wokeUp {sessionId : String} {request : AgentRequest} {n : ℕ} {wakeAt : ℤ} :
      wakeAt ≤ w.clock →
      Resumes w (.processRequest sessionId request n (.sleeping wakeAt)) .run w
        (.processRequest sessionId request (n + 1) .attempt) .silent
  | streamLookupFailed {sessionId : String} {request : AgentRequest} {yielded : List String} :
      w.manager.sessions.get? sessionId = none →
      Resumes w (.streamResponse sessionId request yielded .opening) .run w
        (.streamResponse sessionId request yielded (.raised (notFoundError sessionId))) .silent
  | streamOpened {sessionId : String} {request : AgentRequest} {yielded : List String} {ref : ℕ} :
      w.manager.sessions.get? sessionId = some ref →
      Resumes w (.streamResponse sessionId request yielded .opening) .run (w.userTurn ref request)
        (.streamResponse sessionId request yielded (.receiving ref "")) .silent
  | fragment {sessionId : String} {request : AgentRequest} {yielded : List String} {ref : ℕ}
      {accumulated : String} (text : String) :
      Resumes w (.streamResponse sessionId request yielded (.receiving ref accumulated))
        (.fragment text) w
        (.streamResponse sessionId request (yielded ++ [dataEvent text])
          (.receiving ref (accumulated ++ text))) .silent
  | textEnded {sessionId : String} {request : AgentRequest} {yielded : List String} {ref : ℕ}
      {accumulated : String} :
      Resumes w (.streamResponse sessionId request yielded (.receiving ref accumulated)) .textEnd
        (endStream w ref accumulated) (.streamResponse sessionId request yielded (.finishing ref))
        .silent
  | receiveFailed {sessionId : String} {request : AgentRequest} {yielded : List String} {ref : ℕ}
      {accumulated : String} (e : PyException) :
      Resumes w (.streamResponse sessionId request yielded (.receiving ref accumulated))
        (.failure e) (w.countError e)
        (.streamResponse sessionId request (yielded ++ [errorEvent e]) .closed) .silent
  | finalMessage {sessionId : String} {request : AgentRequest} {yielded : List String} {ref : ℕ}
      (usage : Usage) :
      Resumes w (.streamResponse sessionId request yielded (.finishing ref)) (.finalMessage usage)
        (finishStream w ref usage)
        (.streamResponse sessionId request (yielded ++ [doneEvent]) .closed) (.fold ref usage)
  | finishFailed {sessionId : String} {request : AgentRequest} {yielded : List String} {ref : ℕ}
      (e : PyException) :
      Resumes w (.streamResponse sessionId request yielded (.finishing ref)) (.failure e)
        (w.countError e)
        (.streamResponse sessionId request (yielded ++ [errorEvent e]) .closed) .silent
  | shutdownBegun :
      Resumes w (.shutdown .start) .run (shutdownBegin w) (.shutdown .clearing) .silent
  | shutdownCleared :
      Resumes w (.shutdown .clearing) .run (shutdownClear w) (.shutdown .done) .silent

section BeginTurn
variable {w w' : World} {sessionId : String} {request : AgentRequest}
  {tools : Option (List String)}

theorem beginTurn_eq_error_iff {e : PyException} :
    beginTurn w sessionId request tools = .error e ↔
      w.manager.sessions.get? sessionId = none ∧ e = notFoundError sessionId := by
  cases hget : w.manager.sessions.get? sessionId with
  | none => simp [beginTurn_of_absent _ _ _ _ hget, eq_comm]
  | some ref => simp [beginTurn_of_get _ _ _ _ hget]

theorem beginTurn_eq_ok_iff {ref : ℕ} {call : ProviderCall} :
    beginTurn w sessionId request tools = .ok (w', ref, call) ↔
      w.manager.sessions.get? sessionId = some ref ∧ w' = w.userTurn ref request ∧
        call = providerCall (w.userTurn ref request) ref request tools := by
  cases hget : w.manager.sessions.get? sessionId with
  | none => simp [beginTurn_of_absent _ _ _ _ hget]
  | some ref' =>
    simp only [beginTurn_of_get _ _ _ _ hget, Except.ok.injEq, Prod.mk.injEq, Option.some.injEq,
      World.userTurn]
    constructor
    · rintro ⟨rfl, rfl, rfl⟩
      exact ⟨rfl, rfl, rfl⟩
    · rintro ⟨rfl, rfl, rfl⟩
      exact ⟨rfl, rfl, rfl⟩

end BeginTurn

theorem resumes_of_resume {w w' : World} {t t' : Task} {ev : Event} {l : Label}
    (h : t.resume w ev = some (w', t', l)) : Resumes w t ev w' t' l := by
  rcases t with ⟨_, _, _, pc⟩ | ⟨_, _, _, pc⟩ | pc <;> cases pc <;>
    cases ev <;> unfold Task.resume at h <;> simp only [reduceCtorEq] at h <;>
    (try split at h) <;> simp only [Option.some.injEq, Prod.mk.injEq, reduceCtorEq] at h <;>
    obtain ⟨rfl, rfl, rfl⟩ := h
  all_goals first
    | (obtain ⟨hget, rfl⟩ := beginTurn_eq_error_iff.mp ‹_›; constructor; exact hget)
    | (obtain ⟨hget, rfl, rfl⟩ := beginTurn_eq_ok_iff.mp ‹_›; constructor; exact hget)
    | (constructor; assumption)
    | constructor

end HypercoreAgent
