import HypercoreAgent.Request

set_option autoImplicit false

namespace HypercoreAgent

/-- How the provider's stream ends once its fragments are delivered. -/
inductive StreamEnd
  | finalMessage (usage : Usage)
  | breaks (e : PyException)
  | finalFails (e : PyException)
  deriving DecidableEq, Repr

structure ProviderStream where
  fragments : List String
  ending : StreamEnd
  deriving DecidableEq, Repr

/-- The `async for text in stream.text_stream` loop: accumulate, and yield an event. -/
def streamFragments (accumulated : String) : List String → String × List String
  | [] => (accumulated, [])
  | text :: rest =>
    let (accumulated, events) := streamFragments (accumulated ++ text) rest
    (accumulated, dataEvent text :: events)

def streamResponse (w : World) (sessionId : String) (request : AgentRequest)
    (provider : ProviderCall → ProviderStream) : World × Except PyException (List String) :=
  match beginTurn w sessionId request none with
  | .error e => (w, .error e)
  | .ok (w, ref, call) =>
    let stream := provider call
    let (accumulated, events) := streamFragments "" stream.fragments
    match stream.ending with
    | .breaks e => (w.countError e, .ok (events ++ [errorEvent e]))
    | .finalFails e =>
      ((endStream w ref accumulated).countError e, .ok (events ++ [errorEvent e]))
    | .finalMessage usage =>
      (finishStream (endStream w ref accumulated) ref usage, .ok (events ++ [doneEvent]))

def StreamEnd.terminal : StreamEnd → String
  | .finalMessage _ => doneEvent
  | .breaks e | .finalFails e => errorEvent e

def StreamEnd.outcome : StreamEnd → Option String
  | .finalMessage _ => none
  | .breaks e | .finalFails e => some e.message

theorem string_join_cons (a : String) (l : List String) :
    String.join (a :: l) = a ++ String.join l := by
  have fold : ∀ (l : List String) (acc : String),
      l.foldl (· ++ ·) acc = acc ++ l.foldl (· ++ ·) "" := by
    intro l
    induction l with
    | nil => intro acc; simp [String.append_empty]
    | cons b l ih =>
      intro acc
      rw [List.foldl_cons, List.foldl_cons, ih, ih ("" ++ b), String.empty_append,
        String.append_assoc]
  simp only [String.join, List.foldl_cons, String.empty_append]
  exact fold l a

theorem streamFragments_eq (accumulated : String) (texts : List String) :
    streamFragments accumulated texts = (accumulated ++ String.join texts, texts.map dataEvent) := by
  induction texts generalizing accumulated with
  | nil => simp [streamFragments, String.join, String.append_empty]
  | cons t ts ih => simp [streamFragments, ih, string_join_cons, String.append_assoc]

theorem errorEvent_ne_doneEvent (e : PyException) : errorEvent e ≠ doneEvent := by
  intro h
  have := congrArg (fun s : String => s.data.take 7) h
  simp [errorEvent, doneEvent, String.data_append] at this

section Drain
variable (w : World) (sessionId : String) (request : AgentRequest)
  (provider : ProviderCall → ProviderStream)

theorem streamResponse_of_get {ref : ℕ} (h : w.manager.sessions.get? sessionId = some ref) :
    streamResponse w sessionId request provider =
      let w₁ := w.userTurn ref request
      let s := provider (providerCall w₁ ref request none)
      let text := String.join s.fragments
      (match s.ending with
        | .breaks e => w₁.countError e
        | .finalFails e => (endStream w₁ ref text).countError e
        | .finalMessage usage => finishStream (endStream w₁ ref text) ref usage,
       .ok (s.fragments.map dataEvent ++ [s.ending.terminal])) := by
  simp only [streamResponse, beginTurn_of_get _ _ _ _ h, streamFragments_eq, String.empty_append,
    World.userTurn]
  split <;> next hend => simp only [hend, StreamEnd.terminal]

/-- The events of a drained stream and what it leaves in the session: every fragment,
    then one terminal item, `[DONE]` exactly when the provider's stream completed. The
    reply is recorded before the final message is fetched, so a failure there leaves
    the reply in the history but no usage. -/
theorem stream_response_events {ref : ℕ} (h : w.manager.sessions.get? sessionId = some ref) :
    let s := provider (providerCall (w.userTurn ref request) ref request none)
    let out := streamResponse w sessionId request provider
    let before := w.heap ref
    let user : Message := ⟨"user", request.prompt⟩
    let reply : Message := ⟨"assistant", String.join s.fragments⟩
    out.2 = .ok (s.fragments.map dataEvent ++ [s.ending.terminal]) ∧
    (s.ending.terminal = doneEvent ↔ s.ending.outcome = none) ∧
    (∀ u, s.ending = .finalMessage u →
      (out.1.heap ref).messageHistory = before.messageHistory ++ [user, reply] ∧
      (out.1.heap ref).tokenUsage = (before.updateTokenUsage u).tokenUsage) ∧
    (∀ e, s.ending = .breaks e →
      (out.1.heap ref).messageHistory = before.messageHistory ++ [user] ∧
      (out.1.heap ref).tokenUsage = before.tokenUsage) ∧
    (∀ e, s.ending = .finalFails e →
      (out.1.heap ref).messageHistory = before.messageHistory ++ [user, reply] ∧
      (out.1.heap ref).tokenUsage = before.tokenUsage) := by
  dsimp only
  rw [streamResponse_of_get w sessionId request provider h]
  dsimp only
  generalize provider (providerCall (w.userTurn ref request) ref request none) = s
  obtain ⟨fragments, ending⟩ := s
  cases ending with
  | finalMessage u => simp [StreamEnd.terminal, StreamEnd.outcome, endStream, finishStream]
  | breaks e => simp [StreamEnd.terminal, StreamEnd.outcome, errorEvent_ne_doneEvent]
  | finalFails e => simp [StreamEnd.terminal, StreamEnd.outcome, errorEvent_ne_doneEvent, endStream]

theorem stream_response_events_new_session :
    oneSession.manager.sessions.get?
        "s1" = some 0 ∧
      (streamResponse oneSession
        "s1" ⟨"Hi", "user-1", 100, 1, true, none, none⟩
        (fun _ => ⟨["Hel", "lo!"], .finalMessage ⟨3, 2⟩⟩)).2 =
      .ok [dataEvent "Hel", dataEvent "lo!", doneEvent] :=
  ⟨by decide, by rw [(@stream_response_events _ _ _ _ 0 (by decide)).1]; rfl⟩

theorem stream_response_final_failure_keeps_reply :
    let out : World × Except PyException (List String) :=
      streamResponse oneSession
        "s1" ⟨"Hi", "user-1", 100, 1, true, none, none⟩
        (fun _ => ⟨["Hel", "lo!"], .finalFails (.error "APIError" "connection reset")⟩)
    out.2 = .ok [dataEvent "Hel", dataEvent "lo!",
      errorEvent (.error "APIError" "connection reset")] ∧
    (out.1.heap 0).messageHistory = [⟨"user", "Hi"⟩, ⟨"assistant", "Hello!"⟩] := by
  decide

@[simp] theorem streamResponse_totalTokens :
    (streamResponse w sessionId request provider).1.manager.stats.totalTokens =
      w.manager.stats.totalTokens := by
  cases h : w.manager.sessions.get? sessionId with
  | none => simp [streamResponse, beginTurn_of_absent _ _ _ _ h]
  | some ref =>
    rw [streamResponse_of_get w sessionId request provider h]
    dsimp only
    split <;> rfl

/-- A completed stream adds its usage to the session and nothing to
    `stats["total_tokens"]`. -/
theorem stream_response_skips_total_tokens :
    let out : World × Except PyException (List String) :=
      streamResponse oneSession
        "s1" ⟨"Hi", "user-1", 100, 1, true, none, none⟩
        (fun _ => ⟨["Hello"], .finalMessage ⟨10, 20⟩⟩)
    out.2 = .ok [dataEvent "Hello", doneEvent] ∧ (out.1.heap 0).tokenUsage.total = 30 ∧
      out.1.manager.stats.totalTokens = 0 := by
  decide

end Drain
end HypercoreAgent
