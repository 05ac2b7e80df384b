import HypercoreAgent.Stream

set_option autoImplicit false

/-!
# What the event stream tells its reader

Every item `stream_response` yields is `data: <payload>` and a blank line, and nothing is
escaped. The byte stream therefore always shows whether the run completed, since the two
terminal payloads end differently; it shows the fragments and the error message only
when none of them holds a newline, which would let a payload end an event early.
-/

namespace HypercoreAgent

/-- The SSE event `data: <payload>` followed by a blank line. -/
def sseEvent (payload : String) : String := "data: " ++ payload ++ "\n\n"

/-- The payload of the item a stream yields last. -/
def StreamEnd.payload : StreamEnd → String
  | .finalMessage _ => "[DONE]"
  | .breaks e | .finalFails e => "\x7b\"error\": \"" ++ e.message ++ "\"\x7d"

def NewlineFree (s : String) : Prop := '\n' ∉ s.data

instance (s : String) : Decidable (NewlineFree s) := inferInstanceAs (Decidable (_ ∉ _))

theorem terminal_eq_sseEvent (ending : StreamEnd) : ending.terminal = sseEvent ending.payload := by
  cases ending <;> simp [StreamEnd.terminal, StreamEnd.payload, doneEvent, errorEvent, sseEvent,
    String.ext_iff, String.data_append]

theorem string_join_data (l : List String) : (String.join l).data = (l.map String.data).flatten := by
  induction l with
  | nil => rfl
  | cons a l ih => rw [string_join_cons, String.data_append, ih, List.map_cons, List.flatten_cons]

theorem stream_output_data (fragments : List String) (ending : StreamEnd) :
    (String.join (fragments.map dataEvent ++ [ending.terminal])).data =
      ((fragments ++ [ending.payload]).map fun p => (sseEvent p).data).flatten := by
  simp [string_join_data, terminal_eq_sseEvent, dataEvent, sseEvent, Function.comp_def]

theorem sseEvent_data (p : String) :
    (sseEvent p).data = ("data: " ++ p).data ++ '\n' :: '\n' :: [] := by
  simp [sseEvent, String.data_append]

theorem eq_of_append_blank_line {a c b d : List Char} (ha : '\n' ∉ a) (hc : '\n' ∉ c)
    (h : a ++ '\n' :: '\n' :: b = c ++ '\n' :: '\n' :: d) : a = c ∧ b = d := by
  induction a generalizing c with
  | nil =>
    cases c with
    | nil => simpa using h
    | cons y c =>
      simp only [List.nil_append, List.cons_append, List.cons.injEq] at h
      obtain ⟨rfl, -⟩ := h
      exact absurd (List.mem_cons_self _ _) hc
  | cons x a ih =>
    cases c with
    | nil =>
      simp only [List.nil_append, List.cons_append, List.cons.injEq] at h
      obtain ⟨rfl, -⟩ := h
      exact absurd (List.mem_cons_self _ _) ha
    | cons y c =>
      simp only [List.cons_append, List.cons.injEq] at h
      obtain ⟨rfl, h⟩ := h
      obtain ⟨rfl, rfl⟩ := ih (fun hm => ha (List.mem_cons_of_mem _ hm))
        (fun hm => hc (List.mem_cons_of_mem _ hm)) h
      exact ⟨rfl, rfl⟩

theorem prefixed_newlineFree {p : String} (hp : NewlineFree p) : '\n' ∉ ("data: " ++ p).data := by
  simpa [String.data_append] using hp

theorem payloads_of_events {ps qs : List String} (hp : ∀ p ∈ ps, NewlineFree p)
    (hq : ∀ q ∈ qs, NewlineFree q)
    (h : (ps.map fun p => (sseEvent p).data).flatten = (qs.map fun q => (sseEvent q).data).flatten) :
    ps = qs := by
  induction ps generalizing qs with
  | nil =>
    cases qs with
    | nil => rfl
    | cons q qs => simp [sseEvent_data] at h
  | cons p ps ih =>
    cases qs with
    | nil => simp [sseEvent_data] at h
    | cons q qs =>
      simp only [List.map_cons, List.flatten_cons, sseEvent_data, List.append_assoc,
        List.cons_append, List.nil_append] at h
      obtain ⟨hpq, hrest⟩ := eq_of_append_blank_line
        (prefixed_newlineFree (hp p (List.mem_cons_self _ _)))
        (prefixed_newlineFree (hq q (List.mem_cons_self _ _))) h
      rw [String.data_append, String.data_append] at hpq
      rw [String.ext_iff.mpr (List.append_cancel_left hpq),
        ih (fun p hm => hp p (List.mem_cons_of_mem _ hm)) (fun q hm => hq q (List.mem_cons_of_mem _ hm))
          hrest]

theorem payload_event_data (ending : StreamEnd) : ∃ body, (sseEvent ending.payload).data =
    body ++ [if ending.outcome = none then ']' else '}', '\n', '\n'] := by
  cases ending with
  | finalMessage => exact ⟨"data: [DONE".data, rfl⟩
  | breaks e | finalFails e =>
    exact ⟨("data: \x7b\"error\": \"" ++ e.message ++ "\"").data,
      by simp [sseEvent, StreamEnd.payload, StreamEnd.outcome, String.data_append]⟩

theorem payload_newlineFree (ending : StreamEnd) (h : ∀ m, ending.outcome = some m → NewlineFree m) :
    NewlineFree ending.payload := by
  cases ending with
  | finalMessage => show NewlineFree "[DONE]"; decide
  | breaks e | finalFails e =>
    simpa [NewlineFree, StreamEnd.payload, String.data_append] using h e.message rfl

theorem outcome_eq_of_payload_eq {e₁ e₂ : StreamEnd} (h : e₁.payload = e₂.payload) :
    e₁.outcome = e₂.outcome := by
  cases e₁ <;> cases e₂ <;>
    simp_all [StreamEnd.payload, StreamEnd.outcome, String.ext_iff, String.data_append]

/-- Whatever the fragments, equal byte streams come from runs that ended the same way;
    when no fragment and no error message holds a newline, they also come from the same
    fragments (so the same accumulated text) and the same error message. -/
theorem stream_output_determines_outcome (w₁ w₂ : World) (id₁ id₂ : String)
    (req₁ req₂ : AgentRequest) (p₁ p₂ : ProviderCall → ProviderStream) {r₁ r₂ : ℕ}
    (h₁ : w₁.manager.sessions.get? id₁ = some r₁) (h₂ : w₂.manager.sessions.get? id₂ = some r₂)
    (same : (streamResponse w₁ id₁ req₁ p₁).2.map String.join =
      (streamResponse w₂ id₂ req₂ p₂).2.map String.join) :
    let s₁ := p₁ (providerCall (w₁.userTurn r₁ req₁) r₁ req₁ none)
    let s₂ := p₂ (providerCall (w₂.userTurn r₂ req₂) r₂ req₂ none)
    (s₁.ending.outcome = none ↔ s₂.ending.outcome = none) ∧
    ((∀ f ∈ s₁.fragments ++ s₂.fragments, NewlineFree f) →
      (∀ m, s₁.ending.outcome = some m ∨ s₂.ending.outcome = some m → NewlineFree m) →
      s₁.fragments = s₂.fragments ∧ s₁.ending.outcome = s₂.ending.outcome) := by
  intro s₁ s₂
  rw [(stream_response_events w₁ id₁ req₁ p₁ h₁).1, (stream_response_events w₂ id₂ req₂ p₂ h₂).1]
    at same
  have bytes := congrArg String.data (Except.ok.inj same)
  rw [stream_output_data, stream_output_data] at bytes
  refine ⟨?_, fun hf hm => ?_⟩
  · obtain ⟨b₁, hb₁⟩ := payload_event_data s₁.ending
    obtain ⟨b₂, hb₂⟩ := payload_event_data s₂.ending
    simp only [List.map_append, List.map_cons, List.map_nil, List.flatten_append,
      List.flatten_cons, List.flatten_nil, List.append_nil, hb₁, hb₂, ← List.append_assoc] at bytes
    have last := (List.append_inj' bytes rfl).2
    split at last <;> split at last <;> simp_all
  · have payloads := payloads_of_events
      (fun p hp => by
        rcases List.mem_append.mp hp with hp | hp
        · exact hf p (List.mem_append_left _ hp)
        · rw [List.mem_singleton.mp hp]
          exact payload_newlineFree _ fun m h => hm m (.inl h))
      (fun p hp => by
        rcases List.mem_append.mp hp with hp | hp
        · exact hf p (List.mem_append_right _ hp)
        · rw [List.mem_singleton.mp hp]
          exact payload_newlineFree _ fun m h => hm m (.inr h))
      bytes
    obtain ⟨hfrag, hlast⟩ := List.append_inj' payloads rfl
    exact ⟨hfrag, outcome_eq_of_payload_eq (List.singleton_inj.mp hlast)⟩

theorem stream_output_determines_outcome_two_prompts :
    oneSession.manager.sessions.get? "s1" = some 0 ∧
    (streamResponse oneSession "s1" ⟨"Hi", "user-1", 100, 1, true, none, none⟩
        (fun _ => ⟨["Hel", "lo"], .breaks (.error "APIError" "reset")⟩)).2.map String.join =
      (streamResponse oneSession "s1" ⟨"Hey", "user-1", 100, 1, true, none, none⟩
        (fun _ => ⟨["Hel", "lo"], .breaks (.error "APIError" "reset")⟩)).2.map String.join ∧
    ((StreamEnd.breaks (.error "APIError" "reset")).outcome = none ↔
      (StreamEnd.breaks (.error "APIError" "reset")).outcome = none) :=
  ⟨by decide, by decide, (@stream_output_determines_outcome oneSession oneSession "s1" "s1"
    ⟨"Hi", "user-1", 100, 1, true, none, none⟩ ⟨"Hey", "user-1", 100, 1, true, none, none⟩
    (fun _ => ⟨["Hel", "lo"], .breaks (.error "APIError" "reset")⟩)
    (fun _ => ⟨["Hel", "lo"], .breaks (.error "APIError" "reset")⟩) 0 0
    (by decide) (by decide) (by decide)).1⟩

theorem stream_output_ambiguous :
    let w : World := oneSession
    let request : AgentRequest := ⟨"Hi", "user-1", 100, 1, true, none, none⟩
    (streamResponse w "s1" request (fun _ => ⟨["a\n\ndata: b"], .finalMessage ⟨1, 1⟩⟩)).2.map
        String.join =
      (streamResponse w "s1" request (fun _ => ⟨["a", "b"], .finalMessage ⟨1, 1⟩⟩)).2.map
        String.join ∧
    String.join ["a\n\ndata: b"] ≠ String.join ["a", "b"] := by
  decide

end HypercoreAgent
