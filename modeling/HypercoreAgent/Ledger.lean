import HypercoreAgent.StoreInvariants

set_option autoImplicit false

namespace HypercoreAgent

/-- The usage a step folds into the object at `r`. -/
def Label.usageAt (r : ℕ) : Label → Usage
  | .silent => ⟨0, 0⟩
  | .fold ref usage => if ref = r then usage else ⟨0, 0⟩

/-- The tokens, read by `f`, that the steps showing `labels` fold into the object at `r`. -/
def foldedTokens (r : ℕ) (f : Usage → ℕ) : List Label → ℕ
  | [] => 0
  | l :: labels => f (l.usageAt r) + foldedTokens r f labels

/-- What one step can do to a session object, folding `usage` into it. -/
inductive Touch : AgentSession → AgentSession → Usage → Prop
  | keep (o : AgentSession) : Touch o o ⟨0, 0⟩
  | append (o : AgentSession) (role content : String) (now : ℤ) :
      Touch o (o.addMessage role content now) ⟨0, 0⟩
  | fold (o : AgentSession) (usage : Usage) : Touch o (o.updateTokenUsage usage) usage
  | appendFold (o : AgentSession) (role content : String) (now : ℤ) (usage : Usage) :
      Touch o ((o.addMessage role content now).updateTokenUsage usage) usage

section Touch
variable {o o' : AgentSession} {usage : Usage}

theorem Touch.input (h : Touch o o' usage) :
    o'.tokenUsage.input = o.tokenUsage.input + usage.inputTokens := by
  cases h <;> simp

theorem Touch.output (h : Touch o o' usage) :
    o'.tokenUsage.output = o.tokenUsage.output + usage.outputTokens := by
  cases h <;> simp

theorem Touch.balanced (h : Touch o o' usage) (ho : o.tokenUsage.Balanced) :
    o'.tokenUsage.Balanced := by
  cases h with
  | keep => exact ho
  | append => simpa using ho
  | fold | appendFold => exact AgentSession.updateTokenUsage_balanced _ _

theorem Touch.history (h : Touch o o' usage) : o.messageHistory <+: o'.messageHistory := by
  cases h <;> simp

end Touch

section Blocks
variable {w w' : World} {t : Task} {l : Label}

theorem touch_modifySession {ref : ℕ} {f : AgentSession → AgentSession} {usage : Usage}
    (hf : ∀ o, Touch o (f o) usage) (r : ℕ) :
    ((w.modifySession ref f).heap r = w.heap r ∧ r ≠ ref) ∨
    (r = ref ∧ Touch (w.heap r) ((w.modifySession ref f).heap r) usage) := by
  by_cases hr : r = ref
  · subst hr
    exact .inr ⟨rfl, by simpa using hf (w.heap r)⟩
  · exact .inl ⟨by simp [World.heap_modifySession, hr], hr⟩

theorem usageAt_fold_of_ne {ref r : ℕ} (usage : Usage) (h : r ≠ ref) :
    (Label.fold ref usage).usageAt r = ⟨0, 0⟩ := by
  simp [Label.usageAt, Ne.symm h]

theorem Block.heap (h : Block w t w' l) (r : ℕ) :
    (w'.heap r = w.heap r ∧ l.usageAt r = ⟨0, 0⟩) ∨
    ((t.ref = some r ∨ ∃ sessionId, w.manager.sessions.get? sessionId = some r) ∧
      Touch (w.heap r) (w'.heap r) (l.usageAt r)) := by
  cases h with
  | quiet | recordError | raiseFlag | clearStore => exact .inl ⟨rfl, rfl⟩
  | @turn sessionId ref request hget =>
    rcases @touch_modifySession w ref _ _ (fun o => .append o "user" request.prompt w.clock) r
      with ⟨hr, -⟩ | ⟨rfl, ht⟩
    · exact .inl ⟨hr, rfl⟩
    · exact .inr ⟨.inr ⟨sessionId, hget⟩, ht⟩
  | @complete ref response href =>
    by_cases hr : r = ref
    · subst hr
      refine .inr ⟨.inl href, ?_⟩
      simpa [completeRequest_heap, Label.usageAt] using
        Touch.appendFold (w.heap r) "assistant" (extractContent response.content) w.clock
          response.usage
    · exact .inl ⟨by simp [completeRequest_heap, hr], usageAt_fold_of_ne _ hr⟩
  | @appendReply ref accumulated href =>
    rcases @touch_modifySession w ref _ _ (fun o => .append o "assistant" accumulated w.clock) r
      with ⟨hr, -⟩ | ⟨rfl, ht⟩
    · exact .inl ⟨hr, rfl⟩
    · exact .inr ⟨.inl href, ht⟩
  | @foldUsage ref usage href =>
    rcases @touch_modifySession w ref _ _ (fun o => .fold o usage) r with ⟨hr, hne⟩ | ⟨rfl, ht⟩
    · exact .inl ⟨hr, usageAt_fold_of_ne _ hne⟩
    · exact .inr ⟨.inl href, by rwa [show (Label.fold r usage).usageAt r = usage from if_pos rfl]⟩

theorem Block.nextRef (h : Block w t w' l) : w'.nextRef = w.nextRef := by
  cases h <;> rfl

theorem Block.entries (h : Block w t w' l) :
    ∀ e ∈ w'.manager.sessions.entries, e ∈ w.manager.sessions.entries := by
  rcases h.store with ⟨hs, -, -⟩ | rfl | ⟨-, rfl⟩
  · rw [hs]
    exact fun _ he => he
  · exact fun _ he => he
  · simp [shutdownClear]

end Blocks

section Structural
variable {w w' : World}

theorem addSession_heap_cases (uuid userId : String) (p : Option String) (r : ℕ) :
    (w.addSession uuid userId p).heap r = w.heap r ∨
    (w.nextRef ≤ r ∧ ((w.addSession uuid userId p).heap r).tokenUsage = ⟨0, 0, 0⟩) := by
  rw [addSession_heap]
  split
  · next hr => exact .inr ⟨hr.ge, rfl⟩
  · exact .inl rfl

theorem addSession_refs (uuid userId : String) (p : Option String)
    (hv : ∀ e ∈ w.manager.sessions.entries, e.2 < w.nextRef) :
    ∀ e ∈ (w.addSession uuid userId p).manager.sessions.entries,
      e.2 < (w.addSession uuid userId p).nextRef := fun e he => by
  rcases PyDict.mem_insert he with he | rfl
  · exact Nat.lt_succ_of_lt (hv e he)
  · exact Nat.lt_succ_self _

theorem deleteSession_entries (sessionId : String) :
    ∀ e ∈ (deleteSession w sessionId).manager.sessions.entries, e ∈ w.manager.sessions.entries := by
  unfold deleteSession
  dsimp only
  split_ifs
  · exact fun e he => (List.mem_filter.mp he).1
  · exact fun e he => he

theorem cleanup_entries_subset :
    ∀ e ∈ (cleanupExpiredSessionsSync w).manager.sessions.entries, e ∈ w.manager.sessions.entries :=
  fun e he => by
    rw [cleanup_entries] at he
    exact (List.mem_filter.mp he).1

theorem Structural.heap (h : Structural w w') (r : ℕ) :
    w'.heap r = w.heap r ∨ (w.nextRef ≤ r ∧ (w'.heap r).tokenUsage = ⟨0, 0, 0⟩) := by
  cases h with
  | tick | reap => exact .inl rfl
  | delete sessionId =>
    unfold deleteSession
    dsimp only
    split_ifs <;> exact .inl rfl
  | create userId p uuid =>
    rcases createSession_cases w userId p uuid with ⟨-, hc⟩ | ⟨-, hc⟩ | hc <;> rw [hc]
    · exact addSession_heap_cases _ _ _ _
    · exact addSession_heap_cases _ _ _ _
    · exact .inl rfl

theorem Structural.nextRef_le (h : Structural w w') : w.nextRef ≤ w'.nextRef := by
  cases h with
  | tick | reap => exact le_rfl
  | delete sessionId =>
    unfold deleteSession
    dsimp only
    split_ifs <;> exact le_rfl
  | create userId p uuid =>
    rcases createSession_cases w userId p uuid with ⟨-, hc⟩ | ⟨-, hc⟩ | hc <;> rw [hc]
    · exact Nat.le_succ _
    · exact Nat.le_succ _
    · exact le_rfl

theorem Structural.refs (h : Structural w w')
    (hv : ∀ e ∈ w.manager.sessions.entries, e.2 < w.nextRef) :
    ∀ e ∈ w'.manager.sessions.entries, e.2 < w'.nextRef := by
  cases h with
  | tick => exact hv
  | reap => exact fun e he => hv e (cleanup_entries_subset e he)
  | delete sessionId =>
    exact fun e he => (hv e (deleteSession_entries sessionId e he)).trans_le
      (Structural.delete sessionId).nextRef_le
  | create userId p uuid =>
    rcases createSession_cases w userId p uuid with ⟨-, hc⟩ | ⟨-, hc⟩ | hc <;> rw [hc]
    · exact addSession_refs _ _ _ hv
    · exact addSession_refs _ _ _ fun e he => hv e (cleanup_entries_subset e he)
    · exact fun e he => hv e (cleanup_entries_subset e he)

end Structural

/-- Every reference the store or a task holds names an object already made, and objects
    not yet made carry no usage. -/
def RefsValid (s : Loop) : Prop :=
  (∀ e ∈ s.world.manager.sessions.entries, e.2 < s.world.nextRef) ∧
  (∀ t ∈ s.tasks, ∀ r ∈ t.ref, r < s.world.nextRef) ∧
  (∀ r, s.world.nextRef ≤ r → (s.world.heap r).tokenUsage = ⟨0, 0, 0⟩)

section Steps
variable {s u : Loop} {a : Action} {l : Label}

theorem step_nextRef_le (h : s.step a = some (u, l)) : s.world.nextRef ≤ u.world.nextRef := by
  rcases step_cases h with ⟨-, -, hst⟩ | ⟨-, hw, -⟩ | ⟨_, _, _, _, -, hr, -⟩
  · exact hst.nextRef_le
  · rw [hw]
  · exact (resume_cases hr).1.nextRef.ge

theorem step_object (h : s.step a = some (u, l)) (r : ℕ) :
    Touch (s.world.heap r) (u.world.heap r) (l.usageAt r) ∨
    (s.world.nextRef ≤ r ∧ l.usageAt r = ⟨0, 0⟩ ∧ (u.world.heap r).tokenUsage = ⟨0, 0, 0⟩) := by
  rcases step_cases h with ⟨rfl, -, hst⟩ | ⟨rfl, hw, -⟩ | ⟨_, _, _, _, -, hr, -⟩
  · rcases hst.heap r with he | ⟨hle, hz⟩
    · rw [he]
      exact .inl (.keep _)
    · exact .inr ⟨hle, rfl, hz⟩
  · rw [hw]
    exact .inl (.keep _)
  · rcases (resume_cases hr).1.heap r with ⟨he, hl⟩ | ⟨-, ht⟩
    · rw [he, hl]
      exact .inl (.keep _)
    · exact .inl ht

theorem step_refsValid (hv : RefsValid s) (h : s.step a = some (u, l)) : RefsValid u := by
  obtain ⟨hdict, htasks, hfresh⟩ := hv
  rcases step_cases h with ⟨-, ht, hst⟩ | ⟨-, hw, t, hnone, -, ht⟩ | ⟨i, t, t', ev, hi, hr, ht⟩
  · have hle := hst.nextRef_le
    refine ⟨hst.refs hdict, fun t' ht' r hr => (htasks t' (ht ▸ ht') r hr).trans_le hle, fun r hr => ?_⟩
    rcases hst.heap r with he | ⟨-, hz⟩
    · rw [he]
      exact hfresh r (hle.trans hr)
    · exact hz
  · refine ⟨hw ▸ hdict, fun t' ht' r hr => ?_, hw ▸ hfresh⟩
    rw [ht] at ht'
    rcases List.mem_append.mp ht' with ht' | ht'
    · exact hw ▸ htasks t' ht' r hr
    · rw [List.mem_singleton.mp ht', hnone] at hr
      cases hr
  · obtain ⟨hb, href, -⟩ := resume_cases hr
    have hmem := List.getElem?_mem hi
    have hnext := hb.nextRef
    refine ⟨fun e he => hnext ▸ hdict e (hb.entries e he), fun t'' ht'' r hr' => ?_,
      fun r hr' => ?_⟩
    · rw [ht] at ht''
      rcases List.mem_or_eq_of_mem_set ht'' with ht'' | rfl
      · exact hnext ▸ htasks t'' ht'' r hr'
      · rcases href with hn | hs | ⟨sessionId, hg⟩
        · rw [hn] at hr'
          cases hr'
        · rw [hs] at hr'
          exact hnext ▸ htasks t hmem r hr'
        · rw [← hg] at hr'
          exact hnext ▸ hdict _ (PyDict.mem_of_get? hr')
    · rcases hb.heap r with ⟨he, -⟩ | ⟨hheld | ⟨sessionId, hg⟩, -⟩
      · rw [he]
        exact hfresh r (hnext ▸ hr')
      · exact absurd (htasks t hmem r hheld) (not_lt.mpr (hnext ▸ hr'))
      · exact absurd (hdict _ (PyDict.mem_of_get? hg)) (not_lt.mpr (hnext ▸ hr'))

end Steps

section Runs
variable {s v : Loop} {ls : List Label}

theorem run_ledger (h : Run s ls v) (hv : RefsValid s) :
    RefsValid v ∧ ∀ r,
      (v.world.heap r).tokenUsage.input =
        (s.world.heap r).tokenUsage.input + foldedTokens r Usage.inputTokens ls ∧
      (v.world.heap r).tokenUsage.output =
        (s.world.heap r).tokenUsage.output + foldedTokens r Usage.outputTokens ls ∧
      ((s.world.heap r).tokenUsage.Balanced → (v.world.heap r).tokenUsage.Balanced) := by
  induction h with
  | refl => exact ⟨hv, fun r => ⟨rfl, rfl, id⟩⟩
  | next hstep _ ih =>
    obtain ⟨hv', hobj⟩ := ih (step_refsValid hv hstep)
    refine ⟨hv', fun r => ?_⟩
    obtain ⟨hin, hout, hbal⟩ := hobj r
    simp only [foldedTokens]
    rcases step_object hstep r with ht | ⟨hle, hl, hz⟩
    · refine ⟨?_, ?_, fun hb => hbal (ht.balanced hb)⟩
      · rw [hin, ht.input, Nat.add_assoc]
      · rw [hout, ht.output, Nat.add_assoc]
    · have hz₀ := hv.2.2 r hle
      refine ⟨?_, ?_, fun _ => hbal (by rw [hz]; rfl)⟩
      · simp [hin, hz, hz₀, hl]
      · simp [hout, hz, hz₀, hl]

theorem run_history (h : Run s ls v) :
    s.world.nextRef ≤ v.world.nextRef ∧ ∀ r < s.world.nextRef,
      (s.world.heap r).messageHistory <+: (v.world.heap r).messageHistory := by
  induction h with
  | refl => exact ⟨le_rfl, fun _ _ => List.prefix_refl _⟩
  | next hstep _ ih =>
    obtain ⟨hle, hpre⟩ := ih
    have hsu := step_nextRef_le hstep
    refine ⟨hsu.trans hle, fun r hr => ?_⟩
    rcases step_object hstep r with ht | ⟨hle', -⟩
    · exact ht.history.trans (hpre r (hr.trans_le hsu))
    · exact absurd hr (not_lt.mpr hle')

/-- No interleaving corrupts a session object. In every state a run reaches from a fresh
    manager, each object's ledger is balanced and its input and output are the sums of
    the usages the run folded into it, so no update is lost; and each object's history
    is a prefix of its history in every later state. -/
theorem session_objects_consistent {settings : Settings} {C T clock : ℤ}
    (h : Run (Loop.init settings C T clock) ls v) :
    (∀ r, (v.world.heap r).tokenUsage.Balanced ∧
      (v.world.heap r).tokenUsage.input = foldedTokens r Usage.inputTokens ls ∧
      (v.world.heap r).tokenUsage.output = foldedTokens r Usage.outputTokens ls) ∧
    ∀ ls' v', Run v ls' v' → ∀ r < v.world.nextRef,
      (v.world.heap r).messageHistory <+: (v'.world.heap r).messageHistory := by
  obtain ⟨-, hobj⟩ := run_ledger h
    ⟨fun _ he => absurd he (List.not_mem_nil _), fun _ ht => absurd ht (List.not_mem_nil _),
      fun _ _ => rfl⟩
  refine ⟨fun r => ?_, fun ls' v' h' r hr => (run_history h').2 r hr⟩
  obtain ⟨hin, hout, hbal⟩ := hobj r
  exact ⟨hbal rfl, hin.trans (Nat.zero_add _), hout.trans (Nat.zero_add _)⟩

theorem session_objects_consistent_interleaved :
    ∃ v ls, Run (Loop.init Settings.defaults 10 300 0) ls v ∧
      (v.world.heap 0).tokenUsage.input = foldedTokens 0 Usage.inputTokens ls := by
  obtain ⟨⟨v, ls⟩, h⟩ : ∃ r, (Loop.init Settings.defaults 10 300 0).runActions
      [.createSession "user-1" none "s1",
       .callProcessRequest "s1" ⟨"Hi", "user-1", 100, 1, false, none, none⟩,
       .callProcessRequest "s1" ⟨"Hey", "user-1", 100, 1, false, none, none⟩,
       .resume 0 .run, .resume 1 .run,
       .resume 1 (.response ⟨[.text "b"], ⟨5, 7⟩⟩), .resume 0 (.response ⟨[.text "a"], ⟨3, 4⟩⟩),
       .callStreamResponse "s1" ⟨"Go", "user-1", 100, 1, true, none, none⟩,
       .resume 2 .run, .resume 2 (.fragment "c"), .resume 2 .textEnd,
       .resume 2 (.finalMessage ⟨1, 2⟩)] = some r := ⟨_, rfl⟩
  exact ⟨v, ls, run_of_runActions h, ((session_objects_consistent (run_of_runActions h)).1 0).2.1⟩

end Runs

end HypercoreAgent
