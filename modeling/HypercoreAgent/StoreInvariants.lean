import HypercoreAgent.Tasks
import HypercoreAgent.Admission

set_option autoImplicit false

namespace HypercoreAgent

/-- `len(self.sessions) <= self.max_concurrent_sessions`. -/
def WithinCapacity (w : World) : Prop :=
  (w.manager.sessions.len : ℤ) ≤ w.manager.maxConcurrentSessions

/-- `self.stats["active_sessions"] == len(self.sessions)`. -/
def ActiveMatches (w : World) : Prop :=
  w.manager.stats.activeSessions = w.manager.sessions.len

section Operations
variable (w : World)

theorem cleanup_len_le :
    (cleanupExpiredSessionsSync w).manager.sessions.len ≤ w.manager.sessions.len := by
  rw [cleanup_len]
  exact List.length_filter_le _ _

theorem cleanup_activeMatches (h : ActiveMatches w) :
    ActiveMatches (cleanupExpiredSessionsSync w) := by
  simp only [ActiveMatches, cleanupExpiredSessionsSync, World.manager_setManager]
  split
  · next hnone =>
    simp only [List.isEmpty_iff] at hnone
    simpa only [hnone, List.foldl_nil] using h
  · rfl

theorem addSession_activeMatches (uuid userId : String) (p : Option String) :
    ActiveMatches (w.addSession uuid userId p) := rfl

theorem createSession_cases (userId : String) (p : Option String) (uuid : String) :
    ((w.manager.sessions.len : ℤ) < w.manager.maxConcurrentSessions ∧
      (createSession w userId p uuid).1 = w.addSession uuid userId p) ∨
    (((cleanupExpiredSessionsSync w).manager.sessions.len : ℤ) < w.manager.maxConcurrentSessions ∧
      (createSession w userId p uuid).1 = (cleanupExpiredSessionsSync w).addSession uuid userId p) ∨
    (createSession w userId p uuid).1 = cleanupExpiredSessionsSync w := by
  by_cases hroom : (w.manager.sessions.len : ℤ) < w.manager.maxConcurrentSessions
  · exact .inl ⟨hroom, by rw [createSession_of_room w userId p uuid hroom]⟩
  · rw [createSession_of_full w userId p uuid (not_lt.mp hroom), ← cleanup_len]
    split_ifs with hfull
    · exact .inr (.inr rfl)
    · exact .inr (.inl ⟨not_le.mp hfull, rfl⟩)

theorem createSession_activeMatches (userId : String) (p : Option String) (uuid : String)
    (h : ActiveMatches w) : ActiveMatches (createSession w userId p uuid).1 := by
  rcases createSession_cases w userId p uuid with ⟨-, hc⟩ | ⟨-, hc⟩ | hc <;> rw [hc]
  · exact addSession_activeMatches _ _ _ _
  · exact addSession_activeMatches _ _ _ _
  · exact cleanup_activeMatches w h

theorem createSession_withinCapacity (userId : String) (p : Option String) (uuid : String)
    (h : WithinCapacity w) : WithinCapacity (createSession w userId p uuid).1 := by
  have grow : ∀ v : World, (v.manager.sessions.len : ℤ) < v.manager.maxConcurrentSessions →
      WithinCapacity (v.addSession uuid userId p) := fun v hv => by
    have := PyDict.len_insert_le v.manager.sessions uuid v.nextRef
    simp only [WithinCapacity, World.addSession]
    omega
  rcases createSession_cases w userId p uuid with ⟨hroom, hc⟩ | ⟨hroom, hc⟩ | hc <;> rw [hc]
  · exact grow w hroom
  · exact grow _ hroom
  · exact (Int.ofNat_le.mpr (cleanup_len_le w)).trans h

theorem createSession_fixed (userId : String) (p : Option String) (uuid : String) :
    (createSession w userId p uuid).1.manager.maxConcurrentSessions =
      w.manager.maxConcurrentSessions ∧
    (createSession w userId p uuid).1.manager.isShuttingDown = w.manager.isShuttingDown := by
  rcases createSession_cases w userId p uuid with ⟨-, hc⟩ | ⟨-, hc⟩ | hc <;> rw [hc] <;>
    exact ⟨rfl, rfl⟩

theorem deleteSession_fixed (sessionId : String) :
    (deleteSession w sessionId).manager.maxConcurrentSessions = w.manager.maxConcurrentSessions ∧
    (deleteSession w sessionId).manager.isShuttingDown = w.manager.isShuttingDown := by
  unfold deleteSession
  dsimp only
  split_ifs <;> exact ⟨rfl, rfl⟩

theorem deleteSession_withinCapacity (sessionId : String) (h : WithinCapacity w) :
    WithinCapacity (deleteSession w sessionId) := by
  unfold deleteSession
  dsimp only
  split_ifs
  · exact (Int.ofNat_le.mpr (PyDict.len_erase_le _ _)).trans h
  · exact h

theorem deleteSession_activeMatches (sessionId : String) (h : ActiveMatches w) :
    ActiveMatches (deleteSession w sessionId) := by
  unfold deleteSession
  dsimp only
  split_ifs
  · rfl
  · exact h

end Operations

section Structural
variable {w w' : World}

theorem Structural.fixed (h : Structural w w') :
    w'.manager.maxConcurrentSessions = w.manager.maxConcurrentSessions ∧
    w'.manager.isShuttingDown = w.manager.isShuttingDown := by
  cases h with
  | tick => exact ⟨rfl, rfl⟩
  | create userId p uuid => exact createSession_fixed w userId p uuid
  | delete sessionId => exact deleteSession_fixed w sessionId
  | reap => exact ⟨rfl, rfl⟩

theorem Structural.withinCapacity (h : Structural w w') (hw : WithinCapacity w) :
    WithinCapacity w' := by
  cases h with
  | tick => exact hw
  | create userId p uuid => exact createSession_withinCapacity w userId p uuid hw
  | delete sessionId => exact deleteSession_withinCapacity w sessionId hw
  | reap => exact (Int.ofNat_le.mpr (cleanup_len_le w)).trans hw

theorem Structural.activeMatches (h : Structural w w') (hw : ActiveMatches w) :
    ActiveMatches w' := by
  cases h with
  | tick => exact hw
  | create userId p uuid => exact createSession_activeMatches w userId p uuid hw
  | delete sessionId => exact deleteSession_activeMatches w sessionId hw
  | reap => exact cleanup_activeMatches w hw

end Structural

section Blocks
variable {w w' : World} {t : Task} {l : Label}

theorem Block.store (h : Block w t w' l) :
    (w'.manager.sessions = w.manager.sessions ∧
      w'.manager.stats.activeSessions = w.manager.stats.activeSessions ∧
      w'.manager.isShuttingDown = w.manager.isShuttingDown) ∨
    w' = shutdownBegin w ∨ (t = .shutdown .clearing ∧ w' = shutdownClear w) := by
  cases h with
  | raiseFlag => exact .inr (.inl rfl)
  | clearStore ht => exact .inr (.inr ⟨ht, rfl⟩)
  | quiet | turn | recordError | complete | appendReply | foldUsage => exact .inl ⟨rfl, rfl, rfl⟩

theorem Block.maxConcurrentSessions (h : Block w t w' l) :
    w'.manager.maxConcurrentSessions = w.manager.maxConcurrentSessions := by
  cases h <;> rfl

theorem Block.withinCapacity (h : Block w t w' l) (h0 : 0 ≤ w.manager.maxConcurrentSessions)
    (hw : WithinCapacity w) : WithinCapacity w' := by
  rcases h.store with ⟨hs, -, -⟩ | rfl | ⟨-, rfl⟩
  · simpa only [WithinCapacity, hs, h.maxConcurrentSessions] using hw
  · exact hw
  · simpa [WithinCapacity, shutdownClear] using h0

theorem Block.isShuttingDown (h : Block w t w' l) (hw : w.manager.isShuttingDown = true) :
    w'.manager.isShuttingDown = true := by
  rcases h.store with ⟨-, -, hf⟩ | rfl | ⟨-, rfl⟩
  · rw [hf, hw]
  · rfl
  · exact hw

end Blocks

section Runs
variable {s u : Loop} {a : Action} {l : Label}

theorem step_maxConcurrentSessions (h : s.step a = some (u, l)) :
    u.world.manager.maxConcurrentSessions = s.world.manager.maxConcurrentSessions := by
  rcases step_cases h with ⟨-, -, hst⟩ | ⟨-, hw, -⟩ | ⟨_, _, _, _, -, hr, -⟩
  · exact hst.fixed.1
  · rw [hw]
  · exact (resume_cases hr).1.maxConcurrentSessions

theorem step_withinCapacity (h0 : 0 ≤ s.world.manager.maxConcurrentSessions)
    (hs : WithinCapacity s.world) (h : s.step a = some (u, l)) : WithinCapacity u.world := by
  rcases step_cases h with ⟨-, -, hst⟩ | ⟨-, hw, -⟩ | ⟨_, _, _, _, -, hr, -⟩
  · exact hst.withinCapacity hs
  · rwa [hw]
  · exact (resume_cases hr).1.withinCapacity h0 hs

/-- The store never exceeds its capacity: for `C ≥ 0`, every state an interleaving of any
    operations reaches from a fresh manager is within capacity, and so is what any create
    there leaves when it succeeds. -/
theorem store_within_capacity {settings : Settings} {C T clock : ℤ} (hC : 0 ≤ C)
    {ls : List Label} {v : Loop} (h : Run (Loop.init settings C T clock) ls v) :
    (v.world.manager.sessions.len : ℤ) ≤ C ∧
    ∀ userId systemPrompt uuid, (createSession v.world userId systemPrompt uuid).2 = .ok uuid →
      ((createSession v.world userId systemPrompt uuid).1.manager.sessions.len : ℤ) ≤ C := by
  have inv := h.invariant
    (fun s => s.world.manager.maxConcurrentSessions = C ∧ WithinCapacity s.world)
    (fun s _ u _ ⟨hC', hw⟩ hstep =>
      ⟨(step_maxConcurrentSessions hstep).trans hC', step_withinCapacity (hC'.symm ▸ hC) hw hstep⟩)
    ⟨rfl, hC⟩
  obtain ⟨hmax, hw⟩ := inv
  refine ⟨hmax ▸ hw, fun userId systemPrompt uuid _ => ?_⟩
  have := createSession_withinCapacity v.world userId systemPrompt uuid hw
  rwa [WithinCapacity, (createSession_fixed v.world userId systemPrompt uuid).1, hmax] at this

theorem store_within_capacity_two_creates :
    ∃ v ls, Run (Loop.init Settings.defaults 1 300 0) ls v ∧
      (v.world.manager.sessions.len : ℤ) ≤ 1 := by
  obtain ⟨⟨v, ls⟩, h⟩ : ∃ r, (Loop.init Settings.defaults 1 300 0).runActions
      [.createSession "user-1" none "s1", .createSession "user-2" none "s2"] = some r := ⟨_, rfl⟩
  exact ⟨v, ls, run_of_runActions h, (store_within_capacity (by decide) (run_of_runActions h)).1⟩

/-- Before `shutdown` raises its flag the counter matches the store, and a `shutdown`
    past its first block has raised the flag. -/
def CounterInv (s : Loop) : Prop :=
  (∀ t ∈ s.tasks, t.shutdownStarted = true → s.world.manager.isShuttingDown = true) ∧
  (s.world.manager.isShuttingDown = false → ActiveMatches s.world)

theorem step_counterInv (hs : CounterInv s) (h : s.step a = some (u, l)) : CounterInv u := by
  obtain ⟨hstarted, hmatch⟩ := hs
  rcases step_cases h with ⟨-, ht, hst⟩ | ⟨-, hw, t, -, hnew, ht⟩ | ⟨i, t, t', ev, hi, hr, ht⟩
  · refine ⟨fun t' ht' hs' => ?_, fun hf => hst.activeMatches (hmatch (hst.fixed.2 ▸ hf))⟩
    rw [hst.fixed.2]
    exact hstarted t' (ht ▸ ht') hs'
  · refine ⟨fun t' ht' hs' => ?_, hw ▸ hmatch⟩
    rw [ht] at ht'
    rcases List.mem_append.mp ht' with ht' | ht'
    · exact hw ▸ hstarted t' ht' hs'
    · rw [List.mem_singleton.mp ht', hnew] at hs'
      cases hs'
  · obtain ⟨hb, -, hsd⟩ := resume_cases hr
    have hmem := List.getElem?_mem hi
    refine ⟨fun t'' ht'' hs'' => ?_, fun hf => ?_⟩
    · rw [ht] at ht''
      rcases List.mem_or_eq_of_mem_set ht'' with ht'' | rfl
      · exact hb.isShuttingDown (hstarted _ ht'' hs'')
      · rcases hsd hs'' with hs | hw
        · exact hb.isShuttingDown (hstarted t hmem hs)
        · rw [hw]
          rfl
    · rcases hb.store with ⟨hses, hact, hflag⟩ | hw | ⟨htc, hw⟩
      · simpa only [ActiveMatches, hses, hact] using hmatch (hflag ▸ hf)
      · rw [hw] at hf
        cases hf
      · have hraised := hstarted t hmem (by rw [htc]; rfl)
        rw [hw] at hf
        exact absurd (hraised.symm.trans hf) (by decide)

theorem active_sessions_match_before_shutdown {settings : Settings} {C T clock : ℤ}
    {ls : List Label} {v : Loop} (h : Run (Loop.init settings C T clock) ls v)
    (hflag : v.world.manager.isShuttingDown = false) : ActiveMatches v.world :=
  (h.invariant CounterInv (fun _ _ _ _ hs hstep => step_counterInv hs hstep)
    ⟨fun _ ht => absurd ht (List.not_mem_nil _), fun _ => rfl⟩).2 hflag

/-- `create_session` and then `shutdown`: the store is empty and the counter still
    counts the session. -/
theorem shutdown_leaves_active_sessions_stale :
    ∃ v ls, Run (Loop.init Settings.defaults 10 300 0) ls v ∧
      v.world.manager.stats.activeSessions = 1 ∧ v.world.manager.sessions.len = 0 := by
  obtain ⟨v, ls, hrun, hp⟩ := @reaches_of_runActions (Loop.init Settings.defaults 10 300 0)
    [.createSession "user-1" none "s1", .callShutdown, .resume 0 .run, .resume 0 .run]
    (fun v => v.world.manager.stats.activeSessions == 1 && v.world.manager.sessions.len == 0)
    (by decide)
  simp only [Bool.and_eq_true, beq_iff_eq] at hp
  exact ⟨v, ls, hrun, hp⟩

end Runs
end HypercoreAgent
