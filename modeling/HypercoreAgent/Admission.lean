import HypercoreAgent.Manager

set_option autoImplicit false

namespace HypercoreAgent

theorem PyDict.entries_foldl_erase {α : Type} (d : PyDict α) (ks : List String) :
    (ks.foldl PyDict.erase d).entries = d.entries.filter (fun e => e.1 ∉ ks) := by
  induction ks generalizing d with
  | nil => simp
  | cons k ks ih =>
    rw [List.foldl_cons, ih, PyDict.entries_erase, List.filter_filter]
    exact List.filter_congr fun e _ => by simp [Bool.and_comm]

/-- The entries a sweep at the world's clock keeps: `S \ E`. -/
def World.unexpired (w : World) : List (String × ℕ) :=
  w.manager.sessions.entries.filter fun e =>
    !(w.heap e.2).isExpired w.manager.sessionTimeout w.clock

theorem cleanup_entries (w : World) :
    (cleanupExpiredSessionsSync w).manager.sessions.entries = w.unexpired := by
  simp only [cleanupExpiredSessionsSync, World.manager_setManager, PyDict.entries_foldl_erase,
    World.unexpired]
  refine List.filter_congr fun e he => ?_
  have collected : e.1 ∈ (w.manager.sessions.entries.filter fun e =>
      (w.heap e.2).isExpired w.manager.sessionTimeout w.clock).map Prod.fst ↔
      (w.heap e.2).isExpired w.manager.sessionTimeout w.clock = true := by
    constructor
    · intro h
      obtain ⟨e', he', hk⟩ := List.mem_map.mp h
      obtain rfl := List.inj_on_of_nodup_map w.manager.sessions.nodup
        (List.mem_of_mem_filter he') he hk
      exact (List.mem_filter.mp he').2
    · exact fun h => List.mem_map_of_mem _ (List.mem_filter.mpr ⟨he, h⟩)
  simp [collected]

section Cleanup
variable (w : World)

@[simp] theorem cleanup_heap : (cleanupExpiredSessionsSync w).heap = w.heap := rfl
@[simp] theorem cleanup_nextRef : (cleanupExpiredSessionsSync w).nextRef = w.nextRef := rfl
@[simp] theorem cleanup_clock : (cleanupExpiredSessionsSync w).clock = w.clock := rfl
@[simp] theorem cleanup_maxConcurrentSessions :
    (cleanupExpiredSessionsSync w).manager.maxConcurrentSessions =
      w.manager.maxConcurrentSessions := rfl
@[simp] theorem cleanup_totalSessions :
    (cleanupExpiredSessionsSync w).manager.stats.totalSessions =
      w.manager.stats.totalSessions := by
  simp only [cleanupExpiredSessionsSync, World.manager_setManager]
  split <;> rfl

theorem cleanup_len :
    (cleanupExpiredSessionsSync w).manager.sessions.len = w.unexpired.length :=
  congrArg List.length (cleanup_entries w)

end Cleanup

/-- A sweep at clock `t` with timeout `T`, from `create_session` or from the background
    task, keeps exactly the sessions idle for at most `T`, in their order, each id still
    naming its own object, and no session object changes. -/
theorem cleanup_keeps_exactly_unexpired (w : World) :
    let t : ℤ := w.clock
    let T : ℤ := w.manager.sessionTimeout
    let swept : World := cleanupExpiredSessionsSync w
    swept.manager.sessions.entries =
      w.manager.sessions.entries.filter (fun e => t - (w.heap e.2).lastActivity ≤ T) ∧
    (∀ sessionId, swept.manager.sessions.get? sessionId =
      (w.manager.sessions.get? sessionId).filter fun ref => t - (w.heap ref).lastActivity ≤ T) ∧
    swept.heap = w.heap := by
  intro t T swept
  have kept : swept.manager.sessions.entries =
      w.manager.sessions.entries.filter (fun e => t - (w.heap e.2).lastActivity ≤ T) :=
    (cleanup_entries w).trans <| List.filter_congr fun e _ => by
      simp [AgentSession.isExpired, t, T, ← not_lt]
  exact ⟨kept, PyDict.get?_of_entries_eq_filter kept, rfl⟩

example :
    let w₀ : World := World.init Settings.defaults 10 300 0
    let w₁ : World := { (createSession w₀ "user-1" none "s1").1 with clock := 100 }
    let w₂ : World := { (createSession w₁ "user-2" none "s2").1 with clock := 400 }
    (cleanupExpiredSessionsSync w₂).manager.sessions.keys = ["s2"] := by
  decide

section AddSession
variable (w : World) (uuid userId : String) (p : Option String)

theorem addSession_entries (h : uuid ∉ w.manager.sessions.keys) :
    (w.addSession uuid userId p).manager.sessions.entries =
      w.manager.sessions.entries ++ [(uuid, w.nextRef)] :=
  PyDict.entries_insert_of_not_mem _ _ _ h

theorem addSession_heap (r : ℕ) :
    (w.addSession uuid userId p).heap r =
      if r = w.nextRef then AgentSession.init uuid userId p w.clock else w.heap r := by
  simp [World.addSession, Function.update_apply]

@[simp] theorem addSession_totalSessions :
    (w.addSession uuid userId p).manager.stats.totalSessions =
      w.manager.stats.totalSessions + 1 := rfl

end AddSession

section CreateSession
variable (w : World) (userId : String) (p : Option String) (uuid : String)

theorem createSession_of_room
    (h : (w.manager.sessions.len : ℤ) < w.manager.maxConcurrentSessions) :
    createSession w userId p uuid = (w.addSession uuid userId p, .ok uuid) := by
  simp [createSession, not_le.mpr h]

theorem createSession_of_full
    (h : w.manager.maxConcurrentSessions ≤ (w.manager.sessions.len : ℤ)) :
    createSession w userId p uuid =
      if w.manager.maxConcurrentSessions ≤ (w.unexpired.length : ℤ) then
        (cleanupExpiredSessionsSync w, .error (maxSessionsError w.manager.maxConcurrentSessions))
      else ((cleanupExpiredSessionsSync w).addSession uuid userId p, .ok uuid) := by
  simp only [createSession, ge_iff_le, h, if_true, cleanup_maxConcurrentSessions, cleanup_len]

/-- Admission is exact: a create succeeds iff the store has room before the sweep or
    after it. A refused create leaves the swept store `S \ E` and no new object; an
    admitted one appends the fresh id, to `S` or to `S \ E`, bound to a fresh session. -/
theorem create_session_exact (hfresh : uuid ∉ w.manager.sessions.keys) :
    let S := w.manager.sessions.entries
    let C := w.manager.maxConcurrentSessions
    let r := createSession w userId p uuid
    (r.2 = .ok uuid ↔ (S.length : ℤ) < C ∨ (w.unexpired.length : ℤ) < C) ∧
    (r.2 = .ok uuid →
      r.1.manager.sessions.entries =
        (if (S.length : ℤ) < C then S else w.unexpired) ++ [(uuid, w.nextRef)] ∧
      (r.1.heap w.nextRef).messageHistory = [] ∧ (r.1.heap w.nextRef).tokenUsage = ⟨0, 0, 0⟩ ∧
      r.1.manager.stats.totalSessions = w.manager.stats.totalSessions + 1) ∧
    (r.2 ≠ .ok uuid →
      r.2 = .error (maxSessionsError C) ∧ r.1.manager.sessions.entries = w.unexpired ∧
      r.1.heap = w.heap ∧ r.1.nextRef = w.nextRef ∧
      r.1.manager.stats.totalSessions = w.manager.stats.totalSessions) := by
  intro S C r
  by_cases hroom : (S.length : ℤ) < C
  · have hr : r = (w.addSession uuid userId p, .ok uuid) := createSession_of_room w userId p uuid hroom
    rw [hr]
    refine ⟨by simp [hroom], fun _ => ⟨?_, ?_, ?_, rfl⟩, fun h => absurd rfl h⟩ <;>
      simp only [if_pos hroom, addSession_heap, if_true, AgentSession.messageHistory_init,
        AgentSession.tokenUsage_init]
    exact addSession_entries w uuid userId p hfresh
  · have hr : r = if C ≤ (w.unexpired.length : ℤ) then
        (cleanupExpiredSessionsSync w, .error (maxSessionsError C))
      else ((cleanupExpiredSessionsSync w).addSession uuid userId p, .ok uuid) :=
      createSession_of_full w userId p uuid (not_lt.mp hroom)
    by_cases hsweep : (w.unexpired.length : ℤ) < C
    · have hkept : uuid ∉ (cleanupExpiredSessionsSync w).manager.sessions.keys := fun hk => by
        simp only [PyDict.keys, cleanup_entries, World.unexpired] at hk
        obtain ⟨e, he, rfl⟩ := List.mem_map.mp hk
        exact hfresh (List.mem_map_of_mem _ (List.mem_of_mem_filter he))
      rw [hr, if_neg (not_le.mpr hsweep)]
      refine ⟨by simp [hsweep], fun _ => ⟨?_, ?_, ?_, by simp⟩, fun h => absurd rfl h⟩ <;>
        simp only [if_neg hroom, addSession_entries _ _ _ _ hkept, cleanup_entries,
          addSession_heap, cleanup_nextRef, if_true, AgentSession.messageHistory_init,
          AgentSession.tokenUsage_init]
    · rw [hr, if_pos (not_lt.mp hsweep)]
      refine ⟨by simp [hroom, hsweep], fun h => absurd h (by simp), fun _ => ?_⟩
      exact ⟨rfl, cleanup_entries w, rfl, rfl, cleanup_totalSessions w⟩

theorem create_session_exact_fresh :
    "s1" ∉ (World.init Settings.defaults 1 300 0).manager.sessions.keys ∧
      (createSession (World.init Settings.defaults 1 300 0) "u" none "s1").2 = .ok "s1" :=
  ⟨by decide, (create_session_exact _ "u" none "s1" (by decide)).1.mpr (Or.inl (by decide))⟩

end CreateSession
end HypercoreAgent
