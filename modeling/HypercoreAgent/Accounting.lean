import HypercoreAgent.Ledger
import HypercoreAgent.Lifecycle
import HypercoreAgent.Retries

set_option autoImplicit false

namespace HypercoreAgent

/-- `f 0 + ⋯ + f (n - 1)`. -/
def sumBelow (f : ℕ → ℕ) : ℕ → ℕ
  | 0 => 0
  | n + 1 => sumBelow f n + f n

/-- The tokens recorded by every session object made so far. -/
def ledgerTotal (w : World) : ℕ := sumBelow (fun r => (w.heap r).tokenUsage.total) w.nextRef

def Usage.tokens (u : Usage) : ℕ := u.inputTokens + u.outputTokens

/-- The tokens a step folds into some session. -/
def Label.tokens : Label → ℕ
  | .silent => 0
  | .fold _ usage => usage.tokens

def Task.isStream : Task → Bool
  | .streamResponse .. => true
  | _ => false

/-- 1 for a `process_request` call that has returned. -/
def Task.returnedCount : Task → ℕ
  | .processRequest _ _ _ (.returned _) => 1
  | _ => 0

/-- The `total_tokens` of the usage a returned `process_request` call reported. -/
def Task.reportedTokens : Task → ℕ
  | .processRequest _ _ _ (.returned result) => result.usage.totalTokens
  | _ => 0

/-- `f` summed over the tasks. -/
def tasksSum (f : Task → ℕ) : List Task → ℕ
  | [] => 0
  | t :: ts => f t + tasksSum f ts

section Sums
variable {f g : ℕ → ℕ}

theorem sumBelow_congr {n : ℕ} (h : ∀ r < n, f r = g r) : sumBelow f n = sumBelow g n := by
  induction n with
  | zero => rfl
  | succ n ih => simp only [sumBelow, ih (fun r hr => h r (by omega)), h n (by omega)]

theorem sumBelow_add (n : ℕ) : sumBelow (fun r => f r + g r) n = sumBelow f n + sumBelow g n := by
  induction n with
  | zero => rfl
  | succ n ih => simp only [sumBelow, ih]; omega

theorem sumBelow_single (k c n : ℕ) :
    sumBelow (fun r => if k = r then c else 0) n = if k < n then c else 0 := by
  induction n with
  | zero => simp [sumBelow]
  | succ n ih =>
    simp only [sumBelow, ih]
    by_cases hk : k = n
    · simp [hk]
    · by_cases hlt : k < n
      · simp [hk, hlt, show k < n + 1 by omega]
      · simp [hk, hlt, show ¬k < n + 1 by omega]

theorem sumBelow_of_zero {n m : ℕ} (hnm : n ≤ m) (h : ∀ r, n ≤ r → r < m → f r = 0) :
    sumBelow f m = sumBelow f n := by
  induction m, hnm using Nat.le_induction with
  | base => rfl
  | succ m hnm ih =>
    rw [sumBelow, ih (fun r hr hrm => h r hr (by omega)), h m hnm (by omega), Nat.add_zero]

end Sums

theorem sumBelow_usageAt (l : Label) {n : ℕ} (h : ∀ ref usage, l = .fold ref usage → ref < n) :
    sumBelow (fun r => (l.usageAt r).tokens) n = l.tokens := by
  cases l with
  | silent => simpa [Label.usageAt, Usage.tokens] using sumBelow_single 0 0 n
  | fold ref usage =>
    have hsum := sumBelow_single ref usage.tokens n
    rw [if_pos (h ref usage rfl)] at hsum
    show _ = usage.tokens
    rw [← hsum]
    refine sumBelow_congr fun r _ => ?_
    by_cases hr : ref = r <;> simp [Label.usageAt, Usage.tokens, hr]

theorem Touch.total {o o' : AgentSession} {usage : Usage} (h : Touch o o' usage)
    (hb : o.tokenUsage.Balanced) : o'.tokenUsage.total = o.tokenUsage.total + usage.tokens := by
  have hb' := h.balanced hb
  simp only [TokenUsage.Balanced] at hb hb'
  rw [hb', hb, h.input, h.output, Usage.tokens]
  omega

theorem Block.ledgerTotal_add {w w' : World} {t : Task} {l : Label} (hb : Block w t w' l)
    (hbal : ∀ r, (w.heap r).tokenUsage.Balanced) (href : ∀ r ∈ t.ref, r < w.nextRef) :
    ledgerTotal w' = ledgerTotal w + l.tokens := by
  have hfold : ∀ ref usage, l = .fold ref usage → ref < w.nextRef := by
    intro ref usage hl
    subst hl
    cases hb with
    | complete _ hr | foldUsage _ hr => exact href ref hr
  have hobj : ∀ r, (w'.heap r).tokenUsage.total =
      (w.heap r).tokenUsage.total + (l.usageAt r).tokens := by
    intro r
    rcases hb.heap r with ⟨he, hl⟩ | ⟨-, ht⟩
    · simp [he, hl, Usage.tokens]
    · exact ht.total (hbal r)
  rw [ledgerTotal, ledgerTotal, hb.nextRef, sumBelow_congr (fun r _ => hobj r), sumBelow_add,
    sumBelow_usageAt l hfold]

section RetryAfter
variable (w : World) (sessionId : String) (request : AgentRequest) (n : ℕ) (e : PyException)

@[simp] theorem isStream_retryAfter : (retryAfter w sessionId request n e).isStream = false := by
  unfold retryAfter; split <;> rfl

@[simp] theorem returnedCount_retryAfter :
    (retryAfter w sessionId request n e).returnedCount = 0 := by
  unfold retryAfter; split <;> rfl

@[simp] theorem reportedTokens_retryAfter :
    (retryAfter w sessionId request n e).reportedTokens = 0 := by
  unfold retryAfter; split <;> rfl

end RetryAfter

theorem cleanup_totals (w : World) :
    (cleanupExpiredSessionsSync w).manager.stats.totalRequests = w.manager.stats.totalRequests ∧
    (cleanupExpiredSessionsSync w).manager.stats.totalTokens = w.manager.stats.totalTokens := by
  simp only [cleanupExpiredSessionsSync, World.manager_setManager]
  split <;> exact ⟨rfl, rfl⟩

section Resume
variable {w w' : World} {t t' : Task} {ev : Event} {l : Label}

theorem resume_accounting (h : t.resume w ev = some (w', t', l)) :
    t'.isStream = t.isStream ∧
    w'.manager.stats.totalTokens =
      w.manager.stats.totalTokens + (if t.isStream then 0 else l.tokens) ∧
    w'.manager.stats.totalRequests + t.returnedCount =
      w.manager.stats.totalRequests + t'.returnedCount ∧
    w'.manager.stats.totalTokens + t.reportedTokens =
      w.manager.stats.totalTokens + t'.reportedTokens := by
  cases resumes_of_resume h <;>
    first
      | exact ⟨rfl, rfl, rfl, rfl⟩
      | exact ⟨isStream_retryAfter .., rfl, by rw [returnedCount_retryAfter]; rfl,
          by rw [reportedTokens_retryAfter]; rfl⟩

end Resume

section Structural
variable {w w' : World}

theorem Structural.totals (h : Structural w w') :
    w'.manager.stats.totalRequests = w.manager.stats.totalRequests ∧
    w'.manager.stats.totalTokens = w.manager.stats.totalTokens := by
  cases h with
  | tick => exact ⟨rfl, rfl⟩
  | reap => exact cleanup_totals w
  | create userId p uuid =>
    rcases createSession_cases w userId p uuid with ⟨-, hc⟩ | ⟨-, hc⟩ | hc <;> rw [hc]
    · exact ⟨rfl, rfl⟩
    · exact cleanup_totals w
    · exact cleanup_totals w
  | delete sessionId =>
    unfold deleteSession
    dsimp only
    split_ifs <;> exact ⟨rfl, rfl⟩

theorem Structural.ledgerTotal_eq (h : Structural w w')
    (hfresh : ∀ r, w.nextRef ≤ r → (w.heap r).tokenUsage = ⟨0, 0, 0⟩) :
    ledgerTotal w' = ledgerTotal w := by
  have hzero : ∀ r, w.nextRef ≤ r → r < w'.nextRef → (w'.heap r).tokenUsage.total = 0 :=
    fun r hr _ => by
      rcases h.heap r with he | ⟨-, hz⟩
      · rw [he, hfresh r hr]
      · rw [hz]
  rw [ledgerTotal, ledgerTotal, sumBelow_of_zero h.nextRef_le hzero]
  refine sumBelow_congr fun r hr => ?_
  rcases h.heap r with he | ⟨hle, -⟩
  · rw [he]
  · exact absurd hr (not_lt.mpr hle)

end Structural

/-- The manager's count never exceeds the ledgers, and matches them until a stream is on the
    loop. -/
def TokensAccounted (s : Loop) : Prop :=
  RefsValid s ∧ (∀ r, (s.world.heap r).tokenUsage.Balanced) ∧
  s.world.manager.stats.totalTokens ≤ ledgerTotal s.world ∧
  ((∃ t ∈ s.tasks, t.isStream = true) ∨
    s.world.manager.stats.totalTokens = ledgerTotal s.world)

theorem step_tokensAccounted {s u : Loop} {a : Action} {l : Label} (hs : TokensAccounted s)
    (h : s.step a = some (u, l)) : TokensAccounted u := by
  obtain ⟨hv, hbal, hle, heq⟩ := hs
  have hbal' : ∀ r, (u.world.heap r).tokenUsage.Balanced := fun r => by
    rcases step_object h r with ht | ⟨-, -, hz⟩
    · exact ht.balanced (hbal r)
    · rw [hz]; rfl
  refine ⟨step_refsValid hv h, hbal', ?_⟩
  rcases step_cases h with ⟨-, ht, hst⟩ | ⟨-, hw, t, -, -, ht⟩ | ⟨i, t, t', ev, hi, hr, ht⟩
  · rw [hst.totals.2, hst.ledgerTotal_eq hv.2.2, ht]
    exact ⟨hle, heq⟩
  · rw [hw, ht]
    exact ⟨hle, heq.imp (fun ⟨t₀, hm, hs⟩ => ⟨t₀, List.mem_append_left _ hm, hs⟩) id⟩
  · have hled := (resume_cases hr).1.ledgerTotal_add hbal (hv.2.1 t (List.getElem?_mem hi))
    obtain ⟨hst, htt, -, -⟩ := resume_accounting hr
    rw [ht]
    cases hstream : t.isStream <;>
      simp only [hstream, Bool.false_eq_true, if_true, if_false, Nat.add_zero] at htt
    · exact ⟨by omega, heq.imp (exists_mem_set hi hst.trans) fun he => by omega⟩
    · exact ⟨by omega, .inl ⟨t', List.mem_set _ _ (List.getElem?_eq_some_iff.mp hi).1 _,
        hst.trans hstream⟩⟩

/-- In every state a run reaches from a fresh manager, `stats["total_tokens"]` is at most the
    tokens recorded by all session objects ever made, deleted ones included, and equals that
    sum when no `stream_response` call is on the loop. -/
theorem total_tokens_within_ledgers {settings : Settings} {C T clock : ℤ} {ls : List Label}
    {v : Loop} (h : Run (Loop.init settings C T clock) ls v) :
    v.world.manager.stats.totalTokens ≤ ledgerTotal v.world ∧
    ((∀ t ∈ v.tasks, t.isStream = false) →
      v.world.manager.stats.totalTokens = ledgerTotal v.world) := by
  obtain ⟨-, -, hle, heq⟩ := h.invariant TokensAccounted
    (fun _ _ _ _ hs hstep => step_tokensAccounted hs hstep)
    ⟨⟨fun _ he => absurd he (List.not_mem_nil _), fun _ ht => absurd ht (List.not_mem_nil _),
      fun _ _ => rfl⟩, fun _ => rfl, le_rfl, .inr rfl⟩
  exact ⟨hle, fun hno => heq.resolve_left fun ⟨t, ht, hs⟩ => by rw [hno t ht] at hs; cases hs⟩

theorem total_tokens_within_ledgers_one_request :
    ∃ v ls, Run (Loop.init Settings.defaults 10 300 0) ls v ∧
      v.world.manager.stats.totalTokens = 7 ∧
      v.world.manager.stats.totalTokens = ledgerTotal v.world := by
  obtain ⟨v, ls, hrun, hp⟩ := @reaches_of_runActions (Loop.init Settings.defaults 10 300 0)
    [.createSession "user-1" none "s1",
     .callProcessRequest "s1" ⟨"Hi", "user-1", 100, 1, false, none, none⟩,
     .resume 0 .run, .resume 0 (.response ⟨[.text "a"], ⟨3, 4⟩⟩)]
    (fun v => v.tasks.all (fun t => !t.isStream) && v.world.manager.stats.totalTokens == 7)
    (by decide)
  simp only [Bool.and_eq_true, List.all_eq_true, Bool.not_eq_true', beq_iff_eq] at hp
  exact ⟨v, ls, hrun, hp.2, (total_tokens_within_ledgers hrun).2 hp.1⟩

section TasksSum
variable (f : Task → ℕ)

theorem tasksSum_append (ts ts' : List Task) :
    tasksSum f (ts ++ ts') = tasksSum f ts + tasksSum f ts' := by
  induction ts with
  | nil => simp [tasksSum]
  | cons t ts ih =>
    show f t + tasksSum f (ts ++ ts') = f t + tasksSum f ts + tasksSum f ts'
    rw [ih]
    omega

theorem tasksSum_set {ts : List Task} {i : ℕ} {t : Task} (h : ts[i]? = some t) (t' : Task) :
    tasksSum f (ts.set i t') + f t = tasksSum f ts + f t' := by
  induction ts generalizing i with
  | nil => simp at h
  | cons t₀ ts ih =>
    cases i with
    | zero =>
      obtain rfl : t₀ = t := by simpa using h
      simp only [List.set_cons_zero, tasksSum]
      omega
    | succ i =>
      have hi := ih (by simpa using h)
      simp only [List.set_cons_succ, tasksSum]
      omega

end TasksSum

/-- `stats["total_requests"]` counts the `process_request` calls that have returned, and
    `stats["total_tokens"]` sums the `total_tokens` they reported. -/
def StatsMatchReturns (s : Loop) : Prop :=
  s.world.manager.stats.totalRequests = tasksSum Task.returnedCount s.tasks ∧
  s.world.manager.stats.totalTokens = tasksSum Task.reportedTokens s.tasks

theorem step_statsMatchReturns {s u : Loop} {a : Action} {l : Label} (hs : StatsMatchReturns s)
    (h : s.step a = some (u, l)) : StatsMatchReturns u := by
  obtain ⟨hreq, htok⟩ := hs
  have hstructural : ∀ {w'}, Structural s.world w' → u = ⟨w', s.tasks⟩ → StatsMatchReturns u :=
    fun hst hu => by
      subst hu
      exact ⟨hst.totals.1.trans hreq, hst.totals.2.trans htok⟩
  have hcall : ∀ t, u = ⟨s.world, s.tasks ++ [t]⟩ → t.returnedCount = 0 →
      t.reportedTokens = 0 → StatsMatchReturns u := fun t hu hc ht => by
    subst hu
    simp only [StatsMatchReturns, tasksSum_append, tasksSum, hc, ht]
    exact ⟨hreq, htok⟩
  cases a with
  | tick seconds => cases h; exact hstructural (.tick seconds) rfl
  | createSession userId p uuid => cases h; exact hstructural (.create userId p uuid) rfl
  | deleteSession sessionId => cases h; exact hstructural (.delete sessionId) rfl
  | reap =>
    simp only [Loop.step] at h
    split at h
    · next hrun => cases h; exact hstructural (.reap hrun) rfl
    · cases h
  | callProcessRequest | callStreamResponse | callShutdown => cases h; exact hcall _ rfl rfl rfl
  | resume i ev =>
    simp only [Loop.step] at h
    split at h
    · cases h
    · next t hi =>
      obtain ⟨⟨w', t', l'⟩, hr, hu⟩ := Option.map_eq_some'.mp h
      cases hu
      obtain ⟨-, -, hreq', htok'⟩ := resume_accounting hr
      have hsr := tasksSum_set Task.returnedCount hi t'
      have hst := tasksSum_set Task.reportedTokens hi t'
      exact ⟨by dsimp only; omega, by dsimp only; omega⟩

/-- Under every interleaving, from a fresh manager, `stats["total_requests"]` is the number
    of `process_request` calls that have returned, and `stats["total_tokens"]` the sum of the
    `total_tokens` they reported: no increment is lost or made twice. -/
theorem stats_count_returned_requests {settings : Settings} {C T clock : ℤ} {ls : List Label}
    {v : Loop} (h : Run (Loop.init settings C T clock) ls v) :
    v.world.manager.stats.totalRequests = tasksSum Task.returnedCount v.tasks ∧
    v.world.manager.stats.totalTokens = tasksSum Task.reportedTokens v.tasks :=
  h.invariant StatsMatchReturns (fun _ _ _ _ hs hstep => step_statsMatchReturns hs hstep)
    ⟨rfl, rfl⟩

theorem stats_count_returned_requests_interleaved :
    ∃ v ls, Run (Loop.init Settings.defaults 10 300 0) ls v ∧
      v.world.manager.stats.totalRequests = 2 ∧ v.world.manager.stats.totalTokens = 19 ∧
      (v.world.manager.stats.totalRequests = tasksSum Task.returnedCount v.tasks ∧
        v.world.manager.stats.totalTokens = tasksSum Task.reportedTokens v.tasks) := by
  obtain ⟨v, ls, hrun, hp⟩ := @reaches_of_runActions (Loop.init Settings.defaults 10 300 0)
    [.createSession "user-1" none "s1",
     .callProcessRequest "s1" ⟨"Hi", "user-1", 100, 1, false, none, none⟩,
     .callProcessRequest "s1" ⟨"Hey", "user-1", 100, 1, false, none, none⟩,
     .callStreamResponse "s1" ⟨"Go", "user-1", 100, 1, true, none, none⟩,
     .resume 0 .run, .resume 1 .run, .resume 2 .run,
     .resume 1 (.response ⟨[.text "b"], ⟨5, 7⟩⟩), .resume 2 (.fragment "c"),
     .resume 0 (.response ⟨[.text "a"], ⟨3, 4⟩⟩)]
    (fun v => v.world.manager.stats.totalRequests == 2 && v.world.manager.stats.totalTokens == 19)
    (by decide)
  simp only [Bool.and_eq_true, beq_iff_eq] at hp
  exact ⟨v, ls, hrun, hp.1, hp.2, stats_count_returned_requests hrun⟩

section Errors

def Event.raises (k : String) : Event → Bool
  | .failure e => decide (k = e.typeName)
  | _ => false

def Action.raises (k : String) : Action → Bool
  | .resume _ ev => ev.raises k
  | _ => false

theorem cleanup_errors (w : World) :
    (cleanupExpiredSessionsSync w).manager.stats.errors = w.manager.stats.errors := by
  simp only [cleanupExpiredSessionsSync, World.manager_setManager]
  split <;> rfl

theorem Structural.errors {w w' : World} (h : Structural w w') :
    w'.manager.stats.errors = w.manager.stats.errors := by
  cases h with
  | tick => rfl
  | reap => exact cleanup_errors w
  | create userId p uuid =>
    rcases createSession_cases w userId p uuid with ⟨-, hc⟩ | ⟨-, hc⟩ | hc <;> rw [hc]
    · rfl
    · exact cleanup_errors w
    · exact cleanup_errors w
  | delete sessionId =>
    unfold deleteSession
    dsimp only
    split_ifs <;> rfl

theorem resume_errors {w w' : World} {t t' : Task} {ev : Event} {l : Label}
    (h : t.resume w ev = some (w', t', l)) (k : String) :
    w'.manager.stats.errors.count k =
      w.manager.stats.errors.count k + if ev.raises k then 1 else 0 := by
  cases resumes_of_resume h <;>
    simp only [Event.raises, World.count_countError, decide_eq_true_eq, World.manager_userTurn,
      completeRequest_errors, endStream, finishStream, World.manager_modifySession,
      shutdownBegin, shutdownClear, World.manager_setManager, Bool.false_eq_true, if_false,
      Nat.add_zero]

theorem step_errors {s u : Loop} {a : Action} {l : Label} (h : s.step a = some (u, l))
    (k : String) :
    u.world.manager.stats.errors.count k =
      s.world.manager.stats.errors.count k + if a.raises k then 1 else 0 := by
  have hstructural : ∀ {w'}, Structural s.world w' → u.world = w' →
      u.world.manager.stats.errors.count k = s.world.manager.stats.errors.count k + 0 :=
    fun hst hu => by rw [hu, hst.errors]; rfl
  cases a with
  | tick seconds => cases h; exact hstructural (.tick seconds) rfl
  | createSession userId p uuid => cases h; exact hstructural (.create userId p uuid) rfl
  | deleteSession sessionId => cases h; exact hstructural (.delete sessionId) rfl
  | reap =>
    simp only [Loop.step] at h
    split at h
    · next hrun => cases h; exact hstructural (.reap hrun) rfl
    · cases h
  | callProcessRequest | callStreamResponse | callShutdown => cases h; rfl
  | resume i ev =>
    simp only [Loop.step] at h
    split at h
    · cases h
    · obtain ⟨⟨w', t', l'⟩, hr, hu⟩ := Option.map_eq_some'.mp h
      cases hu
      exact resume_errors hr k

/-- In every run from a fresh manager, `stats["errors"][k]` is the number of provider
    failures of type name `k` delivered to waiting calls, one per failed attempt; nothing
    else, a missing session included, is counted. -/
theorem errors_count_provider_failures {settings : Settings} {C T clock : ℤ}
    {actions : List Action} {v : Loop} {ls : List Label}
    (h : (Loop.init settings C T clock).runActions actions = some (v, ls)) (k : String) :
    v.world.manager.stats.errors.count k = actions.countP (Action.raises k) := by
  suffices hrun : ∀ (as : List Action) (s : Loop) (ls : List Label), s.runActions as = some (v, ls) →
      v.world.manager.stats.errors.count k =
        s.world.manager.stats.errors.count k + as.countP (Action.raises k) from
    (hrun actions _ ls h).trans (Nat.zero_add _)
  intro as
  induction as with
  | nil =>
    intro s ls hs
    simp only [Loop.runActions, Option.some.injEq, Prod.mk.injEq] at hs
    rw [← hs.1]
    rfl
  | cons a as ih =>
    intro s ls hs
    obtain ⟨u, l, ls', hstep, hu, -⟩ := runActions_cons hs
    rw [ih u ls' hu, step_errors hstep k, List.countP_cons]
    omega

theorem errors_count_provider_failures_retried :
    let request : AgentRequest := ⟨"Hi", "user-1", 100, 1, false, none, none⟩
    let overloaded : PyException := .error "APIError" "overloaded"
    let actions : List Action :=
      [.createSession "user-1" none "s1", .callProcessRequest "s1" request,
       .callProcessRequest "gone" request, .resume 0 .run, .resume 1 .run,
       .resume 0 (.failure overloaded), .tick 2, .resume 0 .run, .resume 0 .run,
       .resume 0 (.failure overloaded)]
    ((Loop.init Settings.defaults 10 300 0).runActions actions).map
        (fun r => (r.1.world.manager.stats.errors.count "APIError",
          r.1.world.manager.stats.errors.count "Exception")) =
      some (actions.countP (Action.raises "APIError"), actions.countP (Action.raises "Exception")) ∧
      actions.countP (Action.raises "APIError") = 2 ∧
      actions.countP (Action.raises "Exception") = 0 := by
  intro request overloaded actions
  obtain ⟨⟨v, ls⟩, hrun⟩ : ∃ r, (Loop.init Settings.defaults 10 300 0).runActions actions = some r :=
    Option.isSome_iff_exists.mp (by decide)
  refine ⟨?_, by decide, by decide⟩
  rw [hrun, Option.map_some', errors_count_provider_failures hrun,
    errors_count_provider_failures hrun]

end Errors

end HypercoreAgent
