import HypercoreAgent.Resume
import HypercoreAgent.Solo

set_option autoImplicit false

namespace HypercoreAgent

/-- The blocks a `process_request` task may still run in phase `pc` of attempt `n`: two per
    attempt left (the lookup with the provider call, then the answer) and one per wake-up. -/
def RequestPc.budget (n : ℕ) : RequestPc → ℕ
  | .attempt => 3 * (3 - n) + 2
  | .awaiting _ _ => 3 * (3 - n) + 1
  | .sleeping _ => 3 * (3 - n)
  | .returned _ | .raised _ => 0

def Task.budget : Task → ℕ
  | .processRequest _ _ n pc => pc.budget n
  | _ => 0

/-- tenacity's attempt number as `stop_after_attempt(3)` keeps it: `1` to `3`, asleep only
    before attempt `2` or `3`. -/
def Task.attemptsBounded : Task → Bool
  | .processRequest _ _ n (.sleeping _) => 1 ≤ n && n < 3
  | .processRequest _ _ n _ => 1 ≤ n && n ≤ 3
  | _ => true

theorem budget_eq_zero_iff {sessionId : String} {request : AgentRequest} {n : ℕ}
    {pc : RequestPc} (hb : (Task.processRequest sessionId request n pc).attemptsBounded = true) :
    (Task.processRequest sessionId request n pc).budget = 0 ↔
      (∃ result, pc = .returned result) ∨ ∃ e, pc = .raised e := by
  cases pc <;> simp_all [Task.budget, RequestPc.budget, Task.attemptsBounded]
  omega

section Loop
variable {s u : Loop} {a : Action} {l : Label}

end Loop

section Runs

theorem runActions_cons {s v : Loop} {a : Action} {as : List Action} {ls : List Label}
    (h : s.runActions (a :: as) = some (v, ls)) :
    ∃ u l ls', s.step a = some (u, l) ∧ u.runActions as = some (v, ls') ∧ ls = l :: ls' := by
  simp only [Loop.runActions] at h
  split at h
  · cases h
  · next u l hstep =>
    obtain ⟨⟨v', ls'⟩, hrun, hv⟩ := Option.map_eq_some'.mp h
    simp only [Prod.mk.injEq] at hv
    obtain ⟨rfl, rfl⟩ := hv
    exact ⟨u, l, ls', hstep, hrun, rfl⟩

end Runs

/-- tenacity's total sleep when `left` more attempts are allowed after attempt `n` and all
    of them are made. -/
def backoffTotal (wait : ℕ → ℕ) (n : ℕ) : ℕ → ℕ
  | 0 => 0
  | left + 1 => wait n + backoffTotal wait (n + 1) left

end HypercoreAgent
