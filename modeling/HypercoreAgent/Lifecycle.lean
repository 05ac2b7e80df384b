import HypercoreAgent.StoreInvariants
import HypercoreAgent.Resume

set_option autoImplicit false

namespace HypercoreAgent

section Resume
variable {w w' : World} {t t' : Task} {ev : Event} {l : Label}

end Resume

theorem exists_mem_set {p : Task → Bool} {tasks : List Task} {i : ℕ} {t t' : Task}
    (hi : tasks[i]? = some t) (ht : p t = true → p t' = true) (h : ∃ t₀ ∈ tasks, p t₀ = true) :
    ∃ t₀ ∈ tasks.set i t', p t₀ = true := by
  obtain ⟨t₀, hmem, hs⟩ := h
  obtain ⟨j, hj⟩ := List.mem_iff_getElem?.mp hmem
  by_cases hji : j = i
  · subst hji
    obtain rfl : t₀ = t := Option.some.inj (hj.symm.trans hi)
    exact ⟨t', List.mem_set _ _ (List.getElem?_eq_some_iff.mp hi).1 _, ht hs⟩
  · exact ⟨t₀, List.mem_iff_getElem?.mpr ⟨j, by rw [List.getElem?_set_ne (Ne.symm hji), hj]⟩, hs⟩

section Steps
variable {s u : Loop} {a : Action} {l : Label}

end Steps

end HypercoreAgent
