import Mathlib.Data.List.Nodup

set_option autoImplicit false

namespace HypercoreAgent

structure PyDict (α : Type) where
  entries : List (String × α)
  nodup : (entries.map Prod.fst).Nodup

namespace PyDict
variable {α : Type}

def empty : PyDict α := ⟨[], List.nodup_nil⟩

def keys (d : PyDict α) : List String := d.entries.map Prod.fst

def len (d : PyDict α) : ℕ := d.entries.length

/-- `d.get(k)`. -/
def get? (d : PyDict α) (k : String) : Option α :=
  (d.entries.find? (fun e => e.1 = k)).map Prod.snd

def overwrite (k : String) (v : α) (e : String × α) : String × α :=
  if e.1 = k then (k, v) else e

@[simp] theorem fst_overwrite (k : String) (v : α) (e : String × α) :
    (overwrite k v e).1 = e.1 := by
  unfold overwrite; split <;> simp_all

theorem keys_map_overwrite (l : List (String × α)) (k : String) (v : α) :
    (l.map (overwrite k v)).map Prod.fst = l.map Prod.fst := by
  simp [Function.comp_def]

/-- `d[k] = v`: a present key keeps its position, a new key goes last. -/
def insert (d : PyDict α) (k : String) (v : α) : PyDict α :=
  if h : k ∈ d.keys then
    ⟨d.entries.map (overwrite k v), by rw [keys_map_overwrite]; exact d.nodup⟩
  else
    ⟨d.entries ++ [(k, v)], by simpa [List.nodup_append, keys] using And.intro d.nodup h⟩

/-- `del d[k]`. -/
def erase (d : PyDict α) (k : String) : PyDict α :=
  ⟨d.entries.filter (fun e => e.1 ≠ k), d.nodup.sublist ((List.filter_sublist _).map _)⟩

/-- A `defaultdict(int)` read: an absent key counts zero. -/
def count (d : PyDict ℕ) (k : String) : ℕ := (d.get? k).getD 0

def increment (d : PyDict ℕ) (k : String) : PyDict ℕ := d.insert k (d.count k + 1)

@[simp] theorem entries_empty : (empty : PyDict α).entries = [] := rfl

@[simp] theorem len_empty : (empty : PyDict α).len = 0 := rfl

@[simp] theorem entries_erase (d : PyDict α) (k : String) :
    (d.erase k).entries = d.entries.filter (fun e => e.1 ≠ k) := rfl

theorem entries_insert_of_not_mem (d : PyDict α) (k : String) (v : α) (h : k ∉ d.keys) :
    (d.insert k v).entries = d.entries ++ [(k, v)] := by
  simp [insert, h]

theorem len_insert_of_not_mem (d : PyDict α) (k : String) (v : α) (h : k ∉ d.keys) :
    (d.insert k v).len = d.len + 1 := by
  simp [len, entries_insert_of_not_mem d k v h]

theorem len_insert_le (d : PyDict α) (k : String) (v : α) : (d.insert k v).len ≤ d.len + 1 := by
  unfold insert len
  split <;> simp

theorem len_erase_le (d : PyDict α) (k : String) : (d.erase k).len ≤ d.len :=
  (List.filter_sublist _).length_le

theorem mem_insert {d : PyDict α} {k : String} {v : α} {e : String × α}
    (h : e ∈ (d.insert k v).entries) : e ∈ d.entries ∨ e = (k, v) := by
  unfold insert at h
  split at h
  · obtain ⟨e', he', rfl⟩ := List.mem_map.mp h
    unfold overwrite
    split
    · exact .inr rfl
    · exact .inl he'
  · simpa using h

theorem find?_map_overwrite (l : List (String × α)) (k k' : String) (v : α) :
    ((l.map (overwrite k v)).find? (fun e => e.1 = k')).map Prod.snd =
      if k' = k then (if k ∈ l.map Prod.fst then some v else none)
      else (l.find? (fun e => e.1 = k')).map Prod.snd := by
  rw [List.find?_map, Option.map_map]
  have same : ((fun e : String × α => decide (e.1 = k')) ∘ overwrite k v) =
      fun e => decide (e.1 = k') := funext fun e => by simp
  rw [same]
  cases h : l.find? (fun e => e.1 = k') with
  | none =>
    have absent : k' ∉ l.map Prod.fst := fun hm => by
      obtain ⟨e, he, rfl⟩ := List.mem_map.mp hm
      exact List.find?_eq_none.mp h e he (by simp)
    split
    · next hkk => subst hkk; simp [absent]
    · rfl
  | some e =>
    have hk : e.1 = k' := by simpa using List.find?_some h
    have hm : k' ∈ l.map Prod.fst := List.mem_map.mpr ⟨e, List.mem_of_find?_eq_some h, hk⟩
    split
    · next hkk => subst hkk; simp [overwrite, hk, hm]
    · next hkk => simp [overwrite, hk, hkk]

theorem get?_insert (d : PyDict α) (k k' : String) (v : α) :
    (d.insert k v).get? k' = if k' = k then some v else d.get? k' := by
  unfold insert get?
  split
  · next h => rw [find?_map_overwrite, if_pos (show k ∈ d.entries.map Prod.fst from h)]
  · next h =>
    rw [List.find?_append]
    by_cases hk : k' = k
    · subst hk
      have : d.entries.find? (fun e => e.1 = k') = none :=
        List.find?_eq_none.mpr fun e he hek => h (List.mem_map.mpr ⟨e, he, by simpa using hek⟩)
      simp [this]
    · cases d.entries.find? (fun e => e.1 = k') <;> simp [hk, Ne.symm hk]

theorem mem_of_get? {d : PyDict α} {k : String} {v : α} (h : d.get? k = some v) :
    (k, v) ∈ d.entries := by
  obtain ⟨e, he, rfl⟩ := Option.map_eq_some'.mp h
  have hk : e.1 = k := by simpa using List.find?_some he
  rw [← hk]
  exact List.mem_of_find?_eq_some he

theorem get?_eq_some_iff {d : PyDict α} {k : String} {v : α} :
    d.get? k = some v ↔ (k, v) ∈ d.entries := by
  refine ⟨mem_of_get?, fun h => ?_⟩
  obtain ⟨e, he⟩ : ∃ e, d.entries.find? (fun e => e.1 = k) = some e :=
    Option.isSome_iff_exists.mp (List.find?_isSome.mpr ⟨_, h, by simp⟩)
  have hk : e.1 = k := by simpa using List.find?_some he
  have : e = (k, v) := List.inj_on_of_nodup_map d.nodup (List.mem_of_find?_eq_some he) h hk
  simp [get?, he, this]

theorem get?_of_entries_eq_filter {d d' : PyDict α} {p : α → Bool}
    (h : d'.entries = d.entries.filter fun e => p e.2) (k : String) :
    d'.get? k = (d.get? k).filter p :=
  Option.ext fun v => by
    simp only [Option.mem_def, Option.filter_eq_some, get?_eq_some_iff, h, List.mem_filter]

theorem mem_keys_insert (d : PyDict α) (k : String) (v : α) : k ∈ (d.insert k v).keys :=
  List.mem_map.mpr ⟨(k, v), mem_of_get? (by rw [get?_insert, if_pos rfl]), rfl⟩

theorem not_mem_keys_erase (d : PyDict α) (k : String) : k ∉ (d.erase k).keys := by
  simp [keys, erase]

theorem count_increment (d : PyDict ℕ) (k k' : String) :
    (d.increment k).count k' = d.count k' + if k' = k then 1 else 0 := by
  unfold increment count
  rw [get?_insert]
  by_cases h : k' = k
  · subst h; simp
  · simp [h]

end PyDict
end HypercoreAgent
