import Mathlib.Data.List.Nodup

/-!
# Lists as tables

Jobs, threads and processes are kept in lists that grow at the end and whose entries are
replaced in place.  These are the lookups after either change.  The last section is about
tables whose entries have distinct keys.
-/

namespace List

variable {α : Type*} {l : List α} {a b : α} {i k : Nat}

/-- A lookup in a table with one entry more. -/
theorem getElem?_concat_eq_some :
    (l ++ [a])[k]? = some b ↔ l[k]? = some b ∨ k = l.length ∧ b = a := by
  rw [getElem?_append]
  split
  · rename_i hk
    constructor
    · exact .inl
    · rintro (h | ⟨rfl, -⟩)
      · exact h
      · omega
  · rename_i hk
    have hnone : l[k]? = none := getElem?_eq_none (by omega)
    constructor
    · intro h
      obtain ⟨hlt, hget⟩ := getElem?_eq_some_iff.mp h
      simp only [length_cons, length_nil] at hlt
      refine .inr ⟨by omega, ?_⟩
      rw [← hget]
      simp
    · rintro (h | ⟨rfl, rfl⟩)
      · rw [hnone] at h
        cases h
      · simp

/-- A lookup in a table in which one entry was replaced. -/
theorem getElem?_set_eq_some (hi : i < l.length) :
    (l.set i a)[k]? = some b ↔ k = i ∧ b = a ∨ k ≠ i ∧ l[k]? = some b := by
  by_cases hk : k = i
  · subst hk
    simp [hi, eq_comm]
  · simp [hk, Ne.symm hk]

/-- An entry keeps its place when the table grows. -/
theorem getElem?_append_of_eq_some {l' : List α} (h : l[k]? = some b) :
    (l ++ l')[k]? = some b := by
  obtain ⟨hlt, -⟩ := getElem?_eq_some_iff.mp h
  rw [getElem?_append_left hlt, h]

/-! ## Tables with keys -/

section Keys

variable {κ : Type*} {key : α → κ}

/-- The entry with a given key is the one that is found. -/
theorem find?_eq_some_of_nodup [DecidableEq κ] (hkeys : (l.map key).Nodup) (ha : a ∈ l) :
    l.find? (fun x => key x = key a) = some a := by
  cases hfind : l.find? (fun x => key x = key a) with
  | none =>
    have hnot := find?_eq_none.mp hfind a ha
    simp at hnot
  | some x =>
    have hkey : key x = key a := by simpa using find?_some hfind
    rw [inj_on_of_nodup_map hkeys (mem_of_find?_eq_some hfind) ha hkey]

/-- An entry that is replaced by one with the same key leaves the keys as they are. -/
theorem map_set_of_eq (hi : l[i]? = some a) (hkey : key b = key a) :
    (l.set i b).map key = l.map key := by
  have hget : (l.map key)[i]? = some (key b) := by rw [getElem?_map, hi, hkey]; rfl
  obtain ⟨hlt, heq⟩ := getElem?_eq_some_iff.mp hget
  rw [map_set, ← heq, set_getElem_self]

end Keys

end List
