import Loading.Table
import Mathlib.Data.List.Nodup

/-!
# Tables whose keys are distinct

Writing and erasing keep the keys of a table distinct, and a table with distinct
keys holds a pair exactly when it answers with it.  That is what a view which
goes through all pairs of a table needs.

* `nodup_keys_set`, `nodup_keys_erase` — the keys stay distinct.
* `find?_eq_some_iff`, `mem_keys_iff` — the pairs are the answers.
* `entries_set_of_find?` — a new key comes last.
* `set_of_find?`, `set_set`, `erase_set` — what was written is taken back.
* `find?_foldl_set` — many keys are written one after the other.
-/

namespace Loading
namespace Table

variable {κ α : Type} [DecidableEq κ]

theorem mem_map_put {k k' : κ} {a : α} {l : List (κ × α)}
    (h : k' ∈ (put k a l).map (·.1)) : k' = k ∨ k' ∈ l.map (·.1) := by
  induction l with
  | nil => simpa [put] using h
  | cons e rest ih =>
      obtain ⟨k₁, a₁⟩ := e
      unfold put at h
      split at h
      · exact Or.inr h
      · rcases List.mem_cons.1 h with rfl | h
        · exact Or.inr List.mem_cons_self
        · exact (ih h).imp_right (List.mem_cons_of_mem _)

/-- Writing a key keeps the keys distinct. -/
theorem nodup_keys_set {t : Table κ α} (h : t.keys.Nodup) (k : κ) (a : α) :
    (t.set k a).keys.Nodup := by
  obtain ⟨l⟩ := t
  unfold set keys at *
  induction l with
  | nil => simp [put]
  | cons e rest ih =>
      obtain ⟨k₁, a₁⟩ := e
      obtain ⟨hnotin, hrest⟩ := List.nodup_cons.1 h
      unfold put
      split
      · exact h
      · rename_i hne
        refine List.nodup_cons.2 ⟨fun hmem => ?_, ih hrest⟩
        rcases mem_map_put hmem with heq | hmem
        · exact hne heq
        · exact hnotin hmem

/-- Erasing a key keeps the keys distinct. -/
theorem nodup_keys_erase {t : Table κ α} (h : t.keys.Nodup) (k : κ) :
    (t.erase k).keys.Nodup :=
  List.Nodup.sublist (List.filter_sublist.map _) h

/-- A table with distinct keys holds a pair exactly when it answers with it. -/
theorem find?_eq_some_iff {t : Table κ α} (h : t.keys.Nodup) {k : κ} {a : α} :
    t.find? k = some a ↔ (k, a) ∈ t.entries := by
  obtain ⟨l⟩ := t
  unfold find?
  unfold keys at h
  induction l with
  | nil => simp
  | cons e rest ih =>
      obtain ⟨k₁, a₁⟩ := e
      obtain ⟨hnotin, hrest⟩ := List.nodup_cons.1 h
      by_cases hk : k = k₁
      · subst hk
        have hrest_ne : (k, a) ∉ rest := fun hmem => hnotin (List.mem_map.2 ⟨_, hmem, rfl⟩)
        simp [hrest_ne, eq_comm]
      · simpa [List.lookup_cons, hk, beq_eq_false_iff_ne.2 hk] using ih hrest

/-- The keys are those that are answered. -/
theorem mem_keys_iff {t : Table κ α} {k : κ} : k ∈ t.keys ↔ (t.find? k).isSome = true := by
  simp [keys, find?]

/-- A key that was not there comes last. -/
theorem entries_set_of_find? {t : Table κ α} {k : κ} (h : t.find? k = none) (a : α) :
    (t.set k a).entries = t.entries ++ [(k, a)] := by
  obtain ⟨l⟩ := t
  unfold find? at h
  show put k a l = l ++ [(k, a)]
  induction l with
  | nil => rfl
  | cons e rest ih =>
      obtain ⟨k₁, a₁⟩ := e
      by_cases hk : k₁ = k
      · subst hk
        rw [List.lookup_cons, beq_self_eq_true] at h
        cases h
      · rw [List.lookup_cons, beq_eq_false_iff_ne.2 (Ne.symm hk)] at h
        rw [put, if_neg hk, ih h, List.cons_append]

/-! ## What was written is taken back -/

/-- What a key answers with already may be written again. -/
theorem set_of_find? {t : Table κ α} {k : κ} {a : α} (h : t.find? k = some a) :
    t.set k a = t := by
  obtain ⟨l⟩ := t
  unfold find? at h
  unfold set
  congr 1
  induction l with
  | nil => cases h
  | cons e rest ih =>
      obtain ⟨k₁, a₁⟩ := e
      unfold put
      by_cases hk : k₁ = k
      · subst hk
        rw [List.lookup_cons, beq_self_eq_true] at h
        rw [if_pos rfl, Option.some.inj h]
      · rw [List.lookup_cons, beq_eq_false_iff_ne.2 (Ne.symm hk)] at h
        rw [if_neg hk, ih h]

/-- Of two values that are written under one key, the second stays. -/
theorem set_set (t : Table κ α) (k : κ) (a b : α) : (t.set k a).set k b = t.set k b := by
  obtain ⟨l⟩ := t
  unfold set
  congr 1
  induction l with
  | nil => simp [put]
  | cons e rest ih =>
      obtain ⟨k₁, a₁⟩ := e
      by_cases hk : k₁ = k
      · simp [put, hk]
      · simpa [put, hk] using ih

/-- A key that was not there is written and erased again. -/
theorem erase_set {t : Table κ α} {k : κ} (h : t.find? k = none) (a : α) :
    (t.set k a).erase k = t := by
  obtain ⟨l⟩ := t
  unfold find? at h
  unfold set erase
  congr 1
  induction l with
  | nil => simp [put]
  | cons e rest ih =>
      obtain ⟨k₁, a₁⟩ := e
      by_cases hk : k₁ = k
      · subst hk
        rw [List.lookup_cons, beq_self_eq_true] at h
        cases h
      · rw [List.lookup_cons, beq_eq_false_iff_ne.2 (Ne.symm hk)] at h
        simpa [put, hk] using ih h

/-! ## Writing many keys -/

section Many

variable {β : Type} (key : β → κ) (value : β → α)

/-- Keys that are not written answer as before. -/
theorem find?_foldl_set_of_notMem {k : κ} (l : List β) (t : Table κ α) (h : k ∉ l.map key) :
    (l.foldl (fun t b => t.set (key b) (value b)) t).find? k = t.find? k := by
  induction l generalizing t with
  | nil => rfl
  | cons b rest ih =>
      obtain ⟨hne, hrest⟩ := List.ne_and_not_mem_of_not_mem_cons h
      rw [List.foldl_cons, ih _ hrest, find?_set, if_neg hne]

/-- Where different keys are written one after the other, each answers with what was
written. -/
theorem find?_foldl_set {l : List β} (t : Table κ α) (h : (l.map key).Nodup) {b : β}
    (hb : b ∈ l) :
    (l.foldl (fun t b => t.set (key b) (value b)) t).find? (key b) = some (value b) := by
  induction l generalizing t with
  | nil => cases hb
  | cons c rest ih =>
      obtain ⟨hnotin, hrest⟩ := List.nodup_cons.1 h
      rw [List.foldl_cons]
      rcases List.mem_cons.1 hb with rfl | hb
      · rw [find?_foldl_set_of_notMem key value rest _ hnotin, find?_set, if_pos rfl]
      · exact ih _ hrest hb

end Many

end Table
end Loading
