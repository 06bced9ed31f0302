/-!
# Keyed tables

A `Table κ α` maps keys to values and remembers the order in which keys were
first entered.  The view is `find?`; each operation has one lemma that says what
it does to that view.

* `find?_set` — writing a key changes the answer for that key only.
* `find?_erase` — erasing a key forgets that key only.
-/

namespace Loading

/-- A finite map from keys to values, kept as pairs in order of first entry. -/
structure Table (κ α : Type) where
  /-- The pairs, oldest key first. -/
  entries : List (κ × α) := []
  deriving Repr, DecidableEq, Inhabited

namespace Table

variable {κ α : Type} [DecidableEq κ]

/-- The table without any key. -/
def empty : Table κ α := ⟨[]⟩

/-- The value under a key, if there is one. -/
def find? (t : Table κ α) (k : κ) : Option α :=
  t.entries.lookup k

/-- Is there a value under the key? -/
def contains (t : Table κ α) (k : κ) : Bool :=
  (t.find? k).isSome

/-- The value under a key, or a stand-in where there is none. -/
def findD (t : Table κ α) (k : κ) (default : α) : α :=
  (t.find? k).getD default

/-- Writes a pair into a list of pairs: in place when the key is there, at the
end when it is not. -/
def put (k : κ) (a : α) : List (κ × α) → List (κ × α)
  | [] => [(k, a)]
  | (k', a') :: rest => if k' = k then (k', a) :: rest else (k', a') :: put k a rest

/-- The table with the key mapped to the value. -/
def set (t : Table κ α) (k : κ) (a : α) : Table κ α :=
  ⟨put k a t.entries⟩

/-- The table without the key. -/
def erase (t : Table κ α) (k : κ) : Table κ α :=
  ⟨t.entries.filter fun e => e.1 ≠ k⟩

/-- The keys, oldest first. -/
def keys (t : Table κ α) : List κ :=
  t.entries.map (·.1)

/-! ## What the operations do to `find?` -/

@[simp] theorem find?_empty (k : κ) : (empty : Table κ α).find? k = none := rfl

theorem lookup_put (k k' : κ) (a : α) (l : List (κ × α)) :
    (put k a l).lookup k' = if k' = k then some a else l.lookup k' := by
  induction l with
  | nil => by_cases h : k' = k <;> simp [put, h]
  | cons e rest ih =>
      obtain ⟨k₁, a₁⟩ := e
      by_cases h₁ : k₁ = k
      · subst h₁
        by_cases h : k' = k₁
        · simp [put, h]
        · simp [put, List.lookup_cons, h, beq_eq_false_iff_ne.2 h]
      · by_cases h : k' = k₁
        · subst h
          simp [put, h₁]
        · simp [put, List.lookup_cons, h₁, beq_eq_false_iff_ne.2 h, ih]

/-- Writing a key changes the answer for that key only. -/
theorem find?_set (t : Table κ α) (k k' : κ) (a : α) :
    (t.set k a).find? k' = if k' = k then some a else t.find? k' :=
  lookup_put k k' a t.entries

theorem lookup_filter_ne (k k' : κ) (l : List (κ × α)) :
    (l.filter fun e => e.1 ≠ k).lookup k' = if k' = k then none else l.lookup k' := by
  induction l with
  | nil => simp
  | cons e rest ih =>
      obtain ⟨k₁, a₁⟩ := e
      by_cases h₁ : k₁ = k
      · subst h₁
        by_cases h : k' = k₁
        · subst h
          simpa using ih
        · simpa [List.lookup_cons, h, beq_eq_false_iff_ne.2 h] using ih
      · by_cases h : k' = k₁
        · subst h
          simp [h₁]
        · simpa [List.lookup_cons, h₁, beq_eq_false_iff_ne.2 h] using ih

/-- Erasing a key forgets that key only. -/
theorem find?_erase (t : Table κ α) (k k' : κ) :
    (t.erase k).find? k' = if k' = k then none else t.find? k' :=
  lookup_filter_ne k k' t.entries

end Table

end Loading
