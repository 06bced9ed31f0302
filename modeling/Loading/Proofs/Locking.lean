import Loading.Locks
import Loading.Name
import Loading.Proofs.Tables
import Mathlib.Data.List.Dedup
import Mathlib.Data.List.Induction
import Mathlib.Data.List.Perm.Subperm

/-!
# Loading locks over whole runs

A table of locks that works in parallel makes the lock for a name when it is first asked for,
and any other table has one lock for all names.  Nothing is ever removed, so two calls get the
same lock exactly when they ask for the same name, however far apart they are, and the locks
that a thread holds keep other threads from nothing but the names that it holds them for.

* `LockTable.Made` — the lock for a name has been made, and is never replaced.
* `LockTable.Kept` — what holds of a table after some names have been asked for.
* `LockTable.Kept.lockOf_eq_iff` — different names have different locks.
* `LockUser.run` — a thread that takes locks and lets go of them; `LockUser.Tracks` — its
  locks are those of the names that it has asked for and holds.
* `locks_discerned` — what can be relied on in every run.
-/

namespace Loading

namespace LockTable

variable {t : LockTable} {name : Name} {lock : Lock}

/-! ## Locks that have been made -/

/-- The lock for a name has been made: to ask for it changes nothing. -/
def Made (t : LockTable) (name : Name) (lock : Lock) : Prop :=
  t.lockFor name = (lock, t)

/-- A lock that has been asked for has been made. -/
theorem made_lockFor (t : LockTable) (name : Name) :
    (t.lockFor name).2.Made name (t.lockFor name).1 := by
  unfold Made
  cases hparallel : t.parallel with
  | false => simp [lockFor, hparallel]
  | true =>
      cases hnamed : t.named.find? name with
      | some lock => simp [lockFor, hparallel, hnamed]
      | none => simp [lockFor, hparallel, hnamed, Table.find?_set]

/-- A lock that has been made is not replaced when another one is asked for. -/
theorem Made.lockFor (h : t.Made name lock) (other : Name) :
    (t.lockFor other).2.Made name lock := by
  unfold Made LockTable.lockFor at *
  cases hparallel : t.parallel with
  | false => simpa [hparallel] using h
  | true =>
      cases hother : t.named.find? other with
      | some x => simpa [hparallel, hother] using h
      | none =>
          cases hnamed : t.named.find? name with
          | none =>
              -- Asking for a lock that was not there would have changed the table.
              have htables : (t.named.set name ⟨t.size + 1⟩) = t.named := by
                simpa [hparallel, hnamed] using congrArg (fun r => r.2.named) h
              have hfind := Table.find?_set t.named name name ⟨t.size + 1⟩
              rw [htables, hnamed, if_pos rfl] at hfind
              cases hfind
          | some x =>
              have hne : name ≠ other := by
                rintro rfl
                rw [hnamed] at hother
                cases hother
              simpa [hparallel, hnamed, Table.find?_set, hne] using h

/-- The lock that is handed out for a name. -/
def lockOf (t : LockTable) (name : Name) : Lock :=
  (t.lockFor name).1

theorem Made.lockOf_eq (h : t.Made name lock) : t.lockOf name = lock :=
  congrArg Prod.fst h

/-- What is asked for is there already, or one more lock is made. -/
theorem lockFor_cases (h : t.parallel = true) (name : Name) :
    (∃ lock, t.named.find? name = some lock ∧ t.lockFor name = (lock, t)) ∨
      t.named.find? name = none ∧
        t.lockFor name =
          (⟨t.size + 1⟩, { t with named := t.named.set name ⟨t.size + 1⟩ }) := by
  cases hnamed : t.named.find? name with
  | some lock => exact Or.inl ⟨lock, rfl, by simp [lockFor, h, hnamed]⟩
  | none => exact Or.inr ⟨rfl, by simp [lockFor, h, hnamed]⟩

/-! ## What a table has made -/

/-- What holds of a table that works in parallel after some names have been asked for. -/
structure Kept (t : LockTable) (names : List Name) : Prop where
  /-- It works in parallel. -/
  parallel : t.parallel = true
  /-- There is one lock for a name. -/
  keys : t.named.keys.Nodup
  /-- There is one name for a lock. -/
  locks : (t.named.entries.map (·.2)).Nodup
  /-- The number of the next lock has not been used. -/
  bounded : ∀ e ∈ t.named.entries, e.2.val ≤ t.size
  /-- Just the locks for the names have been made. -/
  made : ∀ name, (t.named.find? name).isSome = true ↔ name ∈ names

namespace Kept

variable {names : List Name} {other : Name}

theorem start : Kept { parallel := true } [] where
  parallel := rfl
  keys := .nil
  locks := .nil
  bounded _ he := absurd he List.not_mem_nil
  made _ := by simp [Table.find?]

/-- A lock for a name is made at most once. -/
theorem lockFor (h : t.Kept names) (name : Name) :
    (t.lockFor name).2.Kept (names ++ [name]) := by
  rcases lockFor_cases h.parallel name with ⟨lock, hnamed, heq⟩ | ⟨hnamed, heq⟩
  · rw [heq]
    refine { h with made := fun n => ?_ }
    have hmem : name ∈ names := (h.made name).1 (by rw [hnamed]; rfl)
    rw [h.made, List.mem_append, List.mem_singleton]
    exact ⟨Or.inl, fun hn => hn.elim id fun hn => hn ▸ hmem⟩
  · rw [heq]
    have hentries := Table.entries_set_of_find? hnamed (⟨t.size + 1⟩ : Lock)
    have hsize : ({ t with named := t.named.set name ⟨t.size + 1⟩ } : LockTable).size =
        t.size + 1 := by
      show (t.named.set name ⟨t.size + 1⟩).entries.length = t.size + 1
      rw [hentries, List.length_append]
      rfl
    refine ⟨h.parallel, Table.nodup_keys_set h.keys _ _, ?_, ?_, fun n => ?_⟩
    · -- The numbers in use are smaller than the new one.
      show ((t.named.set name ⟨t.size + 1⟩).entries.map (·.2)).Nodup
      rw [hentries, List.map_append, List.nodup_append]
      refine ⟨h.locks, List.nodup_singleton _, fun a ha b hb hab => ?_⟩
      obtain ⟨e, he, rfl⟩ := List.mem_map.1 ha
      have hle := h.bounded e he
      rw [hab, List.mem_singleton.1 hb] at hle
      exact Nat.not_succ_le_self _ hle
    · rw [hsize]
      intro e he
      rw [hentries, List.mem_append, List.mem_singleton] at he
      rcases he with he | rfl
      · exact Nat.le_succ_of_le (h.bounded e he)
      · exact Nat.le_refl _
    · show ((t.named.set name ⟨t.size + 1⟩).find? n).isSome = true ↔ _
      rw [Table.find?_set, List.mem_append, List.mem_singleton, ← h.made]
      split <;> simp_all

/-- The lock for a name that has been asked for is in the table. -/
theorem find?_eq (h : t.Kept names) (hname : name ∈ names) :
    t.named.find? name = some (t.lockOf name) := by
  rcases lockFor_cases h.parallel name with ⟨lock, hnamed, heq⟩ | ⟨hnamed, -⟩
  · rw [hnamed, lockOf, heq]
  · rw [← h.made, hnamed] at hname
    cases hname

theorem made_lockOf (h : t.Kept names) (hname : name ∈ names) : t.Made name (t.lockOf name) := by
  rcases lockFor_cases h.parallel name with ⟨lock, -, heq⟩ | ⟨hnamed, -⟩
  · rw [Made, lockOf, heq]
  · rw [← h.made, hnamed] at hname
    cases hname

/-- A name that has been asked for shares its lock with no other name. -/
theorem lockOf_eq_iff (h : t.Kept names) (hname : name ∈ names) :
    t.lockOf name = t.lockOf other ↔ name = other := by
  refine ⟨fun heq => ?_, fun heq => heq ▸ rfl⟩
  have hmem := (Table.find?_eq_some_iff h.keys).1 (h.find?_eq hname)
  by_cases hother : other ∈ names
  · have hmem' := (Table.find?_eq_some_iff h.keys).1 (h.find?_eq hother)
    exact congrArg Prod.fst (List.inj_on_of_nodup_map h.locks hmem hmem' heq)
  · -- The lock for a name that is new would get a number that is not in use.
    have hnumber := h.bounded _ hmem
    rcases lockFor_cases h.parallel other with ⟨lock, hnamed, -⟩ | ⟨-, hnew⟩
    · exact absurd ((h.made other).1 (by rw [hnamed]; rfl)) hother
    · have hlock : t.lockOf other = ⟨t.size + 1⟩ := congrArg Prod.fst hnew
      rw [heq, hlock] at hnumber
      exact absurd hnumber (Nat.not_succ_le_self _)

/-- There are as many locks as different names. -/
theorem size_eq (h : t.Kept names) : t.size = names.dedup.length := by
  have hperm : t.named.keys.Perm names.dedup :=
    (List.perm_ext_iff_of_nodup h.keys names.nodup_dedup).2 fun name => by
      rw [Table.mem_keys_iff, h.made, List.mem_dedup]
  rw [← hperm.length_eq]
  exact (List.length_map _).symm

end Kept

end LockTable

/-! ## A thread that takes locks -/

/-- What a thread does with the locks of a loader. -/
inductive LockMove where
  /-- Ask for the lock for a name. -/
  | ask (name : Name)
  /-- Ask for the lock for a name, and hold it once more. -/
  | hold (name : Name)
  /-- Let go of the newest hold. -/
  | letGo
  deriving Repr, DecidableEq

namespace LockMove

/-- The name that is asked for. -/
def name? : LockMove → Option Name
  | .ask name => some name
  | .hold name => some name
  | .letGo => none

/-- The names that some moves ask for, in order. -/
def asked (moves : List LockMove) : List Name :=
  moves.filterMap name?

/-- The names for which a hold is outstanding after one more move, newest first. -/
def track (names : List Name) : LockMove → List Name
  | .ask _ => names
  | .hold name => name :: names
  | .letGo => names.tail

/-- The names for which holds are outstanding after some moves, newest first, each as often
as it is held. -/
def outstanding (moves : List LockMove) : List Name :=
  moves.foldl track []

end LockMove

/-- A thread at the locks of a loader. -/
structure LockUser where
  /-- The locks of the loader. -/
  table : LockTable
  /-- The locks that the thread holds. -/
  holds : Holds := {}
  /-- The locks that it has been handed, in order. -/
  handed : List Lock := []
  deriving Repr, DecidableEq, Inhabited

namespace LockUser

open LockMove

/-- Asks for the lock for a name. -/
def ask (u : LockUser) (name : Name) : LockUser :=
  { u with
    table := (u.table.lockFor name).2
    handed := u.handed ++ [(u.table.lockFor name).1] }

/-- A thread after one more move. -/
def perform (u : LockUser) : LockMove → LockUser
  | .ask name => u.ask name
  | .hold name => { u.ask name with holds := u.holds.take (u.table.lockFor name).1 }
  | .letGo => { u with holds := u.holds.letGo.2 }

/-- A thread after some moves, at a table that works in parallel or does not. -/
def run (parallel : Bool) (moves : List LockMove) : LockUser :=
  moves.foldl perform { table := { parallel } }

/-- What a thread has been handed and what it holds are the locks for the names that it has
asked for and that it holds. -/
structure Tracks (u : LockUser) (asked outstanding : List Name) : Prop where
  /-- What was handed out for a name is still its lock. -/
  handed : u.handed = asked.map u.table.lockOf
  /-- What is held for a name is its lock. -/
  holds : u.holds.locks = outstanding.map u.table.lockOf
  /-- What is held has been asked for. -/
  subset : outstanding ⊆ asked

section Tracks

variable {u : LockUser} {asked outstanding : List Name} {name : Name}

/-- One more call does not change the locks for names that have been asked for. -/
theorem Tracks.ask (h : u.Tracks asked outstanding) (name : Name)
    (hlasts : ∀ n ∈ asked, (u.table.lockFor name).2.lockOf n = u.table.lockOf n) :
    (u.ask name).Tracks (asked ++ [name]) outstanding where
  handed := by
    have hnew : (u.table.lockFor name).2.lockOf name = (u.table.lockFor name).1 :=
      (LockTable.made_lockFor u.table name).lockOf_eq
    show u.handed ++ _ = List.map (u.table.lockFor name).2.lockOf _
    rw [List.map_append, List.map_singleton, hnew, List.map_congr_left hlasts, h.handed]
  holds := by
    show u.holds.locks = List.map (u.table.lockFor name).2.lockOf _
    rw [List.map_congr_left fun n hn => hlasts n (h.subset hn), h.holds]
  subset := List.subset_append_of_subset_left _ h.subset

theorem Tracks.perform (h : u.Tracks asked outstanding) (mv : LockMove)
    (hlasts : ∀ name, ∀ n ∈ asked, (u.table.lockFor name).2.lockOf n = u.table.lockOf n) :
    (u.perform mv).Tracks (asked ++ mv.name?.toList) (track outstanding mv) := by
  cases mv with
  | ask name => exact h.ask name (hlasts name)
  | hold name =>
      have hask := h.ask name (hlasts name)
      refine ⟨hask.handed, ?_, ?_⟩
      · show (u.table.lockFor name).1 :: u.holds.locks = _ :: _
        rw [← (LockTable.made_lockFor u.table name).lockOf_eq]
        exact congrArg _ hask.holds
      · exact List.cons_subset.2 ⟨by simp [name?], hask.subset⟩
  | letGo =>
      refine ⟨by simpa [LockUser.perform, name?] using h.handed, ?_, ?_⟩
      · show (u.holds.letGo.2).locks = outstanding.tail.map u.table.lockOf
        rw [List.map_tail, ← h.holds]
        unfold Holds.letGo
        split <;> simp_all
      · rw [name?, Option.toList_none, List.append_nil]
        exact fun n hn => h.subset (List.mem_of_mem_tail hn)

end Tracks

/-! ## Whole runs -/

section Run

variable (parallel : Bool) (moves : List LockMove)

theorem run_concat (mv : LockMove) :
    run parallel (moves ++ [mv]) = (run parallel moves).perform mv :=
  List.foldl_concat ..

theorem asked_concat (mv : LockMove) : asked (moves ++ [mv]) = asked moves ++ mv.name?.toList := by
  unfold asked
  rw [List.filterMap_append]
  cases mv <;> rfl

theorem outstanding_concat (mv : LockMove) :
    outstanding (moves ++ [mv]) = track (outstanding moves) mv :=
  List.foldl_concat ..

/-- What a move does to the table. -/
theorem table_perform (u : LockUser) (mv : LockMove) :
    (u.perform mv).table = mv.name?.elim u.table fun name => (u.table.lockFor name).2 := by
  cases mv <;> rfl

/-- At a table that works in parallel, the names that have been asked for tell all that the
thread has been handed and all that it holds. -/
theorem tracks_parallel :
    (run true moves).table.Kept (asked moves) ∧
      (run true moves).Tracks (asked moves) (outstanding moves) := by
  induction moves using List.reverseRecOn with
  | nil => exact ⟨.start, rfl, rfl, List.nil_subset _⟩
  | append_singleton moves mv ih =>
      obtain ⟨hkept, htracks⟩ := ih
      rw [run_concat, asked_concat, outstanding_concat]
      have hlasts : ∀ name, ∀ n ∈ asked moves, _ = _ := fun name n hn =>
        ((hkept.made_lockOf hn).lockFor name).lockOf_eq
      refine ⟨?_, htracks.perform mv hlasts⟩
      rw [table_perform]
      cases mv with
      | ask name => exact hkept.lockFor name
      | hold name => exact hkept.lockFor name
      | letGo => simpa [name?] using hkept

/-- At any other table nothing is made, and the same holds of the one lock that there is. -/
theorem tracks_coarse :
    (run false moves).table = { parallel := false } ∧
      (run false moves).Tracks (asked moves) (outstanding moves) := by
  induction moves using List.reverseRecOn with
  | nil => exact ⟨rfl, rfl, rfl, List.nil_subset _⟩
  | append_singleton moves mv ih =>
      obtain ⟨htable, htracks⟩ := ih
      rw [run_concat, asked_concat, outstanding_concat]
      refine ⟨?_, htracks.perform mv fun name n _ => ?_⟩
      · rw [table_perform, htable]
        cases mv <;> rfl
      · rw [htable]
        rfl

end Run

/-- At a table that works in parallel, names are told apart by their locks. -/
structure Discerning (u : LockUser) (moves : List LockMove) : Prop where
  /-- Each call is answered. -/
  answered : u.handed.length = (asked moves).length
  /-- Two calls get the same lock exactly when they ask for the same name. -/
  same_iff : ∀ (i j : Nat) name other, (asked moves)[i]? = some name →
    (asked moves)[j]? = some other → (u.handed[i]? = u.handed[j]? ↔ name = other)
  /-- As many locks have been made as names have been asked for. -/
  size_eq : u.table.size = (asked moves).dedup.length
  /-- The lock for a name is held as often as a hold for the name is outstanding. -/
  count_eq : ∀ name,
    u.holds.locks.count (u.table.lockFor name).1 = (outstanding moves).count name
  /-- Another thread can take it exactly when there is no such hold. -/
  isFree_iff : ∀ name,
    u.holds.isFree (u.table.lockFor name).1 = true ↔ name ∉ outstanding moves

/-- At any other table, there is one lock for all names. -/
structure Coarse (u : LockUser) (moves : List LockMove) : Prop where
  /-- Each call is answered with it. -/
  handed : u.handed = (asked moves).map fun _ => LockTable.whole
  /-- No lock for a name is made. -/
  size_eq : u.table.size = 0
  /-- It is held as often as any hold is outstanding. -/
  count_eq : ∀ name, u.holds.locks.count (u.table.lockFor name).1 = (outstanding moves).length
  /-- Another thread can take it exactly when there is none. -/
  isFree_iff : ∀ name, u.holds.isFree (u.table.lockFor name).1 = true ↔ outstanding moves = []

/-- A lock is free for others when it is not held once. -/
theorem isFree_iff_count {h : Holds} {lock : Lock} :
    h.isFree lock = true ↔ h.locks.count lock = 0 := by
  simp [Holds.isFree, List.count_eq_zero]

theorem discerning_run (moves : List LockMove) : (run true moves).Discerning moves := by
  obtain ⟨hkept, htracks⟩ := tracks_parallel moves
  have hcount : ∀ name, (run true moves).holds.locks.count
      ((run true moves).table.lockFor name).1 = (outstanding moves).count name := by
    intro name
    show List.count ((run true moves).table.lockOf name) _ = _
    rw [htracks.holds, List.count, List.countP_map, List.count]
    refine List.countP_congr fun n hn => ?_
    rw [Function.comp_apply, beq_iff_eq, beq_iff_eq]
    exact hkept.lockOf_eq_iff (htracks.subset hn)
  refine ⟨by rw [htracks.handed, List.length_map], ?_, hkept.size_eq, hcount, fun name => ?_⟩
  · intro i j name other hname hother
    rw [htracks.handed, List.getElem?_map, List.getElem?_map, hname, hother, Option.map_some,
      Option.map_some, Option.some.injEq]
    exact hkept.lockOf_eq_iff (List.mem_of_getElem? hname)
  · rw [isFree_iff_count, hcount, List.count_eq_zero]

theorem coarse_run (moves : List LockMove) : (run false moves).Coarse moves := by
  obtain ⟨htable, htracks⟩ := tracks_coarse moves
  have hone : (run false moves).table.lockOf = fun _ => LockTable.whole := by
    rw [htable]
    rfl
  have hcount : ∀ name, (run false moves).holds.locks.count
      ((run false moves).table.lockFor name).1 = (outstanding moves).length := by
    intro name
    show List.count ((run false moves).table.lockOf name) _ = _
    rw [htracks.holds, hone, List.map_const', List.count_replicate_self]
  refine ⟨by rw [htracks.handed, hone], by rw [htable]; rfl, hcount, fun name => ?_⟩
  rw [isFree_iff_count, hcount, List.length_eq_zero_iff]

end LockUser

/-- In every run, whatever is asked for and held in whatever order: a table that works in
parallel gives two names the same lock exactly when they are the same, and keeps another
thread from the locks for names that are held and from no others; any other table gives out
its one lock, and keeps another thread from it while anything is held. -/
theorem locks_discerned (moves : List LockMove) :
    (LockUser.run true moves).Discerning moves ∧ (LockUser.run false moves).Coarse moves :=
  ⟨LockUser.discerning_run moves, LockUser.coarse_run moves⟩

/-- A name is held twice and let go of once, with another name in between. -/
def holdingTwice : List LockMove :=
  [.hold "a.B", .ask "a.C", .hold "a.B", .hold "a.D", .letGo, .letGo, .ask "a.B"]

/-- The name that is still held keeps its lock to itself, and no other name is kept. -/
theorem locks_discerned_reentrant :
    (LockUser.run true holdingTwice).handed.map (·.val) = [1, 2, 1, 3, 1] ∧
      (LockUser.run true holdingTwice).table.size = 3 ∧
      (LockUser.run true holdingTwice).holds.isFree ⟨1⟩ = false ∧
      (LockUser.run true holdingTwice).holds.isFree ⟨3⟩ = true ∧
      (LockUser.run true holdingTwice).Discerning holdingTwice ∧
      (LockUser.run false holdingTwice).holds.isFree LockTable.whole = false := by
  exact ⟨by decide, by decide, by decide, by decide, (locks_discerned holdingTwice).1, by decide⟩

end Loading
