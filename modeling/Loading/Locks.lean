import Loading.Table

/-!
# Loading locks

While a loader works on a name it holds a lock for it.  A loader that works in
parallel has one lock for each name, made when the name is first asked for; any
other loader has one lock for all names.

* `LockTable.lockFor` — the lock for a name.
* `Holds` — locks held by one thread, newest first, each as often as it is held.
-/

namespace Loading

/-- A lock, known by a number within its table. -/
structure Lock where
  /-- The number itself; zero is the lock of the whole loader. -/
  val : Nat
  deriving Repr, DecidableEq, Inhabited

/-- The locks of one loader. -/
structure LockTable where
  /-- Is there a lock for each name? -/
  parallel : Bool
  /-- The locks made so far. -/
  named : Table String Lock := {}
  deriving Repr, DecidableEq, Inhabited

namespace LockTable

/-- The lock of the whole loader. -/
def whole : Lock := ⟨0⟩

/-- How many locks for names have been made. -/
def size (t : LockTable) : Nat :=
  t.named.entries.length

/-- The lock for a name, made now if it is the first time that it is needed. -/
def lockFor (t : LockTable) (name : String) : Lock × LockTable :=
  if t.parallel then
    match t.named.find? name with
    | some lock => (lock, t)
    | none =>
        let lock : Lock := ⟨t.size + 1⟩
        (lock, { t with named := t.named.set name lock })
  else (whole, t)

end LockTable

/-- The locks that a thread holds, newest first. -/
structure Holds where
  /-- One entry for each time a lock is held. -/
  locks : List Lock := []
  deriving Repr, DecidableEq, Inhabited

namespace Holds

/-- Holds one more lock; a lock may be held several times. -/
def take (h : Holds) (lock : Lock) : Holds :=
  ⟨lock :: h.locks⟩

/-- Lets go of the newest hold, if there is one. -/
def letGo (h : Holds) : Bool × Holds :=
  match h.locks with
  | [] => (false, h)
  | _ :: rest => (true, ⟨rest⟩)

/-- How many holds there are. -/
def count (h : Holds) : Nat :=
  h.locks.length

/-- Could another thread take the lock? -/
def isFree (h : Holds) (lock : Lock) : Bool :=
  !h.locks.contains lock

end Holds

end Loading
