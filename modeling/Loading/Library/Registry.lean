import Loading.Error
import Loading.Table

/-!
# The registry of native libraries

A native library belongs to one scope at a time.  The registry holds

* `owners` — which scope owns each registered name,
* `shelves` — the libraries of each list, in order of registration,
* `pending` — the names that are being loaded or unloaded right now, newest
  first, each with its scope.

A `Library` is a handle: its serial number stands for its identity, and whether
it is still loaded is recorded under that number.
-/

namespace Loading

/-- What the dynamic loader gave for a loaded image. -/
structure Handle where
  /-- The number of the handle. -/
  val : Nat
  deriving Repr, DecidableEq, Inhabited

/-- A native library that has been registered. -/
structure Library where
  /-- The number that tells this library from every other. -/
  serial : Nat
  /-- The canonical path, or the name if the library is built in. -/
  name : String
  /-- The handle of its image. -/
  handle : Handle
  /-- The scope it was loaded for. -/
  scope : Scope
  /-- Is it linked into the runtime? -/
  builtin : Bool
  deriving Repr, DecidableEq, Inhabited

/-- A list of libraries of one scope.  Two lists of one scope differ in their
serial number; number zero is the list that the scope has by itself. -/
structure Shelf where
  /-- The number among the lists of the scope. -/
  serial : Nat := 0
  /-- The scope whose libraries the list holds. -/
  scope : Scope
  deriving Repr, DecidableEq, Inhabited

namespace Shelf

/-- The list of the built-in libraries. -/
def builtin : Shelf := { scope := .builtin }

/-- The list of the libraries of the whole process. -/
def system : Shelf := { scope := .system }

/-- The list of a loader. -/
def ofLoader (id : LoaderId) : Shelf := { scope := .loader id }

end Shelf

/-- A name that is being loaded or unloaded. -/
structure Pending where
  /-- The name. -/
  name : String
  /-- The scope for which it happens. -/
  scope : Scope
  deriving Repr, DecidableEq, Inhabited

/-- Everything that is known of native libraries. -/
structure LibraryRegistry where
  /-- The number of the next library. -/
  next : Nat := 0
  /-- The scope that owns each registered name. -/
  owners : Table String Scope := {}
  /-- The names in flight, newest first. -/
  pending : List Pending := []
  /-- The libraries of each list, in order of registration. -/
  shelves : Table Shelf (List Library) := {}
  /-- The libraries that have been unloaded. -/
  retired : List Nat := []
  deriving Repr, DecidableEq, Inhabited

/-- What becomes of a request to load a name for a list. -/
inductive Admission where
  /-- The list has the library, or is about to get it. -/
  | satisfied
  /-- Another scope has it. -/
  | refused (owner : Scope)
  /-- The name may be loaded now. -/
  | granted
  deriving Repr, DecidableEq

namespace LibraryRegistry

/-! ## Looking -/

/-- The libraries of a list. -/
def onShelf (r : LibraryRegistry) (s : Shelf) : List Library :=
  r.shelves.findD s []

/-- The library of a name on a list. -/
def find? (r : LibraryRegistry) (s : Shelf) (name : String) : Option Library :=
  (r.onShelf s).find? fun l => l.name = name

/-- The names of a list. -/
def names (r : LibraryRegistry) (s : Shelf) : List String :=
  (r.onShelf s).map (·.name)

/-- The scope that owns a name. -/
def owner? (r : LibraryRegistry) (name : String) : Option Scope :=
  r.owners.find? name

/-- Has the library not been unloaded? -/
def isLoaded (r : LibraryRegistry) (l : Library) : Bool :=
  !r.retired.contains l.serial

/-- The scope for which a name is in flight; the oldest entry counts. -/
def pendingScope? (r : LibraryRegistry) (name : String) : Option Scope :=
  (r.pending.reverse.find? fun p => p.name = name).map (·.scope)

/-- What becomes of a request to load a name for a list. -/
def admission (r : LibraryRegistry) (name : String) (s : Shelf) : Admission :=
  if (r.find? s name).isSome then .satisfied
  else match r.owner? name with
    | some owner => .refused owner
    | none =>
        match r.pendingScope? name with
        | some scope => if scope = s.scope then .satisfied else .refused scope
        | none => .granted

/-! ## Changing -/

/-- Puts a name in flight. -/
def begin (r : LibraryRegistry) (name : String) (scope : Scope) : LibraryRegistry :=
  { r with pending := ⟨name, scope⟩ :: r.pending }

/-- Takes the newest name out of flight. -/
def finish (r : LibraryRegistry) : LibraryRegistry :=
  { r with pending := r.pending.tail }

/-- Registers a loaded image on a list. -/
def register (r : LibraryRegistry) (name : String) (handle : Handle) (s : Shelf)
    (builtin : Bool) : LibraryRegistry :=
  { r with
    next := r.next + 1
    owners := r.owners.set name s.scope
    shelves := r.shelves.set s (r.onShelf s ++ [⟨r.next, name, handle, s.scope, builtin⟩]) }

/-- Takes a library from a list and puts its name in flight. -/
def withdraw (r : LibraryRegistry) (s : Shelf) (l : Library) : LibraryRegistry :=
  { r with
    owners := r.owners.erase l.name
    shelves := r.shelves.set s ((r.onShelf s).erase l)
    pending := ⟨l.name, l.scope⟩ :: r.pending }

/-- Records that a library has been unloaded, and takes the newest name out of
flight. -/
def retire (r : LibraryRegistry) (l : Library) : LibraryRegistry :=
  { r.finish with retired := l.serial :: r.retired }

end LibraryRegistry

end Loading
