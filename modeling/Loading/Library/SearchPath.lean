import Loading.Config
import Loading.Path

/-!
# Library search path

Where native libraries are looked for: the system directories, then those of the
user.  The file name of a library is made from its short name.
-/

namespace Loading

/-- The variable with the system directories. -/
def systemLibraryPathVar : String := "MODLOAD_SYSTEM_LIBRARY_PATH"

/-- The variable with the directories of the user. -/
def userLibraryPathVar : String := "MODLOAD_LIBRARY_PATH"

/-- The directories in which libraries are looked for. -/
structure SearchPath where
  /-- The system directories, which come first. -/
  system : List String := []
  /-- The directories of the user. -/
  user : List String := []
  deriving Repr, DecidableEq, Inhabited

namespace SearchPath

/-- The directories of a path list; empty pieces name none. -/
def directories (list : Option String) : List String :=
  match list with
  | none => []
  | some list => (Text.split ':' list).filter fun d => !d.isEmpty

/-- A search path from two path lists. -/
def ofLists (system user : Option String) : SearchPath :=
  ⟨directories system, directories user⟩

/-- The search path that the environment gives. -/
def ofEnvironment (env : Environment) : SearchPath :=
  ofLists (env systemLibraryPathVar) (env userLibraryPathVar)

/-- All directories, in the order of the search. -/
def all (p : SearchPath) : List String :=
  p.system ++ p.user

/-- How many directories there are. -/
def size (p : SearchPath) : Nat :=
  p.all.length

/-- The file name of a library. -/
def fileName (name : String) : String :=
  "lib" ++ name ++ ".so"

/-- The files that may be the library, in the order of the search. -/
def candidates (p : SearchPath) (name : String) : List String :=
  p.all.map fun d => Path.join d (fileName name)

end SearchPath

end Loading
