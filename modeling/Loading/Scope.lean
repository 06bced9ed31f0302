/-!
# Loaders and scopes

A loader is known by a number; number zero is the loader of the modules that are
built in.  Native libraries belong to a `Scope`.
-/

namespace Loading

/-- The number of a loader. -/
structure LoaderId where
  /-- The number itself. -/
  val : Nat
  deriving Repr, DecidableEq, Inhabited

/-- The loader of the built-in modules. -/
def LoaderId.bootstrap : LoaderId := ⟨0⟩

/-- How messages name a loader. -/
def LoaderId.display (id : LoaderId) : String :=
  if id = .bootstrap then "loader#bootstrap" else "loader#" ++ toString id.val

/-- Who owns a native library. -/
inductive Scope where
  /-- Linked into the runtime and shared by everyone. -/
  | builtin
  /-- Loaded for the whole process, by no loader in particular. -/
  | system
  /-- Loaded for one loader. -/
  | loader (id : LoaderId)
  deriving Repr, DecidableEq, Inhabited

/-- How messages name a scope. -/
def Scope.display : Scope → String
  | .builtin => "builtin"
  | .system => "system"
  | .loader id => id.display

end Loading
