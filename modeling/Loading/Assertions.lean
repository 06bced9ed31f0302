import Loading.Name
import Loading.Table

/-!
# Assertion status

Each loader keeps a table that says whether the modules it defines run with
assertions: by name, by package, and by default.

* `Assertions.packagesOf` — the packages whose entry may speak for a name,
  nearest first.
* `Assertions.status` — the entry of the module, else that of the nearest such
  package, else the default.
-/

namespace Loading

/-- The assertion settings of one loader. -/
structure Assertions where
  /-- What holds where no entry speaks. -/
  byDefault : Bool := false
  /-- Settings for packages and what lies below them. -/
  packages : Table String Bool := {}
  /-- Settings for single modules. -/
  modules : Table String Bool := {}
  deriving Repr, DecidableEq, Inhabited

namespace Assertions

/-- Sets what holds where no entry speaks. -/
def setDefault (t : Assertions) (enabled : Bool) : Assertions :=
  { t with byDefault := enabled }

/-- Sets the status of a package and what lies below it. -/
def setPackage (t : Assertions) (package : String) (enabled : Bool) : Assertions :=
  { t with packages := t.packages.set package enabled }

/-- Sets the status of one module. -/
def setModule (t : Assertions) (name : Name) (enabled : Bool) : Assertions :=
  { t with modules := t.modules.set name enabled }

/-- Forgets every entry, and turns assertions off. -/
def clear (_ : Assertions) : Assertions := {}

/-- The packages above a non-empty package, nearest first, each as its
characters.  A separator in front has nothing above it. -/
def above (cs : List Char) : List (List Char) :=
  match _h : Text.beforeLast? '.' cs with
  | none => []
  | some [] => []
  | some (c :: front) => (c :: front) :: above (c :: front)
termination_by cs.length
decreasing_by exact Text.length_lt_of_beforeLast? _h

/-- The packages whose entry may speak for a name, nearest first.  The default
package speaks only for names without a separator. -/
def packagesOf (name : Name) : List String :=
  if name.toList.contains '.' then (above name.toList).map String.ofList else [""]

/-- The status of a module. -/
def status (t : Assertions) (name : Name) : Bool :=
  match t.modules.find? name with
  | some enabled => enabled
  | none => ((packagesOf name).findSome? t.packages.find?).getD t.byDefault

end Assertions

end Loading
