import Loading.Text.Split

/-!
# Module names

A module name is a text whose components are divided by `.`; everything before
the last separator is its package.  `NameRules` says which names may be looked
up and which may be defined.

* `Name.package` — the package of a name, empty for the default package.
* `NameRules.isWellFormed` — may the name be looked up?
* `NameRules.fault?` — the first rule that a name about to be defined breaks.
-/

namespace Loading

/-- The name of a module, such as `app.Main`. -/
abbrev Name := String

/-- The package of a name: what stands before its last separator. -/
def Name.package (name : Name) : String :=
  Text.upToLast '.' name

/-- What may be wrong with a name about to be defined. -/
inductive NameFault where
  /-- It holds the separator of paths. -/
  | pathSeparator
  /-- It begins like an array type. -/
  | arraySyntax
  /-- It lies under a prefix reserved for the system. -/
  | reserved (start : String)
  /-- A reason that a collaborator put into words. -/
  | stated (reason : String)
  deriving Repr, DecidableEq

/-- The wording of a name's fault. -/
def NameFault.message : NameFault → String
  | .pathSeparator => "contains module-path separator '/'"
  | .arraySyntax => "array syntax is not a module name"
  | .reserved start => "prohibited package name prefix '" ++ start ++ "'"
  | .stated reason => reason

/-- The rules for module names. -/
structure NameRules where
  /-- Names that begin with this text belong to the system. -/
  reservedPrefix : String := "java."
  /-- May such names be defined all the same? -/
  allowReservedPrefix : Bool := false
  /-- May names begin with a bracket? -/
  allowArraySyntax : Bool := false
  deriving Repr, DecidableEq, Inhabited

namespace NameRules

/-- Does the name hold the separator of paths? -/
def hasPathSeparator (name : Name) : Bool :=
  name.toList.contains '/'

/-- Does the name begin like an array type? -/
def hasArraySyntax (name : Name) : Bool :=
  Text.startsWith name "["

/-- Does the name lie under the reserved prefix?  An empty prefix reserves
nothing. -/
def isReserved (rules : NameRules) (name : Name) : Bool :=
  !rules.reservedPrefix.isEmpty && Text.startsWith name rules.reservedPrefix

/-- May the name be looked up? -/
def isWellFormed (rules : NameRules) (name : Name) : Bool :=
  !name.isEmpty && !hasPathSeparator name && (rules.allowArraySyntax || !hasArraySyntax name)

/-- The first rule that a name about to be defined breaks. -/
def fault? (rules : NameRules) (name : Name) : Option NameFault :=
  if hasPathSeparator name then some .pathSeparator
  else if !rules.allowArraySyntax && hasArraySyntax name then some .arraySyntax
  else if !rules.allowReservedPrefix && rules.isReserved name then
    some (.reserved rules.reservedPrefix)
  else none

end NameRules

end Loading
