import Loading.Name
import Loading.Text.Blank

/-!
# Settings

The settings that all loaders of a hierarchy share, and how the environment
overrides them.
-/

namespace Loading

/-- The variable that permits names under the reserved prefix. -/
def allowReservedPrefixVar : String := "MODLOAD_ALLOW_RESERVED_PREFIX"

/-- The variable that turns assertions on by default. -/
def enableAssertionsVar : String := "MODLOAD_ENABLE_ASSERTIONS"

/-- A set of variables with their values. -/
abbrev Environment := String → Option String

/-- The settings of a hierarchy. -/
structure Config where
  /-- The rules for module names. -/
  names : NameRules := {}
  /-- The assertion status that a new loader starts with. -/
  assertionsByDefault : Bool := false
  deriving Repr, DecidableEq, Inhabited

namespace Config

/-- Does the value of a variable turn a setting on? -/
def isOn (value : String) : Bool :=
  ["1", "true", "yes", "on"].contains (String.ofList ((Text.trim value).toList.map Char.toLower))

/-- The usual settings, overridden by the variables that are set. -/
def ofEnvironment (env : Environment) : Config where
  names := { allowReservedPrefix := ((env allowReservedPrefixVar).map isOn).getD false }
  assertionsByDefault := ((env enableAssertionsVar).map isOn).getD false

/-- The settings with another reserved prefix. -/
def withReservedPrefix (c : Config) (start : String) : Config :=
  { c with names := { c.names with reservedPrefix := start } }

/-- The settings with names under the reserved prefix permitted or not. -/
def withAllowReservedPrefix (c : Config) (allow : Bool) : Config :=
  { c with names := { c.names with allowReservedPrefix := allow } }

end Config

end Loading
