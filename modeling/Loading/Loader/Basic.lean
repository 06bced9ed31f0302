import Loading.Config
import Loading.Kind
import Loading.Library.SearchPath
import Loading.Scope

/-!
# Loaders

A loader is made below a parent or as a root, and never moves afterwards, so a
`Loader` is a value that holds everything that was settled when it was made, its
parent included.  The path from a loader up to its root is a list, and walking
it is structural.

* `Loader.path` — the loader and the loaders above it, nearest first.
* `Loader.isAncestorOf` — is a loader above another one?
-/

namespace Loading

/-- What the loaders of a hierarchy share. -/
structure Context where
  /-- The number by which collaborators are told which context asks them. -/
  key : Nat := 0
  /-- The settings. -/
  config : Config := {}
  /-- Where native libraries are looked for. -/
  search : SearchPath := {}
  /-- The number of the registry of kinds that the context uses. -/
  registry : Nat := 0
  deriving Repr, DecidableEq, Inhabited

/-- What is settled about one loader when it is made. -/
structure Level where
  /-- Its number. -/
  id : LoaderId
  /-- Its kind. -/
  kind : Kind
  /-- Does it work on several names at once? -/
  parallel : Bool
  /-- What it shares with others. -/
  context : Context
  deriving Repr, DecidableEq, Inhabited

/-- A loader, together with the loaders above it. -/
inductive Loader where
  /-- A loader without a parent. -/
  | root (level : Level)
  /-- A loader below another one. -/
  | child (level : Level) (parent : Loader)
  deriving Repr, DecidableEq, Inhabited

namespace Loader

/-- What is settled about the loader itself. -/
def level : Loader → Level
  | .root level => level
  | .child level _ => level

/-- The loader directly above. -/
def parent? : Loader → Option Loader
  | .root _ => none
  | .child _ parent => some parent

/-- The number of a loader. -/
def id (l : Loader) : LoaderId :=
  l.level.id

/-- The context of a loader. -/
def context (l : Loader) : Context :=
  l.level.context

/-- The rules for names that a loader follows. -/
def rules (l : Loader) : NameRules :=
  l.context.config.names

/-- The loaders above a loader, nearest first. -/
def ancestors : Loader → List Loader
  | .root _ => []
  | .child _ parent => parent :: parent.ancestors

/-- The loader and the loaders above it, nearest first. -/
def path (l : Loader) : List Loader :=
  l :: l.ancestors

/-- Is a loader above another one?  Loaders are told apart by their numbers. -/
def isAncestorOf (l other : Loader) : Bool :=
  other.ancestors.any fun a => a.id = l.id

/-- A loader of the given level below an optional parent. -/
def make (level : Level) : Option Loader → Loader
  | none => .root level
  | some parent => .child level parent

end Loader

end Loading
