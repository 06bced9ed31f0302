import Loading.Loader.Definition

/-!
# Resolving modules

A loader that does not know a name asks above it first: its parent, or at the
root the built-in modules.  Only when nobody above has the module does it ask its
own finder, and defines what that finds.  Whatever a loader answers with it
remembers.

* `Loader.resolve` — the module of a name, linked on request.
* `Loader.resource`, `Loader.resources` — resources, searched in the same order.
-/

namespace Loading.Loader

open Interaction

/-- Finds the bytes of a module with the loader's own finder, and defines it. -/
def findAndDefine (l : Loader) (name : Name) : LoaderTask (Except LoadError Module) := do
  let found : Except LoadError FoundModule ← LoaderTask.ask (.find l.id name)
  match found with
  | .error e => return .error e
  | .ok found =>
      let domain ←
        match found.source with
        | none => pure none
        | some source => some <$> transact fun s => s.sourceDomain l.id source
      l.define (some name) found.bytes 0 found.bytes.length domain

/-- Goes on after those above have answered: a module is remembered, and a module
that nobody has is looked for. -/
def afterDelegation (l : Loader) (name : Name) :
    Except LoadError Module → LoaderTask (Except LoadError Module)
  | .ok m => do
      change fun s => s.onTables l.id fun t => t.remember name m
      return .ok m
  | .error e => if e.isNotFound then l.findAndDefine name else return .error e

/-- The module of a name as a loader answers it, with its lock held: the one it
knows, or else what becomes of asking above with `delegate`. -/
def lookUp (l : Loader) (name : Name) (delegate : LoaderTask (Except LoadError Module)) :
    LoaderTask (Except LoadError Module) := do
  match ← observe fun s => s.loaded? l.id name with
  | some m => return .ok m
  | none => l.afterDelegation name (← delegate)

/-- The built-in module of a name, for a root. -/
def askBootstrap (l : Loader) (name : Name) : LoaderTask (Except LoadError Module) := do
  let found : Option Module ← LoaderTask.ask (.bootstrap l.context.key name)
  match found with
  | some m => return .ok m
  | none => return .error (.notFound name)

/-- The module of a name, not linked. -/
def resolveOnly (name : Name) : Loader → LoaderTask (Except LoadError Module)
  | l@(.root level) =>
      if level.context.config.names.isWellFormed name then
        l.locked name (l.lookUp name (l.askBootstrap name))
      else return .error (.notFound name)
  | l@(.child level parent) =>
      if level.context.config.names.isWellFormed name then
        l.locked name (l.lookUp name (parent.resolveOnly name))
      else return .error (.notFound name)

/-- What a loader does above itself when it does not know a name. -/
def delegate (name : Name) : Loader → LoaderTask (Except LoadError Module)
  | l@(.root _) => l.askBootstrap name
  | .child _ parent => parent.resolveOnly name

/-- Links a module unless it is linked. -/
def linkIfNeeded (l : Loader) (m : Module) : LoaderTask (Except LoadError Module) := do
  let linked ← observe fun s => s.ledger.isLinked m
  if linked then return .ok m
  let outcome : Except LoadError Unit ← LoaderTask.ask (.link l.context.key m)
  match outcome with
  | .error e => return .error e
  | .ok () => return .ok m

/-- The module of a name, linked if `link` says so, with the lock for the name held. -/
def resolveHeld (l : Loader) (name : Name) (link : Bool) :
    LoaderTask (Except LoadError Module) := do
  match ← l.lookUp name (l.delegate name) with
  | .error e => return .error e
  | .ok m => if link then l.linkIfNeeded m else return .ok m

/-- The module of a name, linked if `link` says so; the lock for the name is held
until the linker has answered. -/
def resolve (l : Loader) (name : Name) (link : Bool) : LoaderTask (Except LoadError Module) :=
  if l.rules.isWellFormed name then l.locked name (l.resolveHeld name link)
  else return .error (.notFound name)

/-! ## Resources -/

/-- The first resource of a name: from above if there is one, else the loader's
own. -/
def resource (name : String) : Loader → LoaderTask (Option String)
  | .root level => do
      let inherited : Option String ← LoaderTask.ask (.bootstrapResource level.context.key name)
      match inherited with
      | some path => return some path
      | none => LoaderTask.ask (.resource level.id name)
  | .child level parent => do
      match ← parent.resource name with
      | some path => return some path
      | none => LoaderTask.ask (.resource level.id name)

/-- All resources of a name, from the built-in one down to the loader's own. -/
def resources (name : String) : Loader → LoaderTask (List String)
  | .root level => do
      let inherited : Option String ← LoaderTask.ask (.bootstrapResource level.context.key name)
      let own : List String ← LoaderTask.ask (.resources level.id name)
      return inherited.toList ++ own
  | .child level parent => do
      let inherited ← parent.resources name
      let own : List String ← LoaderTask.ask (.resources level.id name)
      return inherited ++ own

end Loading.Loader
