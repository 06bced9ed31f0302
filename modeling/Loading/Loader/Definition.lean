import Loading.Loader.Question

/-!
# Defining modules

A loader turns bytes into a module of its own.  The name is checked, the signers
of the package are reserved, the definer makes the module, and only then do the
tables of the loader learn of it; whatever fails on the way leaves no reservation
behind.

With a name, the lock for it is held from the start, and duplicates and foreign
signers are refused before the definer is asked.  Without one, the definer finds
the name first, and the lock is taken only to enter the module.

* `Loader.define` — the whole way.
* `Loader.install` — its last part, with a reservation open.
-/

namespace Loading.Loader

open Interaction

/-- What a loader objects to in a module that its definer made. -/
def objection? (l : Loader) (name : Option Name) (m : Module) : Option LoadError :=
  let misnamed :=
    match name with
    | some name => if m.name = name then none else some (.definition name (.renamed m.name))
    | none => (l.rules.fault? m.name).map (.invalidName m.name)
  match misnamed with
  | some e => some e
  | none => if m.loader = l.id then none else some (.definition m.name (.attributed m.loader))

/-- Enters a module into the tables, with a reservation for its package open.
The reservation is dropped if there is a module of that name, and committed
otherwise. -/
def install (l : Loader) (m : Module) (domain : ProtectionDomain) (package : String) :
    LoaderTask (Except LoadError Module) := do
  let fresh ← transact fun s => s.adopt l.id m
  if fresh then
    if !domain.certificates.isEmpty then
      change fun s => (s.sign m domain.certificates).2
    change fun s => s.release l.id package true
    change fun s => s.onTables l.id fun t => t.recordDefined m
    change fun s => s.onTables l.id fun t => t.recordDomain domain
    return .ok m
  else
    change fun s => s.release l.id package false
    return .error (.definition m.name .duplicate)

/-- The domain that was given, or else the default domain of the loader. -/
def domainOr (l : Loader) : Option ProtectionDomain → LoaderTask ProtectionDomain
  | some domain => return domain
  | none => transact fun s => s.defaultDomain l.id

/-- Defines a module under a name that has been checked, with the lock for it held. -/
def defineHeld (l : Loader) (name : Name) (bytes : List UInt8) (start stop : Nat)
    (domain : Option ProtectionDomain) : LoaderTask (Except LoadError Module) := do
  let known ← observe fun s => (s.loaded? l.id name).isSome
  if known then return .error (.definition name .duplicate)
  let domain ← l.domainOr domain
  match ← transact fun s => s.reserve l.id name domain.certificates with
  | .error e => return .error e
  | .ok package =>
      let produced : Except LoadError Module ←
        LoaderTask.ask (.produce l.context.key ⟨some name, bytes, start, stop, domain, l.id⟩)
      let accepted := produced.bind fun m =>
        match l.objection? (some name) m with
        | some e => .error e
        | none => .ok m
      match accepted with
      | .error e =>
          change fun s => s.release l.id package false
          return .error e
      | .ok m => l.install m domain package

/-- Defines a module under a name that has been checked. -/
def defineNamed (l : Loader) (name : Name) (bytes : List UInt8) (start stop : Nat)
    (domain : Option ProtectionDomain) : LoaderTask (Except LoadError Module) :=
  l.locked name (l.defineHeld name bytes start stop domain)

/-- Enters a module that was made without a name, with the lock for its name held. -/
def enterHeld (l : Loader) (m : Module) (domain : ProtectionDomain) :
    LoaderTask (Except LoadError Module) := do
  match ← transact fun s => s.reserve l.id m.name domain.certificates with
  | .error e => return .error e
  | .ok package => l.install m domain package

/-- Defines a module whose name the definer finds. -/
def defineUnnamed (l : Loader) (bytes : List UInt8) (start stop : Nat)
    (domain : Option ProtectionDomain) : LoaderTask (Except LoadError Module) := do
  let domain ← l.domainOr domain
  let produced : Except LoadError Module ←
    LoaderTask.ask (.produce l.context.key ⟨none, bytes, start, stop, domain, l.id⟩)
  match produced with
  | .error e => return .error e
  | .ok m =>
      match l.objection? none m with
      | some e => return .error e
      | none => l.locked m.name (l.enterHeld m domain)

/-- Defines a module from the bytes between two places, under a name or under the
one that the definer finds. -/
def define (l : Loader) (name : Option Name) (bytes : List UInt8) (start stop : Nat)
    (domain : Option ProtectionDomain) : LoaderTask (Except LoadError Module) :=
  match name.bind fun name => (l.rules.fault? name).map (LoadError.invalidName name) with
  | some e => return .error e
  | none =>
      if start > stop ∨ stop > bytes.length then
        return .error
          (.definition (name.getD unnamed) (.range start stop bytes.length))
      else
        match name with
        | some name => l.defineNamed name bytes start stop domain
        | none => l.defineUnnamed bytes start stop domain

end Loading.Loader
