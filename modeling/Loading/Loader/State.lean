import Loading.Assertions
import Loading.Loader.Basic
import Loading.Locks
import Loading.Module
import Loading.Reservations

/-!
# The state of all loaders

Each loader has tables that grow while it works; all loaders share the counters
for their numbers, the ledger of modules, the built-in modules and the
registries of kinds.  Every change of this state is one of the functions below.
-/

namespace Loading

/-- The tables of one loader. -/
structure LoaderTables where
  /-- The modules it answers with, by name. -/
  loaded : Table Name Module := {}
  /-- The modules it defined, oldest first. -/
  defined : List Module := []
  /-- The domains of the modules it defined, each once, oldest first. -/
  domains : List ProtectionDomain := []
  /-- The signers of its packages. -/
  signers : Reservations := {}
  /-- The domain of definitions that come without one. -/
  defaultDomain : Option ProtectionDomain := none
  /-- The domains made for code sources. -/
  sourceDomains : Table CodeSource ProtectionDomain := {}
  /-- Its assertion settings. -/
  assertions : Assertions := {}
  /-- Its loading locks. -/
  locks : LockTable := { parallel := false }
  /-- Has it been torn down? -/
  tornDown : Bool := false
  deriving Repr, DecidableEq, Inhabited

namespace LoaderTables

/-- Makes a module the answer for a name, unless there is one. -/
def remember (t : LoaderTables) (name : Name) (m : Module) : LoaderTables :=
  if t.loaded.contains name then t else { t with loaded := t.loaded.set name m }

/-- Adds a module to the definitions. -/
def recordDefined (t : LoaderTables) (m : Module) : LoaderTables :=
  { t with defined := t.defined ++ [m] }

/-- Adds a domain to those of the definitions, unless it is there. -/
def recordDomain (t : LoaderTables) (d : ProtectionDomain) : LoaderTables :=
  if t.domains.any fun e => e.id = d.id then t else { t with domains := t.domains ++ [d] }

end LoaderTables

/-- The state that all loaders share. -/
structure Loaders where
  /-- The number of the next loader. -/
  nextLoader : Nat := 1
  /-- The number of the next domain. -/
  nextDomain : Nat := 1
  /-- What is known of modules. -/
  ledger : ModuleLedger := {}
  /-- The loaders made so far, oldest first. -/
  created : List Loader := []
  /-- The tables of each loader. -/
  tables : Table LoaderId LoaderTables := {}
  /-- The built-in modules of each context, by name. -/
  builtins : Table Nat (Table Name Module) := {}
  /-- The registries of kinds. -/
  kinds : Table Nat KindRegistry := {}
  deriving Repr, DecidableEq, Inhabited

namespace Loaders

/-! ## Tables of one loader -/

/-- The tables of a loader. -/
def tablesOf (s : Loaders) (id : LoaderId) : LoaderTables :=
  s.tables.findD id {}

/-- Changes the tables of a loader. -/
def onTables (s : Loaders) (id : LoaderId) (f : LoaderTables → LoaderTables) : Loaders :=
  { s with tables := s.tables.set id (f (s.tablesOf id)) }

/-- The module that a loader answers with for a name. -/
def loaded? (s : Loaders) (id : LoaderId) (name : Name) : Option Module :=
  (s.tablesOf id).loaded.find? name

/-- The modules that a loader defined. -/
def defined (s : Loaders) (id : LoaderId) : List Module :=
  (s.tablesOf id).defined

/-- The packages of the modules that a loader defined, sorted. -/
def packages (s : Loaders) (id : LoaderId) : List String :=
  (s.tablesOf id).signers.packages

/-! ## Numbers -/

/-- A new loader number. -/
def freshLoader (s : Loaders) : LoaderId × Loaders :=
  (⟨s.nextLoader⟩, { s with nextLoader := s.nextLoader + 1 })

/-- A new domain for a code source, or for none. -/
def freshDomain (s : Loaders) (source : Option CodeSource) : ProtectionDomain × Loaders :=
  (⟨s.nextDomain, source⟩, { s with nextDomain := s.nextDomain + 1 })

/-- A new module. -/
def freshModule (s : Loaders) (name : Name) (loader : LoaderId) (domain : ProtectionDomain)
    (codeLength : Nat) : Module × Loaders :=
  let (m, ledger) := s.ledger.create name loader domain codeLength
  (m, { s with ledger := ledger })

/-- Sets the signers of a module, unless they are set already. -/
def sign (s : Loaders) (m : Module) (signers : CertificateSet) : Bool × Loaders :=
  let (done, ledger) := s.ledger.sign m signers
  (done, { s with ledger := ledger })

/-- Marks a module as linked. -/
def markLinked (s : Loaders) (m : Module) : Loaders :=
  { s with ledger := s.ledger.markLinked m }

/-! ## Domains of a loader -/

/-- The domain of definitions that come without one, made when it is first
needed. -/
def defaultDomain (s : Loaders) (id : LoaderId) : ProtectionDomain × Loaders :=
  match (s.tablesOf id).defaultDomain with
  | some d => (d, s)
  | none =>
      let (d, s) := s.freshDomain (some {})
      (d, s.onTables id fun t => { t with defaultDomain := some d })

/-- The domain of a code source, made when it is first needed. -/
def sourceDomain (s : Loaders) (id : LoaderId) (source : CodeSource) :
    ProtectionDomain × Loaders :=
  match (s.tablesOf id).sourceDomains.find? source with
  | some d => (d, s)
  | none =>
      let (d, s) := s.freshDomain (some source)
      (d, s.onTables id fun t => { t with sourceDomains := t.sourceDomains.set source d })

/-! ## Locks and signers of a loader -/

/-- The loading lock for a name. -/
def lockFor (s : Loaders) (id : LoaderId) (name : Name) : Lock × Loaders :=
  let (lock, locks) := (s.tablesOf id).locks.lockFor name
  (lock, s.onTables id fun t => { t with locks := locks })

/-- Reserves signers for the package of a name. -/
def reserve (s : Loaders) (id : LoaderId) (name : Name) (signers : CertificateSet) :
    Except LoadError String × Loaders :=
  let (result, reservations) := (s.tablesOf id).signers.reserve name signers
  (result, s.onTables id fun t => { t with signers := reservations })

/-- Closes a reservation. -/
def release (s : Loaders) (id : LoaderId) (package : String) (committed : Bool) : Loaders :=
  s.onTables id fun t => { t with signers := t.signers.release package committed }

/-- Makes a module the answer for its name, if there is none; says whether it
is. -/
def adopt (s : Loaders) (id : LoaderId) (m : Module) : Bool × Loaders :=
  if (s.loaded? id m.name).isSome then (false, s)
  else (true, s.onTables id fun t => { t with loaded := t.loaded.set m.name m })

/-! ## Built-in modules and kinds -/

/-- The built-in modules of a context. -/
def builtinsOf (s : Loaders) (key : Nat) : Table Name Module :=
  s.builtins.findD key {}

/-- The built-in module of a name. -/
def builtin? (s : Loaders) (key : Nat) (name : Name) : Option Module :=
  (s.builtinsOf key).find? name

/-- The names of the built-in modules of a context, sorted. -/
def builtinNames (s : Loaders) (key : Nat) : List Name :=
  (s.builtinsOf key).keys.mergeSort fun a b => decide (a ≤ b)

/-- Enters a built-in module, unless there is one of that name, which is then the
answer. -/
def registerBuiltin (s : Loaders) (key : Nat) (name : Name) : Module × Loaders :=
  match s.builtin? key name with
  | some m => (m, s)
  | none =>
      let (d, s) := s.freshDomain none
      let (m, s) := s.freshModule name .bootstrap d 0
      (m, { s with builtins := s.builtins.set key ((s.builtinsOf key).set name m) })

/-- A registry of kinds. -/
def kindsOf (s : Loaders) (registry : Nat) : KindRegistry :=
  s.kinds.findD registry {}

/-- Enters a kind as working in parallel, if that is still possible. -/
def registerKind (s : Loaders) (registry : Nat) (k : Kind) : Bool × Loaders :=
  let (done, kinds) := (s.kindsOf registry).register k
  (done, { s with kinds := s.kinds.set registry kinds })

/-- Makes a loader of a kind below an optional parent. -/
def create (s : Loaders) (k : Kind) (parent : Option Loader) (context : Context) :
    Loader × Loaders :=
  let (parallel, kinds) := (s.kindsOf context.registry).noteInstance k
  let (id, s) := s.freshLoader
  let loader := Loader.make ⟨id, k, parallel, context⟩ parent
  let tables : LoaderTables :=
    { assertions := { byDefault := context.config.assertionsByDefault }
      locks := { parallel } }
  (loader, { s with
    kinds := s.kinds.set context.registry kinds
    created := s.created ++ [loader]
    tables := s.tables.set id tables })

end Loaders

end Loading
