import Loading.Domain
import Loading.Name
import Loading.Scope

/-!
# Modules

A `Module` is a handle: a value with a serial number that stands for its
identity, and with the attributes that never change.  What may change later —
the signers, which are set once, and the mark of a linked module — is kept in a
`ModuleLedger` under the serial number.
-/

namespace Loading

/-- A handle of a defined module. -/
structure Module where
  /-- The number that tells this module from every other. -/
  serial : Nat
  /-- Its name. -/
  name : Name
  /-- The loader that defined it. -/
  loader : LoaderId
  /-- The domain it was defined in. -/
  domain : ProtectionDomain
  /-- The length of its code in bytes. -/
  codeLength : Nat
  deriving Repr, DecidableEq, Inhabited

/-- The package of a module is that of its name. -/
def Module.package (m : Module) : String :=
  m.name.package

/-- What is known of modules beyond their handles. -/
structure ModuleLedger where
  /-- The number of the next module. -/
  next : Nat := 0
  /-- The signers of the modules that have been given some, newest first. -/
  signers : List (Nat × CertificateSet) := []
  /-- The modules that have been linked. -/
  linked : List Nat := []
  deriving Repr, DecidableEq, Inhabited

namespace ModuleLedger

/-- The signers of a module, where they have been set. -/
def signers? (l : ModuleLedger) (m : Module) : Option CertificateSet :=
  l.signers.lookup m.serial

/-- Has the module been linked? -/
def isLinked (l : ModuleLedger) (m : Module) : Bool :=
  l.linked.contains m.serial

/-- Sets the signers of a module, unless they are set already. -/
def sign (l : ModuleLedger) (m : Module) (signers : CertificateSet) : Bool × ModuleLedger :=
  match l.signers? m with
  | some _ => (false, l)
  | none => (true, { l with signers := (m.serial, signers) :: l.signers })

/-- Marks a module as linked. -/
def markLinked (l : ModuleLedger) (m : Module) : ModuleLedger :=
  { l with linked := m.serial :: l.linked }

/-- A new module with a number of its own. -/
def create (l : ModuleLedger) (name : Name) (loader : LoaderId) (domain : ProtectionDomain)
    (codeLength : Nat) : Module × ModuleLedger :=
  (⟨l.next, name, loader, domain, codeLength⟩, { l with next := l.next + 1 })

end ModuleLedger

end Loading
