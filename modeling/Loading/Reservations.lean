import Loading.Certificate
import Loading.Error
import Loading.Table

/-!
# Reserved signers

All modules of a package carry the same signers.  While a module is being
defined its signers are *reserved* for the package: the first reservation fixes
the signers, later ones must match them.  A reservation ends by being committed,
which makes the signers permanent, or by being dropped; when nothing was ever
committed and no reservation is open any more, the package is forgotten.

* `Reservations.reserve` — opens a reservation, or refuses it.
* `Reservations.release` — closes one.
* `Reservations.packages` — the packages with a committed definition, sorted.
-/

namespace Loading

/-- What is known of the signers of one package. -/
structure PackageSigners where
  /-- The signers fixed by the first reservation. -/
  certificates : CertificateSet
  /-- How many reservations are open. -/
  pending : Nat
  /-- Has one been committed? -/
  committed : Bool
  deriving Repr, DecidableEq, Inhabited

/-- The signers of the packages of one loader. -/
structure Reservations where
  /-- What is known, by package. -/
  entries : Table String PackageSigners := {}
  deriving Repr, DecidableEq, Inhabited

namespace Reservations

/-- The signers fixed for a package. -/
def certificatesFor? (r : Reservations) (package : String) : Option CertificateSet :=
  (r.entries.find? package).map (·.certificates)

/-- Opens a reservation for a module with its signers; it is known by the
package of the module. -/
def reserve (r : Reservations) (name : Name) (signers : CertificateSet) :
    Except LoadError String × Reservations :=
  let package := name.package
  match r.entries.find? package with
  | none => (.ok package, ⟨r.entries.set package ⟨signers, 1, false⟩⟩)
  | some entry =>
      if entry.certificates.matches signers then
        (.ok package, ⟨r.entries.set package { entry with pending := entry.pending + 1 }⟩)
      else (.error (.signerMismatch name package), r)

/-- Closes a reservation of a package, committed or not. -/
def release (r : Reservations) (package : String) (committed : Bool) : Reservations :=
  match r.entries.find? package with
  | none => r
  | some entry =>
      let entry := { entry with
        pending := entry.pending - 1
        committed := entry.committed || committed }
      if entry.pending = 0 ∧ entry.committed = false then ⟨r.entries.erase package⟩
      else ⟨r.entries.set package entry⟩

/-- Closes a reservation after the definition succeeded. -/
def commit (r : Reservations) (package : String) : Reservations :=
  r.release package true

/-- Closes a reservation after the definition failed. -/
def drop (r : Reservations) (package : String) : Reservations :=
  r.release package false

/-- The packages with a committed definition, sorted. -/
def packages (r : Reservations) : List String :=
  ((r.entries.entries.filter (·.2.committed)).map (·.1)).mergeSort fun a b => decide (a ≤ b)

end Reservations

end Loading
