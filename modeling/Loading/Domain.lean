import Loading.Certificate

/-!
# Code sources and protection domains

A `CodeSource` says where code came from and who signed it.  A
`ProtectionDomain` is made for one code source, or for none; two domains are the
same only when they are one object, which their serial number stands for.
-/

namespace Loading

/-- Where code came from and who signed it. -/
structure CodeSource where
  /-- The location, where there is one. -/
  location : Option String := none
  /-- The signers. -/
  certificates : CertificateSet := {}
  deriving Repr, DecidableEq, Inhabited

/-- The code source at a location, without signers. -/
def CodeSource.unsigned (location : String) : CodeSource :=
  ⟨some location, {}⟩

/-- A domain of modules that share an origin. -/
structure ProtectionDomain where
  /-- The number by which the domain is known. -/
  id : Nat
  /-- Where the code of the domain comes from. -/
  source : Option CodeSource
  deriving Repr, DecidableEq, Inhabited

/-- The signers of a domain are those of its code source. -/
def ProtectionDomain.certificates (d : ProtectionDomain) : CertificateSet :=
  (d.source.map (·.certificates)).getD {}

end Loading
