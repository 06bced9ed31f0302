import Loading.Text.Utf8

/-!
# Certificates

Signers are known by the encoded identity of their certificates.  A
`CertificateSet` keeps the order of signing for reports, but packages compare
sets with `matches`, which looks at membership and size only.
-/

namespace Loading

/-- The identity of one signer. -/
structure Certificate where
  /-- The encoded identity. -/
  bytes : List UInt8
  deriving Repr, DecidableEq, Inhabited

namespace Certificate

/-- Byte sequences in the order of a dictionary. -/
def bytesLe : List UInt8 → List UInt8 → Bool
  | [], _ => true
  | _ :: _, [] => false
  | a :: as, b :: bs => a < b || (a == b && bytesLe as bs)

/-- Certificates are ordered by their bytes. -/
def le (c d : Certificate) : Bool :=
  bytesLe c.bytes d.bytes

/-- A certificate is shown as the text of its bytes. -/
def display (c : Certificate) : String :=
  Text.decodeLossy c.bytes

end Certificate

/-- The certificates of the signers of some code, in the order of signing. -/
structure CertificateSet where
  /-- The certificates; an unsigned set has none. -/
  certificates : List Certificate := []
  deriving Repr, DecidableEq, Inhabited

namespace CertificateSet

/-- The set without any signer. -/
def unsigned : CertificateSet := ⟨[]⟩

/-- How many certificates there are, repeats included. -/
def size (s : CertificateSet) : Nat :=
  s.certificates.length

/-- Is there no signer? -/
def isEmpty (s : CertificateSet) : Bool :=
  s.certificates.isEmpty

/-- Is the certificate one of the set? -/
def contains (s : CertificateSet) (c : Certificate) : Bool :=
  s.certificates.contains c

/-- Is each certificate of the first set one of the second? -/
def within (s t : CertificateSet) : Bool :=
  s.certificates.all t.contains

/-- Do two sets name the same signers?  The order of signing does not count; the
number of certificates does. -/
def «matches» (s t : CertificateSet) : Bool :=
  if s.isEmpty || t.isEmpty then s.isEmpty && t.isEmpty
  else s.size == t.size && s.within t && t.within s

/-- A set is shown in braces, in the order of signing. -/
def display (s : CertificateSet) : String :=
  "\x7b" ++ ", ".intercalate (s.certificates.map Certificate.display) ++ "\x7d"

end CertificateSet

end Loading
