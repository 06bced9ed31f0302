import Loading.Certificate
import Mathlib.Data.List.Perm.Subperm

/-!
# Sets of signers that match

Sets of certificates match when they have the same size and the same members.
So matching is an equivalence, and a package whose modules all match the first
set that was reserved for it has modules that match each other.

* `matches_iff` — what matching means.
* `matches_refl`, `matches_symm`, `matches_trans` — it is an equivalence.
* `matches_of_perm`, `matches_iff_perm` — the order of signing does not count; it is
  all that does not, where no certificate is repeated.
* `matches_unsigned_iff` — nothing else matches the unsigned set.
-/

namespace Loading
namespace CertificateSet

variable {r s t : CertificateSet}

theorem within_iff : s.within t = true ↔ ∀ c ∈ s.certificates, c ∈ t.certificates := by
  simp [within, contains]

/-- Sets match when they have the same size and the same members. -/
theorem matches_iff :
    s.matches t = true ↔
      s.size = t.size ∧ ∀ c, c ∈ s.certificates ↔ c ∈ t.certificates := by
  have hmembers : s.within t = true ∧ t.within s = true ↔
      ∀ c, c ∈ s.certificates ↔ c ∈ t.certificates := by
    rw [within_iff, within_iff]
    exact ⟨fun h c => ⟨h.1 c, h.2 c⟩, fun h => ⟨fun c => (h c).1, fun c => (h c).2⟩⟩
  have hempty : ∀ u : CertificateSet, u.isEmpty = true ↔ u.certificates = [] := fun _ =>
    List.isEmpty_iff
  unfold «matches»
  by_cases h : (s.isEmpty || t.isEmpty) = true
  · rw [if_pos h]
    rw [Bool.or_eq_true, hempty, hempty] at h
    rw [Bool.and_eq_true, hempty, hempty]
    constructor
    · rintro ⟨hs, ht⟩
      simp [size, hs, ht]
    · rintro ⟨hsize, -⟩
      rcases h with hs | ht
      · exact ⟨hs, List.length_eq_zero_iff.1 (hsize.symm.trans (by simp [size, hs]))⟩
      · exact ⟨List.length_eq_zero_iff.1 (hsize.trans (by simp [size, ht])), ht⟩
  · rw [if_neg h, Bool.and_eq_true, Bool.and_eq_true, and_assoc, hmembers, beq_iff_eq]

theorem matches_refl (s : CertificateSet) : s.matches s = true :=
  matches_iff.2 ⟨rfl, fun _ => Iff.rfl⟩

theorem matches_symm (h : s.matches t = true) : t.matches s = true := by
  obtain ⟨hsize, hmem⟩ := matches_iff.1 h
  exact matches_iff.2 ⟨hsize.symm, fun c => (hmem c).symm⟩

theorem matches_trans (h₁ : r.matches s = true) (h₂ : s.matches t = true) :
    r.matches t = true := by
  obtain ⟨hsize₁, hmem₁⟩ := matches_iff.1 h₁
  obtain ⟨hsize₂, hmem₂⟩ := matches_iff.1 h₂
  exact matches_iff.2 ⟨hsize₁.trans hsize₂, fun c => (hmem₁ c).trans (hmem₂ c)⟩

/-! ## The order of signing -/

/-- The same certificates in another order match. -/
theorem matches_of_perm (h : s.certificates.Perm t.certificates) : s.matches t = true :=
  matches_iff.2 ⟨h.length_eq, fun _ => h.mem_iff⟩

/-- Sets that match each other match the same sets. -/
theorem matches_congr {s' t' : CertificateSet} (hs : s.matches s' = true)
    (ht : t.matches t' = true) : s.matches t = s'.matches t' :=
  Bool.eq_iff_iff.2
    ⟨fun h => matches_trans (matches_symm hs) (matches_trans h ht),
      fun h => matches_trans hs (matches_trans h (matches_symm ht))⟩

/-- Where one of the sets repeats no certificate, sets match when they differ in the
order of signing at most. -/
theorem matches_iff_perm (hs : s.certificates.Nodup) :
    s.matches t = true ↔ s.certificates.Perm t.certificates := by
  refine ⟨fun h => ?_, matches_of_perm⟩
  obtain ⟨hsize, hmem⟩ := matches_iff.1 h
  have hsub : s.certificates ⊆ t.certificates := fun c => (hmem c).1
  -- As many certificates as there are in all leave no room for others or for repeats.
  exact (List.subperm_of_subset hs hsub).perm_of_length_le (Nat.le_of_eq hsize.symm)

/-- Nothing but the unsigned set matches the unsigned set. -/
theorem matches_unsigned_iff : s.matches unsigned = true ↔ s = unsigned := by
  constructor
  · intro h
    obtain ⟨certificates⟩ := s
    exact congrArg mk (List.length_eq_zero_iff.1 (matches_iff.1 h).1)
  · rintro rfl
    exact matches_refl unsigned

/-- Matching is an equivalence, whatever is repeated; it does not look at the order of
signing, holds of equal sets, and keeps the unsigned set apart from all others.  Where
nothing is repeated, the sets that match are those that differ in the order at most. -/
theorem matches_equivalence :
    (Equivalence fun s t : CertificateSet => s.matches t = true) ∧
      (∀ s s' t t' : CertificateSet, s.certificates.Perm s'.certificates →
        t.certificates.Perm t'.certificates → s.matches t = s'.matches t') ∧
      (∀ s t : CertificateSet, (s == t) = true → s.matches t = true) ∧
      (∀ s : CertificateSet, (s.matches unsigned = true ↔ s = unsigned) ∧
        (unsigned.matches s = true ↔ s = unsigned)) ∧
      ∀ s t : CertificateSet, s.certificates.Nodup →
        (s.matches t = true ↔ s.certificates.Perm t.certificates) := by
  refine ⟨⟨matches_refl, matches_symm, matches_trans⟩, ?_, ?_, ?_, fun s t => matches_iff_perm⟩
  · exact fun s s' t t' hs ht => matches_congr (matches_of_perm hs) (matches_of_perm ht)
  · intro s t h
    rw [eq_of_beq h]
    exact matches_refl t
  · exact fun s => ⟨matches_unsigned_iff,
      ⟨fun h => matches_unsigned_iff.1 (matches_symm h), fun h => h ▸ matches_refl unsigned⟩⟩

/-- A signer. -/
def firstSigner : Certificate := ⟨[65]⟩

/-- Another signer. -/
def secondSigner : Certificate := ⟨[66]⟩

/-- Where signers are not repeated, those that match are the same in another order;
where they are repeated, sets match that are not. -/
theorem matches_equivalence_repeated :
    [firstSigner, secondSigner].Nodup ∧
      CertificateSet.matches ⟨[firstSigner, secondSigner]⟩ ⟨[secondSigner, firstSigner]⟩ = true ∧
      [firstSigner, secondSigner].Perm [secondSigner, firstSigner] ∧
      CertificateSet.matches ⟨[firstSigner, firstSigner, secondSigner]⟩
        ⟨[secondSigner, secondSigner, firstSigner]⟩ = true ∧
      ¬ [firstSigner, firstSigner, secondSigner].Perm
        [secondSigner, secondSigner, firstSigner] := by
  have hnodup : [firstSigner, secondSigner].Nodup := by decide
  have hmatches : CertificateSet.matches ⟨[firstSigner, secondSigner]⟩
      ⟨[secondSigner, firstSigner]⟩ = true := by decide
  obtain ⟨-, -, -, -, hperm⟩ := matches_equivalence
  exact ⟨hnodup, hmatches, (hperm _ ⟨[secondSigner, firstSigner]⟩ hnodup).1 hmatches, by decide,
    by decide⟩

end CertificateSet
end Loading
