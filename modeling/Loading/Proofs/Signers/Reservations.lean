import Loading.Proofs.Signers.Certificates
import Loading.Proofs.Tables
import Loading.Reservations

/-!
# Reservations that are opened and closed again

Attempts to define modules nest: while one holds a reservation, others may open
and close theirs, for the same package or for another.  What an attempt relies on
is not the registry as it was, but that whatever came in between opened no more
than it closed and took back no signers.

* `Tidy` — every entry has an open reservation or was committed once.
* `Later` — only whole attempts have happened in between.
* `Reserved` — one attempt has its reservation open.
* `Later.reserve`, `Reserved.release` — from one to the next.
* `Tidy.release_reserve` — a reservation that is dropped has left nothing behind.
-/

namespace Loading
namespace Reservations

/-- What is known of a package. -/
def known? (r : Reservations) (package : String) : Option PackageSigners :=
  r.entries.find? package

/-- How many reservations are open for a package. -/
def openFor (r : Reservations) (package : String) : Nat :=
  (r.known? package).elim 0 (·.pending)

/-- A definition of the package has succeeded. -/
def Committed (r : Reservations) (package : String) : Prop :=
  ∃ entry, r.known? package = some entry ∧ entry.committed = true

/-- The keys are distinct, and every entry has an open reservation or was committed
once. -/
structure Tidy (r : Reservations) : Prop where
  /-- No package has two entries. -/
  keys : r.entries.keys.Nodup
  /-- No entry is left over. -/
  alive : ∀ package entry, r.known? package = some entry →
    0 < entry.pending ∨ entry.committed = true

/-- No entry was lost, no signers were replaced, and nothing that was committed was
taken back. -/
def Kept (r r' : Reservations) : Prop :=
  ∀ package entry, r.known? package = some entry → ∃ entry', r'.known? package = some entry' ∧
    entry'.certificates = entry.certificates ∧ (entry.committed = true → entry'.committed = true)

/-- Only whole attempts have happened in between. -/
structure Later (r r' : Reservations) : Prop where
  /-- As many reservations are open. -/
  openFor : ∀ package, r'.openFor package = r.openFor package
  /-- Nothing was lost. -/
  kept : Kept r r'

/-- Of the attempts since `r`, one has its reservation open, for a package and for
signers. -/
structure Reserved (r : Reservations) (package : String) (signers : CertificateSet)
    (r' : Reservations) : Prop where
  /-- There was no entry left over at the beginning. -/
  tidy : r.Tidy
  /-- One more reservation is open for the package, and as many as before for all
  others. -/
  openFor : ∀ p, r'.openFor p = if p = package then r.openFor p + 1 else r.openFor p
  /-- Nothing was lost. -/
  kept : Kept r r'
  /-- The signers of the package match. -/
  reserved : ∃ entry, r'.known? package = some entry ∧
    entry.certificates.matches signers = true

variable {r r₁ r₂ r₃ : Reservations} {name package : Name} {signers : CertificateSet}

/-! ## Whole attempts -/

theorem Kept.refl (r : Reservations) : Kept r r := fun _ entry h => ⟨entry, h, rfl, id⟩

theorem Kept.trans (h₁ : Kept r₁ r₂) (h₂ : Kept r₂ r₃) : Kept r₁ r₃ := by
  intro p entry h
  obtain ⟨entry₂, hfind₂, hcertificates₂, hcommitted₂⟩ := h₁ p entry h
  obtain ⟨entry₃, hfind₃, hcertificates₃, hcommitted₃⟩ := h₂ p entry₂ hfind₂
  exact ⟨entry₃, hfind₃, hcertificates₃.trans hcertificates₂, fun h => hcommitted₃ (hcommitted₂ h)⟩

theorem Later.refl (r : Reservations) : Later r r := ⟨fun _ => rfl, .refl r⟩

theorem Later.trans (h₁ : Later r₁ r₂) (h₂ : Later r₂ r₃) : Later r₁ r₃ :=
  ⟨fun p => (h₂.openFor p).trans (h₁.openFor p), h₁.kept.trans h₂.kept⟩

/-- A reservation stays open over whole attempts. -/
theorem Reserved.later (h : Reserved r₁ package signers r₂) (hlater : Later r₂ r₃) :
    Reserved r₁ package signers r₃ where
  tidy := h.tidy
  openFor p := (hlater.openFor p).trans (h.openFor p)
  kept := h.kept.trans hlater.kept
  reserved := by
    obtain ⟨entry, hfind, hmatches⟩ := h.reserved
    obtain ⟨entry', hfind', hcertificates, -⟩ := hlater.kept package entry hfind
    exact ⟨entry', hfind', by rw [hcertificates]; exact hmatches⟩

/-! ## Single changes -/

theorem Tidy.empty : Tidy {} := ⟨List.nodup_nil, fun _ _ h => by simp [known?, Table.find?] at h⟩

/-- Writing an entry that has an open reservation or was committed leaves the registry
tidy. -/
theorem Tidy.set (h : r.Tidy) {entry : PackageSigners}
    (hentry : 0 < entry.pending ∨ entry.committed = true) : Tidy ⟨r.entries.set package entry⟩ where
  keys := Table.nodup_keys_set h.keys package entry
  alive p e hfind := by
    unfold known? at hfind
    rw [Table.find?_set] at hfind
    split at hfind
    · exact Option.some.inj hfind ▸ hentry
    · exact h.alive p e hfind

theorem known?_set (p : String) (entry : PackageSigners) :
    known? ⟨r.entries.set package entry⟩ p = if p = package then some entry else r.known? p :=
  Table.find?_set ..

theorem known?_erase (p : String) :
    known? ⟨r.entries.erase package⟩ p = if p = package then none else r.known? p :=
  Table.find?_erase ..

theorem openFor_set (p : String) (entry : PackageSigners) :
    openFor ⟨r.entries.set package entry⟩ p =
      if p = package then entry.pending else r.openFor p := by
  unfold openFor
  rw [known?_set]
  split <;> rfl

/-- Writing an entry with the signers that were there loses nothing. -/
theorem Kept.set {entry : PackageSigners}
    (hentry : ∀ old, r.known? package = some old →
      entry.certificates = old.certificates ∧ (old.committed = true → entry.committed = true)) :
    Kept r ⟨r.entries.set package entry⟩ := by
  intro p old hfind
  rw [known?_set]
  by_cases hp : p = package
  · subst hp
    rw [if_pos rfl]
    exact ⟨entry, rfl, hentry old hfind⟩
  · rw [if_neg hp]
    exact ⟨old, hfind, rfl, id⟩

/-- What a reservation does: it is refused and changes nothing, or it is for the
package of the name, whose entry counts one more. -/
theorem reserve_cases (r : Reservations) (name : Name) (signers : CertificateSet) :
    (∃ e, r.reserve name signers = (.error e, r)) ∨
      ∃ entry, r.reserve name signers =
          (.ok name.package, ⟨r.entries.set name.package entry⟩) ∧
        entry.pending = r.openFor name.package + 1 ∧
        entry.certificates.matches signers = true ∧
        (entry.committed = true ↔ r.Committed name.package) ∧
        ∀ old, r.known? name.package = some old → entry.certificates = old.certificates := by
  unfold reserve openFor Committed known?
  dsimp only
  cases hfind : r.entries.find? name.package with
  | none =>
      refine Or.inr ⟨_, rfl, rfl, CertificateSet.matches_refl signers, ?_, ?_⟩
      · simp
      · intro old hold
        simp at hold
  | some entry =>
      by_cases hmatches : entry.certificates.matches signers = true
      · refine Or.inr ⟨{ entry with pending := entry.pending + 1 }, ?_, rfl, hmatches, ?_, ?_⟩
        · dsimp only
          rw [if_pos hmatches]
        · simp
        · rintro old hold
          cases hold
          rfl
      · refine Or.inl ⟨.signerMismatch name name.package, ?_⟩
        dsimp only
        rw [if_neg hmatches]

/-- Signers that are refused are not reserved. -/
theorem reserve_error {e : LoadError} (h : (r.reserve name signers).1 = .error e) :
    (r.reserve name signers).2 = r := by
  rcases reserve_cases r name signers with ⟨e', heq⟩ | ⟨entry, heq, -⟩
  · rw [heq]
  · rw [heq] at h
    cases h

/-- Whether a reservation is granted depends on the signers that are known of the
package. -/
theorem reserve_fst (r : Reservations) (name : Name) (signers : CertificateSet) :
    (r.reserve name signers).1 =
      match r.certificatesFor? name.package with
      | none => .ok name.package
      | some c =>
          if c.matches signers then .ok name.package
          else .error (.signerMismatch name name.package) := by
  unfold reserve certificatesFor?
  dsimp only
  cases r.entries.find? name.package with
  | none => rfl
  | some entry =>
      dsimp only [Option.map_some]
      split <;> rfl

/-- Signers are refused only when others are known of the package. -/
theorem refused_of_reserve {e : LoadError} (h : (r.reserve name signers).1 = .error e) :
    e = .signerMismatch name name.package ∧
      ∃ c, r.certificatesFor? name.package = some c ∧ c.matches signers = false := by
  rw [reserve_fst] at h
  cases hc : r.certificatesFor? name.package with
  | none =>
      rw [hc] at h
      cases h
  | some c =>
      simp only [hc] at h
      split at h
      · cases h
      · rename_i hdiffer
        exact ⟨(Except.error.inj h).symm, c, rfl, by simpa using hdiffer⟩

/-- A reservation that is granted is for the package of the name. -/
theorem package_of_reserve (h : (r.reserve name signers).1 = .ok package) :
    package = name.package := by
  rcases reserve_cases r name signers with ⟨e, heq⟩ | ⟨entry, heq, -⟩
  · rw [heq] at h
    cases h
  · rw [heq] at h
    exact (Except.ok.inj h).symm

/-- A reservation that is granted after whole attempts is open. -/
theorem Later.reserve (h : Later r₁ r₂) (h₁ : r₁.Tidy) (h₂ : r₂.Tidy)
    (hok : (r₂.reserve name signers).1 = .ok package) :
    (r₂.reserve name signers).2.Tidy ∧ Reserved r₁ package signers (r₂.reserve name signers).2 := by
  obtain rfl := package_of_reserve hok
  rcases reserve_cases r₂ name signers with
    ⟨e, heq⟩ | ⟨entry, heq, hpending, hmatches, hcommitted, hold⟩
  · rw [heq] at hok
    cases hok
  · rw [heq]
    have hkept : Kept r₂ ⟨r₂.entries.set name.package entry⟩ := Kept.set fun old hfind =>
      ⟨hold old hfind, fun hc => hcommitted.2 ⟨old, hfind, hc⟩⟩
    refine ⟨h₂.set (Or.inl (by omega)), h₁, ?_, h.kept.trans hkept, entry, ?_, hmatches⟩
    · intro p
      rw [openFor_set, ← h.openFor p]
      split
      · rename_i hp
        rw [hp, hpending]
      · rfl
    · rw [known?_set, if_pos rfl]

/-- A reservation commits nothing. -/
theorem committed_reserve {p : String} :
    Committed (r.reserve name signers).2 p ↔ Committed r p := by
  rcases reserve_cases r name signers with ⟨e, heq⟩ | ⟨entry, heq, -, -, hcommitted, -⟩
  · rw [heq]
  · rw [heq]
    unfold Committed
    rw [known?_set]
    by_cases hp : p = name.package
    · subst hp
      rw [if_pos rfl]
      simpa [Committed] using hcommitted
    · rw [if_neg hp]

/-- A reservation replaces no signers. -/
theorem certificatesFor?_reserve {p : String} {c : CertificateSet}
    (h : r.certificatesFor? p = some c) :
    (r.reserve name signers).2.certificatesFor? p = some c := by
  rcases reserve_cases r name signers with ⟨e, heq⟩ | ⟨entry, heq, -, -, -, hold⟩
  · rw [heq]
    exact h
  · rw [heq]
    show (known? ⟨r.entries.set name.package entry⟩ p).map (·.certificates) = some c
    rw [known?_set]
    by_cases hp : p = name.package
    · subst hp
      obtain ⟨old, hfind, rfl⟩ := Option.map_eq_some_iff.1 h
      rw [if_pos rfl, Option.map_some, hold old hfind]
    · rw [if_neg hp]
      exact h

/-- Asking for a reservation leaves no entry over. -/
theorem Tidy.reserve (h : r.Tidy) (name : Name) (signers : CertificateSet) :
    (r.reserve name signers).2.Tidy := by
  rcases reserve_cases r name signers with ⟨e, heq⟩ | ⟨entry, heq, hpending, -⟩
  · rw [heq]
    exact h
  · rw [heq]
    exact h.set (Or.inl (by omega))

/-- A reservation that is dropped might as well never have been granted. -/
theorem Tidy.release_reserve (h : r.Tidy) (hok : (r.reserve name signers).1 = .ok package) :
    (r.reserve name signers).2.release package false = r := by
  obtain rfl := package_of_reserve hok
  unfold Reservations.reserve at hok ⊢
  dsimp only at hok ⊢
  cases hfind : r.entries.find? name.package with
  | none =>
      -- The package was not known, and is forgotten again.
      have hwritten : (r.entries.set name.package ⟨signers, 1, false⟩).find? name.package =
          some ⟨signers, 1, false⟩ := by
        rw [Table.find?_set, if_pos rfl]
      simp [release, hwritten, Table.erase_set hfind]
  | some entry =>
      rw [hfind] at hok
      dsimp only at hok ⊢
      split at hok
      · rename_i hmatches
        rw [if_pos hmatches]
        -- The entry counts one more, and then as many as before.
        have hwritten : (r.entries.set name.package
            { entry with pending := entry.pending + 1 }).find? name.package =
              some { entry with pending := entry.pending + 1 } := by
          rw [Table.find?_set, if_pos rfl]
        have halive : ¬ (entry.pending = 0 ∧ entry.committed = false) := by
          rintro ⟨hpending, hcommitted⟩
          rcases h.alive name.package entry hfind with hopen | hdone
          · omega
          · rw [hcommitted] at hdone
            cases hdone
        simp only [release, hwritten, Nat.add_sub_cancel, Bool.or_false, if_neg halive,
          Table.set_set, Table.set_of_find? hfind]
      · cases hok

/-- What closing a reservation does to what is known of packages. -/
theorem known?_release (r : Reservations) (package : String) (committed : Bool) (p : String) :
    (r.release package committed).known? p =
      if p = package then
        (r.known? p).bind fun entry =>
          if entry.pending - 1 = 0 ∧ (entry.committed || committed) = false then none
          else some ⟨entry.certificates, entry.pending - 1, entry.committed || committed⟩
      else r.known? p := by
  unfold release
  cases hfind : r.entries.find? package with
  | none =>
      by_cases hp : p = package
      · subst hp
        rw [if_pos rfl, show r.known? p = none from hfind, Option.bind_none]
      · rw [if_neg hp]
  | some entry =>
      dsimp only
      by_cases hp : p = package
      · subst hp
        rw [if_pos rfl, show r.known? p = some entry from hfind, Option.bind_some]
        split
        · rw [known?_erase, if_pos rfl]
        · rw [known?_set, if_pos rfl]
      · rw [if_neg hp]
        split
        · rw [known?_erase, if_neg hp]
        · rw [known?_set, if_neg hp]

/-- Closing a reservation leaves no entry over. -/
theorem Tidy.release (h : r.Tidy) (package : String) (committed : Bool) :
    (r.release package committed).Tidy := by
  refine ⟨?_, fun p entry hfind => ?_⟩
  · unfold Reservations.release
    cases r.entries.find? package with
    | none => exact h.keys
    | some entry =>
        dsimp only
        split
        · exact Table.nodup_keys_erase h.keys package
        · exact Table.nodup_keys_set h.keys package _
  · rw [known?_release] at hfind
    split at hfind
    · obtain ⟨old, -, hentry⟩ := Option.bind_eq_some_iff.1 hfind
      split at hentry
      · cases hentry
      · rename_i hleft
        obtain rfl := Option.some.inj hentry
        rw [not_and_or, Bool.not_eq_false] at hleft
        exact hleft.imp_left fun hpos => Nat.pos_of_ne_zero hpos
    · exact h.alive p entry hfind

/-- One reservation less is open. -/
theorem openFor_release (r : Reservations) (package : String) (committed : Bool) (p : String) :
    (r.release package committed).openFor p =
      if p = package then r.openFor p - 1 else r.openFor p := by
  unfold openFor
  rw [known?_release]
  by_cases hp : p = package
  · simp only [hp, if_true]
    cases hfind : r.known? package with
    | none => rfl
    | some entry =>
        rw [Option.bind_some]
        split
        · rename_i hlast
          exact hlast.1.symm
        · rfl
  · simp only [hp, if_false]

/-- Of the package of an open reservation, more is known than the reservation, if
anything was known at the beginning. -/
theorem Reserved.lasting (h : Reserved r₁ package signers r₂) {old entry : PackageSigners}
    (hold : r₁.known? package = some old) (hentry : r₂.known? package = some entry)
    (hcommitted : old.committed = true → entry.committed = true) :
    ¬ (entry.pending - 1 = 0 ∧ entry.committed = false) := by
  rintro ⟨hlast, hopen⟩
  have hpending : entry.pending = old.pending + 1 := by
    have hmore := h.openFor package
    unfold Reservations.openFor at hmore
    rw [hold, hentry, if_pos rfl] at hmore
    exact hmore
  rcases h.tidy.alive package old hold with hpos | hold_committed
  · omega
  · rw [hcommitted hold_committed] at hopen
    cases hopen

/-- Closing an open reservation ends an attempt. -/
theorem Reserved.release (h : Reserved r₁ package signers r₂) (committed : Bool) :
    Later r₁ (r₂.release package committed) where
  openFor p := by
    rw [openFor_release, h.openFor p]
    split
    · exact Nat.add_sub_cancel ..
    · rfl
  kept := by
    intro p old hold
    obtain ⟨entry, hentry, hcertificates, hcommitted⟩ := h.kept p old hold
    rw [known?_release]
    by_cases hp : p = package
    · subst hp
      have hlasting := h.lasting hold hentry hcommitted
      have hleft : ¬ (entry.pending - 1 = 0 ∧ (entry.committed || committed) = false) := by
        rintro ⟨hlast, hnone⟩
        exact hlasting ⟨hlast, (Bool.or_eq_false_iff.1 hnone).1⟩
      rw [if_pos rfl, hentry, Option.bind_some, if_neg hleft]
      exact ⟨_, rfl, hcertificates, fun hold => by rw [hcommitted hold, Bool.true_or]⟩
    · rw [if_neg hp]
      exact ⟨entry, hentry, hcertificates, hcommitted⟩

/-- An attempt that succeeds makes its signers permanent. -/
theorem Reserved.known?_commit (h : Reserved r₁ package signers r₂) :
    ∃ entry, (r₂.release package true).known? package = some entry ∧
      entry.certificates.matches signers = true := by
  obtain ⟨entry, hfind, hmatches⟩ := h.reserved
  refine ⟨⟨entry.certificates, entry.pending - 1, true⟩, ?_, hmatches⟩
  rw [known?_release, if_pos rfl, hfind, Option.bind_some, Bool.or_true, if_neg (by simp)]

/-- Closing a reservation commits its package, or nothing. -/
theorem committed_release (committed : Bool) {p : String} :
    Committed (r.release package committed) p ↔
      Committed r p ∨ committed = true ∧ p = package ∧ (r.known? package).isSome = true := by
  unfold Committed
  rw [known?_release]
  by_cases hp : p = package
  · subst hp
    rw [if_pos rfl]
    cases hfind : r.known? p with
    | none => simp
    | some entry => cases hcommitted : entry.committed <;> cases committed <;> simp_all
  · rw [if_neg hp]
    simp [hp]

/-- The signers of a package are not replaced when a reservation is closed, if anything
is still known of it. -/
theorem certificatesFor?_release_of_isSome {committed : Bool} {p : String}
    (h : ((r.release package committed).known? p).isSome = true) :
    (r.release package committed).certificatesFor? p = r.certificatesFor? p := by
  show ((r.release package committed).known? p).map (·.certificates) =
    (r.known? p).map (·.certificates)
  rw [known?_release] at h ⊢
  split
  · rename_i hp
    rw [if_pos hp] at h
    cases hfind : r.known? p with
    | none => rfl
    | some entry =>
        rw [hfind, Option.bind_some] at h
        rw [Option.bind_some]
        split
        · rename_i hlast
          rw [if_pos hlast] at h
          cases h
        · rfl
  · rfl

/-- The signers of a committed package are not replaced when a reservation is
closed. -/
theorem certificatesFor?_release {p : String} {c : CertificateSet} (hcommitted : r.Committed p)
    (h : r.certificatesFor? p = some c) (committed : Bool) :
    (r.release package committed).certificatesFor? p = some c := by
  have hlater : (r.release package committed).Committed p :=
    (committed_release committed).2 (.inl hcommitted)
  obtain ⟨entry, hfind, -⟩ := hlater
  rw [certificatesFor?_release_of_isSome (by rw [hfind]; rfl), h]

/-- The same is committed, with the same signers. -/
structure Unchanged (r r' : Reservations) : Prop where
  /-- No entry is left over. -/
  tidy : r'.Tidy
  /-- The same packages are committed. -/
  committed : ∀ {package}, r'.Committed package ↔ r.Committed package
  /-- They have the same signers. -/
  certificates : ∀ {package c}, r.Committed package → r.certificatesFor? package = some c →
    r'.certificatesFor? package = some c

theorem Unchanged.refl (h : r.Tidy) : Unchanged r r :=
  ⟨h, Iff.rfl, fun _ hc => hc⟩

/-- A reservation that is granted changes nothing about committed packages. -/
theorem Unchanged.reserve (h : r.Tidy) (hok : (r.reserve name signers).1 = .ok package) :
    Unchanged r (r.reserve name signers).2 :=
  ⟨((Later.refl r).reserve h h hok).1, committed_reserve, fun _ => certificatesFor?_reserve⟩

/-- Neither does one that is dropped. -/
theorem Unchanged.drop (h : r.Tidy) (package : String) : Unchanged r (r.release package false) := by
  refine ⟨h.release package false, ?_, fun hcommitted hc =>
    certificatesFor?_release hcommitted hc false⟩
  intro p
  rw [committed_release]
  simp

/-! ## Packages -/

/-- The packages are those with a committed definition. -/
theorem Tidy.mem_packages (h : r.Tidy) : package ∈ r.packages ↔ r.Committed package := by
  unfold packages Committed
  rw [List.mem_mergeSort, List.mem_map]
  constructor
  · rintro ⟨⟨p, entry⟩, hmem, rfl⟩
    obtain ⟨hmem, hcommitted⟩ := List.mem_filter.1 hmem
    exact ⟨entry, (Table.find?_eq_some_iff h.keys).2 hmem, hcommitted⟩
  · rintro ⟨entry, hfind, hcommitted⟩
    have hmem := (Table.find?_eq_some_iff h.keys).1 hfind
    exact ⟨(package, entry), List.mem_filter.2 ⟨hmem, hcommitted⟩, rfl⟩

/-- The packages are in order, each once. -/
theorem Tidy.pairwise_packages (h : r.Tidy) : r.packages.Pairwise (· < ·) := by
  have hsorted : r.packages.Pairwise fun p q => decide (p ≤ q) = true := by
    apply List.pairwise_mergeSort
    · intro p q t hpq hqt
      rw [decide_eq_true_eq] at hpq hqt ⊢
      exact String.le_trans hpq hqt
    · intro p q
      rw [Bool.or_eq_true, decide_eq_true_eq, decide_eq_true_eq]
      exact String.le_total p q
  have hnodup : r.packages.Nodup := by
    refine (List.mergeSort_perm _ _).nodup_iff.2 ?_
    exact List.Nodup.sublist (List.filter_sublist.map _) h.keys
  refine (hsorted.and hnodup).imp ?_
  rintro p q ⟨hle, hne⟩
  rw [decide_eq_true_eq] at hle
  rw [← String.not_le]
  exact fun hge => hne (String.le_antisymm hle hge)

end Reservations
end Loading
