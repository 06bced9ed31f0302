import Loading.Proofs.Signers.Reservations
import Mathlib.Data.List.Perm.Basic

/-!
# Reservations over whole runs

Any number of reservations may be open at once, and each is closed once, in whatever
order, by being committed or by being dropped.  A `Desk` is a registry of signers
together with the tickets for the reservations that it has granted: those that are
outstanding, and those that have been committed.  The registry itself keeps only a
count and a mark for each package; this file shows that these never go astray.

* `Desk.run` — a desk after any moves.
* `Desk.Balanced` — what the registry knows is what the tickets say, after every move.
* `Desk.certificatesFor?_run` — the signers of a package stay while it has an entry.
* `reservations_reckoned` — what can be relied on in every run.
-/

namespace Loading

open Reservations

/-- What was granted with a reservation. -/
structure Ticket where
  /-- The package that it is for. -/
  package : String
  /-- The signers that were offered. -/
  signers : CertificateSet
  deriving Repr, DecidableEq, Inhabited

/-- A registry of signers with the tickets for its reservations. -/
structure Desk where
  /-- The registry. -/
  registry : Reservations := {}
  /-- The reservations that are open, oldest first. -/
  outstanding : List Ticket := []
  /-- The reservations that have been committed, newest first. -/
  committed : List Ticket := []
  deriving Repr, DecidableEq, Inhabited

/-- What can be done at a desk. -/
inductive DeskMove where
  /-- Ask for a reservation for a module with its signers. -/
  | reserve (name : Name) (signers : CertificateSet)
  /-- Commit an outstanding reservation, known by its place. -/
  | commit (i : Nat)
  /-- Drop an outstanding reservation. -/
  | drop (i : Nat)
  deriving Repr, DecidableEq

namespace Desk

/-- Asks for a reservation; a ticket is handed out if it is granted. -/
def reserve (d : Desk) (name : Name) (signers : CertificateSet) : Desk :=
  match d.registry.reserve name signers with
  | (.ok package, r) =>
      { d with registry := r, outstanding := d.outstanding ++ [⟨package, signers⟩] }
  | (.error _, r) => { d with registry := r }

/-- Closes the reservation of a ticket, which is outstanding no longer. -/
def close (d : Desk) (i : Nat) (success : Bool) : Desk :=
  match d.outstanding[i]? with
  | none => d
  | some t =>
      { registry := if success then d.registry.commit t.package else d.registry.drop t.package
        outstanding := d.outstanding.eraseIdx i
        committed := if success then t :: d.committed else d.committed }

/-- The desk after a move; where there is no such ticket, nothing is closed. -/
def perform (d : Desk) : DeskMove → Desk
  | .reserve name signers => d.reserve name signers
  | .commit i => d.close i true
  | .drop i => d.close i false

/-- The desk after some moves. -/
def after (d : Desk) (moves : List DeskMove) : Desk :=
  moves.foldl perform d

/-- The desk after some moves, from a registry without entries. -/
def run (moves : List DeskMove) : Desk :=
  after {} moves

/-- How many reservations of a package are outstanding. -/
def openCount (d : Desk) (package : String) : Nat :=
  d.outstanding.countP fun t => t.package = package

/-! ## Single moves -/

variable {d : Desk} {package : String} {name : Name} {signers : CertificateSet}

/-- Asking for a reservation changes nothing, or it opens one more. -/
theorem reserve_cases (d : Desk) (name : Name) (signers : CertificateSet) :
    d.reserve name signers = d ∨
      (d.registry.reserve name signers).1 = .ok name.package ∧
        d.reserve name signers =
          { d with
            registry := (d.registry.reserve name signers).2
            outstanding := d.outstanding ++ [⟨name.package, signers⟩] } := by
  unfold reserve
  rcases Reservations.reserve_cases d.registry name signers with ⟨e, heq⟩ | ⟨entry, heq, -⟩
  · left
    rw [heq]
  · right
    rw [heq]
    exact ⟨rfl, rfl⟩

/-- Where there is no such ticket, nothing is closed. -/
theorem close_of_none {i : Nat} (h : d.outstanding[i]? = none) (success : Bool) :
    d.close i success = d := by
  unfold close
  rw [h]

/-- Closing takes a ticket from those outstanding. -/
theorem close_of_some {i : Nat} {t : Ticket} (h : d.outstanding[i]? = some t) (success : Bool) :
    d.close i success =
      ⟨d.registry.release t.package success, d.outstanding.eraseIdx i,
        if success then t :: d.committed else d.committed⟩ := by
  unfold close
  rw [h]
  cases success <;> rfl

/-- A ticket that is closed was counted, and no other one was. -/
theorem openCount_close {i : Nat} {t : Ticket} (h : d.outstanding[i]? = some t) (success : Bool)
    (package : String) :
    d.openCount package =
      (d.close i success).openCount package + if t.package = package then 1 else 0 := by
  rw [close_of_some h]
  obtain ⟨hi, rfl⟩ := List.getElem?_eq_some_iff.1 h
  have hperm := List.getElem_cons_eraseIdx_perm hi
  unfold openCount
  rw [← hperm.countP_eq, List.countP_cons]
  simp

/-! ## What the registry knows -/

/-- What the registry knows is what the tickets say. -/
structure Balanced (d : Desk) : Prop where
  /-- No entry is left over. -/
  tidy : d.registry.Tidy
  /-- As many reservations are counted as are outstanding. -/
  counted : ∀ package, d.registry.openFor package = d.openCount package
  /-- Just the packages of committed tickets are marked. -/
  committed_iff : ∀ package,
    d.registry.Committed package ↔ ∃ t ∈ d.committed, t.package = package
  /-- The signers of every ticket match those of its package. -/
  matching : ∀ t, t ∈ d.outstanding ∨ t ∈ d.committed → ∃ c,
    d.registry.certificatesFor? t.package = some c ∧ c.matches t.signers = true

theorem openCount_pos {t : Ticket} (h : t ∈ d.outstanding) : 0 < d.openCount t.package :=
  List.countP_pos_iff.2 ⟨t, h, by simp⟩

theorem mem_of_openCount_pos (h : 0 < d.openCount package) :
    ∃ t ∈ d.outstanding, t.package = package := by
  obtain ⟨t, ht, hp⟩ := List.countP_pos_iff.1 h
  exact ⟨t, ht, by simpa using hp⟩

theorem isSome_of_openFor_pos {r : Reservations} (h : 0 < r.openFor package) :
    (r.known? package).isSome = true := by
  unfold openFor at h
  cases hfind : r.known? package with
  | none =>
      rw [hfind] at h
      exact absurd h (Nat.lt_irrefl 0)
  | some entry => rfl

namespace Balanced

/-- At the beginning nothing is known and no ticket is out. -/
theorem start : Balanced {} where
  tidy := .empty
  counted _ := rfl
  committed_iff package := by simp [Committed, known?, Table.find?]
  matching t ht := by simp at ht

theorem reserve (h : d.Balanced) (name : Name) (signers : CertificateSet) :
    (d.reserve name signers).Balanced := by
  rcases reserve_cases d name signers with heq | ⟨hok, heq⟩
  · rw [heq]
    exact h
  · rw [heq]
    -- From the registry as it is, one attempt is made, and its reservation is still open.
    obtain ⟨htidy, hreserved⟩ := (Later.refl d.registry).reserve h.tidy h.tidy hok
    refine ⟨htidy, fun p => ?_, fun p => committed_reserve.trans (h.committed_iff p), ?_⟩
    · have hcount := h.counted p
      have hmore := hreserved.openFor p
      unfold openCount at hcount ⊢
      rw [List.countP_append, List.countP_singleton, hmore, hcount]
      by_cases hp : p = name.package
      · simp [hp]
      · have hp' : name.package ≠ p := fun hpq => hp hpq.symm
        simp [hp, hp']
    · intro t ht
      have hcases : (t ∈ d.outstanding ∨ t ∈ d.committed) ∨ t = ⟨name.package, signers⟩ := by
        rcases ht with ht | ht
        · exact (List.mem_append.1 ht).imp Or.inl List.mem_singleton.1
        · exact Or.inl (Or.inr ht)
      rcases hcases with ht | rfl
      · obtain ⟨c, hc, hmatches⟩ := h.matching t ht
        exact ⟨c, certificatesFor?_reserve hc, hmatches⟩
      · obtain ⟨entry, hfind, hmatches⟩ := hreserved.reserved
        refine ⟨entry.certificates, ?_, hmatches⟩
        show (known? _ _).map _ = _
        rw [hfind]
        rfl

theorem close (h : d.Balanced) (i : Nat) (success : Bool) : (d.close i success).Balanced := by
  cases ht : d.outstanding[i]? with
  | none =>
      rw [close_of_none ht]
      exact h
  | some t =>
      have hmem : t ∈ d.outstanding := List.mem_of_getElem? ht
      have hknown : (d.registry.known? t.package).isSome = true := by
        obtain ⟨c, hc, -⟩ := h.matching t (Or.inl hmem)
        obtain ⟨entry, hfind, -⟩ := Option.map_eq_some_iff.1 hc
        exact Option.isSome_of_eq_some hfind
      have hcounted : ∀ p, (d.close i success).registry.openFor p =
          (d.close i success).openCount p := by
        intro p
        have hcount := (h.counted p).trans (openCount_close ht success p)
        have hrelease : (d.close i success).registry = d.registry.release t.package success := by
          rw [close_of_some ht]
        rw [hrelease, openFor_release]
        by_cases hp : p = t.package
        · rw [if_pos hp.symm] at hcount
          rw [if_pos hp, hcount, Nat.add_sub_cancel]
        · rw [if_neg fun hpt => hp hpt.symm] at hcount
          rw [if_neg hp, hcount, Nat.add_zero]
      rw [close_of_some ht] at hcounted ⊢
      have hcommitted : ∀ p, (d.registry.release t.package success).Committed p ↔
          ∃ u ∈ if success then t :: d.committed else d.committed, u.package = p := by
        intro p
        rw [committed_release, h.committed_iff]
        cases success with
        | false => simp
        | true => simp [hknown, or_comm, eq_comm]
      refine ⟨h.tidy.release t.package success, hcounted, hcommitted, fun u hu => ?_⟩
      -- A ticket that is left keeps the entry of its package, and so its signers.
      have hleft : ((d.registry.release t.package success).known? u.package).isSome = true := by
        rcases hu with hu | hu
        · exact isSome_of_openFor_pos ((hcounted u.package).symm ▸ openCount_pos hu)
        · obtain ⟨entry, hfind, -⟩ := (hcommitted u.package).2 ⟨u, hu, rfl⟩
          exact Option.isSome_of_eq_some hfind
      have hold : u ∈ d.outstanding ∨ u ∈ d.committed := by
        rcases hu with hu | hu
        · exact Or.inl (List.mem_of_mem_eraseIdx hu)
        · cases success with
          | false => exact Or.inr hu
          | true =>
              rcases List.mem_cons.1 hu with rfl | hu
              · exact Or.inl hmem
              · exact Or.inr hu
      obtain ⟨c, hc, hmatches⟩ := h.matching u hold
      exact ⟨c, (certificatesFor?_release_of_isSome hleft).trans hc, hmatches⟩

theorem perform (h : d.Balanced) (mv : DeskMove) : (d.perform mv).Balanced := by
  cases mv with
  | reserve name signers => exact h.reserve name signers
  | commit i => exact h.close i true
  | drop i => exact h.close i false

theorem after (h : d.Balanced) (moves : List DeskMove) : (d.after moves).Balanced := by
  induction moves generalizing d with
  | nil => exact h
  | cons mv rest ih => exact ih (h.perform mv)

theorem run (moves : List DeskMove) : (run moves).Balanced :=
  start.after moves

/-- A package has an entry exactly when a ticket for it is out or was committed. -/
theorem known?_isSome_iff (h : d.Balanced) (package : String) :
    (d.registry.known? package).isSome = true ↔
      (∃ t ∈ d.committed, t.package = package) ∨ ∃ t ∈ d.outstanding, t.package = package := by
  constructor
  · intro hknown
    obtain ⟨entry, hfind⟩ := Option.isSome_iff_exists.1 hknown
    rcases h.tidy.alive package entry hfind with hpos | hmarked
    · have hopen : 0 < d.registry.openFor package := by
        unfold openFor
        rw [hfind]
        exact hpos
      exact Or.inr (mem_of_openCount_pos (h.counted package ▸ hopen))
    · exact Or.inl ((h.committed_iff package).1 ⟨entry, hfind, hmarked⟩)
  · rintro (⟨t, ht, rfl⟩ | ⟨t, ht, rfl⟩)
    · obtain ⟨entry, hfind, -⟩ := (h.committed_iff t.package).2 ⟨t, ht, rfl⟩
      exact Option.isSome_of_eq_some hfind
    · exact isSome_of_openFor_pos ((h.counted t.package).symm ▸ openCount_pos ht)

/-- The last ticket of a package that was never committed takes the entry with it. -/
theorem known?_close (h : d.Balanced) {i : Nat} {t : Ticket} (ht : d.outstanding[i]? = some t)
    (hlast : d.openCount t.package = 1) (hnever : ∀ u ∈ d.committed, u.package ≠ t.package) :
    (d.close i false).registry.known? t.package = none := by
  have hclosed := h.close i false
  rw [← Option.not_isSome_iff_eq_none, hclosed.known?_isSome_iff]
  rintro (⟨u, hu, hp⟩ | ⟨u, hu, hp⟩)
  · rw [close_of_some ht] at hu
    exact hnever u hu hp
  · have hleft : 0 < (d.close i false).openCount t.package := hp ▸ openCount_pos hu
    have hcount := openCount_close ht false t.package
    rw [if_pos rfl] at hcount
    omega

/-- Two tickets of one package have signers that match. -/
theorem matches_of_package (h : d.Balanced) {t u : Ticket}
    (ht : t ∈ d.outstanding ∨ t ∈ d.committed) (hu : u ∈ d.outstanding ∨ u ∈ d.committed)
    (hpackage : t.package = u.package) : t.signers.matches u.signers = true := by
  obtain ⟨c, hc, hmatches⟩ := h.matching t ht
  obtain ⟨c', hc', hmatches'⟩ := h.matching u hu
  rw [hpackage, hc'] at hc
  obtain rfl := Option.some.inj hc
  exact CertificateSet.matches_trans (CertificateSet.matches_symm hmatches) hmatches'

end Balanced

/-! ## What stays -/

/-- A move that leaves an entry leaves its signers. -/
theorem certificatesFor?_perform {c : CertificateSet} (mv : DeskMove)
    (hc : d.registry.certificatesFor? package = some c)
    (hleft : ((d.perform mv).registry.known? package).isSome = true) :
    (d.perform mv).registry.certificatesFor? package = some c := by
  have hclose : ∀ i success, ((d.close i success).registry.known? package).isSome = true →
      (d.close i success).registry.certificatesFor? package = some c := by
    intro i success hleft
    cases ht : d.outstanding[i]? with
    | none => rwa [close_of_none ht]
    | some t =>
        rw [close_of_some ht] at hleft ⊢
        exact (certificatesFor?_release_of_isSome hleft).trans hc
  cases mv with
  | reserve name signers =>
      rcases reserve_cases d name signers with heq | ⟨-, heq⟩
      · rwa [perform, heq]
      · rw [perform, heq]
        exact certificatesFor?_reserve hc
  | commit i => exact hclose i true hleft
  | drop i => exact hclose i false hleft

/-- While a package has an entry, its signers stay. -/
theorem certificatesFor?_after {c : CertificateSet} (moves : List DeskMove)
    (hc : d.registry.certificatesFor? package = some c)
    (hleft : ∀ between, between <+: moves →
      ((d.after between).registry.known? package).isSome = true) :
    (d.after moves).registry.certificatesFor? package = some c := by
  induction moves generalizing d with
  | nil => exact hc
  | cons mv rest ih =>
      have hnext := certificatesFor?_perform mv hc (hleft [mv] ⟨rest, rfl⟩)
      refine ih hnext fun between hbetween => ?_
      exact hleft (mv :: between) (List.cons_prefix_cons.2 ⟨rfl, hbetween⟩)

/-- What was committed stays committed. -/
theorem committed_subset_after (d : Desk) (moves : List DeskMove) :
    d.committed ⊆ (d.after moves).committed := by
  induction moves generalizing d with
  | nil => exact List.Subset.refl _
  | cons mv rest ih =>
      refine List.Subset.trans ?_ (ih (d.perform mv))
      have hclose : ∀ i success, d.committed ⊆ (d.close i success).committed := by
        intro i success
        cases ht : d.outstanding[i]? with
        | none => rw [close_of_none ht]; exact List.Subset.refl _
        | some t =>
            rw [close_of_some ht]
            cases success with
            | false => exact List.Subset.refl _
            | true => exact List.subset_cons_self _ _
      cases mv with
      | reserve name signers =>
          rcases reserve_cases d name signers with heq | ⟨-, heq⟩ <;> rw [perform, heq] <;>
            exact List.Subset.refl _
      | commit i => exact hclose i true
      | drop i => exact hclose i false

/-- A package that was committed once has an entry for ever after. -/
theorem Balanced.known?_after (h : d.Balanced) (hcommitted : d.registry.Committed package)
    (moves : List DeskMove) : ((d.after moves).registry.known? package).isSome = true := by
  obtain ⟨t, ht, hp⟩ := (h.committed_iff package).1 hcommitted
  exact ((h.after moves).known?_isSome_iff package).2
    (Or.inl ⟨t, committed_subset_after d moves ht, hp⟩)

/-! ## What can be relied on -/

/-- How the entries of a registry go with the tickets, and what becomes of the next
move. -/
structure Reckoned (d : Desk) : Prop where
  /-- A package has an entry exactly when a ticket for it was committed or is
  outstanding. -/
  entry_iff : ∀ package, (d.registry.known? package).isSome = true ↔
    (∃ t ∈ d.committed, t.package = package) ∨ ∃ t ∈ d.outstanding, t.package = package
  /-- An entry counts the tickets that are outstanding. -/
  pending : ∀ package entry, d.registry.known? package = some entry →
    entry.pending = d.openCount package
  /-- A reservation that can be closed has been counted. -/
  closable : ∀ t ∈ d.outstanding, ∃ entry,
    d.registry.known? t.package = some entry ∧ 0 < entry.pending
  /-- A reservation is refused exactly when other signers are known of the package. -/
  refused_iff : ∀ name signers, (∃ e, (d.registry.reserve name signers).1 = .error e) ↔
    ∃ c, d.registry.certificatesFor? name.package = some c ∧ c.matches signers = false
  /-- A refusal says so, and changes nothing. -/
  refusal : ∀ name signers e, (d.registry.reserve name signers).1 = .error e →
    e = .signerMismatch name name.package ∧ (d.registry.reserve name signers).2 = d.registry
  /-- All signers that were offered for a package match. -/
  alike : ∀ t u, t ∈ d.outstanding ∨ t ∈ d.committed → u ∈ d.outstanding ∨ u ∈ d.committed →
    t.package = u.package → t.signers.matches u.signers = true
  /-- The packages are listed in order, each once. -/
  sorted : d.registry.packages.Pairwise (· < ·)
  /-- They are those of the tickets that were committed. -/
  packages_iff : ∀ package, package ∈ d.registry.packages ↔
    ∃ t ∈ d.committed, t.package = package
  /-- When the only ticket of a package is dropped, any signers will do for it. -/
  forgotten : ∀ i t, d.outstanding[i]? = some t → d.openCount t.package = 1 →
    (∀ u ∈ d.committed, u.package ≠ t.package) → ∀ name signers, name.package = t.package →
      ((d.perform (.drop i)).registry.reserve name signers).1 = .ok t.package

theorem Balanced.reckoned (h : d.Balanced) : d.Reckoned where
  entry_iff := h.known?_isSome_iff
  pending package entry hfind := by
    have hcount := h.counted package
    unfold openFor at hcount
    rwa [hfind] at hcount
  closable t ht := by
    have hpos := openCount_pos ht
    rw [← h.counted] at hpos
    obtain ⟨entry, hfind⟩ := Option.isSome_iff_exists.1 (isSome_of_openFor_pos hpos)
    unfold openFor at hpos
    rw [hfind] at hpos
    exact ⟨entry, hfind, hpos⟩
  refused_iff name signers := by
    constructor
    · rintro ⟨e, he⟩
      exact (refused_of_reserve he).2
    · rintro ⟨c, hc, hdiffer⟩
      refine ⟨.signerMismatch name name.package, ?_⟩
      rw [reserve_fst, hc]
      exact if_neg (by rw [hdiffer]; exact Bool.false_ne_true)
  refusal name signers e he := ⟨(refused_of_reserve he).1, reserve_error he⟩
  alike t u := h.matches_of_package
  sorted := h.tidy.pairwise_packages
  packages_iff package := h.tidy.mem_packages.trans (h.committed_iff package)
  forgotten i t ht hlast hnever name signers hname := by
    have hnone : (d.perform (.drop i)).registry.certificatesFor? name.package = none := by
      rw [hname]
      exact congrArg (Option.map _) (h.known?_close ht hlast hnever)
    rw [reserve_fst, hnone, hname]

/-- In every run, however reservations are opened and closed: the entries are those of
the tickets, and the signers of a package stay for as long as it has an entry, which is
for ever once a reservation for it was committed. -/
theorem reservations_reckoned (moves : List DeskMove) :
    (run moves).Reckoned ∧ ∀ more package c,
      (run moves).registry.certificatesFor? package = some c →
      ((run moves).registry.Committed package ∨ ∀ between, between <+: more →
        (((run moves).after between).registry.known? package).isSome = true) →
      ((run moves).after more).registry.certificatesFor? package = some c := by
  have hbalanced : (run moves).Balanced := .run moves
  refine ⟨hbalanced.reckoned, fun more package c hc hkept => ?_⟩
  refine certificatesFor?_after more hc fun between hbetween => ?_
  rcases hkept with hcommitted | hleft
  · exact hbalanced.known?_after hcommitted between
  · exact hleft between hbetween

/-! ## The first of two reservations is dropped -/

/-- Some signers. -/
def someSigners : CertificateSet := ⟨[⟨[65]⟩]⟩

/-- Two reservations of one package are open at once; the first is dropped, and the
second is committed after that. -/
def crossing : List DeskMove :=
  [.reserve "a.B" someSigners, .reserve "a.C" someSigners, .drop 0, .commit 0]

/-- The signers that were reserved first stay when the first reservation is dropped, and
when others are offered later. -/
theorem reservations_reckoned_crossing :
    (run crossing).Reckoned ∧ (run crossing).committed = [⟨"a", someSigners⟩] ∧
      ((run crossing).registry.reserve "a.D" .unsigned).1 =
        .error (.signerMismatch "a.D" "a") ∧
      ((run crossing).after [.reserve "a.D" .unsigned]).registry.certificatesFor? "a" =
        some someSigners := by
  have hcommitted : (run crossing).registry.Committed "a" :=
    ⟨⟨someSigners, 0, true⟩, by decide, rfl⟩
  have hsigners : (run crossing).registry.certificatesFor? "a" = some someSigners := by decide
  obtain ⟨hreckoned, hstays⟩ := reservations_reckoned crossing
  exact ⟨hreckoned, by decide, by decide, hstays _ "a" someSigners hsigners (Or.inl hcommitted)⟩

end Desk
end Loading
