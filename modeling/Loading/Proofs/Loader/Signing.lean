import Loading.Proofs.Loader.OperationPreservation

/-!
# Packages are signed alike

All modules of a package that one loader defines carry signers that match.  The
signers are reserved for the package before a module is entered, and given to the
module when it is, so what has to be kept up ties three things together: the
reservations, the modules that are defined, and the signers that have been given
to them.  Definers are taken to make new modules without signers.

* `SignedWell` — how reservations, modules and signers belong together.
* `Undisturbed` — what other operations leave alone meanwhile.
* `signed_alike` — at every time, packages are signed alike.
-/

namespace Loading

open Service LoaderMoment Reservations

/-- The signers of a module, none if none were set. -/
def Loaders.signersOf (s : Loaders) (m : Module) : CertificateSet :=
  (s.ledger.signers? m).getD .unsigned

namespace LoaderMoment

/-- A definer has made a module of a number. -/
def Produced (m : LoaderMoment) (serial : Nat) : Prop :=
  ∃ x ∈ m.past, ∃ key request module,
    x.event = .answered (.produce key request) (.ok module) ∧ module.serial = serial

/-- The numbers of the modules that definers have made, newest first. -/
def producedSerials (m : LoaderMoment) : List Nat :=
  m.past.filterMap fun x =>
    match x.event with
    | .answered (.produce _ _) (.ok module) => some module.serial
    | _ => none

theorem mem_producedSerials (m : LoaderMoment) (serial : Nat) :
    serial ∈ producedSerials m ↔ Produced m serial := by
  unfold producedSerials Produced
  rw [List.mem_filterMap]
  constructor
  · rintro ⟨x, hx, hserial⟩
    split at hserial
    · rename_i key request module hevent
      exact ⟨x, hx, key, request, module, hevent, Option.some.inj hserial⟩
    · cases hserial
  · rintro ⟨x, hx, key, request, module, hevent, rfl⟩
    exact ⟨x, hx, by rw [hevent]⟩

instance (m : LoaderMoment) (serial : Nat) : Decidable (Produced m serial) :=
  decidable_of_iff _ (mem_producedSerials m serial)

/-- Definers make new modules, without signers. -/
def freshModules (m : LoaderMoment) : (q : LoaderQuestion) → q.Answer → Prop
  | .produce _ _, .ok module =>
      ¬ Produced m module.serial ∧ m.state.ledger.signers? module = none
  | _, _ => True

/-- How the reservations, the modules that are defined and their signers belong
together. -/
structure SignedWell (m : LoaderMoment) : Prop where
  /-- No entry is left over. -/
  tidy : ∀ id, (m.state.tablesOf id).signers.Tidy
  /-- Just the packages of modules that are defined have been committed. -/
  committed_iff : ∀ id package, (m.state.tablesOf id).signers.Committed package ↔
    ∃ module ∈ m.state.defined id, module.package = package
  /-- The signers of a module match those of its package. -/
  matching : ∀ id, ∀ module ∈ m.state.defined id, ∃ c,
    (m.state.tablesOf id).signers.certificatesFor? module.package = some c ∧
      c.matches (m.state.signersOf module) = true
  /-- What is defined was made by a definer. -/
  produced : ∀ id, ∀ module ∈ m.state.defined id, Produced m module.serial

/-- Modules that had been made before are left alone, and the reservations of each
loader are related in some way. -/
structure Undisturbed (R : LoaderId → Reservations → Reservations → Prop) (b m : LoaderMoment) :
    Prop where
  /-- The one moment lies before the other. -/
  past : b.past <:+ m.past
  /-- What has become of the reservations. -/
  reservations : ∀ id, R id (b.state.tablesOf id).signers (m.state.tablesOf id).signers
  /-- Modules that had been made have the same signers. -/
  signers : ∀ module, Produced b module.serial →
    m.state.ledger.signers? module = b.state.ledger.signers? module
  /-- Modules that had been made have not been defined since. -/
  defined : ∀ id, ∀ module ∈ m.state.defined id,
    module ∈ b.state.defined id ∨ ¬ Produced b module.serial

/-- Whole attempts have been made to define modules. -/
def attempts : LoaderId → Reservations → Reservations → Prop :=
  fun _ => Later

/-- Of the attempts to define modules, one has its reservation open. -/
def attempting (id : LoaderId) (package : String) (signers : CertificateSet) :
    LoaderId → Reservations → Reservations → Prop :=
  fun k r r' => if k = id then Reserved r package signers r' else Later r r'

variable {b m m' : LoaderMoment} {module : Module}

theorem Produced.later {serial : Nat} (h : Produced b serial) (hpast : b.past <:+ m.past) :
    Produced m serial := by
  obtain ⟨x, hx, hevent⟩ := h
  exact ⟨x, hpast.subset hx, hevent⟩

/-! ## What keeps packages well signed -/

/-- Modules that are defined have the same signers at a moment to which their numbers
have been left alone. -/
theorem SignedWell.step (h : SignedWell m) (hpast : m.past <:+ m'.past)
    (hdefined : ∀ id, m'.state.defined id = m.state.defined id)
    (hsigners : ∀ x, m'.state.ledger.signers? x = m.state.ledger.signers? x)
    (hreservations : ∀ id, Unchanged (m.state.tablesOf id).signers (m'.state.tablesOf id).signers) :
    SignedWell m' where
  tidy id := (hreservations id).tidy
  committed_iff id package := by
    rw [(hreservations id).committed, h.committed_iff, hdefined]
  matching id x hx := by
    rw [hdefined] at hx
    obtain ⟨c, hc, hmatches⟩ := h.matching id x hx
    have hcommitted := (h.committed_iff id x.package).2 ⟨x, hx, rfl⟩
    refine ⟨c, (hreservations id).certificates hcommitted hc, ?_⟩
    unfold Loaders.signersOf
    rw [hsigners]
    exact hmatches
  produced id x hx := by
    rw [hdefined] at hx
    exact (h.produced id x hx).later hpast

theorem Undisturbed.refl (m : LoaderMoment) : Undisturbed attempts m m :=
  ⟨List.suffix_refl _, fun _ => .refl _, fun _ _ => rfl, fun _ _ h => Or.inl h⟩

/-- What is left alone twice is left alone, whatever becomes of the reservations. -/
theorem Undisturbed.trans {R R' R'' : LoaderId → Reservations → Reservations → Prop}
    {a : LoaderMoment} (h₁ : Undisturbed R a b) (h₂ : Undisturbed R' b m)
    (hR : ∀ {id r₁ r₂ r₃}, R id r₁ r₂ → R' id r₂ r₃ → R'' id r₁ r₃) : Undisturbed R'' a m where
  past := h₁.past.trans h₂.past
  reservations id := hR (h₁.reservations id) (h₂.reservations id)
  signers x hx := (h₂.signers x (hx.later h₁.past)).trans (h₁.signers x hx)
  defined id x hx := by
    rcases h₂.defined id x hx with hx | hnew
    · exact h₁.defined id x hx
    · exact Or.inr fun hold => hnew (hold.later h₁.past)

/-- A change that leaves modules alone leaves them alone. -/
theorem Undisturbed.step {R R' : LoaderId → Reservations → Reservations → Prop}
    (h : Undisturbed R b m) (hpast : m.past <:+ m'.past)
    (hdefined : ∀ id, m'.state.defined id = m.state.defined id)
    (hsigners : ∀ x, m'.state.ledger.signers? x = m.state.ledger.signers? x)
    (hreservations : ∀ id, R' id (b.state.tablesOf id).signers (m'.state.tablesOf id).signers) :
    Undisturbed R' b m' where
  past := h.past.trans hpast
  reservations := hreservations
  signers x hx := (hsigners x).trans (h.signers x hx)
  defined id x hx := by
    rw [hdefined] at hx
    exact h.defined id x hx

/-! ## Entering a module -/

/-- A module has been made since some moment, and no loader has entered it. -/
structure Unentered (b : LoaderMoment) (module : Module) (m : LoaderMoment) : Prop where
  /-- It is new. -/
  fresh : ¬ Produced b module.serial
  /-- It was made. -/
  produced : Produced m module.serial
  /-- It has no signers. -/
  unsigned : m.state.ledger.signers? module = none
  /-- No loader has entered it. -/
  unentered : ∀ id, ∀ x ∈ m.state.defined id, x.serial ≠ module.serial

/-- What nobody has entered is left alone with all that was made. -/
theorem Unentered.later {R : LoaderId → Reservations → Reservations → Prop}
    (h : Unentered b module m) (hundisturbed : Undisturbed R m m') : Unentered b module m' where
  fresh := h.fresh
  produced := h.produced.later hundisturbed.past
  unsigned := (hundisturbed.signers module h.produced).trans h.unsigned
  unentered id x hx := by
    rcases hundisturbed.defined id x hx with hx | hnew
    · exact h.unentered id x hx
    · exact fun heq => hnew (heq ▸ h.produced)

theorem signers?_sign {ledger : ModuleLedger} (h : ledger.signers? module = none)
    (signers : CertificateSet) (x : Module) :
    (ledger.sign module signers).2.signers? x =
      if x.serial = module.serial then some signers else ledger.signers? x := by
  unfold ModuleLedger.sign
  rw [h]
  unfold ModuleLedger.signers?
  rw [List.lookup_cons]
  by_cases hx : x.serial = module.serial
  · simp [hx]
  · rw [if_neg hx, beq_eq_false_iff_ne.2 hx]

section Enter

variable {l : Loader} {domain : ProtectionDomain}

/-- Entering a module gives it the signers of its domain, and no other module any. -/
theorem signers?_enter_of_ne (h : Unentered b module m) {x : Module}
    (hx : x.serial ≠ module.serial) (package : String) :
    (enter m l module domain package).state.ledger.signers? x =
      m.state.ledger.signers? x := by
  rw [signers?_enter]
  split
  · rfl
  · show (m.state.ledger.sign module domain.certificates).2.signers? x = _
    rw [signers?_sign h.unsigned, if_neg hx]

theorem signersOf_enter (h : Unentered b module m) (package : String) :
    (enter m l module domain package).state.signersOf module = domain.certificates := by
  unfold Loaders.signersOf
  rw [signers?_enter]
  split
  · rename_i hempty
    rw [h.unsigned]
    have hnone : domain.certificates.certificates = [] := List.isEmpty_iff.1 hempty
    show CertificateSet.unsigned = domain.certificates
    rw [CertificateSet.unsigned, ← hnone]
  · show ((m.state.ledger.sign module domain.certificates).2.signers? module).getD _ = _
    rw [signers?_sign h.unsigned, if_pos rfl]
    rfl

/-- A module that is entered with a reservation keeps packages well signed. -/
theorem SignedWell.enter (h : SignedWell m)
    (hheld : Undisturbed (attempting l.id module.package domain.certificates) b m)
    (hmade : Unentered b module m) (hnone : m.state.loaded? l.id module.name = none) :
    SignedWell (enter m l module domain module.package) := by
  have hreserved := hheld.reservations l.id
  rw [attempting, if_pos rfl] at hreserved
  obtain ⟨entry, hfind, hmatches⟩ := hreserved.known?_commit
  have hsigners : ∀ id, ∀ x ∈ m.state.defined id,
      (LoaderMoment.enter m l module domain module.package).state.signersOf x =
        m.state.signersOf x := by
    intro id x hx
    unfold Loaders.signersOf
    rw [signers?_enter_of_ne hmade (hmade.unentered id x hx)]
  refine ⟨?_, ?_, ?_, ?_⟩
  · intro id
    rw [reservations_enter hnone]
    split
    · exact (h.tidy l.id).release module.package true
    · exact h.tidy id
  · intro id package
    rw [reservations_enter hnone, defined_enter hnone]
    split
    · rename_i hid
      subst hid
      rw [committed_release, h.committed_iff]
      simp only [List.mem_append, List.mem_singleton]
      constructor
      · rintro (⟨x, hx, rfl⟩ | ⟨-, rfl, -⟩)
        · exact ⟨x, Or.inl hx, rfl⟩
        · exact ⟨module, Or.inr rfl, rfl⟩
      · rintro ⟨x, hx | rfl, rfl⟩
        · exact Or.inl ⟨x, hx, rfl⟩
        · obtain ⟨entry, hknown, -⟩ := hreserved.reserved
          exact Or.inr ⟨trivial, rfl, by rw [hknown]; rfl⟩
    · exact h.committed_iff id package
  · intro id x hx
    rw [defined_enter hnone] at hx
    rw [reservations_enter hnone]
    split at hx
    · rename_i hid
      subst hid
      rw [if_pos rfl]
      rcases List.mem_append.1 hx with hx | hx
      · obtain ⟨c, hc, hmatches⟩ := h.matching l.id x hx
        have hx_committed := (h.committed_iff l.id x.package).2 ⟨x, hx, rfl⟩
        rw [hsigners l.id x hx]
        exact ⟨c, certificatesFor?_release hx_committed hc true, hmatches⟩
      · obtain rfl := List.mem_singleton.1 hx
        rw [signersOf_enter hmade]
        refine ⟨entry.certificates, ?_, hmatches⟩
        show (known? _ _).map _ = _
        rw [hfind]
        rfl
    · rename_i hid
      rw [if_neg hid, hsigners id x hx]
      exact h.matching id x hx
  · intro id x hx
    have hpast := past_enter (m := m) l module domain module.package
    rw [defined_enter hnone] at hx
    split at hx
    · rename_i hid
      rcases List.mem_append.1 hx with hx | hx
      · exact (h.produced l.id x hx).later hpast
      · obtain rfl := List.mem_singleton.1 hx
        exact hmade.produced.later hpast
    · exact (h.produced id x hx).later hpast

/-- To all others, a module that is entered with a reservation is a whole attempt. -/
theorem Undisturbed.enter
    (hheld : Undisturbed (attempting l.id module.package domain.certificates) b m)
    (hmade : Unentered b module m) (hnone : m.state.loaded? l.id module.name = none) :
    Undisturbed attempts b (enter m l module domain module.package) where
  past := hheld.past.trans (past_enter l module domain module.package)
  reservations id := by
    have hreservations := hheld.reservations id
    unfold attempting at hreservations
    rw [reservations_enter hnone]
    split at hreservations
    · rename_i hid
      subst hid
      rw [if_pos rfl]
      exact hreservations.release true
    · rename_i hid
      rw [if_neg hid]
      exact hreservations
  signers x hx := by
    have hne : x.serial ≠ module.serial := fun heq => hmade.fresh (heq ▸ hx)
    rw [signers?_enter_of_ne hmade hne, hheld.signers x hx]
  defined id x hx := by
    rw [defined_enter hnone] at hx
    split at hx
    · rename_i hid
      subst hid
      rcases List.mem_append.1 hx with hx | hx
      · exact hheld.defined l.id x hx
      · obtain rfl := List.mem_singleton.1 hx
        exact Or.inr hmade.fresh
    · exact hheld.defined id x hx

end Enter

/-! ## Single changes -/

theorem SignedWell.start : SignedWell ⟨{}, []⟩ := by
  have hdefined : ∀ id, (({} : Loaders).defined id) = [] := fun _ => rfl
  refine ⟨fun _ => .empty, fun id package => ?_, fun id x hx => ?_, fun id x hx => ?_⟩
  · rw [hdefined]
    simp [Committed, known?, Loaders.tablesOf, Table.findD, Table.find?]
  · rw [hdefined] at hx
    simp at hx
  · rw [hdefined] at hx
    simp at hx

/-- Where reservations, modules and signers are the same, packages are as well signed,
and nothing is disturbed. -/
theorem SignedWell.same (h : SignedWell m) (m' : LoaderMoment) (hpast : m.past <:+ m'.past)
    (hreservations : ∀ id, (m'.state.tablesOf id).signers = (m.state.tablesOf id).signers)
    (hdefined : ∀ id, m'.state.defined id = m.state.defined id)
    (hsigners : ∀ x, m'.state.ledger.signers? x = m.state.ledger.signers? x) :
    SignedWell m' ∧ Undisturbed attempts m m' := by
  constructor
  · refine h.step hpast hdefined hsigners fun id => ?_
    rw [hreservations]
    exact .refl (h.tidy id)
  · refine (Undisturbed.refl m).step hpast hdefined hsigners fun id => ?_
    rw [hreservations]
    exact .refl _

theorem SignedWell.quiet (h : SignedWell m) (hq : Quiet freshModules m m') :
    SignedWell m' ∧ Undisturbed attempts m m' := by
  cases hq with
  | note _ _ => exact h.same _ (List.suffix_cons _ _) (fun _ => rfl) (fun _ => rfl) fun _ => rfl
  | change beside =>
      refine h.same _ (List.suffix_cons _ _) beside.signers beside.defined fun x => ?_
      exact congrArg (List.lookup x.serial) beside.signed

/-- What a definer has made is new, and nobody has entered it. -/
theorem SignedWell.produce (h : SignedWell m) (hpast : b.past <:+ m.past) {key : Nat}
    {request : DefinitionRequest} (hfresh : freshModules m (.produce key request) (.ok module)) :
    SignedWell (m.note (.answered (.produce key request) (.ok module))) ∧
      Undisturbed attempts m (m.note (.answered (.produce key request) (.ok module))) ∧
      Unentered b module (m.note (.answered (.produce key request) (.ok module))) := by
  obtain ⟨hnew, hunsigned⟩ := hfresh
  obtain ⟨hwell, hundisturbed⟩ :=
    h.same (m.note (.answered (.produce key request) (.ok module))) (List.suffix_cons _ _)
      (fun _ => rfl) (fun _ => rfl) fun _ => rfl
  refine ⟨hwell, hundisturbed, fun hold => hnew (hold.later hpast), ?_, hunsigned, ?_⟩
  · exact ⟨_, List.mem_cons_self, key, request, module, rfl, rfl⟩
  · intro id x hx heq
    exact hnew (heq ▸ h.produced id x hx)

/-- What is known after the reservations of one loader have changed. -/
theorem reservations_onTables (s : Loaders) (id k : LoaderId) (r : Reservations) :
    ((s.onTables id fun t => { t with signers := r }).tablesOf k).signers =
      if k = id then r else (s.tablesOf k).signers := by
  rw [Loaders.tablesOf_onTables]
  split <;> rfl

theorem defined_onTables (s : Loaders) (id k : LoaderId) (r : Reservations) :
    (s.onTables id fun t => { t with signers := r }).defined k = s.defined k :=
  Loaders.tablesOf_onTables_congr s id k LoaderTables.defined fun _ => rfl

/-- A reservation that is granted is open, and packages are as well signed. -/
theorem SignedWell.reserve {l : Loader} {name : Name} {signers : CertificateSet}
    {package : String} (h : SignedWell m) (hb : SignedWell b) (hsince : Undisturbed attempts b m)
    (hok : (m.state.reserve l.id name signers).1 = .ok package) :
    SignedWell (m.change (m.state.reserve l.id name signers).2) ∧
      Undisturbed (attempting l.id package signers) b
        (m.change (m.state.reserve l.id name signers).2) := by
  rw [Loaders.reserve_snd]
  constructor
  · refine h.step (List.suffix_cons _ _) (defined_onTables m.state l.id · _) (fun _ => rfl) ?_
    intro id
    rw [Moment.change_state, reservations_onTables]
    split
    · rename_i hid
      rw [hid]
      exact .reserve (h.tidy l.id) hok
    · exact .refl (h.tidy id)
  · refine hsince.step (List.suffix_cons _ _) (defined_onTables m.state l.id · _)
      (fun _ => rfl) ?_
    intro id
    have hlater := hsince.reservations id
    unfold attempting
    rw [Moment.change_state, reservations_onTables]
    split
    · rename_i hid
      subst hid
      exact (hlater.reserve (hb.tidy l.id) (h.tidy l.id) hok).2
    · exact hlater

/-- A reservation that is dropped ends an attempt, and packages are as well signed. -/
theorem SignedWell.drop {l : Loader} {package : String} {signers : CertificateSet}
    (h : SignedWell m) (hheld : Undisturbed (attempting l.id package signers) b m) :
    SignedWell (m.change (m.state.release l.id package false)) ∧
      Undisturbed attempts b (m.change (m.state.release l.id package false)) := by
  have hreservations : ∀ k, ((m.state.release l.id package false).tablesOf k).signers =
      if k = l.id then (m.state.tablesOf l.id).signers.release package false
      else (m.state.tablesOf k).signers := by
    intro k
    unfold Loaders.release
    rw [Loaders.tablesOf_onTables]
    split <;> rfl
  have hdefined : ∀ k, (m.state.release l.id package false).defined k = m.state.defined k :=
    fun k => Loaders.tablesOf_onTables_congr m.state l.id k LoaderTables.defined fun _ => rfl
  have hreserved := hheld.reservations l.id
  rw [attempting, if_pos rfl] at hreserved
  constructor
  · refine h.step (List.suffix_cons _ _) hdefined (fun _ => rfl) fun id => ?_
    rw [Moment.change_state, hreservations]
    split
    · rename_i hid
      rw [hid]
      exact .drop (h.tidy l.id) package
    · exact .refl (h.tidy id)
  · refine hheld.step (List.suffix_cons _ _) hdefined (fun _ => rfl) fun id => ?_
    rw [Moment.change_state, hreservations]
    split
    · rename_i hid
      rw [hid]
      exact hreserved.release false
    · rename_i hid
      have hother := hheld.reservations id
      rw [attempting, if_neg hid] at hother
      exact hother

end LoaderMoment

/-- That packages are signed alike is kept up while definers make new modules. -/
def signing : Upkeep where
  mayAnswer := freshModules
  Sound := SignedWell
  Since _ := Undisturbed attempts
  Held b id package signers m := Undisturbed (attempting id package signers) b m
  Made := Unentered
  Answers _ _ _ _ _ := True
  since_refl _ := Undisturbed.refl
  since_trans h₁ h₂ := h₁.trans h₂ Later.trans
  since_mono _ h := h
  held_later h hsince := h.trans hsince fun {id _ _ _} h₁ h₂ => by
    unfold attempting at h₁ ⊢
    split at h₁
    · rename_i hid
      rw [if_pos hid]
      exact h₁.later h₂
    · rename_i hid
      rw [if_neg hid]
      exact h₁.trans h₂
  made_later h hsince := h.later hsince
  answers_later _ _ _ := trivial
  answers_before _ _ := trivial
  answers_loaded _ _ _ := trivial
  ended h := h.step (List.suffix_cons _ _) (fun _ => rfl) (fun _ => rfl) h.reservations
  quiet h hq := h.quiet hq
  created {m kind parent context} hfounded h := by
    have htables := hfounded.blank_or_same kind parent context
    refine h.same _ (List.suffix_cons _ _) (fun id => ?_) (fun id => ?_) fun _ => rfl
    · rcases htables id with ⟨hblank, hblank'⟩ | hsame
      · exact hblank.signers.trans hblank'.signers.symm
      · exact congrArg LoaderTables.signers hsame
    · rcases htables id with ⟨hblank, hblank'⟩ | hsame
      · exact hblank.defined.trans hblank'.defined.symm
      · exact congrArg LoaderTables.defined hsame
  produced h hpast hfresh := h.produce hpast hfresh
  reserved {b m l name signers package} hb h hsince hok := by
    obtain ⟨hwell, hheld⟩ := h.reserve hb hsince hok
    refine ⟨hwell, hheld, fun module hmade => ?_⟩
    exact ⟨hmade.fresh, hmade.produced.later (List.suffix_cons _ _), hmade.unsigned,
      fun id x hx => hmade.unentered id x ((defined_onTables m.state l.id id _) ▸ hx)⟩
  dropped h hheld := h.drop hheld
  entered h _ hheld hmade _ _ hnone := ⟨h.enter hheld hmade hnone, .enter hheld hmade hnone⟩
  remembered {ids b m l name module} h _ _ _ _ _ := by
    obtain ⟨hwell, hundisturbed⟩ := h.same
      (m.change (m.state.onTables l.id fun t => t.remember name module)) (List.suffix_cons _ _)
      (fun id => Loaders.tablesOf_onTables_congr m.state l.id id LoaderTables.signers fun t =>
        t.remember_signers name module)
      (fun id => Loaders.tablesOf_onTables_congr m.state l.id id LoaderTables.defined fun t =>
        t.remember_defined name module)
      fun _ => rfl
    exact ⟨hwell, hundisturbed, trivial⟩

/-! ## What packages are signed with -/

/-- What is defined by a loader is signed alike, as its packages are, and these are
listed in order. -/
structure Loaders.SignedAlike (s : Loaders) (id : LoaderId) : Prop where
  /-- Modules of one package have signers that match. -/
  alike : ∀ m ∈ s.defined id, ∀ k ∈ s.defined id, m.package = k.package →
    (s.signersOf m).matches (s.signersOf k) = true
  /-- They match those that are registered for the package. -/
  registered : ∀ m ∈ s.defined id, ∃ c,
    (s.tablesOf id).signers.certificatesFor? m.package = some c ∧
      c.matches (s.signersOf m) = true
  /-- The packages are in order, each once. -/
  sorted : (s.packages id).Pairwise (· < ·)
  /-- They are those of the modules that are defined. -/
  packages_iff : ∀ package, package ∈ s.packages id ↔ ∃ m ∈ s.defined id, m.package = package

theorem LoaderMoment.SignedWell.signedAlike {m : LoaderMoment} (h : SignedWell m)
    (id : LoaderId) : m.state.SignedAlike id where
  alike x hx y hy hpackage := by
    obtain ⟨c, hc, hmatches⟩ := h.matching id x hx
    obtain ⟨d, hd, hmatches'⟩ := h.matching id y hy
    rw [hpackage, hd] at hc
    obtain rfl := Option.some.inj hc
    exact CertificateSet.matches_trans (CertificateSet.matches_symm hmatches) hmatches'
  registered := h.matching id
  sorted := (h.tidy id).pairwise_packages
  packages_iff package := (h.tidy id).mem_packages.trans (h.committed_iff id package)

/-- Whenever outside code has the word, the packages of every loader are signed
alike, however definitions are nested and wherever they fail, provided that definers
make new modules without signers. -/
theorem signed_alike {σ : loaderService.Session}
    (h : Reaches (loaderRules freshModules) (.start {}) σ) (idle : Idle σ.frames = true)
    (id : LoaderId) : σ.now.state.SignedAlike id := by
  have hready : signing.Ready ⟨{}, []⟩ :=
    ⟨.start, fun _ hx => absurd hx List.not_mem_nil, .start⟩
  have hsound : SignedWell σ.now := ((signing.discipline.upheld hready h).inv idle).sound
  exact hsound.signedAlike id

/-! ## A definition inside another one -/

/-- The domain of one signer. -/
def signed : ProtectionDomain :=
  ⟨1, some ⟨none, ⟨[⟨[65]⟩]⟩⟩⟩

/-- What is defined inside the other definition. -/
def nested : Module := ⟨0, "a.C", ⟨1⟩, signed, 1⟩

/-- A definition fails, but before that another one of the same package has
succeeded inside it. -/
def nesting : List loaderService.Move :=
  [.call (.create .base none {}), .answer (.mayCreate 0 .base) (.ok ()), .finish,
    .call (.define solitary (some "a.B") [0] 0 1 (some signed)), .answer (.enter ⟨1⟩ ⟨1⟩) (),
    .call (.define solitary (some "a.C") [0] 0 1 (some signed)), .answer (.enter ⟨1⟩ ⟨2⟩) (),
    .answer (.produce 0 ⟨some "a.C", [0], 0, 1, signed, ⟨1⟩⟩) (.ok nested),
    .answer (.leave ⟨1⟩ ⟨2⟩) (), .finish,
    .answer (.produce 0 ⟨some "a.B", [0], 0, 1, signed, ⟨1⟩⟩) (.error (.notFound "a.D")),
    .answer (.leave ⟨1⟩ ⟨1⟩) (), .finish]

theorem nesting_allowed : (loaderRules freshModules).AllowsAll nesting (.start {}) := by
  unfold nesting
  repeat' refine allowsAll_cons ?_ rfl ?_
  -- The definer is asked once with success, for a module that is new and unsigned.
  all_goals first
    | exact ⟨by decide, rfl⟩
    | trivial
    | exact mayCall_of_none rfl
    | exact mayCall_of_mem rfl (List.mem_singleton_self _)

/-- Packages are signed alike after a definition has failed around another one. -/
theorem signed_alike_nested :
    ∃ σ : loaderService.Session, Session.play nesting (.start {}) = some σ ∧
      σ.now.state.SignedAlike solitary.id ∧ σ.now.state.defined solitary.id = [nested] ∧
      "a" ∈ σ.now.state.packages solitary.id ∧
      σ.now.state.signersOf nested = signed.certificates := by
  have hreaches := reaches_of_play nesting_allowed rfl
  have halike := signed_alike hreaches rfl solitary.id
  have hpackage : nested.package = "a" := by decide
  exact ⟨_, rfl, halike, rfl,
    (halike.packages_iff "a").2 ⟨nested, List.mem_singleton_self _, hpackage⟩, rfl⟩

end Loading
