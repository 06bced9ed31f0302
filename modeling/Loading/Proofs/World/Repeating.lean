import Loading.Proofs.Loader.HandleAgreement

/-!
# Resolving again

Loaders remember what they have answered, what they have defined, and whose packages those
modules are in.  Among plain surroundings — directories, bytes that are not looked into,
a linker that only marks modules — none of that ever shows: what a loader makes of a name
is settled by the files and by the built-in modules alone.

* `Surroundings.verdict` — what a loader makes of a name, by recursion on the path.
* `Faithful` — whatever is remembered agrees with the verdicts.
* `settles_resolve` — a resolution ends with the verdict, and memory agrees as well.
* `resolve_repeats` — after any two histories, a resolution ends alike.
-/

namespace Loading

open Interaction Service Loaders

/-! ## Verdicts -/

/-- What is the same about a module whenever it is defined. -/
structure Profile where
  /-- Its name. -/
  name : Name
  /-- The loader that defines it. -/
  loader : LoaderId
  /-- The length of its code in bytes. -/
  codeLength : Nat
  /-- Where its code comes from. -/
  location : Option String
  deriving Repr, DecidableEq

/-- The profile of a module. -/
def Module.profile (m : Module) : Profile :=
  ⟨m.name, m.loader, m.codeLength, m.domain.source.bind (·.location)⟩

namespace Surroundings

variable (e : Surroundings)

/-- What becomes of the bytes that a loader has found for a name. -/
def judge (l : Loader) (name : Name) (found : FoundModule) : Except LoadError Profile :=
  match l.rules.fault? name with
  | some fault => .error (.invalidName name fault)
  | none =>
      if found.bytes.isEmpty then .error (.definition name .emptyBody)
      else .ok ⟨name, l.id, found.bytes.length, found.source.bind (·.location)⟩

/-- What a loader makes of a name with its own finder. -/
def verdictAlone (l : Loader) (name : Name) : Except LoadError Profile :=
  ((e.finder l.id).find e.files name).bind (judge l name)

/-- What a loader makes of a name after it has been told something from above. -/
def verdictAfter (l : Loader) (name : Name) (told : Except LoadError Profile) :
    Except LoadError Profile :=
  if l.rules.isWellFormed name then
    match told with
    | .ok p => .ok p
    | .error err => if err.isNotFound then e.verdictAlone l name else .error err
  else .error (.notFound name)

/-- What a loader makes of a name, where the built-in modules are those of a state. -/
def verdict (s : Loaders) (name : Name) : Loader → Except LoadError Profile
  | .root level => e.verdictAfter (.root level) name
      (((s.builtin? level.context.key name).map (·.profile)).elim (.error (.notFound name)) .ok)
  | .child level parent => e.verdictAfter (.child level parent) name (verdict s name parent)

/-- What a loader is told of a name from above. -/
def told (s : Loaders) (name : Name) : Loader → Except LoadError Profile
  | .root level =>
      ((s.builtin? level.context.key name).map (·.profile)).elim (.error (.notFound name)) .ok
  | .child _ parent => e.verdict s name parent

theorem verdict_eq (s : Loaders) (name : Name) (l : Loader) :
    e.verdict s name l = e.verdictAfter l name (e.told s name l) := by
  cases l <;> rfl

theorem verdict_of_malformed {s : Loaders} {name : Name} {l : Loader}
    (h : ¬l.rules.isWellFormed name = true) : e.verdict s name l = .error (.notFound name) := by
  rw [verdict_eq]
  unfold verdictAfter
  rw [if_neg h]

end Surroundings

/-- What is found in directories has a source that nobody has signed. -/
theorem Directory.source_of_find {d : Directory} {fs : FileSystem} {name : Name}
    {found : FoundModule} (h : d.find fs name = .ok found) :
    ∃ root, found.source = some (Directory.sourceOf root) := by
  unfold Directory.find at h
  cases hfirst : d.roots.findSome? (Directory.findBelow fs name) with
  | none =>
      rw [hfirst] at h
      cases h
  | some r =>
      rw [hfirst] at h
      obtain rfl : r = .ok found := h
      obtain ⟨root, -, hroot⟩ := List.exists_of_findSome?_eq_some hfirst
      refine ⟨root, ?_⟩
      unfold Directory.findBelow at hroot
      dsimp only at hroot
      split at hroot
      · obtain rfl := Except.ok.inj (Option.some.inj hroot)
        rfl
      · cases hroot
      · cases hroot
      · cases Option.some.inj hroot

/-! ## Packages that nobody has signed -/

/-- No signers are known of any package. -/
def Reservations.Unsigned (r : Reservations) : Prop :=
  ∀ package entry, r.known? package = some entry → entry.certificates.isEmpty = true

namespace Reservations

variable {r : Reservations} {signers : CertificateSet}

theorem Unsigned.reserve (h : r.Unsigned) (hempty : signers.isEmpty = true) (name : Name) :
    (r.reserve name signers).1 = .ok name.package ∧ (r.reserve name signers).2.Unsigned := by
  constructor
  · rw [reserve_fst]
    cases hc : r.certificatesFor? name.package with
    | none => rfl
    | some c =>
        obtain ⟨entry, hentry, rfl⟩ := Option.map_eq_some_iff.1 hc
        simp [CertificateSet.matches, h name.package entry hentry, hempty]
  · rcases reserve_cases r name signers with ⟨e, heq⟩ | ⟨entry, heq, -, hmatches, -, -⟩
    · rw [heq]
      exact h
    · intro package x hx
      rw [heq, known?_set] at hx
      split at hx
      · obtain rfl := Option.some.inj hx
        simpa [CertificateSet.matches, hempty] using hmatches
      · exact h package x hx

theorem Unsigned.release (h : r.Unsigned) (package : String) (committed : Bool) :
    (r.release package committed).Unsigned := by
  intro p x hx
  rw [known?_release] at hx
  split at hx
  · obtain ⟨entry, hentry, hx⟩ := Option.bind_eq_some_iff.1 hx
    split at hx
    · cases hx
    · obtain rfl := Option.some.inj hx
      exact h p entry hentry
  · exact h p x hx

end Reservations

/-- No signers are known, and the domain that is kept for a code source has that source. -/
structure LoaderTables.Plain (t : LoaderTables) : Prop where
  /-- No signers are known of any package. -/
  unsigned : t.signers.Unsigned
  /-- Domains are kept under their own sources. -/
  sources : ∀ source d, t.sourceDomains.find? source = some d → d.source = some source

namespace LoaderTables

variable (t : LoaderTables)

theorem remember_sourceDomains (name : Name) (m : Module) :
    (t.remember name m).sourceDomains = t.sourceDomains := by
  unfold remember
  split <;> rfl

theorem recordDomain_sourceDomains (d : ProtectionDomain) :
    (t.recordDomain d).sourceDomains = t.sourceDomains := by
  unfold recordDomain
  split <;> rfl

end LoaderTables

/-! ## Memory that agrees with the verdicts -/

/-- Whatever loaders remember agrees with the verdicts, which the built-in modules of a
first state settle. -/
structure Faithful (e : Surroundings) (s₀ s : Loaders) : Prop where
  /-- The built-in modules are the same. -/
  builtins : s.builtins = s₀.builtins
  /-- Nobody has signed anything. -/
  plain : ∀ id, (s.tablesOf id).Plain
  /-- What a loader answers, its verdict is. -/
  answers : ∀ l ∈ s₀.created, ∀ name m, s.loaded? l.id name = some m →
    e.verdict s₀ name l = .ok m.profile

namespace Faithful

variable {e : Surroundings} {s₀ s : Loaders} {id : LoaderId}

/-- What is known of modules is no matter. -/
theorem ledger (h : Faithful e s₀ s) (ledger : ModuleLedger) :
    Faithful e s₀ { s with ledger } :=
  ⟨h.builtins, h.plain, h.answers⟩

/-- Tables may change where they remember no answers. -/
theorem onTables (h : Faithful e s₀ s) (id : LoaderId) {f : LoaderTables → LoaderTables}
    (hloaded : ∀ t, (f t).loaded = t.loaded) (hplain : (f (s.tablesOf id)).Plain) :
    Faithful e s₀ (s.onTables id f) where
  builtins := h.builtins
  plain k := by
    rw [tablesOf_onTables]
    split
    · exact hplain
    · exact h.plain k
  answers l hl name m hm := by
    have hsame : (s.onTables id f).loaded? l.id name = s.loaded? l.id name :=
      tablesOf_onTables_congr s id l.id (fun t => t.loaded.find? name)
        fun t => congrArg (Table.find? · name) (hloaded t)
    exact h.answers l hl name m (hsame ▸ hm)

theorem lockFor (h : Faithful e s₀ s) (id : LoaderId) (name : Name) :
    Faithful e s₀ (s.lockFor id name).2 := by
  show Faithful e s₀ (s.onTables id fun t =>
    { t with locks := ((s.tablesOf id).locks.lockFor name).2 })
  exact h.onTables id (fun _ => rfl) ⟨(h.plain id).unsigned, (h.plain id).sources⟩

/-- The domain of a code source is one that has this source. -/
theorem sourceDomain (h : Faithful e s₀ s) (id : LoaderId) (source : CodeSource) :
    (s.sourceDomain id source).1.source = some source ∧
      Faithful e s₀ (s.sourceDomain id source).2 := by
  unfold Loaders.sourceDomain
  split
  · rename_i d hd
    exact ⟨(h.plain id).sources source d hd, h⟩
  · have hfresh : Faithful e s₀ (s.freshDomain (some source)).2 :=
      ⟨h.builtins, h.plain, h.answers⟩
    refine ⟨rfl, ?_⟩
    show Faithful e s₀ ((s.freshDomain (some source)).2.onTables id fun t =>
      { t with sourceDomains := t.sourceDomains.set source (s.freshDomain (some source)).1 })
    refine hfresh.onTables id (fun _ => rfl) ⟨(h.plain id).unsigned, fun k d hd => ?_⟩
    rw [Table.find?_set] at hd
    split at hd
    · rename_i hk
      obtain rfl := Option.some.inj hd
      exact congrArg some hk.symm
    · exact (h.plain id).sources k d hd

/-- Unsigned code is never refused. -/
theorem reserve (h : Faithful e s₀ s) (id : LoaderId) (name : Name) {signers : CertificateSet}
    (hempty : signers.isEmpty = true) :
    (s.reserve id name signers).1 = .ok name.package ∧
      Faithful e s₀ (s.reserve id name signers).2 := by
  obtain ⟨hok, hunsigned⟩ := (h.plain id).unsigned.reserve hempty name
  rw [reserve_snd]
  exact ⟨hok, h.onTables id (fun _ => rfl) ⟨hunsigned, (h.plain id).sources⟩⟩

theorem release (h : Faithful e s₀ s) (id : LoaderId) (package : String) (committed : Bool) :
    Faithful e s₀ (s.release id package committed) :=
  h.onTables id (fun _ => rfl)
    ⟨(h.plain id).unsigned.release package committed, (h.plain id).sources⟩

theorem recordDefined (h : Faithful e s₀ s) (id : LoaderId) (m : Module) :
    Faithful e s₀ (s.onTables id fun t => t.recordDefined m) :=
  h.onTables id (fun _ => rfl) ⟨(h.plain id).unsigned, (h.plain id).sources⟩

theorem recordDomain (h : Faithful e s₀ s) (id : LoaderId) (d : ProtectionDomain) :
    Faithful e s₀ (s.onTables id fun t => t.recordDomain d) := by
  refine h.onTables id (fun t => t.recordDomain_loaded d) ⟨?_, ?_⟩
  · rw [LoaderTables.recordDomain_signers]
    exact (h.plain id).unsigned
  · rw [LoaderTables.recordDomain_sourceDomains]
    exact (h.plain id).sources

/-- A loader may remember its verdict. -/
theorem remember (h : Faithful e s₀ s) (hfounded : s₀.Founded) {l : Loader}
    (hl : l ∈ s₀.created) {name : Name} {m : Module}
    (hverdict : e.verdict s₀ name l = .ok m.profile) :
    Faithful e s₀ (s.onTables l.id fun t => t.remember name m) where
  builtins := h.builtins
  plain k := by
    rw [tablesOf_onTables]
    split
    · refine ⟨?_, ?_⟩
      · rw [LoaderTables.remember_signers]
        exact (h.plain l.id).unsigned
      · rw [LoaderTables.remember_sourceDomains]
        exact (h.plain l.id).sources
    · exact h.plain k
  answers k hk n x hx := by
    rw [loaded?_remember] at hx
    split at hx
    · rename_i hkn
      obtain ⟨hid, rfl⟩ := hkn
      obtain rfl := hfounded.id_inj k hk l hl hid
      obtain rfl := Option.some.inj hx
      cases hold : s.loaded? k.id n with
      | none => exact hverdict
      | some old => exact h.answers k hk n old hold
    · exact h.answers k hk n x hx

end Faithful

/-! ## Resolving -/

/-- Bytes that are used as a whole become a module of their length, unless there are none. -/
theorem Loaders.produceOpaque_whole (s : Loaders) (name : Name) (bytes : List UInt8)
    (domain : ProtectionDomain) (id : LoaderId) :
    s.produceOpaque ⟨some name, bytes, 0, bytes.length, domain, id⟩ =
      if bytes.isEmpty then (.error (.definition name .emptyBody), s)
      else (.ok (s.freshModule name id domain bytes.length).1,
        (s.freshModule name id domain bytes.length).2) := by
  have hcode : (DefinitionRequest.mk (some name) bytes 0 bytes.length domain id).code = bytes := by
    simp [DefinitionRequest.code]
  unfold produceOpaque
  rw [hcode]

/-- To a module of its own, under the name that was given, a loader does not object. -/
theorem objection?_of_own {l : Loader} {name : Name} {m : Module} (hname : m.name = name)
    (hown : m.loader = l.id) : l.objection? (some name) m = none := by
  unfold Loader.objection?
  simp [hname, hown]

/-- An operation ends as a verdict says, and what is remembered agrees with the verdicts. -/
def Settles (e : Surroundings) (s₀ : Loaders) (verdict : Except LoadError Profile)
    (p : LoaderTask (Except LoadError Module)) (s : Loaders) : Prop :=
  (p.run e.serve s ()).1.map (·.profile) = verdict ∧ Faithful e s₀ (p.run e.serve s ()).2.1

section Settles

variable {e : Surroundings} {s₀ s : Loaders} {l : Loader} {name : Name} {m : Module}
  {verdict : Except LoadError Profile}

/-- One operation after another ends as the second ends. -/
theorem settles_bind {α : Type} {p : LoaderTask α} {f : α → LoaderTask (Except LoadError Module)}
    {a : α} {s' : Loaders} (hp : p.run e.serve s () = (a, s', ()))
    (hf : Settles e s₀ verdict (f a) s') : Settles e s₀ verdict (p >>= f) s := by
  unfold Settles
  rw [run_bind, hp]
  exact hf

/-- What comes after an operation that ends as a verdict says. -/
theorem settles_then {verdict' : Except LoadError Profile}
    {p : LoaderTask (Except LoadError Module)}
    {f : Except LoadError Module → LoaderTask (Except LoadError Module)}
    (hp : Settles e s₀ verdict p s)
    (hf : ∀ r s', r.map (·.profile) = verdict → Faithful e s₀ s' →
      Settles e s₀ verdict' (f r) s') : Settles e s₀ verdict' (p >>= f) s :=
  settles_bind rfl (hf _ _ hp.1 hp.2)

/-- A lock is free whenever it is asked for. -/
theorem settles_locked (h : Faithful e s₀ s) {body : LoaderTask (Except LoadError Module)}
    (hbody : ∀ s', Faithful e s₀ s' → (∀ n, s'.loaded? l.id n = s.loaded? l.id n) →
      Settles e s₀ verdict body s') :
    Settles e s₀ verdict (l.locked name body) s := by
  have hlock := hbody _ (h.lockFor l.id name) ((Beside.lockFor s l.id name).loaded? l.id)
  unfold Loader.locked
  refine settles_bind rfl (settles_bind rfl ?_)
  exact settles_bind rfl (settles_bind rfl ⟨hlock.1, hlock.2⟩)

/-- A module of its verdict is entered by a loader that does not know the name. -/
theorem settles_install (h : Faithful e s₀ s) (hfounded : s₀.Founded) (hl : l ∈ s₀.created)
    (hnone : s.loaded? l.id m.name = none) (hverdict : e.verdict s₀ m.name l = .ok m.profile)
    {domain : ProtectionDomain} (hunsigned : domain.certificates.isEmpty = true)
    (package : String) : Settles e s₀ (.ok m.profile) (l.install m domain package) s := by
  have hremembered := h.remember hfounded hl hverdict
  have hentered := ((hremembered.release l.id package true).recordDefined l.id m).recordDomain l.id
    domain
  unfold Loader.install
  refine settles_bind (congrArg (fun x => (x.1, x.2, ())) (adopt_eq hnone)) ?_
  simp only [if_true, hunsigned, Bool.not_true, Bool.false_eq_true, if_false]
  exact settles_bind rfl (settles_bind rfl (settles_bind rfl ⟨rfl, hentered⟩))

/-- What is found and may be defined is defined as the verdict says. -/
theorem settles_defineHeld (h : Faithful e s₀ s) (hfounded : s₀.Founded) (hl : l ∈ s₀.created)
    (hnone : s.loaded? l.id name = none) {bytes : List UInt8} {domain : ProtectionDomain}
    (hunsigned : domain.certificates.isEmpty = true)
    (hverdict : e.verdict s₀ name l =
      if bytes.isEmpty then .error (.definition name .emptyBody)
      else .ok ⟨name, l.id, bytes.length, domain.source.bind (·.location)⟩) :
    Settles e s₀ (e.verdict s₀ name l)
      (l.defineHeld name bytes 0 bytes.length (some domain)) s := by
  obtain ⟨hok, hreserved⟩ := h.reserve l.id name hunsigned
  unfold Loader.defineHeld Loader.domainOr
  refine settles_bind (run_observe ..) ?_
  rw [hnone]
  refine settles_bind (run_done ..) (settles_bind (run_transact ..) ?_)
  rw [hok]
  have hproduced := (s.reserve l.id name domain.certificates).2.produceOpaque_whole name bytes
    domain l.id
  refine settles_bind (congrArg (fun x => (x.1, x.2, ())) hproduced) ?_
  cases hbytes : bytes.isEmpty with
  | true =>
      rw [hbytes, if_pos rfl] at hverdict
      rw [hverdict]
      exact settles_bind rfl ⟨rfl, hreserved.release l.id name.package false⟩
  | false =>
      rw [hbytes, if_neg Bool.false_ne_true] at hverdict
      rw [hverdict]
      have hown : l.objection? (some name) ((s.reserve l.id name domain.certificates).2.freshModule
          name l.id domain bytes.length).1 = none := objection?_of_own rfl rfl
      simp only [Bool.false_eq_true, if_false, Except.bind, hown]
      exact settles_install (hreserved.ledger _) hfounded hl
        ((loaded?_reserve s l.id name domain.certificates l.id name).trans hnone) hverdict
        hunsigned name.package

/-- Bytes that were found are defined as they are judged. -/
theorem settles_define (h : Faithful e s₀ s) (hfounded : s₀.Founded) (hl : l ∈ s₀.created)
    (hnone : s.loaded? l.id name = none) {found : FoundModule} {domain : ProtectionDomain}
    (hsource : domain.source = found.source) (hunsigned : domain.certificates.isEmpty = true)
    (hverdict : e.verdict s₀ name l = Surroundings.judge l name found) :
    Settles e s₀ (e.verdict s₀ name l)
      (l.define (some name) found.bytes 0 found.bytes.length (some domain)) s := by
  unfold Surroundings.judge at hverdict
  unfold Loader.define
  rw [Option.bind_some]
  cases hfault : l.rules.fault? name with
  | some fault =>
      rw [hfault] at hverdict
      exact ⟨hverdict.symm, h⟩
  | none =>
      rw [hfault] at hverdict
      dsimp only [Option.map_none] at hverdict ⊢
      rw [if_neg (by omega)]
      refine settles_locked h fun s' h' hsame => ?_
      refine settles_defineHeld h' hfounded hl ((hsame name).trans hnone) hunsigned ?_
      rw [hverdict, hsource]

/-- What a loader finds by itself is defined as the verdict says. -/
theorem settles_findAndDefine (h : Faithful e s₀ s) (hfounded : s₀.Founded)
    (hl : l ∈ s₀.created) (hnone : s.loaded? l.id name = none)
    (hverdict : e.verdict s₀ name l = e.verdictAlone l name) :
    Settles e s₀ (e.verdict s₀ name l) (l.findAndDefine name) s := by
  have hfind : (LoaderTask.ask (.find l.id name)).run e.serve s () =
      ((e.finder l.id).find e.files name, s, ()) := rfl
  unfold Surroundings.verdictAlone at hverdict
  unfold Loader.findAndDefine
  refine settles_bind hfind ?_
  cases hfound : (e.finder l.id).find e.files name with
  | error err =>
      rw [hfound] at hverdict
      exact ⟨hverdict.symm, h⟩
  | ok found =>
      rw [hfound] at hverdict
      obtain ⟨root, hsource⟩ := Directory.source_of_find hfound
      obtain ⟨hdomain, h'⟩ := h.sourceDomain l.id (Directory.sourceOf root)
      have hsame := (Beside.sourceDomain s l.id (Directory.sourceOf root)).loaded? l.id name
      dsimp only
      rw [hsource]
      refine settles_bind rfl ?_
      refine settles_define h' hfounded hl (hsame.trans hnone) (hdomain.trans hsource.symm) ?_
        hverdict
      unfold ProtectionDomain.certificates
      rw [hdomain]
      rfl

/-! ## Along the path -/

/-- A loader that is told from above as the verdicts say answers by its own verdict. -/
theorem settles_lookUp (h : Faithful e s₀ s) (hfounded : s₀.Founded) (hl : l ∈ s₀.created)
    (hname : l.rules.isWellFormed name = true)
    (htold : Settles e s₀ (e.told s₀ name l) (l.delegate name) s) :
    Settles e s₀ (e.verdict s₀ name l) (l.lookUp name (l.delegate name)) s := by
  have hverdict := e.verdict_eq s₀ name l
  unfold Surroundings.verdictAfter at hverdict
  rw [if_pos hname] at hverdict
  unfold Loader.lookUp
  refine settles_bind (run_observe ..) ?_
  cases hloaded : s.loaded? l.id name with
  | some m => exact ⟨(h.answers l hl name m hloaded).symm, h⟩
  | none =>
      have hamong : Among False (fun r s' t => Heard False s s' l name t r)
          (l.delegate name) s :=
        among_delegate (.refl [] s) (hfounded.nodup_path hl)
      have hheard := ends_of_among (obeys_serve e) hamong ()
      obtain ⟨r, s', hrun⟩ : ∃ r s', (l.delegate name).run e.serve s () = (r, s', ()) :=
        ⟨_, _, rfl⟩
      unfold Settles at htold
      rw [hrun] at htold hheard
      obtain ⟨hresult, h'⟩ := htold
      rw [← hresult] at hverdict
      refine settles_bind hrun ?_
      cases r with
      | ok m => exact settles_bind rfl ⟨hverdict.symm, h'.remember hfounded hl hverdict⟩
      | error err =>
          -- What a loader was told in vain has not entered its own tables.
          have hnone : s'.loaded? l.id name = none := (hheard.1.loaded l.id name).trans hloaded
          dsimp only [Except.map] at hverdict
          unfold Loader.afterDelegation
          dsimp only
          split
          · rename_i hmissing
            rw [if_pos hmissing] at hverdict
            exact settles_findAndDefine h' hfounded hl hnone hverdict
          · rename_i hother
            rw [if_neg hother] at hverdict
            exact ⟨hverdict.symm, h'⟩

/-- A loader is told from above as the verdicts say, by induction on the path. -/
theorem settles_delegate (h : Faithful e s₀ s) (hfounded : s₀.Founded) (hl : l ∈ s₀.created) :
    Settles e s₀ (e.told s₀ name l) (l.delegate name) s := by
  induction l generalizing s with
  | root level =>
      show Settles e s₀ _ ((Loader.root level).askBootstrap name) s
      have hbuiltin : s.builtin? level.context.key name = s₀.builtin? level.context.key name := by
        unfold Loaders.builtin? Loaders.builtinsOf
        rw [h.builtins]
      have hask : (LoaderTask.ask (.bootstrap level.context.key name)).run e.serve s () =
          (s₀.builtin? level.context.key name, s, ()) := by
        rw [← hbuiltin]
        rfl
      unfold Loader.askBootstrap
      refine settles_bind hask ?_
      dsimp only [Surroundings.told]
      cases s₀.builtin? level.context.key name with
      | none => exact ⟨rfl, h⟩
      | some m => exact ⟨rfl, h⟩
  | child level parent ih =>
      have hparent := hfounded.ancestor_created hl List.mem_cons_self
      show Settles e s₀ (e.verdict s₀ name parent) (parent.resolveOnly name) s
      rw [Upkeep.resolveOnly_eq]
      split
      · rename_i hname
        exact settles_locked h fun s' h' _ =>
          settles_lookUp h' hfounded hparent hname (ih h' hparent)
      · rename_i hname
        exact ⟨(e.verdict_of_malformed hname).symm, h⟩

/-- A linker that only marks modules changes no verdict. -/
theorem settles_linkIfNeeded (h : Faithful e s₀ s) (m : Module) :
    Settles e s₀ (.ok m.profile) (l.linkIfNeeded m) s := by
  unfold Loader.linkIfNeeded
  refine settles_bind (run_observe ..) ?_
  split
  · exact ⟨rfl, h⟩
  · exact settles_bind rfl ⟨rfl, h.ledger _⟩

/-- Whatever is remembered, a loader resolves a name as its verdict says. -/
theorem settles_resolve (h : Faithful e s₀ s) (hfounded : s₀.Founded) (hl : l ∈ s₀.created)
    (link : Bool) : Settles e s₀ (e.verdict s₀ name l) (l.resolve name link) s := by
  unfold Loader.resolve
  split
  · rename_i hname
    refine settles_locked h fun s' h' _ => ?_
    have hlookUp := settles_lookUp h' hfounded hl hname (settles_delegate h' hfounded hl)
    unfold Loader.resolveHeld
    refine settles_then hlookUp fun r s₁ hr h₁ => ?_
    cases r with
    | error err => exact ⟨hr, h₁⟩
    | ok m =>
        cases link with
        | false => exact ⟨hr, h₁⟩
        | true => exact hr ▸ settles_linkIfNeeded h₁ m
  · rename_i hname
    exact ⟨(e.verdict_of_malformed hname).symm, h⟩

end Settles

/-! ## Hierarchies that have just been built -/

/-- Hierarchies in which nothing has been defined or resolved yet. -/
inductive Loaders.Built : Loaders → Prop
  /-- There is nothing at all. -/
  | start : Built {}
  /-- A loader is made below one that is there, or as a root. -/
  | made {s : Loaders} (h : Built s) (k : Kind) (parent : Option Loader) (context : Context)
      (hparent : ∀ l ∈ parent, l ∈ s.created) : Built (s.create k parent context).2
  /-- A built-in module is registered. -/
  | registered {s : Loaders} (h : Built s) (key : Nat) (name : Name) :
      Built (s.registerBuiltin key name).2
  /-- A kind is entered as working in parallel. -/
  | entered {s : Loaders} (h : Built s) (registry : Nat) (k : Kind) :
      Built (s.registerKind registry k).2

namespace Loaders.Built

variable {s : Loaders}

theorem founded (h : s.Built) : s.Founded := by
  induction h with
  | start => exact .start
  | made _ k parent context hparent ih => exact ih.create k hparent context
  | @registered s _ key name ih => exact ih.freely (beside_registerBuiltin s key name)
  | @entered s _ registry k ih =>
      exact ih.beside ⟨rfl, Nat.le_refl _, fun _ => rfl, fun _ => rfl, fun _ => rfl, fun _ => rfl,
        rfl⟩

/-- No loader answers, has signers or keeps domains yet. -/
theorem blank (h : s.Built) (id : LoaderId) :
    (s.tablesOf id).Blank ∧ (s.tablesOf id).sourceDomains = {} := by
  induction h with
  | start => exact ⟨⟨rfl, rfl, rfl, rfl⟩, rfl⟩
  | @made s _ k parent context _ ih =>
      by_cases hid : id = ⟨s.nextLoader⟩
      · subst hid
        rw [tablesOf_create_self]
        exact ⟨⟨rfl, rfl, rfl, rfl⟩, rfl⟩
      · rw [tablesOf_create_of_ne s k parent context hid]
        exact ih
  | @registered s _ key name ih =>
      have hsame : (s.registerBuiltin key name).2.tablesOf id = s.tablesOf id := by
        unfold registerBuiltin
        cases s.builtin? key name <;> rfl
      rw [hsame]
      exact ih
  | entered _ registry k ih => exact ih

/-- So what is remembered agrees with the verdicts. -/
theorem faithful (h : s.Built) (e : Surroundings) : Faithful e s s where
  builtins := rfl
  plain id := by
    obtain ⟨hblank, hsources⟩ := h.blank id
    refine ⟨?_, ?_⟩
    · rw [hblank.signers]
      exact fun package entry hentry => by simp [Reservations.known?, Table.find?] at hentry
    · rw [hsources]
      exact fun source d hd => by simp [Table.find?] at hd
  answers l _ name m hm := by
    unfold Loaders.loaded? at hm
    rw [(h.blank l.id).1.loaded] at hm
    cases hm

end Loaders.Built

/-! ## Histories -/

/-- A name that a loader is to resolve. -/
structure Lookup where
  /-- The loader. -/
  loader : Loader
  /-- The name. -/
  name : Name
  /-- Is the module to be linked, too? -/
  link : Bool

/-- The resolution itself. -/
def Lookup.task (q : Lookup) : WorldTask (Except LoadError Module) :=
  .ofLoader (q.loader.resolve q.name q.link)

/-- What is left after some names have been resolved, one after the other. -/
def Surroundings.history (e : Surroundings) (w : World) (past : List Lookup) :
    World × Surroundings :=
  past.foldl (fun p q => (p.2.run q.task p.1).2) (w, e)

/-- What comes of resolving another name then: an error, or a module with its profile. -/
def Surroundings.outcome (e : Surroundings) (w : World) (past : List Lookup) (q : Lookup) :
    Except LoadError Profile :=
  ((e.history w past).2.run q.task (e.history w past).1).1.map (·.profile)

section History

variable {e : Surroundings} {w : World} {s₀ : Loaders}

/-- What loaders do, they do in the same way beside libraries. -/
theorem Surroundings.run_ofLoader {α : Type} (e : Surroundings) (p : LoaderTask α) (w : World) :
    e.run (.ofLoader p) w =
      ((p.run e.serve w.loaders ()).1,
        { w with loaders := (p.run e.serve w.loaders ()).2.1 }, e) := by
  unfold Surroundings.run WorldTask.ofLoader
  induction p generalizing w with
  | done a => rfl
  | act update next ih => exact ih w.loaders { w with loaders := update w.loaders }
  | ask q next ih => exact ih _ { w with loaders := (e.answerLoader q w.loaders).2 }

/-- One resolution after the other, what is remembered agrees with the verdicts. -/
theorem Faithful.history (h : Faithful e s₀ w.loaders) (hfounded : s₀.Founded)
    {past : List Lookup} (hmade : ∀ q ∈ past, q.loader ∈ s₀.created) :
    (e.history w past).2 = e ∧ Faithful e s₀ (e.history w past).1.loaders := by
  induction past generalizing w with
  | nil => exact ⟨rfl, h⟩
  | cons q past ih =>
      obtain ⟨hq, hpast⟩ := List.forall_mem_cons.1 hmade
      unfold Surroundings.history
      rw [List.foldl_cons, Lookup.task, e.run_ofLoader]
      exact ih (settles_resolve h hfounded hq q.link).2 hpast

/-- Whatever has been resolved in a hierarchy since it was built, a name is resolved as the
verdict says. -/
theorem outcome_eq_verdict (h : w.loaders.Built) {past : List Lookup}
    (hmade : ∀ q ∈ past, q.loader ∈ w.loaders.created) {q : Lookup}
    (hq : q.loader ∈ w.loaders.created) :
    e.outcome w past q = e.verdict w.loaders q.name q.loader := by
  obtain ⟨hsame, hfaithful⟩ := (h.faithful e).history h.founded hmade
  unfold Surroundings.outcome
  rw [hsame, Lookup.task, e.run_ofLoader]
  exact (settles_resolve hfaithful h.founded hq q.link).1

/-- What has been resolved before makes no difference: in a hierarchy that has been built
with its built-in modules, among directories that do not change, a name is resolved to the
same error or to a module of the same profile after any two histories. -/
theorem resolve_repeats (h : w.loaders.Built) {past past' : List Lookup}
    (hmade : ∀ q ∈ past, q.loader ∈ w.loaders.created)
    (hmade' : ∀ q ∈ past', q.loader ∈ w.loaders.created) {q : Lookup}
    (hq : q.loader ∈ w.loaders.created) : e.outcome w past q = e.outcome w past' q :=
  (outcome_eq_verdict h hmade hq).trans (outcome_eq_verdict h hmade' hq).symm

end History

/-! ## After failures and without them -/

/-- Below the root directory `down`, one module has a byte and another has none. -/
def sparse : Surroundings where
  files :=
    { look := fun path =>
        if path = "down/a/B.class" then .ok (.file [0] none)
        else if path = "down/a/C.class" then .ok (.file [] none)
        else .error .notFound
      canonical := some }
  finders := ⟨[(solitary.id, { roots := ["up"] }), (sheltered.id, { roots := ["down"] })]⟩

/-- A root, and a loader below it. -/
def twoLoaders : World where
  loaders := ((({} : Loaders).create .base none {}).2.create .base (some solitary) {}).2

theorem twoLoaders_built : twoLoaders.loaders.Built :=
  (Loaders.Built.start.made .base none {} nofun).made .base (some solitary) {} (by decide)

/-- A loader that has failed in the package, after its parent missed the module, resolves it
just like one that has done nothing yet. -/
theorem resolve_repeats_sparse :
    sparse.outcome twoLoaders
        [⟨sheltered, "a.C", true⟩, ⟨solitary, "a.B", false⟩, ⟨sheltered, "a.B", false⟩]
        ⟨sheltered, "a.B", true⟩ =
      sparse.outcome twoLoaders [] ⟨sheltered, "a.B", true⟩ ∧
    sparse.outcome twoLoaders [] ⟨sheltered, "a.B", true⟩ =
      .ok ⟨"a.B", sheltered.id, 1, some "file:down"⟩ ∧
    sparse.outcome twoLoaders [] ⟨sheltered, "a.C", true⟩ =
      .error (.definition "a.C" .emptyBody) := by
  refine ⟨resolve_repeats twoLoaders_built (by decide) (by decide) (by decide), ?_, ?_⟩
  · rfl
  · rfl

end Loading
