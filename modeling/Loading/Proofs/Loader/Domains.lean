import Loading.Proofs.Loader.Hierarchy

/-!
# The domains that loaders hand out

A loader keeps its domains in three places: the one for definitions that come without a
domain, those made for code sources, and the list of those in use.  What can be said of
them without following any operation stands here.

* `domainOf` — the first two places as one: the domain that a loader has for a code
  source, or for none.
* `DomainsApart` — a domain is had by one loader, for one code source.
* `Listed` — the domains in use are those of the modules, each once.
* `Retains` — no loader loses a domain that it has made.
-/

namespace Loading

/-- Of a list that grows at its end, the repetitions are erased as it grows. -/
theorem eraseDupsBy_concat {α : Type} (r : α → α → Bool) (l : List α) (a : α) :
    (l ++ [a]).eraseDupsBy r =
      if (l.eraseDupsBy r).any (r a) then l.eraseDupsBy r else l.eraseDupsBy r ++ [a] := by
  have hloop : ∀ seen, List.eraseDupsBy.loop r (l ++ [a]) seen =
      if (List.eraseDupsBy.loop r l seen).any (r a) then List.eraseDupsBy.loop r l seen
      else List.eraseDupsBy.loop r l seen ++ [a] := by
    induction l with
    | nil =>
        intro seen
        cases hseen : seen.any (r a) <;> simp [List.eraseDupsBy.loop, hseen]
    | cons b l ih =>
        intro seen
        cases hseen : seen.any (r b) <;> simp only [List.cons_append, List.eraseDupsBy.loop, hseen]
        · exact ih (b :: seen)
        · exact ih seen
  exact hloop []

namespace Loaders

/-- The domain that a loader has for definitions from a code source, or for definitions
without a domain. -/
def domainOf (s : Loaders) (id : LoaderId) : Option CodeSource → Option ProtectionDomain
  | none => (s.tablesOf id).defaultDomain
  | some source => (s.tablesOf id).sourceDomains.find? source

@[simp] theorem domainOf_start (id : LoaderId) (source : Option CodeSource) :
    ({} : Loaders).domainOf id source = none := by
  cases source <;> rfl

/-- The domain that a loader has for a code source or for none, made when it is first
needed. -/
def provide (s : Loaders) (id : LoaderId) : Option CodeSource → ProtectionDomain × Loaders
  | none => s.defaultDomain id
  | some source => s.sourceDomain id source

/-- No loader loses a domain. -/
def KeepsDomains (s s' : Loaders) : Prop :=
  ∀ id source d, s.domainOf id source = some d → s'.domainOf id source = some d

/-- The domains in use of a loader are those of the modules it defined, each once, oldest
first.  Domains are told apart by their numbers. -/
def Listed (s : Loaders) (id : LoaderId) : Prop :=
  (s.tablesOf id).domains =
    ((s.defined id).map (·.domain)).eraseDupsBy fun d e => d.id == e.id

/-! ## Changes beside the domains -/

/-- No loader was made, and the loaders have the same domains. -/
structure SameDomains (s s' : Loaders) : Prop where
  /-- No loader was made. -/
  created : s'.created = s.created
  /-- Numbers of loaders are only used up. -/
  nextLoader : s.nextLoader ≤ s'.nextLoader
  /-- Numbers of domains are only used up. -/
  nextDomain : s.nextDomain ≤ s'.nextDomain
  /-- The loaders have the same domains. -/
  domainOf : ∀ id source, s'.domainOf id source = s.domainOf id source

/-- The state has changed only beside the domains and the definitions. -/
structure SparesDomains (s s' : Loaders) : Prop extends SameDomains s s' where
  /-- The same is defined. -/
  defined : ∀ id, s'.defined id = s.defined id
  /-- The same domains are in use. -/
  domains : ∀ id, (s'.tablesOf id).domains = (s.tablesOf id).domains

/-- A change of one loader's tables that leaves its own domains alone. -/
theorem SameDomains.onTables (s : Loaders) (id : LoaderId) {f : LoaderTables → LoaderTables}
    (hdefault : ∀ t, (f t).defaultDomain = t.defaultDomain)
    (hsources : ∀ t, (f t).sourceDomains = t.sourceDomains) : SameDomains s (s.onTables id f) where
  created := rfl
  nextLoader := Nat.le_refl _
  nextDomain := Nat.le_refl _
  domainOf k source := by
    cases source with
    | none => exact tablesOf_onTables_congr s id k LoaderTables.defaultDomain hdefault
    | some source =>
        exact tablesOf_onTables_congr s id k (fun t => t.sourceDomains.find? source)
          fun t => congrArg (Table.find? · source) (hsources t)

theorem SameDomains.recordDefined (s : Loaders) (id : LoaderId) (m : Module) :
    SameDomains s (s.onTables id fun t => t.recordDefined m) :=
  .onTables s id (fun _ => rfl) fun _ => rfl

theorem SameDomains.recordDomain (s : Loaders) (id : LoaderId) (d : ProtectionDomain) :
    SameDomains s (s.onTables id fun t => t.recordDomain d) := by
  apply onTables <;> intro t <;> unfold LoaderTables.recordDomain <;> split <;> rfl

namespace SparesDomains

theorem refl (s : Loaders) : SparesDomains s s :=
  ⟨⟨rfl, Nat.le_refl _, Nat.le_refl _, fun _ _ => rfl⟩, fun _ => rfl, fun _ => rfl⟩

/-- A change of other fields of one loader's tables. -/
theorem onTables (s : Loaders) (id : LoaderId) {f : LoaderTables → LoaderTables}
    (hdefault : ∀ t, (f t).defaultDomain = t.defaultDomain)
    (hsources : ∀ t, (f t).sourceDomains = t.sourceDomains)
    (hdefined : ∀ t, (f t).defined = t.defined) (hdomains : ∀ t, (f t).domains = t.domains) :
    SparesDomains s (s.onTables id f) where
  toSameDomains := .onTables s id hdefault hsources
  defined k := tablesOf_onTables_congr s id k LoaderTables.defined hdefined
  domains k := tablesOf_onTables_congr s id k LoaderTables.domains hdomains

theorem lockFor (s : Loaders) (id : LoaderId) (name : Name) :
    SparesDomains s (s.lockFor id name).2 := by
  show SparesDomains s (s.onTables id fun t =>
    { t with locks := ((s.tablesOf id).locks.lockFor name).2 })
  apply onTables <;> intro t <;> rfl

theorem reserve (s : Loaders) (id : LoaderId) (name : Name) (signers : CertificateSet) :
    SparesDomains s (s.reserve id name signers).2 := by
  rw [reserve_snd]
  apply onTables <;> intro t <;> rfl

theorem release (s : Loaders) (id : LoaderId) (package : String) (committed : Bool) :
    SparesDomains s (s.release id package committed) := by
  apply onTables <;> intro t <;> rfl

theorem sign (s : Loaders) (m : Module) (signers : CertificateSet) :
    SparesDomains s (s.sign m signers).2 :=
  ⟨⟨rfl, Nat.le_refl _, Nat.le_refl _, fun id source => by cases source <;> rfl⟩, fun _ => rfl,
    fun _ => rfl⟩

theorem adopt (s : Loaders) (id : LoaderId) (m : Module) : SparesDomains s (s.adopt id m).2 := by
  unfold Loaders.adopt
  split
  · exact refl s
  · show SparesDomains s (s.onTables id fun t => { t with loaded := t.loaded.set m.name m })
    apply onTables <;> intro t <;> rfl

theorem remember (s : Loaders) (id : LoaderId) (name : Name) (m : Module) :
    SparesDomains s (s.onTables id fun t => t.remember name m) := by
  apply onTables <;> intro t <;> unfold LoaderTables.remember <;> split <;> rfl

end SparesDomains

theorem Listed.spared {s s' : Loaders} {id : LoaderId} (h : s.Listed id)
    (hs : SparesDomains s s') : s'.Listed id := by
  unfold Listed
  rw [hs.domains, hs.defined]
  exact h

/-! ## A domain for each source -/

/-- No loader was lost, and the domains of loaders last. -/
structure Retains (s s' : Loaders) : Prop where
  /-- No loader was lost. -/
  created : ∀ l ∈ s.created, l ∈ s'.created
  /-- Numbers of loaders are only used up. -/
  nextLoader : s.nextLoader ≤ s'.nextLoader
  /-- Domains last. -/
  domainOf : ∀ {id source d}, s.domainOf id source = some d → s'.domainOf id source = some d

/-- A domain is had by one loader, for one code source or for none. -/
structure DomainsApart (s : Loaders) : Prop where
  /-- The number of a domain tells which loader has it, and what for. -/
  apart : ∀ {id id' source source' d d'}, s.domainOf id source = some d →
    s.domainOf id' source' = some d' → d.id = d'.id → id = id' ∧ source = source'
  /-- Numbers that are yet to come have not been used. -/
  id_lt : ∀ {id source d}, s.domainOf id source = some d → d.id < s.nextDomain
  /-- A loader that is yet to come has no domains. -/
  unmade : ∀ {id : LoaderId}, s.nextLoader ≤ id.val → ∀ source, s.domainOf id source = none
  /-- The loaders on a path have been made. -/
  path_lt : ∀ l ∈ s.created, ∀ a ∈ l.path, a.id.val < s.nextLoader

theorem Retains.refl (s : Loaders) : Retains s s :=
  ⟨fun _ hl => hl, Nat.le_refl _, fun h => h⟩

theorem Retains.trans {s₁ s₂ s₃ : Loaders} (h₁ : Retains s₁ s₂) (h₂ : Retains s₂ s₃) :
    Retains s₁ s₃ :=
  ⟨fun l hl => h₂.created l (h₁.created l hl), Nat.le_trans h₁.nextLoader h₂.nextLoader,
    fun h => h₂.domainOf (h₁.domainOf h)⟩

theorem KeepsDomains.trans {s₁ s₂ s₃ : Loaders} (h₁ : KeepsDomains s₁ s₂)
    (h₂ : KeepsDomains s₂ s₃) : KeepsDomains s₁ s₃ :=
  fun id source d hd => h₂ id source d (h₁ id source d hd)

theorem SameDomains.keepsDomains {s s' : Loaders} (h : SameDomains s s') : KeepsDomains s s' :=
  fun id source _ hd => (h.domainOf id source).trans hd

theorem SameDomains.retains {s s' : Loaders} (h : SameDomains s s') : Retains s s' where
  created l hl := by
    rw [h.created]
    exact hl
  nextLoader := h.nextLoader
  domainOf hd := by
    rw [h.domainOf]
    exact hd

namespace DomainsApart

variable {s s' : Loaders} {id : LoaderId} {source : Option CodeSource}

/-- Before anything is made, there are no domains. -/
theorem start : DomainsApart {} where
  apart h := absurd h (by simp)
  id_lt h := absurd h (by simp)
  unmade _ source := domainOf_start _ source
  path_lt l hl := by simp at hl

theorem same (h : DomainsApart s) (hs : SameDomains s s') : DomainsApart s' where
  apart hd hd' := by
    rw [hs.domainOf] at hd hd'
    exact h.apart hd hd'
  id_lt hd := by
    rw [hs.domainOf] at hd
    exact Nat.lt_of_lt_of_le (h.id_lt hd) hs.nextDomain
  unmade hid source := by
    rw [hs.domainOf]
    exact h.unmade (Nat.le_trans hs.nextLoader hid) source
  path_lt l hl a ha := by
    rw [hs.created] at hl
    exact Nat.lt_of_lt_of_le (h.path_lt l hl a ha) hs.nextLoader

/-- A loader has one domain for each source. -/
theorem id_eq_iff (h : DomainsApart s) {id' : LoaderId} {source' : Option CodeSource}
    {d d' : ProtectionDomain} (hd : s.domainOf id source = some d)
    (hd' : s.domainOf id' source' = some d') : d.id = d'.id ↔ id = id' ∧ source = source' := by
  refine ⟨h.apart hd hd', ?_⟩
  rintro ⟨rfl, rfl⟩
  rw [Option.some.inj (hd.symm.trans hd')]

end DomainsApart

/-! ## Providing a domain -/

section Provide

variable {s : Loaders} {id : LoaderId} {source : Option CodeSource}

/-- A domain that a loader has is provided again. -/
theorem provide_of_some {d : ProtectionDomain} (h : s.domainOf id source = some d) :
    s.provide id source = (d, s) := by
  cases source with
  | none =>
      change (s.tablesOf id).defaultDomain = some d at h
      simp only [provide, defaultDomain, h]
  | some source =>
      change (s.tablesOf id).sourceDomains.find? source = some d at h
      simp only [provide, sourceDomain, h]

/-- A domain that a loader does not have is made, with the next number. -/
theorem provide_of_none (h : s.domainOf id source = none) :
    (s.provide id source).1.id = s.nextDomain ∧
      (s.provide id source).2.nextDomain = s.nextDomain + 1 ∧
      ∀ k o, (s.provide id source).2.domainOf k o =
        if k = id ∧ o = source then some (s.provide id source).1 else s.domainOf k o := by
  cases source with
  | none =>
      change (s.tablesOf id).defaultDomain = none at h
      simp only [provide, defaultDomain, h]
      refine ⟨rfl, rfl, fun k o => ?_⟩
      cases o <;> simp only [domainOf, tablesOf_onTables] <;> by_cases hk : k = id <;>
        simp [hk, freshDomain, tablesOf]
  | some source =>
      change (s.tablesOf id).sourceDomains.find? source = none at h
      simp only [provide, sourceDomain, h]
      refine ⟨rfl, rfl, fun k o => ?_⟩
      cases o <;> simp only [domainOf, tablesOf_onTables] <;> by_cases hk : k = id <;>
        simp [hk, freshDomain, tablesOf, Table.find?_set]

/-- Domains are made beside the modules. -/
theorem beside_provide (s : Loaders) (id : LoaderId) (source : Option CodeSource) :
    s.Beside (s.provide id source).2 := by
  cases source with
  | none => exact .defaultDomain s id
  | some source => exact .sourceDomain s id source

theorem defined_provide (s : Loaders) (id : LoaderId) (source : Option CodeSource)
    (k : LoaderId) : (s.provide id source).2.defined k = s.defined k :=
  (beside_provide s id source).defined k

/-- What is provided is what the loader has from then on. -/
theorem domainOf_provide (s : Loaders) (id : LoaderId) (source : Option CodeSource) :
    (s.provide id source).2.domainOf id source = some (s.provide id source).1 := by
  cases hd : s.domainOf id source with
  | some d =>
      rw [provide_of_some hd]
      exact hd
  | none =>
      obtain ⟨-, -, hdomainOf⟩ := provide_of_none hd
      rw [hdomainOf, if_pos ⟨rfl, rfl⟩]

/-- A domain that is provided replaces no other one. -/
theorem retains_provide (s : Loaders) (id : LoaderId) (source : Option CodeSource) :
    s.Retains (s.provide id source).2 where
  created := (Grows.beside (beside_provide s id source)).created
  nextLoader := (beside_provide s id source).nextLoader
  domainOf {k o d} hk := by
    cases hd : s.domainOf id source with
    | some d' =>
        rw [provide_of_some hd]
        exact hk
    | none =>
        obtain ⟨-, -, hdomainOf⟩ := provide_of_none hd
        rw [hdomainOf, if_neg]
        · exact hk
        · rintro ⟨rfl, rfl⟩
          rw [hd] at hk
          cases hk

theorem keepsDomains_provide (s : Loaders) (id : LoaderId) (source : Option CodeSource) :
    s.KeepsDomains (s.provide id source).2 :=
  fun _ _ _ => (retains_provide s id source).domainOf

/-- A new domain is unlike all others. -/
theorem DomainsApart.provide (h : DomainsApart s) (hid : id.val < s.nextLoader)
    (source : Option CodeSource) : DomainsApart (s.provide id source).2 := by
  cases hd : s.domainOf id source with
  | some d =>
      rw [provide_of_some hd]
      exact h
  | none =>
      obtain ⟨hnew, hnext, hdomainOf⟩ := provide_of_none hd
      have hbeside := beside_provide s id source
      refine ⟨?_, ?_, ?_, ?_⟩
      · intro k k' o o' d d' hk hk' heq
        rw [hdomainOf] at hk hk'
        split at hk <;> split at hk'
        · rename_i hpair hpair'
          exact ⟨hpair.1.trans hpair'.1.symm, hpair.2.trans hpair'.2.symm⟩
        · have hlt := h.id_lt hk'
          rw [← heq, ← Option.some.inj hk, hnew] at hlt
          exact absurd hlt (Nat.lt_irrefl _)
        · have hlt := h.id_lt hk
          rw [heq, ← Option.some.inj hk', hnew] at hlt
          exact absurd hlt (Nat.lt_irrefl _)
        · exact h.apart hk hk' heq
      · intro k o d hk
        rw [hdomainOf] at hk
        rw [hnext]
        split at hk
        · rw [← Option.some.inj hk, hnew]
          exact Nat.lt_succ_self _
        · exact Nat.lt_succ_of_lt (h.id_lt hk)
      · intro k hk o
        have hlt : s.nextLoader ≤ k.val := Nat.le_trans hbeside.nextLoader hk
        rw [hdomainOf, if_neg]
        · exact h.unmade hlt o
        · rintro ⟨rfl, -⟩
          exact absurd hid (Nat.not_lt.2 hlt)
      · intro l hl a ha
        rw [hbeside.created] at hl
        exact Nat.lt_of_lt_of_le (h.path_lt l hl a ha) hbeside.nextLoader

theorem Listed.provide {k : LoaderId} (h : s.Listed k) (id : LoaderId)
    (source : Option CodeSource) : (s.provide id source).2.Listed k := by
  unfold Listed
  rw [(beside_provide s id source).domains, defined_provide]
  exact h

end Provide

/-! ## Making loaders -/

section Create

variable {s : Loaders} (h : DomainsApart s) (k : Kind) (parent : Option Loader)
  (context : Context)

include h

/-- A new loader has no domains, and the others keep theirs. -/
theorem DomainsApart.domainOf_create (id : LoaderId) (source : Option CodeSource) :
    (s.create k parent context).2.domainOf id source = s.domainOf id source := by
  by_cases hid : id = ⟨s.nextLoader⟩
  · subst hid
    rw [h.unmade (Nat.le_refl _) source]
    unfold domainOf
    rw [tablesOf_create_self]
    cases source <;> rfl
  · cases source <;> simp only [domainOf, tablesOf_create_of_ne s k parent context hid]

theorem DomainsApart.retains_create : s.Retains (s.create k parent context).2 where
  created l hl := by
    rw [created_create]
    exact List.mem_append_left _ hl
  nextLoader := Nat.le_succ _
  domainOf hd := by
    rw [h.domainOf_create]
    exact hd

theorem DomainsApart.create (hparent : ∀ l ∈ parent, l ∈ s.created) :
    DomainsApart (s.create k parent context).2 where
  apart hd hd' := by
    rw [h.domainOf_create] at hd hd'
    exact h.apart hd hd'
  id_lt hd := by
    rw [h.domainOf_create] at hd
    exact h.id_lt hd
  unmade hid source := by
    rw [h.domainOf_create]
    exact h.unmade (Nat.le_of_succ_le hid) source
  path_lt l hl a ha := by
    show a.id.val < s.nextLoader + 1
    rw [created_create, List.mem_append, List.mem_singleton] at hl
    rcases hl with hl | rfl
    · exact Nat.lt_succ_of_lt (h.path_lt l hl a ha)
    · rcases List.mem_cons.1 ha with rfl | ha
      · rw [id_create]
        exact Nat.lt_succ_self _
      · rw [ancestors_create] at ha
        cases parent with
        | none => simp at ha
        | some p => exact Nat.lt_succ_of_lt (h.path_lt p (hparent p rfl) a ha)

end Create

/-- A new loader has defined nothing. -/
theorem defined_create (s : Loaders) (k : Kind) (parent : Option Loader) (context : Context)
    (id : LoaderId) : (s.create k parent context).2.defined id = [] ∨
      (s.create k parent context).2.defined id = s.defined id := by
  by_cases hid : id = ⟨s.nextLoader⟩
  · subst hid
    exact Or.inl (blank_create s k parent context).defined
  · exact Or.inr (congrArg LoaderTables.defined (tablesOf_create_of_ne s k parent context hid))

theorem Listed.create {s : Loaders} {id : LoaderId} (h : s.Listed id) (k : Kind)
    (parent : Option Loader) (context : Context) :
    (s.create k parent context).2.Listed id := by
  by_cases hid : id = ⟨s.nextLoader⟩
  · subst hid
    have hblank := blank_create s k parent context
    unfold Listed defined
    rw [hblank.domains, hblank.defined]
    rfl
  · unfold Listed defined
    rw [tablesOf_create_of_ne s k parent context hid]
    exact h

/-! ## Recording a module and its domain -/

theorem domains_recordDomain (t : LoaderTables) (d : ProtectionDomain) :
    (t.recordDomain d).domains =
      if t.domains.any fun e => d.id == e.id then t.domains else t.domains ++ [d] := by
  have hsame : (fun e : ProtectionDomain => decide (e.id = d.id)) = fun e => d.id == e.id := by
    funext e
    rw [Bool.beq_eq_decide_eq, decide_eq_decide]
    exact eq_comm
  unfold LoaderTables.recordDomain
  rw [hsame]
  split <;> rfl

/-- A module that is recorded with its domain keeps the domains in use listed. -/
theorem Listed.record {s : Loaders} {k : LoaderId} (h : s.Listed k) (id : LoaderId) (m : Module) :
    ((s.onTables id fun t => t.recordDefined m).onTables id fun t =>
      t.recordDomain m.domain).Listed k := by
  by_cases hk : k = id
  · subst hk
    unfold Listed defined at h ⊢
    rw [tablesOf_onTables_self, tablesOf_onTables_self, domains_recordDomain,
      LoaderTables.recordDomain_defined]
    unfold LoaderTables.recordDefined
    rw [List.map_append, List.map_singleton, eraseDupsBy_concat, ← h]
  · unfold Listed defined
    rw [tablesOf_onTables_of_ne _ _ hk, tablesOf_onTables_of_ne _ _ hk]
    exact h

end Loaders
end Loading
