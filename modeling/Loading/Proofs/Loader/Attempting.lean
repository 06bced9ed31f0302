import Loading.Proofs.Loader.Defining
import Loading.Proofs.Loader.Domains
import Loading.Proofs.Reentry.Exchanges

/-!
# Attempts to define a module

What becomes of a definition, and of an attempt to find a module and to define it, when
nobody calls the loader back.  Others may be at work at the same time, as long as they
leave alone what loaders answer and define and what signers they know; and whoever holds
the lock for a name relies on just that.  If they take no domain away either — which is what
`kept` says throughout — then the domain of a definition can be told from what the loader has
when all is over.

* `Unmoved`, `Gained` — what a change leaves alone; who has gained an answer.
* `NamedDefinition` — the ways of a definition under a name, in a domain that is given or in
  the default domain of the loader.
* `Attempt` — a loader asks its finder, and defines what that finds, in the domain that it has
  for the code source.
* `Among` — among others, a task ends in a postcondition.
* `among_define`, `among_findAndDefine` — how definitions and attempts end.
-/

namespace Loading

open Interaction Service

/-- A question with its answer. -/
abbrev Exchange : Type :=
  (q : LoaderQuestion) × q.Answer

/-- Is a collaborator called?  Loading locks are nobody's. -/
def LoaderQuestion.isCall : LoaderQuestion → Bool
  | .enter _ _ => false
  | .leave _ _ => false
  | _ => true

namespace Loaders

/-- Loaders answer as before and have defined nothing, and signers are known as before
except by some loaders; no loader loses a domain, if domains are kept. -/
structure Unmoved (kept : Prop) (ids : List LoaderId) (s s' : Loaders) : Prop where
  /-- Loaders answer as before. -/
  loaded : ∀ id n, s'.loaded? id n = s.loaded? id n
  /-- They have defined nothing. -/
  defined : ∀ id, s'.defined id = s.defined id
  /-- Elsewhere, the same signers are known. -/
  signers : ∀ id, id ∉ ids → (s'.tablesOf id).signers = (s.tablesOf id).signers
  /-- Domains last. -/
  domains : kept → s.KeepsDomains s'

/-- Just some loaders have gained an answer for a name, which is a module that at most
one loader has defined; no loader loses a domain, if domains are kept. -/
structure Gained (kept : Prop) (name : Name) (m : Module) (ids : List LoaderId)
    (definer : Option LoaderId) (s s' : Loaders) : Prop where
  /-- These loaders answer the name by the module, and otherwise all answer as before. -/
  loaded : ∀ id n, s'.loaded? id n = if id ∈ ids ∧ n = name then some m else s.loaded? id n
  /-- The module has been added to the definitions of the one loader. -/
  defined : ∀ id, s'.defined id =
    if some id = definer then s.defined id ++ [m] else s.defined id
  /-- Domains last. -/
  domains : kept → s.KeepsDomains s'

end Loaders

open Loaders

/-- What a loader asks of a definer for what its finder found. -/
def Loader.requestFor (l : Loader) (name : Name) (found : FoundModule)
    (domain : ProtectionDomain) : DefinitionRequest :=
  ⟨some name, found.bytes, 0, found.bytes.length, domain, l.id⟩

/-- The domain of a definition is the one that was given, or else the one that the loader has
for definitions without a domain. -/
def Loader.InDomain (kept : Prop) (s' : Loaders) (l : Loader) :
    Option ProtectionDomain → ProtectionDomain → Prop
  | some given, domain => domain = given
  | none, domain => kept → s'.domainOf l.id none = some domain

/-- The ways of a definition under a name that has been checked, while its lock is held:
what is asked, and what comes of it. -/
inductive NamedDefinition (kept : Prop) (s s' : Loaders) (l : Loader) (name : Name)
    (given : Option ProtectionDomain) (request : ProtectionDomain → DefinitionRequest) :
    List Exchange → Except LoadError Module → Prop
  /-- The loader knows the name. -/
  | duplicate (known : (s.loaded? l.id name).isSome = true) :
      NamedDefinition kept s s' l name given request [] (.error (.definition name .duplicate))
  /-- The signers of the domain are not those of the package. -/
  | refused {domain : ProtectionDomain} {c : CertificateSet}
      (inDomain : l.InDomain kept s' given domain)
      (known : (s.tablesOf l.id).signers.certificatesFor? name.package = some c)
      (differ : c.matches domain.certificates = false) :
      NamedDefinition kept s s' l name given request [] (.error (.signerMismatch name name.package))
  /-- The definer fails. -/
  | undefined {domain : ProtectionDomain} {e : LoadError}
      (inDomain : l.InDomain kept s' given domain) :
      NamedDefinition kept s s' l name given request
        [⟨.produce l.context.key (request domain), .error e⟩] (.error e)
  /-- The definer makes a module that the loader objects to. -/
  | rejected {domain : ProtectionDomain} {m : Module} {e : LoadError}
      (inDomain : l.InDomain kept s' given domain)
      (objection : l.objection? (some name) m = some e) :
      NamedDefinition kept s s' l name given request
        [⟨.produce l.context.key (request domain), .ok m⟩] (.error e)
  /-- The definer makes a module of that name for the loader. -/
  | defined {domain : ProtectionDomain} {m : Module}
      (inDomain : l.InDomain kept s' given domain) (unknown : s.loaded? l.id name = none)
      (named : m.name = name) (own : m.loader = l.id) :
      NamedDefinition kept s s' l name given request
        [⟨.produce l.context.key (request domain), .ok m⟩] (.ok m)

/-- How an attempt of a loader goes, to find a module by its own finder and to define it:
what is asked, and what comes of it.  If domains are kept, the domain is the one that the
loader has afterwards for the code source of what was found, or for none. -/
inductive Attempt (kept : Prop) (s s' : Loaders) (l : Loader) (name : Name) :
    List Exchange → Except LoadError Module → Prop
  /-- The finder finds nothing. -/
  | unfound {e : LoadError} : Attempt kept s s' l name [⟨.find l.id name, .error e⟩] (.error e)
  /-- Something is found, but the name may not be defined. -/
  | forbidden {found : FoundModule} {fault : NameFault}
      (faulty : l.rules.fault? name = some fault) :
      Attempt kept s s' l name [⟨.find l.id name, .ok found⟩] (.error (.invalidName name fault))
  /-- Something is found, but the signers of its domain are not those of the package. -/
  | refused {found : FoundModule} {domain : ProtectionDomain} {c : CertificateSet}
      (provided : kept → s'.domainOf l.id found.source = some domain)
      (known : (s.tablesOf l.id).signers.certificatesFor? name.package = some c)
      (differ : c.matches domain.certificates = false) :
      Attempt kept s s' l name [⟨.find l.id name, .ok found⟩]
        (.error (.signerMismatch name name.package))
  /-- The definer fails. -/
  | undefined {found : FoundModule} {domain : ProtectionDomain} {e : LoadError}
      (provided : kept → s'.domainOf l.id found.source = some domain) :
      Attempt kept s s' l name [⟨.find l.id name, .ok found⟩,
        ⟨.produce l.context.key (l.requestFor name found domain), .error e⟩] (.error e)
  /-- The definer makes a module that the loader objects to. -/
  | rejected {found : FoundModule} {domain : ProtectionDomain} {m : Module} {e : LoadError}
      (provided : kept → s'.domainOf l.id found.source = some domain)
      (objection : l.objection? (some name) m = some e) :
      Attempt kept s s' l name [⟨.find l.id name, .ok found⟩,
        ⟨.produce l.context.key (l.requestFor name found domain), .ok m⟩] (.error e)
  /-- The definer makes a module of that name for the loader. -/
  | defined {found : FoundModule} {domain : ProtectionDomain} {m : Module}
      (provided : kept → s'.domainOf l.id found.source = some domain)
      (named : m.name = name) (own : m.loader = l.id) :
      Attempt kept s s' l name [⟨.find l.id name, .ok found⟩,
        ⟨.produce l.context.key (l.requestFor name found domain), .ok m⟩] (.ok m)

/-! ## What changes leave alone -/

namespace Loaders

variable {kept : Prop} {ids ids' : List LoaderId} {s s₁ s₂ : Loaders}

namespace Unmoved

theorem refl (ids : List LoaderId) (s : Loaders) : Unmoved kept ids s s :=
  ⟨fun _ _ => rfl, fun _ => rfl, fun _ _ => rfl, fun _ _ _ _ hd => hd⟩

theorem trans (h₁ : Unmoved kept ids s s₁) (h₂ : Unmoved kept ids s₁ s₂) :
    Unmoved kept ids s s₂ where
  loaded id n := (h₂.loaded id n).trans (h₁.loaded id n)
  defined id := (h₂.defined id).trans (h₁.defined id)
  signers id hid := (h₂.signers id hid).trans (h₁.signers id hid)
  domains hkept := (h₁.domains hkept).trans (h₂.domains hkept)

theorem mono (h : Unmoved kept ids s s₁) (hsub : ∀ id ∈ ids, id ∈ ids') :
    Unmoved kept ids' s s₁ :=
  ⟨h.loaded, h.defined, fun id hid => h.signers id fun hmem => hid (hsub id hmem), h.domains⟩

/-- What moves nothing at all may come in between. -/
theorem onward (h₁ : Unmoved kept ids s s₁) (h₂ : Unmoved kept [] s₁ s₂) :
    Unmoved kept ids s s₂ :=
  h₁.trans (h₂.mono fun _ hid => absurd hid List.not_mem_nil)

theorem beside (h : s.Beside s₁) (hkeeps : s.KeepsDomains s₁) (ids : List LoaderId) :
    Unmoved kept ids s s₁ :=
  ⟨h.loaded?, h.defined, fun id _ => h.signers id, fun _ => hkeeps⟩

theorem lockFor (s : Loaders) (id : LoaderId) (name : Name) :
    Unmoved kept [] s (s.lockFor id name).2 :=
  .beside (.lockFor s id name) (SparesDomains.lockFor s id name).toSameDomains.keepsDomains []

theorem provide (s : Loaders) (id : LoaderId) (source : Option CodeSource) :
    Unmoved kept [] s (s.provide id source).2 :=
  .beside (beside_provide s id source) (keepsDomains_provide s id source) []

/-- A loader may change what signers it knows. -/
theorem onTables (s : Loaders) {id : LoaderId} (hid : id ∈ ids) {f : LoaderTables → LoaderTables}
    (hloaded : ∀ t, (f t).loaded = t.loaded) (hdefined : ∀ t, (f t).defined = t.defined)
    (hsame : SameDomains s (s.onTables id f)) : Unmoved kept ids s (s.onTables id f) where
  loaded k n := congrArg (Table.find? · n)
    (tablesOf_onTables_congr s id k LoaderTables.loaded hloaded)
  defined k := tablesOf_onTables_congr s id k LoaderTables.defined hdefined
  signers k hk := by
    have hne : k ≠ id := fun heq => hk (heq ▸ hid)
    rw [tablesOf_onTables_of_ne s f hne]
  domains _ := hsame.keepsDomains

theorem reserve (s : Loaders) {id : LoaderId} (hid : id ∈ ids) (name : Name)
    (signers : CertificateSet) : Unmoved kept ids s (s.reserve id name signers).2 := by
  have hspares := SparesDomains.reserve s id name signers
  rw [reserve_snd] at hspares ⊢
  exact onTables s hid (fun _ => rfl) (fun _ => rfl) hspares.toSameDomains

theorem reserve_error {id : LoaderId} {name : Name} {signers : CertificateSet} {e : LoadError}
    (h : (s.reserve id name signers).1 = .error e) :
    Unmoved kept [] s (s.reserve id name signers).2 :=
  .beside (.reserve_error h)
    (SparesDomains.reserve s id name signers).toSameDomains.keepsDomains []

theorem release (s : Loaders) {id : LoaderId} (hid : id ∈ ids) (package : String)
    (committed : Bool) : Unmoved kept ids s (s.release id package committed) :=
  onTables s hid (fun _ => rfl) (fun _ => rfl)
    (SparesDomains.release s id package committed).toSameDomains

theorem recordDomain (s : Loaders) {id : LoaderId} (hid : id ∈ ids) (d : ProtectionDomain) :
    Unmoved kept ids s (s.onTables id fun t => t.recordDomain d) :=
  onTables s hid (fun t => t.recordDomain_loaded d) (fun t => t.recordDomain_defined d)
    (.recordDomain s id d)

theorem sign (s : Loaders) (m : Module) (signers : CertificateSet) :
    Unmoved kept [] s (s.sign m signers).2 :=
  ⟨fun _ _ => rfl, fun _ => rfl, fun _ _ => rfl,
    fun _ => (SparesDomains.sign s m signers).toSameDomains.keepsDomains⟩

end Unmoved

namespace Gained

variable {name : Name} {m : Module} {gaining : List LoaderId} {definer : Option LoaderId}

theorem onward (h₁ : Gained kept name m gaining definer s s₁) (h₂ : Unmoved kept ids s₁ s₂) :
    Gained kept name m gaining definer s s₂ where
  loaded id n := by rw [h₂.loaded, h₁.loaded]
  defined id := by rw [h₂.defined, h₁.defined]
  domains hkept := (h₁.domains hkept).trans (h₂.domains hkept)

/-- What is gained after nothing has moved is gained from the start. -/
theorem since (h₁ : Unmoved kept ids s s₁) (h₂ : Gained kept name m gaining definer s₁ s₂) :
    Gained kept name m gaining definer s s₂ where
  loaded id n := by rw [h₂.loaded, h₁.loaded]
  defined id := by rw [h₂.defined, h₁.defined]
  domains hkept := (h₁.domains hkept).trans (h₂.domains hkept)

/-- A module that nobody answered with has been gained by nobody. -/
theorem of_unmoved (h : Unmoved kept ids s s₁) (name : Name) (m : Module) :
    Gained kept name m [] none s s₁ where
  loaded id n := by simp [h.loaded]
  defined id := by simp [h.defined]
  domains := h.domains

/-- A loader that remembers the module gains it as well. -/
theorem remember (h : Gained kept name m gaining definer s s₁) (id : LoaderId)
    (hnone : s.loaded? id name = none) :
    Gained kept name m (id :: gaining) definer s (s₁.onTables id fun t => t.remember name m) where
  loaded k n := by
    have hanswer : (s₁.loaded? id name).getD m = m := by
      rw [h.loaded, hnone]
      split <;> rfl
    rw [loaded?_remember, hanswer, h.loaded]
    by_cases hk : k = id
    · by_cases hn : n = name
      · simp [hk, hn]
      · simp [hn]
    · simp [hk]
  defined k := by
    rw [← h.defined]
    exact tablesOf_onTables_congr s₁ id k LoaderTables.defined fun t => t.remember_defined name m
  domains hkept :=
    (h.domains hkept).trans (SparesDomains.remember s₁ id name m).toSameDomains.keepsDomains

/-- The order of the loaders does not matter. -/
theorem congr {gaining' : List LoaderId} (h : Gained kept name m gaining definer s s₁)
    (hiff : ∀ id, id ∈ gaining' ↔ id ∈ gaining) : Gained kept name m gaining' definer s s₁ := by
  refine ⟨fun id n => ?_, h.defined, h.domains⟩
  rw [h.loaded]
  simp only [hiff]

/-- The loader that records the module has defined it. -/
theorem record (h : Gained kept name m gaining none s s₁) (id : LoaderId) :
    Gained kept name m gaining (some id) s (s₁.onTables id fun t => t.recordDefined m) where
  loaded k n := by
    have hsame := tablesOf_onTables_congr s₁ id k LoaderTables.loaded
      fun t => (rfl : (t.recordDefined m).loaded = t.loaded)
    exact (congrArg (Table.find? · n) hsame).trans (h.loaded k n)
  defined k := by
    rw [defined_recordDefined, h.defined, h.defined]
    by_cases hk : k = id
    · simp [hk]
    · simp [hk]
  domains hkept := (h.domains hkept).trans (SameDomains.recordDefined s₁ id m).keepsDomains

end Gained

end Loaders

/-! ## Among others -/

section Among

variable {α : Type} {kept : Prop} {s s₀ : Loaders} {ids : List LoaderId} {l : Loader}
  {name : Name}

/-- While others leave alone what loaders answer and define, and keep domains if that is said,
a task ends in a postcondition on the result, the state and what collaborators were asked. -/
abbrev Among (kept : Prop) (post : α → Loaders → List Exchange → Prop) (p : LoaderTask α)
    (s : Loaders) : Prop :=
  p.Amid (Unmoved kept []) LoaderQuestion.isCall s post

variable {post : α → Loaders → List Exchange → Prop}

theorem among_done {a : α} (h : ∀ s', Unmoved kept [] s s' → post a s' []) :
    Among kept post (.done a) s :=
  h

theorem among_bind {β : Type} {p : LoaderTask α} {f : α → LoaderTask β}
    {post : β → Loaders → List Exchange → Prop}
    (h : Among kept
      (fun a s₁ t₁ => Among kept (fun b s₂ t₂ => post b s₂ (t₁ ++ t₂)) (f a) s₁) p s) :
    Among kept post (p >>= f) s :=
  amid_bind (Unmoved.refl []) h

/-- What was said before others were at work still holds. -/
theorem Among.later {p : LoaderTask α} (h : Among kept post p s) (hs : Unmoved kept [] s s₀) :
    Among kept post p s₀ :=
  Amid.later (fun h₁ h₂ => h₁.trans h₂) h hs

theorem among_transact {f : Loaders → α × Loaders}
    (h : ∀ s₁ s₂, Unmoved kept [] s s₁ → Unmoved kept [] (f s₁).2 s₂ → post (f s₁).1 s₂ []) :
    Among kept post (transact f) s :=
  fun s₁ h₁ s₂ h₂ => h s₁ s₂ h₁ h₂

theorem among_observe {f : Loaders → α}
    (h : ∀ s₁ s₂, Unmoved kept [] s s₁ → Unmoved kept [] s₁ s₂ → post (f s₁) s₂ []) :
    Among kept post (observe f) s :=
  fun s₁ h₁ s₂ h₂ => h s₁ s₂ h₁ h₂

theorem among_change {f : Loaders → Loaders} {post : Unit → Loaders → List Exchange → Prop}
    (h : ∀ s₁ s₂, Unmoved kept [] s s₁ → Unmoved kept [] (f s₁) s₂ → post () s₂ []) :
    Among kept post (change f) s :=
  fun s₁ h₁ s₂ h₂ => h s₁ s₂ h₁ h₂

theorem among_ask {q : LoaderQuestion} {post : q.Answer → Loaders → List Exchange → Prop}
    (h : ∀ x s₁, Unmoved kept [] s s₁ → post x s₁ (if q.isCall then [⟨q, x⟩] else [])) :
    Among kept post (LoaderTask.ask q) s := by
  intro s₁ h₁ x s₂ h₂
  rw [List.append_nil]
  exact h x s₂ (h₁.trans h₂)

/-- The lock that is held moves nothing. -/
theorem among_locked {body : LoaderTask α}
    (hpost : ∀ a s₁ s₂ t, post a s₁ t → Unmoved kept [] s₁ s₂ → post a s₂ t)
    (hbody : ∀ s₁, Unmoved kept [] s s₁ → Among kept post body s₁) :
    Among kept post (l.locked name body) s := by
  unfold Loader.locked
  apply among_bind
  refine among_transact fun s₁ s₂ h₁ h₂ => ?_
  have hs₂ : Unmoved kept [] s s₂ := (h₁.trans (.lockFor s₁ l.id name)).trans h₂
  apply among_bind
  refine among_ask (q := .enter _ _) fun _ s₃ h₃ => ?_
  apply among_bind
  refine (hbody s₃ (hs₂.trans h₃)).weaken fun a s₄ t hdone => ?_
  apply among_bind
  refine among_ask (q := .leave _ _) fun _ s₅ h₅ => ?_
  refine among_done fun s₆ h₆ => ?_
  simpa [LoaderQuestion.isCall] using hpost a s₄ s₆ t hdone (h₅.trans h₆)

theorem Loader.InDomain.onward {given : Option ProtectionDomain} {domain : ProtectionDomain}
    (h : l.InDomain kept s given domain) (hkeeps : kept → s.KeepsDomains s₀) :
    l.InDomain kept s₀ given domain := by
  cases given with
  | some given => exact h
  | none => exact fun hkept => hkeeps hkept _ _ _ (h hkept)

/-- A definition without a domain gets the one that the loader has from then on. -/
theorem among_domainOr (given : Option ProtectionDomain) :
    Among kept (fun domain s₁ t => Unmoved kept [] s s₁ ∧ l.InDomain kept s₁ given domain ∧ t = [])
      (l.domainOr given) s := by
  cases given with
  | some d => exact among_done fun s₁ h₁ => ⟨h₁, rfl, rfl⟩
  | none =>
      refine among_transact fun s₁ s₂ h₁ h₂ => ⟨?_, fun hkept => ?_, rfl⟩
      · exact (h₁.trans (.provide s₁ l.id none)).trans h₂
      · exact h₂.domains hkept _ _ _ (domainOf_provide s₁ l.id none)

/-! ## Definitions -/

/-- What a definition leaves behind: the module, where there was none of its name, or at
most some other signers of the loader's packages. -/
def Added (kept : Prop) (s : Loaders) (ids : List LoaderId) (l : Loader)
    (r : Except LoadError Module) (s' : Loaders) : Prop :=
  match r with
  | .ok m => s.loaded? l.id m.name = none ∧ Gained kept m.name m [l.id] (some l.id) s s'
  | .error _ => Unmoved kept (l.id :: ids) s s'

theorem Added.onward {r : Except LoadError Module} {s₁ s₂ : Loaders} (h : Added kept s ids l r s₁)
    (hunmoved : Unmoved kept [] s₁ s₂) : Added kept s ids l r s₂ := by
  cases r with
  | ok m => exact ⟨h.1, h.2.onward hunmoved⟩
  | error e => exact Unmoved.onward h hunmoved

/-- After nothing has moved, a definition leaves behind the same as from the start. -/
theorem Added.since {r : Except LoadError Module} {s₁ : Loaders} (hs : Unmoved kept ids s s₀)
    (h : Added kept s₀ [] l r s₁) : Added kept s ids l r s₁ := by
  cases r with
  | ok m => exact ⟨(hs.loaded l.id m.name).symm.trans h.1, .since hs h.2⟩
  | error e =>
      have hbefore : Unmoved kept (l.id :: ids) s s₀ := hs.mono fun _ => List.mem_cons_of_mem _
      exact hbefore.trans (Unmoved.mono h fun _ hid => List.mem_singleton.1 hid ▸
        List.mem_cons_self)

theorem Added.domains {r : Except LoadError Module} (h : Added kept s ids l r s₀) :
    kept → s.KeepsDomains s₀ := by
  cases r with
  | ok m => exact h.2.domains
  | error e => exact Unmoved.domains h

/-- A reservation that is dropped moves nothing but the signers of the loader. -/
theorem among_drop {e : LoadError} (hs : Unmoved kept (l.id :: ids) s s₀) (package : String) :
    Among kept (fun r s' t => Unmoved kept (l.id :: ids) s s' ∧ r = .error e ∧ t = []) (do
      change fun s => s.release l.id package false
      return .error e : LoaderTask (Except LoadError Module)) s₀ := by
  have hself : l.id ∈ l.id :: ids := List.mem_cons_self
  apply among_bind
  refine among_change fun s₁ s₂ h₁ h₂ => ?_
  have hs₂ := ((hs.onward h₁).trans (.release s₁ hself package false)).onward h₂
  exact among_done fun s₃ h₃ => ⟨hs₂.onward h₃, rfl, rfl⟩

/-- A module that has become the answer for its name is recorded. -/
theorem among_record {m : Module} (hgained : Gained kept m.name m [l.id] none s s₀)
    (domain : ProtectionDomain) (package : String) :
    Among kept (fun r s' t => Gained kept m.name m [l.id] (some l.id) s s' ∧ r = .ok m ∧ t = []) (do
      change fun s => s.release l.id package true
      change fun s => s.onTables l.id fun t => t.recordDefined m
      change fun s => s.onTables l.id fun t => t.recordDomain domain
      return .ok m : LoaderTask (Except LoadError Module)) s₀ := by
  have hself : l.id ∈ [l.id] := List.mem_singleton_self _
  apply among_bind
  refine among_change fun s₁ s₂ h₁ h₂ => ?_
  have hgained₂ := ((hgained.onward h₁).onward (.release s₁ hself package true)).onward h₂
  apply among_bind
  refine among_change fun s₃ s₄ h₃ h₄ => ?_
  have hgained₄ := ((hgained₂.onward h₃).record l.id).onward h₄
  apply among_bind
  refine among_change fun s₅ s₆ h₅ h₆ => ?_
  have hgained₆ := ((hgained₄.onward h₅).onward (.recordDomain s₅ hself domain)).onward h₆
  exact among_done fun s₇ h₇ => ⟨hgained₆.onward h₇, rfl, rfl⟩

/-- With a reservation open, a module is entered if its name has no answer. -/
theorem among_install (hs : Unmoved kept (l.id :: ids) s s₀) (m : Module)
    (domain : ProtectionDomain) (package : String) :
    Among kept (fun r s' t => Added kept s ids l r s' ∧ t = [] ∧
        r = if (s.loaded? l.id m.name).isSome then .error (.definition m.name .duplicate)
          else .ok m)
      (l.install m domain package) s₀ := by
  unfold Loader.install
  apply among_bind
  refine among_transact fun s₁ s₂ h₁ h₂ => ?_
  have hs₁ : Unmoved kept (l.id :: ids) s s₁ := hs.onward h₁
  cases hloaded : s.loaded? l.id m.name with
  | some x =>
      have hknown : (s₁.loaded? l.id m.name).isSome = true := by
        rw [hs₁.loaded, hloaded]
        rfl
      rw [adopt_eq_of_isSome hknown] at h₂ ⊢
      refine (among_drop (hs₁.onward h₂) package).weaken ?_
      rintro r s₃ t ⟨hdropped, rfl, rfl⟩
      exact ⟨hdropped, rfl, rfl⟩
  | none =>
      rw [adopt_eq ((hs₁.loaded l.id m.name).trans hloaded)] at h₂ ⊢
      have hgained : Gained kept m.name m [l.id] none s s₂ :=
        ((Gained.of_unmoved hs₁ m.name m).remember l.id hloaded).onward h₂
      have hrecord : ∀ {s₃}, Gained kept m.name m [l.id] none s s₃ →
          Among kept (fun r s' t => Added kept s ids l r s' ∧ t = [] ∧ r = .ok m) _ s₃ := fun h₃ =>
        (among_record h₃ domain package).weaken fun r s' t hdone => by
          obtain ⟨hgained', rfl, rfl⟩ := hdone
          exact ⟨⟨hloaded, hgained'⟩, rfl, rfl⟩
      cases hempty : domain.certificates.isEmpty with
      | true => exact hrecord hgained
      | false =>
          show Among kept _ (change (fun s => (s.sign m domain.certificates).2) >>= _) s₂
          apply among_bind
          refine among_change fun s₃ s₄ h₃ h₄ => ?_
          exact hrecord (((hgained.onward h₃).onward (.sign s₃ m domain.certificates)).onward h₄)

/-- A definition goes in one of its ways while the lock for the name is held. -/
theorem among_defineHeld (bytes : List UInt8) (start stop : Nat)
    (given : Option ProtectionDomain) :
    Among kept
      (fun r s' t => NamedDefinition kept s s' l name given
          (⟨some name, bytes, start, stop, ·, l.id⟩) t r ∧ Added kept s [] l r s')
      (l.defineHeld name bytes start stop given) s := by
  have hself : l.id ∈ [l.id] := List.mem_singleton_self _
  have hmore : ∀ id ∈ ([] : List LoaderId), id ∈ [l.id] := fun _ => nofun
  unfold Loader.defineHeld
  apply among_bind
  refine among_observe fun s₁ s₂ h₁ h₂ => ?_
  have hs₂ : Unmoved kept [] s s₂ := h₁.trans h₂
  rw [h₁.loaded]
  cases hloaded : s.loaded? l.id name with
  | some m =>
      have hknown : (s.loaded? l.id name).isSome = true := by rw [hloaded]; rfl
      exact among_done fun s₃ h₃ => ⟨.duplicate hknown, (hs₂.trans h₃).mono hmore⟩
  | none =>
      show Among kept _ (l.domainOr given >>= _) s₂
      apply among_bind
      refine (among_domainOr given).weaken ?_
      rintro d s₃ t ⟨h₃, hdomain, rfl⟩
      have hs₃ : Unmoved kept [] s s₃ := hs₂.trans h₃
      -- The domain is known now: it lasts, and what follows is told from here on.
      apply among_bind
      refine among_transact fun s₄ s₅ h₄ h₅ => ?_
      cases hreserve : (s₄.reserve l.id name d.certificates).1 with
      | error e =>
          obtain ⟨rfl, c, hc, hdiffer⟩ := Reservations.refused_of_reserve hreserve
          rw [(hs₃.trans h₄).signers l.id List.not_mem_nil] at hc
          have h₅' : Unmoved kept [] s₃ s₅ := (h₄.trans (.reserve_error hreserve)).trans h₅
          refine among_done fun s₆ h₆ => ⟨.refused (hdomain.onward ?_) hc hdiffer, ?_⟩
          · exact (h₅'.trans h₆).domains
          · exact (hs₃.trans (h₅'.trans h₆)).mono hmore
      | ok package =>
          obtain rfl := package_of_reserve hreserve
          have h₅' : Unmoved kept [l.id] s₃ s₅ :=
            ((h₄.mono hmore).trans (.reserve s₄ hself name d.certificates)).onward h₅
          show Among kept _ (LoaderTask.ask _ >>= _) s₅
          apply among_bind
          refine among_ask (q := .produce _ _) fun produced s₆ h₆ => ?_
          have h₆' : Unmoved kept [l.id] s₃ s₆ := h₅'.onward h₆
          cases produced with
          | error e =>
              refine (among_drop h₆' name.package).weaken ?_
              rintro r s₇ t ⟨hdropped, rfl, rfl⟩
              exact ⟨.undefined (hdomain.onward hdropped.domains), (hs₃.mono hmore).trans hdropped⟩
          | ok m =>
              cases hobjection : l.objection? (some name) m with
              | some e =>
                  simp only [Except.bind, hobjection]
                  refine (among_drop h₆' name.package).weaken ?_
                  rintro r s₇ t ⟨hdropped, rfl, rfl⟩
                  exact ⟨.rejected (hdomain.onward hdropped.domains) hobjection,
                    (hs₃.mono hmore).trans hdropped⟩
              | none =>
                  obtain ⟨hown, hnamed, -⟩ := Upkeep.objection?_eq_none hobjection
                  obtain rfl : m.name = name := hnamed name rfl
                  simp only [Except.bind, hobjection]
                  refine (among_install h₆' m d m.name.package).weaken ?_
                  rintro r s₇ t ⟨hadded, rfl, hr⟩
                  rw [hs₃.loaded, hloaded] at hr
                  obtain rfl : r = .ok m := hr
                  exact ⟨.defined (hdomain.onward hadded.domains) hloaded rfl hown,
                    hadded.since hs₃⟩

/-- A module that was made without a name is entered, or not, while the lock for its name
is held. -/
theorem among_enterHeld (hs : Unmoved kept ids s s₀) (m : Module) (domain : ProtectionDomain) :
    Among kept (fun r s' t => Added kept s ids l r s' ∧ t = [] ∧ ∀ m', r = .ok m' → m' = m)
      (l.enterHeld m domain) s₀ := by
  have hself : l.id ∈ l.id :: ids := List.mem_cons_self
  have hmore : ∀ id ∈ ids, id ∈ l.id :: ids := fun _ => List.mem_cons_of_mem _
  unfold Loader.enterHeld
  apply among_bind
  refine among_transact fun s₁ s₂ h₁ h₂ => ?_
  have hs₁ : Unmoved kept ids s s₁ := hs.onward h₁
  cases hreserve : (s₁.reserve l.id m.name domain.certificates).1 with
  | error e =>
      have hs₂ := (hs₁.onward (.reserve_error hreserve)).onward h₂
      exact among_done fun s₃ h₃ => ⟨(hs₂.onward h₃).mono hmore, rfl, fun _ => nofun⟩
  | ok package =>
      have hs₂ : Unmoved kept (l.id :: ids) s s₂ :=
        ((hs₁.mono hmore).trans (.reserve s₁ hself m.name domain.certificates)).onward h₂
      refine (among_install hs₂ m domain package).weaken ?_
      rintro r s₃ t ⟨hadded, rfl, hr⟩
      refine ⟨hadded, rfl, fun m' hm' => ?_⟩
      rw [hr] at hm'
      split at hm'
      · cases hm'
      · exact (Except.ok.inj hm').symm

/-- A definition leaves behind the module that it returns, or at most some other signers. -/
theorem among_define (hs : Unmoved kept [] s s₀) (name : Option Name) (bytes : List UInt8)
    (start stop : Nat) (domain : Option ProtectionDomain) :
    Among kept (fun r s' _ => Added kept s [] l r s') (l.define name bytes start stop domain)
      s₀ := by
  have hmore : ∀ id ∈ ([] : List LoaderId), id ∈ [l.id] := fun _ => List.mem_cons_of_mem _
  unfold Loader.define
  split
  · exact among_done fun s₁ h₁ => (hs.onward h₁).mono hmore
  · split
    · exact among_done fun s₁ h₁ => (hs.onward h₁).mono hmore
    · cases name with
      | some name =>
          refine among_locked (fun r s₁ s₂ t => Added.onward) fun s₁ h₁ => ?_
          refine (among_defineHeld _ _ _ _).weaken ?_
          exact fun r s' t hdone => hdone.2.since (hs.onward h₁)
      | none =>
          show Among kept _ (l.defineUnnamed bytes start stop domain) s₀
          unfold Loader.defineUnnamed
          apply among_bind
          refine (among_domainOr domain).weaken fun d s₁ _ h₁ => ?_
          apply among_bind
          refine among_ask (q := .produce _ _) fun produced s₂ h₂ => ?_
          have hs₂ : Unmoved kept [] s s₂ := (hs.onward h₁.1).onward h₂
          cases produced with
          | error e => exact among_done fun s₃ h₃ => (hs₂.onward h₃).mono hmore
          | ok m =>
              cases hobjection : l.objection? none m with
              | some e =>
                  simp only [hobjection]
                  exact among_done fun s₃ h₃ => (hs₂.onward h₃).mono hmore
              | none =>
                  simp only [hobjection]
                  refine among_locked (fun r s₃ s₄ t => Added.onward) fun s₃ h₃ => ?_
                  refine (among_enterHeld (hs₂.onward h₃) m d).weaken ?_
                  exact fun r s' t hdone => hdone.1

/-! ## Attempts -/

namespace Attempt

variable {s₁ s₂ : Loaders} {t : List Exchange} {r : Except LoadError Module}

/-- An attempt is the same between other states, if the loader knew the same signers before it
and keeps its domains after it. -/
theorem transfer (h : Attempt kept s₀ s₁ l name t r)
    (hsigners : (s₀.tablesOf l.id).signers = (s.tablesOf l.id).signers)
    (hkeeps : kept → s₁.KeepsDomains s₂) : Attempt kept s s₂ l name t r := by
  have hlasts : ∀ {source domain}, (kept → s₁.domainOf l.id source = some domain) →
      kept → s₂.domainOf l.id source = some domain :=
    fun hprovided hkept => hkeeps hkept _ _ _ (hprovided hkept)
  cases h with
  | unfound => exact .unfound
  | forbidden faulty => exact .forbidden faulty
  | refused provided known differ =>
      rw [hsigners] at known
      exact .refused (hlasts provided) known differ
  | undefined provided => exact .undefined (hlasts provided)
  | rejected provided objection => exact .rejected (hlasts provided) objection
  | defined provided named own => exact .defined (hlasts provided) named own

/-- Domains that last are those of the attempt later, too. -/
theorem onward (h : Attempt kept s s₁ l name t r) (hkeeps : kept → s₁.KeepsDomains s₂) :
    Attempt kept s s₂ l name t r :=
  h.transfer rfl hkeeps

/-- While the signers of a loader have not moved, its attempts have not changed either. -/
theorem since (hs : Unmoved kept ids s s₀) (hid : l.id ∉ ids)
    (h : Attempt kept s₀ s₁ l name t r) : Attempt kept s s₁ l name t r :=
  h.transfer (hs.signers l.id hid) fun _ _ _ _ hd => hd

/-- What an attempt defines bears the name that was asked for. -/
theorem named {m : Module} (h : Attempt kept s s₀ l name t (.ok m)) : m.name = name := by
  cases h with
  | defined provided named own => exact named

end Attempt

/-- What was found is defined in one of the ways of an attempt. -/
theorem NamedDefinition.attempt {found : FoundModule} {given : Option ProtectionDomain}
    {t : List Exchange} {r : Except LoadError Module} (hnone : s.loaded? l.id name = none)
    (hprovided : ∀ {domain}, l.InDomain kept s₀ given domain → kept →
      s₀.domainOf l.id found.source = some domain)
    (h : NamedDefinition kept s s₀ l name given
      (⟨some name, found.bytes, 0, found.bytes.length, ·, l.id⟩) t r) :
    Attempt kept s s₀ l name (⟨.find l.id name, .ok found⟩ :: t) r := by
  cases h with
  | duplicate known =>
      rw [hnone] at known
      cases known
  | refused inDomain known differ => exact .refused (hprovided inDomain) known differ
  | undefined inDomain => exact .undefined (hprovided inDomain)
  | rejected inDomain objection => exact .rejected (hprovided inDomain) objection
  | defined inDomain unknown named own => exact .defined (hprovided inDomain) named own

/-- An attempt goes in one of its ways. -/
theorem among_findAndDefine (hnone : s.loaded? l.id name = none) :
    Among kept (fun r s' t => Attempt kept s s' l name t r ∧ Added kept s [] l r s')
      (l.findAndDefine name) s := by
  have hmore : ∀ id ∈ ([] : List LoaderId), id ∈ [l.id] := fun _ => nofun
  unfold Loader.findAndDefine
  apply among_bind
  refine among_ask (q := .find l.id name) fun found s₁ h₁ => ?_
  cases found with
  | error e => exact among_done fun s₂ h₂ => ⟨.unfound, (h₁.trans h₂).mono hmore⟩
  | ok found =>
      -- Whatever domain the definition is given, the loader has it for the source.
      have hdefine : ∀ {s₂ given}, Unmoved kept [] s s₂ →
          (∀ {s₃ domain}, (kept → s₂.KeepsDomains s₃) → l.InDomain kept s₃ given domain → kept →
            s₃.domainOf l.id found.source = some domain) →
          Among kept (fun r s' t => Attempt kept s s' l name (⟨.find l.id name, .ok found⟩ :: t) r ∧
            Added kept s [] l r s')
            (l.define (some name) found.bytes 0 found.bytes.length given) s₂ := by
        intro s₂ given hs₂ hprovided
        unfold Loader.define
        cases hfault : l.rules.fault? name with
        | some fault =>
            simp only [Option.bind_some, hfault, Option.map_some]
            exact among_done fun s₃ h₃ => ⟨.forbidden hfault, (hs₂.trans h₃).mono hmore⟩
        | none =>
            have hrange : ¬ (0 > found.bytes.length ∨ found.bytes.length > found.bytes.length) := by
              omega
            simp only [Option.bind_some, hfault, Option.map_none, if_neg hrange]
            refine among_locked ?_ fun s₃ h₃ => ?_
            · exact fun r s₃ s₄ t hdone hunmoved =>
                ⟨hdone.1.onward hunmoved.domains, hdone.2.onward hunmoved⟩
            · have hs₃ : Unmoved kept [] s s₃ := hs₂.trans h₃
              refine (among_defineHeld _ _ _ given).weaken fun r s' t hdone => ?_
              refine ⟨?_, hdone.2.since hs₃⟩
              have hkeeps : kept → s₂.KeepsDomains s' := fun hkept =>
                (h₃.domains hkept).trans (hdone.2.domains hkept)
              exact (hdone.1.attempt ((hs₃.loaded _ _).trans hnone) (hprovided hkeeps)).since hs₃
                List.not_mem_nil
      cases hsource : found.source with
      | none =>
          simp only [hsource]
          refine hdefine h₁ fun _ hdomain => ?_
          rw [hsource]
          exact hdomain
      | some source =>
          simp only [hsource]
          show Among kept _ (some <$> (transact fun s => s.sourceDomain l.id source) >>= _) s₁
          apply among_bind
          show Among kept _ (transact (fun s => s.sourceDomain l.id source) >>= _) s₁
          apply among_bind
          refine among_transact fun s₂ s₃ h₂ h₃ => ?_
          have hs₃ := ((h₁.trans h₂).trans (.provide s₂ l.id (some source))).trans h₃
          refine among_done fun s₄ h₄ => hdefine (hs₃.trans h₄) fun hkeeps hdomain hkept => ?_
          have hgiven := hkeeps hkept _ _ _
            ((h₃.trans h₄).domains hkept _ _ _ (domainOf_provide s₂ l.id (some source)))
          rw [hsource, hgiven]
          exact congrArg some hdomain.symm

/-! ## Looking a name up -/

/-- With the lock held, a loader answers what it knows; else it remembers what it is told
from above, passes an error on, or makes an attempt of its own. -/
theorem among_lookUp {delegate : LoaderTask (Except LoadError Module)}
    {told post : Except LoadError Module → Loaders → List Exchange → Prop}
    (hs : Unmoved kept [] s s₀)
    (hknown : ∀ m s₁, s.loaded? l.id name = some m → Unmoved kept [] s s₁ → post (.ok m) s₁ [])
    (hdelegate : s.loaded? l.id name = none → Among kept told delegate s₀)
    (hanswered : ∀ m s₁ t, s.loaded? l.id name = none → told (.ok m) s₁ t →
      ∀ s₂, Unmoved kept [] s₁ s₂ → post (.ok m) (s₂.onTables l.id fun t => t.remember name m) t)
    (hfailed : ∀ e s₁ t, told (.error e) s₁ t → e.isNotFound = false → post (.error e) s₁ t)
    (hmissed : ∀ e s₁ t, s.loaded? l.id name = none → told (.error e) s₁ t →
      e.isNotFound = true →
        Among kept (fun r s₂ t' => post r s₂ (t ++ t')) (l.findAndDefine name) s₁)
    (honward : ∀ r s₁ s₂ t, post r s₁ t → Unmoved kept [] s₁ s₂ → post r s₂ t) :
    Among kept post (l.lookUp name delegate) s₀ := by
  unfold Loader.lookUp
  apply among_bind
  refine among_observe fun s₁ s₂ h₁ h₂ => ?_
  have hs₂ : Unmoved kept [] s₀ s₂ := h₁.trans h₂
  rw [(hs.trans h₁).loaded]
  cases hloaded : s.loaded? l.id name with
  | some m => exact among_done fun s₃ h₃ => hknown m s₃ hloaded ((hs.trans hs₂).trans h₃)
  | none =>
      show Among kept _ (delegate >>= _) s₂
      apply among_bind
      have hlater : Among kept told delegate s₂ := (hdelegate hloaded).later hs₂
      refine hlater.weaken fun r s₃ t htold => ?_
      cases r with
      | ok m =>
          show Among kept _ (change (fun s => s.onTables l.id fun t => t.remember name m) >>= _) s₃
          apply among_bind
          refine among_change fun s₄ s₅ h₄ h₅ => among_done fun s₆ h₆ => ?_
          simp only [List.nil_append, List.append_nil]
          exact honward _ _ _ t (hanswered m s₃ t hloaded htold s₄ h₄) (h₅.trans h₆)
      | error e =>
          show Among kept _ (if e.isNotFound then l.findAndDefine name else _) s₃
          cases hmissing : e.isNotFound with
          | false =>
              refine among_done fun s₄ h₄ => ?_
              simp only [List.nil_append, List.append_nil]
              exact honward _ _ _ t (hfailed e s₃ t htold hmissing) h₄
          | true => exact hmissed e s₃ t hloaded htold hmissing

end Among

end Loading
