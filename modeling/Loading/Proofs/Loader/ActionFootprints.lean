import Loading.Proofs.Loader.Defining
import Loading.Proofs.Loader.ActionInvariance
import Mathlib.Logic.Function.Basic

/-!
# What each action does to what loaders hold

Of the tables of a loader, some matter to what becomes of later operations, and some do
not: a lock is as good as another one, and so is a domain that has been made for the same
code source.  What matters are the `Holdings` of a loader.  The holdings of all loaders are
one function of the state, and every action of an operation changes it in one place or not
at all.

* `Loaders.holdings` — what each loader holds.
* `holdings_lockFor`, `holdings_reserve`, and so on — what each action does to it.
* `Holdings.release_reserve` — a reservation that is dropped has left nothing behind.
* `tidy_of_reaches` — at every point of a session, reservations are in order.
-/

namespace Loading

open Interaction Service

/-- What matters of the tables of a loader. -/
structure Holdings where
  /-- The modules it answers with, by name. -/
  loaded : Table Name Module
  /-- The modules it defined, oldest first. -/
  defined : List Module
  /-- The domains of the modules it defined, each once, oldest first. -/
  domains : List ProtectionDomain
  /-- The signers of its packages. -/
  signers : Reservations
  /-- The source of the domain of definitions that come without one. -/
  defaultSource : Option CodeSource
  /-- The source of the domain that is kept for a code source. -/
  keptSource : CodeSource → Option CodeSource

/-- What matters of some tables.  A domain that has not been made yet will be made for its
own source. -/
def LoaderTables.holdings (t : LoaderTables) : Holdings where
  loaded := t.loaded
  defined := t.defined
  domains := t.domains
  signers := t.signers
  defaultSource := (t.defaultDomain.map (·.source)).getD (some {})
  keptSource source := ((t.sourceDomains.find? source).map (·.source)).getD (some source)

namespace Holdings

variable (h : Holdings) (name : Name) (signers : CertificateSet) (package : String) (m : Module)

/-- What is held after signers were reserved, or refused. -/
def reserve : Holdings :=
  { h with signers := (h.signers.reserve name signers).2 }

/-- What is held after a reservation was closed. -/
def release (committed : Bool) : Holdings :=
  { h with signers := h.signers.release package committed }

/-- What is held after a module became the answer for its name. -/
def adopt : Holdings :=
  { h with loaded := h.loaded.set m.name m }

/-- What is held after an answer was remembered. -/
def remember : Holdings :=
  { h with loaded := if h.loaded.contains name then h.loaded else h.loaded.set name m }

/-- What is held after a module was added to the definitions. -/
def recordDefined : Holdings :=
  { h with defined := h.defined ++ [m] }

/-- What is held after a domain was added to those of the definitions. -/
def recordDomain (d : ProtectionDomain) : Holdings :=
  { h with domains := if h.domains.any fun e => e.id = d.id then h.domains else h.domains ++ [d] }

variable {h name signers package}

/-- A reservation that is dropped has left nothing behind. -/
theorem release_reserve (htidy : h.signers.Tidy)
    (hok : (h.signers.reserve name signers).1 = .ok package) :
    (h.reserve name signers).release package false = h := by
  show { h with signers := (h.signers.reserve name signers).2.release package false } = h
  rw [htidy.release_reserve hok]

/-- Signers that are refused are not reserved. -/
theorem reserve_of_error {e : LoadError}
    (hrefused : (h.signers.reserve name signers).1 = .error e) :
    h.reserve name signers = h := by
  show { h with signers := (h.signers.reserve name signers).2 } = h
  rw [Reservations.reserve_error hrefused]

end Holdings

namespace Loaders

/-- What each loader holds. -/
def holdings (s : Loaders) (id : LoaderId) : Holdings :=
  (s.tablesOf id).holdings

section Actions

variable (s : Loaders) (id : LoaderId)

/-- A change of one loader's tables changes what that loader holds. -/
theorem holdings_onTables (f : LoaderTables → LoaderTables) :
    (s.onTables id f).holdings =
      Function.update s.holdings id (f (s.tablesOf id)).holdings := by
  funext k
  unfold holdings
  rw [tablesOf_onTables, Function.update_apply]
  split <;> rfl

/-- A change of other tables changes nothing about what is held. -/
theorem holdings_onTables_of_eq {f : LoaderTables → LoaderTables}
    (h : (f (s.tablesOf id)).holdings = (s.tablesOf id).holdings) :
    (s.onTables id f).holdings = s.holdings := by
  rw [holdings_onTables, h]
  exact Function.update_eq_self id s.holdings

@[simp] theorem holdings_lockFor (name : Name) : (s.lockFor id name).2.holdings = s.holdings :=
  holdings_onTables_of_eq s id rfl

/-- The domain of definitions without one has the source that was held for it, and to have
made it makes no difference. -/
theorem source_defaultDomain : (s.defaultDomain id).1.source = (s.holdings id).defaultSource := by
  unfold defaultDomain holdings LoaderTables.holdings
  cases (s.tablesOf id).defaultDomain <;> rfl

@[simp] theorem holdings_defaultDomain : (s.defaultDomain id).2.holdings = s.holdings := by
  unfold defaultDomain
  cases hd : (s.tablesOf id).defaultDomain with
  | some d => rfl
  | none =>
      refine holdings_onTables_of_eq (s.freshDomain (some {})).2 id ?_
      show LoaderTables.holdings { s.tablesOf id with defaultDomain := _ } =
        (s.tablesOf id).holdings
      unfold LoaderTables.holdings
      rw [hd]
      rfl

/-- The same is true of the domain of a code source. -/
theorem source_sourceDomain (source : CodeSource) :
    (s.sourceDomain id source).1.source = (s.holdings id).keptSource source := by
  unfold sourceDomain holdings LoaderTables.holdings
  cases hd : (s.tablesOf id).sourceDomains.find? source <;> simp [hd, freshDomain]

@[simp] theorem holdings_sourceDomain (source : CodeSource) :
    (s.sourceDomain id source).2.holdings = s.holdings := by
  unfold sourceDomain
  cases hd : (s.tablesOf id).sourceDomains.find? source with
  | some d => rfl
  | none =>
      refine holdings_onTables_of_eq (s.freshDomain (some source)).2 id ?_
      show LoaderTables.holdings { s.tablesOf id with sourceDomains := _ } =
        (s.tablesOf id).holdings
      unfold LoaderTables.holdings
      congr 1
      funext k
      rw [Table.find?_set]
      by_cases hk : k = source
      · subst hk
        simp [hd]
      · rw [if_neg hk]
        rfl

theorem reserve_fst (name : Name) (signers : CertificateSet) :
    (s.reserve id name signers).1 = ((s.holdings id).signers.reserve name signers).1 := rfl

theorem holdings_reserve (name : Name) (signers : CertificateSet) :
    (s.reserve id name signers).2.holdings =
      Function.update s.holdings id ((s.holdings id).reserve name signers) :=
  holdings_onTables s id _

theorem holdings_release (package : String) (committed : Bool) :
    (s.release id package committed).holdings =
      Function.update s.holdings id ((s.holdings id).release package committed) :=
  holdings_onTables s id _

@[simp] theorem holdings_sign (m : Module) (signers : CertificateSet) :
    (s.sign m signers).2.holdings = s.holdings := rfl

theorem holdings_adopt {m : Module} (h : (s.holdings id).loaded.find? m.name = none) :
    s.adopt id m = (true, (s.adopt id m).2) ∧
      (s.adopt id m).2.holdings = Function.update s.holdings id ((s.holdings id).adopt m) := by
  have hnone : s.loaded? id m.name = none := h
  unfold adopt
  rw [hnone]
  exact ⟨rfl, holdings_onTables s id _⟩

theorem adopt_of_known {m : Module} (h : ((s.holdings id).loaded.find? m.name).isSome = true) :
    s.adopt id m = (false, s) :=
  adopt_eq_of_isSome h

theorem holdings_recordDefined (m : Module) :
    (s.onTables id fun t => t.recordDefined m).holdings =
      Function.update s.holdings id ((s.holdings id).recordDefined m) :=
  holdings_onTables s id _

theorem holdings_recordDomain (d : ProtectionDomain) :
    (s.onTables id fun t => t.recordDomain d).holdings =
      Function.update s.holdings id ((s.holdings id).recordDomain d) := by
  rw [holdings_onTables]
  congr 1
  unfold LoaderTables.recordDomain Holdings.recordDomain
  unfold holdings LoaderTables.holdings
  dsimp only
  split <;> rfl

theorem holdings_remember (name : Name) (m : Module) :
    (s.onTables id fun t => t.remember name m).holdings =
      Function.update s.holdings id ((s.holdings id).remember name m) := by
  rw [holdings_onTables]
  congr 1
  unfold LoaderTables.remember Holdings.remember
  unfold holdings LoaderTables.holdings
  dsimp only
  split <;> rfl

end Actions

/-! ## Reservations are in order -/

/-- No reservation is left over with any loader. -/
def TidySigners (s : Loaders) : Prop :=
  ∀ id, (s.tablesOf id).signers.Tidy

namespace TidySigners

variable {s s' : Loaders}

theorem same (h : s.TidySigners)
    (hsigners : ∀ id, (s'.tablesOf id).signers = (s.tablesOf id).signers) : s'.TidySigners :=
  fun id => by rw [hsigners]; exact h id

theorem onTables (h : s.TidySigners) (id : LoaderId) {f : LoaderTables → LoaderTables}
    (hf : (f (s.tablesOf id)).signers.Tidy) : (s.onTables id f).TidySigners := by
  intro k
  rw [tablesOf_onTables]
  split
  · exact hf
  · exact h k

/-- No action leaves one over. -/
theorem stroke (h : s.TidySigners) (hstroke : s.Stroke s') : s'.TidySigners := by
  cases hstroke with
  | look => exact h
  | lockFor id name => exact h.same (Beside.lockFor s id name).signers
  | defaultDomain id => exact h.same (Beside.defaultDomain s id).signers
  | sourceDomain id source => exact h.same (Beside.sourceDomain s id source).signers
  | reserve id name signers => exact h.onTables id ((h id).reserve name signers)
  | release id package committed => exact h.onTables id ((h id).release package committed)
  | adopt id m =>
      unfold Loaders.adopt
      split
      · exact h
      · exact h.onTables id (h id)
  | sign m signers => exact h
  | recordDefined id m => exact h.onTables id (h id)
  | recordDomain id d =>
      refine h.onTables id ?_
      rw [LoaderTables.recordDomain_signers]
      exact h id
  | remember id name m =>
      refine h.onTables id ?_
      rw [LoaderTables.remember_signers]
      exact h id

/-- A loader that is made has none. -/
theorem create (h : s.TidySigners) (kind : Kind) (parent : Option Loader) (context : Context) :
    (s.create kind parent context).2.TidySigners := by
  intro k
  by_cases hk : k = ⟨s.nextLoader⟩
  · subst hk
    rw [(blank_create s kind parent context).signers]
    exact .empty
  · rw [tablesOf_create_of_ne s kind parent context hk]
    exact h k

end TidySigners

end Loaders

/-- Every action of a definition or a resolution is one of those. -/
theorem LoaderTask.Strokes.acts {α : Type} {link : Bool} {p : LoaderTask α}
    (h : p.Strokes link) : p.Acts Loaders.Stroke := by
  induction p with
  | done a => trivial
  | act update next ih => exact fun s => ⟨(h s).1, ih s (h s).2⟩
  | ask q next ih => exact fun a => ih a (h.2 a)

/-- No action of an operation leaves a reservation over. -/
theorem acts_tidySigners (c : LoaderCall) :
    c.body.Acts fun s s' => s.TidySigners → s'.TidySigners := by
  cases c with
  | create kind parent context =>
      intro permission
      cases permission with
      | error e => trivial
      | ok u => exact fun s => ⟨fun h => h.create kind parent context, trivial⟩
  | define l name bytes start stop domain =>
      have hstrokes : (l.define name bytes start stop domain).Strokes true :=
        strokes_define name bytes start stop domain
      exact hstrokes.acts.mono fun s s' hstroke h => h.stroke hstroke
  | resolve l name link =>
      exact (strokes_resolve l name link).acts.mono fun s s' hstroke h => h.stroke hstroke

/-- At every point of a session, reservations are in order, whatever is answered and
however operations are nested. -/
theorem tidy_of_reaches {σ : loaderService.Session} (h : Reaches definerRules (.start {}) σ) :
    σ.now.state.TidySigners := by
  have hkept := (h.respects (fun _ h => h) (fun h₁ h₂ h => h₂ (h₁ h)) acts_tidySigners
    fun _ _ hchange h => h.same hchange.signers).1
  exact hkept fun id => .empty

end Loading
