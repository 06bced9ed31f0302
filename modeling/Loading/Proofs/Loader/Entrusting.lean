import Loading.Proofs.Loader.Commissions
import Loading.Proofs.Loader.Domains
import Loading.Proofs.Loader.OperationPreservation

/-!
# Domains follow code sources

However often finders and definers call loaders back, and whatever fails, a definer is
always asked in the domain that its commission calls for: the one that the loader has
for the code source that was reported, or the one that it has for definitions without a
domain.

* `Within` — what is known in the course of an operation.
* `heeds_define`, `heeds_resolve`, `heeds_create` — the operations, from one question to
  the next.
* `domains_follow_sources` — what this means for the modules of a loader.
-/

namespace Loading

open Service Interaction

/-- A definer attaches the domain that it is given to the module that it makes. -/
def Attaches : (q : LoaderQuestion) → q.Answer → Prop
  | .produce _ r, .ok module => module.domain = r.domain
  | _, _ => True

/-- Outside code calls loaders that have been made, answers as it likes except that
definers attach domains, and leaves domains and definitions alone. -/
def domainRules : loaderService.Rules where
  mayCall m c := ∀ l ∈ LoaderCall.loader? c, l ∈ m.state.created
  mayAnswer _ := Attaches
  mayChange m s := m.state.SparesDomains s

/-! ## What is kept up -/

/-- A domain suits a commission: it was given with it, or the loader has it for the source. -/
def Suits (s : Loaders) (c : Commission) (d : ProtectionDomain) : Prop :=
  c.origin = .given (some d) ∨
    ∃ source, c.origin.source? = some source ∧ s.domainOf c.loader source = some d

/-- A definer is asked on a commission of the loader that defines, in a domain that suits. -/
def Entrusted (s : Loaders) (past : List loaderService.Entry) (r : DefinitionRequest) : Prop :=
  ∃ origin, commission? 0 past = some ⟨r.loader, origin⟩ ∧ Suits s ⟨r.loader, origin⟩ r.domain

/-- What is known of an event and of what had happened before it. -/
def Settled (s : Loaders) (past : List loaderService.Entry) : loaderService.Event → Prop
  | .asked (.produce _ r) => Entrusted s past r
  | .answered (.produce _ r) (.ok module) => Entrusted s past r ∧ module.domain = r.domain
  | _ => True

/-- What holds at any time, also while a module is being recorded. -/
structure Accounted (m : LoaderMoment) : Prop where
  /-- A domain is had by one loader, for one source. -/
  apart : m.state.DomainsApart
  /-- Definers were asked on commissions, in domains that suit. -/
  settled : ∀ x older, x :: older <:+ m.past → Settled m.state older x.event
  /-- Every module was made on a commission of its loader. -/
  stems : ∀ id, ∀ x ∈ m.state.defined id, ∃ origin, Yielded m.past ⟨id, origin⟩ x

/-- What holds whenever outside code has the word. -/
structure Kept (m : LoaderMoment) : Prop extends Accounted m where
  /-- The domains in use are those of the modules. -/
  listed : ∀ id, m.state.Listed id

/-- The terms on which operations of loaders are followed. -/
def domainTerms : Terms loaderService where
  rules := domainRules
  Inv := Kept
  Stable m m' := m.past <:+ m'.past ∧ m.state.Retains m'.state ∧
    ∀ depth, commission? depth m'.past = commission? depth m.past

/-- What is known in the course of an operation, since a moment at which it was under way
already: what it was last commissioned with, and that the operations outside it were
commissioned with nothing else. -/
structure Within (b : LoaderMoment) (c : Option Commission) (m : LoaderMoment) : Prop where
  /-- What is kept up is kept up. -/
  kept : Kept m
  /-- The past lies behind. -/
  past : b.past <:+ m.past
  /-- Domains last. -/
  retains : b.state.Retains m.state
  /-- It was last commissioned with that. -/
  inner : commission? 0 m.past = c
  /-- Outside it, nothing was commissioned. -/
  outer : ∀ depth, commission? (depth + 1) m.past = commission? (depth + 1) b.past

section Within

variable {b m m' : LoaderMoment} {c c' : Option Commission} {s : Loaders} {l : Loader}

theorem Suits.retains {s s' : Loaders} {c : Commission} {d : ProtectionDomain} (h : Suits s c d)
    (hs : s.Retains s') : Suits s' c d :=
  h.imp_right fun ⟨source, horigin, hd⟩ => ⟨source, horigin, hs.domainOf hd⟩

theorem Entrusted.retains {s s' : Loaders} {past : List loaderService.Entry}
    {r : DefinitionRequest} (h : Entrusted s past r) (hs : s.Retains s') : Entrusted s' past r := by
  obtain ⟨origin, horigin, hsuits⟩ := h
  exact ⟨origin, horigin, hsuits.retains hs⟩

theorem Settled.retains {s s' : Loaders} {past : List loaderService.Entry}
    {v : loaderService.Event} (h : Settled s past v) (hs : s.Retains s') : Settled s' past v := by
  unfold Settled at h ⊢
  split
  · exact h.retains hs
  · exact ⟨h.1.retains hs, h.2⟩
  · trivial

theorem Yielded.mono {past past' : List loaderService.Entry} {c : Commission} {x : Module}
    (h : Yielded past c x) (hpast : past <:+ past') : Yielded past' c x := by
  obtain ⟨key, r, s, older, hmem, hcommission⟩ := h
  exact ⟨key, r, s, older, hmem.trans hpast, hcommission⟩

/-- An event may be noted, or the state may change, where no domain is lost and nothing is
defined but what was made. -/
theorem Accounted.after (h : Accounted m) {v : loaderService.Event} (hv : Settled s m.past v)
    (hapart : s.DomainsApart) (hretains : m.state.Retains s)
    (hdefined : ∀ id, ∀ x ∈ s.defined id,
      x ∈ m.state.defined id ∨ ∃ origin, Yielded m.past ⟨id, origin⟩ x) :
    Accounted (m.after v s) where
  apart := hapart
  settled x older hx := by
    rcases List.suffix_cons_iff.1 hx with heq | hx
    · obtain ⟨rfl, rfl⟩ := List.cons.inj heq
      exact hv
    · exact (h.settled x older hx).retains hretains
  stems id x hx := by
    obtain ⟨origin, hyielded⟩ := (hdefined id x hx).elim (h.stems id x) fun hnew => hnew
    exact ⟨origin, hyielded.mono (List.suffix_cons _ _)⟩

/-- An event may be noted. -/
theorem Kept.note (h : Kept m) {v : loaderService.Event} (hv : Settled m.state m.past v) :
    Kept (m.note v) :=
  ⟨h.after hv h.apart (.refl _) fun _ _ => Or.inl, h.listed⟩

theorem Within.refl (h : Kept m) (hc : commission? 0 m.past = c) : Within m c m :=
  ⟨h, List.suffix_refl _, .refl _, hc, fun _ => rfl⟩

theorem Within.trans (h₁ : Within b c m) (h₂ : Within m c' m') : Within b c' m' where
  kept := h₂.kept
  past := h₁.past.trans h₂.past
  retains := h₁.retains.trans h₂.retains
  inner := h₂.inner
  outer depth := (h₂.outer depth).trans (h₁.outer depth)

/-- Whatever outside code does, it commissions nothing here. -/
theorem Within.later (h : Within b c m) (hkept : Kept m') (hstable : domainTerms.Stable m m') :
    Within b c m' where
  kept := hkept
  past := h.past.trans hstable.1
  retains := h.retains.trans hstable.2.1
  inner := (hstable.2.2 0).trans h.inner
  outer depth := (hstable.2.2 (depth + 1)).trans (h.outer depth)

/-- Questions commission nothing. -/
theorem Within.asked (h : Within b c m) {q : LoaderQuestion}
    (hq : Settled m.state m.past (.asked q)) : Within b c (m.note (.asked q)) where
  kept := h.kept.note hq
  past := h.past.trans (List.suffix_cons _ _)
  retains := h.retains
  inner := (commission?_asked q).trans h.inner
  outer depth := (commission?_asked q).trans (h.outer depth)

/-- An answer commissions what it reports. -/
theorem Within.answered (h : Within b c m) {q : LoaderQuestion} {a : q.Answer}
    (ha : Settled m.state m.past (.answered q a)) :
    Within b ((reported? (.answered q a)).or c) (m.note (.answered q a)) where
  kept := h.kept.note ha
  past := h.past.trans (List.suffix_cons _ _)
  retains := h.retains
  inner := by rw [Moment.note_past, commission?_answered, h.inner]
  outer depth := (commission?_answered_succ q a).trans (h.outer depth)

theorem Within.change (h : Within b c m) (hapart : s.DomainsApart) (hlisted : ∀ id, s.Listed id)
    (hretains : m.state.Retains s) (hdefined : ∀ id, ∀ x ∈ s.defined id, x ∈ m.state.defined id) :
    Within b c (m.change s) where
  kept := ⟨h.kept.after trivial hapart hretains fun id x hx => Or.inl (hdefined id x hx), hlisted⟩
  past := h.past.trans (List.suffix_cons _ _)
  retains := h.retains.trans hretains
  inner := commission?_changed.trans h.inner
  outer depth := commission?_changed.trans (h.outer depth)

theorem Within.spared (h : Within b c m) (hs : m.state.SparesDomains s) :
    Within b c (m.change s) :=
  h.change (h.kept.apart.same hs.toSameDomains) (fun id => (h.kept.listed id).spared hs) hs.retains
    fun id x hx => by rwa [hs.defined] at hx

/-- A loader may make a domain. -/
theorem Within.provide (h : Within b c m) (hl : l.id.val < b.state.nextLoader)
    (source : Option CodeSource) : Within b c (m.change (m.state.provide l.id source).2) := by
  have hlt : l.id.val < m.state.nextLoader := Nat.lt_of_lt_of_le hl h.retains.nextLoader
  refine h.change (h.kept.apart.provide hlt source) (fun id => (h.kept.listed id).provide _ _)
    (Loaders.retains_provide _ _ _) fun id x hx => ?_
  rwa [Loaders.defined_provide] at hx

/-- A loader may be made. -/
theorem Within.create (h : Within b c m) (kind : Kind) {parent : Option Loader}
    (hparent : ∀ l ∈ parent, l ∈ b.state.created) (context : Context) :
    Within b c (m.change (m.state.create kind parent context).2) := by
  refine h.change (h.kept.apart.create _ _ _ fun l hl => h.retains.created l (hparent l hl))
    (fun id => (h.kept.listed id).create _ _ _) (h.kept.apart.retains_create _ _ _) ?_
  intro id x hx
  rcases Loaders.defined_create m.state kind parent context id with hnone | hsame
  · rw [hnone] at hx
    cases hx
  · rwa [hsame] at hx

/-- A module that was made may be recorded. -/
theorem Accounted.recordDefined (h : Accounted m) {id : LoaderId} {origin : Origin}
    {module : Module} (hmade : Yielded m.past ⟨id, origin⟩ module) :
    Accounted (m.change (m.state.onTables id fun t => t.recordDefined module)) := by
  have hsame := Loaders.SameDomains.recordDefined m.state id module
  refine h.after trivial (h.apart.same hsame) hsame.retains fun k x hx => ?_
  unfold Loaders.defined at hx
  rw [Loaders.tablesOf_onTables] at hx
  split at hx
  · rename_i hk
    subst hk
    rcases List.mem_append.1 hx with hx | hx
    · exact Or.inl hx
    · exact Or.inr ⟨origin, List.mem_singleton.1 hx ▸ hmade⟩
  · exact Or.inl hx

/-- So may any domain. -/
theorem Accounted.recordDomain (h : Accounted m) (id : LoaderId) (d : ProtectionDomain) :
    Accounted (m.change (m.state.onTables id fun t => t.recordDomain d)) := by
  have hsame := Loaders.SameDomains.recordDomain m.state id d
  refine h.after trivial (h.apart.same hsame) hsame.retains fun k x hx => Or.inl ?_
  rwa [Loaders.defined, Loaders.tablesOf_onTables_congr _ id k LoaderTables.defined
    fun t => t.recordDomain_defined d] at hx

/-- After both, outside code may have the word again. -/
theorem Within.record (h : Within b c m) {id : LoaderId} {origin : Origin} {module : Module}
    (hmade : Yielded m.past ⟨id, origin⟩ module) :
    Within b c ((m.change (m.state.onTables id fun t => t.recordDefined module)).change
      ((m.state.onTables id fun t => t.recordDefined module).onTables id fun t =>
        t.recordDomain module.domain)) := by
  have hdefined := (Loaders.SameDomains.recordDefined m.state id module).retains
  have hdomain := (Loaders.SameDomains.recordDomain
    (m.state.onTables id fun t => t.recordDefined module) id module.domain).retains
  refine ⟨⟨?_, fun k => (h.kept.listed k).record id module⟩, ?_, ?_, ?_, fun depth => ?_⟩
  · exact (h.kept.toAccounted.recordDefined hmade).recordDomain id module.domain
  · exact (h.past.trans (List.suffix_cons _ _)).trans (List.suffix_cons _ _)
  · exact (h.retains.trans hdefined).trans hdomain
  · exact (commission?_changed.trans commission?_changed).trans h.inner
  · exact (commission?_changed.trans commission?_changed).trans (h.outer depth)

end Within

/-! ## Following the operations -/

/-- An operation goes on, and commissions nothing outside itself. -/
abbrev Heeds {α : Type} (b : LoaderMoment) (p : LoaderTask α) (m : LoaderMoment) : Prop :=
  Keeps domainTerms (fun _ _ => True) (fun m' _ => ∃ c, Within b c m') p m

section Heeds

variable {b m : LoaderMoment} {c : Commission} {c? : Option Commission} {l : Loader} {name : Name}
  {module : Module} {α : Type}

/-- What is heeded from a later moment on is heeded from an earlier one on. -/
theorem Within.heeds (h : Within b c? m) {p : LoaderTask α} (hp : Heeds m p m) : Heeds b p m :=
  hp.weaken fun _ _ ⟨c, hc⟩ => ⟨c, h.trans hc⟩

theorem settled_of_ne {q : LoaderQuestion} (hproduce : ∀ key r, q ≠ .produce key r) (s : Loaders)
    (past : List loaderService.Entry) :
    Settled s past (.asked q) ∧ ∀ a, Settled s past (.answered q a) := by
  cases q with
  | produce key r => exact absurd rfl (hproduce key r)
  | _ => exact ⟨trivial, fun _ => trivial⟩

/-- Other questions than those for bytes and for modules may be asked, and commission
nothing. -/
theorem keeps_ask {q : LoaderQuestion} (hfind : ∀ id name, q ≠ .find id name)
    (hproduce : ∀ key r, q ≠ .produce key r) (h : Within b c? m) :
    Keeps domainTerms (fun _ _ => True) (fun m' _ => Within b c? m') (LoaderTask.ask q) m := by
  have hasked := h.asked (settled_of_ne hproduce m.state m.past).1
  refine ⟨⟨hasked.kept, trivial⟩, fun m' a hkept hstable _ => ?_⟩
  have hlater := hasked.later hkept hstable
  have hanswered := hlater.answered ((settled_of_ne hproduce m'.state m'.past).2 a)
  rwa [reported?_of_ne hfind, Option.none_or] at hanswered

/-- A finder that finds bytes commissions their definition. -/
theorem keeps_find (h : Within b c? m) (id : LoaderId) (name : Name) :
    Keeps domainTerms (fun _ _ => True)
      (fun m' r => Within b ((reported? (.answered (.find id name) r)).or c?) m')
      (LoaderTask.ask (.find id name)) m := by
  have hasked := h.asked (q := .find id name) trivial
  refine ⟨⟨hasked.kept, trivial⟩, fun m' a hkept hstable _ => ?_⟩
  exact (hasked.later hkept hstable).answered (q := .find id name) trivial

/-- A definer is asked on the commission of the operation, in a domain that suits, and what
it makes is made on that commission. -/
theorem keeps_produce {key : Nat} {r : DefinitionRequest} (h : Within b (some c) m)
    (hloader : c.loader = r.loader) (hsuits : Suits m.state c r.domain) :
    Keeps domainTerms (fun _ _ => True)
      (fun m' produced => Within b (some c) m' ∧ ∀ module, produced = .ok module →
        module.domain = r.domain ∧ Yielded m'.past c module)
      (LoaderTask.ask (.produce key r)) m := by
  have hc : c = ⟨r.loader, c.origin⟩ := by rw [← hloader]
  have hentrusted : ∀ {m'}, Within b (some c) m' → m.state.Retains m'.state →
      Entrusted m'.state m'.past r := by
    intro m' h' hretains
    exact ⟨c.origin, hc ▸ h'.inner, hc ▸ hsuits.retains hretains⟩
  have hasked := h.asked (q := .produce key r) (hentrusted h (.refl _))
  refine ⟨⟨hasked.kept, trivial⟩, fun m' a hkept hstable hattaches => ?_⟩
  have hlater := hasked.later hkept hstable
  cases a with
  | error e => exact ⟨hlater.answered (q := .produce key r) trivial, fun _ => nofun⟩
  | ok module =>
      have hanswered : Settled m'.state m'.past (.answered (.produce key r) (.ok module)) :=
        ⟨hentrusted hlater hstable.2.1, hattaches⟩
      refine ⟨hlater.answered hanswered, fun module' heq => ?_⟩
      cases heq
      exact ⟨hattaches, key, r, m'.state, m'.past, List.suffix_refl _, hlater.inner⟩

/-- What is done with a lock held is heeded if it would be without. -/
theorem heeds_locked {body : LoaderTask α} (h : Within b c? m)
    (hbody : ∀ m₁, Within b c? m₁ → Heeds b body m₁) : Heeds b (l.locked name body) m := by
  unfold Loader.locked
  rw [Heeds, keeps_bind, keeps_transact, keeps_bind]
  refine (keeps_ask (q := .enter _ _) (fun _ _ => nofun) (fun _ _ => nofun)
    (h.spared (.lockFor m.state l.id name))).weaken fun m₁ _ h₁ => ?_
  rw [keeps_bind]
  refine (hbody m₁ h₁).weaken fun m₂ a ⟨c₂, h₂⟩ => ?_
  rw [keeps_bind]
  refine (keeps_ask (q := .leave _ _) (fun _ _ => nofun) (fun _ _ => nofun) h₂).weaken
    fun m₃ _ h₃ => ?_
  exact ⟨c₂, h₃⟩

/-! ### Definitions -/

/-- What a definition is told of its domain agrees with its commission. -/
def Brings (s : Loaders) (c : Commission) : Option ProtectionDomain → Prop
  | some d => Suits s c d
  | none => c.origin.source? = some none

section Definitions

variable {domain : Option ProtectionDomain} {bytes : List UInt8} {start stop : Nat}

/-- A module that was made is entered, and recorded with its domain. -/
theorem heeds_install {package : String} (h : Within b (some c) m) (hloader : c.loader = l.id)
    (hmade : Yielded m.past c module) : Heeds b (l.install module module.domain package) m := by
  have hc : c = ⟨l.id, c.origin⟩ := by rw [← hloader]
  rw [hc] at hmade
  have hrecord : ∀ {m₁}, Within b (some c) m₁ → m.past <:+ m₁.past →
      Heeds b (do
        Interaction.change fun s => s.release l.id package true
        Interaction.change fun s => s.onTables l.id fun t => t.recordDefined module
        Interaction.change fun s => s.onTables l.id fun t => t.recordDomain module.domain
        return .ok module : LoaderTask (Except LoadError Module)) m₁ := by
    intro m₁ h₁ hpast
    have hreleased := h₁.spared (.release m₁.state l.id package true)
    exact ⟨_, hreleased.record (hmade.mono (hpast.trans (List.suffix_cons _ _)))⟩
  have hadopted := h.spared (.adopt m.state l.id module)
  unfold Loader.install
  rw [Heeds, keeps_bind, keeps_transact]
  cases (m.state.adopt l.id module).1 with
  | false => exact ⟨_, hadopted.spared (.release _ l.id package false)⟩
  | true =>
      cases module.domain.certificates.isEmpty with
      | true => exact hrecord hadopted (List.suffix_cons _ _)
      | false =>
          exact hrecord (hadopted.spared (.sign _ module module.domain.certificates))
            ((List.suffix_cons _ _).trans (List.suffix_cons _ _))

theorem heeds_enterHeld (h : Within b (some c) m) (hloader : c.loader = l.id)
    (hmade : Yielded m.past c module) : Heeds b (l.enterHeld module module.domain) m := by
  have hreserved :=
    h.spared (.reserve m.state l.id module.name module.domain.certificates)
  unfold Loader.enterHeld
  rw [Heeds, keeps_bind, keeps_transact]
  cases (m.state.reserve l.id module.name module.domain.certificates).1 with
  | error e => exact ⟨_, hreserved⟩
  | ok package =>
      exact heeds_install hreserved hloader (hmade.mono (List.suffix_cons _ _))

variable (hl : l.id.val < b.state.nextLoader) (hloader : c.loader = l.id)
  (hbrings : Brings b.state c domain)

include hl hloader hbrings

/-- Whatever a definition was told, its domain suits its commission. -/
theorem keeps_domainOr (h : Within b (some c) m) :
    Keeps domainTerms (fun _ _ => True) (fun m' d => Within b (some c) m' ∧ Suits m'.state c d)
      (l.domainOr domain) m := by
  cases domain with
  | some d => exact ⟨h, Suits.retains hbrings h.retains⟩
  | none =>
      refine ⟨h.provide hl none, Or.inr ⟨none, hbrings, ?_⟩⟩
      rw [hloader]
      exact Loaders.domainOf_provide m.state l.id none

theorem heeds_defineHeld (h : Within b (some c) m) :
    Heeds b (l.defineHeld name bytes start stop domain) m := by
  have hobserved := h.spared (.refl m.state)
  unfold Loader.defineHeld
  rw [Heeds, keeps_bind, keeps_observe]
  cases (m.state.loaded? l.id name).isSome with
  | true => exact ⟨_, hobserved⟩
  | false =>
      show Keeps _ _ _ (l.domainOr domain >>= _) _
      rw [keeps_bind]
      refine (keeps_domainOr hl hloader hbrings hobserved).weaken fun m₁ d ⟨h₁, hsuits⟩ => ?_
      have hreserve := Loaders.SparesDomains.reserve m₁.state l.id name d.certificates
      have hreserved := h₁.spared hreserve
      rw [keeps_bind, keeps_transact]
      cases (m₁.state.reserve l.id name d.certificates).1 with
      | error e => exact ⟨_, hreserved⟩
      | ok package =>
          show Keeps _ _ _ (LoaderTask.ask _ >>= _) _
          rw [keeps_bind]
          refine (keeps_produce (r := ⟨some name, bytes, start, stop, d, l.id⟩) hreserved hloader
            (hsuits.retains hreserve.retains)).weaken fun m₂ produced ⟨h₂, hproduced⟩ => ?_
          have hdropped := h₂.spared (.release m₂.state l.id package false)
          cases produced with
          | error e => exact ⟨_, hdropped⟩
          | ok module =>
              obtain ⟨rfl, hmade⟩ := hproduced module rfl
              cases hobjection : l.objection? (some name) module with
              | some e =>
                  simp only [Except.bind, hobjection]
                  exact ⟨_, hdropped⟩
              | none =>
                  simp only [Except.bind, hobjection]
                  exact heeds_install h₂ hloader hmade

theorem heeds_defineUnnamed (h : Within b (some c) m) :
    Heeds b (l.defineUnnamed bytes start stop domain) m := by
  unfold Loader.defineUnnamed
  rw [Heeds, keeps_bind]
  refine (keeps_domainOr hl hloader hbrings h).weaken fun m₁ d ⟨h₁, hsuits⟩ => ?_
  rw [keeps_bind]
  refine (keeps_produce h₁ hloader hsuits).weaken fun m₂ produced ⟨h₂, hproduced⟩ => ?_
  cases produced with
  | error e => exact ⟨_, h₂⟩
  | ok module =>
      obtain ⟨rfl, hmade⟩ := hproduced module rfl
      cases hobjection : l.objection? none module with
      | some e =>
          simp only [hobjection]
          exact ⟨_, h₂⟩
      | none =>
          simp only [hobjection]
          -- The lock may have to be waited for, but what was made stays made.
          refine h₂.heeds (heeds_locked (.refl h₂.kept h₂.inner) fun m₃ h₃ => ?_)
          exact heeds_enterHeld h₃ hloader (hmade.mono h₃.past)

/-- A definition is asked for in a domain that suits its commission. -/
theorem heeds_define {name : Option Name} (h : Within b (some c) m) :
    Heeds b (l.define name bytes start stop domain) m := by
  unfold Loader.define
  split
  · exact ⟨_, h⟩
  · split
    · exact ⟨_, h⟩
    · cases name with
      | none => exact heeds_defineUnnamed hl hloader hbrings h
      | some name =>
          exact heeds_locked h fun m₁ h₁ => heeds_defineHeld hl hloader hbrings h₁

end Definitions

/-! ### Resolutions -/

/-- What a finder has found is defined in the domain of its source. -/
theorem heeds_findAndDefine (h : Within b c? m) (hl : l.id.val < b.state.nextLoader) :
    Heeds b (l.findAndDefine name) m := by
  unfold Loader.findAndDefine
  rw [Heeds, keeps_bind]
  refine (keeps_find h l.id name).weaken fun m₁ r h₁ => ?_
  cases r with
  | error e => exact ⟨_, h₁⟩
  | ok found =>
      obtain ⟨bytes, source⟩ := found
      change Within b (some ⟨l.id, .found source⟩) m₁ at h₁
      cases source with
      | none =>
          refine heeds_define hl rfl ?_ h₁
          rfl
      | some source =>
          have h₂ := h₁.provide hl (some source)
          have hl₂ := Nat.lt_of_lt_of_le hl h₂.retains.nextLoader
          refine h₂.heeds (heeds_define hl₂ rfl ?_ (.refl h₂.kept h₂.inner))
          exact Or.inr ⟨some source, rfl, Loaders.domainOf_provide m₁.state l.id (some source)⟩

/-- With the lock held, a name is looked up as its loaders are told to. -/
theorem heeds_lookUp {delegate : LoaderTask (Except LoadError Module)} (h : Within b c? m)
    (hl : l.id.val < b.state.nextLoader)
    (hdelegate : ∀ {m₁}, Within b c? m₁ → Heeds b delegate m₁) :
    Heeds b (l.lookUp name delegate) m := by
  unfold Loader.lookUp
  rw [Heeds, keeps_bind, keeps_observe]
  have hobserved := h.spared (.refl m.state)
  cases m.state.loaded? l.id name with
  | some module => exact ⟨_, hobserved⟩
  | none =>
      show Keeps _ _ _ (delegate >>= _) _
      rw [keeps_bind]
      refine (hdelegate hobserved).weaken fun m₁ r ⟨c₁, h₁⟩ => ?_
      cases r with
      | ok module => exact ⟨_, h₁.spared (.remember m₁.state l.id name module)⟩
      | error e =>
          show Keeps _ _ _ (if e.isNotFound then l.findAndDefine name else _) _
          cases e.isNotFound with
          | false => exact ⟨_, h₁⟩
          | true => exact heeds_findAndDefine h₁ hl

theorem heeds_askBootstrap {level : Level} (h : Within b c? m) :
    Heeds b ((Loader.root level).askBootstrap name) m := by
  unfold Loader.askBootstrap
  rw [Heeds, keeps_bind]
  refine (keeps_ask (q := .bootstrap level.context.key name) (fun _ _ => nofun)
    (fun _ _ => nofun) h).weaken fun m₁ found h₁ => ?_
  cases found <;> exact ⟨_, h₁⟩

/-- A loader asks above it in the same way, by induction on its path. -/
theorem heeds_delegate (h : Within b c? m)
    (hpath : ∀ a ∈ l.ancestors, a.id.val < b.state.nextLoader) :
    Heeds b (l.delegate name) m := by
  induction l generalizing m c? with
  | root level => exact heeds_askBootstrap h
  | child level parent ih =>
      show Heeds b (parent.resolveOnly name) m
      rw [Upkeep.resolveOnly_eq]
      split
      · refine heeds_locked h fun m₁ h₁ => ?_
        exact heeds_lookUp h₁ (hpath _ List.mem_cons_self) fun h₂ =>
          ih h₂ fun a ha => hpath a (List.mem_cons_of_mem _ ha)
      · exact ⟨_, h⟩

theorem heeds_linkIfNeeded (h : Within b c? m) : Heeds b (l.linkIfNeeded module) m := by
  unfold Loader.linkIfNeeded
  rw [Heeds, keeps_bind, keeps_observe]
  have hobserved := h.spared (.refl m.state)
  cases m.state.ledger.isLinked module with
  | true => exact ⟨_, hobserved⟩
  | false =>
      show Keeps _ _ _ (LoaderTask.ask _ >>= _) _
      rw [keeps_bind]
      refine (keeps_ask (q := .link l.context.key module) (fun _ _ => nofun) (fun _ _ => nofun)
        hobserved).weaken fun m₁ outcome h₁ => ?_
      cases outcome <;> exact ⟨_, h₁⟩

/-- A resolution defines only on commission of its finders. -/
theorem heeds_resolve {link : Bool} (h : Within b c? m)
    (hpath : ∀ a ∈ l.path, a.id.val < b.state.nextLoader) :
    Heeds b (l.resolve name link) m := by
  unfold Loader.resolve Loader.resolveHeld
  split
  · refine heeds_locked h fun m₁ h₁ => ?_
    rw [Heeds, keeps_bind]
    refine (heeds_lookUp h₁ (hpath l List.mem_cons_self) fun h₂ =>
      heeds_delegate h₂ fun a ha => hpath a (List.mem_cons_of_mem _ ha)).weaken
        fun m₂ r ⟨c₂, h₂⟩ => ?_
    cases r with
    | error e => exact ⟨_, h₂⟩
    | ok module =>
        cases link with
        | false => exact ⟨_, h₂⟩
        | true => exact heeds_linkIfNeeded h₂
  · exact ⟨_, h⟩

/-! ### All operations -/

/-- Making a loader is no definition. -/
theorem heeds_create {kind : Kind} {parent : Option Loader} {context : Context}
    (h : Within b c? m) (hparent : ∀ l ∈ parent, l ∈ b.state.created) :
    Heeds b (Loader.create kind parent context) m := by
  unfold Loader.create
  rw [Heeds, keeps_bind]
  refine (keeps_ask (q := .mayCreate context.key kind) (fun _ _ => nofun) (fun _ _ => nofun)
    h).weaken fun m₁ permission h₁ => ?_
  cases permission with
  | error e => exact ⟨_, h₁⟩
  | ok u => exact ⟨_, h₁.create kind hparent context⟩

/-- Every operation defines only on its commissions. -/
theorem heeds_body {call : LoaderCall} (h : Kept m)
    (hcall : commission? 0 m.past = call.commission?)
    (hmay : ∀ l ∈ call.loader?, l ∈ m.state.created) : Heeds m call.body m := by
  have hwithin := Within.refl h hcall
  cases call with
  | create kind parent context => exact heeds_create hwithin hmay
  | define l name bytes start stop domain =>
      have hl : l.id.val < m.state.nextLoader :=
        h.apart.path_lt l (hmay l rfl) l List.mem_cons_self
      refine heeds_define hl rfl ?_ hwithin
      cases domain with
      | none => rfl
      | some d => exact Or.inl rfl
  | resolve l name link => exact heeds_resolve hwithin (h.apart.path_lt l (hmay l rfl))

end Heeds

/-- Definers are asked as they should in every session. -/
def domainDiscipline : Discipline loaderService where
  toTerms := domainTerms
  asking _ _ _ _ := True
  returning _ _ _ _ := True
  refl m := ⟨List.suffix_refl _, .refl _, fun _ => rfl⟩
  trans h₁ h₂ := ⟨h₁.1.trans h₂.1, h₁.2.1.trans h₂.2.1, fun depth =>
    (h₂.2.2 depth).trans (h₁.2.2 depth)⟩
  outside {m s} h hchange := by
    have hchanged := (Within.refl h rfl).spared hchange
    exact ⟨hchanged.kept, hchanged.past, hchanged.retains, fun _ => commission?_changed⟩
  keeps {m c} h hc := by
    have hbegan : Kept (m.note (.began c)) := h.note trivial
    refine (heeds_body hbegan (commission?_began c) hc).weaken fun m' r ⟨c', h'⟩ => ?_
    refine ⟨trivial, h'.kept.note trivial, ?_, h'.retains, fun depth => ?_⟩
    · exact ((List.suffix_cons _ _).trans h'.past).trans (List.suffix_cons _ _)
    · -- What the operation was commissioned with has gone with it.
      exact ((commission?_ended c r).trans (h'.outer depth)).trans (commission?_began_succ c)

/-! ## The domains of modules -/

/-- The domains of loaders at a moment, and what modules they were given to. -/
structure DomainsFollow (m : LoaderMoment) : Prop where
  /-- The domains in use of a loader are those of the modules it defined, each once, in order
  of the definitions. -/
  listed : ∀ id, (m.state.tablesOf id).domains =
    ((m.state.defined id).map (·.domain)).eraseDupsBy fun d e => d.id == e.id
  /-- Whenever a definer was asked, the loader had a commission. -/
  commissioned : ∀ x ∈ m.past, ∀ key r, x.event = .asked (.produce key r) →
    ∃ origin, Requested m.past ⟨r.loader, origin⟩ r
  /-- Every module was made on a commission of the loader that defined it. -/
  stems : ∀ id, ∀ x ∈ m.state.defined id, ∃ origin, Yielded m.past ⟨id, origin⟩ x
  /-- Two modules of what its finder has found have the same domain exactly where the finder
  reported the same code source, or none for both. -/
  found : ∀ {id source source' x y}, Yielded m.past ⟨id, .found source⟩ x →
    Yielded m.past ⟨id, .found source'⟩ y → (x.domain.id = y.domain.id ↔ source = source')
  /-- Whatever is to be defined without a domain is to be defined in the default domain of the
  loader, and so is what is made of it. -/
  shared : ∀ {c}, c.origin.source? = some none →
    (∀ r, Requested m.past c r → (m.state.tablesOf c.loader).defaultDomain = some r.domain) ∧
      ∀ x, Yielded m.past c x → (m.state.tablesOf c.loader).defaultDomain = some x.domain
  /-- No default domain is used for a code source. -/
  unsourced : ∀ {c source r id d}, c.origin.source? = some (some source) →
    Requested m.past c r → (m.state.tablesOf id).defaultDomain = some d → r.domain.id ≠ d.id
  /-- No default domain is that of another loader. -/
  own : ∀ {id id' d d'}, (m.state.tablesOf id).defaultDomain = some d →
    (m.state.tablesOf id').defaultDomain = some d' → d.id = d'.id → id = id'

section Kept

variable {m : LoaderMoment} {c : Commission}

/-- A domain that suits a commission for a source is the one that the loader has for it. -/
theorem Suits.domainOf {s : Loaders} {d : ProtectionDomain} {source : Option CodeSource}
    (h : Suits s c d) (hsource : c.origin.source? = some source) :
    s.domainOf c.loader source = some d := by
  rcases h with hgiven | ⟨source', hsource', hd⟩
  · rw [hgiven] at hsource
    cases hsource
  · obtain rfl := Option.some.inj (hsource.symm.trans hsource')
    exact hd

theorem Entrusted.suits {s : Loaders} {past : List loaderService.Entry} {r : DefinitionRequest}
    (h : Entrusted s past r) (hc : commission? 0 past = some c) : Suits s c r.domain := by
  obtain ⟨origin, horigin, hsuits⟩ := h
  obtain rfl := Option.some.inj (horigin.symm.trans hc)
  exact hsuits

theorem Kept.requested (h : Kept m) {r : DefinitionRequest} (hr : Requested m.past c r) :
    Suits m.state c r.domain := by
  obtain ⟨key, s, older, hsuffix, hc⟩ := hr
  exact (h.settled _ _ hsuffix).suits hc

theorem Kept.yielded (h : Kept m) {x : Module} (hx : Yielded m.past c x) :
    Suits m.state c x.domain := by
  obtain ⟨key, r, s, older, hsuffix, hc⟩ := hx
  obtain ⟨hentrusted, hdomain⟩ := h.settled _ _ hsuffix
  rw [hdomain]
  exact hentrusted.suits hc

theorem Kept.domainsFollow (h : Kept m) : DomainsFollow m where
  listed := h.listed
  commissioned x hx key r hevent := by
    obtain ⟨newer, older, hpast⟩ := List.append_of_mem hx
    have hsuffix : x :: older <:+ m.past := ⟨newer, hpast.symm⟩
    obtain ⟨v, s⟩ := x
    obtain rfl : v = .asked (.produce key r) := hevent
    obtain ⟨origin, horigin, -⟩ := h.settled _ _ hsuffix
    exact ⟨origin, key, s, older, hsuffix, horigin⟩
  stems := h.stems
  found {id source source' x y} hx hy := by
    have hdx := (h.yielded hx).domainOf rfl
    have hdy := (h.yielded hy).domainOf rfl
    rw [h.apart.id_eq_iff hdx hdy]
    exact and_iff_right rfl
  shared hsource :=
    ⟨fun _ hr => (h.requested hr).domainOf hsource,
      fun _ hx => (h.yielded hx).domainOf hsource⟩
  unsourced {c source r id d} hsource hr hd heq := by
    have hdomain := (h.requested hr).domainOf hsource
    have hdefault : m.state.domainOf id none = some d := hd
    cases (h.apart.apart hdomain hdefault heq).2
  own {id id' d d'} hd hd' heq := by
    have hdefault : m.state.domainOf id none = some d := hd
    have hdefault' : m.state.domainOf id' none = some d' := hd'
    exact (h.apart.apart hdefault hdefault' heq).1

end Kept

/-- Whenever outside code has the word, however it has called back before, provided only that
definers attach the domains that they are given, domains follow code sources. -/
theorem domains_follow_sources {σ : loaderService.Session}
    (h : Reaches domainRules (.start {}) σ) (idle : Idle σ.frames = true) :
    DomainsFollow σ.now := by
  have hstart : Kept ⟨{}, []⟩ := by
    refine ⟨⟨.start, fun x older hx => ?_, fun id x hx => ?_⟩, fun id => rfl⟩
    · cases List.suffix_nil.1 hx
    · cases hx
  exact ((domainDiscipline.upheld hstart h).inv idle).domainsFollow

/-! ## Definitions inside another one -/

/-- A code source. -/
def libSource : CodeSource := .unsigned "lib"

/-- What is found with that code source. -/
def sourced : Module := ⟨1, "a.B", ⟨1⟩, ⟨1, some libSource⟩, 1⟩

/-- What is defined meanwhile, without a domain. -/
def domainless : Module := ⟨0, "a.C", ⟨1⟩, ⟨2, some {}⟩, 1⟩

/-- What is found later, without a code source. -/
def sourceless : Module := ⟨2, "a.D", ⟨1⟩, ⟨2, some {}⟩, 1⟩

/-- A module is found with a code source.  While the definer makes it, a definition without a
domain fails and another one succeeds; after that, a module is found without a source. -/
def interleaving : List loaderService.Move :=
  [.call (.create .base none {}), .answer (.mayCreate 0 .base) (.ok ()), .finish,
    .call (.resolve solitary "a.B" false), .answer (.enter ⟨1⟩ ⟨1⟩) (),
    .answer (.bootstrap 0 "a.B") none, .answer (.find ⟨1⟩ "a.B") (.ok ⟨[0], some libSource⟩),
    .answer (.enter ⟨1⟩ ⟨1⟩) (), .call (.define solitary none [0] 0 1 none),
    .answer (.produce 0 ⟨none, [0], 0, 1, ⟨2, some {}⟩, ⟨1⟩⟩) (.error (.notFound "a.E")), .finish,
    .call (.define solitary (some "a.C") [0] 0 1 none), .answer (.enter ⟨1⟩ ⟨2⟩) (),
    .answer (.produce 0 ⟨some "a.C", [0], 0, 1, ⟨2, some {}⟩, ⟨1⟩⟩) (.ok domainless),
    .answer (.leave ⟨1⟩ ⟨2⟩) (), .finish,
    .answer (.produce 0 ⟨some "a.B", [0], 0, 1, ⟨1, some libSource⟩, ⟨1⟩⟩) (.ok sourced),
    .answer (.leave ⟨1⟩ ⟨1⟩) (), .answer (.leave ⟨1⟩ ⟨1⟩) (), .finish,
    .call (.resolve solitary "a.D" false), .answer (.enter ⟨1⟩ ⟨3⟩) (),
    .answer (.bootstrap 0 "a.D") none, .answer (.find ⟨1⟩ "a.D") (.ok ⟨[0], none⟩),
    .answer (.enter ⟨1⟩ ⟨3⟩) (),
    .answer (.produce 0 ⟨some "a.D", [0], 0, 1, ⟨2, some {}⟩, ⟨1⟩⟩) (.ok sourceless),
    .answer (.leave ⟨1⟩ ⟨3⟩) (), .answer (.leave ⟨1⟩ ⟨3⟩) (), .finish]

theorem interleaving_allowed : domainRules.AllowsAll interleaving (.start {}) := by
  unfold interleaving
  repeat' refine allowsAll_cons ?_ rfl ?_
  -- Calls have to be for loaders that have been made, and definers attach the domains.
  all_goals first
    | trivial
    | rfl
    | exact fun l hl => Option.some.inj hl ▸ List.mem_singleton_self _
    | exact nofun

/-- The session after that. -/
def interleaved : loaderService.Session :=
  (Session.play interleaving (.start {})).getD (.start {})

/-- The domain of what was defined first comes first, although it was made last. -/
theorem domains_follow_sources_interleaved :
    Session.play interleaving (.start {}) = some interleaved ∧ DomainsFollow interleaved.now ∧
      interleaved.now.state.defined solitary.id = [domainless, sourced, sourceless] ∧
      (interleaved.now.state.tablesOf solitary.id).domains = [domainless.domain, sourced.domain] ∧
      Yielded interleaved.now.past ⟨solitary.id, .found (some libSource)⟩ sourced ∧
      Yielded interleaved.now.past ⟨solitary.id, .found none⟩ sourceless ∧
      Yielded interleaved.now.past ⟨solitary.id, .given none⟩ domainless := by
  have hplay : Session.play interleaving (.start {}) = some interleaved := rfl
  have hreaches := reaches_of_play interleaving_allowed hplay
  have hsuffix : ∀ n, interleaved.now.past.drop n <:+ interleaved.now.past := fun n =>
    List.drop_suffix n _
  exact ⟨hplay, domains_follow_sources hreaches rfl, rfl, rfl,
    ⟨_, _, _, _, hsuffix 35, rfl⟩, ⟨_, _, _, _, hsuffix 9, rfl⟩, ⟨_, _, _, _, hsuffix 43, rfl⟩⟩

end Loading
