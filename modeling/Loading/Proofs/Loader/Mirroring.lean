import Loading.Proofs.Loader.ActionFootprints
import Mathlib.Data.Option.Defs
import Mathlib.Order.Basic

/-!
# Operations in two states that are alike

Two states may differ in the numbers of locks, domains and modules, and in what loaders have
in use, and still be alike: the same names are answered by modules that correspond to each
other, and the same signers are known.  Loaders never look at what is different.  So an
operation does the same in both, asks for the same, and has corresponding results, as long as
collaborators do not look at it either.

* `Matching` — which modules of the one state correspond to which of the other.
* `Facing` — two states, with their collaborators, are alike.
* `Mirrors` — two tasks, from states that are alike, end alike.
* `Blind` — collaborators who answer alike what they are asked alike.
* `mirrors_define`, `mirrors_resolve` — so do loaders.
-/

namespace Loading

open Interaction Loaders

/-- Modules of the same name and loader, of the same length and from the same source. -/
structure Module.Resembles (m m' : Module) : Prop where
  /-- They bear the same name. -/
  name : m'.name = m.name
  /-- The same loader has defined them. -/
  loader : m'.loader = m.loader
  /-- They are equally long. -/
  codeLength : m'.codeLength = m.codeLength
  /-- They come from the same source. -/
  source : m'.domain.source = m.domain.source

/-- Which modules correspond to each other. -/
structure Matching where
  /-- The one corresponds to the other. -/
  rel : Module → Module → Prop
  /-- What corresponds is like each other. -/
  resembles : ∀ {m m'}, rel m m' → m.Resembles m'

/-- A matching is less than another one if that matches more. -/
instance : Preorder Matching :=
  Preorder.lift Matching.rel

/-- The same error, or modules that correspond to each other. -/
inductive Corresponds (β : Matching) :
    Except LoadError Module → Except LoadError Module → Prop
  | ok {m m' : Module} (h : β.rel m m') : Corresponds β (.ok m) (.ok m')
  | error (e : LoadError) : Corresponds β (.error e) (.error e)

/-- What two loaders hold is alike: the same names are answered by modules that correspond,
the same signers are known, and domains come from the same sources. -/
structure Holdings.Alike (β : Matching) (h h' : Holdings) : Prop where
  /-- The same names are answered, by modules that correspond. -/
  loaded : ∀ n, Option.Rel β.rel (h.loaded.find? n) (h'.loaded.find? n)
  /-- The same signers are known. -/
  signers : h'.signers = h.signers
  /-- The default domains come from the same source. -/
  defaultSource : h'.defaultSource = h.defaultSource
  /-- So do the domains of code sources. -/
  keptSource : h'.keptSource = h.keptSource

/-- What corresponds still does by a greater matching. -/
theorem Corresponds.mono {β β₁ : Matching} {r r' : Except LoadError Module}
    (h : Corresponds β r r') (hle : β ≤ β₁) : Corresponds β₁ r r' := by
  cases h with
  | ok h => exact .ok (hle _ _ h)
  | error e => exact .error e

/-- Domains that come from the same source have the same signers. -/
theorem ProtectionDomain.certificates_eq {d d' : ProtectionDomain} (h : d'.source = d.source) :
    d'.certificates = d.certificates := by
  unfold ProtectionDomain.certificates
  rw [h]

/-- Of two optional values that are related, both are there or neither. -/
theorem isSome_of_rel {α α' : Type} {R : α → α' → Prop} {o : Option α} {o' : Option α'}
    (h : Option.Rel R o o') : o'.isSome = o.isSome := by
  cases h <;> rfl

/-- Values that are related by one relation are related by a greater one. -/
theorem rel_mono {α α' : Type} {R R' : α → α' → Prop} {o : Option α} {o' : Option α'}
    (h : Option.Rel R o o') (hle : ∀ a a', R a a' → R' a a') : Option.Rel R' o o' := by
  cases h with
  | some h => exact .some (hle _ _ h)
  | none => exact .none

namespace Holdings.Alike

variable {β β₁ : Matching} {h h' : Holdings} {m m' : Module}

theorem mono (halike : h.Alike β h') (hle : β ≤ β₁) : h.Alike β₁ h' :=
  ⟨fun n => rel_mono (halike.loaded n) hle, halike.signers, halike.defaultSource,
    halike.keptSource⟩

/-- A loader knows a name in the one state if it does in the other. -/
theorem isSome (halike : h.Alike β h') (n : Name) :
    (h'.loaded.find? n).isSome = (h.loaded.find? n).isSome :=
  isSome_of_rel (halike.loaded n)

/-- Signers are granted or refused in both. -/
theorem reserve (halike : h.Alike β h') (name : Name) (signers : CertificateSet) :
    (h'.signers.reserve name signers).1 = (h.signers.reserve name signers).1 ∧
      (h.reserve name signers).Alike β (h'.reserve name signers) := by
  obtain ⟨hloaded, hsigners, hdefault, hkept⟩ := halike
  unfold Holdings.reserve
  rw [hsigners]
  exact ⟨rfl, hloaded, rfl, hdefault, hkept⟩

theorem release (halike : h.Alike β h') (package : String) (committed : Bool) :
    (h.release package committed).Alike β (h'.release package committed) := by
  obtain ⟨hloaded, hsigners, hdefault, hkept⟩ := halike
  unfold Holdings.release
  rw [hsigners]
  exact ⟨hloaded, rfl, hdefault, hkept⟩

/-- Where two modules that correspond are set, the tables still answer alike. -/
theorem loaded_set (halike : h.Alike β h') (hm : β.rel m m') (name n : Name) :
    Option.Rel β.rel ((h.loaded.set name m).find? n) ((h'.loaded.set name m').find? n) := by
  rw [Table.find?_set, Table.find?_set]
  split
  · exact .some hm
  · exact halike.loaded n

theorem adopt (halike : h.Alike β h') (hm : β.rel m m') : (h.adopt m).Alike β (h'.adopt m') := by
  refine ⟨fun n => ?_, halike.signers, halike.defaultSource, halike.keptSource⟩
  unfold Holdings.adopt
  rw [(β.resembles hm).name]
  exact halike.loaded_set hm m.name n

theorem remember (halike : h.Alike β h') (name : Name) (hm : β.rel m m') :
    (h.remember name m).Alike β (h'.remember name m') := by
  refine ⟨fun n => ?_, halike.signers, halike.defaultSource, halike.keptSource⟩
  have hcontains : h'.loaded.contains name = h.loaded.contains name := halike.isSome name
  unfold Holdings.remember
  rw [hcontains]
  dsimp only
  split
  · exact halike.loaded n
  · exact halike.loaded_set hm name n

theorem recordDefined (halike : h.Alike β h') :
    (h.recordDefined m).Alike β (h'.recordDefined m') :=
  ⟨halike.loaded, halike.signers, halike.defaultSource, halike.keptSource⟩

theorem recordDomain (halike : h.Alike β h') {d d' : ProtectionDomain} :
    (h.recordDomain d).Alike β (h'.recordDomain d') :=
  ⟨halike.loaded, halike.signers, halike.defaultSource, halike.keptSource⟩

end Holdings.Alike

/-! ## Two states -/

section Mirrors

variable {E α α' : Type} (answer : (q : LoaderQuestion) → Loaders → E → q.Answer × Loaders × E)
  (same : Matching → Ground × E → Ground × E → Prop)

/-- Two states, with their collaborators, are alike: what loaders hold is alike, and so is what
collaborators know. -/
structure Facing (β : Matching) (s : Loaders) (e : E) (s' : Loaders) (e' : E) : Prop where
  /-- What loaders hold is alike. -/
  holdings : ∀ id, (s.holdings id).Alike β (s'.holdings id)
  /-- What collaborators know is alike. -/
  same : same β (s.ground, e) (s'.ground, e')

/-- From any two states that are alike by a matching or a greater one, two tasks have results
that are related, and end in states that are alike by a matching that is greater still. -/
def Mirrors (R : Matching → α → α' → Prop) (β : Matching) (p : LoaderTask α)
    (p' : LoaderTask α') : Prop :=
  ∀ β₁, β ≤ β₁ → ∀ s e s' e', Facing same β₁ s e s' e' →
    ∃ β₂, β₁ ≤ β₂ ∧ R β₂ (p.run answer s e).1 (p'.run answer s' e').1 ∧
      Facing same β₂ (p.run answer s e).2.1 (p.run answer s e).2.2
        (p'.run answer s' e').2.1 (p'.run answer s' e').2.2

variable {answer same} {R : Matching → α → α' → Prop} {β β' : Matching} {p : LoaderTask α}
  {p' : LoaderTask α'}

theorem Mirrors.later (h : Mirrors answer same R β p p') (hle : β ≤ β') :
    Mirrors answer same R β' p p' :=
  fun β₁ hβ₁ => h β₁ (le_trans hle hβ₁)

/-- Two operations, each after another one that mirrors the other. -/
theorem mirrors_bind {γ γ' : Type} {R' : Matching → γ → γ' → Prop}
    {f : α → LoaderTask γ} {f' : α' → LoaderTask γ'} (h : Mirrors answer same R β p p')
    (hf : ∀ β₁ a a', β ≤ β₁ → R β₁ a a' → Mirrors answer same R' β₁ (f a) (f' a')) :
    Mirrors answer same R' β (p >>= f) (p' >>= f') := by
  intro β₁ hβ₁ s e s' e' hfacing
  obtain ⟨β₂, hβ₂, hrel, hfacing₂⟩ := h β₁ hβ₁ s e s' e' hfacing
  obtain ⟨β₃, hβ₃, hrel₃, hfacing₃⟩ :=
    hf β₂ _ _ (le_trans hβ₁ hβ₂) hrel β₂ le_rfl _ _ _ _ hfacing₂
  rw [run_bind, run_bind]
  exact ⟨β₃, le_trans hβ₂ hβ₃, hrel₃, hfacing₃⟩

theorem mirrors_done {a : α} {a' : α'} (h : ∀ β₁, β ≤ β₁ → R β₁ a a') :
    Mirrors answer same R β (.done a) (.done a') :=
  fun β₁ hβ₁ _ _ _ _ hfacing => ⟨β₁, le_rfl, h β₁ hβ₁, hfacing⟩

/-- An action mirrors another one if it leaves alike what was alike. -/
theorem mirrors_transact {f : Loaders → α × Loaders} {g : Loaders → α' × Loaders}
    (hf : ∀ s : Loaders, s.Stroke (f s).2) (hg : ∀ s : Loaders, s.Stroke (g s).2)
    (h : ∀ β₁ s e s' e', β ≤ β₁ → Facing same β₁ s e s' e' →
      R β₁ (f s).1 (g s').1 ∧ ∀ id, ((f s).2.holdings id).Alike β₁ ((g s').2.holdings id)) :
    Mirrors answer same R β (transact f) (transact g) := by
  intro β₁ hβ₁ s e s' e' hfacing
  obtain ⟨hrel, hholdings⟩ := h β₁ s e s' e' hβ₁ hfacing
  refine ⟨β₁, le_rfl, hrel, hholdings, ?_⟩
  show same β₁ ((f s).2.ground, e) ((g s').2.ground, e')
  rw [(hf s).ground, (hg s').ground]
  exact hfacing.same

theorem mirrors_observe {f : Loaders → α} {g : Loaders → α'}
    (h : ∀ β₁ s e s' e', β ≤ β₁ → Facing same β₁ s e s' e' → R β₁ (f s) (g s')) :
    Mirrors answer same R β (observe f) (observe g) :=
  mirrors_transact (f := fun s => (f s, s)) (g := fun s => (g s, s)) (fun _ => .look)
    (fun _ => .look) fun β₁ s e s' e' hβ₁ hfacing =>
      ⟨h β₁ s e s' e' hβ₁ hfacing, hfacing.holdings⟩

theorem mirrors_change {f g : Loaders → Loaders} (hf : ∀ s : Loaders, s.Stroke (f s))
    (hg : ∀ s : Loaders, s.Stroke (g s))
    (h : ∀ β₁ s e s' e', β ≤ β₁ → Facing same β₁ s e s' e' →
      ∀ id, ((f s).holdings id).Alike β₁ ((g s').holdings id)) :
    Mirrors answer same (fun _ _ _ => True) β (change f) (change g) :=
  mirrors_transact (f := fun s => ((), f s)) (g := fun s => ((), g s)) hf hg
    fun β₁ s e s' e' hβ₁ hfacing => ⟨trivial, h β₁ s e s' e' hβ₁ hfacing⟩

/-! ## Collaborators -/

/-- Collaborators do not look at numbers either: what they are asked alike they answer alike,
and leave alike what was alike. -/
structure Blind (answer : (q : LoaderQuestion) → Loaders → E → q.Answer × Loaders × E)
    (same : Matching → Ground × E → Ground × E → Prop) : Prop where
  /-- Of modules that correspond, both are linked or neither. -/
  linked : ∀ {β g e g' e' m m'}, same β (g, e) (g', e') → β.rel m m' →
    (m.serial ∈ g.linked ↔ m'.serial ∈ g'.linked)
  /-- One lock is as good as another one. -/
  enter : ∀ β id lock lock', Mirrors answer same (fun _ _ _ => True) β
    (LoaderTask.ask (.enter id lock)) (LoaderTask.ask (.enter id lock'))
  /-- It is let go of in the same way. -/
  leave : ∀ β id lock lock', Mirrors answer same (fun _ _ _ => True) β
    (LoaderTask.ask (.leave id lock)) (LoaderTask.ask (.leave id lock'))
  /-- Built-in modules correspond. -/
  bootstrap : ∀ β key name, Mirrors answer same (fun β => Option.Rel β.rel) β
    (LoaderTask.ask (.bootstrap key name)) (LoaderTask.ask (.bootstrap key name))
  /-- The same bytes are found. -/
  find : ∀ β id name, Mirrors answer same (fun _ => Eq) β
    (LoaderTask.ask (.find id name)) (LoaderTask.ask (.find id name))
  /-- From the same bytes and the same source, modules are made that correspond. -/
  produce : ∀ β key (r : DefinitionRequest) (d : ProtectionDomain), d.source = r.domain.source →
    Mirrors answer same Corresponds β (LoaderTask.ask (.produce key r))
      (LoaderTask.ask (.produce key { r with domain := d }))
  /-- Modules that correspond are linked in the same way. -/
  link : ∀ β key m m', β.rel m m' → Mirrors answer same (fun _ => Eq) β
    (LoaderTask.ask (.link key m)) (LoaderTask.ask (.link key m'))

/-! ## Loaders -/

/-- Where one loader holds something else in both states, and this is alike, what loaders hold
is still alike. -/
theorem alike_update {h h' : LoaderId → Holdings} (halike : ∀ id, (h id).Alike β (h' id))
    {id : LoaderId} {x x' : Holdings} (hx : x.Alike β x') (k : LoaderId) :
    (Function.update h id x k).Alike β (Function.update h' id x' k) := by
  rw [Function.update_apply, Function.update_apply]
  split
  · exact hx
  · exact halike k

/-- An action that does not touch what is held leaves it alike. -/
theorem Facing.unmoved {s s' t t' : Loaders} {e e' : E} (hfacing : Facing same β s e s' e')
    (h : t.holdings = s.holdings) (h' : t'.holdings = s'.holdings) (id : LoaderId) :
    (t.holdings id).Alike β (t'.holdings id) := by
  rw [h, h']
  exact hfacing.holdings id

variable {l : Loader} {name : Name} {m m' : Module} {d d' : ProtectionDomain}

/-- Both fail with the same error. -/
theorem mirrors_refused (e : LoadError) :
    Mirrors answer same Corresponds β (.done (.error e)) (.done (.error e)) :=
  mirrors_done fun _ _ => .error e

/-- Both succeed with modules that correspond. -/
theorem mirrors_returned (hm : β.rel m m') :
    Mirrors answer same Corresponds β (.done (.ok m)) (.done (.ok m')) :=
  mirrors_done fun _ hβ₁ => .ok (hβ₁ _ _ hm)

/-- What is done under locks for the same name is done alike. -/
theorem mirrors_locked (blind : Blind answer same)
    {body body' : LoaderTask (Except LoadError Module)}
    (h : Mirrors answer same Corresponds β body body') :
    Mirrors answer same Corresponds β (l.locked name body) (l.locked name body') := by
  unfold Loader.locked
  refine mirrors_bind (R := fun _ _ _ => True) (mirrors_transact (fun s => .lockFor l.id name)
    (fun s => .lockFor l.id name) fun β₁ s e s' e' _ hfacing => ⟨trivial, ?_⟩)
      fun β₁ lock lock' hβ₁ _ => ?_
  · exact hfacing.unmoved (holdings_lockFor s l.id name) (holdings_lockFor s' l.id name)
  refine mirrors_bind (blind.enter β₁ l.id lock lock') fun β₂ _ _ hβ₂ _ => ?_
  refine mirrors_bind (h.later (le_trans hβ₁ hβ₂)) fun β₃ r r' _ hr => ?_
  refine mirrors_bind (blind.leave β₃ l.id lock lock') fun β₄ _ _ hβ₄ _ => ?_
  exact mirrors_done fun β₅ hβ₅ => hr.mono (le_trans hβ₄ hβ₅)

/-- Domains that are given or made come from the same source. -/
theorem mirrors_domainOr {domain domain' : Option ProtectionDomain}
    (h : domain'.map (·.source) = domain.map (·.source)) :
    Mirrors answer same (fun _ d d' => d'.source = d.source) β (l.domainOr domain)
      (l.domainOr domain') := by
  cases domain with
  | none =>
      obtain rfl : domain' = none := Option.map_eq_none_iff.1 h
      refine mirrors_transact (fun s => .defaultDomain l.id) (fun s => .defaultDomain l.id)
        fun β₁ s e s' e' _ hfacing => ⟨?_, ?_⟩
      · rw [source_defaultDomain, source_defaultDomain]
        exact (hfacing.holdings l.id).defaultSource
      · exact hfacing.unmoved (holdings_defaultDomain s l.id) (holdings_defaultDomain s' l.id)
  | some d =>
      obtain ⟨d', rfl, hd⟩ := Option.map_eq_some_iff.1 h
      exact mirrors_done fun _ _ => hd

/-- Signers are reserved in both states or refused in both. -/
theorem mirrors_reserve (hd : d'.source = d.source) :
    Mirrors answer same (fun _ => Eq) β
      (transact fun s => s.reserve l.id name d.certificates)
      (transact fun s => s.reserve l.id name d'.certificates) := by
  rw [ProtectionDomain.certificates_eq hd]
  refine mirrors_transact (fun s => .reserve l.id name d.certificates)
    (fun s => .reserve l.id name d.certificates) fun β₁ s e s' e' _ hfacing => ?_
  obtain ⟨hresult, hheld⟩ := (hfacing.holdings l.id).reserve name d.certificates
  rw [reserve_fst, reserve_fst, holdings_reserve, holdings_reserve]
  exact ⟨hresult.symm, alike_update hfacing.holdings hheld⟩

theorem mirrors_release (package : String) (committed : Bool) :
    Mirrors answer same (fun _ _ _ => True) β
      (change fun s => s.release l.id package committed)
      (change fun s => s.release l.id package committed) := by
  refine mirrors_change (fun s => .release l.id package committed)
    (fun s => .release l.id package committed) fun β₁ s e s' e' _ hfacing => ?_
  rw [holdings_release, holdings_release]
  exact alike_update hfacing.holdings ((hfacing.holdings l.id).release package committed)

/-- A module becomes the answer for its name in both states or in neither. -/
theorem mirrors_adopt (hm : β.rel m m') :
    Mirrors answer same (fun _ => Eq) β (transact fun s => s.adopt l.id m)
      (transact fun s => s.adopt l.id m') := by
  refine mirrors_transact (fun s => .adopt l.id m) (fun s => .adopt l.id m')
    fun β₁ s e s' e' hβ₁ hfacing => ?_
  have hknown : ((s'.holdings l.id).loaded.find? m'.name).isSome =
      ((s.holdings l.id).loaded.find? m.name).isSome := by
    rw [(β.resembles hm).name]
    exact (hfacing.holdings l.id).isSome m.name
  cases hsome : (s.holdings l.id).loaded.find? m.name with
  | some x =>
      have hsome' := congrArg Option.isSome hsome
      rw [adopt_of_known s l.id hsome', adopt_of_known s' l.id (hknown.trans hsome')]
      exact ⟨rfl, hfacing.holdings⟩
  | none =>
      have hnone' := Option.isSome_eq_false_iff.1 (hknown.trans (congrArg Option.isSome hsome))
      obtain ⟨hfresh, hholdings⟩ := holdings_adopt s l.id hsome
      obtain ⟨hfresh', hholdings'⟩ := holdings_adopt s' l.id (Option.isNone_iff_eq_none.1 hnone')
      rw [hfresh, hfresh', hholdings, hholdings']
      exact ⟨rfl, alike_update hfacing.holdings ((hfacing.holdings l.id).adopt (hβ₁ _ _ hm))⟩

/-- What is recorded of definitions is not looked at by later ones. -/
theorem mirrors_record (hm : β.rel m m') (package : String) :
    Mirrors answer same Corresponds β (do
      change fun s => s.release l.id package true
      change fun s => s.onTables l.id fun t => t.recordDefined m
      change fun s => s.onTables l.id fun t => t.recordDomain d
      return .ok m : LoaderTask (Except LoadError Module)) (do
      change fun s => s.release l.id package true
      change fun s => s.onTables l.id fun t => t.recordDefined m'
      change fun s => s.onTables l.id fun t => t.recordDomain d'
      return .ok m' : LoaderTask (Except LoadError Module)) := by
  refine mirrors_bind (mirrors_release package true) fun β₁ _ _ hβ₁ _ => ?_
  refine mirrors_bind (mirrors_change (fun s => .recordDefined l.id m)
    (fun s => .recordDefined l.id m') fun β₂ s e s' e' _ hfacing => ?_)
    fun β₂ _ _ hβ₂ _ => ?_
  · rw [holdings_recordDefined, holdings_recordDefined]
    exact alike_update hfacing.holdings (hfacing.holdings l.id).recordDefined
  refine mirrors_bind (mirrors_change (fun s => .recordDomain l.id d)
    (fun s => .recordDomain l.id d') fun β₃ s e s' e' _ hfacing => ?_)
    fun β₃ _ _ hβ₃ _ => ?_
  · rw [holdings_recordDomain, holdings_recordDomain]
    exact alike_update hfacing.holdings (hfacing.holdings l.id).recordDomain
  exact mirrors_returned (hβ₃ _ _ (hβ₂ _ _ (hβ₁ _ _ hm)))

/-- Modules that correspond are installed alike. -/
theorem mirrors_install (hm : β.rel m m') (hd : d'.source = d.source) (package : String) :
    Mirrors answer same Corresponds β (l.install m d package) (l.install m' d' package) := by
  unfold Loader.install
  rw [ProtectionDomain.certificates_eq hd, (β.resembles hm).name]
  refine mirrors_bind (mirrors_adopt hm) fun β₁ fresh _ hβ₁ heq => ?_
  cases heq
  cases fresh with
  | false =>
      exact mirrors_bind (mirrors_release package false) fun β₂ _ _ _ _ => mirrors_refused _
  | true =>
      cases hempty : d.certificates.isEmpty with
      | true => exact mirrors_record (hβ₁ _ _ hm) package
      | false =>
          refine mirrors_bind (mirrors_change (fun s => .sign m d.certificates)
            (fun s => .sign m' d.certificates) fun β₂ s e s' e' _ hfacing =>
              hfacing.unmoved (holdings_sign s m d.certificates)
                (holdings_sign s' m' d.certificates))
            fun β₂ _ _ hβ₂ _ => ?_
          exact mirrors_record (hβ₂ _ _ (hβ₁ _ _ hm)) package

/-- To modules that correspond, a loader objects alike. -/
theorem objection?_eq (hm : m.Resembles m') (name : Option Name) :
    l.objection? name m' = l.objection? name m := by
  unfold Loader.objection?
  rw [hm.name, hm.loader]

/-! ## Defining -/

variable {domain domain' : Option ProtectionDomain} {bytes : List UInt8} {start stop : Nat}

theorem mirrors_defineHeld (blind : Blind answer same)
    (h : domain'.map (·.source) = domain.map (·.source)) :
    Mirrors answer same Corresponds β (l.defineHeld name bytes start stop domain)
      (l.defineHeld name bytes start stop domain') := by
  unfold Loader.defineHeld
  refine mirrors_bind (R := fun _ => Eq) (mirrors_observe fun β₁ s e s' e' _ hfacing =>
    ((hfacing.holdings l.id).isSome name).symm) fun β₁ known _ _ heq => ?_
  cases heq
  cases known with
  | true => exact mirrors_refused _
  | false =>
      refine mirrors_bind (mirrors_domainOr h) fun β₂ d d' _ hd => ?_
      refine mirrors_bind (mirrors_reserve hd) fun β₃ granted _ _ heq => ?_
      cases heq
      cases granted with
      | error e => exact mirrors_refused e
      | ok package =>
          refine mirrors_bind (blind.produce β₃ _ _ d' hd) fun β₄ produced _ _ hproduced => ?_
          have hdropped : ∀ e, Mirrors answer same Corresponds β₄
              (do change fun s => s.release l.id package false; return .error e)
              (do change fun s => s.release l.id package false; return .error e) := fun e =>
            mirrors_bind (mirrors_release package false) fun _ _ _ _ _ => mirrors_refused e
          cases hproduced with
          | error e => exact hdropped e
          | @ok m m' hm =>
              simp only [Except.bind, objection?_eq (β₄.resembles hm)]
              cases hobjection : l.objection? (some name) m with
              | some e => exact hdropped e
              | none => exact mirrors_install hm hd package

theorem mirrors_enterHeld (hm : β.rel m m') (hd : d'.source = d.source) :
    Mirrors answer same Corresponds β (l.enterHeld m d) (l.enterHeld m' d') := by
  unfold Loader.enterHeld
  rw [(β.resembles hm).name]
  refine mirrors_bind (mirrors_reserve hd) fun β₁ granted _ hβ₁ heq => ?_
  cases heq
  cases granted with
  | error e => exact mirrors_refused e
  | ok package => exact mirrors_install (hβ₁ _ _ hm) hd package

theorem mirrors_defineUnnamed (blind : Blind answer same)
    (h : domain'.map (·.source) = domain.map (·.source)) :
    Mirrors answer same Corresponds β (l.defineUnnamed bytes start stop domain)
      (l.defineUnnamed bytes start stop domain') := by
  unfold Loader.defineUnnamed
  refine mirrors_bind (mirrors_domainOr h) fun β₁ d d' _ hd => ?_
  refine mirrors_bind (blind.produce β₁ _ _ d' hd) fun β₂ produced _ _ hproduced => ?_
  cases hproduced with
  | error e => exact mirrors_refused e
  | @ok m m' hm =>
      simp only [objection?_eq (β₂.resembles hm), (β₂.resembles hm).name]
      cases hobjection : l.objection? none m with
      | some e => exact mirrors_refused e
      | none => exact mirrors_locked blind (mirrors_enterHeld hm hd)

/-- Two definitions from the same source come to the same in states that are alike. -/
theorem mirrors_define (blind : Blind answer same) (l : Loader) (name : Option Name)
    (bytes : List UInt8) (start stop : Nat)
    (h : domain'.map (·.source) = domain.map (·.source)) :
    Mirrors answer same Corresponds β (l.define name bytes start stop domain)
      (l.define name bytes start stop domain') := by
  unfold Loader.define
  cases name.bind fun name => (l.rules.fault? name).map (LoadError.invalidName name) with
  | some e => exact mirrors_refused e
  | none =>
      dsimp only
      split
      · exact mirrors_refused _
      · cases name with
        | none => exact mirrors_defineUnnamed blind h
        | some name => exact mirrors_locked blind (mirrors_defineHeld blind h)

/-! ## Resolving -/

/-- The domains that loaders keep for a code source come from the same source. -/
theorem mirrors_sourceDomain (source : CodeSource) :
    Mirrors answer same (fun _ d d' => d'.map (·.source) = d.map (·.source)) β
      (some <$> (transact fun s => s.sourceDomain l.id source : LoaderTask ProtectionDomain))
      (some <$> (transact fun s => s.sourceDomain l.id source : LoaderTask ProtectionDomain)) := by
  refine mirrors_bind (R := fun _ d d' => ProtectionDomain.source d' = ProtectionDomain.source d)
    (mirrors_transact (fun s => .sourceDomain l.id source) (fun s => .sourceDomain l.id source)
      fun β₁ s e s' e' _ hfacing => ⟨?_, ?_⟩)
    fun _ _ _ _ hd => mirrors_done fun _ _ => congrArg some hd
  · rw [source_sourceDomain, source_sourceDomain, (hfacing.holdings l.id).keptSource]
  · exact hfacing.unmoved (holdings_sourceDomain s l.id source)
      (holdings_sourceDomain s' l.id source)

theorem mirrors_findAndDefine (blind : Blind answer same) :
    Mirrors answer same Corresponds β (l.findAndDefine name) (l.findAndDefine name) := by
  unfold Loader.findAndDefine
  refine mirrors_bind (blind.find β l.id name) fun β₁ found _ _ heq => ?_
  cases heq
  cases found with
  | error e => exact mirrors_refused e
  | ok found =>
      cases hsource : found.source with
      | none =>
          simp only [hsource]
          exact mirrors_define blind l _ _ _ _ rfl
      | some source =>
          simp only [hsource]
          exact mirrors_bind (mirrors_sourceDomain source) fun _ _ _ _ hd =>
            mirrors_define blind l _ _ _ _ hd

/-- A name that a loader looks up is answered alike, if it is answered alike above. -/
theorem mirrors_lookUp (blind : Blind answer same)
    {delegate delegate' : LoaderTask (Except LoadError Module)}
    (h : Mirrors answer same Corresponds β delegate delegate') :
    Mirrors answer same Corresponds β (l.lookUp name delegate) (l.lookUp name delegate') := by
  unfold Loader.lookUp
  refine mirrors_bind (R := fun β => Option.Rel β.rel) (mirrors_observe
    fun β₁ s e s' e' _ hfacing => (hfacing.holdings l.id).loaded name)
    fun β₁ known known' hβ₁ hknown => ?_
  cases hknown with
  | some hm => exact mirrors_returned hm
  | none =>
      refine mirrors_bind (h.later hβ₁) fun β₂ r r' _ hr => ?_
      cases hr with
      | @ok m m' hm =>
          refine mirrors_bind (mirrors_change (fun s => .remember l.id name m)
            (fun s => .remember l.id name m') fun β₃ s e s' e' hβ₃ hfacing => ?_)
            fun β₃ _ _ hβ₃ _ => mirrors_returned (hβ₃ _ _ hm)
          rw [holdings_remember, holdings_remember]
          exact alike_update hfacing.holdings ((hfacing.holdings l.id).remember name (hβ₃ _ _ hm))
      | error e =>
          unfold Loader.afterDelegation
          dsimp only
          split
          · exact mirrors_findAndDefine blind
          · exact mirrors_refused e

/-- What is asked above is answered alike, by induction on the path. -/
theorem mirrors_delegate (blind : Blind answer same) (l : Loader) (name : Name) :
    Mirrors answer same Corresponds β (l.delegate name) (l.delegate name) := by
  induction l generalizing β with
  | root level =>
      refine mirrors_bind (blind.bootstrap β _ name) fun β₁ found found' _ hfound => ?_
      cases hfound with
      | some hm => exact mirrors_returned hm
      | none => exact mirrors_refused _
  | child level parent ih =>
      show Mirrors answer same Corresponds β (parent.resolveOnly name) (parent.resolveOnly name)
      rw [Upkeep.resolveOnly_eq]
      split
      · exact mirrors_locked blind (mirrors_lookUp blind ih)
      · exact mirrors_refused _

/-- Modules that correspond are both linked, or the linker is asked about both. -/
theorem mirrors_linkIfNeeded (blind : Blind answer same) (hm : β.rel m m') :
    Mirrors answer same Corresponds β (l.linkIfNeeded m) (l.linkIfNeeded m') := by
  unfold Loader.linkIfNeeded
  refine mirrors_bind (R := fun _ => Eq) (mirrors_observe fun β₁ s e s' e' hβ₁ hfacing => ?_)
    fun β₁ linked _ hβ₁ heq => ?_
  · have hlinked : m.serial ∈ s.ledger.linked ↔ m'.serial ∈ s'.ledger.linked :=
      blind.linked hfacing.same (hβ₁ _ _ hm)
    show s.ledger.linked.contains m.serial = s'.ledger.linked.contains m'.serial
    rw [Bool.eq_iff_iff, List.contains_iff_mem, List.contains_iff_mem]
    exact hlinked
  cases heq
  cases linked with
  | true => exact mirrors_returned (hβ₁ _ _ hm)
  | false =>
      refine mirrors_bind (blind.link β₁ _ m m' (hβ₁ _ _ hm)) fun β₂ outcome _ hβ₂ heq => ?_
      cases heq
      cases outcome with
      | error e => exact mirrors_refused e
      | ok u => exact mirrors_returned (hβ₂ _ _ (hβ₁ _ _ hm))

/-- Two resolutions come to the same in states that are alike. -/
theorem mirrors_resolve (blind : Blind answer same) (l : Loader) (name : Name) (link : Bool) :
    Mirrors answer same Corresponds β (l.resolve name link) (l.resolve name link) := by
  unfold Loader.resolve
  split
  · refine mirrors_locked blind (mirrors_bind (mirrors_lookUp blind (mirrors_delegate blind l name))
      fun β₁ r r' _ hr => ?_)
    cases hr with
    | error e => exact mirrors_refused e
    | ok hm =>
        cases link with
        | false => exact mirrors_returned hm
        | true => exact mirrors_linkIfNeeded blind hm
  · exact mirrors_refused _

end Mirrors

end Loading
