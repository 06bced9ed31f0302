import Loading.Loader.State
import Loading.Proofs.Signers.Reservations

/-!
# The loaders of a hierarchy

What can be said of the state of all loaders without following any operation.
Every change is made to the tables of a single loader, so it is enough to know
what becomes of those, and the hierarchy itself only ever grows at its ends.

* `tablesOf_onTables` — a change of one loader's tables leaves the others alone.
* `Beside` — changes beside the modules and the signers: locks, numbers, domains
  that have been made but not used.
* `Founded` — loaders have smaller numbers than the loaders below them, and no
  loader has tables before it is made.
* `Grows` — no loader was lost, and no loader answers a name otherwise than
  before.
-/

namespace Loading

/-- No module is loaded or defined, and no signers are known. -/
structure LoaderTables.Blank (t : LoaderTables) : Prop where
  /-- Nothing is loaded. -/
  loaded : t.loaded = {}
  /-- Nothing is defined. -/
  defined : t.defined = []
  /-- No domain is in use. -/
  domains : t.domains = []
  /-- No signers are known. -/
  signers : t.signers = {}

namespace LoaderTables

variable (t : LoaderTables) (d : ProtectionDomain) (name : Name) (m : Module)

@[simp] theorem recordDomain_loaded : (t.recordDomain d).loaded = t.loaded := by
  unfold recordDomain
  split <;> rfl

@[simp] theorem recordDomain_defined : (t.recordDomain d).defined = t.defined := by
  unfold recordDomain
  split <;> rfl

@[simp] theorem recordDomain_signers : (t.recordDomain d).signers = t.signers := by
  unfold recordDomain
  split <;> rfl

@[simp] theorem remember_defined : (t.remember name m).defined = t.defined := by
  unfold remember
  split <;> rfl

@[simp] theorem remember_signers : (t.remember name m).signers = t.signers := by
  unfold remember
  split <;> rfl

end LoaderTables

namespace Loaders

/-! ## Tables -/

/-- Changing the tables of one loader leaves all other tables alone. -/
theorem tablesOf_onTables (s : Loaders) (id k : LoaderId) (f : LoaderTables → LoaderTables) :
    (s.onTables id f).tablesOf k = if k = id then f (s.tablesOf id) else s.tablesOf k := by
  unfold onTables tablesOf Table.findD
  rw [Table.find?_set]
  split <;> rfl

@[simp] theorem tablesOf_onTables_self (s : Loaders) (id : LoaderId)
    (f : LoaderTables → LoaderTables) : (s.onTables id f).tablesOf id = f (s.tablesOf id) := by
  rw [tablesOf_onTables, if_pos rfl]

theorem tablesOf_onTables_of_ne (s : Loaders) {id k : LoaderId} (f : LoaderTables → LoaderTables)
    (h : k ≠ id) : (s.onTables id f).tablesOf k = s.tablesOf k := by
  rw [tablesOf_onTables, if_neg h]

/-- What a change of tables leaves alone in them, it leaves alone in all tables. -/
theorem tablesOf_onTables_congr {α : Type} (s : Loaders) (id k : LoaderId)
    {f : LoaderTables → LoaderTables} (g : LoaderTables → α) (h : ∀ t, g (f t) = g t) :
    g ((s.onTables id f).tablesOf k) = g (s.tablesOf k) := by
  rw [tablesOf_onTables]
  split
  · rename_i hk
    rw [h, hk]
  · rfl

/-- A reservation changes the signers of one loader's packages. -/
theorem reserve_snd (s : Loaders) (id : LoaderId) (name : Name) (signers : CertificateSet) :
    (s.reserve id name signers).2 = s.onTables id fun t =>
      { t with signers := ((s.tablesOf id).signers.reserve name signers).2 } := rfl

/-- A reservation that is granted is for the package of the name. -/
theorem package_of_reserve {s : Loaders} {id : LoaderId} {name : Name} {signers : CertificateSet}
    {package : String} (h : (s.reserve id name signers).1 = .ok package) :
    package = name.package :=
  Reservations.package_of_reserve h

theorem loaded?_reserve (s : Loaders) (id : LoaderId) (name : Name) (signers : CertificateSet)
    (k : LoaderId) (n : Name) :
    (s.reserve id name signers).2.loaded? k n = s.loaded? k n := by
  rw [reserve_snd]
  exact tablesOf_onTables_congr s id k (fun t => t.loaded.find? n) fun _ => rfl

theorem loaded?_release (s : Loaders) (id : LoaderId) (package : String) (committed : Bool)
    (k : LoaderId) (n : Name) : (s.release id package committed).loaded? k n = s.loaded? k n :=
  tablesOf_onTables_congr s id k (fun t => t.loaded.find? n) fun _ => rfl

theorem defined_reserve (s : Loaders) (id : LoaderId) (name : Name) (signers : CertificateSet)
    (k : LoaderId) : (s.reserve id name signers).2.defined k = s.defined k := by
  rw [reserve_snd]
  exact tablesOf_onTables_congr s id k LoaderTables.defined fun _ => rfl

theorem defined_release (s : Loaders) (id : LoaderId) (package : String) (committed : Bool)
    (k : LoaderId) : (s.release id package committed).defined k = s.defined k :=
  tablesOf_onTables_congr s id k LoaderTables.defined fun _ => rfl

theorem defined_remember (s : Loaders) (id : LoaderId) (name : Name) (m : Module)
    (k : LoaderId) : (s.onTables id fun t => t.remember name m).defined k = s.defined k :=
  tablesOf_onTables_congr s id k LoaderTables.defined fun t => t.remember_defined name m

/-! ## Changes beside the modules -/

/-- The state has changed only beside the modules and their signers. -/
structure Beside (s s' : Loaders) : Prop where
  /-- No loader was made. -/
  created : s'.created = s.created
  /-- Numbers of loaders are only used up. -/
  nextLoader : s.nextLoader ≤ s'.nextLoader
  /-- The same is loaded. -/
  loaded : ∀ id, (s'.tablesOf id).loaded = (s.tablesOf id).loaded
  /-- The same is defined. -/
  defined : ∀ id, (s'.tablesOf id).defined = (s.tablesOf id).defined
  /-- The same domains are in use. -/
  domains : ∀ id, (s'.tablesOf id).domains = (s.tablesOf id).domains
  /-- The same signers are known of packages. -/
  signers : ∀ id, (s'.tablesOf id).signers = (s.tablesOf id).signers
  /-- The same signers are known of modules. -/
  signed : s'.ledger.signers = s.ledger.signers

namespace Beside

theorem refl (s : Loaders) : Beside s s :=
  ⟨rfl, Nat.le_refl _, fun _ => rfl, fun _ => rfl, fun _ => rfl, fun _ => rfl, rfl⟩

theorem trans {s₁ s₂ s₃ : Loaders} (h₁ : Beside s₁ s₂) (h₂ : Beside s₂ s₃) : Beside s₁ s₃ where
  created := h₂.created.trans h₁.created
  nextLoader := Nat.le_trans h₁.nextLoader h₂.nextLoader
  loaded id := (h₂.loaded id).trans (h₁.loaded id)
  defined id := (h₂.defined id).trans (h₁.defined id)
  domains id := (h₂.domains id).trans (h₁.domains id)
  signers id := (h₂.signers id).trans (h₁.signers id)
  signed := h₂.signed.trans h₁.signed

/-- What is loaded under a name is not changed either. -/
theorem loaded? {s s' : Loaders} (h : Beside s s') (id : LoaderId) (name : Name) :
    s'.loaded? id name = s.loaded? id name :=
  congrArg (Table.find? · name) (h.loaded id)

/-- A change of other fields of one loader's tables. -/
theorem onTables (s : Loaders) (id : LoaderId) {f : LoaderTables → LoaderTables}
    (hloaded : ∀ t, (f t).loaded = t.loaded) (hdefined : ∀ t, (f t).defined = t.defined)
    (hdomains : ∀ t, (f t).domains = t.domains) (hsigners : ∀ t, (f t).signers = t.signers) :
    Beside s (s.onTables id f) where
  created := rfl
  nextLoader := Nat.le_refl _
  loaded k := tablesOf_onTables_congr s id k LoaderTables.loaded hloaded
  defined k := tablesOf_onTables_congr s id k LoaderTables.defined hdefined
  domains k := tablesOf_onTables_congr s id k LoaderTables.domains hdomains
  signers k := tablesOf_onTables_congr s id k LoaderTables.signers hsigners
  signed := rfl

theorem lockFor (s : Loaders) (id : LoaderId) (name : Name) : Beside s (s.lockFor id name).2 := by
  show Beside s (s.onTables id fun t =>
    { t with locks := ((s.tablesOf id).locks.lockFor name).2 })
  apply onTables <;> intro t <;> rfl

theorem freshDomain (s : Loaders) (source : Option CodeSource) :
    Beside s (s.freshDomain source).2 :=
  ⟨rfl, Nat.le_refl _, fun _ => rfl, fun _ => rfl, fun _ => rfl, fun _ => rfl, rfl⟩

theorem defaultDomain (s : Loaders) (id : LoaderId) : Beside s (s.defaultDomain id).2 := by
  unfold Loaders.defaultDomain
  split
  · exact .refl s
  · refine (freshDomain s (some {})).trans ?_
    show Beside _ ((s.freshDomain (some {})).2.onTables id fun t =>
      { t with defaultDomain := some (s.freshDomain (some {})).1 })
    apply onTables <;> intro t <;> rfl

theorem sourceDomain (s : Loaders) (id : LoaderId) (source : CodeSource) :
    Beside s (s.sourceDomain id source).2 := by
  unfold Loaders.sourceDomain
  split
  · exact .refl s
  · refine (freshDomain s (some source)).trans ?_
    show Beside _ ((s.freshDomain (some source)).2.onTables id fun t =>
      { t with sourceDomains := t.sourceDomains.set source (s.freshDomain (some source)).1 })
    apply onTables <;> intro t <;> rfl

/-- Signers that are refused are not reserved. -/
theorem reserve_error {s : Loaders} {id : LoaderId} {name : Name} {signers : CertificateSet}
    {e : LoadError} (h : (s.reserve id name signers).1 = .error e) :
    Beside s (s.reserve id name signers).2 := by
  have hsame : ((s.tablesOf id).signers.reserve name signers).2 = (s.tablesOf id).signers :=
    Reservations.reserve_error h
  rw [reserve_snd, hsame]
  refine ⟨rfl, Nat.le_refl _, ?_, ?_, ?_, ?_, rfl⟩ <;> intro k <;> rw [tablesOf_onTables] <;>
    split <;> simp_all

end Beside

/-! ## Hierarchies that have been built -/

/-- Loaders have smaller numbers than the loaders below them, and no loader has
tables before it is made. -/
structure Founded (s : Loaders) : Prop where
  /-- The loaders above a loader have been made. -/
  path_created : ∀ l ∈ s.created, ∀ a ∈ l.path, a ∈ s.created
  /-- Numbers that are yet to come have not been used. -/
  id_lt : ∀ l ∈ s.created, l.id.val < s.nextLoader
  /-- A number tells a loader from all others. -/
  id_inj : ∀ l ∈ s.created, ∀ k ∈ s.created, l.id = k.id → l = k
  /-- The numbers go down on the way up. -/
  descending : ∀ l ∈ s.created, ∀ a ∈ l.ancestors, a.id.val < l.id.val
  /-- Where no loader has been made, nothing is known. -/
  blank : ∀ id, (∀ l ∈ s.created, l.id ≠ id) → (s.tablesOf id).Blank

namespace Founded

/-- Before anything is made, the hierarchy is empty. -/
theorem start : Founded {} where
  path_created l hl := by simp at hl
  id_lt l hl := by simp at hl
  id_inj l hl := by simp at hl
  descending l hl := by simp at hl
  blank _ _ := ⟨rfl, rfl, rfl, rfl⟩

theorem beside {s s' : Loaders} (h : Founded s) (hbeside : Beside s s') : Founded s' where
  path_created := by
    rw [hbeside.created]
    exact h.path_created
  id_lt l hl := by
    rw [hbeside.created] at hl
    exact Nat.lt_of_lt_of_le (h.id_lt l hl) hbeside.nextLoader
  id_inj := by
    rw [hbeside.created]
    exact h.id_inj
  descending := by
    rw [hbeside.created]
    exact h.descending
  blank id hid := by
    rw [hbeside.created] at hid
    have hblank := h.blank id hid
    exact ⟨(hbeside.loaded id).trans hblank.loaded, (hbeside.defined id).trans hblank.defined,
      (hbeside.domains id).trans hblank.domains, (hbeside.signers id).trans hblank.signers⟩

/-- What is known of modules is no matter to the hierarchy. -/
theorem freely {s s' : Loaders} (h : Founded s)
    (hbeside : Beside s { s' with ledger := s.ledger }) : Founded s' :=
  have hfounded := h.beside hbeside
  ⟨hfounded.path_created, hfounded.id_lt, hfounded.id_inj, hfounded.descending, hfounded.blank⟩

/-- The tables of a loader that has been made may change in any way. -/
theorem onTables {s : Loaders} (h : Founded s) {l : Loader} (hl : l ∈ s.created)
    (f : LoaderTables → LoaderTables) : Founded (s.onTables l.id f) where
  path_created := h.path_created
  id_lt := h.id_lt
  id_inj := h.id_inj
  descending := h.descending
  blank id hid := by
    rw [tablesOf_onTables_of_ne s f fun heq => hid l hl heq.symm]
    exact h.blank id hid

/-- No loader has the number that the next one is to get. -/
theorem id_ne_next {s : Loaders} (h : Founded s) {l : Loader} (hl : l ∈ s.created) :
    l.id ≠ ⟨s.nextLoader⟩ := by
  intro heq
  have hlt := h.id_lt l hl
  rw [heq] at hlt
  exact Nat.lt_irrefl _ hlt

/-- The loader above a loader has been made before it. -/
theorem ancestor_created {s : Loaders} (h : Founded s) {l a : Loader} (hl : l ∈ s.created)
    (ha : a ∈ l.ancestors) : a ∈ s.created :=
  h.path_created l hl a (List.mem_cons_of_mem _ ha)

/-- The loaders on a path have different numbers. -/
theorem nodup_path {s : Loaders} (h : Founded s) {l : Loader} (hl : l ∈ s.created) :
    (l.path.map (·.id)).Nodup := by
  induction l with
  | root level => exact List.nodup_singleton _
  | child level parent ih =>
      have hparent : parent ∈ s.created := h.ancestor_created hl List.mem_cons_self
      refine List.nodup_cons.2 ⟨fun hmem => ?_, ih hparent⟩
      obtain ⟨a, ha, hid⟩ := List.mem_map.1 hmem
      have hlt := h.descending _ hl a ha
      rw [hid] at hlt
      exact Nat.lt_irrefl _ hlt

end Founded

/-! ## Making loaders -/

section Create

variable (s : Loaders) (k : Kind) (parent : Option Loader) (context : Context)

/-- A new loader gets the next number, and comes last. -/
theorem created_create :
    (s.create k parent context).2.created = s.created ++ [(s.create k parent context).1] := rfl

theorem id_create : (s.create k parent context).1.id = ⟨s.nextLoader⟩ := by
  cases parent <;> rfl

/-- What is settled about a loader when it is made. -/
theorem level_create : (s.create k parent context).1.level =
    ⟨⟨s.nextLoader⟩, k, (s.kindsOf context.registry).isRegistered k, context⟩ := by
  cases parent <;> rfl

theorem parent?_create : (s.create k parent context).1.parent? = parent := by
  cases parent <;> rfl

theorem ancestors_create :
    (s.create k parent context).1.ancestors = parent.elim [] Loader.path := by
  cases parent <;> rfl

theorem tablesOf_create_of_ne {id : LoaderId} (h : id ≠ ⟨s.nextLoader⟩) :
    (s.create k parent context).2.tablesOf id = s.tablesOf id := by
  show ((s.tables.set ⟨s.nextLoader⟩ _).find? id).getD {} = _
  rw [Table.find?_set, if_neg h]
  rfl

/-- A new loader starts with its assertion status and its locks only. -/
theorem tablesOf_create_self : (s.create k parent context).2.tablesOf ⟨s.nextLoader⟩ =
    { assertions := { byDefault := context.config.assertionsByDefault }
      locks := { parallel := ((s.kindsOf context.registry).noteInstance k).1 } } := by
  show ((s.tables.set ⟨s.nextLoader⟩ _).find? ⟨s.nextLoader⟩).getD {} = _
  rw [Table.find?_set, if_pos rfl]
  rfl

theorem blank_create : ((s.create k parent context).2.tablesOf ⟨s.nextLoader⟩).Blank := by
  rw [tablesOf_create_self]
  exact ⟨rfl, rfl, rfl, rfl⟩

end Create

/-- Making a loader changes nothing about modules and signers. -/
theorem Founded.blank_or_same {s : Loaders} (h : Founded s) (k : Kind) (parent : Option Loader)
    (context : Context) (id : LoaderId) :
    ((s.create k parent context).2.tablesOf id).Blank ∧ (s.tablesOf id).Blank ∨
      (s.create k parent context).2.tablesOf id = s.tablesOf id := by
  by_cases hid : id = ⟨s.nextLoader⟩
  · subst hid
    exact Or.inl ⟨blank_create s k parent context, h.blank _ fun l hl => h.id_ne_next hl⟩
  · exact Or.inr (tablesOf_create_of_ne s k parent context hid)

theorem Founded.loaded?_create {s : Loaders} (h : Founded s) (k : Kind) (parent : Option Loader)
    (context : Context) (id : LoaderId) (name : Name) :
    (s.create k parent context).2.loaded? id name = s.loaded? id name := by
  unfold loaded?
  rcases h.blank_or_same k parent context id with ⟨hblank, hblank'⟩ | hsame
  · rw [hblank.loaded, hblank'.loaded]
  · rw [hsame]

theorem Founded.defined_create {s : Loaders} (h : Founded s) (k : Kind) (parent : Option Loader)
    (context : Context) (id : LoaderId) :
    (s.create k parent context).2.defined id = s.defined id := by
  rcases h.blank_or_same k parent context id with ⟨hblank, hblank'⟩ | hsame
  · exact hblank.defined.trans hblank'.defined.symm
  · exact congrArg LoaderTables.defined hsame

/-- Below a loader that has been made, or below none, a loader may be made. -/
theorem Founded.create {s : Loaders} (h : Founded s) (k : Kind) {parent : Option Loader}
    (hparent : ∀ l ∈ parent, l ∈ s.created) (context : Context) :
    Founded (s.create k parent context).2 := by
  have hmem : ∀ {l}, l ∈ (s.create k parent context).2.created →
      l ∈ s.created ∨ l = (s.create k parent context).1 := by
    intro l hl
    rw [created_create, List.mem_append, List.mem_singleton] at hl
    exact hl
  have hold : ∀ {l}, l ∈ s.created → l ∈ (s.create k parent context).2.created := by
    intro l hl
    rw [created_create]
    exact List.mem_append_left _ hl
  have habove : ∀ a ∈ (s.create k parent context).1.ancestors, a ∈ s.created := by
    intro a ha
    rw [ancestors_create] at ha
    cases parent with
    | none => simp at ha
    | some p => exact h.path_created p (hparent p rfl) a ha
  refine ⟨?_, ?_, ?_, ?_, ?_⟩
  · intro l hl a ha
    rcases hmem hl with hl | rfl
    · exact hold (h.path_created l hl a ha)
    · rcases List.mem_cons.1 ha with rfl | ha
      · exact hl
      · exact hold (habove a ha)
  · intro l hl
    show l.id.val < s.nextLoader + 1
    rcases hmem hl with hl | rfl
    · exact Nat.lt_succ_of_lt (h.id_lt l hl)
    · rw [id_create]
      exact Nat.lt_succ_self _
  · intro l hl j hj heq
    rcases hmem hl with hl | rfl <;> rcases hmem hj with hj | rfl
    · exact h.id_inj l hl j hj heq
    · rw [id_create] at heq
      exact absurd heq (h.id_ne_next hl)
    · rw [id_create] at heq
      exact absurd heq.symm (h.id_ne_next hj)
    · rfl
  · intro l hl a ha
    rcases hmem hl with hl | rfl
    · exact h.descending l hl a ha
    · rw [id_create]
      exact h.id_lt a (habove a ha)
  · intro id hid
    rcases h.blank_or_same k parent context id with ⟨hblank, -⟩ | hsame
    · exact hblank
    · rw [hsame]
      exact h.blank id fun l hl => hid l (hold hl)

/-! ## Answers that last -/

/-- No loader was lost, and every name that was answered is answered by the same
module. -/
structure Grows (s s' : Loaders) : Prop where
  /-- No loader was lost. -/
  created : ∀ l ∈ s.created, l ∈ s'.created
  /-- Answers last. -/
  loaded : ∀ {id name m}, s.loaded? id name = some m → s'.loaded? id name = some m

/-- What a loader answers after it was told to remember a module. -/
theorem loaded?_remember (s : Loaders) (id k : LoaderId) (name n : Name) (m : Module) :
    (s.onTables id fun t => t.remember name m).loaded? k n =
      if k = id ∧ n = name then some ((s.loaded? id name).getD m) else s.loaded? k n := by
  unfold loaded?
  rw [tablesOf_onTables]
  by_cases hk : k = id
  · subst hk
    rw [if_pos rfl]
    unfold LoaderTables.remember Table.contains
    cases hloaded : (s.tablesOf k).loaded.find? name with
    | some x =>
        rw [Option.isSome_some, if_pos rfl]
        by_cases hn : n = name
        · subst hn
          rw [if_pos ⟨rfl, rfl⟩, hloaded]
          rfl
        · rw [if_neg fun h => hn h.2]
    | none =>
        rw [Option.isSome_none, if_neg Bool.false_ne_true]
        show ((s.tablesOf k).loaded.set name m).find? n = _
        rw [Table.find?_set]
        by_cases hn : n = name
        · rw [if_pos hn, if_pos ⟨rfl, hn⟩]
          rfl
        · rw [if_neg hn, if_neg fun h => hn h.2]
  · rw [if_neg hk, if_neg fun h => hk h.1]

/-- Where a loader has no answer for the name of a module, the module becomes the
answer. -/
theorem adopt_eq {s : Loaders} {id : LoaderId} {m : Module} (h : s.loaded? id m.name = none) :
    s.adopt id m = (true, s.onTables id fun t => t.remember m.name m) := by
  unfold adopt
  rw [h, Option.isSome_none, if_neg Bool.false_ne_true]
  have hnone : (s.tablesOf id).loaded.contains m.name = false := by
    unfold Table.contains
    rw [show (s.tablesOf id).loaded.find? m.name = none from h]
    rfl
  unfold onTables LoaderTables.remember
  dsimp only
  rw [hnone, if_neg Bool.false_ne_true]

/-- Where a loader has an answer for the name of a module, nothing happens. -/
theorem adopt_eq_of_isSome {s : Loaders} {id : LoaderId} {m : Module}
    (h : (s.loaded? id m.name).isSome = true) : s.adopt id m = (false, s) := by
  unfold adopt
  rw [if_pos h]

namespace Grows

theorem refl (s : Loaders) : Grows s s := ⟨fun _ hl => hl, fun h => h⟩

theorem trans {s₁ s₂ s₃ : Loaders} (h₁ : Grows s₁ s₂) (h₂ : Grows s₂ s₃) : Grows s₁ s₃ :=
  ⟨fun l hl => h₂.created l (h₁.created l hl), fun h => h₂.loaded (h₁.loaded h)⟩

theorem beside {s s' : Loaders} (h : Beside s s') : Grows s s' where
  created l hl := by
    rw [h.created]
    exact hl
  loaded hm := by
    rw [h.loaded?]
    exact hm

/-- A change of tables that leaves the answers alone. -/
theorem onTables (s : Loaders) (id : LoaderId) {f : LoaderTables → LoaderTables}
    (hf : ∀ t, (f t).loaded = t.loaded) : Grows s (s.onTables id f) where
  created _ hl := hl
  loaded {k name m} hm := by
    show ((s.onTables id f).tablesOf k).loaded.find? name = some m
    rw [tablesOf_onTables_congr s id k LoaderTables.loaded hf]
    exact hm

/-- What is remembered replaces no answer. -/
theorem remember (s : Loaders) (id : LoaderId) (name : Name) (m : Module) :
    Grows s (s.onTables id fun t => t.remember name m) where
  created _ hl := hl
  loaded {k n x} hx := by
    rw [loaded?_remember]
    split
    · rename_i h
      rw [← h.1, ← h.2, hx]
      rfl
    · exact hx

theorem sign (s : Loaders) (m : Module) (signers : CertificateSet) :
    Grows s (s.sign m signers).2 :=
  ⟨fun _ hl => hl, fun h => h⟩

theorem create {s : Loaders} (h : Founded s) (k : Kind) (parent : Option Loader)
    (context : Context) : Grows s (s.create k parent context).2 where
  created l hl := by
    rw [created_create]
    exact List.mem_append_left _ hl
  loaded {id name m} hm := by
    rw [h.loaded?_create]
    exact hm

end Grows

end Loaders
end Loading
