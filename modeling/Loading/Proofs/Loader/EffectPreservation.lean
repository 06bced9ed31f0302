import Loading.Proofs.Loader.Calls

/-!
# What each effect keeps up

The operations of loaders are followed once, for everything that may have to be
known of them.  An `Upkeep` names what is to be kept up — what holds whenever
outside code has the word, what an operation on some loaders may have done, what
is known while a reservation is open — and shows it for each effect by itself: a
reservation, a definition that is entered, an answer that is remembered.  From
that the walk through the operations makes a discipline.

* `LoaderMoment.Quiet` — nothing has happened to modules or signers.
* `Upkeep` — what is to be shown of each effect.
* `Upkeep.Worked` — what is known in the course of an operation.
-/

namespace Loading

open Service

namespace LoaderMoment

/-- The event is not that a definer made a module. -/
def Plain (v : loaderService.Event) : Prop :=
  ∀ key request m, v ≠ .answered (.produce key request) (.ok m)

/-- Nothing has happened to modules or signers: an event was noted, or the state
changed beside them.  Answers are those that are permitted. -/
inductive Quiet (mayAnswer : LoaderMoment → (q : LoaderQuestion) → q.Answer → Prop)
    (m : LoaderMoment) : LoaderMoment → Prop
  | note {v : loaderService.Event} (plain : Plain v)
      (permitted : ∀ q a, v = .answered q a → mayAnswer m q a) : Quiet mayAnswer m (m.note v)
  | change {s : Loaders} (beside : m.state.Beside s) : Quiet mayAnswer m (m.change s)

/-- Whatever was so at any time has only grown since. -/
def Lasting (m : LoaderMoment) : Prop :=
  ∀ x ∈ m.past, x.state.Grows m.state

/-- The moment after the signers of a module were set, if it has any. -/
def sign (m : LoaderMoment) (module : Module) (signers : CertificateSet) : LoaderMoment :=
  if signers.isEmpty then m else m.change (m.state.sign module signers).2

/-- The moment after a module was entered into the tables of a loader, with the
reservation for its package committed. -/
def enter (m : LoaderMoment) (l : Loader) (module : Module) (domain : ProtectionDomain)
    (package : String) : LoaderMoment :=
  let m := m.change (m.state.adopt l.id module).2
  let m := sign m module domain.certificates
  let m := m.change (m.state.release l.id package true)
  let m := m.change (m.state.onTables l.id fun t => t.recordDefined module)
  m.change (m.state.onTables l.id fun t => t.recordDomain domain)

/-- A moment lies before another one, at which the hierarchy stands firm and answers
have lasted. -/
structure Grown (b m : LoaderMoment) : Prop where
  /-- The hierarchy has been built from its roots. -/
  founded : m.state.Founded
  /-- What was ever so has only grown. -/
  lasting : Lasting m
  /-- The past lies behind. -/
  past : b.past <:+ m.past
  /-- No loader and no answer was lost. -/
  grows : b.state.Grows m.state

section Grown

variable {a b m m' : LoaderMoment} {l : Loader}

theorem Lasting.after (h : Lasting m) (v : loaderService.Event) {s : Loaders}
    (hs : m.state.Grows s) : Lasting (m.after v s) := by
  intro x hx
  rcases List.mem_cons.1 hx with rfl | hx
  · exact .refl s
  · exact (h x hx).trans hs

theorem Grown.refl (hfounded : m.state.Founded) (hlasting : Lasting m) : Grown m m :=
  ⟨hfounded, hlasting, List.suffix_refl _, .refl _⟩

theorem Grown.trans (h₁ : Grown a b) (h₂ : Grown b m) : Grown a m :=
  ⟨h₂.founded, h₂.lasting, h₁.past.trans h₂.past, h₁.grows.trans h₂.grows⟩

theorem Grown.after (h : Grown b m) (v : loaderService.Event) {s : Loaders} (hfounded : s.Founded)
    (hs : m.state.Grows s) : Grown b (m.after v s) where
  founded := hfounded
  lasting := h.lasting.after v hs
  past := h.past.trans (List.suffix_cons _ _)
  grows := h.grows.trans hs

/-- Answers last when the other tables of a loader change. -/
theorem Grown.onTables (h : Grown b m) (hl : l ∈ m.state.created)
    {f : LoaderTables → LoaderTables} (hf : ∀ t, (f t).loaded = t.loaded) :
    Grown b (m.change (m.state.onTables l.id f)) :=
  h.after _ (h.founded.onTables hl f) (.onTables m.state l.id hf)

theorem Grown.remember (h : Grown b m) (hl : l ∈ m.state.created) (name : Name)
    (module : Module) :
    Grown b (m.change (m.state.onTables l.id fun t => t.remember name module)) :=
  h.after _ (h.founded.onTables hl _) (.remember m.state l.id name module)

theorem Grown.quiet {mayAnswer : LoaderMoment → (q : LoaderQuestion) → q.Answer → Prop}
    (h : Grown b m) (hq : Quiet mayAnswer m m') : Grown b m' := by
  cases hq with
  | note _ _ => exact h.after _ h.founded (.refl _)
  | change beside => exact h.after _ (h.founded.beside beside) (.beside beside)

theorem Grown.sign (h : Grown b m) (module : Module) (signers : CertificateSet) :
    Grown b (sign m module signers) := by
  unfold LoaderMoment.sign
  split
  · exact h
  · exact h.after _ ⟨h.founded.path_created, h.founded.id_lt, h.founded.id_inj,
      h.founded.descending, h.founded.blank⟩ (.sign m.state module signers)

theorem sign_of_isEmpty {signers : CertificateSet} (h : signers.isEmpty = true)
    (module : Module) : LoaderMoment.sign m module signers = m := by
  unfold LoaderMoment.sign
  rw [if_pos h]

theorem sign_of_not_isEmpty {signers : CertificateSet} (h : signers.isEmpty = false)
    (module : Module) :
    LoaderMoment.sign m module signers = m.change (m.state.sign module signers).2 := by
  unfold LoaderMoment.sign
  rw [if_neg (by rw [h]; exact Bool.false_ne_true)]

@[simp] theorem tablesOf_sign (module : Module) (signers : CertificateSet) (k : LoaderId) :
    (LoaderMoment.sign m module signers).state.tablesOf k = m.state.tablesOf k := by
  unfold LoaderMoment.sign
  split <;> rfl

@[simp] theorem created_sign (module : Module) (signers : CertificateSet) :
    (LoaderMoment.sign m module signers).state.created = m.state.created := by
  unfold LoaderMoment.sign
  split <;> rfl

/-- After a module has become the answer for its name, entering it changes nothing
about answers. -/
theorem Grown.enter_rest {module : Module} (hnone : m.state.loaded? l.id module.name = none)
    (hl : l ∈ m.state.created) (domain : ProtectionDomain) (package : String)
    (h : Grown b (m.change (m.state.onTables l.id fun t => t.remember module.name module))) :
    Grown b (enter m l module domain package) := by
  unfold LoaderMoment.enter
  rw [Loaders.adopt_eq hnone]
  have h₁ := h.sign module domain.certificates
  have hl₁ : l ∈ (LoaderMoment.sign
      (m.change (m.state.onTables l.id fun t => t.remember module.name module)) module
      domain.certificates).state.created := by
    rw [created_sign]
    exact hl
  have h₂ := h₁.onTables hl₁ (f := fun t => { t with signers := t.signers.release package true })
    fun _ => rfl
  have h₃ := h₂.onTables hl₁ (f := fun t => t.recordDefined module) fun _ => rfl
  exact h₃.onTables hl₁ fun t => t.recordDomain_loaded domain

theorem Grown.enter {module : Module} (h : Grown b m) (hl : l ∈ m.state.created)
    (hnone : m.state.loaded? l.id module.name = none) (domain : ProtectionDomain)
    (package : String) : Grown b (enter m l module domain package) :=
  Grown.enter_rest hnone hl domain package (h.remember hl module.name module)

/-- A module that has been entered is the answer for its name. -/
theorem Grown.loaded_enter {module : Module} (h : Grown b m) (hl : l ∈ m.state.created)
    (hnone : m.state.loaded? l.id module.name = none) (domain : ProtectionDomain)
    (package : String) :
    (LoaderMoment.enter m l module domain package).state.loaded? l.id module.name =
      some module := by
  have hremember := h.remember hl module.name module
  have hrest := Grown.enter_rest hnone hl domain package
    (Grown.refl hremember.founded hremember.lasting)
  apply hrest.grows.loaded
  show (m.state.onTables l.id fun t => t.remember module.name module).loaded? l.id module.name =
    some module
  rw [Loaders.loaded?_remember, if_pos ⟨rfl, rfl⟩, hnone]
  rfl

/-- What entering a module does to tables: it becomes the answer for its name, its
reservation is committed, and it is recorded with its domain. -/
theorem tablesOf_enter {module : Module} (hnone : m.state.loaded? l.id module.name = none)
    (domain : ProtectionDomain) (package : String) (k : LoaderId) :
    (LoaderMoment.enter m l module domain package).state.tablesOf k =
      if k = l.id then
        let t := (m.state.tablesOf l.id).remember module.name module
        LoaderTables.recordDomain
          (LoaderTables.recordDefined { t with signers := t.signers.release package true } module)
          domain
      else m.state.tablesOf k := by
  unfold LoaderMoment.enter
  rw [Loaders.adopt_eq hnone]
  by_cases hk : k = l.id
  · subst hk
    rw [if_pos rfl]
    simp [Loaders.release]
  · rw [if_neg hk]
    simp [Loaders.release, Loaders.tablesOf_onTables, hk]

theorem defined_enter {module : Module} (hnone : m.state.loaded? l.id module.name = none)
    (domain : ProtectionDomain) (package : String) (k : LoaderId) :
    (LoaderMoment.enter m l module domain package).state.defined k =
      if k = l.id then m.state.defined l.id ++ [module] else m.state.defined k := by
  unfold Loaders.defined
  rw [tablesOf_enter hnone]
  by_cases hk : k = l.id
  · simp [hk, LoaderTables.recordDefined]
  · simp [hk]

theorem reservations_enter {module : Module} (hnone : m.state.loaded? l.id module.name = none)
    (domain : ProtectionDomain) (package : String) (k : LoaderId) :
    ((LoaderMoment.enter m l module domain package).state.tablesOf k).signers =
      if k = l.id then (m.state.tablesOf l.id).signers.release package true
      else (m.state.tablesOf k).signers := by
  rw [tablesOf_enter hnone]
  by_cases hk : k = l.id
  · simp [hk, LoaderTables.recordDefined]
  · simp [hk]

/-- What entering a module does to the signers of modules. -/
theorem signers?_enter (module x : Module) (domain : ProtectionDomain) (package : String) :
    (LoaderMoment.enter m l module domain package).state.ledger.signers? x =
      if domain.certificates.isEmpty then m.state.ledger.signers? x
      else (m.state.sign module domain.certificates).2.ledger.signers? x := by
  have hadopt : (m.state.adopt l.id module).2.ledger = m.state.ledger := by
    unfold Loaders.adopt
    split <;> rfl
  unfold LoaderMoment.enter
  dsimp only
  cases hempty : domain.certificates.isEmpty with
  | true =>
      rw [sign_of_isEmpty hempty]
      show (m.state.adopt l.id module).2.ledger.signers? x = _
      rw [hadopt]
      rfl
  | false =>
      rw [sign_of_not_isEmpty hempty]
      show ((m.state.adopt l.id module).2.ledger.sign module domain.certificates).2.signers? x = _
      rw [hadopt]
      rfl

theorem past_enter (l : Loader) (module : Module) (domain : ProtectionDomain)
    (package : String) : m.past <:+ (LoaderMoment.enter m l module domain package).past := by
  unfold LoaderMoment.enter LoaderMoment.sign
  dsimp only
  split
  · exact ⟨_ :: _ :: _ :: [_], rfl⟩
  · exact ⟨_ :: _ :: _ :: _ :: [_], rfl⟩

/-- What loaders answer after a module has been entered. -/
theorem loaded?_enter {module : Module} (hnone : m.state.loaded? l.id module.name = none)
    (domain : ProtectionDomain) (package : String) (k : LoaderId) (n : Name) :
    (LoaderMoment.enter m l module domain package).state.loaded? k n =
      if k = l.id ∧ n = module.name then some module else m.state.loaded? k n := by
  have hremember := Loaders.loaded?_remember m.state l.id k module.name n module
  rw [hnone, Option.getD_none] at hremember
  rw [← hremember]
  unfold Loaders.loaded?
  rw [tablesOf_enter hnone, Loaders.tablesOf_onTables]
  by_cases hk : k = l.id
  · simp [hk, LoaderTables.recordDefined]
  · simp [hk]

theorem loaded?_enter_of_ne {module : Module}
    (hnone : m.state.loaded? l.id module.name = none) (domain : ProtectionDomain)
    (package : String) {k : LoaderId} (hk : k ≠ l.id) (n : Name) :
    (LoaderMoment.enter m l module domain package).state.loaded? k n = m.state.loaded? k n := by
  rw [loaded?_enter hnone, if_neg fun h => hk h.1]

end Grown

end LoaderMoment

open LoaderMoment

/-- An answer from above: from the built-in modules, or from the parent, of whose
answers something is known. -/
def FromAbove (Answers : LoaderMoment → Loader → Name → Module → LoaderMoment → Prop)
    (name : Name) (module : Module) (m : LoaderMoment) : Loader → Prop
  | .root level =>
      ∃ x ∈ m.past, x.event = .answered (.bootstrap level.context.key name) (some module)
  | .child _ parent => ∃ a, Answers a parent name module m

/-- What is kept up by the operations of loaders, and why each of their effects keeps
it up. -/
structure Upkeep where
  /-- What collaborators may answer. -/
  mayAnswer : LoaderMoment → (q : LoaderQuestion) → q.Answer → Prop
  /-- What holds whenever outside code has the word. -/
  Sound : LoaderMoment → Prop
  /-- What an operation on some loaders may have done, with all that was called
  meanwhile. -/
  Since : List LoaderId → LoaderMoment → LoaderMoment → Prop
  /-- What is known while a definition that began at some moment has a reservation
  open. -/
  Held : LoaderMoment → LoaderId → String → CertificateSet → LoaderMoment → Prop
  /-- What is known of a module that a definer has made since some moment and that no
  loader has entered. -/
  Made : LoaderMoment → Module → LoaderMoment → Prop
  /-- What is known of a module that a loader has answered a name with, since some
  moment. -/
  Answers : LoaderMoment → Loader → Name → Module → LoaderMoment → Prop
  since_refl : ∀ ids m, Since ids m m
  since_trans : ∀ {ids m₁ m₂ m₃}, Since ids m₁ m₂ → Since ids m₂ m₃ → Since ids m₁ m₃
  since_mono : ∀ {ids ids' m m'}, (∀ id ∈ ids, id ∈ ids') → Since ids m m' → Since ids' m m'
  held_later : ∀ {b id package signers m m'}, Held b id package signers m → Since [] m m' →
    Held b id package signers m'
  made_later : ∀ {b module m m'}, Made b module m → Since [] m m' → Made b module m'
  answers_later : ∀ {b l name module m m'}, Answers b l name module m → m.state.Grows m'.state →
    Since [] m m' → Answers b l name module m'
  answers_before : ∀ {ids a b l name module m}, Since ids a b → Answers b l name module m →
    Answers a l name module m
  answers_loaded : ∀ {b l name module m}, Sound m → l ∈ m.state.created →
    m.state.loaded? l.id name = some module → Answers b l name module m
  /-- An operation that has returned has done its work. -/
  ended : ∀ {ids m m' c r}, Since ids m m' → Since [] m (m'.note (.ended c r))
  /-- Quiet changes are harmless. -/
  quiet : ∀ {m m'}, Sound m → Quiet mayAnswer m m' → Sound m' ∧ Since [] m m'
  /-- So is making a loader. -/
  created : ∀ {m kind parent context}, m.state.Founded → Sound m →
    Sound (m.change (m.state.create kind parent context).2) ∧
      Since [] m (m.change (m.state.create kind parent context).2)
  /-- A definer makes a module. -/
  produced : ∀ {b m key request module}, Sound m → b.past <:+ m.past →
    mayAnswer m (.produce key request) (.ok module) →
    Sound (m.note (.answered (.produce key request) (.ok module))) ∧
      Since [] m (m.note (.answered (.produce key request) (.ok module))) ∧
      Made b module (m.note (.answered (.produce key request) (.ok module)))
  /-- A reservation is opened. -/
  reserved : ∀ {b m} {l : Loader} {name signers package}, Sound b → Sound m → Since [l.id] b m →
    (m.state.reserve l.id name signers).1 = .ok package →
    Sound (m.change (m.state.reserve l.id name signers).2) ∧
      Held b l.id package signers (m.change (m.state.reserve l.id name signers).2) ∧
      ∀ module, Made b module m → Made b module (m.change (m.state.reserve l.id name signers).2)
  /-- A reservation is dropped. -/
  dropped : ∀ {b m} {l : Loader} {package signers}, Sound m → Held b l.id package signers m →
    Sound (m.change (m.state.release l.id package false)) ∧
      Since [l.id] b (m.change (m.state.release l.id package false))
  /-- A module is entered. -/
  entered : ∀ {b m} {l : Loader} {module domain}, Sound m → l ∈ m.state.created →
    Held b l.id module.package domain.certificates m → Made b module m → module.loader = l.id →
    l.rules.fault? module.name = none → m.state.loaded? l.id module.name = none →
    Sound (enter m l module domain module.package) ∧
      Since [l.id] b (enter m l module domain module.package)
  /-- An answer from above is remembered. -/
  remembered : ∀ {ids b m} {l : Loader} {name module}, Sound m → l ∈ m.state.created →
    b.state.loaded? l.id name = none → Since ids b m → l.id ∉ ids →
    FromAbove Answers name module m l →
    Sound (m.change (m.state.onTables l.id fun t => t.remember name module)) ∧
      Since [l.id] m (m.change (m.state.onTables l.id fun t => t.remember name module)) ∧
      Answers b l name module (m.change (m.state.onTables l.id fun t => t.remember name module))

namespace Upkeep

variable (U : Upkeep)

/-! ## In the course of an operation -/

/-- What holds whenever outside code has the word. -/
structure Ready (m : LoaderMoment) : Prop where
  /-- The hierarchy has been built from its roots. -/
  founded : m.state.Founded
  /-- What was ever so has only grown. -/
  lasting : Lasting m
  /-- What is kept up is kept up. -/
  sound : U.Sound m

/-- What is known at a moment to which an operation on some loaders has come since
another moment. -/
structure Worked (ids : List LoaderId) (b m : LoaderMoment) : Prop extends Grown b m where
  /-- What is kept up is kept up. -/
  sound : U.Sound m
  /-- Nothing else was done than what the operation may do. -/
  since : U.Since ids b m

/-- What is known while a definition that began at some moment has a reservation
open. -/
structure Holding (b : LoaderMoment) (l : Loader) (package : String) (signers : CertificateSet)
    (m : LoaderMoment) : Prop extends Grown b m where
  /-- What is kept up is kept up. -/
  sound : U.Sound m
  /-- The reservation is open. -/
  held : U.Held b l.id package signers m

/-- The terms on which operations of loaders are followed. -/
def terms : Terms loaderService where
  rules := loaderRules U.mayAnswer
  Inv := U.Ready
  Stable m m' := m.past <:+ m'.past ∧ m.state.Grows m'.state ∧ U.Since [] m m'

/-- An operation goes on, and ends in a postcondition. -/
abbrev Follows {α : Type} (post : LoaderMoment → α → Prop) (p : LoaderTask α)
    (m : LoaderMoment) : Prop :=
  Keeps U.terms (fun _ _ => True) post p m

variable {U} {ids ids' : List LoaderId} {a b m m' : LoaderMoment} {l : Loader}
  {package : String} {signers : CertificateSet} {module : Module}

theorem Worked.refl (h : U.Ready m) (ids : List LoaderId) : U.Worked ids m m :=
  ⟨.refl h.founded h.lasting, h.sound, U.since_refl ids m⟩

theorem Worked.ready (h : U.Worked ids b m) : U.Ready m :=
  ⟨h.founded, h.lasting, h.sound⟩

theorem Worked.trans (h₁ : U.Worked ids a b) (h₂ : U.Worked ids' b m)
    (hsub : ∀ id ∈ ids', id ∈ ids) : U.Worked ids a m :=
  ⟨h₁.toGrown.trans h₂.toGrown, h₂.sound, U.since_trans h₁.since (U.since_mono hsub h₂.since)⟩

/-- What other operations do meanwhile is no work of this one. -/
theorem Worked.onward (h₁ : U.Worked ids a b) (h₂ : U.Worked [] b m) : U.Worked ids a m :=
  h₁.trans h₂ fun _ hid => absurd hid List.not_mem_nil

theorem Worked.of_stable (h : U.Ready m') (hstable : U.terms.Stable m m') : U.Worked [] m m' :=
  ⟨⟨h.founded, h.lasting, hstable.1, hstable.2.1⟩, h.sound, hstable.2.2⟩

theorem Worked.stable (h : U.Worked [] m m') : U.terms.Stable m m' :=
  ⟨h.past, h.grows, h.since⟩

/-- A loader that had been made is there. -/
theorem Worked.created (h : U.Worked ids b m) (hl : l ∈ b.state.created) :
    l ∈ m.state.created :=
  h.grows.created l hl

/-- Quiet changes are no work. -/
theorem Ready.quiet (h : U.Ready m) (hq : Quiet U.mayAnswer m m') : U.Worked [] m m' := by
  obtain ⟨hsound, hsince⟩ := U.quiet h.sound hq
  exact ⟨(Grown.refl h.founded h.lasting).quiet hq, hsound, hsince⟩

/-- Neither are notes of events other than answers. -/
theorem Ready.note (h : U.Ready m) {v : loaderService.Event}
    (hv : ∀ q x, v ≠ .answered q x) : U.Worked [] m (m.note v) :=
  h.quiet (.note (fun _ _ _ => hv _ _) fun q x heq => absurd heq (hv q x))

theorem Ready.beside (h : U.Ready m) {s : Loaders} (hs : m.state.Beside s) :
    U.Worked [] m (m.change s) :=
  h.quiet (.change hs)

/-- Whatever becomes of modules beyond their handles, a change beside them is no work. -/
theorem Ready.freely (h : U.Ready m) {s : Loaders}
    (hs : m.state.Beside { s with ledger := m.state.ledger }) (hsound : U.Sound (m.change s))
    (hsince : U.Since [] m (m.change s)) :
    U.Ready (m.change s) ∧ U.terms.Stable m (m.change s) := by
  have hgrows := Loaders.Grows.beside hs
  have hgrows' : m.state.Grows s := ⟨hgrows.created, hgrows.loaded⟩
  exact ⟨⟨h.founded.freely hs, h.lasting.after _ hgrows', hsound⟩, List.suffix_cons _ _, hgrows',
    hsince⟩

/-- Making a loader is no work on any other. -/
theorem Ready.create (h : U.Ready m) (kind : Kind) {parent : Option Loader}
    (hparent : ∀ l ∈ parent, l ∈ m.state.created) (context : Context) :
    U.Worked [] m (m.change (m.state.create kind parent context).2) := by
  obtain ⟨hsound, hsince⟩ := U.created h.founded h.sound
  refine ⟨?_, hsound, hsince⟩
  exact (Grown.refl h.founded h.lasting).after _ (h.founded.create kind hparent context)
    (.create h.founded kind parent context)

/-- A definer that makes a module does no work. -/
theorem Ready.produce (h : U.Ready m) (hpast : b.past <:+ m.past) {key : Nat}
    {request : DefinitionRequest} (hanswer : U.mayAnswer m (.produce key request) (.ok module)) :
    U.Worked [] m (m.note (.answered (.produce key request) (.ok module))) ∧
      U.Made b module (m.note (.answered (.produce key request) (.ok module))) := by
  obtain ⟨hsound, hsince, hmade⟩ := U.produced h.sound hpast hanswer
  exact ⟨⟨(Grown.refl h.founded h.lasting).after _ h.founded (.refl _), hsound, hsince⟩, hmade⟩

/-! ## Reservations -/

theorem Holding.ready (h : U.Holding b l package signers m) : U.Ready m :=
  ⟨h.founded, h.lasting, h.sound⟩

theorem Holding.onward (h : U.Holding b l package signers m) (hw : U.Worked [] m m') :
    U.Holding b l package signers m' :=
  ⟨h.toGrown.trans hw.toGrown, hw.sound, U.held_later h.held hw.since⟩

/-- A reservation that is granted is held. -/
theorem Worked.reserve (h : U.Worked [l.id] b m) (hb : U.Ready b) (hl : l ∈ m.state.created)
    {name : Name} (hok : (m.state.reserve l.id name signers).1 = .ok package) :
    package = name.package ∧
      U.Holding b l package signers (m.change (m.state.reserve l.id name signers).2) ∧
      ∀ module, U.Made b module m →
        U.Made b module (m.change (m.state.reserve l.id name signers).2) := by
  obtain ⟨hsound, hheld, hmade⟩ := U.reserved hb.sound h.sound h.since hok
  refine ⟨Loaders.package_of_reserve hok, ⟨?_, hsound, hheld⟩, hmade⟩
  rw [Loaders.reserve_snd]
  apply h.toGrown.onTables hl
  intro t
  rfl

/-- A reservation that is dropped is no longer held. -/
theorem Holding.drop (h : U.Holding b l package signers m) (hl : l ∈ m.state.created) :
    U.Worked [l.id] b (m.change (m.state.release l.id package false)) := by
  obtain ⟨hsound, hsince⟩ := U.dropped h.sound h.held
  refine ⟨?_, hsound, hsince⟩
  apply h.toGrown.onTables hl
  intro t
  rfl

/-- A module is entered with a reservation for its package. -/
theorem Holding.enter {domain : ProtectionDomain}
    (h : U.Holding b l module.package domain.certificates m) (hl : l ∈ m.state.created)
    (hmade : U.Made b module m) (hloader : module.loader = l.id)
    (hname : l.rules.fault? module.name = none)
    (hnone : m.state.loaded? l.id module.name = none) :
    U.Worked [l.id] b (LoaderMoment.enter m l module domain module.package) := by
  obtain ⟨hsound, hsince⟩ := U.entered h.sound hl h.held hmade hloader hname hnone
  exact ⟨h.toGrown.enter hl hnone domain module.package, hsound, hsince⟩

end Upkeep

end Loading
