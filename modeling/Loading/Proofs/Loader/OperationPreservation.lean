import Loading.Proofs.Loader.EffectPreservation

/-!
# What the operations of loaders keep up

The walk through the operations, from one question to the next.  Each lemma says
of one operation, called at a moment at which outside code might have had the
word, that it asks only at such moments, and what is known when it ends: what the
operation may have done since, and what the loader answers if a module came out.

* `follows_define`, `follows_resolve`, `follows_create` — the operations.
* `Upkeep.discipline` — every upkeep is kept up in every session.
-/

namespace Loading
namespace Upkeep

open Service Interaction LoaderMoment

variable {U : Upkeep} {ids : List LoaderId} {b m : LoaderMoment} {l : Loader} {name : Name}
  {module : Module} {α : Type}

/-! ## Questions -/

/-- Any question may be asked, and the answer is noted. -/
theorem follows_ask {q : LoaderQuestion} (hq : ∀ key request, q ≠ .produce key request)
    (h : U.Ready m) :
    U.Follows (fun m' x => U.Worked [] m m' ∧ ∃ y ∈ m'.past, y.event = .answered q x)
      (LoaderTask.ask q) m := by
  have hasked : U.Worked [] m (m.note (.asked q)) := h.note fun _ _ => nofun
  refine ⟨⟨hasked.ready, trivial⟩, ?_⟩
  intro m' x hready hstable hanswer
  have hlater : U.Worked [] m m' := hasked.onward (.of_stable hready hstable)
  have hnoted : U.Worked [] m' (m'.note (.answered q x)) := by
    refine hready.quiet (.note ?_ ?_)
    · intro key request module heq
      cases heq
      exact hq key request rfl
    · intro q' x' heq
      cases heq
      exact hanswer
  exact ⟨hlater.onward hnoted, _, List.mem_cons_self, rfl⟩

/-- A definer may be asked, and what it makes is known to be made. -/
theorem follows_produce {key : Nat} {request : DefinitionRequest} (h : U.Ready m)
    (hpast : b.past <:+ m.past) :
    U.Follows (fun m' x => U.Worked [] m m' ∧ ∀ module, x = .ok module → U.Made b module m')
      (LoaderTask.ask (.produce key request)) m := by
  have hasked : U.Worked [] m (m.note (.asked (.produce key request))) :=
    h.note fun _ _ => nofun
  refine ⟨⟨hasked.ready, trivial⟩, ?_⟩
  intro m' x hready hstable hanswer
  have hlater : U.Worked [] m m' := hasked.onward (.of_stable hready hstable)
  cases x with
  | error e =>
      have hnoted : U.Worked [] m' (m'.note (.answered (.produce key request) (.error e))) := by
        refine hready.quiet (.note (fun _ _ _ => nofun) ?_)
        intro q' x' heq
        cases heq
        exact hanswer
      exact ⟨hlater.onward hnoted, fun module => nofun⟩
  | ok module =>
      obtain ⟨hnoted, hmade⟩ := hready.produce (hpast.trans hlater.past) hanswer
      refine ⟨hlater.onward hnoted, fun module' heq => ?_⟩
      cases heq
      exact hmade

/-- What is done with a lock held may rely on what outside code leaves in place. -/
theorem follows_locked {post : LoaderMoment → α → Prop} {body : LoaderTask α} (h : U.Ready m)
    (hbody : ∀ m₁, U.Worked [] m m₁ → U.Follows post body m₁)
    (hready : ∀ m₁ x, post m₁ x → U.Ready m₁)
    (honward : ∀ m₁ m₂ x, post m₁ x → U.Worked [] m₁ m₂ → post m₂ x) :
    U.Follows post (l.locked name body) m := by
  have hlock : U.Worked [] m (m.change (m.state.lockFor l.id name).2) :=
    h.beside (.lockFor m.state l.id name)
  unfold Loader.locked
  rw [Follows, keeps_bind, keeps_transact, keeps_bind]
  refine (follows_ask (q := .enter _ _) (fun _ _ => nofun) hlock.ready).weaken
    fun m₁ _ hentered => ?_
  rw [keeps_bind]
  refine (hbody m₁ (hlock.onward hentered.1)).weaken fun m₂ x hpost => ?_
  rw [keeps_bind]
  refine (follows_ask (q := .leave _ _) (fun _ _ => nofun) (hready m₂ x hpost)).weaken
    fun m₃ _ hleft => ?_
  exact honward m₂ m₃ x hpost hleft.1

/-! ## Definitions -/

/-- What is known when a definition ends: if a module came out, it is the answer for
its name, and the name is that which was given. -/
def DefinedBy (U : Upkeep) (l : Loader) (name : Option Name) (b : LoaderMoment)
    (m : LoaderMoment) (r : Except LoadError Module) : Prop :=
  U.Worked [l.id] b m ∧ ∀ module, r = .ok module →
    m.state.loaded? l.id module.name = some module ∧ ∀ n ∈ name, module.name = n

theorem DefinedBy.onward {name : Option Name} {m' : LoaderMoment} {r : Except LoadError Module}
    (h : U.DefinedBy l name b m r) (hw : U.Worked [] m m') : U.DefinedBy l name b m' r :=
  ⟨h.1.onward hw, fun module hr => ⟨hw.grows.loaded (h.2 module hr).1, (h.2 module hr).2⟩⟩

/-- A definition that fails has at most done some work. -/
theorem DefinedBy.error {name : Option Name} {e : LoadError} (h : U.Worked [l.id] b m) :
    U.DefinedBy l name b m (.error e) :=
  ⟨h, fun _ => nofun⟩

theorem follows_domainOr {domain : Option ProtectionDomain} (h : U.Ready m) :
    U.Follows (fun m' _ => U.Worked [] m m') (l.domainOr domain) m := by
  cases domain with
  | some d => exact Worked.refl h []
  | none => exact h.beside (.defaultDomain m.state l.id)

/-- What a loader does not object to is its own, with a name that is in order. -/
theorem objection?_eq_none {name : Option Name} (h : l.objection? name module = none) :
    module.loader = l.id ∧ (∀ n ∈ name, module.name = n) ∧
      (name = none → l.rules.fault? module.name = none) := by
  unfold Loader.objection? at h
  cases name with
  | none =>
      dsimp only at h
      cases hfault : l.rules.fault? module.name with
      | some fault => simp [hfault] at h
      | none => simpa [hfault] using h
  | some n =>
      by_cases hn : module.name = n
      · simpa [hn] using h
      · simp [hn] at h

/-- Entering a module ends an attempt: the module is entered, or there is one of its
name and the reservation is dropped. -/
theorem follows_install {domain : ProtectionDomain} {name : Option Name}
    (h : U.Holding b l module.package domain.certificates m) (hl : l ∈ m.state.created)
    (hmade : U.Made b module m) (hloader : module.loader = l.id)
    (hname : l.rules.fault? module.name = none) (hgiven : ∀ n ∈ name, module.name = n) :
    U.Follows (U.DefinedBy l name b) (l.install module domain module.package) m := by
  unfold Loader.install
  rw [Follows, keeps_bind, keeps_transact]
  cases hloaded : m.state.loaded? l.id module.name with
  | some x =>
      rw [Loaders.adopt_eq_of_isSome (by rw [hloaded]; rfl)]
      have hsame : U.Worked [] m (m.change m.state) := h.ready.beside (.refl _)
      exact DefinedBy.error ((h.onward hsame).drop hl)
  | none =>
      have hworked := h.enter hl hmade hloader hname hloaded
      have hanswer := h.toGrown.loaded_enter hl hloaded domain module.package
      have hdefined : U.DefinedBy l name b
          (LoaderMoment.enter m l module domain module.package) (.ok module) := by
        refine ⟨hworked, fun module' hr => ?_⟩
        cases hr
        exact ⟨hanswer, hgiven⟩
      have hfresh : (m.state.adopt l.id module).1 = true := by
        rw [Loaders.adopt_eq hloaded]
      rw [hfresh]
      unfold LoaderMoment.enter at hdefined
      dsimp only at hdefined
      cases hempty : domain.certificates.isEmpty with
      | true =>
          rw [sign_of_isEmpty hempty] at hdefined
          exact hdefined
      | false =>
          rw [sign_of_not_isEmpty hempty] at hdefined
          exact hdefined

theorem follows_defineNamed {bytes : List UInt8} {start stop : Nat}
    {domain : Option ProtectionDomain} (h : U.Ready m) (hl : l ∈ m.state.created)
    (hname : l.rules.fault? name = none) :
    U.Follows (U.DefinedBy l (some name) m) (l.defineNamed name bytes start stop domain) m := by
  unfold Loader.defineNamed Loader.defineHeld
  refine follows_locked h (fun m₁ hw₁ => ?_) (fun _ _ hd => hd.1.ready) fun _ _ _ hd => hd.onward
  replace hw₁ : U.Worked [l.id] m m₁ := (Worked.refl h _).onward hw₁
  rw [Follows, keeps_bind, keeps_observe]
  have hw₂ := hw₁.onward (hw₁.ready.beside (.refl m₁.state))
  cases (m₁.state.loaded? l.id name).isSome with
  | true => exact DefinedBy.error hw₂
  | false =>
      show Keeps _ _ _ (l.domainOr domain >>= _) _
      rw [keeps_bind]
      refine (follows_domainOr hw₂.ready).weaken fun m₃ d hdomain => ?_
      have hw₃ := hw₂.onward hdomain
      rw [keeps_bind, keeps_transact]
      cases hreserve : (m₃.state.reserve l.id name d.certificates).1 with
      | error e => exact DefinedBy.error (hw₃.onward (hw₃.ready.beside (.reserve_error hreserve)))
      | ok package =>
          have hl₃ := hw₃.created hl
          obtain ⟨rfl, hholding, -⟩ := hw₃.reserve h hl₃ hreserve
          show Keeps _ _ _ (LoaderTask.ask _ >>= _) _
          rw [keeps_bind]
          refine (follows_produce hholding.ready hholding.past).weaken
            fun m₄ produced hproduced => ?_
          have hholding₄ := hholding.onward hproduced.1
          have hl₄ : l ∈ m₄.state.created := hholding₄.grows.created l hl
          cases produced with
          | error e => exact DefinedBy.error (hholding₄.drop hl₄)
          | ok module =>
              cases hobjection : l.objection? (some name) module with
              | some e =>
                  simp only [Except.bind, hobjection]
                  exact DefinedBy.error (hholding₄.drop hl₄)
              | none =>
                  obtain ⟨hloader, hgiven, -⟩ := objection?_eq_none hobjection
                  obtain rfl : module.name = name := hgiven name rfl
                  simp only [Except.bind, hobjection]
                  exact follows_install hholding₄ hl₄ (hproduced.2 module rfl) hloader hname hgiven

theorem follows_defineUnnamed {bytes : List UInt8} {start stop : Nat}
    {domain : Option ProtectionDomain} (h : U.Ready m) (hl : l ∈ m.state.created) :
    U.Follows (U.DefinedBy l none m) (l.defineUnnamed bytes start stop domain) m := by
  unfold Loader.defineUnnamed Loader.enterHeld
  rw [Follows, keeps_bind]
  refine (follows_domainOr h).weaken fun m₁ d hdomain => ?_
  have hw₁ : U.Worked [l.id] m m₁ := (Worked.refl h _).onward hdomain
  rw [keeps_bind]
  refine (follows_produce hw₁.ready hw₁.past).weaken fun m₂ produced hproduced => ?_
  have hw₂ := hw₁.onward hproduced.1
  cases produced with
  | error e => exact DefinedBy.error hw₂
  | ok module =>
      cases hobjection : l.objection? none module with
      | some e =>
          simp only [hobjection]
          exact DefinedBy.error hw₂
      | none =>
          obtain ⟨hloader, -, hname⟩ := objection?_eq_none hobjection
          simp only [hobjection]
          refine follows_locked hw₂.ready (fun m₃ hw => ?_) (fun _ _ hd => hd.1.ready)
            fun _ _ _ hd => hd.onward
          have hw₃ := hw₂.onward hw
          have hl₃ := hw₃.created hl
          -- The lock may have been waited for, and what was made was left alone meanwhile.
          have hmade := U.made_later (hproduced.2 module rfl) hw.since
          rw [Follows, keeps_bind, keeps_transact]
          cases hreserve : (m₃.state.reserve l.id module.name d.certificates).1 with
          | error e =>
              exact DefinedBy.error (hw₃.onward (hw₃.ready.beside (.reserve_error hreserve)))
          | ok package =>
              obtain ⟨rfl, hholding, hkept⟩ := hw₃.reserve h hl₃ hreserve
              exact follows_install hholding (hholding.grows.created l hl) (hkept module hmade)
                hloader (hname rfl) fun _ => nofun

/-- A definition does its part. -/
theorem follows_define {name : Option Name} {bytes : List UInt8} {start stop : Nat}
    {domain : Option ProtectionDomain} (h : U.Ready m) (hl : l ∈ m.state.created) :
    U.Follows (U.DefinedBy l name m) (l.define name bytes start stop domain) m := by
  unfold Loader.define
  split
  · exact DefinedBy.error (Worked.refl h _)
  · rename_i hfault
    split
    · exact DefinedBy.error (Worked.refl h _)
    · cases name with
      | none => exact follows_defineUnnamed h hl
      | some name => exact follows_defineNamed h hl (by simpa using hfault)

/-! ## Resolutions -/

/-- The numbers of the loaders on the path of a loader. -/
def pathIds (l : Loader) : List LoaderId :=
  l.path.map (·.id)

theorem id_mem_pathIds (l : Loader) : l.id ∈ pathIds l :=
  List.mem_cons_self

/-- What is known when a resolution on a loader ends. -/
def ResolvedBy (U : Upkeep) (l : Loader) (name : Name) (b m : LoaderMoment)
    (r : Except LoadError Module) : Prop :=
  U.Worked (pathIds l) b m ∧ ∀ module, r = .ok module → U.Answers b l name module m

theorem ResolvedBy.onward {m' : LoaderMoment} {r : Except LoadError Module}
    (h : U.ResolvedBy l name b m r) (hw : U.Worked [] m m') : U.ResolvedBy l name b m' r :=
  ⟨h.1.onward hw, fun module hr => U.answers_later (h.2 module hr) hw.grows hw.since⟩

/-- Work that was done before counts as well. -/
theorem ResolvedBy.before {a : LoaderMoment} {r : Except LoadError Module}
    (h : U.ResolvedBy l name b m r) (hw : U.Worked (pathIds l) a b) :
    U.ResolvedBy l name a m r :=
  ⟨hw.trans h.1 fun _ hid => hid, fun module hr => U.answers_before hw.since (h.2 module hr)⟩

/-- A finder may be asked, and a definition follows. -/
theorem follows_findAndDefine (h : U.Ready m) (hl : l ∈ m.state.created) :
    U.Follows (U.DefinedBy l (some name) m) (l.findAndDefine name) m := by
  unfold Loader.findAndDefine
  rw [Follows, keeps_bind]
  refine (follows_ask (q := .find l.id name) (fun _ _ => nofun) h).weaken fun m₁ found hfound => ?_
  have hw₁ : U.Worked [l.id] m m₁ := (Worked.refl h _).onward hfound.1
  cases found with
  | error e => exact DefinedBy.error hw₁
  | ok found =>
      have hdefine : ∀ {m₂ domain}, U.Worked [l.id] m m₂ → U.Follows (U.DefinedBy l (some name) m)
          (l.define (some name) found.bytes 0 found.bytes.length domain) m₂ := by
        intro m₂ domain hw₂
        refine (follows_define hw₂.ready (hw₂.created hl)).weaken fun m₃ r hdefined => ?_
        exact ⟨hw₂.trans hdefined.1 fun _ hid => hid, hdefined.2⟩
      cases hsource : found.source with
      | none =>
          simp only [hsource]
          exact hdefine hw₁
      | some source =>
          simp only [hsource]
          exact hdefine (hw₁.onward (hw₁.ready.beside (.sourceDomain m₁.state l.id source)))

/-- With the lock held, a loader answers what it knows, what it is told from above,
or what it defines. -/
theorem follows_lookUp {delegate : LoaderTask (Except LoadError Module)} (h : U.Ready m)
    (hl : l ∈ m.state.created) (hsub : ∀ id ∈ ids, id ∈ pathIds l) (hid : l.id ∉ ids)
    (hdelegate : ∀ {m₁}, U.Ready m₁ → l ∈ m₁.state.created →
      U.Follows (fun m₂ r => U.Worked ids m₁ m₂ ∧ ∀ module, r = .ok module →
        FromAbove U.Answers name module m₂ l) delegate m₁) :
    U.Follows (U.ResolvedBy l name m) (l.lookUp name delegate) m := by
  have hself : ∀ id ∈ [l.id], id ∈ pathIds l := by
    intro id hmem
    rw [List.mem_singleton.1 hmem]
    exact id_mem_pathIds l
  unfold Loader.lookUp
  rw [Follows, keeps_bind, keeps_observe]
  have hw₁ : U.Worked [] m (m.change m.state) := h.beside (.refl m.state)
  have hl₁ := hw₁.created hl
  cases hloaded : m.state.loaded? l.id name with
  | some module =>
      refine ⟨(Worked.refl h _).onward hw₁, fun module' hr => ?_⟩
      cases hr
      exact U.answers_loaded hw₁.sound hl₁ hloaded
  | none =>
      show Keeps _ _ _ (delegate >>= _) _
      rw [keeps_bind]
      refine (hdelegate hw₁.ready hl₁).weaken fun m₂ r htold => ?_
      have hw₂ : U.Worked (pathIds l) m m₂ :=
        ((Worked.refl h _).onward hw₁).trans htold.1 hsub
      have hl₂ := hw₂.created hl
      cases r with
      | ok module =>
          have hremember := U.remembered (b := m.change m.state) htold.1.sound hl₂ hloaded
            htold.1.since hid (htold.2 module rfl)
          have hworked : U.Worked (pathIds l) m
              (m₂.change (m₂.state.onTables l.id fun t => t.remember name module)) :=
            hw₂.trans ⟨(Grown.refl hw₂.founded hw₂.lasting).remember hl₂ name module,
              hremember.1, hremember.2.1⟩ hself
          refine ⟨hworked, fun module' hr => ?_⟩
          cases hr
          exact U.answers_before hw₁.since hremember.2.2
      | error e =>
          show Keeps _ _ _ (if e.isNotFound then l.findAndDefine name else _) _
          cases e.isNotFound with
          | false => exact ⟨hw₂, fun _ => nofun⟩
          | true =>
              refine (follows_findAndDefine hw₂.ready hl₂).weaken fun m₃ r hdefined => ?_
              have hw₃ := hw₂.trans hdefined.1 hself
              refine ⟨hw₃, fun module hr => ?_⟩
              obtain ⟨hanswer, hgiven⟩ := hdefined.2 module hr
              rw [hgiven name rfl] at hanswer
              exact U.answers_loaded hw₃.sound (hw₃.created hl) hanswer

/-- A root asks for the built-in module. -/
theorem follows_askBootstrap {level : Level} (h : U.Ready m) :
    U.Follows (fun m' r => U.Worked [] m m' ∧ ∀ module, r = .ok module →
        FromAbove U.Answers name module m' (.root level))
      ((Loader.root level).askBootstrap name) m := by
  unfold Loader.askBootstrap
  rw [Follows, keeps_bind]
  refine (follows_ask (q := .bootstrap level.context.key name) (fun _ _ => nofun) h).weaken
    fun m₁ found hfound => ?_
  cases found with
  | none => exact ⟨hfound.1, fun _ => nofun⟩
  | some module =>
      refine ⟨hfound.1, fun module' hr => ?_⟩
      cases hr
      exact hfound.2

/-- The loaders above a loader have other numbers. -/
theorem id_not_mem_ancestors {s : Loaders} (h : s.Founded) (hl : l ∈ s.created) :
    l.id ∉ l.ancestors.map (·.id) :=
  (List.nodup_cons.1 (h.nodup_path hl)).1

/-- Without linking, a name is looked up with the lock held, if it may be looked up. -/
theorem resolveOnly_eq (l : Loader) (name : Name) :
    l.resolveOnly name =
      if l.rules.isWellFormed name then l.locked name (l.lookUp name (l.delegate name))
      else .done (.error (.notFound name)) := by
  cases l <;> rfl

/-- With the lock held, a loader that is told from above does its part. -/
theorem follows_asked (h : U.Ready m) (hl : l ∈ m.state.created)
    (hdelegate : ∀ {m₁}, U.Ready m₁ → l ∈ m₁.state.created →
      U.Follows (fun m₂ r => U.Worked (l.ancestors.map (·.id)) m₁ m₂ ∧ ∀ module, r = .ok module →
        FromAbove U.Answers name module m₂ l) (l.delegate name) m₁) :
    U.Follows (U.ResolvedBy l name m) (l.lookUp name (l.delegate name)) m :=
  follows_lookUp h hl (fun _ => List.mem_cons_of_mem _) (id_not_mem_ancestors h.founded hl)
    hdelegate

/-- Whatever a loader does above itself, it is told from above, by induction on the
path. -/
theorem follows_delegate (h : U.Ready m) (hl : l ∈ m.state.created) :
    U.Follows (fun m' r => U.Worked (l.ancestors.map (·.id)) m m' ∧ ∀ module, r = .ok module →
      FromAbove U.Answers name module m' l) (l.delegate name) m := by
  induction l generalizing m with
  | root level => exact follows_askBootstrap h
  | child level parent ih =>
      have hparent : parent ∈ m.state.created :=
        h.founded.ancestor_created hl List.mem_cons_self
      have hresolve : U.Follows (U.ResolvedBy parent name m) (parent.resolveOnly name) m := by
        rw [resolveOnly_eq]
        split
        · refine follows_locked h (fun m₁ hw => ?_) (fun _ _ hr => hr.1.ready)
            fun _ _ _ hr => hr.onward
          refine (follows_asked hw.ready (hw.created hparent) ih).weaken fun m₂ r hresolved => ?_
          exact hresolved.before ((Worked.refl h _).onward hw)
        · exact ⟨Worked.refl h _, fun _ => nofun⟩
      refine hresolve.weaken fun m₁ r hresolved => ?_
      exact ⟨hresolved.1, fun module hr => ⟨_, hresolved.2 module hr⟩⟩

/-- Linking leaves the answer as it is. -/
theorem follows_linkIfNeeded (h : U.Ready m) :
    U.Follows (fun m' r => U.Worked [] m m' ∧ ∀ module', r = .ok module' → module' = module)
      (l.linkIfNeeded module) m := by
  unfold Loader.linkIfNeeded
  rw [Follows, keeps_bind, keeps_observe]
  have hw₁ : U.Worked [] m (m.change m.state) := h.beside (.refl m.state)
  cases m.state.ledger.isLinked module with
  | true => exact ⟨hw₁, fun _ hr => (Except.ok.inj hr).symm⟩
  | false =>
      show Keeps _ _ _ (LoaderTask.ask _ >>= _) _
      rw [keeps_bind]
      refine (follows_ask (q := .link l.context.key module) (fun _ _ => nofun)
        hw₁.ready).weaken fun m₂ outcome hlinked => ?_
      have hw₂ := hw₁.onward hlinked.1
      cases outcome with
      | error e => exact ⟨hw₂, fun _ => nofun⟩
      | ok u => exact ⟨hw₂, fun _ hr => (Except.ok.inj hr).symm⟩

/-- A resolution does its part. -/
theorem follows_resolve {link : Bool} (h : U.Ready m) (hl : l ∈ m.state.created) :
    U.Follows (U.ResolvedBy l name m) (l.resolve name link) m := by
  unfold Loader.resolve Loader.resolveHeld
  split
  · refine follows_locked h (fun m₁ hw₁ => ?_) (fun _ _ hr => hr.1.ready) fun _ _ _ hr => hr.onward
    rw [Follows, keeps_bind]
    refine (follows_asked hw₁.ready (hw₁.created hl) follows_delegate).weaken
      fun m₂ r hlookUp => ?_
    have hresolved := hlookUp.before ((Worked.refl h _).onward hw₁)
    cases r with
    | error e => exact hresolved
    | ok module =>
        cases link with
        | false => exact hresolved
        | true =>
            refine (follows_linkIfNeeded hresolved.1.ready).weaken fun m₃ r hlinked => ?_
            refine ⟨hresolved.1.onward hlinked.1, fun module' hr => ?_⟩
            obtain rfl := hlinked.2 module' hr
            exact (hresolved.onward hlinked.1).2 module' rfl
  · exact ⟨Worked.refl h _, fun _ => nofun⟩

/-! ## Making loaders -/

/-- Making a loader is no work on any other. -/
theorem follows_create {kind : Kind} {parent : Option Loader} {context : Context}
    (h : U.Ready m) (hparent : ∀ l ∈ parent, l ∈ m.state.created) :
    U.Follows (fun m' r => U.Worked [] m m' ∧ ∀ l, r = .ok l → l ∈ m'.state.created)
      (Loader.create kind parent context) m := by
  unfold Loader.create
  rw [Follows, keeps_bind]
  refine (follows_ask (q := .mayCreate context.key kind) (fun _ _ => nofun) h).weaken
    fun m₁ permission hpermission => ?_
  cases permission with
  | error e => exact ⟨hpermission.1, fun _ => nofun⟩
  | ok u =>
      have hparent₁ : ∀ l ∈ parent, l ∈ m₁.state.created := fun l hl =>
        hpermission.1.created (hparent l hl)
      refine ⟨hpermission.1.onward (hpermission.1.ready.create kind hparent₁ context), ?_⟩
      intro l hr
      obtain rfl := Except.ok.inj hr
      show _ ∈ (m₁.state.create kind parent context).2.created
      rw [Loaders.created_create]
      exact List.mem_append_right _ (List.mem_singleton_self _)

/-! ## All operations -/

/-- What is known of what an operation returns. -/
def Returns (U : Upkeep) : (c : LoaderCall) → LoaderMoment → LoaderMoment → c.Result → Prop
  | .create _ _ _, _, m, r => ∀ l, r = .ok l → l ∈ m.state.created
  | .define l name _ _ _ _, _, m, r => ∀ module, r = .ok module →
      m.state.loaded? l.id module.name = some module ∧ ∀ n ∈ name, module.name = n
  | .resolve l name _, e, m, r => ∀ module, r = .ok module → U.Answers e l name module m

/-- Every operation does its part. -/
theorem follows_body {c : LoaderCall} (h : U.Ready m)
    (hc : ∀ l ∈ c.loader?, l ∈ m.state.created) :
    U.Follows (fun m' r => (∃ ids, U.Worked ids m m') ∧ U.Returns c m m' r) c.body m := by
  cases c with
  | create kind parent context =>
      exact (follows_create h hc).weaken fun m' r hr => ⟨⟨[], hr.1⟩, hr.2⟩
  | define l name bytes start stop domain =>
      exact (follows_define h (hc l rfl)).weaken fun m' r hr => ⟨⟨[l.id], hr.1⟩, hr.2⟩
  | resolve l name link =>
      exact (follows_resolve h (hc l rfl)).weaken fun m' r hr => ⟨⟨pathIds l, hr.1⟩, hr.2⟩

theorem Returns.before {c : LoaderCall} {r : c.Result} {a : LoaderMoment}
    (h : U.Returns c b m r) (hw : U.Worked [] a b) : U.Returns c a m r := by
  cases c with
  | create kind parent context => exact h
  | define l name bytes start stop domain => exact h
  | resolve l name link => exact fun module hr => U.answers_before hw.since (h module hr)

/-- An upkeep is kept up in every session. -/
def discipline (U : Upkeep) : Discipline loaderService where
  toTerms := U.terms
  asking _ _ _ _ := True
  returning := U.Returns
  refl m := ⟨List.suffix_refl _, .refl _, U.since_refl [] m⟩
  trans h₁ h₂ := ⟨h₁.1.trans h₂.1, h₁.2.1.trans h₂.2.1, U.since_trans h₁.2.2 h₂.2.2⟩
  outside h hchange := ⟨(h.beside hchange).ready, (h.beside hchange).stable⟩
  keeps {m c} h hc := by
    have hbegan : U.Worked [] m (m.note (.began c)) := h.note fun _ _ => nofun
    refine (follows_body hbegan.ready hc).weaken fun m' r hr => ?_
    obtain ⟨⟨ids, hw⟩, hreturns⟩ := hr
    have hended : U.Worked [] m' (m'.note (.ended c r)) := hw.ready.note fun _ _ => nofun
    have hgrown := (hbegan.toGrown.trans hw.toGrown).trans hended.toGrown
    refine ⟨hreturns.before hbegan, hended.ready, hgrown.past, hgrown.grows, ?_⟩
    exact U.since_trans hbegan.since (U.ended hw.since)

end Upkeep
end Loading
