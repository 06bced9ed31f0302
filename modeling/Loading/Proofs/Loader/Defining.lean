import Loading.Proofs.Loader.OperationPreservation

/-!
# What loaders have defined

A loader keeps the modules it answers with in one table and those it defined in
another.  They are written at different places, definitions nest, and a definer
may define the very module that it is asked for.  Still the second table holds
at most one module for each name, and the first one answers with it.

The statement is about every point of a session, also between two effects of one
operation, so what is kept up speaks of all states that have been.

* `Loaders.DefinesWell` — the tables of a loader agree.
* `definerRules` — definers, finders and linkers may also do to modules what they
  like.
* `defines_well` — the tables of all loaders agree at every point, and answers
  last.
* `defines_well_inside` — a definer defines the module that it is asked for.
-/

namespace Loading

open Service LoaderMoment

/-! ## Tables that agree -/

/-- What a loader has defined bears different names, is its own and permitted, and is
what it answers with. -/
structure Loaders.DefinesWell (s : Loaders) (l : Loader) : Prop where
  /-- No name is defined twice. -/
  distinct : ((s.defined l.id).map (·.name)).Nodup
  /-- What is defined is the answer for its name. -/
  answered : ∀ m ∈ s.defined l.id, s.loaded? l.id m.name = some m
  /-- What is defined belongs to the loader. -/
  own : ∀ m ∈ s.defined l.id, m.loader = l.id
  /-- What is defined has a name that may be defined. -/
  permitted : ∀ m ∈ s.defined l.id, l.rules.fault? m.name = none

namespace Loaders

variable {s s' : Loaders} {l k : Loader} {module : Module}

/-- A module is the answer for its name, and nothing of that name is defined. -/
structure Adopted (s : Loaders) (l : Loader) (module : Module) : Prop where
  /-- It is the answer for its name. -/
  answered : s.loaded? l.id module.name = some module
  /-- Nothing of its name is defined. -/
  unrecorded : ∀ m ∈ s.defined l.id, m.name ≠ module.name

theorem DefinesWell.of_blank (h : (s.tablesOf l.id).Blank) : s.DefinesWell l := by
  have hnone : s.defined l.id = [] := h.defined
  constructor <;> simp [hnone]

/-- Where the same is defined and answers have lasted, tables still agree. -/
theorem DefinesWell.later (h : s.DefinesWell l) (hgrows : s.Grows s')
    (hdefined : s'.defined l.id = s.defined l.id) : s'.DefinesWell l := by
  refine ⟨?_, ?_, ?_, ?_⟩ <;> rw [hdefined]
  · exact h.distinct
  · exact fun m hm => hgrows.loaded (h.answered m hm)
  · exact h.own
  · exact h.permitted

/-- A loader that does not answer a name has not defined it. -/
theorem DefinesWell.unrecorded (h : s.DefinesWell l)
    (hnone : s.loaded? l.id module.name = none) : ∀ m ∈ s.defined l.id, m.name ≠ module.name := by
  intro m hm heq
  have hsome := h.answered m hm
  rw [heq, hnone] at hsome
  cases hsome

theorem Adopted.later (h : s.Adopted l module) (hgrows : s.Grows s')
    (hdefined : s'.defined l.id = s.defined l.id) : s'.Adopted l module := by
  refine ⟨hgrows.loaded h.answered, ?_⟩
  rw [hdefined]
  exact h.unrecorded

/-- A module becomes the answer for its name before it is recorded. -/
theorem DefinesWell.adopted (h : s.DefinesWell l) (hnone : s.loaded? l.id module.name = none) :
    (s.onTables l.id fun t => t.remember module.name module).Adopted l module := by
  constructor
  · rw [loaded?_remember, if_pos ⟨rfl, rfl⟩, hnone]
    rfl
  · have hsame := tablesOf_onTables_congr s l.id l.id LoaderTables.defined fun t =>
      t.remember_defined module.name module
    unfold defined at hsame ⊢
    rw [hsame]
    exact h.unrecorded hnone

theorem defined_recordDefined (s : Loaders) (id k : LoaderId) (module : Module) :
    (s.onTables id fun t => t.recordDefined module).defined k =
      if k = id then s.defined id ++ [module] else s.defined k := by
  unfold defined
  rw [tablesOf_onTables]
  split <;> rfl

/-- A module that is the answer for its name may be recorded. -/
theorem DefinesWell.record (h : s.DefinesWell l) (hadopted : s.Adopted l module)
    (hloader : module.loader = l.id) (hname : l.rules.fault? module.name = none) :
    (s.onTables l.id fun t => t.recordDefined module).DefinesWell l := by
  have hgrows : s.Grows (s.onTables l.id fun t => t.recordDefined module) :=
    .onTables s l.id fun _ => rfl
  have hall : ∀ {Q : Module → Prop}, (∀ m ∈ s.defined l.id, Q m) → Q module →
      ∀ m ∈ s.defined l.id ++ [module], Q m := by
    intro Q hold hnew m hm
    rcases List.mem_append.1 hm with hm | hm
    · exact hold m hm
    · exact List.mem_singleton.1 hm ▸ hnew
  refine ⟨?_, ?_, ?_, ?_⟩ <;> rw [defined_recordDefined, if_pos rfl]
  · rw [List.map_append, List.nodup_append]
    refine ⟨h.distinct, List.nodup_singleton _, ?_⟩
    intro name hold name' hnew
    obtain ⟨m, hm, rfl⟩ := List.mem_map.1 hold
    rw [List.map_singleton, List.mem_singleton] at hnew
    rw [hnew]
    exact hadopted.unrecorded m hm
  · exact hall (fun m hm => hgrows.loaded (h.answered m hm)) (hgrows.loaded hadopted.answered)
  · exact hall h.own hloader
  · exact hall h.permitted hname

/-- Loaders are told apart by their numbers, and the tables of each of them agree. -/
structure Agree (s : Loaders) : Prop where
  /-- A number tells a loader from all others. -/
  apart : ∀ l ∈ s.created, ∀ k ∈ s.created, l.id = k.id → l = k
  /-- The tables of every loader agree. -/
  well : ∀ l ∈ s.created, s.DefinesWell l

theorem Agree.start : Agree {} where
  apart _ hl := absurd hl List.not_mem_nil
  well _ hl := absurd hl List.not_mem_nil

theorem Agree.later (h : s.Agree) (hcreated : s'.created = s.created) (hgrows : s.Grows s')
    (hdefined : ∀ id, s'.defined id = s.defined id) : s'.Agree := by
  constructor <;> rw [hcreated]
  · exact h.apart
  · exact fun l hl => (h.well l hl).later hgrows (hdefined l.id)

/-- Recording a module is no matter to other loaders. -/
theorem Agree.record (h : s.Agree) (hl : l ∈ s.created) (hadopted : s.Adopted l module)
    (hloader : module.loader = l.id) (hname : l.rules.fault? module.name = none) :
    (s.onTables l.id fun t => t.recordDefined module).Agree := by
  refine ⟨h.apart, fun k hk => ?_⟩
  by_cases hid : k.id = l.id
  · obtain rfl := h.apart k hk l hl hid
    exact (h.well k hk).record hadopted hloader hname
  · refine (h.well k hk).later (.onTables s l.id fun _ => rfl) ?_
    rw [defined_recordDefined, if_neg hid]

theorem Agree.create (h : s.Agree) (hfounded : s.Founded) (kind : Kind)
    (parent : Option Loader) (context : Context) :
    (s.create kind parent context).2.Agree := by
  have hnew : (s.create kind parent context).1.id = ⟨s.nextLoader⟩ :=
    id_create s kind parent context
  constructor <;> intro l hl <;> rw [created_create, List.mem_append, List.mem_singleton] at hl
  · intro k hk hid
    rw [created_create, List.mem_append, List.mem_singleton] at hk
    rcases hl with hl | rfl <;> rcases hk with hk | rfl
    · exact h.apart l hl k hk hid
    · exact absurd (hid.trans hnew) (hfounded.id_ne_next hl)
    · exact absurd (hid.symm.trans hnew) (hfounded.id_ne_next hk)
    · rfl
  · rcases hl with hl | rfl
    · refine (h.well l hl).later (.create hfounded kind parent context) ?_
      exact congrArg LoaderTables.defined
        (tablesOf_create_of_ne s kind parent context (hfounded.id_ne_next hl))
    · apply DefinesWell.of_blank
      rw [hnew]
      exact blank_create s kind parent context

end Loaders

/-! ## At all times -/

namespace LoaderMoment

variable {m : LoaderMoment} {l : Loader} {module : Module}

/-- The states that have been, the present one first. -/
def states (m : LoaderMoment) : List Loaders :=
  m.state :: m.past.map (·.state)

/-- The tables of all loaders have always agreed, and no answer was ever lost. -/
structure Steady (m : LoaderMoment) : Prop where
  /-- Tables have always agreed. -/
  agree : ∀ s ∈ states m, s.Agree
  /-- Answers have lasted from each state to all later ones. -/
  lasting : (states m).Pairwise fun newer older => older.Grows newer

namespace Steady

variable {s : Loaders}

theorem now (h : Steady m) : m.state.Agree :=
  h.agree _ List.mem_cons_self

theorem after (h : Steady m) (v : loaderService.Event) (hs : s.Agree)
    (hgrows : m.state.Grows s) : Steady (m.after v s) := by
  obtain ⟨hnow, hpast⟩ := List.pairwise_cons.1 h.lasting
  have holder : ∀ x ∈ m.past.map (·.state), x.Grows s := fun x hx => (hnow x hx).trans hgrows
  constructor
  · intro x hx
    rcases List.mem_cons.1 hx with rfl | hx
    · exact hs
    · rcases List.mem_cons.1 hx with rfl | hx
      · exact hs
      · exact h.agree x (List.mem_cons_of_mem _ hx)
  · refine List.pairwise_cons.2 ⟨?_, List.pairwise_cons.2 ⟨holder, hpast⟩⟩
    intro x hx
    rcases List.mem_cons.1 hx with rfl | hx
    · exact .refl _
    · exact holder x hx

theorem note (h : Steady m) (v : loaderService.Event) : Steady (m.note v) :=
  h.after v h.now (.refl _)

/-- A change that leaves alone what is defined. -/
theorem same (h : Steady m) (hcreated : s.created = m.state.created) (hgrows : m.state.Grows s)
    (hdefined : ∀ id, s.defined id = m.state.defined id) : Steady (m.change s) :=
  h.after _ (h.now.later hcreated hgrows hdefined) hgrows

/-- A change of other tables of one loader than those of modules. -/
theorem onTables (h : Steady m) (id : LoaderId) {f : LoaderTables → LoaderTables}
    (hloaded : ∀ t, (f t).loaded = t.loaded) (hdefined : ∀ t, (f t).defined = t.defined) :
    Steady (m.change (m.state.onTables id f)) :=
  h.same rfl (.onTables m.state id hloaded) fun k =>
    Loaders.tablesOf_onTables_congr m.state id k LoaderTables.defined hdefined

theorem remember (h : Steady m) (id : LoaderId) (name : Name) (module : Module) :
    Steady (m.change (m.state.onTables id fun t => t.remember name module)) :=
  h.same rfl (.remember m.state id name module) fun k =>
    Loaders.tablesOf_onTables_congr m.state id k LoaderTables.defined fun t =>
      t.remember_defined name module

/-- A change beside the modules, whatever becomes of the ledger. -/
theorem beside (h : Steady m) (hs : m.state.Beside { s with ledger := m.state.ledger }) :
    Steady (m.change s) :=
  h.same hs.created ⟨(Loaders.Grows.beside hs).created, (Loaders.Grows.beside hs).loaded⟩
    hs.defined

end Steady

/-- A module is about to be recorded with the loader that answers with it. -/
structure Pending (m : LoaderMoment) (l : Loader) (module : Module) : Prop extends Steady m where
  /-- The loader has been made. -/
  created : l ∈ m.state.created
  /-- The module is the answer for its name, and has not been recorded. -/
  adopted : m.state.Adopted l module

namespace Pending

theorem same {s : Loaders} (h : Pending m l module) (hcreated : s.created = m.state.created)
    (hgrows : m.state.Grows s) (hdefined : ∀ id, s.defined id = m.state.defined id) :
    Pending (m.change s) l module where
  toSteady := h.toSteady.same hcreated hgrows hdefined
  created := hgrows.created l h.created
  adopted := h.adopted.later hgrows (hdefined l.id)

theorem sign (h : Pending m l module) (x : Module) (signers : CertificateSet) :
    Pending (LoaderMoment.sign m x signers) l module := by
  unfold LoaderMoment.sign
  split
  · exact h
  · exact h.same rfl (.sign m.state x signers) fun _ => rfl

theorem release (h : Pending m l module) (id : LoaderId) (package : String) (committed : Bool) :
    Pending (m.change (m.state.release id package committed)) l module :=
  h.same rfl (.onTables m.state id fun _ => rfl) fun k =>
    Loaders.tablesOf_onTables_congr m.state id k LoaderTables.defined fun _ => rfl

theorem record (h : Pending m l module) (hloader : module.loader = l.id)
    (hname : l.rules.fault? module.name = none) :
    Steady (m.change (m.state.onTables l.id fun t => t.recordDefined module)) :=
  h.after _ (h.now.record h.created h.adopted hloader hname) (.onTables m.state l.id fun _ => rfl)

end Pending

/-- A module is entered step by step: it is the answer for its name before it is
recorded. -/
theorem Steady.enter (h : Steady m) (hl : l ∈ m.state.created) (hloader : module.loader = l.id)
    (hname : l.rules.fault? module.name = none)
    (hnone : m.state.loaded? l.id module.name = none) (domain : ProtectionDomain)
    (package : String) : Steady (LoaderMoment.enter m l module domain package) := by
  have hpending : Pending
      (m.change (m.state.onTables l.id fun t => t.remember module.name module)) l module :=
    { toSteady := h.remember l.id module.name module
      created := hl
      adopted := (h.now.well l hl).adopted hnone }
  have hreleased := (hpending.sign module domain.certificates).release l.id package true
  unfold LoaderMoment.enter
  rw [Loaders.adopt_eq hnone]
  exact (hreleased.record hloader hname).onTables l.id (fun t => t.recordDomain_loaded domain)
    fun t => t.recordDomain_defined domain

end LoaderMoment

/-- That tables agree is kept up whatever collaborators answer. -/
def defining : Upkeep where
  mayAnswer _ _ _ := True
  Sound := Steady
  Since _ _ _ := True
  Held _ _ _ _ _ := True
  Made _ _ _ := True
  Answers _ _ _ _ _ := True
  since_refl _ _ := trivial
  since_trans _ _ := trivial
  since_mono _ _ := trivial
  held_later _ _ := trivial
  made_later _ _ := trivial
  answers_later _ _ _ := trivial
  answers_before _ _ := trivial
  answers_loaded _ _ _ := trivial
  ended _ := trivial
  quiet h hq := by
    refine ⟨?_, trivial⟩
    cases hq with
    | note _ _ => exact h.note _
    | change beside => exact h.same beside.created (.beside beside) beside.defined
  created hfounded h :=
    ⟨h.after _ (h.now.create hfounded _ _ _) (.create hfounded _ _ _), trivial⟩
  produced h _ _ := ⟨h.note _, trivial, trivial⟩
  reserved _ h _ _ := by
    rw [Loaders.reserve_snd]
    exact ⟨h.onTables _ (fun _ => rfl) fun _ => rfl, trivial, fun _ _ => trivial⟩
  dropped h _ := ⟨h.onTables _ (fun _ => rfl) fun _ => rfl, trivial⟩
  entered h hl _ _ hloader hname hnone := ⟨h.enter hl hloader hname hnone _ _, trivial⟩
  remembered h _ _ _ _ _ := ⟨h.remember _ _ _, trivial, trivial⟩

/-! ## At every point of a session -/

/-- Outside code may answer whatever it likes, and may do to modules what it likes; the
tables of loaders are theirs. -/
def definerRules : loaderService.Rules where
  mayCall := (loaderRules fun _ _ _ => True).mayCall
  mayAnswer _ _ _ := True
  mayChange m s := m.state.Beside { s with ledger := m.state.ledger }

/-- What becomes of modules in the hands of outside code is no matter to tables. -/
def definingDiscipline : Discipline loaderService :=
  defining.discipline.under definerRules.mayChange fun hready hchange =>
    hready.freely hchange (hready.sound.beside hchange) trivial

section Reached

variable {σ τ : loaderService.Session}

theorem defining_start : definingDiscipline.Inv ⟨{}, []⟩ :=
  ⟨.start, fun _ hx => absurd hx List.not_mem_nil,
    ⟨fun s hs => by rw [List.mem_singleton.1 hs]; exact .start, List.pairwise_singleton _ _⟩⟩

/-- Whenever outside code has the word, the hierarchy stands firm and tables agree. -/
theorem defining_of_reaches (h : Reaches definerRules (.start {}) σ)
    (idle : Idle σ.frames = true) : defining.Ready σ.now :=
  (definingDiscipline.upheld defining_start h).inv idle

/-- Tables agree and answers last, up to a moment that lies ahead of every point. -/
theorem steady_ahead (h : Reaches definerRules (.start {}) σ) :
    ∃ ρ, Reaches definerRules σ ρ ∧ Steady ρ.now := by
  obtain ⟨ρ, hρ, -, hready⟩ := (definingDiscipline.upheld defining_start h).surfaces
  exact ⟨ρ, hρ, hready.sound⟩

/-- Nothing is lost in one step. -/
theorem grows_of_step (h : Reaches definerRules (.start {}) σ) (hstep : Step definerRules σ τ) :
    σ.now.state.Grows τ.now.state := by
  obtain ⟨ρ, hρ, hsteady⟩ := steady_ahead (h.tail hstep)
  obtain ⟨v, s, hnow⟩ := hstep.now_eq
  rw [hnow]
  rcases h.now_state with hstart | ⟨x, older, hpast, hx⟩
  · rw [hstart]
    exact ⟨fun l hl => absurd hl List.not_mem_nil, nofun⟩
  · obtain ⟨newer, hρpast⟩ := hρ.past
    have hlasting := (List.pairwise_cons.1 hsteady.lasting).2
    rw [← hρpast, hnow, Moment.after_past, hpast, List.map_append, List.map_cons, List.map_cons]
      at hlasting
    have hlast := (List.pairwise_cons.1 (List.pairwise_append.1 hlasting).2.1).1
    exact hx ▸ hlast _ List.mem_cons_self

/-- No answer is ever lost. -/
theorem grows_of_reaches (h : Reaches definerRules (.start {}) σ)
    (hτ : Reaches definerRules σ τ) : σ.now.state.Grows τ.now.state := by
  induction hτ with
  | refl => exact .refl _
  | tail hreach hstep ih => exact ih.trans (grows_of_step (h.trans hreach) hstep)

/-- The tables of all loaders agree at every point, also between two effects of one
operation. -/
theorem agree_of_reaches (h : Reaches definerRules (.start {}) σ) : σ.now.state.Agree := by
  rcases h.now_state with hstart | ⟨x, older, hpast, hx⟩
  · rw [hstart]
    exact .start
  · obtain ⟨ρ, hρ, hsteady⟩ := steady_ahead h
    have hmem : x ∈ ρ.now.past := hρ.past.subset (hpast ▸ List.mem_cons_self)
    rw [← hx]
    exact hsteady.agree _ (List.mem_cons_of_mem _ (List.mem_map_of_mem hmem))

/-- At every point of a session, what a loader has defined bears different names, is
its own and permitted, and is what it answers with; and what it answers a name with, it
answers for ever.  It does not matter what is answered to its questions, nor what is
defined or resolved before an answer is given. -/
theorem defines_well (h : Reaches definerRules (.start {}) σ) :
    (∀ l ∈ σ.now.state.created, σ.now.state.DefinesWell l) ∧
    ∀ τ, Reaches definerRules σ τ → ∀ id name module,
      σ.now.state.loaded? id name = some module → τ.now.state.loaded? id name = some module := by
  exact ⟨(agree_of_reaches h).well, fun τ hτ id name module hloaded =>
    (grows_of_reaches h hτ).loaded hloaded⟩

end Reached

/-! ## A module that is defined while it is made -/

/-- What is defined while a module of that name is being made. -/
def inner : Module := ⟨0, "a.B", ⟨1⟩, ⟨1, some {}⟩, 1⟩

/-- What is made around it. -/
def outer : Module := ⟨1, "a.B", ⟨1⟩, ⟨1, some {}⟩, 1⟩

/-- A definer defines a module of the name that it is asked for, with the loader that
asks, before it answers. -/
def redefining : List loaderService.Move :=
  [.call (.create .base none {}), .answer (.mayCreate 0 .base) (.ok ()), .finish,
    .call (.define solitary (some "a.B") [0] 0 1 none), .answer (.enter ⟨1⟩ ⟨1⟩) (),
    .call (.define solitary (some "a.B") [0] 0 1 none), .answer (.enter ⟨1⟩ ⟨1⟩) (),
    .answer (.produce 0 ⟨some "a.B", [0], 0, 1, ⟨1, some {}⟩, ⟨1⟩⟩) (.ok inner),
    .answer (.leave ⟨1⟩ ⟨1⟩) (), .finish,
    .answer (.produce 0 ⟨some "a.B", [0], 0, 1, ⟨1, some {}⟩, ⟨1⟩⟩) (.ok outer),
    .answer (.leave ⟨1⟩ ⟨1⟩) (), .finish]

theorem redefining_allowed : definerRules.AllowsAll redefining (.start {}) := by
  unfold redefining
  repeat' refine allowsAll_cons ?_ rfl ?_
  -- Only calls have to be for loaders that have been made.
  all_goals first
    | trivial
    | exact fun l hl => Option.some.inj hl ▸ List.mem_singleton_self _
    | exact nofun

/-- The definition around the other one fails, and its module is recorded nowhere. -/
theorem defines_well_inside :
    ∃ σ : loaderService.Session, Session.play redefining (.start {}) = some σ ∧
      σ.now.state.DefinesWell solitary ∧ σ.now.state.defined solitary.id = [inner] ∧
      σ.now.state.loaded? solitary.id "a.B" = some inner ∧
      ∃ s, ⟨.ended (.define solitary (some "a.B") [0] 0 1 none)
        (.error (.definition "a.B" .duplicate)), s⟩ ∈ σ.now.past := by
  have hreaches := reaches_of_play redefining_allowed rfl
  have hwell := (defines_well hreaches).1 solitary (List.mem_singleton_self _)
  exact ⟨_, rfl, hwell, rfl, hwell.answered inner (List.mem_singleton_self _), _,
    List.mem_cons_self⟩

end Loading
