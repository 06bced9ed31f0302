import Loading.Proofs.Loader.Confinement
import Loading.Proofs.Loader.Defining

/-!
# Where the answers of a loader come from

Loaders answer each other, remember what they are told, and define modules for each
other while they wait.  Still a loader answers a name only by a module of that name
that is built in, or that it or a loader above it has defined.  What loaders beside or
below it define never becomes its answer.

What is remembered passes from loader to loader, so what is kept up is that every
answer can be traced: to a definition on the path, or to an answer that the bootstrap
resolver has given to a loader on the path.

* `Loaders.Isolated` — an answer belongs to the path of the loader.
* `builtinRules` — the bootstrap resolver answers with what has been registered, and
  outside code may register more.
* `names_isolated` — every answer of every loader belongs to its path.
* `names_isolated_between` — a module that is defined beside a loader stays there.
-/

namespace Loading

open Interaction Service LoaderMoment

/-! ## Built-in modules -/

namespace Loaders

variable {s s' s₁ s₂ s₃ : Loaders}

/-- Built-in modules have been registered, each under its own name, and none was lost. -/
structure Enrolls (s s' : Loaders) : Prop where
  /-- None was lost. -/
  kept : ∀ {key name m}, s.builtin? key name = some m → s'.builtin? key name = some m
  /-- What is new bears its own name, and belongs to no loader. -/
  entered : ∀ {key name m}, s'.builtin? key name = some m →
    s.builtin? key name = some m ∨ m.name = name ∧ m.loader = .bootstrap

theorem Enrolls.of_eq (h : s'.builtins = s.builtins) : Enrolls s s' := by
  have hsame : ∀ key name, s'.builtin? key name = s.builtin? key name := by
    intro key name
    unfold builtin? builtinsOf
    rw [h]
  exact ⟨fun hm => (hsame _ _).trans hm, fun hm => Or.inl ((hsame _ _).symm.trans hm)⟩

theorem Enrolls.trans (h₁ : Enrolls s₁ s₂) (h₂ : Enrolls s₂ s₃) : Enrolls s₁ s₃ where
  kept hm := h₂.kept (h₁.kept hm)
  entered hm := by
    rcases h₂.entered hm with hm | hnew
    · exact h₁.entered hm
    · exact Or.inr hnew

/-- What the built-in modules of all contexts are after one of a name has been entered. -/
theorem builtin?_registerBuiltin (s : Loaders) (key k : Nat) (name n : Name) :
    (s.registerBuiltin key name).2.builtin? k n =
      if k = key ∧ n = name then some (s.registerBuiltin key name).1 else s.builtin? k n := by
  unfold registerBuiltin
  cases hknown : s.builtin? key name with
  | some m =>
      by_cases hkn : k = key ∧ n = name
      · rw [if_pos hkn, hkn.1, hkn.2]
        exact hknown
      · rw [if_neg hkn]
  | none =>
      show (Table.findD (s.builtins.set key _) k {}).find? n = _
      unfold Table.findD
      rw [Table.find?_set]
      by_cases hk : k = key
      · subst hk
        rw [if_pos rfl, Option.getD_some, Table.find?_set]
        by_cases hn : n = name
        · rw [if_pos hn, if_pos ⟨rfl, hn⟩]
        · rw [if_neg hn, if_neg fun h => hn h.2]
          rfl
      · rw [if_neg hk, if_neg fun h => hk h.1]
        rfl

/-- A module that is registered is the built-in module of its name. -/
theorem enrolls_registerBuiltin (s : Loaders) (key : Nat) (name : Name) :
    Enrolls s (s.registerBuiltin key name).2 := by
  have hnew : s.builtin? key name = none →
      (s.registerBuiltin key name).1.name = name ∧
        (s.registerBuiltin key name).1.loader = .bootstrap := by
    intro hnone
    unfold registerBuiltin
    rw [hnone]
    exact ⟨rfl, rfl⟩
  have hold : ∀ {m}, s.builtin? key name = some m → (s.registerBuiltin key name).1 = m := by
    intro m hm
    unfold registerBuiltin
    rw [hm]
  constructor
  · intro k n m hm
    rw [builtin?_registerBuiltin]
    split
    · rename_i hkn
      rw [hkn.1, hkn.2] at hm
      rw [hold hm]
    · exact hm
  · intro k n m hm
    rw [builtin?_registerBuiltin] at hm
    split at hm
    · rename_i hkn
      obtain rfl := Option.some.inj hm
      rw [hkn.1, hkn.2]
      cases hknown : s.builtin? key name with
      | none => exact Or.inr (hnew hknown)
      | some x => exact Or.inl (congrArg some (hold hknown).symm)
    · exact Or.inl hm

/-- Registering a built-in module is no matter to loaders. -/
theorem beside_registerBuiltin (s : Loaders) (key : Nat) (name : Name) :
    s.Beside { (s.registerBuiltin key name).2 with ledger := s.ledger } := by
  unfold registerBuiltin
  cases s.builtin? key name with
  | some m => exact .refl s
  | none => exact ⟨rfl, Nat.le_refl _, fun _ => rfl, fun _ => rfl, fun _ => rfl, fun _ => rfl, rfl⟩

/-- New loaders get new numbers, and built-in modules are only registered. -/
structure Onward (s s' : Loaders) : Prop extends Enrolls s s' where
  /-- Numbers are not used again. -/
  nextLoader : s.nextLoader ≤ s'.nextLoader
  /-- A loader that was not there has a new number. -/
  numbered : ∀ l ∈ s'.created, l ∈ s.created ∨ s.nextLoader ≤ l.id.val

namespace Onward

theorem refl (s : Loaders) : Onward s s :=
  ⟨.of_eq rfl, Nat.le_refl _, fun _ hl => Or.inl hl⟩

theorem trans (h₁ : Onward s₁ s₂) (h₂ : Onward s₂ s₃) : Onward s₁ s₃ where
  toEnrolls := h₁.toEnrolls.trans h₂.toEnrolls
  nextLoader := Nat.le_trans h₁.nextLoader h₂.nextLoader
  numbered l hl := by
    rcases h₂.numbered l hl with hl | hnew
    · exact h₁.numbered l hl
    · exact Or.inr (Nat.le_trans h₁.nextLoader hnew)

theorem of_inward (h : Inward s s') : Onward s s' :=
  ⟨.of_eq h.builtins, Nat.le_of_eq h.nextLoader.symm, fun _ hl => Or.inl (h.created ▸ hl)⟩

theorem create (s : Loaders) (kind : Kind) (parent : Option Loader) (context : Context) :
    Onward s (s.create kind parent context).2 := by
  refine ⟨.of_eq rfl, Nat.le_succ _, fun l hl => ?_⟩
  rw [created_create, List.mem_append, List.mem_singleton] at hl
  rcases hl with hl | rfl
  · exact Or.inl hl
  · rw [id_create]
    exact Or.inr (Nat.le_refl _)

end Onward

end Loaders

open Loaders

/-- The bootstrap resolver answers with what has been registered; all other answers are
free. -/
def byBuiltins (m : LoaderMoment) : (q : LoaderQuestion) → q.Answer → Prop
  | .bootstrap key name, found => found = m.state.builtin? key name
  | _, _ => True

/-- Outside code may answer whatever it likes, but for the bootstrap resolver, may do to
modules what it likes, and may register built-in modules; the tables of loaders are
theirs. -/
def builtinRules : loaderService.Rules where
  mayCall := definerRules.mayCall
  mayAnswer := byBuiltins
  mayChange m s := definerRules.mayChange m s ∧ m.state.Enrolls s

/-- A built-in module may be registered whenever outside code has the word. -/
theorem mayChange_registerBuiltin (m : LoaderMoment) (key : Nat) (name : Name) :
    builtinRules.mayChange m (m.state.registerBuiltin key name).2 :=
  ⟨beside_registerBuiltin m.state key name, enrolls_registerBuiltin m.state key name⟩

/-- All operations of loaders go onward. -/
theorem acts_onward (c : LoaderCall) : c.body.Acts Onward := by
  cases c with
  | create kind parent context =>
      intro permission
      cases permission with
      | error e => trivial
      | ok u => exact fun s => ⟨.create s kind parent context, trivial⟩
  | define l name bytes start stop domain =>
      exact (orderly_define name bytes start stop domain).acts.mono fun _ _ => .of_inward
  | resolve l name link => exact (orderly_resolve l name link).acts.mono fun _ _ => .of_inward

/-! ## Answers that can be traced -/

namespace LoaderMoment

variable {b m m' : LoaderMoment} {l : Loader} {name : Name} {module : Module}

/-- Where an answer of a loader comes from: the bootstrap resolver has answered a loader
on the path with it, or such a loader has defined it. -/
inductive Traced (m : LoaderMoment) (l : Loader) (name : Name) (module : Module) : Prop
  | builtIn {a : Loader} (above : a ∈ l.path) {x : loaderService.Entry} (past : x ∈ m.past)
      (answered : x.event = .answered (.bootstrap a.context.key name) (some module))
  | defined {a : Loader} (above : a ∈ l.path) (defined : module ∈ m.state.defined a.id)
      (named : module.name = name)

/-- Nothing that has happened is undone, and nothing that was defined is lost. -/
structure Extends (b m : LoaderMoment) : Prop where
  /-- The past lies behind. -/
  past : b.past <:+ m.past
  /-- What was defined is defined. -/
  defined : ∀ id, ∀ x ∈ b.state.defined id, x ∈ m.state.defined id

theorem Extends.refl (m : LoaderMoment) : Extends m m :=
  ⟨List.suffix_refl _, fun _ _ hx => hx⟩

theorem Extends.trans {a : LoaderMoment} (h₁ : Extends a b) (h₂ : Extends b m) : Extends a m :=
  ⟨h₁.past.trans h₂.past, fun id x hx => h₂.defined id x (h₁.defined id x hx)⟩

/-- An event after which the same is defined. -/
theorem Extends.after (v : loaderService.Event) {s : Loaders}
    (hdefined : ∀ id, s.defined id = m.state.defined id) : Extends m (m.after v s) :=
  ⟨List.suffix_cons _ _, fun id _ hx => (hdefined id).symm ▸ hx⟩

theorem Extends.enter (hnone : m.state.loaded? l.id module.name = none)
    (domain : ProtectionDomain) (package : String) :
    Extends m (enter m l module domain package) := by
  refine ⟨past_enter l module domain package, fun id x hx => ?_⟩
  rw [defined_enter hnone]
  split
  · rename_i hid
    exact List.mem_append_left _ (hid ▸ hx)
  · exact hx

theorem Traced.later (h : Traced m l name module) (hext : Extends m m') :
    Traced m' l name module := by
  cases h with
  | builtIn above past answered => exact .builtIn above (hext.past.subset past) answered
  | defined above hdefined named => exact .defined above (hext.defined _ _ hdefined) named

/-- What a loader answers, a loader below it may answer. -/
theorem Traced.child {level : Level} {parent : Loader} (h : Traced m parent name module) :
    Traced m (.child level parent) name module := by
  cases h with
  | builtIn above past answered => exact .builtIn (List.mem_cons_of_mem _ above) past answered
  | defined above hdefined named => exact .defined (List.mem_cons_of_mem _ above) hdefined named

/-- Tables agree, and every answer of every loader can be traced. -/
structure TracedWell (m : LoaderMoment) : Prop extends Steady m where
  /-- Every answer can be traced. -/
  traced : ∀ l ∈ m.state.created, ∀ name module, m.state.loaded? l.id name = some module →
    Traced m l name module

/-- Answers that were there can still be traced, so only new ones have to be. -/
theorem TracedWell.extend (h : TracedWell m) (hsteady : Steady m') (hext : Extends m m')
    (hnew : ∀ l ∈ m'.state.created, ∀ name module, m'.state.loaded? l.id name = some module →
      l ∈ m.state.created ∧ m.state.loaded? l.id name = some module ∨ Traced m' l name module) :
    TracedWell m' := by
  refine ⟨hsteady, fun l hl name module hloaded => ?_⟩
  rcases hnew l hl name module hloaded with ⟨hl, hloaded⟩ | htraced
  · exact (h.traced l hl name module hloaded).later hext
  · exact htraced

/-- An event after which loaders answer the same and the same is defined. -/
theorem TracedWell.same (h : TracedWell m) {v : loaderService.Event} {s : Loaders}
    (hsteady : Steady (m.after v s)) (hcreated : s.created = m.state.created)
    (hloaded : ∀ id n, s.loaded? id n = m.state.loaded? id n)
    (hdefined : ∀ id, s.defined id = m.state.defined id) : TracedWell (m.after v s) := by
  refine h.extend hsteady (.after v hdefined) fun l hl name module hmodule => Or.inl ⟨?_, ?_⟩
  · exact hcreated ▸ hl
  · exact (hloaded l.id name).symm.trans hmodule

theorem TracedWell.beside (h : TracedWell m) {s : Loaders}
    (hs : m.state.Beside { s with ledger := m.state.ledger }) : TracedWell (m.change s) :=
  h.same (h.toSteady.beside hs) hs.created hs.loaded? hs.defined

/-- A loader that has just been made answers nothing. -/
theorem TracedWell.create (h : TracedWell m) (hfounded : m.state.Founded) (kind : Kind)
    (parent : Option Loader) (context : Context) :
    TracedWell (m.change (m.state.create kind parent context).2) := by
  have hsteady : Steady (m.change (m.state.create kind parent context).2) :=
    (defining.created hfounded h.toSteady).1
  have hext : Extends m (m.change (m.state.create kind parent context).2) :=
    .after _ (hfounded.defined_create kind parent context)
  refine h.extend hsteady hext fun l hl name module hmodule => Or.inl ?_
  have hloaded : m.state.loaded? l.id name = some module :=
    (hfounded.loaded?_create kind parent context l.id name).symm.trans hmodule
  rw [Moment.change_state, created_create, List.mem_append, List.mem_singleton] at hl
  rcases hl with hl | rfl
  · exact ⟨hl, hloaded⟩
  · have hblank : (m.state.tablesOf (m.state.create kind parent context).1.id).Blank := by
      rw [id_create]
      exact hfounded.blank _ fun k hk => hfounded.id_ne_next hk
    unfold Loaders.loaded? at hloaded
    rw [hblank.loaded] at hloaded
    cases hloaded

/-- A module that is entered is the answer of the loader that has defined it. -/
theorem TracedWell.enter (h : TracedWell m) (hl : l ∈ m.state.created)
    (hnone : m.state.loaded? l.id module.name = none) {domain : ProtectionDomain}
    {package : String} (hsteady : Steady (enter m l module domain package)) :
    TracedWell (enter m l module domain package) := by
  have hcreated : (LoaderMoment.enter m l module domain package).state.created =
      m.state.created := by
    unfold LoaderMoment.enter
    rw [adopt_eq hnone]
    exact created_sign module domain.certificates
  refine h.extend hsteady (.enter hnone domain package) fun k hk n x hx => ?_
  rw [hcreated] at hk
  rw [loaded?_enter hnone] at hx
  split at hx
  · rename_i hkn
    obtain ⟨hid, rfl⟩ := hkn
    obtain rfl := Option.some.inj hx
    obtain rfl := h.now.apart k hk l hl hid
    refine Or.inr (.defined List.mem_cons_self ?_ rfl)
    rw [defined_enter hnone, if_pos rfl]
    exact List.mem_append_right _ (List.mem_singleton_self _)
  · exact Or.inl ⟨hk, hx⟩

/-- What a loader is told from above can be traced by the loader itself. -/
theorem traced_of_fromAbove
    (h : FromAbove (fun _ l name module m => Traced m l name module) name module m l) :
    Traced m l name module := by
  cases l with
  | root level =>
      obtain ⟨x, hx, hevent⟩ := h
      exact .builtIn List.mem_cons_self hx hevent
  | child level parent =>
      obtain ⟨-, htraced⟩ := h
      exact htraced.child

/-- An answer from above is remembered, unless the loader has got another one. -/
theorem TracedWell.remember (h : TracedWell m) (hl : l ∈ m.state.created)
    (habove : Traced m l name module)
    (hsteady : Steady (m.change (m.state.onTables l.id fun t => t.remember name module))) :
    TracedWell (m.change (m.state.onTables l.id fun t => t.remember name module)) := by
  have hext : Extends m (m.change (m.state.onTables l.id fun t => t.remember name module)) :=
    .after _ (defined_remember m.state l.id name module)
  refine h.extend hsteady hext fun k hk n x hx => ?_
  rw [Moment.change_state, loaded?_remember] at hx
  split at hx
  · rename_i hkn
    obtain ⟨hid, rfl⟩ := hkn
    obtain rfl := h.now.apart k hk l hl hid
    cases hloaded : m.state.loaded? k.id n with
    | some y =>
        rw [hloaded] at hx
        exact Or.inl ⟨hk, hx⟩
    | none =>
        rw [hloaded] at hx
        obtain rfl := Option.some.inj hx
        exact Or.inr (habove.later hext)
  · exact Or.inl ⟨hk, hx⟩

end LoaderMoment

/-- That answers can be traced is kept up whatever collaborators answer. -/
def tracing : Upkeep where
  mayAnswer _ _ _ := True
  Sound := TracedWell
  Since _ := Extends
  Held b _ _ _ m := Extends b m
  Made _ _ _ := True
  Answers _ l name module m := Traced m l name module
  since_refl _ := Extends.refl
  since_trans h₁ h₂ := h₁.trans h₂
  since_mono _ h := h
  held_later h hsince := h.trans hsince
  made_later _ _ := trivial
  answers_later h _ hsince := h.later hsince
  answers_before _ h := h
  answers_loaded h hl hloaded := h.traced _ hl _ _ hloaded
  ended h := h.trans (.after _ fun _ => rfl)
  quiet h hq := by
    have hsteady := (defining.quiet h.toSteady hq).1
    cases hq with
    | note _ _ =>
        exact ⟨h.same hsteady rfl (fun _ _ => rfl) fun _ => rfl, .after _ fun _ => rfl⟩
    | change beside =>
        exact ⟨h.same hsteady beside.created beside.loaded? beside.defined,
          .after _ beside.defined⟩
  created hfounded h :=
    ⟨h.create hfounded _ _ _, .after _ (hfounded.defined_create _ _ _)⟩
  produced h _ _ :=
    ⟨h.same (h.toSteady.note _) rfl (fun _ _ => rfl) fun _ => rfl, .after _ fun _ => rfl, trivial⟩
  reserved {b m l name signers package} _ h hsince hok := by
    have hsteady := (defining.reserved h.toSteady h.toSteady trivial hok).1
    have hdefined := defined_reserve m.state l.id name signers
    exact ⟨h.same hsteady rfl (loaded?_reserve m.state l.id name signers) hdefined,
      hsince.trans (.after _ hdefined), fun _ _ => trivial⟩
  dropped {b m l package signers} h hheld := by
    have hsteady : Steady (m.change (m.state.release l.id package false)) :=
      h.toSteady.onTables l.id (fun _ => rfl) fun _ => rfl
    have hdefined := defined_release m.state l.id package false
    exact ⟨h.same hsteady rfl (loaded?_release m.state l.id package false) hdefined,
      hheld.trans (.after _ hdefined)⟩
  entered h hl hheld _ hloader hname hnone :=
    ⟨h.enter hl hnone (h.toSteady.enter hl hloader hname hnone _ _),
      hheld.trans (.enter hnone _ _)⟩
  remembered {ids b m l name module} h hl _ _ _ habove := by
    have htraced := traced_of_fromAbove habove
    have hwell := h.remember hl htraced (h.toSteady.remember l.id name module)
    have hext : Extends m (m.change (m.state.onTables l.id fun t => t.remember name module)) :=
      .after _ (defined_remember m.state l.id name module)
    exact ⟨hwell, hext, htraced.later hext⟩

/-- What becomes of modules in the hands of outside code is no matter to answers. -/
def tracingDiscipline : Discipline loaderService :=
  tracing.discipline.under definerRules.mayChange fun hready hchange =>
    hready.freely hchange (hready.sound.beside hchange) (.after _ hchange.defined)

/-! ## Answers belong to the path -/

/-- A loader answers a name by a module that belongs to its path. -/
structure Loaders.Isolated (s : Loaders) (l : Loader) (name : Name) (module : Module) : Prop where
  /-- The module bears the name. -/
  named : module.name = name
  /-- It is built in, or the loader or one above it has defined it and owns it. -/
  source : s.builtin? l.context.key name = some module ∧ module.loader = .bootstrap ∨
    ∃ a ∈ l.path, module ∈ s.defined a.id ∧ module.loader = a.id
  /-- Whoever has defined it is on the path. -/
  path : ∀ d ∈ s.created, module ∈ s.defined d.id → d ∈ l.path
  /-- A name that is reserved for the system stands for a built-in module. -/
  system : l.rules.isReserved name = true → l.rules.allowReservedPrefix = false →
    s.builtin? l.context.key name = some module

/-- What may be defined is not reserved for the system. -/
theorem NameRules.isReserved_of_permitted {rules : NameRules} {name : Name}
    (h : rules.fault? name = none) (hallow : rules.allowReservedPrefix = false) :
    rules.isReserved name = false := by
  unfold fault? at h
  cases hreserved : rules.isReserved name with
  | false => rfl
  | true =>
      rw [hallow, hreserved] at h
      split at h
      · cases h
      · split at h <;> cases h

section Reached

variable {σ : loaderService.Session} {l : Loader} {name : Name} {module : Module}

/-- Whenever outside code has the word, the hierarchy stands firm, tables agree and all
answers can be traced. -/
theorem tracing_of_reaches (h : Reaches builtinRules (.start {}) σ)
    (idle : Idle σ.frames = true) : tracing.Ready σ.now := by
  have hstart : tracingDiscipline.Inv ⟨{}, []⟩ := by
    refine ⟨.start, fun _ hx => absurd hx List.not_mem_nil, ⟨?_, List.pairwise_singleton _ _⟩, ?_⟩
    · intro s hs
      rw [List.mem_singleton.1 hs]
      exact .start
    · exact fun l hl => absurd hl List.not_mem_nil
  have hmono : Reaches tracingDiscipline.rules (.start {}) σ := by
    refine h.mono ?_ ?_ ?_
    · exact fun _ _ hcall => hcall
    · exact fun _ _ _ _ => trivial
    · exact fun _ _ hchange => hchange.1
  exact (tracingDiscipline.upheld hstart hmono).inv idle

/-- At every point, all that has happened before has gone onward. -/
theorem onward_of_reaches (h : Reaches builtinRules (.start {}) σ) :
    Loaders.Onward {} σ.now.state ∧ ∀ x ∈ σ.now.past, x.state.Onward σ.now.state := by
  refine h.respects Onward.refl Onward.trans acts_onward fun m s hchange => ?_
  exact ⟨hchange.2, hchange.1.nextLoader, fun l hl => Or.inl (hchange.1.created ▸ hl)⟩

/-- A built-in module bears its name, and no loader has defined it. -/
theorem builtIn_of_reaches (h : Reaches builtinRules (.start {}) σ) {key : Nat}
    (hbuiltin : σ.now.state.builtin? key name = some module) :
    module.name = name ∧ module.loader = .bootstrap := by
  rcases (onward_of_reaches h).1.entered hbuiltin with hnone | hentered
  · cases hnone
  · exact hentered

/-- No loader has the number of the built-in modules. -/
theorem id_ne_bootstrap (h : Reaches builtinRules (.start {}) σ) (hl : l ∈ σ.now.state.created) :
    l.id ≠ .bootstrap := by
  intro heq
  rcases (onward_of_reaches h).1.numbered l hl with hnone | hnumber
  · cases hnone
  · rw [heq] at hnumber
    exact absurd hnumber (by decide)

/-- Whenever outside code has the word, an answer is built in, or it was defined on the path
under that name. -/
theorem source_of_reaches (h : Reaches builtinRules (.start {}) σ)
    (idle : Idle σ.frames = true) (hl : l ∈ σ.now.state.created)
    (hcontext : ∀ a ∈ l.path, a.context = l.context)
    (hloaded : σ.now.state.loaded? l.id name = some module) :
    σ.now.state.builtin? l.context.key name = some module ∨
      ∃ a ∈ l.path, module ∈ σ.now.state.defined a.id ∧ module.name = name := by
  cases (tracing_of_reaches h idle).sound.traced l hl name module hloaded with
  | @builtIn a above x past answered =>
      obtain ⟨m, hm, hanswer⟩ := h.answered past answered
      have hthen : x.state.builtin? a.context.key name = some module := by
        rw [← hm]
        exact hanswer.symm
      left
      rw [← hcontext a above]
      exact ((onward_of_reaches h).2 x past).kept hthen
  | @defined a above hdefined hnamed => exact Or.inr ⟨a, above, hdefined, hnamed⟩

/-- Whoever has defined the answer of a loader is on the path of that loader. -/
theorem definer_on_path (h : Reaches builtinRules (.start {}) σ)
    (idle : Idle σ.frames = true) (hl : l ∈ σ.now.state.created)
    (hcontext : ∀ a ∈ l.path, a.context = l.context)
    (hloaded : σ.now.state.loaded? l.id name = some module) {d : Loader}
    (hd : d ∈ σ.now.state.created) (hdefined : module ∈ σ.now.state.defined d.id) :
    d ∈ l.path := by
  have hready := tracing_of_reaches h idle
  have hown := (hready.sound.now.well d hd).own module hdefined
  rcases source_of_reaches h idle hl hcontext hloaded with hbuiltin | ⟨a, above, hdefined', -⟩
  · exact absurd (hown.symm.trans (builtIn_of_reaches h hbuiltin).2) (id_ne_bootstrap h hd)
  · have ha := hready.founded.path_created l hl a above
    have hown' := (hready.sound.now.well a ha).own module hdefined'
    rw [hready.founded.id_inj d hd a ha (hown.symm.trans hown')]
    exact above

/-- Whatever loaders are called on meanwhile, and whatever finders and definers answer: a
loader answers a name only by a module of that name that is built in, or that the loader
itself or one above it has defined and owns; nobody else has defined that module; and a
name that is reserved for the system stands for a built-in module. -/
theorem names_isolated (h : Reaches builtinRules (.start {}) σ) (idle : Idle σ.frames = true)
    (hl : l ∈ σ.now.state.created) (hcontext : ∀ a ∈ l.path, a.context = l.context)
    (hloaded : σ.now.state.loaded? l.id name = some module) :
    σ.now.state.Isolated l name module := by
  have hpath : ∀ d ∈ σ.now.state.created, module ∈ σ.now.state.defined d.id → d ∈ l.path :=
    fun d hd hdefined => definer_on_path h idle hl hcontext hloaded hd hdefined
  rcases source_of_reaches h idle hl hcontext hloaded with
    hbuiltin | ⟨a, above, hdefined, hnamed⟩
  · obtain ⟨hnamed, hbootstrap⟩ := builtIn_of_reaches h hbuiltin
    exact ⟨hnamed, Or.inl ⟨hbuiltin, hbootstrap⟩, hpath, fun _ _ => hbuiltin⟩
  · have hready := tracing_of_reaches h idle
    have hwell := hready.sound.now.well a (hready.founded.path_created l hl a above)
    refine ⟨hnamed, Or.inr ⟨a, above, hdefined, hwell.own module hdefined⟩, hpath, ?_⟩
    intro hreserved hallow
    have hpermitted := hwell.permitted module hdefined
    have hrules : a.rules = l.rules := congrArg (fun c => c.config.names) (hcontext a above)
    rw [hnamed, hrules] at hpermitted
    rw [NameRules.isReserved_of_permitted hpermitted hallow] at hreserved
    cases hreserved

end Reached

/-! ## A module that is defined beside a loader -/

/-- Another loader below the first one that is made. -/
def neighbour : Loader := .child ⟨⟨3⟩, .base, true, {}⟩ solitary

/-- A built-in module. -/
def native : Module := ⟨0, "java.L", .bootstrap, ⟨1, none⟩, 0⟩

/-- What is defined beside a loader. -/
def foreign : Module := ⟨1, "a.B", ⟨3⟩, ⟨2, some {}⟩, 1⟩

/-- What the loader defines itself. -/
def proper : Module := ⟨2, "a.B", ⟨2⟩, ⟨3, some {}⟩, 1⟩

/-- A built-in module is resolved; then a finder defines the module that it is asked for
with another loader, before it answers. -/
def misplacing : List loaderService.Move :=
  [.change (({} : Loaders).registerBuiltin 0 "java.L").2,
    .call (.create .base none {}), .answer (.mayCreate 0 .base) (.ok ()), .finish,
    .call (.create .base (some solitary) {}), .answer (.mayCreate 0 .base) (.ok ()), .finish,
    .call (.create .base (some solitary) {}), .answer (.mayCreate 0 .base) (.ok ()), .finish,
    .call (.resolve sheltered "java.L" false), .answer (.enter ⟨2⟩ ⟨1⟩) (),
    .answer (.enter ⟨1⟩ ⟨1⟩) (), .answer (.bootstrap 0 "java.L") (some native),
    .answer (.leave ⟨1⟩ ⟨1⟩) (), .answer (.leave ⟨2⟩ ⟨1⟩) (), .finish,
    .call (.resolve sheltered "a.B" false), .answer (.enter ⟨2⟩ ⟨2⟩) (),
    .answer (.enter ⟨1⟩ ⟨2⟩) (), .answer (.bootstrap 0 "a.B") none,
    .answer (.find ⟨1⟩ "a.B") (.error (.notFound "a.B")), .answer (.leave ⟨1⟩ ⟨2⟩) (),
    .call (.define neighbour (some "a.B") [0] 0 1 none), .answer (.enter ⟨3⟩ ⟨1⟩) (),
    .answer (.produce 0 ⟨some "a.B", [0], 0, 1, ⟨2, some {}⟩, ⟨3⟩⟩) (.ok foreign),
    .answer (.leave ⟨3⟩ ⟨1⟩) (), .finish,
    .answer (.find ⟨2⟩ "a.B") (.ok ⟨[0], none⟩), .answer (.enter ⟨2⟩ ⟨2⟩) (),
    .answer (.produce 0 ⟨some "a.B", [0], 0, 1, ⟨3, some {}⟩, ⟨2⟩⟩) (.ok proper),
    .answer (.leave ⟨2⟩ ⟨2⟩) (), .answer (.leave ⟨2⟩ ⟨2⟩) (), .finish]

theorem misplacing_allowed : builtinRules.AllowsAll misplacing (.start {}) := by
  unfold misplacing
  refine allowsAll_cons (mayChange_registerBuiltin _ 0 "java.L") rfl ?_
  repeat' refine allowsAll_cons ?_ rfl ?_
  -- Calls have to be for loaders that have been made, and the bootstrap resolver answers
  -- with what has been registered.
  all_goals first
    | trivial
    | exact fun l hl => Option.some.inj hl ▸ by decide
    | exact nofun

/-- The loader answers by its own module, whatever is defined beside it, and the system's
name by the built-in module. -/
theorem names_isolated_between :
    ∃ σ : loaderService.Session, Session.play misplacing (.start {}) = some σ ∧
      σ.now.state.Isolated sheltered "a.B" proper ∧
      σ.now.state.Isolated sheltered "java.L" native ∧
      σ.now.state.loaded? neighbour.id "a.B" = some foreign := by
  have hcontext : ∀ a ∈ sheltered.path, a.context = sheltered.context := by decide
  have hcreated : sheltered ∈ [solitary, sheltered, neighbour] := by decide
  have hreaches := reaches_of_play misplacing_allowed rfl
  exact ⟨_, rfl, names_isolated hreaches rfl hcreated hcontext rfl,
    names_isolated hreaches rfl hcreated hcontext rfl, rfl⟩

end Loading
