import Loading.Proofs.Loader.OperationPreservation

/-!
# What a loader remembers of its answers

A loader that has answered a name answers it by one module for ever.  That this
is the module which it returned is another matter: while a name is asked for
above, whoever is asked may register it with the loader that is waiting, and what
comes from above is then returned but not remembered.

* `Overtaken` — a nested operation has registered the name meanwhile.
* `resolve_remembers` — a loader remembers what it returns exactly when it was
  not overtaken.
* `resolve_remembers_overtaken` — a run in which a loader is overtaken.
-/

namespace Loading

open Service LoaderMoment

namespace LoaderMoment

/-- Between two moments, a nested operation has ended with a loader answering a name
by a module. -/
def Nested (b m : LoaderMoment) (id : LoaderId) (name : Name) (module : Module) : Prop :=
  ∃ newer, m.past = newer ++ b.past ∧ ∃ x ∈ newer, (∃ c r, x.event = .ended c r) ∧
    x.state.loaded? id name = some module

/-- Between two moments, a nested operation has ended with a loader answering a name
by another module. -/
def Overtaken (b m : LoaderMoment) (id : LoaderId) (name : Name) (module : Module) : Prop :=
  ∃ other, other ≠ module ∧ Nested b m id name other

/-- What has been answered between two moments by other loaders than some given ones
was registered by nested operations. -/
structure Registered (ids : List LoaderId) (b m : LoaderMoment) : Prop where
  /-- The one moment lies before the other. -/
  past : b.past <:+ m.past
  /-- What is new was registered by one of the loaders, or by a nested operation. -/
  introduced : ∀ id name module, m.state.loaded? id name = some module →
    b.state.loaded? id name = some module ∨ id ∈ ids ∨ Nested b m id name module

variable {ids ids' : List LoaderId} {a b m : LoaderMoment} {id : LoaderId} {name : Name}
  {module : Module}

theorem Nested.before (h : Nested b m id name module) (hpast : a.past <:+ b.past) :
    Nested a m id name module := by
  obtain ⟨newer, heq, x, hx, hended⟩ := h
  obtain ⟨older, hold⟩ := hpast
  refine ⟨newer ++ older, ?_, x, List.mem_append_left _ hx, hended⟩
  rw [heq, ← hold, List.append_assoc]

theorem Nested.later (h : Nested a b id name module) (hpast : b.past <:+ m.past) :
    Nested a m id name module := by
  obtain ⟨newer, heq, x, hx, hended⟩ := h
  obtain ⟨newest, hnew⟩ := hpast
  refine ⟨newest ++ newer, ?_, x, List.mem_append_right _ hx, hended⟩
  rw [← hnew, heq, List.append_assoc]

namespace Registered

theorem refl (ids : List LoaderId) (m : LoaderMoment) : Registered ids m m :=
  ⟨List.suffix_refl _, fun _ _ _ h => Or.inl h⟩

theorem trans (h₁ : Registered ids a b) (h₂ : Registered ids b m) : Registered ids a m := by
  refine ⟨h₁.past.trans h₂.past, fun id name module hm => ?_⟩
  rcases h₂.introduced id name module hm with hb | hid | hnested
  · rcases h₁.introduced id name module hb with ha | hid | hnested
    · exact Or.inl ha
    · exact Or.inr (Or.inl hid)
    · exact Or.inr (Or.inr (hnested.later h₂.past))
  · exact Or.inr (Or.inl hid)
  · exact Or.inr (Or.inr (hnested.before h₁.past))

theorem mono (h : Registered ids b m) (hsub : ∀ id ∈ ids, id ∈ ids') : Registered ids' b m :=
  ⟨h.past, fun id name module hm => (h.introduced id name module hm).imp_right fun h =>
    h.imp_left (hsub id)⟩

/-- An event or a change after which all loaders but some answer as before. -/
theorem after (v : loaderService.Event) {s : Loaders}
    (hs : ∀ id, id ∉ ids → ∀ name, s.loaded? id name = m.state.loaded? id name) :
    Registered ids m (m.after v s) := by
  refine ⟨List.suffix_cons _ _, fun id name module hm => ?_⟩
  by_cases hid : id ∈ ids
  · exact Or.inr (Or.inl hid)
  · exact Or.inl ((hs id hid name).symm.trans hm)

/-- What is registered when an operation ends was registered by a nested operation
for all that is outside. -/
theorem ended (h : Registered ids b m) {c : loaderService.Call} {r : loaderService.Result c} :
    Registered [] b (m.note (.ended c r)) := by
  refine ⟨h.past.trans (List.suffix_cons _ _), fun id name module hm => ?_⟩
  obtain ⟨newer, hpast⟩ := h.past
  refine Or.inr (Or.inr ⟨⟨.ended c r, m.state⟩ :: newer, ?_, _, List.mem_cons_self, ?_⟩)
  · show _ :: m.past = _ :: (newer ++ b.past)
    rw [← hpast]
  · exact ⟨⟨c, r, rfl⟩, hm⟩

end Registered
end LoaderMoment

/-- What loaders remember is kept up whatever collaborators answer. -/
def remembering : Upkeep where
  mayAnswer _ _ _ := True
  Sound _ := True
  Since := Registered
  Held b id _ _ m := Registered [id] b m
  Made _ _ _ := True
  Answers b l name module m := ∃ x, m.state.loaded? l.id name = some x ∧
    (x = module ∨ Nested b m l.id name x)
  since_refl := Registered.refl
  since_trans := Registered.trans
  since_mono hsub h := h.mono hsub
  held_later h hsince := h.trans (hsince.mono fun _ => nofun)
  made_later _ _ := trivial
  answers_later h hgrows hsince := by
    obtain ⟨x, hloaded, hx⟩ := h
    exact ⟨x, hgrows.loaded hloaded, hx.imp_right fun hnested => hnested.later hsince.past⟩
  answers_before hsince h := by
    obtain ⟨x, hloaded, hx⟩ := h
    exact ⟨x, hloaded, hx.imp_right fun hnested => hnested.before hsince.past⟩
  answers_loaded _ _ h := ⟨_, h, Or.inl rfl⟩
  ended h := h.ended
  quiet _ hq := by
    refine ⟨trivial, ?_⟩
    cases hq with
    | note _ _ => exact .after _ fun _ _ _ => rfl
    | change beside => exact .after _ fun id _ name => beside.loaded? id name
  created {m kind parent context} hfounded _ := by
    refine ⟨trivial, .after _ fun id _ name => ?_⟩
    exact hfounded.loaded?_create kind parent context id name
  produced _ _ _ := ⟨trivial, .after _ fun _ _ _ => rfl, trivial⟩
  reserved {b m l name signers package} _ _ h _ := by
    refine ⟨trivial, h.trans (.after _ fun id _ n => ?_), fun _ _ => trivial⟩
    exact Loaders.loaded?_reserve m.state l.id name signers id n
  dropped {b m l package signers} _ h := by
    refine ⟨trivial, h.trans (.after _ fun id _ n => ?_)⟩
    exact Loaders.loaded?_release m.state l.id package false id n
  entered {b m l module domain} _ _ h _ _ _ hnone := by
    refine ⟨trivial, h.trans ⟨past_enter l module domain _, fun id n x hx => ?_⟩⟩
    by_cases hid : id = l.id
    · exact Or.inr (Or.inl (List.mem_singleton.2 hid))
    · exact Or.inl ((loaded?_enter_of_ne hnone domain _ hid n).symm.trans hx)
  remembered {ids b m l name module} _ _ hnone hsince hid _ := by
    have hremember : ∀ id, id ∉ [l.id] → ∀ n,
        (m.state.onTables l.id fun t => t.remember name module).loaded? id n =
          m.state.loaded? id n := by
      intro id hne n
      rw [Loaders.loaded?_remember, if_neg fun h => hne (List.mem_singleton.2 h.1)]
    refine ⟨trivial, .after _ hremember, ?_⟩
    refine ⟨(m.state.loaded? l.id name).getD module, ?_, ?_⟩
    · show Loaders.loaded? _ _ _ = _
      rw [Moment.change_state, Loaders.loaded?_remember, if_pos ⟨rfl, rfl⟩]
    · cases hloaded : m.state.loaded? l.id name with
      | none => exact Or.inl rfl
      | some x =>
          rcases hsince.introduced l.id name x hloaded with hb | hmem | hnested
          · rw [hnone] at hb
            cases hb
          · exact absurd hmem hid
          · exact Or.inr (hnested.later (List.suffix_cons _ _))

/-! ## Answers that were returned -/

section Returned

variable {σ τ : loaderService.Session} {e : LoaderMoment} {l : Loader} {name : Name}
  {link : Bool} {module : Module} {fs : List loaderService.Frame}

/-- Whatever outside code may do, and whatever collaborators answer. -/
abbrev anyAnswers : loaderService.Rules :=
  loaderRules fun _ _ _ => True

theorem upheld_remembering (h : Reaches anyAnswers (.start {}) σ) :
    remembering.discipline.Upheld ⟨{}, []⟩ σ :=
  remembering.discipline.upheld ⟨.start, fun _ hx => absurd hx List.not_mem_nil, trivial⟩ h

/-- When an operation is about to return, whatever was ever so has only grown. -/
theorem lasting_of_done {m : LoaderMoment} {c : loaderService.Call} {r : loaderService.Result c}
    (h : Reaches anyAnswers (.start {}) ⟨m, ⟨c, e, .running (.done r)⟩ :: fs⟩) : Lasting m := by
  have hlasting := (upheld_remembering h).promised.2.1.lasting
  intro x hx
  exact hlasting x (List.mem_cons_of_mem _ hx)

/-- A loader that returns a module answers its name from then on, by this module or by
one that was registered meanwhile. -/
theorem answer_of_done {m : LoaderMoment}
    (h : Reaches anyAnswers (.start {})
      ⟨m, ⟨.resolve l name link, e, .running (.done (.ok module))⟩ :: fs⟩) :
    ∃ x, m.state.loaded? l.id name = some x ∧ (x = module ∨ Nested e m l.id name x) :=
  (upheld_remembering h).promised.1 module rfl

/-- Answers last from one return to the next, and to every moment at which outside
code has the word. -/
theorem grows_of_done {m : LoaderMoment} {c : loaderService.Call} {r : loaderService.Result c}
    (hτ : Reaches anyAnswers ⟨m, ⟨c, e, .running (.done r)⟩ :: fs⟩ τ) (hlasting : Lasting τ.now) :
    m.state.Grows τ.now.state := by
  rcases hτ.ended with rfl | hmem
  · exact .refl _
  · exact hlasting _ hmem

/-- A loader that returns a module answers its name for ever after.  It answers with
the module that it returned exactly when no nested operation has registered the name
with another module meanwhile, and what it returns for one name is one module unless
that has happened. -/
theorem resolve_remembers (h : Reaches anyAnswers (.start {}) σ)
    (hσ : σ.frames = ⟨.resolve l name link, e, .running (.done (.ok module))⟩ :: fs) :
    (σ.now.state.loaded? l.id name = some module ↔ ¬ Overtaken e σ.now l.id name module) ∧
    (∃ x, σ.now.state.loaded? l.id name = some x ∧ ∀ τ, Reaches anyAnswers σ τ →
      Idle τ.frames = true → τ.now.state.loaded? l.id name = some x) ∧
    ∀ τ link' e' module' fs', Reaches anyAnswers σ τ →
      τ.frames = ⟨.resolve l name link', e', .running (.done (.ok module'))⟩ :: fs' →
      ¬ Overtaken e σ.now l.id name module → ¬ Overtaken e' τ.now l.id name module' →
      module' = module := by
  obtain ⟨m, frames⟩ := σ
  obtain rfl : frames = _ := hσ
  have hremembered : ∀ {m e fs link module}, Reaches anyAnswers (.start {})
      ⟨m, ⟨.resolve l name link, e, .running (.done (.ok module))⟩ :: fs⟩ →
      ¬ Overtaken e m l.id name module → m.state.loaded? l.id name = some module := by
    intro m e fs link module h hovertaken
    obtain ⟨x, hloaded, hx⟩ := answer_of_done h
    by_cases heq : x = module
    · rw [hloaded, heq]
    · exact absurd ⟨x, heq, hx.resolve_left heq⟩ hovertaken
  refine ⟨⟨?_, hremembered h⟩, ?_, ?_⟩
  · rintro hloaded ⟨other, hne, newer, hpast, x, hx, -, hother⟩
    have hx : x ∈ m.past := by
      rw [hpast]
      exact List.mem_append_left _ hx
    have hnow := (lasting_of_done h x hx).loaded hother
    exact hne (Option.some.inj (hnow.symm.trans hloaded))
  · obtain ⟨x, hloaded, -⟩ := answer_of_done h
    refine ⟨x, hloaded, fun τ hτ idle => ?_⟩
    have hlasting := ((upheld_remembering (h.trans hτ)).inv idle).lasting
    exact (grows_of_done hτ hlasting).loaded hloaded
  · rintro ⟨m', frames'⟩ link' e' module' fs' hτ hframes hfirst hsecond
    obtain rfl : frames' = _ := hframes
    have hgrows := grows_of_done hτ (lasting_of_done (h.trans hτ))
    have hloaded := hgrows.loaded (hremembered h hfirst)
    exact Option.some.inj ((hremembered (h.trans hτ) hsecond).symm.trans hloaded)

end Returned

/-! ## A loader that is overtaken -/

/-- What is registered while the built-in module is asked for. -/
def early : Module := ⟨0, "a.B", ⟨1⟩, ⟨1, some {}⟩, 1⟩

/-- What the bootstrap resolver answers after that. -/
def late : Module := ⟨1, "a.B", .bootstrap, ⟨2, none⟩, 0⟩

/-- A name is resolved, and whoever is asked for the built-in module defines one of
that name first. -/
def overtaking : List loaderService.Move :=
  [.call (.create .base none {}), .answer (.mayCreate 0 .base) (.ok ()), .finish,
    .call (.resolve solitary "a.B" false), .answer (.enter ⟨1⟩ ⟨1⟩) (),
    .call (.define solitary (some "a.B") [0] 0 1 none), .answer (.enter ⟨1⟩ ⟨1⟩) (),
    .answer (.produce 0 ⟨some "a.B", [0], 0, 1, ⟨1, some {}⟩, ⟨1⟩⟩) (.ok early),
    .answer (.leave ⟨1⟩ ⟨1⟩) (), .finish,
    .answer (.bootstrap 0 "a.B") (some late), .answer (.leave ⟨1⟩ ⟨1⟩) ()]

theorem overtaking_allowed : anyAnswers.AllowsAll overtaking (.start {}) := by
  unfold overtaking
  repeat' refine allowsAll_cons ?_ rfl ?_
  -- Only calls have to be for loaders that have been made.
  all_goals first
    | trivial
    | exact mayCall_of_none rfl
    | exact mayCall_of_mem rfl (List.mem_singleton_self _)

/-- A loader may return a module that it does not answer with. -/
theorem resolve_remembers_overtaken :
    ∃ σ e fs, Session.play overtaking (.start {}) = some σ ∧
      σ.frames = ⟨.resolve solitary "a.B" false, e, .running (.done (.ok late))⟩ :: fs ∧
      σ.now.state.loaded? solitary.id "a.B" = some early ∧
      Overtaken e σ.now solitary.id "a.B" late := by
  refine ⟨_, _, _, rfl, rfl, rfl, ?_⟩
  have hreaches := reaches_of_play overtaking_allowed rfl
  by_contra hnot
  have hlate := (resolve_remembers hreaches rfl).1.2 hnot
  exact absurd hlate (by decide)

end Loading
