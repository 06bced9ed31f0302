import Loading.Proofs.Loader.Defining
import Loading.Proofs.Loader.Delegating

/-!
# Asking for what has been defined

A name is checked twice: before a module is defined under it, and before a module is
looked up under it.  Whatever the rules are, the two checks differ in the empty name: it
may be defined and may not be looked up.  Every other module that a loader has defined
is what it answers with, and it asks nobody about it.

* `NameRules.definable_only_iff` — where the two checks differ.
* `endsAlone_resolve` — a loader that knows a name answers it by itself.
* `resolve_defined_iff` — what becomes of asking for a module that was defined.
-/

namespace Loading

open Interaction Service Loaders

/-! ## Two checks of a name -/

namespace NameRules

variable (rules : NameRules) {name : Name}

/-- No rule is broken by the empty name. -/
theorem fault?_empty : rules.fault? "" = none := by
  have hsep : hasPathSeparator "" = false := by decide
  have harray : hasArraySyntax "" = false := by decide
  simp [fault?, hsep, harray, isReserved, Text.startsWith]

/-- A name that may be defined has the shape of a name that may be looked up, but for
being empty. -/
theorem isWellFormed_iff_of_fault? (h : rules.fault? name = none) :
    rules.isWellFormed name = true ↔ name ≠ "" := by
  unfold fault? at h
  unfold isWellFormed
  cases hsep : hasPathSeparator name with
  | true => simp [hsep] at h
  | false =>
      cases harray : !rules.allowArraySyntax && hasArraySyntax name with
      | true => simp [hsep, harray] at h
      | false =>
          have hshape : (rules.allowArraySyntax || !hasArraySyntax name) = true := by
            cases hallow : rules.allowArraySyntax <;> simp_all
          simp [hshape]

/-- The empty name, and it alone, may be defined but not looked up. -/
theorem definable_only_iff :
    (rules.fault? name = none ∧ rules.isWellFormed name = false) ↔ name = "" := by
  constructor
  · rintro ⟨hfault, hshape⟩
    by_contra hne
    rw [(rules.isWellFormed_iff_of_fault? hfault).2 hne] at hshape
    cases hshape
  · rintro rfl
    exact ⟨rules.fault?_empty, rfl⟩

end NameRules

/-! ## What a loader knows -/

/-- Is anything asked but for the locks of a loader? -/
def LoaderQuestion.goesBeyond (id : LoaderId) : LoaderQuestion → Bool
  | .enter loader _ => loader != id
  | .leave loader _ => loader != id
  | _ => true

section Known

variable {α : Type} {s : Loaders} {l : Loader} {name : Name} {m : Module}

/-- A loader ends a task in a postcondition and asks for nothing but its locks, while others
may at any time let loaders answer further names. -/
abbrev EndsAlone (l : Loader) (post : α → Prop) (p : LoaderTask α) (s : Loaders) : Prop :=
  p.Amid Grows (LoaderQuestion.goesBeyond l.id) s fun a _ t => post a ∧ t = []

/-- Taking a lock and letting go of it changes no answer. -/
theorem endsAlone_locked {body : LoaderTask α} {post : α → Prop}
    (hbody : ∀ s₁, s.Grows s₁ → EndsAlone l post body s₁) :
    EndsAlone l post (l.locked name body) s := by
  unfold Loader.locked
  refine amid_bind Grows.refl fun s₁ h₁ s₂ h₂ => ?_
  refine amid_bind Grows.refl fun s₃ h₃ _ s₄ h₄ => ?_
  have hlocked : s.Grows s₄ :=
    (h₁.trans (.beside (.lockFor s₁ l.id name))).trans (h₂.trans (h₃.trans h₄))
  refine amid_bind Grows.refl ((hbody s₄ hlocked).weaken fun a s₅ t ha => ?_)
  refine amid_bind Grows.refl fun s₆ _ _ s₇ _ s₈ _ => ?_
  simpa [LoaderQuestion.goesBeyond] using ha

/-- A loader that knows a name does not look further. -/
theorem endsAlone_lookUp (delegate : LoaderTask (Except LoadError Module))
    (h : s.loaded? l.id name = some m) :
    EndsAlone l (fun result => result = .ok m) (l.lookUp name delegate) s := by
  unfold Loader.lookUp
  refine amid_bind Grows.refl fun s₁ h₁ s₂ _ => ?_
  have hknown : s₁.loaded? l.id name = some m := h₁.loaded h
  simp only [hknown]
  exact fun _ _ => ⟨rfl, rfl⟩

/-- A loader that knows a name answers it by itself. -/
theorem endsAlone_resolve (hname : l.rules.isWellFormed name = true)
    (h : s.loaded? l.id name = some m) :
    EndsAlone l (fun result => result = .ok m) (l.resolve name false) s := by
  unfold Loader.resolve
  rw [if_pos hname]
  refine endsAlone_locked fun s₁ h₁ => ?_
  unfold Loader.resolveHeld
  have hlookUp := endsAlone_lookUp (l.delegate name) (h₁.loaded h)
  refine amid_bind Grows.refl (hlookUp.weaken fun result s₂ t hknown => ?_)
  obtain ⟨rfl, rfl⟩ := hknown
  exact fun _ _ => ⟨rfl, rfl⟩

end Known

/-! ## What a loader has defined -/

/-- At every point of a session, a loader is asked for a module that it has defined, while
others may make it and its like answer further names at any time.  It answers with that
very module and asks for nothing but its own lock, neither above nor beside it, unless the
name of the module is empty: that name may be defined under all rules, and may be looked
up under none. -/
theorem resolve_defined_iff {σ : loaderService.Session} (h : Reaches definerRules (.start {}) σ)
    {l : Loader} (hl : l ∈ σ.now.state.created) {m : Module} (hm : m ∈ σ.now.state.defined l.id)
    {E : Type} {answer : (q : LoaderQuestion) → Loaders → E → q.Answer × Loaders × E}
    (hanswer : ∀ q (s : Loaders) e, s.Grows (answer q s e).2.1) (e : E) :
    (((l.resolve m.name false).run answer σ.now.state e).1 = .ok m ↔ m.name ≠ "") ∧
      (((l.resolve m.name false).run answer σ.now.state e).1 = .error (.notFound "") ↔
        m.name = "") ∧
      (l.resolve m.name false).exchanges answer (LoaderQuestion.goesBeyond l.id) σ.now.state e =
        [] ∧
      ∀ (rules : NameRules) (name : Name),
        (rules.fault? name = none ∧ rules.isWellFormed name = false) ↔ name = "" := by
  have hwell := (agree_of_reaches h).well l hl
  have hshape := l.rules.isWellFormed_iff_of_fault? (hwell.permitted m hm)
  by_cases hempty : m.name = ""
  · have hrefused : l.resolve m.name false = .done (.error (.notFound "")) := by
      unfold Loader.resolve
      rw [hempty]
      rfl
    rw [hrefused]
    exact ⟨⟨nofun, absurd hempty⟩, ⟨fun _ => hempty, fun _ => rfl⟩, rfl,
      fun rules name => rules.definable_only_iff⟩
  · have hknown := endsAlone_resolve (hshape.2 hempty) (hwell.answered m hm)
    obtain ⟨hrun, hcalls⟩ := hknown.ends Grows.refl (fun q s e => hanswer q s e) e
    rw [hrun]
    exact ⟨⟨fun _ => hempty, fun _ => rfl⟩, ⟨nofun, fun h => absurd h hempty⟩, hcalls,
      fun rules name => rules.definable_only_iff⟩

/-! ## A module without a name -/

/-- One byte is defined under the empty name, and one under a name that the definer
finds. -/
def nameless : List loaderService.Move :=
  [.call (.create .base none {}), .answer (.mayCreate 0 .base) (.ok ()), .finish,
    .call (.define solitary (some "") [0] 0 1 none), .answer (.enter ⟨1⟩ ⟨1⟩) (),
    .answer (.produce 0 ⟨some "", [0], 0, 1, ⟨1, some {}⟩, ⟨1⟩⟩)
      (.ok ⟨0, "", ⟨1⟩, ⟨1, some {}⟩, 1⟩),
    .answer (.leave ⟨1⟩ ⟨1⟩) (), .finish,
    .call (.define solitary none [0] 0 1 none),
    .answer (.produce 0 ⟨none, [0], 0, 1, ⟨1, some {}⟩, ⟨1⟩⟩) (.ok outer),
    .answer (.enter ⟨1⟩ ⟨2⟩) (), .answer (.leave ⟨1⟩ ⟨2⟩) (), .finish]

theorem nameless_allowed : definerRules.AllowsAll nameless (.start {}) := by
  unfold nameless
  repeat' refine allowsAll_cons ?_ rfl ?_
  all_goals first
    | trivial
    | exact fun l hl => Option.some.inj hl ▸ List.mem_singleton_self _
    | exact nofun

/-- Both are defined, and the one without a name cannot be resolved. -/
theorem resolve_defined_unnamed :
    ∃ σ : loaderService.Session, Session.play nameless (.start {}) = some σ ∧
      σ.now.state.defined solitary.id = [⟨0, "", ⟨1⟩, ⟨1, some {}⟩, 1⟩, outer] ∧
      ((solitary.resolve "" false).run foundBelow σ.now.state ()).1 = .error (.notFound "") ∧
      ((solitary.resolve "a.B" false).run foundBelow σ.now.state ()).1 = .ok outer := by
  have hgrows : ∀ q (s : Loaders) e, s.Grows (foundBelow q s e).2.1 := by
    intro q s e
    cases q <;> exact ⟨fun _ hl => hl, fun hloaded => hloaded⟩
  have hreaches := reaches_of_play nameless_allowed rfl
  have hcreated : solitary ∈ [solitary] := List.mem_singleton_self _
  have hunnamed := resolve_defined_iff hreaches hcreated List.mem_cons_self hgrows ()
  have hnamed := resolve_defined_iff hreaches hcreated
    (List.mem_cons_of_mem _ List.mem_cons_self) hgrows ()
  exact ⟨_, rfl, rfl, hunnamed.2.1.2 rfl, hnamed.1.2 (by decide)⟩

end Loading
